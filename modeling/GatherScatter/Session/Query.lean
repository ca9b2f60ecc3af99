import GatherScatter.Session.ArrayViews

/-!
# Queries

What can be asked of a restriction. Queries about single elements check the offsets out and give
them back.
-/
namespace GatherScatter

namespace Descriptor

variable {σ α : Type}

/-- Strides as given at creation. Mirrors `strides`. -/
def strides (d : Descriptor σ α) : Except Error Strides :=
  match d.shape.strides with
  | some t => .ok t
  | none => .error (.missingData "stride")

/-- Whether the strides were left to the backend. Mirrors `has_backend_strides`. -/
def hasUnsetStrides (d : Descriptor σ α) : Except Error Bool :=
  return (← d.strides) = .unset

/-- Strides of the E-vector. Mirrors `e_layout`. -/
def layout (d : Descriptor σ α) : Except Error Strides :=
  match d.eLayout with
  | some t => .ok t
  | none => .error (.missingData "E-vector layout")

/-- A new vector as long as the L-vector. Mirrors `create_l_vector`. -/
def lVector (d : Descriptor σ α) : Array α := d.context.vector d.shape.lSize

/-- A new vector as long as the E-vector. Mirrors `create_e_vector`. -/
def eVector (d : Descriptor σ α) : Array α := d.context.vector d.shape.eSize

def validate (d : Descriptor σ α) : Except Error Unit := d.shape.validate d.refCount

end Descriptor

/-- Only a restriction onto points allows the action. Mirrors `require_points`. -/
def Shape.requirePoints (s : Shape) (action : String) : Except Error Unit :=
  if s.isPoints then .ok () else .error (.incompatible (.notPoints action))

/-- Point entries of all elements together. Mirrors `num_points`. -/
def Shape.totalPoints (s : Shape) : Except Error Nat := do
  s.requirePoints "get the number of points"
  return s.numPoints

/-- Number of points between two consecutive range starts. -/
def pointsBetween (offsets : Array Int) (elem : Nat) : Except Error Nat := do
  let first ← Buffer.read offsets elem
  let last ← Buffer.read offsets (elem + 1)
  return (last - first).toNat

/-- Largest number of points of the first `numElem` elements. -/
def largestPoints (offsets : Array Int) (numElem : Nat) : Except Error Nat :=
  (List.range numElem).foldlM (fun best elem => return max best (← pointsBetween offsets elem)) 0

namespace Session

variable {σ α : Type}

/-- Checks out the offsets of the restriction at `id`, asks `f` and gives them back. -/
def withOffsets {β : Type} (id : Nat) (f : Array Int → Except Error β) : Act σ α β := do
  let (root, offsets) ← takeArray id .getOffsets fun c => c.offsets .host
  giveBack root
  ofExcept (f offsets)

/-- Number of points of element `elem` of the restriction at `id`. Mirrors
`num_points_in_element`. -/
def pointsInElementAt (id elem : Nat) : Act σ α Nat := do
  let r ← descriptor id
  ofExcept (r.shape.requirePoints "get the number of points in an element")
  if r.shape.numElem ≤ elem then fail (.elementOutOfRange elem r.shape.numElem)
  withOffsets id fun offsets => pointsBetween offsets elem

/-- Number of points of element `elem` of the restriction `name`. -/
def pointsInElement (name : String) (elem : Nat) : Act σ α Nat := do
  pointsInElementAt (← held name) elem

/-- Largest number of points of an element of the restriction `name`. Mirrors
`max_points_in_element`. -/
def maxPoints (name : String) : Act σ α Nat := do
  let id ← held name
  let r ← descriptor id
  ofExcept (r.shape.requirePoints "compute max points")
  withOffsets id fun offsets => largestPoints offsets r.shape.numElem

/-- The restriction behind a handle. -/
def restriction (name : String) : Act σ α (Descriptor σ α) := do
  descriptor (← held name)

/-- Readers of the data of the restriction `name`. Mirrors `num_readers`. -/
def readers (name : String) : Act σ α Nat := do
  let id ← held name
  return (← descriptor ((← descriptor id).root id)).readers

end Session

end GatherScatter
