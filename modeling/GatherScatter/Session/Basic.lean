import GatherScatter.Creation.Spec
import GatherScatter.Slots

/-!
# Sessions

A session holds the descriptors of all restrictions made so far, the named handles on them and the
named views of their index arrays. Descriptors are known by their place in the table and stay
there; a released one only loses its data. A descriptor is a root, which owns a backend's data, or
is derived from another one, whose data it uses.

* `Act`: an operation of a session. What it changed before it failed stays changed.
* `Session.withData`: runs a hook on the data of a descriptor's root.
-/
namespace GatherScatter

/-- One restriction. Mirrors `RestrictionCore`. -/
structure Descriptor (σ α : Type) where
  /-- The context that built it. -/
  context : Context σ α
  shape : Shape
  eLayout : Option Strides
  mode : Mode
  /-- The descriptors it is derived from, the closest first; none for a root. -/
  ancestors : List Nat
  /-- Handles on it and descriptors derived from it. -/
  refCount : Nat
  /-- Array views checked out; counted at the root. -/
  readers : Nat
  /-- Backend data; only a root has any, until it is released. -/
  data : Option (Compiled σ α)

namespace Descriptor

variable {σ α : Type}

def isDerived (d : Descriptor σ α) : Bool := !d.ancestors.isEmpty

/-- Root of descriptor `d`, which stands at `id`. Mirrors `root`. -/
def root (d : Descriptor σ α) (id : Nat) : Nat := d.ancestors.getLastD id

end Descriptor

/-- Entries of an index array. -/
inductive ArrayContent where
  | offsets (entries : Array Int)
  | orientations (entries : Array Bool)
  | curlOrientations (entries : Array Int)
  deriving DecidableEq

/-- A read-only view of an index array; counts as a reader at a root. Mirrors `ArrayView`. -/
structure ArrayView where
  root : Nat
  content : ArrayContent
  deriving DecidableEq

namespace ArrayView

def size (v : ArrayView) : Nat :=
  match v.content with
  | .offsets a | .curlOrientations a => a.size
  | .orientations a => a.size

def describe (v : ArrayView) : String := "ArrayView \x7b len: " ++ toString v.size ++ " \x7d"

end ArrayView

/-- Everything that operations change. `world` is the state of the backends. -/
structure Session (σ α : Type) where
  registry : Registry σ α
  world : σ
  nextSerial : Nat := 0
  table : Array (Descriptor σ α) := #[]
  handles : Slots Nat := {}
  views : Slots ArrayView := {}

/-- Why an operation gives no result. -/
inductive Failure where
  /-- A slot that it needs is empty. -/
  | emptySlot
  | error (e : Error)
  deriving DecidableEq

/-- An operation of a session. -/
abbrev Act (σ α β : Type) := ExceptT Failure (StateM (Session σ α)) β

namespace Session

variable {σ α β : Type}

/-- Fails for a reason of the domain. -/
def fail (e : Error) : Act σ α β := throw (.error e)

/-- A result that is already there. -/
def ofExcept : Except Error β → Act σ α β
  | .ok b => pure b
  | .error e => fail e

/-- Runs a computation of a backend. -/
def effect (x : Effect σ β) : Act σ α β := do
  let s ← get
  let (r, world) := x.run.run s.world
  set { s with world := world }
  ofExcept r

/-- Descriptor at `id`; every handle and every ancestor is at one. -/
def descriptor (id : Nat) : Act σ α (Descriptor σ α) := do
  match (← get).table[id]? with
  | some d => pure d
  | none => throw .emptySlot

/-- Changes the descriptor at `id`. -/
def modifyDescriptor (id : Nat) (f : Descriptor σ α → Descriptor σ α) : Act σ α Unit :=
  modify fun s => { s with table := s.table.modify id f }

/-- Adds a descriptor; gives its place. -/
def addDescriptor (d : Descriptor σ α) : Act σ α Nat := do
  let s ← get
  set { s with table := s.table.push d }
  return s.table.size

/-- Descriptor behind a handle. -/
def held (name : String) : Act σ α Nat := do
  match (← get).handles.get? name with
  | some id => pure id
  | none => throw .emptySlot

/-- Runs `f` on the data of the root of the descriptor at `id`. Mirrors `with_impl`. -/
def withData (id : Nat) (f : Compiled σ α → Effect σ β) : Act σ α β := do
  let d ← descriptor id
  let r ← descriptor (d.root id)
  match r.data with
  | some c => effect (f c)
  | none => fail (.access .dataReleased)

/-- Runs `f` on the data if the data have the capability. -/
def withCapability (id : Nat) (cap : Capability) (f : Compiled σ α → Effect σ β) : Act σ α β :=
  withData id fun c => if c.supports cap then f c else .unsupported cap c.resource

/-- Runs an operation; a failure is kept silent. -/
def silently (x : Act σ α Unit) : Act σ α Unit := tryCatch x fun _ => pure ()

/-- Initialises a context and its delegates, `limit` contexts at most. Mirrors `with_config`. -/
def openContext (limit : Nat) (config : Config) : Act σ α (Option (Context σ α)) := do
  let s ← get
  match ← effect (s.registry.openWithin limit config) with
  | none => return none
  | some chain =>
    modify fun s => { s with nextSerial := s.nextSerial + chain.toList.length }
    return some ⟨chain, s.nextSerial⟩

/-- Registers a backend. Mirrors `register_backend`. -/
def register (e : Entry σ α) : Act σ α Unit := do
  let s ← get
  let registry ← ofExcept (s.registry.register e)
  set { s with registry := registry }

end Session

end GatherScatter
