import GatherScatter.Backend
import GatherScatter.Reference.Points
import GatherScatter.Reference.Transfer

/-!
# The reference backend

Builds every kind of restriction in host memory and applies it with the operators of this folder.
-/
namespace GatherScatter.Reference

/-- Resource stem of the reference backend. -/
def stem : String := "/cpu/self/ref"

namespace Operator

/-- Compiles index data; `deterministic` asks for a transpose map where one applies. Mirrors `build`
of `RefBackend`. -/
def compile (deterministic : Bool) (s : Shape) (data : IndexData) : Except Error Operator := do
  data.mem.requireHost
  match data.offsets, s.effectiveStrides with
  | some offsets, _ =>
    let map ←
      if deterministic && s.blockSize == 1 && !s.isPoints then
        some <$> TransposeMap.build s offsets.entries
      else pure none
    return ⟨s, .offsets offsets.entries, data.orientation, map⟩
  | none, some strides => return ⟨s, .strided strides, data.orientation, none⟩
  | none, none => throw (.missingData "offsets")

/-- Offsets array, if the operator has one. Mirrors `offset_store`. -/
def offsets (op : Operator) : Except Error (Array Int) :=
  match op.indexing with
  | .offsets entries => .ok entries
  | .strided _ => .error (.missingData "offsets")

/-- Signs, if the operator has some. -/
def signs (op : Operator) : Except Error (Array Bool) :=
  match op.orientation with
  | .signs flips => .ok flips.entries
  | _ => .error (.missingData "orientation")

/-- Curl rows, if the operator has some. -/
def curlRows (op : Operator) : Except Error (Array Int) :=
  match op.orientation with
  | .curl rows => .ok rows.entries
  | _ => .error (.missingData "curl orientation")

/-- Applies to single elements are for points, to blocks for all others; an array can be had if it
is there. Mirrors `supports` of `RefRestriction`. -/
def supports (op : Operator) : Capability → Bool
  | .applyAtPointsInElement => op.shape.isPoints
  | .applyBlock => !op.shape.isPoints
  | .getOffsets => op.offsets.isOk
  | .getOrientations => op.signs.isOk
  | .getCurlOrientations => op.curlRows.isOk
  | _ => true

/-- E-vector layout: element-major without blocks, lane-major with them, none for points. Mirrors
`e_layout`. -/
def eLayout (op : Operator) : Option Strides :=
  let s := op.shape
  if s.isPoints then none
  else if s.blockSize = 1 then some (.packed s.elemSize s.numComp)
  else some ⟨s.blockSize, s.elemSize * s.blockSize, 1⟩

variable {α : Type} [Add α] [Mul α] [IntCast α]

/-- Full apply. Mirrors `apply` of `RefRestriction`. -/
def apply (op : Operator) (mode : Mode) (d : Direction) (u v : Array α) :
    Except Error (Array α) := do
  if op.shape.isPoints then Points.transfer op.shape (← op.offsets) d u v
  else
    match d, op.map with
    | .forward, _ => op.gather mode u v
    | .transpose, some m => op.scatterMapped m mode u v
    | .transpose, none => op.scatter mode u v

/-- Apply to block `b` alone. Mirrors `apply_block`. -/
def applyBlock (op : Operator) (resource : String) (b : Nat) (mode : Mode) (d : Direction)
    (u v : Array α) : Except Error (Array α) :=
  if op.shape.isPoints then .error (.unsupported Capability.applyBlock.hook resource)
  else
    match d with
    | .forward => op.gatherBlock mode b u 0 v
    | .transpose => op.scatterBlock mode b u 0 v

/-- Apply to the points of element `elem` alone. Mirrors `apply_at_points_in_element`. -/
def applyAtPoints (op : Operator) (resource : String) (elem : Nat) (d : Direction)
    (u v : Array α) : Except Error (Array α) := do
  if op.shape.isPoints then
    let points ← Points.ofElement op.shape (← op.offsets) elem
    Points.transferElement op.shape points 0 d u v
  else .error (.unsupported Capability.applyAtPointsInElement.hook resource)

end Operator

variable {σ α : Type} [Add α] [Mul α] [IntCast α]

/-- The hooks of a compiled operator. -/
def compiled (resource : String) (op : Operator) : Compiled σ α where
  resource := resource
  supports := op.supports
  eLayout := op.eLayout
  apply mode d u v := .ofExcept (op.apply mode d u v)
  applyBlock b mode d u v := .ofExcept (op.applyBlock resource b mode d u v)
  applyAtPoints elem d u v := .ofExcept (op.applyAtPoints resource elem d u v)
  offsets mem := .ofExcept do mem.requireHost; op.offsets
  orientations mem := .ofExcept do mem.requireHost; op.signs
  curlOrientations mem := .ofExcept do mem.requireHost; op.curlRows

/-- The reference backend for `resource`. Mirrors `RefBackend`. -/
def backend (resource : String) : Backend σ α where
  resource := resource
  supports c := c ∈ [Capability.createStandard, .createBlocked, .createAtPoints]
  fill := ((0 : Int) : α)
  create _ config s data :=
    .ofExcept (compiled resource <$> Operator.compile config.deterministic s data)

end GatherScatter.Reference
