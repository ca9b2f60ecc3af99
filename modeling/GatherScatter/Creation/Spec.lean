import GatherScatter.Context
import GatherScatter.Creation.Checks

/-!
# Creation of restrictions

A `Spec` is the request for a restriction: offset-based, strided or onto points. It is built by the
first context of the chain that can build its kind. That context is found first, then the request
is checked and turned into a shape and index data (`Spec.plan`), and only then is the backend
called, once.
-/
namespace GatherScatter

/-- Request for an offset-based restriction. -/
structure OffsetSpec where
  numElem : Nat
  elemSize : Nat
  blockSize : Nat := 1
  numComp : Nat
  compStride : Nat
  lSize : Nat
  mem : MemKind := .host
  offsets : IndexArray Int
  orientation : Orientation := .plain

/-- Request for a strided restriction. -/
structure StridedSpec where
  numElem : Nat
  elemSize : Nat
  blockSize : Nat := 1
  numComp : Nat
  lSize : Nat
  strides : Strides

/-- Request for a restriction onto points. -/
structure PointsSpec where
  numElem : Nat
  numPoints : Nat
  numComp : Nat
  lSize : Nat
  mem : MemKind := .host
  offsets : IndexArray Int

/-- Request for a restriction. -/
inductive Spec where
  | offsets (s : OffsetSpec)
  | strided (s : StridedSpec)
  | points (s : PointsSpec)

/-- Kind of an offset-based restriction with this orientation. -/
def Orientation.kind : Orientation → Kind
  | plain => .standard
  | signs _ => .oriented
  | curl _ => .curlOriented

/-- Shape of a restriction whose elements all have `elemSize` nodes. Mirrors `offset_shape`. -/
def Shape.blocked (kind : Kind) (numElem elemSize blockSize numComp compStride lSize : Nat)
    (strides : Option Strides) : Except Error Shape := do
  let numBlock := numBlocks numElem blockSize
  let eSize ← Size.product "E-vector size" [numBlock, blockSize, elemSize, numComp]
  return ⟨kind, numElem, elemSize, numComp, compStride, lSize, eSize, blockSize, numBlock, 0,
    strides⟩

namespace OffsetSpec

/-- Lengths of the arrays. -/
def checkLengths (s : OffsetSpec) : Except Error Unit := do
  let n ← Size.product "num_elem * elem_size" [s.numElem, s.elemSize]
  Creation.checkLength "offsets" s.offsets.size n
  match s.orientation with
  | .plain => return
  | .signs flips => Creation.checkLength "orientation" flips.size n
  | .curl rows => do
    let expected ← Size.product "curl orientation length" [3, n]
    Creation.checkLength "curl orientation" rows.size expected

/-- Orientation in blocked form. -/
def blockedOrientation (s : OffsetSpec) : Except Error Orientation :=
  match s.orientation with
  | .plain => .ok .plain
  | .signs flips => do
    let out ← Blocking.permutePadSigns flips.entries s.numElem s.elemSize s.blockSize
    return .signs (.owned out)
  | .curl rows => do
    let out ← Blocking.permutePadCurl rows.entries s.numElem s.elemSize s.blockSize
    return .curl (.owned out)

/-- Index arrays as the backend receives them. -/
def data (s : OffsetSpec) : Except Error IndexData :=
  if 1 < s.blockSize then do
    let offsets ← Blocking.permutePadOffsets s.offsets.entries s.numElem s.elemSize s.blockSize
    let orientation ← s.blockedOrientation
    return ⟨s.mem, some (.owned offsets), orientation⟩
  else .ok ⟨s.mem, some s.offsets, s.orientation⟩

/-- Sizes, then lengths, then offsets, if they can be read, then the E-vector's size. Mirrors
`create_offset_based`. -/
def plan (s : OffsetSpec) : Except Error (Shape × IndexData) := do
  Creation.checkSizes s.elemSize s.blockSize s.numComp s.compStride
  s.checkLengths
  if s.mem = .host then
    Creation.checkOffsets s.offsets.entries s.elemSize s.numComp s.compStride s.lSize
  let shape ← Shape.blocked s.orientation.kind s.numElem s.elemSize s.blockSize s.numComp
    s.compStride s.lSize none
  return (shape, ← s.data)

end OffsetSpec

/-- Sizes, then strides, then the E-vector's size; there are no index arrays. Mirrors
`create_strided_impl`. -/
def StridedSpec.plan (s : StridedSpec) : Except Error (Shape × IndexData) := do
  Creation.checkSizes s.elemSize s.blockSize s.numComp 1
  Creation.checkStrides s.numElem s.elemSize s.numComp s.lSize s.strides
  let shape ← Shape.blocked .strided s.numElem s.elemSize s.blockSize s.numComp 1 s.lSize
    (some s.strides)
  return (shape, {})

/-- Sizes, then offsets; those in device memory are only counted. Mirrors `create_at_points`. -/
def PointsSpec.plan (s : PointsSpec) : Except Error (Shape × IndexData) := do
  if s.numComp < 1 then throw (.invalidParameter .noComponents)
  let product := "num_points * num_comp"
  let eSize ← Size.product product [s.numPoints, s.numComp]
  if s.lSize < eSize then throw (.invalidParameter (.lSizeBelow s.lSize product eSize))
  let maxPoints ←
    match s.mem with
    | .host => Creation.checkPoints s.offsets.entries s.numElem s.numPoints s.numComp s.lSize
    | .device => do
      let total ← Size.sum "num_elem + num_points" (s.numElem + 1) s.numPoints
      Creation.checkLength "points offsets" s.offsets.size total
      pure 0
  return (⟨.points, s.numElem, maxPoints, s.numComp, 1, s.lSize, eSize, 1, s.numElem, s.numPoints,
    none⟩, ⟨s.mem, some s.offsets, .plain⟩)

namespace Spec

/-- The hook that builds the request. -/
def construction : Spec → Construction
  | offsets s => if 1 < s.blockSize then .blocked else .standard
  | strided s => if 1 < s.blockSize then .blocked else .standard
  | points _ => .atPoints

/-- Shape and index data of a valid request. -/
def plan : Spec → Except Error (Shape × IndexData)
  | offsets s => s.plan
  | strided s => s.plan
  | points s => s.plan

end Spec

/-- Builds a restriction with the hook of the first context that has it; gives that context, the
shape and the backend's data. Mirrors `build`. -/
def Context.build {σ α : Type} (ctx : Context σ α) (construction : Construction) (shape : Shape)
    (data : IndexData) : Effect σ (Context σ α × Shape × Compiled σ α) := do
  let target ← Effect.ofExcept (ctx.resolve construction.capability)
  let compiled ← target.head.backend.create construction target.config shape data
  return (target, shape, compiled)

/-- Creates a restriction: the context that builds it is there before the request is checked. -/
def Context.create {σ α : Type} (ctx : Context σ α) (spec : Spec) :
    Effect σ (Context σ α × Shape × Compiled σ α) := do
  let target ← Effect.ofExcept (ctx.resolve spec.construction.capability)
  let (shape, data) ← Effect.ofExcept spec.plan
  target.build spec.construction shape data

end GatherScatter
