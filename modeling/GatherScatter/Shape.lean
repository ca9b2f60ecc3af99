import GatherScatter.Blocking
import GatherScatter.Capability
import GatherScatter.Size

/-!
# Shapes

The static data of a restriction, fixed at creation: its kind, its sizes and its strides. All
queries that need no index data are functions of the shape.
-/
namespace GatherScatter

/-- How a restriction finds its entries in the L-vector. Mirrors `RestrictionType`. -/
inductive Kind where
  /-- By an offset per node. -/
  | standard
  /-- By an offset and a sign per node. -/
  | oriented
  /-- By an offset and a tridiagonal row per node. -/
  | curlOriented
  /-- By three strides. -/
  | strided
  /-- By a list of points per element. -/
  | points
  deriving DecidableEq

namespace Kind

def all : List Kind := [standard, oriented, curlOriented, strided, points]

/-- Name in plain form. -/
def name : Kind → String
  | standard => "Standard"
  | oriented => "Oriented"
  | curlOriented => "CurlOriented"
  | strided => "Strided"
  | points => "Points"

/-- Operations per E-vector entry of one apply. Mirrors `flops_scale`. -/
def flopsPerEntry : Direction → Kind → Nat
  | .forward, oriented => 1
  | .forward, curlOriented => 5
  | .forward, _ => 0
  | .transpose, points => 0
  | .transpose, standard | .transpose, strided => 1
  | .transpose, oriented => 2
  | .transpose, curlOriented => 6

end Kind

/-- Static data of a restriction. Mirrors `RestrictionShape`. -/
structure Shape where
  kind : Kind
  numElem : Nat
  /-- Nodes per element; for points, the largest number of points of an element. -/
  elemSize : Nat
  numComp : Nat
  /-- Distance in the L-vector between the components of a node. -/
  compStride : Nat
  lSize : Nat
  eSize : Nat
  blockSize : Nat
  numBlock : Nat
  /-- Point entries of all elements together. -/
  numPoints : Nat
  /-- As given at creation; only strided restrictions have them. -/
  strides : Option Strides
  deriving DecidableEq

namespace Shape

def isStrided (s : Shape) : Bool := s.kind == .strided

def isPoints (s : Shape) : Bool := s.kind == .points

def isBlocked (s : Shape) : Bool := decide (1 < s.blockSize)

/-- Strides that address the L-vector: unset ones are packed. Mirrors `effective_strides`. -/
def effectiveStrides (s : Shape) : Option Strides :=
  s.strides.map fun t => if t = .unset then .packed s.elemSize s.numComp else t

/-- Number of elements, padding lanes included. Mirrors `padded_num_elem`. -/
def paddedNumElem (s : Shape) : Nat := s.numBlock * s.blockSize

/-- Number of lanes of block `b` that hold an element. Mirrors `active_lanes`. -/
def activeLanes (s : Shape) (b : Nat) : Nat := min (s.numElem - b * s.blockSize) s.blockSize

/-- Number of E-vector entries of one block. Mirrors `block_len`. -/
def blockLen (s : Shape) : Nat := s.blockSize * s.elemSize * s.numComp

/-- Number of E-vector entries of one block as it is computed without a check. -/
def wrappedBlockLen (s : Shape) : Nat :=
  Size.wrapMul (Size.wrapMul s.blockSize s.elemSize) s.numComp

theorem wrappedBlockLen_eq (s : Shape) : s.wrappedBlockLen = s.blockLen % indexLimit :=
  Size.wrapMul_wrapMul _ _ _

theorem wrappedBlockLen_of_lt {s : Shape} (h : s.blockLen < indexLimit) :
    s.wrappedBlockLen = s.blockLen := by
  rw [wrappedBlockLen_eq, Nat.mod_eq_of_lt h]

/-- Number of E-vector entries that the sizes imply. -/
def entryCount (s : Shape) : Nat :=
  if s.isPoints then s.numPoints * s.numComp
  else s.numBlock * s.blockSize * s.elemSize * s.numComp

/-- Operations of one full apply. Mirrors `flops_estimate`. -/
def flops (s : Shape) (d : Direction) : Nat := s.kind.flopsPerEntry d * s.entryCount

/-- Length of the output and of the input of an apply with `eLen` entries on the element side.
Mirrors `shape_for`. -/
def sides (s : Shape) (d : Direction) (eLen : Nat) : Nat × Nat :=
  match d with
  | .forward => (eLen, s.lSize)
  | .transpose => (s.lSize, eLen)

/-- One line for people. -/
def describe (s : Shape) : String :=
  if s.isPoints then
    s!"CeedElemRestriction at points from ({s.lSize}, {s.numComp}) to {s.numElem} elements" ++
      s!" with a maximum of {s.elemSize} points on an element"
  else
    (if s.isBlocked then "Blocked " else "") ++
      s!"CeedElemRestriction from ({s.lSize}, {s.numComp}) to {s.numElem} elements" ++
      s!" with {s.elemSize} nodes each and " ++
      match s.strides with
      | some t => s!"strides {t.text}"
      | none => s!"component stride {s.compStride}"

/-- First broken rule, if any, of a shape whose descriptor has `refCount` references. Mirrors
`validate_invariants`. -/
def validate (s : Shape) (refCount : Nat) : Except Error Unit :=
  if s.eSize ≠ s.entryCount then
    .error (.invalidParameter (.eSizeMismatch s.eSize s.entryCount))
  else if s.numBlock * s.blockSize < s.numElem then
    .error (.invalidParameter (.blocksShort s.numBlock s.blockSize s.numElem))
  else if s.strides.isSome ≠ s.isStrided then .error (.invalidParameter .stridesMisplaced)
  else if refCount = 0 then .error (.access .noReferences)
  else .ok ()

end Shape

end GatherScatter
