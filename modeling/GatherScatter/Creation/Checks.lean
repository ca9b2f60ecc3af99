import GatherScatter.Shape
import GatherScatter.Size

/-!
# Checks of creation

Sizes and index data are checked before a backend sees them. Each check either passes or names the
first thing that is wrong.
-/
namespace GatherScatter.Creation

/-- Sizes that must be positive. Mirrors `check_sizes`. -/
def checkSizes (elemSize blockSize numComp compStride : Nat) : Except Error Unit :=
  if elemSize < 1 then .error (.invalidParameter .noNodes)
  else if blockSize < 1 then .error (.invalidParameter .noLanes)
  else if numComp < 1 then .error (.invalidParameter .noComponents)
  else if 1 < numComp ∧ compStride < 1 then .error (.invalidParameter .noCompStride)
  else .ok ()

/-- The length of an array. Mirrors `check_len`. -/
def checkLength (what : String) (found expected : Nat) : Except Error Unit :=
  if found = expected then .ok () else .error (.arrayLength what expected found)

/-- Whether an offset, moved by `shift`, misses the L-vector. -/
def outside (lSize shift : Nat) (offset : Int) : Bool :=
  match offset with
  | .ofNat o => decide (lSize ≤ o + shift)
  | .negSucc _ => true

/-- Every offset must address the L-vector, also in the last component. Mirrors `check_offsets`. -/
def checkOffsets (offsets : Array Int) (elemSize numComp compStride lSize : Nat) :
    Except Error Unit := do
  let lastComp ← Size.product "component stride" [numComp - 1, compStride]
  if 1 < numComp ∧ lSize ≤ lastComp then
    throw (.invalidParameter (.componentOutside compStride (numComp - 1) lSize))
  match offsets.toList.zipIdx.find? fun x => outside lSize lastComp x.1 with
  | some (offset, i) => throw (.offsetOutOfRange (i / elemSize) (i % elemSize) offset lSize)
  | none => return

/-- Largest index that the strides address, if every step to it is a size. -/
def lastAddress? (numElem elemSize numComp : Nat) (s : Strides) : Option Nat := do
  let node ← Size.mul? (elemSize - 1) s.node
  let comp ← Size.mul? (numComp - 1) s.comp
  let elem ← Size.mul? (numElem - 1) s.elem
  Size.add? (← Size.add? node comp) elem

/-- The L-vector must have room for all entries, and the strides must stay inside it. Mirrors
`check_strides`. -/
def checkStrides (numElem elemSize numComp lSize : Nat) (s : Strides) : Except Error Unit := do
  let product := "num_elem * elem_size * num_comp"
  let needed ← Size.product product [numElem, elemSize, numComp]
  if lSize < needed then throw (.invalidParameter (.lSizeBelow lSize product needed))
  if s ≠ .unset ∧ 0 < numElem then
    match lastAddress? numElem elemSize numComp s with
    | none => throw (.invalidParameter (.overflow "strides"))
    | some last =>
      if lSize ≤ last then throw (.invalidParameter (.stridesOutside s last lSize))

/-- Largest step between consecutive range starts; fails at the first step down. -/
def largestStep : List Int → Nat → Nat → Except Error Nat
  | a :: b :: rest, elem, best =>
    if b < a then .error (.invalidParameter (.decreasingRange elem))
    else largestStep (b :: rest) (elem + 1) (max best (b - a).toNat)
  | _, _, best => .ok best

/-- Last of the range starts that is at most `i`; the first one if there is none. -/
def elementAt (starts : List Int) (i : Nat) : Nat :=
  match starts.zipIdx.reverse.find? fun x => x.1 ≤ (i : Int) with
  | some (_, elem) => elem
  | none => 0

/-- Range starts must rise from the end of the starts to the end of the array, and points must be
inside the L-vector. Gives the largest number of points of an element. Mirrors `check_points`. -/
def checkPoints (offsets : Array Int) (numElem numPoints numComp lSize : Nat) :
    Except Error Nat := do
  let head ← Size.sum "num_elem" numElem 1
  let total ← Size.sum "num_elem + num_points" head numPoints
  checkLength "points offsets" offsets.size total
  let first ← Buffer.read offsets 0
  let last ← Buffer.read offsets numElem
  if first ≠ head ∨ last ≠ offsets.size then
    throw (.invalidParameter (.pointSpan head offsets.size first last))
  let maxPoints ← largestStep (offsets.toList.take head) 0 0
  match (offsets.toList.drop head).zipIdx.find? fun x => outside (lSize / numComp) 0 x.1 with
  | some (point, i) =>
    let elem := elementAt (offsets.toList.take numElem) (head + i)
    let start ← Buffer.read offsets elem
    throw (.offsetOutOfRange elem (head + i - start.toNat) point lSize)
  | none => return maxPoints

end GatherScatter.Creation
