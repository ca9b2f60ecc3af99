import GatherScatter.Buffer
import GatherScatter.Ranges

/-!
# Blocking of index arrays

A raw array has one row of `width` entries per element. In blocked form, `blockSize` elements
share a block and their entries are interleaved: lane `j` of entry `k` of block `b` stands at
`(b * width + k) * blockSize + j`. Lanes past the last element repeat the last element.
-/
namespace GatherScatter

/-- Number of blocks that cover `numElem` elements. Mirrors `num_blocks`. -/
def numBlocks (numElem blockSize : Nat) : Nat :=
  (numElem + (max blockSize 1 - 1)) / max blockSize 1

namespace Blocking

/-- Element that fills lane `j` of block `b`. -/
def laneElem (numElem blockSize b j : Nat) : Nat := min (b * blockSize + j) (numElem - 1)

/-- Blocked form of the array `what`: block after block, entry after entry and lane after lane, the
entry of the element in that lane is appended. Mirrors `permute_pad`. -/
def permutePad {β : Type} (src : Array β) (numElem width blockSize : Nat) (what : String) :
    Except Error (Array β) :=
  if blockSize = 0 then .error (.invalidParameter .noLanes)
  else if src.size ≠ numElem * width then .error (.arrayLength what (numElem * width) src.size)
  else
    (Ranges.triples (numBlocks numElem blockSize) width blockSize).foldlM
      (fun out (b, k, j) => do
        return out.push (← Buffer.read src (laneElem numElem blockSize b j * width + k)))
      #[]

/-- Blocked offsets: one per node. Mirrors `permute_pad_offsets`. -/
def permutePadOffsets (offsets : Array Int) (numElem elemSize blockSize : Nat) :
    Except Error (Array Int) :=
  permutePad offsets numElem elemSize blockSize "offsets"

/-- Blocked signs: one per node. Mirrors `permute_pad_orients`. -/
def permutePadSigns (signs : Array Bool) (numElem elemSize blockSize : Nat) :
    Except Error (Array Bool) :=
  permutePad signs numElem elemSize blockSize "orientation"

/-- Blocked curl rows: three entries per node. Mirrors `permute_pad_curl_orients`. -/
def permutePadCurl (rows : Array Int) (numElem elemSize blockSize : Nat) :
    Except Error (Array Int) :=
  permutePad rows numElem (3 * elemSize) blockSize "curl orientation"

end Blocking

end GatherScatter
