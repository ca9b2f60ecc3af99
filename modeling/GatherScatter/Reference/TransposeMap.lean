import GatherScatter.Shape

/-!
# Transpose maps

For an unblocked offset-based restriction, the E-vector entries that read each L-vector entry, in
increasing order, in compressed rows: the readers of `l` are `indices[starts[l], starts[l + 1])`.
The map is built by counting: count the readers of each entry, sum up the counts to the starts of
the rows, and file every E-vector entry at the cursor of its row.
-/
namespace GatherScatter.Reference

/-- An L-vector index as an offset and a component address it; a negative offset is refused. -/
def offsetAddress (s : Shape) (elem node : Nat) (offset : Int) (k : Nat) : Except Error Nat :=
  match offset with
  | .ofNat o => .ok (o + k * s.compStride)
  | .negSucc _ => .error (.offsetOutOfRange elem node offset s.lSize)

/-- Readers of each L-vector entry, in compressed rows. Mirrors `TransposeMap`. -/
structure TransposeMap where
  starts : Array Nat
  indices : Array Nat
  deriving DecidableEq

namespace TransposeMap

/-- An L-vector entry and an E-vector entry that reads it. -/
structure Link where
  source : Nat
  reader : Nat
  deriving DecidableEq

/-- Link of node `n`, component `k` of element `e`. -/
def link (s : Shape) (offsets : Array Int) (e k n : Nat) : Except Error Link := do
  let o ← Buffer.read offsets (e * s.elemSize + n)
  let l ← offsetAddress s e n o k
  return ⟨l, e * s.elemSize * s.numComp + k * s.elemSize + n⟩

/-- Elements, components and nodes in the order of the E-vector. -/
def triples (s : Shape) : List (Nat × Nat × Nat) :=
  (List.range s.numElem).flatMap fun e =>
    (List.range s.numComp).flatMap fun k =>
      (List.range s.elemSize).map fun n => (e, k, n)

/-- All links, in the order of the E-vector. -/
def links (s : Shape) (offsets : Array Int) : Except Error (List Link) :=
  (triples s).mapM fun t => link s offsets t.1 t.2.1 t.2.2

/-- Number of readers of entry `l`, filed at `l + 1`. -/
def counts (lSize : Nat) (ls : List Link) : Except Error (Array Nat) :=
  ls.foldlM
    (fun c x => do
      let n ← Buffer.read c (x.source + 1)
      Buffer.write c (x.source + 1) (n + 1))
    (Array.replicate (lSize + 1) 0)

/-- Sums up from the left, in place. -/
def accumulate (lSize : Nat) (c : Array Nat) : Except Error (Array Nat) :=
  (List.range lSize).foldlM
    (fun c i => do
      let a ← Buffer.read c i
      let b ← Buffer.read c (i + 1)
      Buffer.write c (i + 1) (b + a))
    c

/-- Files every reader at the cursor of its row. -/
def place (starts : Array Nat) (total : Nat) (ls : List Link) : Except Error (Array Nat) := do
  let (_, indices) ← ls.foldlM
    (fun (cursor, indices) x => do
      let i ← Buffer.read cursor x.source
      let indices ← Buffer.write indices i x.reader
      let cursor ← Buffer.write cursor x.source (i + 1)
      return (cursor, indices))
    (starts, Array.replicate total 0)
  return indices

/-- The transpose map of a shape and its offsets. Mirrors `build` of `TransposeMap`. -/
def build (s : Shape) (offsets : Array Int) : Except Error TransposeMap := do
  let ls ← links s offsets
  let starts ← accumulate s.lSize (← counts s.lSize ls)
  let indices ← place starts (s.numElem * s.elemSize * s.numComp) ls
  return ⟨starts, indices⟩

/-- E-vector entries that read `l`. Mirrors `readers_of`. -/
def readersOf (m : TransposeMap) (l : Nat) : Except Error (Array Nat) := do
  Buffer.slice m.indices (← Buffer.read m.starts l) (← Buffer.read m.starts (l + 1))

end TransposeMap

end GatherScatter.Reference
