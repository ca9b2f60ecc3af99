import GatherScatter.Reference.Operator
import GatherScatter.Scalar

/-!
# Gather and scatter by blocks

The forward apply overwrites every entry of the E-vector, padding lanes included; the transposed
apply adds every entry of the E-vector but the padding lanes to the L-vector. Both walk the blocks
in order and in each block the components, nodes and lanes. A transposed apply through a transpose
map walks the L-vector instead and adds, for each of its entries, the readers in order.

* `gathered_eq`, `scattered_eq`: which weights and which values make up one entry, in which order.
-/
namespace GatherScatter.Reference.Operator

variable {α : Type} [Add α]

/-- Sum of a term and of further terms, added from left to right. -/
def sumTerms (term : Nat → Except Error α) (first : Nat) (rest : List Nat) : Except Error α := do
  rest.foldlM (fun acc m => return acc + (← term m)) (← term first)

/-- The terms of a node and its neighbours, spelled out: the node itself comes first, then the node
before it and the node after it, where they exist and enter. -/
theorem sumTerms_neighbours (op : Operator) (mode : Mode) (term : Nat → Except Error α) (n : Nat) :
    sumTerms term n (op.neighbours mode n) =
      if op.isCoupled mode then do
        let mut acc ← term n
        if 0 < n then acc := acc + (← term (n - 1))
        if n + 1 < op.shape.elemSize then acc := acc + (← term (n + 1))
        return acc
      else term n := by
  unfold sumTerms neighbours
  by_cases hc : op.isCoupled mode
  · by_cases h0 : 0 < n <;> by_cases h1 : n + 1 < op.shape.elemSize <;> simp [hc, h0, h1]
  · simp [hc]

variable [Mul α] [IntCast α]

/-- Value of an E-vector entry: the weighted L-vector entries of the node and its neighbours. -/
def gathered (op : Operator) (mode : Mode) (u : Array α) (b : Nat) (c : Cell) : Except Error α :=
  sumTerms
    (fun m => do
      let w ← op.weight mode b c.node m c.lane
      return w * (← Buffer.read u (← op.address b c.comp m c.lane)))
    c.node (op.neighbours mode c.node)

/-- What an E-vector entry adds to its L-vector entry: the weighted entries of the node and its
neighbours, with the weights transposed. Block `b` starts at `base` in `u`. Mirrors
`transposed_value`. -/
def scattered (op : Operator) (mode : Mode) (u : Array α) (base b : Nat) (c : Cell) :
    Except Error α :=
  sumTerms
    (fun m => do
      let w ← op.weight mode b m c.node c.lane
      return w * (← Buffer.read u (base + position op.shape c.comp m c.lane)))
    c.node (op.neighbours mode c.node)

/-- A gather applies the row of a node: its own value times entry 1, the value before it times
entry 0 and the value after it times entry 2, in this order. Without rows it applies the sign. -/
theorem gathered_eq (op : Operator) (mode : Mode) (u : Array α) (b : Nat) (c : Cell) :
    op.gathered mode u b c =
      let n := c.node
      let value (m : Nat) : Except Error α := do Buffer.read u (← op.address b c.comp m c.lane)
      if op.isCoupled mode then do
        let mut acc := (← op.curl mode b n c.lane 1) * (← value n)
        if 0 < n then
          acc := acc + (← op.curl mode b n c.lane 0) * (← value (n - 1))
        if n + 1 < op.shape.elemSize then
          acc := acc + (← op.curl mode b n c.lane 2) * (← value (n + 1))
        return acc
      else return (← op.sign mode b n c.lane) * (← value n) := by
  have hafter : c.node + 1 + 1 - c.node = 2 := by omega
  rw [gathered, sumTerms_neighbours]
  by_cases hc : op.isCoupled mode
  · by_cases h0 : 0 < c.node
    · have hbefore : c.node - 1 + 1 - c.node = 0 := by omega
      simp [weight_of_coupled hc, hc, h0, hbefore, hafter]
    · simp [weight_of_coupled hc, hc, h0, hafter]
  · simp [weight_of_not_coupled hc, hc]

/-- A scatter applies the column of a node: its own value times entry 1 of its own row, the value
before it times entry 2 of the row before and the value after it times entry 0 of the row after, in
this order. Without rows it applies the sign. -/
theorem scattered_eq (op : Operator) (mode : Mode) (u : Array α) (base b : Nat) (c : Cell) :
    op.scattered mode u base b c =
      let n := c.node
      let value (m : Nat) : Except Error α :=
        Buffer.read u (base + position op.shape c.comp m c.lane)
      if op.isCoupled mode then do
        let mut acc := (← op.curl mode b n c.lane 1) * (← value n)
        if 0 < n then
          acc := acc + (← op.curl mode b (n - 1) c.lane 2) * (← value (n - 1))
        if n + 1 < op.shape.elemSize then
          acc := acc + (← op.curl mode b (n + 1) c.lane 0) * (← value (n + 1))
        return acc
      else return (← op.sign mode b n c.lane) * (← value n) := by
  rw [scattered, sumTerms_neighbours]
  by_cases hc : op.isCoupled mode
  · by_cases h0 : 0 < c.node
    · have hbefore : c.node + 1 - (c.node - 1) = 2 := by omega
      simp [weight_of_coupled hc, hc, h0, hbefore]
    · simp [weight_of_coupled hc, hc, h0]
  · simp [weight_of_not_coupled hc, hc]

/-- Gathers block `b`, which starts at `base` in `v`. Mirrors `gather_block`. -/
def gatherBlock (op : Operator) (mode : Mode) (b : Nat) (u : Array α) (base : Nat)
    (v : Array α) : Except Error (Array α) :=
  (cells op.shape op.shape.blockSize).foldlM
    (fun v c => do
      let x ← op.gathered mode u b c
      Buffer.write v (base + position op.shape c.comp c.node c.lane) x)
    v

/-- Scatters block `b`, which starts at `base` in `u`. Mirrors `scatter_block`. -/
def scatterBlock (op : Operator) (mode : Mode) (b : Nat) (u : Array α) (base : Nat)
    (v : Array α) : Except Error (Array α) :=
  (cells op.shape (op.shape.activeLanes b)).foldlM
    (fun v c => do
      let l ← op.address b c.comp c.node c.lane
      let x ← op.scattered mode u base b c
      let old ← Buffer.read v l
      Buffer.write v l (old + x))
    v

/-- Gathers all blocks. Mirrors `forward`. -/
def gather (op : Operator) (mode : Mode) (u v : Array α) : Except Error (Array α) :=
  (List.range op.shape.numBlock).foldlM
    (fun v b => op.gatherBlock mode b u (b * op.shape.blockLen) v) v

/-- Scatters all blocks. -/
def scatter (op : Operator) (mode : Mode) (u v : Array α) : Except Error (Array α) :=
  (List.range op.shape.numBlock).foldlM
    (fun v b => op.scatterBlock mode b u (b * op.shape.blockLen) v) v

/-- What each E-vector entry adds, in the order of the E-vector; blocks have one lane. -/
def contributions (op : Operator) (mode : Mode) (u : Array α) : Except Error (Array α) := do
  let s := op.shape
  let ws ← (TransposeMap.triples s).mapM fun (e, k, n) =>
    op.scattered mode u (e * (s.elemSize * s.numComp)) e ⟨k, n, 0⟩
  return ws.toArray

/-- Adds to every L-vector entry the contributions of its readers. Mirrors
`scatter_deterministic`. -/
def scatterMapped (op : Operator) (m : TransposeMap) (mode : Mode) (u v : Array α) :
    Except Error (Array α) := do
  let w ← op.contributions mode u
  (List.range op.shape.lSize).foldlM
    (fun v l => do
      let readers ← m.readersOf l
      let old ← Buffer.read v l
      let new ← readers.toList.foldlM (fun acc i => return acc + (← Buffer.read w i)) old
      Buffer.write v l new)
    v

end GatherScatter.Reference.Operator
