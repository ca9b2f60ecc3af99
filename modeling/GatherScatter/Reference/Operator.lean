import GatherScatter.IndexData
import GatherScatter.Reference.TransposeMap

/-!
# Compiled operators

The index data of one restriction in the form in which the reference backend applies it, and the
two functions that give an apply its meaning: `address`, the L-vector index behind an E-vector
entry, and `weight`, the factor with which one node of an element enters another.

The E-vector entry of block `b`, component `k`, node `n` and lane `j` stands at
`b * blockLen + (k * elemSize + n) * blockSize + j`.
-/
namespace GatherScatter.Reference

/-- How L-vector indices are found. Mirrors `Indexing`. -/
inductive Indexing where
  | offsets (entries : Array Int)
  | strided (strides : Strides)
  deriving DecidableEq

/-- A restriction, compiled. Mirrors `RefRestriction`. -/
structure Operator where
  shape : Shape
  indexing : Indexing
  orientation : Orientation
  /-- Present if transposed applies are to add in the order of the E-vector. -/
  map : Option TransposeMap
  deriving DecidableEq

/-- One E-vector entry of a block. -/
structure Cell where
  comp : Nat
  node : Nat
  lane : Nat
  deriving DecidableEq

namespace Operator

/-- E-vector entries of a block with the given number of lanes, in the order of an apply. -/
def cells (s : Shape) (lanes : Nat) : List Cell :=
  (List.range s.numComp).flatMap fun k =>
    (List.range s.elemSize).flatMap fun n =>
      (List.range lanes).map fun j => ⟨k, n, j⟩

/-- Position of a cell in its block. -/
def position (s : Shape) (k n j : Nat) : Nat := (k * s.elemSize + n) * s.blockSize + j

/-- Position of row entry `i`, lane `j` of block `b` in a blocked array of rows of `width`. -/
def slot (s : Shape) (width b i j : Nat) : Nat := (b * width + i) * s.blockSize + j

/-- L-vector index of component `k`, node `n`, lane `j` of block `b`. Mirrors `l_index`. -/
def address (op : Operator) (b k n j : Nat) : Except Error Nat :=
  let s := op.shape
  match op.indexing with
  | .offsets entries => do
    let o ← Buffer.read entries (slot s s.elemSize b n j)
    offsetAddress s (Blocking.laneElem s.numElem s.blockSize b j) n o k
  | .strided t => .ok (t.address n k (Blocking.laneElem s.numElem s.blockSize b j))

/-- Whether nodes enter their neighbours. Mirrors `uses_curl`. -/
def isCoupled (op : Operator) (mode : Mode) : Bool :=
  match op.orientation with
  | .curl _ => mode != .unoriented
  | _ => false

variable {α : Type} [IntCast α]

/-- Sign of node `n`, lane `j` of block `b`. Mirrors `sign`. -/
def sign (op : Operator) (mode : Mode) (b n j : Nat) : Except Error α :=
  match op.orientation, mode with
  | .signs flips, .full => do
    let flip ← Buffer.read flips.entries (slot op.shape op.shape.elemSize b n j)
    return if flip then ((-1 : Int) : α) else ((1 : Int) : α)
  | _, _ => return ((1 : Int) : α)

/-- Entry `t` of the row of node `n`, lane `j` of block `b`: the factor with which the node before
it (0), the node itself (1) or the node after it (2) enters the node. Mirrors `curl`. -/
def curl (op : Operator) (mode : Mode) (b n j t : Nat) : Except Error α := do
  let own : α := if t = 1 then ((1 : Int) : α) else ((0 : Int) : α)
  match op.orientation with
  | .curl rows =>
    let w ← Buffer.read rows.entries (slot op.shape (3 * op.shape.elemSize) b (3 * n + t) j)
    match mode with
    | .full => return ((w : Int) : α)
    | .unsigned => return ((w.natAbs : Int) : α)
    | .unoriented => return own
  | _ => return own

/-- Factor with which node `m` enters node `n` of lane `j` of block `b`. -/
def weight (op : Operator) (mode : Mode) (b n m j : Nat) : Except Error α :=
  if op.isCoupled mode then op.curl mode b n j (m + 1 - n) else op.sign mode b n j

section Weights

variable {op : Operator} {mode : Mode} {b n m j : Nat}

theorem weight_of_coupled (h : op.isCoupled mode = true) :
    op.weight (α := α) mode b n m j = op.curl mode b n j (m + 1 - n) := if_pos h

theorem weight_of_not_coupled (h : ¬ op.isCoupled mode = true) :
    op.weight (α := α) mode b n m j = op.sign mode b n j := if_neg h

end Weights

/-- Nodes other than `n` that are coupled to node `n`. -/
def neighbours (op : Operator) (mode : Mode) (n : Nat) : List Nat :=
  if op.isCoupled mode then
    (if 0 < n then [n - 1] else []) ++ (if n + 1 < op.shape.elemSize then [n + 1] else [])
  else []

end Operator

end GatherScatter.Reference
