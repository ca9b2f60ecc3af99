import GatherScatter.Memory

/-!
# Index data

What a backend receives to build a restriction, besides the shape. For blocked restrictions the
arrays are already in blocked form.
-/
namespace GatherScatter

/-- Orientation data of a restriction. -/
inductive Orientation where
  | plain
  /-- Whether each node is negated. -/
  | signs (flips : IndexArray Bool)
  /-- For each node, the weights of the node before it, of itself and of the node after it. -/
  | curl (rows : IndexArray Int)
  deriving DecidableEq

/-- Index arrays handed to a backend. Mirrors `IndexData`. -/
structure IndexData where
  /-- Where the backend is to expect the arrays. -/
  mem : MemKind := .host
  offsets : Option (IndexArray Int) := none
  orientation : Orientation := .plain
  deriving DecidableEq

end GatherScatter
