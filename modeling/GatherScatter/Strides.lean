/-!
# Strides

Three distances in an index space: between consecutive nodes, components and elements. They say
how a strided restriction addresses the L-vector and how a backend lays out the E-vector.
-/
namespace GatherScatter

/-- Distances between consecutive nodes, components and elements. -/
structure Strides where
  node : Nat
  comp : Nat
  elem : Nat
  deriving DecidableEq

namespace Strides

/-- All distances zero: the choice is left to the backend. -/
def unset : Strides := ⟨0, 0, 0⟩

/-- Elements one after the other, in each the components one after the other. -/
def packed (elemSize numComp : Nat) : Strides := ⟨1, elemSize, elemSize * numComp⟩

/-- Index of node `n`, component `k`, element `e`. -/
def address (s : Strides) (n k e : Nat) : Nat := n * s.node + k * s.comp + e * s.elem

/-- Written as `[node, comp, elem]`. -/
def text (s : Strides) : String :=
  s!"[{s.node}, {s.comp}, {s.elem}]"

end Strides

end GatherScatter
