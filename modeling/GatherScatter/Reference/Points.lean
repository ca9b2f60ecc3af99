import GatherScatter.Reference.Operator

/-!
# Gather and scatter of points

The offsets of a points restriction start with `numElem + 1` range starts: the points of element
`e` are listed from entry `starts[e]` up to `starts[e + 1]` of the same array. Point `p` has its
components side by side in the L-vector, at `p * numComp + k`; in the E-vector an element has its
values component after component, at `k * n + i` for point `i` of `n`.
-/
namespace GatherScatter.Reference.Points

/-- An entry of the offsets as an index; a negative one is refused. -/
def index (s : Shape) (elem node : Nat) (entry : Int) : Except Error Nat :=
  match entry with
  | .ofNat i => .ok i
  | .negSucc _ => .error (.offsetOutOfRange elem node entry s.lSize)

/-- Points of element `elem`. Mirrors `point_range`. -/
def ofElement (s : Shape) (offsets : Array Int) (elem : Nat) : Except Error (Array Nat) := do
  let first ← index s elem 0 (← Buffer.read offsets elem)
  let last ← index s elem 0 (← Buffer.read offsets (elem + 1))
  let entries ← Buffer.slice offsets first last
  let points ← entries.toList.mapM (index s elem 0)
  return points.toArray

variable {α : Type} [Add α]

/-- Moves the values of one element, which start at `base` on the element side, component after
component and point after point. Mirrors `apply_points_elem`. -/
def transferElement (s : Shape) (points : Array Nat) (base : Nat) (d : Direction)
    (u v : Array α) : Except Error (Array α) :=
  (Ranges.pairs s.numComp points.size).foldlM
    (fun v (k, i) => do
      let p ← Buffer.read points i
      let l := p * s.numComp + k
      let e := base + k * points.size + i
      match d with
      | .forward => Buffer.write v e (← Buffer.read u l)
      | .transpose => do
        let x ← Buffer.read u e
        let old ← Buffer.read v l
        Buffer.write v l (old + x))
    v

/-- Moves the values of all elements, in order. -/
def transfer (s : Shape) (offsets : Array Int) (d : Direction) (u v : Array α) :
    Except Error (Array α) := do
  let (_, v) ← (List.range s.numElem).foldlM
    (fun (base, v) elem => do
      let points ← ofElement s offsets elem
      let v ← transferElement s points base d u v
      return (base + points.size * s.numComp, v))
    (0, v)
  return v

end GatherScatter.Reference.Points
