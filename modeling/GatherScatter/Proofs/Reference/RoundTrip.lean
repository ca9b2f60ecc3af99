import GatherScatter.Proofs.Reference.Adjoint
import GatherScatter.Proofs.Reference.Blocks

/-!
# Gather, then scatter

A gather copies each entry of the L-vector to all values that refer to it, and a scatter adds them
up again. Signs go in twice and cancel, so what comes back is the entry times the number of
references to it; only rows of weights would mix entries.

* `Spec.references`: the references of a request, read off the unpadded index data.
* `Buffer.getElem?_addAll_references`: adding one term for each reference.
* `Realizes.terms_after_gather_perm`: what a scatter adds after a gather.
* `Realizes.roundTrip`, `OntoPoints.roundTrip`, `Spec.roundTrip`: both applies of an operator, one
  after the other.
-/
namespace GatherScatter

/-! ## References -/

/-- L-vector entries of all values: `address e k i` is that of component `k` of the node or point
`i` of element `e`, which has `size e` of them. -/
def references (numElem numComp : Nat) (size : Nat → Nat) (address : Nat → Nat → Nat → Nat) :
    List Nat :=
  (List.range numElem).flatMap fun e =>
    (List.range numComp).flatMap fun k =>
      (List.range (size e)).map fun i => address e k i

theorem mem_references {numElem numComp : Nat} {size : Nat → Nat}
    {address : Nat → Nat → Nat → Nat} {l : Nat} :
    l ∈ references numElem numComp size address ↔
      ∃ e < numElem, ∃ k < numComp, ∃ i < size e, address e k i = l := by
  simp only [references, List.mem_flatMap, List.mem_map, List.mem_range]

namespace Spec

/-- L-vector entries to which a request refers, once for each element, component, and node or
point. -/
def references : Spec → List Nat
  | offsets s => GatherScatter.references s.numElem s.numComp (fun _ => s.elemSize)
      s.stencil.address
  | strided s => GatherScatter.references s.numElem s.numComp (fun _ => s.elemSize)
      s.stencil.address
  | points s => GatherScatter.references s.numElem s.numComp
      (Reference.Points.count s.offsets.entries)
      fun e k i => Reference.Points.point s.offsets.entries e i * s.numComp + k

/-- Whether the nodes of an element are coupled by rows of weights. -/
def isCurl : Spec → Bool
  | offsets s =>
    match s.orientation with
    | .curl _ => true
    | _ => false
  | _ => false

end Spec

/-- In this mode every node stands for itself, up to its sign. -/
structure Stencil.Signed (t : Stencil) (mode : Mode) : Prop where
  coupled : t.coupled mode = false
  square : ∀ e n, t.weight mode e n n * t.weight mode e n n = 1

theorem OffsetSpec.signed {s : OffsetSpec} {mode : Mode}
    (h : (Spec.offsets s).isCurl = true → mode = .unoriented) : s.stencil.Signed mode := by
  cases ho : s.orientation with
  | plain =>
    refine ⟨?_, fun e n => ?_⟩
    · simp only [stencil, ho]
    · simp only [stencil, ho, Int.mul_one]
  | signs flips =>
    refine ⟨?_, fun e n => ?_⟩
    · simp only [stencil, ho]
    · simp only [stencil, ho]
      cases mode with
      | full => dsimp only; split <;> rfl
      | unsigned => rfl
      | unoriented => rfl
  | curl rows =>
    have hmode : mode = .unoriented := h (by simp only [Spec.isCurl, ho])
    rw [hmode]
    refine ⟨?_, fun e n => ?_⟩
    · simp only [stencil, ho]
      rfl
    · simp only [stencil, ho, Int.mul_one]

theorem StridedSpec.signed (s : StridedSpec) (mode : Mode) : s.stencil.Signed mode :=
  ⟨rfl, fun _ _ => rfl⟩

/-! ## Adding the values of all references -/

variable {R : Type} [CommRing R]

/-- In sums that may be reordered, an entry grows by its terms. -/
theorem Buffer.getElem?_addAll_of_perm {v : Array R} {xs ys : List (Nat × R)} (h : xs.Perm ys)
    (l : Nat) : (addAll v xs)[l]? = v[l]?.map (· + (termsAt l ys).sum) := by
  rw [addAll_perm v h, getElem?_addAll]
  congr 1
  funext old
  rw [foldl_add_eq_sum (fun x : R => x), List.map_id']

/-- One term for each reference adds up to the value of the entry times its references. -/
theorem Buffer.getElem?_addAll_references {v : Array R} {xs : List (Nat × R)} {refs : List Nat}
    {value : Nat → R} (h : xs.Perm (refs.map fun a => (a, value a))) (l : Nat) :
    (addAll v xs)[l]? = v[l]?.map (· + (refs.count l : R) * value l) := by
  have hterms : termsAt l (refs.map fun a => (a, value a)) =
      List.replicate (refs.count l) (value l) := by
    rw [termsAt, List.filter_map, List.map_map]
    have hfilter : refs.filter ((fun x : Nat × R => x.1 = l) ∘ fun a => (a, value a)) =
        List.replicate (refs.count l) l := by
      rw [← List.filter_beq]
      congr 1
    rw [hfilter, List.map_replicate]
    rfl
  rw [getElem?_addAll_of_perm h, hterms, List.sum_replicate, nsmul_eq_mul]

namespace Reference.Points

/-- The links refer to the values one after the other. -/
theorem map_links_snd (numElem numComp : Nat)
    (offsets : Array Int) :
    (links numElem numComp offsets).map Prod.snd =
      references numElem numComp (count offsets)
        fun e k i => point offsets e i * numComp + k := by
  rw [links, references, List.map_flatMap]
  congr 1
  funext e
  rw [elementLinks, Ranges.pairs_eq, List.map_flatMap, List.map_flatMap]
  simp only [List.map_map]
  rfl

end Reference.Points

/-- Points that were gathered before are added once for each reference. -/
theorem PointRanges.links_gathered {offsets : Array Int} {numElem numPoints numComp lSize : Nat}
    (h : PointRanges offsets numElem numPoints numComp lSize) {x y₀ : Array R}
    (hy : numPoints * numComp ≤ y₀.size) :
    (Reference.Points.links numElem numComp offsets).map (fun z => (z.2, Buffer.entry
        (Reference.Points.moveAll .forward x y₀ (Reference.Points.links numElem numComp offsets))
        z.1)) =
      (references numElem numComp (Reference.Points.count offsets) fun e k i =>
        Reference.Points.point offsets e i * numComp + k).map fun a => (a, Buffer.entry x a) := by
  rw [← Reference.Points.map_links_snd, List.map_map]
  apply List.map_congr_left
  intro z hz
  have hput : (Reference.Points.moveAll .forward x y₀
      (Reference.Points.links numElem numComp offsets))[z.1]? = some (Buffer.entry x z.2) := by
    apply Buffer.getElem?_putAll_of_mem
    · rw [List.map_map]
      exact h.map_links_fst ▸ List.nodup_range
    · exact List.mem_map_of_mem hz
    · exact Nat.lt_of_lt_of_le (h.mem_links hz).1 hy
  rw [Buffer.entry, Array.getD_eq_getD_getElem?, hput]
  rfl

namespace Reference.Operator

open Stencil

variable {op : Operator} {t : Stencil} {mode : Mode}

theorem map_address_triples (s : Shape) (address : Nat → Nat → Nat → Nat) :
    (TransposeMap.triples s).map (fun x => address x.1 x.2.1 x.2.2) =
      references s.numElem s.numComp (fun _ => s.elemSize) address := by
  simp only [TransposeMap.triples, references, List.map_flatMap, List.map_map]
  rfl

/-- Where a gather went before, a scatter weighs the values that the gather gave the nodes. -/
theorem Realizes.terms_after_gather_perm (h : op.Realizes t) (mode : Mode) {x y₀ : Array R}
    (hy : op.shape.eSize ≤ y₀.size) :
    (terms op.shape t mode (Buffer.putAll y₀ (puts op.shape t mode x))).Perm
      ((TransposeMap.triples op.shape).map fun y => (t.address y.1 y.2.1 y.2.2,
        t.scattered op.shape.elemSize mode (t.gathered op.shape.elemSize mode x y.1 y.2.1) y.1
          y.2.2)) := by
  refine (h.terms_perm mode _).trans (.of_eq ?_)
  apply List.map_congr_left
  rintro ⟨e, k, n⟩ htriple
  obtain ⟨he, hk, hn⟩ := TransposeMap.mem_triples.1 htriple
  have hlane : e / op.shape.blockSize * op.shape.blockSize + e % op.shape.blockSize = e :=
    Nat.div_add_mod' e op.shape.blockSize
  have helem : elemAt op.shape (e / op.shape.blockSize) (e % op.shape.blockSize) = e := by
    rw [elemAt_of_active] <;> rw [hlane]
    exact he
  dsimp only
  rw [t.scattered_congr mode e hn]
  intro m hm
  have hput := h.getElem?_gather mode (u := x) hy
    (by rw [h.numBlock_eq]; exact div_lt_numBlocks h.blockSize_pos he) hk hm
    (Nat.mod_lt e h.blockSize_pos)
  rw [helem] at hput
  rw [Buffer.entry, Array.getD_eq_getD_getElem?, hput]
  rfl

/-- Nodes that stand for themselves get the gathered entry back, once for each reference. -/
theorem Realizes.terms_gathered_perm (h : op.Realizes t) (hsigned : t.Signed mode)
    {x y₀ : Array R} (hy : op.shape.eSize ≤ y₀.size) :
    (terms op.shape t mode (Buffer.putAll y₀ (puts op.shape t mode x))).Perm
      ((references op.shape.numElem op.shape.numComp (fun _ => op.shape.elemSize) t.address).map
        fun a => (a, Buffer.entry x a)) := by
  refine (h.terms_after_gather_perm mode hy).trans (.of_eq ?_)
  rw [← map_address_triples, List.map_map]
  apply List.map_congr_left
  rintro ⟨e, k, n⟩ -
  have hnone : t.neighbours op.shape.elemSize mode n = [] := by
    rw [Stencil.neighbours, hsigned.coupled]
    rfl
  have hsquare : (t.weight mode e n n : R) * (t.weight mode e n n : R) = 1 := by
    rw [← Int.cast_mul, hsigned.square, Int.cast_one]
  dsimp only [Function.comp_apply]
  rw [Stencil.scattered, hnone, weightedSum, List.foldl_nil, Stencil.gathered, hnone, weightedSum,
    List.foldl_nil, ← mul_assoc, hsquare, one_mul]

theorem Realizes.roundTrip (h : op.Realizes t) (hsigned : t.Signed mode) {x y₀ v : Array R}
    (hx : op.shape.lSize ≤ x.size) (hy : op.shape.eSize ≤ y₀.size) (hv : op.shape.lSize ≤ v.size) :
    ∃ y v', op.apply mode .forward x y₀ = .ok y ∧ y.size = y₀.size ∧
      op.apply mode .transpose y v = .ok v' ∧ v'.size = v.size ∧
      ∀ l, v'[l]? = v[l]?.map (· + ((references op.shape.numElem op.shape.numComp
        (fun _ => op.shape.elemSize) t.address).count l : R) * Buffer.entry x l) := by
  have hsize := Buffer.size_putAll y₀ (puts op.shape t mode x)
  exact ⟨_, _, h.apply_eq_ok mode (d := .forward) hx hy, hsize,
    h.apply_eq_ok mode (d := .transpose) (hsize.symm ▸ hy) hv, Buffer.size_addAll v _,
    Buffer.getElem?_addAll_references (h.terms_gathered_perm hsigned hy)⟩

theorem OntoPoints.roundTrip {entries : Array Int} (h : op.OntoPoints entries) {x y₀ v : Array R}
    (hx : op.shape.lSize ≤ x.size) (hy : op.shape.eSize ≤ y₀.size) (hv : op.shape.lSize ≤ v.size) :
    ∃ y v', op.apply mode .forward x y₀ = .ok y ∧ y.size = y₀.size ∧
      op.apply mode .transpose y v = .ok v' ∧ v'.size = v.size ∧
      ∀ l, v'[l]? = v[l]?.map (· + ((references op.shape.numElem op.shape.numComp
        (Points.count entries) fun e k i => Points.point entries e i * op.shape.numComp + k).count l
          : R) * Buffer.entry x l) := by
  have hsize := Points.size_moveAll .forward x y₀
    (Points.links op.shape.numElem op.shape.numComp entries)
  exact ⟨_, _, h.apply_eq_ok mode (d := .forward) hx hy, hsize,
    h.apply_eq_ok mode (d := .transpose) (hsize.symm ▸ hy) hv, Buffer.size_addAll v _,
    Buffer.getElem?_addAll_references (.of_eq (h.ranges.links_gathered (h.eSize_eq ▸ hy)))⟩

end Reference.Operator

namespace Spec

open Reference

variable {op : Operator} {data : IndexData} {mode : Mode}

/-- References of an accepted request are inside the L-vector. -/
theorem references_lt {spec : Spec} (hp : spec.plan = .ok (op.shape, data))
    (h : op.Implements spec) : ∀ l ∈ spec.references, l < op.shape.lSize := by
  intro l hl
  cases spec with
  | offsets s =>
    obtain ⟨e, he, k, hk, n, hn, rfl⟩ := mem_references.1 hl
    have hs := (OffsetSpec.planned_of_plan hp).shape_eq
    exact h.inside e k n (by rwa [hs]) (by rwa [hs]) (by rwa [hs])
  | strided s =>
    obtain ⟨e, he, k, hk, n, hn, rfl⟩ := mem_references.1 hl
    have hs := (StridedSpec.planned_of_plan hp).shape_eq
    exact h.inside e k n (by rwa [hs]) (by rwa [hs]) (by rwa [hs])
  | points s =>
    obtain ⟨e, he, k, hk, i, hi, rfl⟩ := mem_references.1 hl
    obtain ⟨maxPoints, hs⟩ := (PointsSpec.planned_of_plan hp).shape_eq
    have hin := h.ranges.point_inside (e := e) (i := i) (k := k) (by rwa [hs]) hi (by rwa [hs])
    rw [hs] at hin ⊢
    exact hin.2

/-- A gather into any E-vector, and then a scatter of the result, add to every entry of the output
the same entry of the L-vector, once for each reference. -/
theorem roundTrip {spec : Spec} (hp : spec.plan = .ok (op.shape, data)) (h : op.Implements spec)
    (hdiag : spec.isCurl = true → mode = .unoriented) {x y₀ v : Array R}
    (hx : op.shape.lSize ≤ x.size) (hy : op.shape.eSize ≤ y₀.size) (hv : op.shape.lSize ≤ v.size) :
    ∃ y v', op.apply mode .forward x y₀ = .ok y ∧ y.size = y₀.size ∧
      op.apply mode .transpose y v = .ok v' ∧ v'.size = v.size ∧
      ∀ l, v'[l]? = v[l]?.map (· + (spec.references.count l : R) * Buffer.entry x l) := by
  cases spec with
  | offsets s =>
    have hs := (OffsetSpec.planned_of_plan hp).shape_eq
    have hrefs : (offsets s).references = GatherScatter.references op.shape.numElem
        op.shape.numComp (fun _ => op.shape.elemSize) s.stencil.address := by rw [hs]; rfl
    rw [hrefs]
    exact h.roundTrip (OffsetSpec.signed hdiag) hx hy hv
  | strided s =>
    have hs := (StridedSpec.planned_of_plan hp).shape_eq
    have hrefs : (strided s).references = GatherScatter.references op.shape.numElem
        op.shape.numComp (fun _ => op.shape.elemSize) s.stencil.address := by rw [hs]; rfl
    rw [hrefs]
    exact h.roundTrip (s.signed mode) hx hy hv
  | points s =>
    obtain ⟨maxPoints, hs⟩ := (PointsSpec.planned_of_plan hp).shape_eq
    have hrefs : (points s).references = GatherScatter.references op.shape.numElem
        op.shape.numComp (Points.count s.offsets.entries)
        fun e k i => Points.point s.offsets.entries e i * op.shape.numComp + k := by rw [hs]; rfl
    rw [hrefs]
    exact h.roundTrip hx hy hv

end Spec

end GatherScatter
