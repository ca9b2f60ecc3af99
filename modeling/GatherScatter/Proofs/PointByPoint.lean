import GatherScatter.Proofs.Reference.Parts
import GatherScatter.Proofs.Session.Reference

/-!
# Element by element, onto points

The elements of a request onto points may have any number of points, also none. In the E-vector
their values follow each other without gaps, and inside of an element the components do, so the
whole can be applied element by element, each element with a vector of its own.

* `PointsSpec.place`, `PointsSpec.source`: where a value stands in the E-vector and in the L-vector.
* `GathersByElement`, `ScattersByElement`: applies of the whole and of the single elements.
* `elements_make_whole`: both, and that the places fill the E-vector.
-/
namespace GatherScatter

open Reference

namespace PointsSpec

/-- Number of points of element `e`. -/
def pointsIn (s : PointsSpec) (e : Nat) : Nat := Points.count s.offsets.entries e

/-- Number of values of the elements before `e`. -/
def before (s : PointsSpec) (e : Nat) : Nat := s.numComp * ∑ f ∈ Finset.range e, s.pointsIn f

/-- Place in the E-vector of component `k` of point `i` of element `e`. -/
def place (s : PointsSpec) (e k i : Nat) : Nat := s.before e + k * s.pointsIn e + i

/-- L-vector entry of component `k` of point `i` of element `e`. -/
def source (s : PointsSpec) (e k i : Nat) : Nat :=
  Points.point s.offsets.entries e i * s.numComp + k

/-- All places, element after element and component after component. -/
def places (s : PointsSpec) : List Nat :=
  (List.range s.numElem).flatMap fun e =>
    (List.range s.numComp).flatMap fun k =>
      (List.range (s.pointsIn e)).map fun i => s.place e k i

/-- Three elements with two components: the second one is empty, and the others share a point. -/
def shared : PointsSpec where
  numElem := 3
  numPoints := 4
  numComp := 2
  lSize := 8
  offsets := .owned #[4, 6, 6, 8, 0, 2, 2, 1]

end PointsSpec

namespace Session

/-- Transposed applies to all elements in order, each from its part of `w`. -/
def scatterElements {σ α : Type} (name : String) (spec : PointsSpec) (w v : Array α) :
    Act σ α (Array α) :=
  (List.range spec.numElem).foldlM
    (fun v e => applyAtPoints name e .transpose
      (w.extract (spec.before e) (spec.before e + spec.pointsIn e * spec.numComp)) v) v

/-- Forward applies of one L-vector. The whole receives the values of all points and nothing behind
them; a single element receives its part of the whole and nothing behind it. -/
def GathersByElement {σ α : Type} (spec : PointsSpec) (eSize : Nat) (s : Session σ α)
    (name : String) : Prop :=
  ∀ u y : Array α, spec.lSize ≤ u.size → eSize ≤ y.size →
    ∃ z, outcome (apply name .forward u y) s = (.ok z, s) ∧ z.size = y.size ∧
      (∀ e < spec.numElem, ∀ k < spec.numComp, ∀ i < spec.pointsIn e,
        z[spec.place e k i]? = u[spec.source e k i]?) ∧
      (∀ j, eSize ≤ j → z[j]? = y[j]?) ∧
      ∀ e < spec.numElem, ∀ x : Array α, spec.pointsIn e * spec.numComp ≤ x.size →
        ∃ x', outcome (applyAtPoints name e .forward u x) s = (.ok x', s) ∧ x'.size = x.size ∧
          (∀ j < spec.pointsIn e * spec.numComp, x'[j]? = z[spec.before e + j]?) ∧
          ∀ j, spec.pointsIn e * spec.numComp ≤ j → x'[j]? = x[j]?

/-- Transposed applies of one E-vector, as a whole and by elements. -/
def ScattersByElement {σ α : Type} (spec : PointsSpec) (eSize : Nat) (s : Session σ α)
    (name : String) : Prop :=
  ∀ w v : Array α, eSize ≤ w.size → spec.lSize ≤ v.size →
    ∃ z, outcome (apply name .transpose w v) s = (.ok z, s) ∧
      outcome (scatterElements name spec w v) s = (.ok z, s)

variable {σ α : Type} [Add α] [Mul α] [IntCast α]

/-- An operator for the request, and what its shape takes over from it. -/
structure ForPoints (spec : PointsSpec) (op : Operator) : Prop extends
    op.OntoPoints spec.offsets.entries where
  numElem_eq : op.shape.numElem = spec.numElem
  numComp_eq : op.shape.numComp = spec.numComp
  lSize_eq : op.shape.lSize = spec.lSize

namespace ForPoints

open Points

variable {spec : PointsSpec} {op : Operator}

theorem ranges_spec (h : ForPoints spec op) :
    PointRanges spec.offsets.entries spec.numElem op.shape.numPoints spec.numComp spec.lSize := by
  rw [← h.numElem_eq, ← h.numComp_eq, ← h.lSize_eq]
  exact h.ranges

theorem eSize_spec (h : ForPoints spec op) :
    op.shape.eSize = op.shape.numPoints * spec.numComp := by
  rw [h.eSize_eq, h.numComp_eq]

/-- Where the part of an element starts. -/
theorem base_spec (h : ForPoints spec op) {e : Nat} (he : e ≤ spec.numElem) :
    base spec.numElem spec.numComp spec.offsets.entries e = spec.before e :=
  h.ranges_spec.base_eq he

/-- The part of an element ends inside a vector that is as long as the E-vector. -/
theorem part_end_le (h : ForPoints spec op) {e len : Nat} (he : e < spec.numElem)
    (hlen : op.shape.eSize ≤ len) : spec.before e + spec.pointsIn e * spec.numComp ≤ len := by
  have hle := h.ranges_spec.base_le (show e + 1 ≤ spec.numElem from he)
  rw [h.ranges_spec.base_succ he, h.base_spec (Nat.le_of_lt he), ← h.eSize_spec] at hle
  exact Nat.le_trans hle hlen

theorem places_eq (h : ForPoints spec op) : spec.places = List.range op.shape.eSize := by
  rw [h.eSize_spec, ← h.ranges_spec.places_eq_range, PointsSpec.places]
  apply List.flatMap_congr
  intro e he
  rw [h.base_spec (Nat.le_of_lt (List.mem_range.1 he))]
  rfl

end ForPoints

namespace Serves

open Points

variable {s : Session σ α} {name resource : String} {op : Operator} {mode : Mode}
  {spec : PointsSpec}

/-- What an apply of the whole moves. -/
theorem outcome_apply_points (h : s.Serves name resource op mode) (hop : ForPoints spec op)
    {d : Direction} {u v : Array α} (hu : (op.shape.sides d op.shape.eSize).2 ≤ u.size)
    (hv : (op.shape.sides d op.shape.eSize).1 ≤ v.size) :
    outcome (apply name d u v) s =
      (.ok (moveAll d u v (links spec.numElem spec.numComp spec.offsets.entries)), s) := by
  rw [h.outcome_apply_ok (.points _ hop.toOntoPoints) hu hv (hop.apply_eq_ok mode hu hv),
    hop.numElem_eq, hop.numComp_eq]

/-- What an apply to one element moves. -/
theorem outcome_apply_element (h : s.Serves name resource op mode) (hop : ForPoints spec op)
    {e : Nat} (he : e < spec.numElem) {d : Direction} {u v : Array α}
    (hu : (op.shape.sides d (spec.pointsIn e * spec.numComp)).2 ≤ u.size)
    (hv : (op.shape.sides d (spec.pointsIn e * spec.numComp)).1 ≤ v.size) :
    outcome (applyAtPoints name e d u v) s =
      (.ok (moveAll d u v (elementLinks spec.numComp spec.offsets.entries 0 e)), s) := by
  rw [← hop.numComp_eq] at hu hv ⊢
  exact h.outcome_applyAtPoints_ok hop.toOntoPoints (by rwa [hop.numElem_eq]) hu hv

theorem gathersByElement (h : s.Serves name resource op mode) (hop : ForPoints spec op) :
    GathersByElement spec op.shape.eSize s name := by
  intro u y hu hy
  have hlen := hop.eSize_spec
  have hu' : op.shape.lSize ≤ u.size := by rwa [hop.lSize_eq]
  refine ⟨_, h.outcome_apply_points hop (d := .forward) hu' hy, size_moveAll _ _ _ _, ?_, ?_, ?_⟩
  · intro e he k hk i hi
    have hput := hop.ranges_spec.getElem?_gather u (v := y) (by omega) he hk hi
    have hin := (hop.ranges_spec.point_inside he hi hk).2
    rw [hop.base_spec (Nat.le_of_lt he)] at hput
    rw [PointsSpec.place, PointsSpec.pointsIn, hput, PointsSpec.source, Buffer.some_entry]
    omega
  · intro j hj
    exact hop.ranges_spec.getElem?_gather_of_le u y (by omega)
  · intro e he x hx
    refine ⟨_, h.outcome_apply_element hop he (d := .forward) hu' hx, size_moveAll _ _ _ _, ?_, ?_⟩
    · intro j hj
      -- value `j` of an element is component `j / n` of point `j % n` of its `n` points
      obtain ⟨k, i, hk, hi, rfl⟩ := exists_mul_add_of_lt hj
      refine (getElem?_gatherElement u hx hk hi).trans ?_
      rw [← hop.base_spec (Nat.le_of_lt he), ← Nat.add_assoc]
      exact (hop.ranges_spec.getElem?_gather u (by omega) he hk hi).symm
    · intro j hj
      apply getElem?_moveAll_of_notMem
      rw [map_elementLinks_fst]
      simpa [PointsSpec.pointsIn] using hj

theorem scattersByElement (h : s.Serves name resource op mode) (hop : ForPoints spec op) :
    ScattersByElement spec op.shape.eSize s name := by
  intro w v hw hv
  have hv' : op.shape.lSize ≤ v.size := by rwa [hop.lSize_eq]
  refine ⟨_, h.outcome_apply_points hop (d := .transpose) hw hv', ?_⟩
  rw [scatterElements, ← moveAll_parts]
  apply outcome_foldlM fun v' => v'.size = v.size
  · intro e he v' hsize
    have he := List.mem_range.1 he
    have hend := hop.part_end_le he hw
    have hpart : (w.extract (spec.before e)
        (spec.before e + spec.pointsIn e * spec.numComp)).size =
          spec.pointsIn e * spec.numComp := by
      rw [Array.size_extract]
      omega
    rw [hop.base_spec (Nat.le_of_lt he)]
    refine ⟨h.outcome_apply_element hop he (d := .transpose) (Nat.le_of_eq hpart.symm) ?_, ?_⟩
    · exact hsize ▸ hv'
    · rw [size_moveAll, hsize]
  · rfl

end Serves

/-- The whole and its elements. The points of an element can be counted. The places of all values
are `0, 1, 2, …` up to the length of the E-vector, each of them once. A forward apply puts the value
of each point at its place and nothing behind the E-vector, and an apply to one element puts the
part of that element at the start of a vector of its own. Transposed applies to the parts of an
E-vector, in the order of the elements, add what a transposed apply of the whole adds, in the same
order, so that no law of the scalars is needed. -/
theorem elements_make_whole {resource name : String} {spec : PointsSpec} {s : Session σ α}
    {mode : Mode} (h : OnReference resource (.points spec) s name mode) :
    ∃ shape data, (Spec.points spec).plan = .ok (shape, data) ∧
      (∀ e < spec.numElem, outcome (pointsInElement name e) s = (.ok (spec.pointsIn e), s)) ∧
      spec.places = List.range shape.eSize ∧
      GathersByElement spec shape.eSize s name ∧ ScattersByElement spec shape.eSize s name := by
  obtain ⟨shape, data, op, hp, -, rfl, himp, hserves⟩ := h.serves
  obtain ⟨maxPoints, hshape⟩ := (PointsSpec.planned_of_plan hp).shape_eq
  have hop : ForPoints spec op := { himp with
    numElem_eq := by rw [hshape]
    numComp_eq := by rw [hshape]
    lSize_eq := by rw [hshape] }
  refine ⟨op.shape, data, hp, fun e he => ?_, hop.places_eq, hserves.gathersByElement hop,
    hserves.scattersByElement hop⟩
  exact hserves.outcome_pointsInElement himp (by rwa [hop.numElem_eq])

/-- The place of the empty element is taken by nothing. -/
theorem elements_make_whole_shared :
    let spec := PointsSpec.shared
    let s : Session Unit Int := single () false (.points spec)
    OnReference stem (.points spec) s "r" .full ∧
      outcome (pointsInElement "r" 1) s = (.ok 0, s) ∧ spec.places = List.range 8 ∧
      GathersByElement spec 8 s "r" ∧ ScattersByElement spec 8 s "r" := by
  intro spec s
  have h : OnReference stem (.points spec) s "r" .full :=
    onReference_single () false (.points spec) (by decide) rfl
  obtain ⟨shape, data, hp, hcount, hplaces, hgather, hscatter⟩ := elements_make_whole h
  obtain ⟨maxPoints, rfl⟩ := (PointsSpec.planned_of_plan (s := spec) hp).shape_eq
  exact ⟨h, hcount 1 (by decide), hplaces, hgather, hscatter⟩

end Session

end GatherScatter
