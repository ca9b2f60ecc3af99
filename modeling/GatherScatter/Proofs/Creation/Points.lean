import GatherScatter.Proofs.Reference.Points
import Mathlib.Algebra.BigOperators.Group.Finset.Basic

/-!
# Which requests onto points have a plan

The offsets of such a request describe themselves: range starts into the array, and after them the
points. A request whose offsets are there is planned exactly if the starts rise from the end of the
starts to the end of the array and every point has its components in the L-vector. Elements without
points share their start with the element after them, so the element of an entry is searched from
the end.

* `Reference.Points.Owns`: the element in whose range an entry of the offsets is.
* `PointStarts.exists_owner`, `PointStarts.owner_unique`, `PointStarts.sum_count`: the ranges
  partition the point entries.
* `PointStarts.largestPoints_eq_ok`: the largest number of points of an element;
  `PointsSpec.elemSize_le_of_plan`: a bound for it.
* `PointsSpec.Acceptable`: the conditions of creation, in exact arithmetic.
* `PointsSpec.plan_isOk_iff`, `PointsSpec.plan_eq_ok`: they are what a plan needs, and what it is.
* `PointsSpec.plan_eq_error`: which point is named if one is not in the L-vector.
-/
namespace GatherScatter

/-! ## Range starts -/

namespace Reference.Points

/-- Entry `i` of the offsets is in the range of element `e`. -/
structure Owns (offsets : Array Int) (numElem e i : Nat) : Prop where
  lt : e < numElem
  start_le : start offsets e ≤ i
  lt_start : i < start offsets (e + 1)

end Reference.Points

theorem Creation.elementAt_eq {starts : List Int} {i e : Nat} {a : Int}
    (ha : starts[e]? = some a) (hle : a ≤ i)
    (hafter : ∀ j, e < j → ∀ b, starts[j]? = some b → (i : Int) < b) :
    elementAt starts i = e := by
  unfold elementAt
  rw [Loop.find?_reverse_zipIdx (p := fun a => decide (a ≤ (i : Int))) ha (by simpa using hle)]
  · simp
  · intro j hj b hb
    simpa using hafter j hj b hb

namespace PointStarts

open Reference Points

variable {offsets : Array Int} {numElem numPoints : Nat}

/-- Every point entry is in the range of an element. -/
theorem exists_owner (h : PointStarts offsets numElem numPoints) {i : Nat} (hi : numElem < i)
    (hlt : i < offsets.size) : ∃ e, Owns offsets numElem e i := by
  have hsearch (k : Nat) (hk : k ≤ numElem) (hik : i < start offsets k) :
      ∃ e, Owns offsets numElem e i := by
    induction k with
    | zero =>
      rw [h.start_zero] at hik
      omega
    | succ k ih =>
      by_cases hprev : i < start offsets k
      · exact ih (by omega) hprev
      · exact ⟨k, hk, by omega, hik⟩
  refine hsearch numElem (Nat.le_refl numElem) ?_
  rw [h.start_last, ← h.size_eq]
  exact hlt

theorem owner_unique (h : PointStarts offsets numElem numPoints) {e e' i : Nat}
    (he : Owns offsets numElem e i) (he' : Owns offsets numElem e' i) : e' = e := by
  obtain ⟨hlt, hle, hstart⟩ := he
  obtain ⟨hlt', hle', hstart'⟩ := he'
  rcases Nat.lt_trichotomy e e' with hee | hee | hee
  · have := h.start_mono (show e + 1 ≤ e' from hee) (Nat.le_of_lt hlt')
    omega
  · exact hee.symm
  · have := h.start_mono (show e' + 1 ≤ e from hee) (Nat.le_of_lt hlt)
    omega

/-- The ranges hold point entries alone. -/
theorem owned_bounds (h : PointStarts offsets numElem numPoints) {e i : Nat}
    (he : Owns offsets numElem e i) : numElem < i ∧ i < offsets.size := by
  have h0 := h.start_bounds (Nat.le_of_lt he.lt)
  have h1 := h.start_bounds (show e + 1 ≤ numElem from he.lt)
  have hle := he.start_le
  have hlt := he.lt_start
  omega

/-- No element has more points than there are. -/
theorem count_le (h : PointStarts offsets numElem numPoints) {e : Nat} (he : e < numElem) :
    count offsets e ≤ numPoints := by
  have h0 := h.start_mono (Nat.zero_le e) (Nat.le_of_lt he)
  have h1 := h.start_mono (show e + 1 ≤ numElem from he) (Nat.le_refl numElem)
  rw [h.start_zero] at h0
  rw [h.start_last] at h1
  rw [count]
  omega

theorem sum_count (h : PointStarts offsets numElem numPoints) :
    ∑ e ∈ Finset.range numElem, count offsets e = numPoints := by
  have hsum (k : Nat) (hk : k ≤ numElem) :
      ∑ e ∈ Finset.range k, count offsets e = start offsets k - start offsets 0 := by
    induction k with
    | zero => simp
    | succ k ih =>
      have h0 := h.start_mono (Nat.zero_le k) (Nat.le_of_succ_le hk)
      have h1 := h.start_mono (Nat.le_add_right k 1) hk
      rw [Finset.sum_range_succ, ih (Nat.le_of_succ_le hk), count]
      omega
  rw [hsum numElem (Nat.le_refl numElem), h.start_last, h.start_zero]
  omega

/-- The loop over the elements finds the largest number of points. -/
theorem largestPoints_eq_ok (h : PointStarts offsets numElem numPoints) :
    largestPoints offsets numElem = .ok ((Finset.range numElem).sup (count offsets)) := by
  have hmax (k : Nat) (hk : k ≤ numElem) :
      (List.range k).foldlM (fun best elem => return max best (← pointsBetween offsets elem)) 0 =
        .ok ((Finset.range k).sup (count offsets)) := by
    induction k with
    | zero => rfl
    | succ k ih =>
      rw [List.range_succ, List.foldlM_append, ih (Nat.le_of_succ_le hk), Loop.ok_bind,
        List.foldlM_cons, h.pointsBetween_eq_ok hk, Finset.range_add_one, Finset.sup_insert,
        max_comm]
      rfl
  exact hmax numElem (Nat.le_refl numElem)

/-- The loop over the range starts finds the same number. -/
theorem largestStep_eq_ok (h : PointStarts offsets numElem numPoints) :
    Creation.largestStep (offsets.toList.take (numElem + 1)) 0 0 =
      .ok ((Finset.range numElem).sup (count offsets)) := by
  have hlen : (offsets.toList.take (numElem + 1)).length = numElem + 1 := by
    have := h.size_eq
    simp
    omega
  have hget (i : Nat) (hi : i ≤ numElem) :
      (offsets.toList.take (numElem + 1))[i]?.getD 0 = start offsets i := by
    rw [List.getElem?_take_of_lt (by omega), Array.getElem?_toList, ← Array.getD_eq_getD_getElem?,
      h.start_eq hi]
  rw [Creation.largestStep_eq_ok_iff, hlen, Nat.add_sub_cancel, Nat.zero_max]
  constructor
  · intro i hi
    have := h.start_mono (Nat.le_add_right i 1) (by omega)
    rw [hget i (by omega), hget (i + 1) (by omega)]
    omega
  · refine Finset.sup_congr rfl fun e he => ?_
    have he := Finset.mem_range.1 he
    rw [hget e (by omega), hget (e + 1) (by omega), count]
    omega

/-- The search from the end finds the element that owns the entry, also among elements that have
no points. -/
theorem elementAt_eq (h : PointStarts offsets numElem numPoints) {e i : Nat}
    (he : Owns offsets numElem e i) :
    Creation.elementAt (offsets.toList.take numElem) i = e := by
  have hsize := h.size_eq
  have hget (j : Nat) (hj : j < numElem) :
      (offsets.toList.take numElem)[j]? = some (start offsets j : Int) := by
    rw [List.getElem?_take_of_lt hj, Array.getElem?_toList, ← h.start_eq (Nat.le_of_lt hj)]
    simp [Array.getD, show j < offsets.size by omega]
  refine Creation.elementAt_eq (hget e he.lt) (by exact_mod_cast he.start_le) ?_
  intro j hj b hb
  have hjlt : j < numElem := by
    have := (List.getElem?_eq_some_iff.1 hb).1
    simp at this
    omega
  rw [hget j hjlt] at hb
  have hmono := h.start_mono (show e + 1 ≤ j from hj) (Nat.le_of_lt hjlt)
  have hlt := he.lt_start
  cases hb
  omega

end PointStarts

/-! ## Plans -/

namespace PointsSpec

/-- Point `p` has its components in the L-vector. -/
def Addresses (s : PointsSpec) (p : Int) : Prop := 0 ≤ p ∧ p < (s.lSize / s.numComp : Nat)

/-- The L-vector has room for all points, and the range starts are well-formed. -/
structure WellLaid (s : PointsSpec) : Prop where
  numComp_pos : 1 ≤ s.numComp
  room : s.numPoints * s.numComp ≤ s.lSize
  starts : PointStarts s.offsets.entries s.numElem s.numPoints

/-- Besides, every point has its components in the L-vector. -/
structure Acceptable (s : PointsSpec) : Prop extends s.WellLaid where
  inside : ∀ p ∈ s.offsets.entries.toList.drop (s.numElem + 1), s.Addresses p

/-- Entry `i` of the offsets is the point `p`, and it is the first one that does not have its
components in the L-vector. -/
def FirstOutside (s : PointsSpec) (i : Nat) (p : Int) : Prop :=
  Buffer.FirstWithout s.Addresses s.offsets.entries (s.numElem + 1) i p

variable {s : PointsSpec}

instance (p : Int) : Decidable (s.Addresses p) := inferInstanceAs (Decidable (_ ∧ _))

theorem outside_eq_false_iff {p : Int} :
    Creation.outside (s.lSize / s.numComp) 0 p = false ↔ s.Addresses p := by
  rw [Creation.outside_eq_false_iff, Addresses]
  omega

/-- Where the range starts are well-formed, the points are searched for the first one that is not in
the L-vector. -/
theorem checkPoints_eq (hw : s.WellLaid) (hlt : s.offsets.size < 2 ^ 63) :
    Creation.checkPoints s.offsets.entries s.numElem s.numPoints s.numComp s.lSize =
      match (s.offsets.entries.toList.drop (s.numElem + 1)).zipIdx.find? fun x =>
        Creation.outside (s.lSize / s.numComp) 0 x.1 with
      | some (p, i) => do
        let elem := Creation.elementAt (s.offsets.entries.toList.take s.numElem)
          (s.numElem + 1 + i)
        let start ← Buffer.read s.offsets.entries elem
        throw (.offsetOutOfRange elem (s.numElem + 1 + i - start.toNat) p s.lSize)
      | none => .ok ((Finset.range s.numElem).sup (Reference.Points.count s.offsets.entries)) := by
  have hsize := hw.starts.size_eq
  have hlt : s.offsets.entries.size < 2 ^ 63 := hlt
  unfold Creation.checkPoints
  rw [Size.sum_eq_ok_iff.2 ⟨rfl, by rw [indexLimit_eq]; omega⟩, Loop.ok_bind,
    Size.sum_eq_ok_iff.2 ⟨rfl, by rw [indexLimit_eq]; omega⟩, Loop.ok_bind,
    Creation.checkLength_eq_ok_iff.2 hsize, Loop.ok_bind, Buffer.read_eq_ok (by omega) 0,
    Loop.ok_bind, Buffer.read_eq_ok (by omega) 0, Loop.ok_bind, hw.starts.first, hw.starts.last,
    if_neg (by simp), hw.starts.largestStep_eq_ok]
  rfl

/-- The largest number of points of an element is not larger than that of all points. -/
theorem le_of_checkPoints {offsets : Array Int} {numElem numPoints numComp lSize m : Nat}
    (h : Creation.checkPoints offsets numElem numPoints numComp lSize = .ok m) :
    m ≤ numPoints := by
  have hranges := Creation.checkPoints_eq_ok h
  unfold Creation.checkPoints at h
  obtain ⟨head, hhead, h⟩ := Loop.bind_eq_ok.1 h
  obtain ⟨_, -, h⟩ := Loop.bind_eq_ok.1 h
  obtain ⟨_, -, h⟩ := Loop.bind_eq_ok.1 h
  obtain ⟨_, -, h⟩ := Loop.bind_eq_ok.1 h
  obtain ⟨_, -, h⟩ := Loop.bind_eq_ok.1 h
  obtain ⟨-, h⟩ := Loop.refuse_eq_ok.1 h
  obtain ⟨m', hstep, h⟩ := Loop.bind_eq_ok.1 h
  obtain ⟨rfl, -⟩ := Size.sum_eq_ok_iff.1 hhead
  rw [hranges.largestStep_eq_ok] at hstep
  cases hstep
  split at h
  · obtain ⟨_, -, h⟩ := Loop.bind_eq_ok.1 h
    cases h
  · cases h
    exact Finset.sup_le fun e he => hranges.count_le (Finset.mem_range.1 he)

/-- Offsets in device memory are not looked into, so no number of points is known of them. -/
theorem elemSize_le_of_plan {shape : Shape} {data : IndexData} (h : s.plan = .ok (shape, data)) :
    shape.elemSize ≤ s.numPoints := by
  unfold plan at h
  obtain ⟨-, h⟩ := Loop.refuse_eq_ok.1 h
  obtain ⟨_, -, h⟩ := Loop.bind_eq_ok.1 h
  obtain ⟨-, h⟩ := Loop.refuse_eq_ok.1 h
  cases hm : s.mem with
  | host =>
    rw [hm] at h
    obtain ⟨maxPoints, hmax, h⟩ := Loop.bind_eq_ok.1 h
    cases h
    exact le_of_checkPoints hmax
  | device =>
    rw [hm] at h
    obtain ⟨_, -, h⟩ := Loop.bind_eq_ok.1 h
    obtain ⟨_, -, h⟩ := Loop.bind_eq_ok.1 h
    cases h
    exact Nat.zero_le _

/-- Where the range starts are well-formed, a plan is made of the largest number of points. -/
theorem plan_eq (hm : s.mem = .host) (hl : s.lSize < 2 ^ 64) (hw : s.WellLaid) :
    s.plan = do
      let maxPoints ← Creation.checkPoints s.offsets.entries s.numElem s.numPoints s.numComp s.lSize
      return (⟨.points, s.numElem, maxPoints, s.numComp, 1, s.lSize, s.numPoints * s.numComp, 1,
        s.numElem, s.numPoints, none⟩, ⟨s.mem, some s.offsets, .plain⟩) := by
  have hC := hw.numComp_pos
  have hroom := hw.room
  unfold plan
  rw [if_neg (by omega)]
  dsimp only
  rw [(Size.product_pair_eq_ok_iff (.inr hC)).2 ⟨rfl, by rw [indexLimit_eq]; omega⟩, Loop.ok_bind,
    if_neg (by omega), hm]

/-- The plan of an acceptable request. -/
theorem plan_eq_ok (hm : s.mem = .host) (hl : s.lSize < 2 ^ 64) (hlt : s.offsets.size < 2 ^ 63)
    (h : s.Acceptable) :
    s.plan = .ok (⟨.points, s.numElem,
      (Finset.range s.numElem).sup (Reference.Points.count s.offsets.entries), s.numComp, 1,
      s.lSize, s.numPoints * s.numComp, 1, s.numElem, s.numPoints, none⟩,
      ⟨s.mem, some s.offsets, .plain⟩) := by
  rw [plan_eq hm hl h.toWellLaid, checkPoints_eq h.toWellLaid hlt, Loop.find?_zipIdx_eq_none_iff.2]
  · rfl
  · intro p hp
    exact outside_eq_false_iff.2 (h.inside p hp)

/-- A request whose offsets are in host memory has a plan exactly if it is acceptable. -/
theorem plan_isOk_iff (hm : s.mem = .host) (hl : s.lSize < 2 ^ 64)
    (hlt : s.offsets.size < 2 ^ 63) : s.plan.isOk ↔ s.Acceptable := by
  constructor
  · intro h
    obtain ⟨⟨shape, data⟩, hp⟩ := Loop.isOk_iff.1 h
    have hranges := (planned_of_plan hp).ranges hm
    unfold plan at hp
    obtain ⟨hcomp, hp⟩ := Loop.refuse_eq_ok.1 hp
    obtain ⟨eSize, heSize, hp⟩ := Loop.bind_eq_ok.1 hp
    obtain ⟨hroom, -⟩ := Loop.refuse_eq_ok.1 hp
    have hC : 0 < s.numComp := by omega
    obtain ⟨rfl, -⟩ := (Size.product_pair_eq_ok_iff (.inr hC)).1 heSize
    refine ⟨⟨hC, by omega, hranges.toPointStarts⟩, fun p hp => ?_⟩
    obtain ⟨j, hj⟩ := List.mem_iff_getElem?.1 hp
    rw [List.getElem?_drop, Array.getElem?_toList] at hj
    obtain ⟨hin, rfl⟩ := Array.getElem?_eq_some_iff.1 hj
    obtain ⟨hpos, hlt⟩ := hranges.inside (s.numElem + 1 + j) (by omega) hin
    rw [Array.getD_eq_getD_getElem?, Array.getElem?_eq_getElem hin, Option.getD_some] at hpos hlt
    unfold Addresses
    omega
  · intro h
    exact Loop.isOk_iff.2 ⟨_, plan_eq_ok hm hl hlt h⟩

/-- If everything else fits, the first point that is not in the L-vector is named, by the element
that owns it and its place there. -/
theorem plan_eq_error (hm : s.mem = .host) (hl : s.lSize < 2 ^ 64)
    (hlt : s.offsets.size < 2 ^ 63) (hw : s.WellLaid)
    (hout : ∃ p ∈ s.offsets.entries.toList.drop (s.numElem + 1), ¬ s.Addresses p) :
    ∃ i p e, s.FirstOutside i p ∧ Reference.Points.Owns s.offsets.entries s.numElem e i ∧
      s.plan = .error (.offsetOutOfRange e (i - Reference.Points.start s.offsets.entries e) p
        s.lSize) := by
  obtain ⟨i, p, hfirst, hfind⟩ := Buffer.exists_find?_drop (fun _ => outside_eq_false_iff) hout
  obtain ⟨hin, -⟩ := Array.getElem?_eq_some_iff.1 hfirst.entry
  obtain ⟨e, he⟩ := hw.starts.exists_owner (show s.numElem < s.numElem + 1 + i by omega) hin
  have hsize := hw.starts.size_eq
  have helt := he.lt
  refine ⟨s.numElem + 1 + i, p, e, hfirst, he, ?_⟩
  rw [plan_eq hm hl hw, checkPoints_eq hw hlt, hfind]
  dsimp only
  rw [hw.starts.elementAt_eq he, Buffer.read_eq_ok (by omega) 0, Loop.ok_bind]
  rfl

end PointsSpec

end GatherScatter
