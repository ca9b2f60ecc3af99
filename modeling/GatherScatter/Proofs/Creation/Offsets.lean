import GatherScatter.Proofs.Creation.Exact
import GatherScatter.Proofs.Reference.Modes

/-!
# Which offset-based requests have a plan

A request whose offsets are there is planned exactly if its sizes and lengths fit and every offset,
moved by every component, addresses the L-vector. Only the last component is ever looked at, and
only after the product that moves an offset to it was found to be a size.

* `OffsetSpec.Acceptable`: these conditions, in exact arithmetic.
* `OffsetSpec.plan_isOk_iff`: they are what a plan needs.
* `OffsetSpec.plan_eq_error`: which offset is named if one does not address the L-vector.
-/
namespace GatherScatter

namespace Orientation

/-- Number of entries. -/
def size : Orientation → Nat
  | plain => 0
  | signs flips => flips.size
  | curl rows => rows.size

/-- Number of entries for each node. -/
def perNode : Orientation → Nat
  | plain => 0
  | signs _ => 1
  | curl _ => 3

end Orientation

namespace OffsetSpec

/-- The length of the L-vector is a size, and the arrays have fewer than `2 ^ 63` entries. -/
structure Representable (s : OffsetSpec) : Prop where
  lSize_lt : s.lSize < 2 ^ 64
  offsets_lt : s.offsets.size < 2 ^ 63
  orientation_lt : s.orientation.size < 2 ^ 63

/-- Sizes that must be positive are, and the arrays have the lengths that the sizes imply. -/
structure WellSized (s : OffsetSpec) : Prop where
  elemSize_pos : 1 ≤ s.elemSize
  blockSize_pos : 1 ≤ s.blockSize
  numComp_pos : 1 ≤ s.numComp
  compStride_pos : 1 ≤ s.compStride ∨ s.numComp = 1
  offsets_size : s.offsets.size = s.numElem * s.elemSize
  orientation_size : s.orientation.size = s.orientation.perNode * (s.numElem * s.elemSize)

/-- The offset addresses the L-vector in every component. -/
def Addresses (s : OffsetSpec) (o : Int) : Prop :=
  0 ≤ o ∧ ∀ k < s.numComp, o + k * s.compStride < s.lSize

/-- Sizes and lengths fit, all offsets address the L-vector, and the E-vector has a size. -/
structure Acceptable (s : OffsetSpec) : Prop extends s.WellSized where
  inside : ∀ o ∈ s.offsets.entries, s.Addresses o
  eSize_lt : s.numElem ⌈/⌉ s.blockSize * s.blockSize * s.elemSize * s.numComp < 2 ^ 64

/-- Entry `i` of the offsets is `o`, and it is the first one that does not address the L-vector. -/
def FirstOutside (s : OffsetSpec) (i : Nat) (o : Int) : Prop :=
  Buffer.FirstWithout s.Addresses s.offsets.entries 0 i o

variable {s : OffsetSpec}

instance (o : Int) : Decidable (s.Addresses o) := inferInstanceAs (Decidable (_ ∧ _))

/-- It is enough to look at the last component. -/
theorem addresses_iff (hC : 1 ≤ s.numComp) {o : Int} :
    s.Addresses o ↔ 0 ≤ o ∧ o.toNat + (s.numComp - 1) * s.compStride < s.lSize := by
  unfold Addresses
  constructor
  · intro ⟨ho, hall⟩
    have hlast := hall (s.numComp - 1) (by omega)
    rw [← Nat.cast_mul] at hlast
    omega
  · intro ⟨ho, hlast⟩
    refine ⟨ho, fun k hk => ?_⟩
    have hle := Nat.mul_le_mul_right s.compStride (show k ≤ s.numComp - 1 by omega)
    rw [← Nat.cast_mul]
    omega

theorem outside_eq_false_iff (hC : 1 ≤ s.numComp) {o : Int} :
    Creation.outside s.lSize ((s.numComp - 1) * s.compStride) o = false ↔ s.Addresses o := by
  rw [Creation.outside_eq_false_iff, addresses_iff hC]

/-- Lengths that passed are those that the sizes imply. -/
theorem size_eq_of_checkLengths (h : s.checkLengths = .ok ()) :
    s.offsets.size = s.numElem * s.elemSize ∧
      s.orientation.size = s.orientation.perNode * (s.numElem * s.elemSize) := by
  obtain ⟨hoffsets, hflips, hrows⟩ := checkLengths_eq_ok h
  refine ⟨hoffsets, ?_⟩
  cases ho : s.orientation with
  | plain => simp [Orientation.size, Orientation.perNode]
  | signs flips => exact (hflips flips ho).trans (Nat.one_mul _).symm
  | curl rows => exact (hrows rows ho).trans (Nat.mul_left_comm _ _ _)

theorem checkLengths_eq_ok_iff (hN : 1 ≤ s.numElem) (hE : 1 ≤ s.elemSize)
    (hs : s.Representable) :
    s.checkLengths = .ok () ↔ s.offsets.size = s.numElem * s.elemSize ∧
      s.orientation.size = s.orientation.perNode * (s.numElem * s.elemSize) := by
  have hn : 0 < s.numElem * s.elemSize := Nat.mul_pos hN hE
  have hlt := hs.orientation_lt
  have hoffsets_lt := hs.offsets_lt
  refine ⟨size_eq_of_checkLengths, fun ⟨hoffsets, horientation⟩ => ?_⟩
  unfold checkLengths
  rw [(Size.product_pair_eq_ok_iff (.inr hE)).2 ⟨rfl, by rw [indexLimit_eq]; omega⟩, Loop.ok_bind,
    Creation.checkLength_eq_ok_iff.2 hoffsets, Loop.ok_bind]
  cases ho : s.orientation with
  | plain => rfl
  | signs flips =>
    rw [ho] at horientation
    exact Creation.checkLength_eq_ok_iff.2 (horientation.trans (Nat.one_mul _))
  | curl rows =>
    rw [ho] at horientation hlt
    simp only [Orientation.size, Orientation.perNode] at horientation hlt
    dsimp only
    rw [(Size.product_pair_eq_ok_iff (.inr hn)).2 ⟨rfl, by rw [indexLimit_eq]; omega⟩,
      Loop.ok_bind]
    exact Creation.checkLength_eq_ok_iff.2 horientation

/-- What is planned has sizes and lengths that fit. -/
theorem wellSized_of_plan {shape : Shape} {data : IndexData} (h : s.plan = .ok (shape, data)) :
    s.WellSized := by
  obtain ⟨hsizes, hlengths, -⟩ := plan_eq_ok_iff.1 h
  obtain ⟨hE, hB, hC, hstride⟩ := Creation.checkSizes_eq_ok_iff.1 hsizes
  obtain ⟨hoffsets, horientation⟩ := size_eq_of_checkLengths hlengths
  exact ⟨hE, hB, hC, hstride, hoffsets, horientation⟩

/-- All offsets of what is planned, if they are in host memory, address the L-vector. -/
theorem addresses_of_plan (hm : s.mem = .host) {shape : Shape} {data : IndexData}
    (h : s.plan = .ok (shape, data)) : ∀ o ∈ s.offsets.entries, s.Addresses o := by
  intro o ho
  have hp := planned_of_plan h
  exact (addresses_iff hp.numComp_pos).2 (hp.inside hm o ho)

/-- The step to the last component is a size if it does not leave the L-vector. -/
theorem Representable.shift_lt (hs : s.Representable)
    (hcomp : s.numComp = 1 ∨ (s.numComp - 1) * s.compStride < s.lSize) :
    (s.numComp - 1) * s.compStride < 2 ^ 64 := by
  have hl := hs.lSize_lt
  rcases hcomp with hcomp | hcomp
  · simp [hcomp]
  · omega

/-- Once an offset can be moved to the last component, offsets are searched for the first one that
does not address the L-vector. -/
theorem checkOffsets_eq (hshift : (s.numComp - 1) * s.compStride < 2 ^ 64) (hC : 1 ≤ s.numComp)
    (hcomp : s.numComp = 1 ∨ (s.numComp - 1) * s.compStride < s.lSize)
    (hstride : 1 ≤ s.compStride ∨ s.numComp = 1) :
    Creation.checkOffsets s.offsets.entries s.elemSize s.numComp s.compStride s.lSize =
      match s.offsets.entries.toList.zipIdx.find? fun x =>
        Creation.outside s.lSize ((s.numComp - 1) * s.compStride) x.1 with
      | some (o, i) => .error (.offsetOutOfRange (i / s.elemSize) (i % s.elemSize) o s.lSize)
      | none => .ok () := by
  have hpos : s.numComp - 1 = 0 ∨ 0 < s.compStride := by omega
  unfold Creation.checkOffsets
  rw [(Size.product_pair_eq_ok_iff hpos).2 ⟨rfl, hshift⟩, Loop.ok_bind, if_neg (by omega)]
  rfl

/-- There is an offset, so if all offsets address the L-vector, then the step to the last component
does not leave it. -/
theorem WellSized.shift_inside (hw : s.WellSized) (hN : 1 ≤ s.numElem)
    (h : ∀ o ∈ s.offsets.entries, s.Addresses o) :
    s.numComp = 1 ∨ (s.numComp - 1) * s.compStride < s.lSize := by
  have hlt : 0 < s.offsets.entries.size := by
    have hsize : s.offsets.entries.size = _ := hw.offsets_size
    rw [hsize]
    exact Nat.mul_pos hN hw.elemSize_pos
  have := ((addresses_iff hw.numComp_pos).1 (h _ (Array.getElem_mem hlt))).2
  omega

/-- If all offsets address the L-vector, the search finds nothing. -/
theorem WellSized.checkOffsets_of_addresses (hw : s.WellSized) (hN : 1 ≤ s.numElem)
    (hshift : (s.numComp - 1) * s.compStride < 2 ^ 64)
    (h : ∀ o ∈ s.offsets.entries, s.Addresses o) :
    Creation.checkOffsets s.offsets.entries s.elemSize s.numComp s.compStride s.lSize =
      .ok () := by
  have hC := hw.numComp_pos
  rw [checkOffsets_eq hshift hC (hw.shift_inside hN h) hw.compStride_pos,
    Loop.find?_zipIdx_eq_none_iff.2]
  intro o ho
  exact (outside_eq_false_iff hC).2 (h o (by simpa using ho))

/-- A plan is what is left to be made once lengths, offsets and the E-vector were found right. -/
theorem WellSized.plan_isOk (hw : s.WellSized) (hN : 1 ≤ s.numElem)
    (hlengths : s.checkLengths = .ok ()) (hshift : (s.numComp - 1) * s.compStride < 2 ^ 64)
    (hinside : ∀ o ∈ s.offsets.entries, s.Addresses o)
    (heSize : s.numElem ⌈/⌉ s.blockSize * s.blockSize * s.elemSize * s.numComp < 2 ^ 64) :
    s.plan.isOk := by
  obtain ⟨shape, hshape⟩ :=
    (Shape.exists_blocked_iff hw.elemSize_pos hw.blockSize_pos hw.numComp_pos).2 heSize
  obtain ⟨data, hdata⟩ := exists_data hw.blockSize_pos hlengths
  have hsizes := Creation.checkSizes_eq_ok_iff.2
    ⟨hw.elemSize_pos, hw.blockSize_pos, hw.numComp_pos, hw.compStride_pos⟩
  exact Loop.isOk_iff.2 ⟨(shape, data), plan_eq_ok_iff.2
    ⟨hsizes, hlengths, fun _ => hw.checkOffsets_of_addresses hN hshift hinside, hshape, hdata⟩⟩

/-- A request whose offsets are in host memory has a plan exactly if it is acceptable. -/
theorem plan_isOk_iff (hm : s.mem = .host) (hN : 1 ≤ s.numElem) (hs : s.Representable) :
    s.plan.isOk ↔ s.Acceptable := by
  constructor
  · intro h
    obtain ⟨⟨shape, data⟩, hp⟩ := Loop.isOk_iff.1 h
    obtain ⟨-, -, -, hshape, -⟩ := plan_eq_ok_iff.1 hp
    have hw := wellSized_of_plan hp
    exact ⟨hw, addresses_of_plan hm hp,
      (Shape.exists_blocked_iff hw.elemSize_pos hw.blockSize_pos hw.numComp_pos).1 ⟨shape, hshape⟩⟩
  · intro h
    have hw := h.toWellSized
    have hlengths := (checkLengths_eq_ok_iff hN hw.elemSize_pos hs).2
      ⟨hw.offsets_size, hw.orientation_size⟩
    exact hw.plan_isOk hN hlengths (hs.shift_lt (hw.shift_inside hN h.inside)) h.inside h.eSize_lt

/-- If sizes and lengths fit, and the last component is inside the L-vector, then the first offset
that does not address the L-vector is named, by its element and its node. -/
theorem plan_eq_error (hm : s.mem = .host) (hN : 1 ≤ s.numElem) (hs : s.Representable)
    (hw : s.WellSized) (hcomp : s.numComp = 1 ∨ (s.numComp - 1) * s.compStride < s.lSize)
    (hout : ∃ o ∈ s.offsets.entries, ¬ s.Addresses o) :
    ∃ i o, s.FirstOutside i o ∧
      s.plan = .error (.offsetOutOfRange (i / s.elemSize) (i % s.elemSize) o s.lSize) := by
  have hsome : ∃ o ∈ s.offsets.entries.toList.drop 0, ¬ s.Addresses o := by simpa using hout
  obtain ⟨i, o, hfirst, hfind⟩ := Buffer.exists_find?_drop
    (fun o => outside_eq_false_iff hw.numComp_pos) hsome
  rw [Nat.zero_add] at hfirst
  rw [List.drop_zero] at hfind
  refine ⟨i, o, hfirst, ?_⟩
  have hsizes := Creation.checkSizes_eq_ok_iff.2
    ⟨hw.elemSize_pos, hw.blockSize_pos, hw.numComp_pos, hw.compStride_pos⟩
  have hlengths := (checkLengths_eq_ok_iff hN hw.elemSize_pos hs).2
    ⟨hw.offsets_size, hw.orientation_size⟩
  unfold plan
  rw [hsizes, Loop.ok_bind, hlengths, Loop.ok_bind, if_pos hm,
    checkOffsets_eq (hs.shift_lt hcomp) hw.numComp_pos hcomp hw.compStride_pos, hfind]
  rfl

end OffsetSpec

end GatherScatter
