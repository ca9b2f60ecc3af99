import GatherScatter.Proofs.Blocking
import GatherScatter.Proofs.Creation.Exact

/-!
# What the checks of creation guarantee

A request that passes the checks has consistent sizes, and its index data stay inside the L-vector.

* `OffsetSpec.Planned`, `StridedSpec.Planned`, `PointsSpec.Planned`: what a plan that succeeded
  says about the request, the shape and the index data.
* `planned_of_plan` for each of the three: every successful plan is such a plan.
-/
namespace GatherScatter

/-! ## Single checks -/

namespace Size

theorem foldlM_mul?_eq_some {fs : List Nat} {a p : Nat} (h : fs.foldlM mul? a = some p) :
    p = a * fs.prod := by
  induction fs generalizing a with
  | nil => cases h; simp
  | cons f fs ih =>
    rw [List.foldlM_cons] at h
    obtain ⟨q, hq, h⟩ := Option.bind_eq_some_iff.1 h
    rw [ih h, (mul?_eq_some_iff.1 hq).1, List.prod_cons, Nat.mul_assoc]

theorem product_eq_ok {what : String} {fs : List Nat} {p : Nat} (h : product what fs = .ok p) :
    p = fs.prod := by
  unfold product at h
  split at h
  · rename_i q hq
    cases h
    rw [foldlM_mul?_eq_some hq, Nat.one_mul]
  · cases h

end Size

namespace Creation

/-- Offsets that passed address the L-vector in every component. -/
theorem checkOffsets_eq_ok {offsets : Array Int} {elemSize numComp compStride lSize : Nat}
    {r : Unit} (h : checkOffsets offsets elemSize numComp compStride lSize = .ok r) :
    ∀ o ∈ offsets, 0 ≤ o ∧ o.toNat + (numComp - 1) * compStride < lSize := by
  unfold checkOffsets at h
  obtain ⟨last, hlast, h⟩ := Loop.bind_eq_ok.1 h
  obtain ⟨-, h⟩ := Loop.refuse_eq_ok.1 h
  have hl := Size.product_eq_ok hlast
  simp only [List.prod_cons, List.prod_nil, Nat.mul_one] at hl
  subst hl
  split at h
  · cases h
  rename_i hf
  intro o ho
  exact outside_eq_false_iff.1 (Loop.find?_zipIdx_eq_none_iff.1 hf o (by simpa using ho))

end Creation

namespace Strides

theorem address_le {t : Strides} {n k e n' k' e' : Nat} (hn : n ≤ n') (hk : k ≤ k') (he : e ≤ e') :
    t.address n k e ≤ t.address n' k' e' := by
  have h1 := Nat.mul_le_mul_right t.node hn
  have h2 := Nat.mul_le_mul_right t.comp hk
  have h3 := Nat.mul_le_mul_right t.elem he
  unfold address
  omega

theorem packed_address_lt {elemSize numComp numElem n k e : Nat} (hn : n < elemSize)
    (hk : k < numComp) (he : e < numElem) :
    (packed elemSize numComp).address n k e < numElem * elemSize * numComp := by
  have h := mul_add_lt (mul_add_lt he hk) hn
  have e1 : (packed elemSize numComp).address n k e = (e * numComp + k) * elemSize + n := by
    simp only [address, packed]; ring
  rw [e1, Nat.mul_assoc, Nat.mul_comm elemSize, ← Nat.mul_assoc]
  exact h

end Strides

namespace Creation

/-- Strides that passed, once the choice left to the backend is made, stay inside the L-vector. -/
theorem checkStrides_eq_ok {numElem elemSize numComp lSize : Nat} {t : Strides} {r : Unit}
    (h : checkStrides numElem elemSize numComp lSize t = .ok r) :
    ∀ n < elemSize, ∀ k < numComp, ∀ e < numElem,
      (if t = .unset then Strides.packed elemSize numComp else t).address n k e < lSize := by
  intro n hn k hk e he
  unfold checkStrides at h
  obtain ⟨needed, hneeded, h⟩ := Loop.bind_eq_ok.1 h
  obtain ⟨hle, h⟩ := Loop.refuse_eq_ok.1 h
  have hprod := Size.product_eq_ok hneeded
  simp only [List.prod_cons, List.prod_nil, Nat.mul_one, ← Nat.mul_assoc] at hprod
  by_cases ht : t = .unset
  · rw [if_pos ht]
    have := Strides.packed_address_lt hn hk he
    omega
  · rw [if_neg ht]
    rw [if_pos ⟨ht, by omega⟩] at h
    split at h
    · cases h
    rename_i last hlast
    split at h
    · cases h
    obtain ⟨hlast, -⟩ := lastAddress?_eq_some_iff.1 hlast
    have := t.address_le (show n ≤ elemSize - 1 by omega) (show k ≤ numComp - 1 by omega)
      (show e ≤ numElem - 1 by omega)
    omega

end Creation

/-! ## Plans -/

theorem Shape.blocked_eq_ok {kind : Kind}
    {numElem elemSize blockSize numComp compStride lSize : Nat} {strides : Option Strides}
    {shape : Shape}
    (h : Shape.blocked kind numElem elemSize blockSize numComp compStride lSize strides =
      .ok shape) :
    shape = ⟨kind, numElem, elemSize, numComp, compStride, lSize,
      numBlocks numElem blockSize * blockSize * elemSize * numComp, blockSize,
      numBlocks numElem blockSize, 0, strides⟩ := by
  unfold Shape.blocked at h
  obtain ⟨eSize, heSize, h⟩ := Loop.bind_eq_ok.1 h
  cases h
  rw [Size.product_eq_ok heSize]
  simp [Nat.mul_assoc]

theorem Shape.eSize_lt_of_blocked {kind : Kind}
    {numElem elemSize blockSize numComp compStride lSize : Nat} {strides : Option Strides}
    {shape : Shape}
    (h : Shape.blocked kind numElem elemSize blockSize numComp compStride lSize strides =
      .ok shape)
    (hE : 1 ≤ elemSize) (hB : 1 ≤ blockSize) (hC : 1 ≤ numComp) : shape.eSize < 2 ^ 64 := by
  have hlt := (exists_blocked_iff hE hB hC).1 ⟨shape, h⟩
  rwa [blocked_eq_ok h, numBlocks_eq_ceilDiv hB]

/-- A block is not longer than the E-vector. -/
theorem Shape.blockLen_lt_of_eSize {s : Shape} (he : s.eSize = s.numBlock * s.blockLen)
    (hlt : s.eSize < 2 ^ 64) (hb : 0 < s.numBlock) : s.blockLen < 2 ^ 64 := by
  have hle := Nat.le_mul_of_pos_left s.blockLen hb
  omega

/-- Orientation data in the form in which an apply reads them. -/
def OffsetSpec.Oriented (s : OffsetSpec) : Orientation → Prop
  | .plain => s.orientation = .plain
  | .signs out => ∃ flips, s.orientation = .signs flips ∧
      Blocking.Interleaved flips.entries out.entries s.numElem s.elemSize s.blockSize
  | .curl out => ∃ rows, s.orientation = .curl rows ∧
      Blocking.Interleaved rows.entries out.entries s.numElem (3 * s.elemSize) s.blockSize

/-- What a plan says about an offset-based request. -/
structure OffsetSpec.Planned (s : OffsetSpec) (shape : Shape) (data : IndexData) : Prop where
  elemSize_pos : 0 < s.elemSize
  blockSize_pos : 0 < s.blockSize
  numComp_pos : 0 < s.numComp
  shape_eq : shape = ⟨s.orientation.kind, s.numElem, s.elemSize, s.numComp, s.compStride, s.lSize,
    numBlocks s.numElem s.blockSize * s.blockSize * s.elemSize * s.numComp, s.blockSize,
    numBlocks s.numElem s.blockSize, 0, none⟩
  eSize_lt : shape.eSize < 2 ^ 64
  mem_eq : data.mem = s.mem
  inside : s.mem = .host → ∀ o ∈ s.offsets.entries,
    0 ≤ o ∧ o.toNat + (s.numComp - 1) * s.compStride < s.lSize
  offsets : ∃ out, data.offsets = some out ∧
    Blocking.Interleaved s.offsets.entries out.entries s.numElem s.elemSize s.blockSize
  oriented : s.Oriented data.orientation

theorem OffsetSpec.checkLengths_eq_ok {s : OffsetSpec} {r : Unit} (h : s.checkLengths = .ok r) :
    s.offsets.entries.size = s.numElem * s.elemSize ∧
    (∀ flips, s.orientation = .signs flips → flips.entries.size = s.numElem * s.elemSize) ∧
    (∀ rows, s.orientation = .curl rows → rows.entries.size = s.numElem * (3 * s.elemSize)) := by
  unfold checkLengths at h
  obtain ⟨n, hn, h⟩ := Loop.bind_eq_ok.1 h
  obtain ⟨_, hoff, h⟩ := Loop.bind_eq_ok.1 h
  have hn := Size.product_eq_ok hn
  simp only [List.prod_cons, List.prod_nil, Nat.mul_one] at hn
  have hoff := Creation.checkLength_eq_ok_iff.1 hoff
  refine ⟨hoff.trans hn, fun flips hf => ?_, fun rows hr => ?_⟩
  · rw [hf] at h
    exact (Creation.checkLength_eq_ok_iff.1 h).trans hn
  · rw [hr] at h
    obtain ⟨m, hm, h⟩ := Loop.bind_eq_ok.1 h
    have hm := Size.product_eq_ok hm
    simp only [List.prod_cons, List.prod_nil, Nat.mul_one] at hm
    have := Creation.checkLength_eq_ok_iff.1 h
    unfold IndexArray.size at this
    rw [this, hm, hn]; ring

/-- Without blocks, the arrays of the request are handed on as they are. -/
theorem OffsetSpec.data_unblocked {s : OffsetSpec} (h : ¬ 1 < s.blockSize) :
    s.data = .ok ⟨s.mem, some s.offsets, s.orientation⟩ := by
  rw [OffsetSpec.data, if_neg h]

theorem OffsetSpec.data_eq_ok {s : OffsetSpec} {data : IndexData} (hB : 0 < s.blockSize)
    (hlen : s.checkLengths = .ok ()) (h : s.data = .ok data) :
    data.mem = s.mem ∧
    (∃ out, data.offsets = some out ∧
      Blocking.Interleaved s.offsets.entries out.entries s.numElem s.elemSize s.blockSize) ∧
    s.Oriented data.orientation := by
  obtain ⟨hoff, hflips, hrows⟩ := checkLengths_eq_ok hlen
  unfold OffsetSpec.data at h
  split at h
  · obtain ⟨out, hout, h⟩ := Loop.bind_eq_ok.1 h
    obtain ⟨orientation, hor, h⟩ := Loop.bind_eq_ok.1 h
    cases h
    refine ⟨rfl, ⟨_, rfl, Blocking.interleaved_permutePad hout⟩, ?_⟩
    unfold blockedOrientation at hor
    split at hor
    · cases hor
      assumption
    · rename_i flips hf
      obtain ⟨out, hout, hor⟩ := Loop.bind_eq_ok.1 hor
      cases hor
      exact ⟨flips, hf, Blocking.interleaved_permutePad hout⟩
    · rename_i rows hr
      obtain ⟨out, hout, hor⟩ := Loop.bind_eq_ok.1 hor
      cases hor
      exact ⟨rows, hr, Blocking.interleaved_permutePad hout⟩
  · cases h
    have hone : s.blockSize = 1 := by omega
    refine ⟨rfl, ⟨_, rfl, hone ▸ Blocking.interleaved_self hoff⟩, ?_⟩
    dsimp only
    cases ho : s.orientation with
    | plain => exact ho
    | signs flips => exact ⟨flips, ho, hone ▸ Blocking.interleaved_self (hflips flips ho)⟩
    | curl rows => exact ⟨rows, ho, hone ▸ Blocking.interleaved_self (hrows rows ho)⟩

/-- A plan is made exactly when all checks pass. -/
theorem OffsetSpec.plan_eq_ok_iff {s : OffsetSpec} {shape : Shape} {data : IndexData} :
    s.plan = .ok (shape, data) ↔
      Creation.checkSizes s.elemSize s.blockSize s.numComp s.compStride = .ok () ∧
      s.checkLengths = .ok () ∧
      (s.mem = .host → Creation.checkOffsets s.offsets.entries s.elemSize s.numComp s.compStride
        s.lSize = .ok ()) ∧
      Shape.blocked s.orientation.kind s.numElem s.elemSize s.blockSize s.numComp s.compStride
        s.lSize none = .ok shape ∧
      s.data = .ok data := by
  have hrest : (do
      let shape ← Shape.blocked s.orientation.kind s.numElem s.elemSize s.blockSize s.numComp
        s.compStride s.lSize none
      return (shape, ← s.data)) = .ok (shape, data) ↔
      Shape.blocked s.orientation.kind s.numElem s.elemSize s.blockSize s.numComp s.compStride
        s.lSize none = .ok shape ∧ s.data = .ok data := by
    constructor
    · intro h
      obtain ⟨shape', hshape, h⟩ := Loop.bind_eq_ok.1 h
      obtain ⟨data', hdata, h⟩ := Loop.bind_eq_ok.1 h
      cases h
      exact ⟨hshape, hdata⟩
    · intro ⟨hshape, hdata⟩
      exact Loop.bind_eq_ok.2 ⟨shape, hshape, Loop.bind_eq_ok.2 ⟨data, hdata, rfl⟩⟩
  unfold plan
  rw [Loop.check_eq_ok, Loop.check_eq_ok]
  by_cases hm : s.mem = .host
  · rw [if_pos hm, Loop.check_eq_ok, hrest]
    simp only [hm, forall_const]
  · rw [if_neg hm, hrest]
    simp only [hm, false_imp_iff, true_and]

theorem OffsetSpec.planned_of_plan {s : OffsetSpec} {shape : Shape} {data : IndexData}
    (h : s.plan = .ok (shape, data)) : s.Planned shape data := by
  obtain ⟨hsizes, hlen, hinside, hshape, hdata⟩ := plan_eq_ok_iff.1 h
  obtain ⟨hE, hB, hC, -⟩ := Creation.checkSizes_eq_ok_iff.1 hsizes
  obtain ⟨h1, h2, h3⟩ := data_eq_ok hB hlen hdata
  exact ⟨hE, hB, hC, Shape.blocked_eq_ok hshape, Shape.eSize_lt_of_blocked hshape hE hB hC, h1,
    fun hm => Creation.checkOffsets_eq_ok (hinside hm), h2, h3⟩

/-- What a plan says about a strided request. -/
structure StridedSpec.Planned (s : StridedSpec) (shape : Shape) (data : IndexData) : Prop where
  elemSize_pos : 0 < s.elemSize
  blockSize_pos : 0 < s.blockSize
  numComp_pos : 0 < s.numComp
  shape_eq : shape = ⟨.strided, s.numElem, s.elemSize, s.numComp, 1, s.lSize,
    numBlocks s.numElem s.blockSize * s.blockSize * s.elemSize * s.numComp, s.blockSize,
    numBlocks s.numElem s.blockSize, 0, some s.strides⟩
  eSize_lt : shape.eSize < 2 ^ 64
  data_eq : data = {}
  inside : ∀ n < s.elemSize, ∀ k < s.numComp, ∀ e < s.numElem,
    (if s.strides = .unset then Strides.packed s.elemSize s.numComp else s.strides).address n k e <
      s.lSize

theorem StridedSpec.planned_of_plan {s : StridedSpec} {shape : Shape} {data : IndexData}
    (h : s.plan = .ok (shape, data)) : s.Planned shape data := by
  unfold plan at h
  obtain ⟨_, hsizes, h⟩ := Loop.bind_eq_ok.1 h
  obtain ⟨_, hstrides, h⟩ := Loop.bind_eq_ok.1 h
  obtain ⟨shape', hshape, h⟩ := Loop.bind_eq_ok.1 h
  cases h
  obtain ⟨hE, hB, hC, -⟩ := Creation.checkSizes_eq_ok_iff.1 hsizes
  exact ⟨hE, hB, hC, Shape.blocked_eq_ok hshape, Shape.eSize_lt_of_blocked hshape hE hB hC, rfl,
    Creation.checkStrides_eq_ok hstrides⟩

/-- Range starts that rise from the end of the starts to the end of the array. -/
structure PointStarts (offsets : Array Int) (numElem numPoints : Nat) : Prop where
  size_eq : offsets.size = numElem + 1 + numPoints
  first : offsets.getD 0 0 = (numElem + 1 : Nat)
  last : offsets.getD numElem 0 = offsets.size
  rising : ∀ e < numElem, offsets.getD e 0 ≤ offsets.getD (e + 1) 0

/-- Point data that passed the checks: the range starts are well-formed, and every point has its
components in the L-vector. -/
structure PointRanges (offsets : Array Int) (numElem numPoints numComp lSize : Nat) : Prop
    extends PointStarts offsets numElem numPoints where
  inside : ∀ i, numElem < i → i < offsets.size →
    0 ≤ offsets.getD i 0 ∧ (offsets.getD i 0).toNat < lSize / numComp

theorem Creation.checkPoints_eq_ok {offsets : Array Int} {numElem numPoints numComp lSize m : Nat}
    (h : checkPoints offsets numElem numPoints numComp lSize = .ok m) :
    PointRanges offsets numElem numPoints numComp lSize := by
  unfold checkPoints at h
  obtain ⟨head, hhead, h⟩ := Loop.bind_eq_ok.1 h
  obtain ⟨total, htotal, h⟩ := Loop.bind_eq_ok.1 h
  obtain ⟨_, hlen, h⟩ := Loop.bind_eq_ok.1 h
  obtain ⟨first, hfirst, h⟩ := Loop.bind_eq_ok.1 h
  obtain ⟨last, hlast, h⟩ := Loop.bind_eq_ok.1 h
  obtain ⟨hspan, h⟩ := Loop.refuse_eq_ok.1 h
  obtain ⟨m', hstep, h⟩ := Loop.bind_eq_ok.1 h
  have hhead := (Size.sum_eq_ok_iff.1 hhead).1
  have htotal := (Size.sum_eq_ok_iff.1 htotal).1
  have hlen := checkLength_eq_ok_iff.1 hlen
  have hfirst := Buffer.read_eq_ok_iff.1 hfirst
  have hlast := Buffer.read_eq_ok_iff.1 hlast
  have hget (i : Nat) : offsets.getD i 0 = offsets[i]?.getD 0 := Array.getD_eq_getD_getElem?
  subst hhead
  rw [not_or, not_not, not_not] at hspan
  refine ⟨⟨by omega, ?_, ?_, fun e he => ?_⟩, fun i hi hlt => ?_⟩
  · rw [hget, hfirst]; exact hspan.1
  · rw [hget, hlast]; exact hspan.2
  · have := (largestStep_eq_ok_iff.1 hstep).1 e (by simp; omega)
    rw [hget, hget]
    simpa [List.getElem?_take, show e < numElem + 1 by omega, he] using this
  · split at h
    · obtain ⟨_, -, h⟩ := Loop.bind_eq_ok.1 h
      cases h
    rename_i hf
    have hm : offsets[i] ∈ offsets.toList.drop (numElem + 1) := by
      refine List.mem_of_getElem? (i := i - (numElem + 1)) ?_
      rw [List.getElem?_drop, show numElem + 1 + (i - (numElem + 1)) = i by omega]
      simp [hlt]
    rw [hget, Array.getElem?_eq_getElem hlt]
    exact outside_eq_false_iff.1 (Loop.find?_zipIdx_eq_none_iff.1 hf _ hm)

/-- What a plan says about a request onto points. -/
structure PointsSpec.Planned (s : PointsSpec) (shape : Shape) (data : IndexData) : Prop where
  numComp_pos : 0 < s.numComp
  shape_eq : ∃ maxPoints, shape = ⟨.points, s.numElem, maxPoints, s.numComp, 1, s.lSize,
    s.numPoints * s.numComp, 1, s.numElem, s.numPoints, none⟩
  data_eq : data = ⟨s.mem, some s.offsets, .plain⟩
  ranges : s.mem = .host →
    PointRanges s.offsets.entries s.numElem s.numPoints s.numComp s.lSize

theorem PointsSpec.planned_of_plan {s : PointsSpec} {shape : Shape} {data : IndexData}
    (h : s.plan = .ok (shape, data)) : s.Planned shape data := by
  unfold plan at h
  obtain ⟨hcomp, h⟩ := Loop.refuse_eq_ok.1 h
  obtain ⟨eSize, heSize, h⟩ := Loop.bind_eq_ok.1 h
  obtain ⟨hle, h⟩ := Loop.refuse_eq_ok.1 h
  have heSize := Size.product_eq_ok heSize
  simp only [List.prod_cons, List.prod_nil, Nat.mul_one] at heSize
  subst heSize
  cases hm : s.mem with
  | host =>
    rw [hm] at h
    obtain ⟨maxPoints, hpoints, h⟩ := Loop.bind_eq_ok.1 h
    cases h
    exact ⟨by omega, ⟨maxPoints, rfl⟩, by rw [hm], fun _ => Creation.checkPoints_eq_ok hpoints⟩
  | device =>
    rw [hm] at h
    obtain ⟨total, -, h⟩ := Loop.bind_eq_ok.1 h
    obtain ⟨_, -, h⟩ := Loop.bind_eq_ok.1 h
    cases h
    exact ⟨by omega, ⟨0, rfl⟩, by rw [hm], fun hm' => by rw [hm] at hm'; cases hm'⟩

end GatherScatter
