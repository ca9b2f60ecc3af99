import GatherScatter.Proofs.Creation.Points

/-!
# Shapes of accepted requests

The sizes of a shape are computed at creation and never again. Those of an accepted request fit
together, and no step of their computation leaves the index range, however close to it they are.

* `Shape.Coherent`: what fits together.
* `Spec.coherent_of_plan`: the shape of every accepted request is coherent.
* `Spec.blockLen_lt_of_plan`: where there are elements, the length of a block is a size as well.
* `Shape.Coherent.validate_eq`: a coherent shape breaks no rule while it is referenced.
-/
namespace GatherScatter

/-- The sizes of a shape fit together and are computed inside the index range. -/
structure Shape.Coherent (s : Shape) : Prop where
  blockSize_pos : 1 ≤ s.blockSize
  numBlock_eq : s.numBlock = s.numElem ⌈/⌉ s.blockSize
  /-- The blocks cover the elements, and none of them is empty. -/
  covers : 0 < s.numElem →
    (s.numBlock - 1) * s.blockSize < s.numElem ∧ s.numElem ≤ s.numBlock * s.blockSize
  eSize_eq : s.eSize = if s.kind = .points then s.numPoints * s.numComp
    else s.numBlock * s.blockSize * s.elemSize * s.numComp
  strides_iff : s.strides.isSome ↔ s.kind = .strided
  numElem_lt : s.numElem < 2 ^ 64
  lanes_lt : s.numBlock * s.blockSize < 2 ^ 64
  nodes_lt : s.kind ≠ .points → s.numBlock * s.blockSize * s.elemSize < 2 ^ 64
  eSize_lt : s.eSize < 2 ^ 64

/-- The blocks cover all elements. -/
theorem le_ceilDiv_mul {numElem blockSize : Nat} (hB : 1 ≤ blockSize) :
    numElem ≤ numElem ⌈/⌉ blockSize * blockSize := by
  have h : ¬ numElem ⌈/⌉ blockSize < numBlocks numElem blockSize ↔
      ¬ numElem ⌈/⌉ blockSize * blockSize < numElem := (lt_numBlocks_iff hB).not
  rw [numBlocks_eq_ceilDiv hB] at h
  omega

/-- The last block has an element. -/
theorem pred_ceilDiv_mul_lt {numElem blockSize : Nat} (hB : 1 ≤ blockSize) (hN : 0 < numElem) :
    (numElem ⌈/⌉ blockSize - 1) * blockSize < numElem := by
  have hpos : 0 < numElem ⌈/⌉ blockSize := by
    rw [← numBlocks_eq_ceilDiv hB, lt_numBlocks_iff hB]
    omega
  rw [← lt_numBlocks_iff hB, numBlocks_eq_ceilDiv hB]
  omega

namespace Shape

/-- Where all elements have the same number of nodes, the size of the E-vector bounds the steps of
its computation. -/
theorem coherent_of_blocked {kind : Kind}
    {numElem elemSize blockSize numComp compStride lSize : Nat} {strides : Option Strides}
    {shape : Shape}
    (h : Shape.blocked kind numElem elemSize blockSize numComp compStride lSize strides =
      .ok shape)
    (hE : 1 ≤ elemSize) (hB : 1 ≤ blockSize) (hC : 1 ≤ numComp) (hpoints : kind ≠ .points)
    (hstrides : strides.isSome ↔ kind = .strided) : shape.Coherent := by
  have hlt := (exists_blocked_iff hE hB hC).1 ⟨shape, h⟩
  have heq := blocked_eq_ok h
  rw [numBlocks_eq_ceilDiv hB] at heq
  have hnodes := Nat.le_mul_of_pos_right (numElem ⌈/⌉ blockSize * blockSize * elemSize) hC
  have hlanes := Nat.le_mul_of_pos_right (numElem ⌈/⌉ blockSize * blockSize) hE
  have hcover : numElem ≤ numElem ⌈/⌉ blockSize * blockSize := le_ceilDiv_mul hB
  subst heq
  exact {
    blockSize_pos := hB
    numBlock_eq := rfl
    covers := fun hN => ⟨pred_ceilDiv_mul_lt hB hN, hcover⟩
    eSize_eq := (if_neg hpoints).symm
    strides_iff := hstrides
    numElem_lt := by dsimp only; omega
    lanes_lt := by dsimp only; omega
    nodes_lt := fun _ => by dsimp only; omega
    eSize_lt := hlt }

/-- Points come without blocks. -/
theorem coherent_points {numElem maxPoints numComp lSize numPoints : Nat}
    (hN : numElem < 2 ^ 64) (he : numPoints * numComp < 2 ^ 64) :
    Coherent ⟨.points, numElem, maxPoints, numComp, 1, lSize, numPoints * numComp, 1, numElem,
      numPoints, none⟩ where
  blockSize_pos := Nat.le_refl 1
  numBlock_eq := (ceilDiv_one numElem).symm
  covers hpos := by dsimp only at hpos ⊢; omega
  eSize_eq := rfl
  strides_iff := by simp
  numElem_lt := hN
  lanes_lt := by dsimp only; omega
  nodes_lt h := absurd rfl h
  eSize_lt := he

/-- The library's own check finds nothing wrong with a coherent shape that is referenced. -/
theorem Coherent.validate_eq {s : Shape} (h : s.Coherent) {refCount : Nat} (hpos : 1 ≤ refCount) :
    s.validate refCount = .ok () := by
  have hsize : s.eSize = s.entryCount := by
    rw [h.eSize_eq, entryCount, isPoints]
    simp only [beq_iff_eq]
  have hcover : ¬ s.numBlock * s.blockSize < s.numElem := by
    rcases Nat.eq_zero_or_pos s.numElem with h0 | hN
    · omega
    · have := (h.covers hN).2
      omega
  have hstrides : s.strides.isSome = s.isStrided := by
    rw [Bool.eq_iff_iff, h.strides_iff, isStrided, beq_iff_eq]
  unfold validate
  rw [if_neg (not_not.2 hsize), if_neg hcover, if_neg (not_not.2 hstrides), if_neg (by omega)]

end Shape

/-! ## Plans -/

theorem OffsetSpec.coherent_of_plan {s : OffsetSpec} {shape : Shape} {data : IndexData}
    (h : s.plan = .ok (shape, data)) : shape.Coherent := by
  obtain ⟨hsizes, -, -, hshape, -⟩ := plan_eq_ok_iff.1 h
  obtain ⟨hE, hB, hC, -⟩ := Creation.checkSizes_eq_ok_iff.1 hsizes
  refine Shape.coherent_of_blocked hshape hE hB hC ?_ ?_ <;> cases s.orientation <;>
    simp [Orientation.kind]

theorem StridedSpec.coherent_of_plan {s : StridedSpec} {shape : Shape} {data : IndexData}
    (h : s.plan = .ok (shape, data)) : shape.Coherent := by
  unfold plan at h
  obtain ⟨_, hsizes, h⟩ := Loop.bind_eq_ok.1 h
  obtain ⟨_, -, h⟩ := Loop.bind_eq_ok.1 h
  obtain ⟨shape', hshape, h⟩ := Loop.bind_eq_ok.1 h
  cases h
  obtain ⟨hE, hB, hC, -⟩ := Creation.checkSizes_eq_ok_iff.1 hsizes
  exact Shape.coherent_of_blocked hshape hE hB hC (by simp) (by simp)

/-- The offsets of a request onto points are counted before they are used, whether or not they can
be read. -/
theorem PointsSpec.lt_of_plan {s : PointsSpec} {shape : Shape} {data : IndexData}
    (h : s.plan = .ok (shape, data)) : s.numElem < 2 ^ 64 ∧ s.numPoints * s.numComp < 2 ^ 64 := by
  unfold plan at h
  obtain ⟨hcomp, h⟩ := Loop.refuse_eq_ok.1 h
  obtain ⟨eSize, heSize, h⟩ := Loop.bind_eq_ok.1 h
  obtain ⟨-, h⟩ := Loop.refuse_eq_ok.1 h
  obtain ⟨rfl, hlt⟩ := (Size.product_pair_eq_ok_iff (.inr (by omega))).1 heSize
  refine ⟨?_, hlt⟩
  cases hm : s.mem with
  | host =>
    rw [hm] at h
    obtain ⟨maxPoints, hpoints, -⟩ := Loop.bind_eq_ok.1 h
    obtain ⟨head, hhead, -⟩ := Loop.bind_eq_ok.1 hpoints
    obtain ⟨rfl, hlt⟩ := Size.sum_eq_ok_iff.1 hhead
    rw [indexLimit_eq] at hlt
    omega
  | device =>
    rw [hm] at h
    obtain ⟨total, htotal, -⟩ := Loop.bind_eq_ok.1 h
    obtain ⟨rfl, hlt⟩ := Size.sum_eq_ok_iff.1 htotal
    rw [indexLimit_eq] at hlt
    omega

theorem PointsSpec.coherent_of_plan {s : PointsSpec} {shape : Shape} {data : IndexData}
    (h : s.plan = .ok (shape, data)) : shape.Coherent := by
  obtain ⟨hN, he⟩ := lt_of_plan h
  obtain ⟨maxPoints, rfl⟩ := (planned_of_plan h).shape_eq
  exact Shape.coherent_points hN he

/-- Where there is an element there is a block, and the E-vector has room for it. -/
theorem Shape.Coherent.blockLen_lt {s : Shape} (h : s.Coherent) (hkind : s.kind ≠ .points)
    (hN : 0 < s.numElem) : s.blockLen < 2 ^ 64 := by
  refine blockLen_lt_of_eSize ?_ h.eSize_lt (Nat.pos_of_ne_zero ?_)
  · rw [h.eSize_eq, if_neg hkind, blockLen]
    ring
  · intro h0
    have := (h.covers hN).2
    rw [h0, Nat.zero_mul] at this
    omega

theorem PointsSpec.blockLen_lt_of_plan {s : PointsSpec} {shape : Shape} {data : IndexData}
    (h : s.plan = .ok (shape, data)) : shape.blockLen < 2 ^ 64 := by
  have hle := Nat.mul_le_mul_right s.numComp (elemSize_le_of_plan h)
  have hlt := (lt_of_plan h).2
  obtain ⟨maxPoints, rfl⟩ := (planned_of_plan h).shape_eq
  rw [Shape.blockLen, Nat.one_mul]
  exact Nat.lt_of_le_of_lt hle hlt

theorem Spec.coherent_of_plan {spec : Spec} {shape : Shape} {data : IndexData}
    (h : spec.plan = .ok (shape, data)) : shape.Coherent := by
  cases spec with
  | offsets s => exact OffsetSpec.coherent_of_plan h
  | strided s => exact StridedSpec.coherent_of_plan h
  | points s => exact PointsSpec.coherent_of_plan h

/-- Where there are elements, the length of a block is a size, so nothing is lost in computing it
without a check. Without elements there are no blocks, and it may be as large as it likes. -/
theorem Spec.blockLen_lt_of_plan {spec : Spec} {shape : Shape} {data : IndexData}
    (h : spec.plan = .ok (shape, data)) (hN : 0 < shape.numElem) : shape.blockLen < 2 ^ 64 := by
  cases spec with
  | offsets s =>
    refine (coherent_of_plan h).blockLen_lt ?_ hN
    rw [(OffsetSpec.planned_of_plan h).shape_eq]
    cases s.orientation <;> simp [Orientation.kind]
  | strided s =>
    refine (coherent_of_plan h).blockLen_lt ?_ hN
    rw [(StridedSpec.planned_of_plan h).shape_eq]
    simp
  | points s => exact PointsSpec.blockLen_lt_of_plan h

end GatherScatter
