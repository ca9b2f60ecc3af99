import GatherScatter.Proofs.Creation.Exact
import GatherScatter.Proofs.Reference.Stencil

/-!
# Which strided requests have a plan

A strided request is planned exactly if its sizes fit, the L-vector has room for as many entries as
there are nodes, and the strides address the L-vector at every node. The checks look at one corner
alone, step by step; strides that are left to the backend are packed and need no further look.

* `StridedSpec.Acceptable`: these conditions, in exact arithmetic.
* `StridedSpec.plan_isOk_iff`: they are what a plan needs.
* `Creation.checkStrides_lt`: what is counted on the way is a size.
-/
namespace GatherScatter

/-- Sizes fit, the L-vector has room for all nodes and is addressed by all of them, and the E-vector
has a size. -/
structure StridedSpec.Acceptable (s : StridedSpec) : Prop where
  elemSize_pos : 1 ≤ s.elemSize
  blockSize_pos : 1 ≤ s.blockSize
  numComp_pos : 1 ≤ s.numComp
  room : s.numElem * s.elemSize * s.numComp ≤ s.lSize
  eSize_lt : s.numElem ⌈/⌉ s.blockSize * s.blockSize * s.elemSize * s.numComp < 2 ^ 64
  inside : ∀ n < s.elemSize, ∀ k < s.numComp, ∀ e < s.numElem,
    n * s.effective.node + k * s.effective.comp + e * s.effective.elem < s.lSize

namespace Creation

variable {numElem elemSize numComp lSize : Nat} {t : Strides}

/-- The corner is the largest address, so a look at it is a look at all nodes. -/
theorem checkStrides_eq_ok_iff (hE : 1 ≤ elemSize) (hC : 1 ≤ numComp) (hl : lSize < 2 ^ 64) :
    checkStrides numElem elemSize numComp lSize t = .ok () ↔
      numElem * elemSize * numComp ≤ lSize ∧ ∀ n < elemSize, ∀ k < numComp, ∀ e < numElem,
        (if t = .unset then Strides.packed elemSize numComp else t).address n k e < lSize := by
  refine ⟨fun h => ⟨?_, checkStrides_eq_ok h⟩, fun ⟨hroom, hinside⟩ => ?_⟩
  · obtain ⟨needed, hp, h⟩ := Loop.bind_eq_ok.1 h
    obtain ⟨hle, -⟩ := Loop.refuse_eq_ok.1 h
    rw [((Size.product_triple_eq_ok_iff hE hC).1 hp).1] at hle
    omega
  · unfold checkStrides
    dsimp only
    rw [(Size.product_triple_eq_ok_iff hE hC).2 ⟨rfl, by rw [indexLimit_eq]; omega⟩, Loop.ok_bind,
      if_neg (by omega)]
    by_cases ht : t ≠ .unset ∧ 0 < numElem
    · have hcorner := hinside (elemSize - 1) (by omega) (numComp - 1) (by omega) (numElem - 1)
        (by omega)
      rw [if_neg ht.1] at hcorner
      rw [if_pos ht, lastAddress?_eq_some_iff.2 ⟨rfl, by rw [indexLimit_eq]; omega⟩]
      dsimp only
      rw [if_neg (by omega)]
      rfl
    · rw [if_neg ht]
      rfl

/-- What passed was counted without leaving the index range. -/
theorem checkStrides_lt (hE : 1 ≤ elemSize) (hC : 1 ≤ numComp)
    (h : checkStrides numElem elemSize numComp lSize t = .ok ()) :
    numElem * elemSize * numComp < 2 ^ 64 ∧ (t ≠ .unset ∧ 0 < numElem →
      t.address (elemSize - 1) (numComp - 1) (numElem - 1) < 2 ^ 64) := by
  unfold checkStrides at h
  obtain ⟨needed, hneeded, hrest⟩ := Loop.bind_eq_ok.1 h
  obtain ⟨-, hcorner⟩ := Loop.refuse_eq_ok.1 hrest
  obtain ⟨hall, hlt⟩ := (Size.product_triple_eq_ok_iff hE hC).1 hneeded
  refine ⟨hall ▸ hlt, fun ht => ?_⟩
  rw [if_pos ht] at hcorner
  split at hcorner
  · cases hcorner
  · rename_i last hlast
    obtain ⟨rfl, hlt⟩ := lastAddress?_eq_some_iff.1 hlast
    exact hlt

end Creation

/-- A strided request has a plan exactly if it is acceptable. -/
theorem StridedSpec.plan_isOk_iff {s : StridedSpec} (hl : s.lSize < 2 ^ 64) :
    s.plan.isOk ↔ s.Acceptable := by
  constructor
  · intro h
    obtain ⟨⟨shape, data⟩, hp⟩ := Loop.isOk_iff.1 h
    obtain ⟨_, hsizes, hp⟩ := Loop.bind_eq_ok.1 hp
    obtain ⟨_, hstrides, hp⟩ := Loop.bind_eq_ok.1 hp
    obtain ⟨shape', hshape, -⟩ := Loop.bind_eq_ok.1 hp
    obtain ⟨hE, hB, hC, -⟩ := Creation.checkSizes_eq_ok_iff.1 hsizes
    obtain ⟨hroom, hinside⟩ := (Creation.checkStrides_eq_ok_iff hE hC hl).1 hstrides
    exact ⟨hE, hB, hC, hroom, (Shape.exists_blocked_iff hE hB hC).1 ⟨shape', hshape⟩, hinside⟩
  · intro ⟨hE, hB, hC, hroom, heSize, hinside⟩
    have hexists : ∃ shape, Shape.blocked .strided s.numElem s.elemSize s.blockSize s.numComp 1
        s.lSize (some s.strides) = .ok shape := (Shape.exists_blocked_iff hE hB hC).2 heSize
    obtain ⟨shape, hshape⟩ := hexists
    unfold plan
    rw [Creation.checkSizes_eq_ok_iff.2 ⟨hE, hB, hC, .inl (Nat.le_refl 1)⟩, Loop.ok_bind,
      (Creation.checkStrides_eq_ok_iff hE hC hl).2 ⟨hroom, hinside⟩, Loop.ok_bind, hshape]
    rfl

end GatherScatter
