import GatherScatter.Proofs.Reference.Apply

/-!
# Blocks are a matter of layout

The loops over blocks visit every node of every element exactly once, whatever the block size, and
the lanes past the last element are never scattered. So two operators that realize one stencil
differ in where they keep an element and in the order of a scatter, and in nothing else.

* `Realizes.terms_perm`: a scatter adds one term for each node of each element.
* `Realizes.terms_congr`: these terms do not depend on padding lanes.
* `Realizes.addAll_terms_eq`: in sums that may be reordered, blocks are invisible to a scatter.
-/
namespace GatherScatter

theorem Buffer.addAll_perm {R : Type} [CommRing R] (v : Array R) {xs ys : List (Nat × R)}
    (h : xs.Perm ys) : addAll v xs = addAll v ys := by
  apply Array.ext_getElem?
  intro i
  have hperm : (termsAt i xs).Perm (termsAt i ys) := (h.filter _).map _
  rw [getElem?_addAll, getElem?_addAll]
  congr 1
  funext old
  exact hperm.foldl_eq' (fun x _ y _ z => add_right_comm z x y) old

theorem Buffer.entry_congr {α : Type} [IntCast α] {u v : Array α} {i j : Nat}
    (h : u[i]? = v[j]?) : entry u i = entry v j := by
  rw [entry, entry, Array.getD_eq_getD_getElem?, Array.getD_eq_getD_getElem?, h]

theorem Stencil.scattered_congr {α : Type} [Add α] [Mul α] [IntCast α] (t : Stencil)
    {elemSize : Nat} (mode : Mode) {x y : Nat → α} (e : Nat) {n : Nat} (hn : n < elemSize)
    (h : ∀ m < elemSize, x m = y m) :
    t.scattered elemSize mode x e n = t.scattered elemSize mode y e n := by
  have hall : ∀ m ∈ n :: t.neighbours elemSize mode n, x m = y m := fun m hm =>
    h m (lt_of_mem_neighbours hn hm)
  rw [scattered, scattered, weightedSum, weightedSum, hall n List.mem_cons_self]
  apply List.foldl_ext
  intro acc m hm
  rw [hall m (List.mem_cons_of_mem n hm)]

namespace Reference.Operator

open Stencil

variable {op : Operator} {t : Stencil} {α : Type}

/-- The active lanes hold every node of every element exactly once. -/
theorem visits_active_perm {s : Shape} (hB : 0 < s.blockSize)
    (hN : s.numBlock = numBlocks s.numElem s.blockSize) :
    ((visits s s.activeLanes).map fun x =>
      (x.1 * s.blockSize + x.2.lane, x.2.comp, x.2.node)).Perm (TransposeMap.triples s) := by
  have hnodup : (TransposeMap.triples s).Nodup :=
    List.Nodup.of_map _ (by rw [TransposeMap.triples_map_reader]; exact List.nodup_range)
  have hactive : (visits s s.activeLanes).Nodup := by
    rw [visits_active]
    exact (nodup_visits s).filter _
  refine (List.perm_ext_iff_of_nodup (hactive.map_on ?_) hnodup).2 ?_
  · rintro ⟨b, k, n, j⟩ hx ⟨b', k', n', j'⟩ hy h
    have hj := (Shape.lt_activeLanes_iff.1 (mem_visits.1 hx).2.2.2).1
    have hj' := (Shape.lt_activeLanes_iff.1 (mem_visits.1 hy).2.2.2).1
    simp only [Prod.mk.injEq] at h hj hj'
    obtain ⟨hlane, rfl, rfl⟩ := h
    have hb := congrArg (· / s.blockSize) hlane
    have hr := congrArg (· % s.blockSize) hlane
    simp only [mul_add_div_of_lt hj, mul_add_div_of_lt hj', mul_add_mod_of_lt hj,
      mul_add_mod_of_lt hj'] at hb hr
    rw [hb, hr]
  · rintro ⟨e, k, n⟩
    rw [TransposeMap.mem_triples, List.mem_map]
    constructor
    · rintro ⟨⟨b, c⟩, hx, h⟩
      obtain ⟨-, hk, hn, hj⟩ := mem_visits.1 hx
      cases h
      exact ⟨(Shape.lt_activeLanes_iff.1 hj).2, hk, hn⟩
    · rintro ⟨he, hk, hn⟩
      have hdiv := Nat.div_add_mod' e s.blockSize
      refine ⟨(e / s.blockSize, ⟨k, n, e % s.blockSize⟩), mem_visits.2 ⟨?_, hk, hn, ?_⟩, ?_⟩
      · rw [hN]; exact div_lt_numBlocks hB he
      · exact Shape.lt_activeLanes_iff.2 ⟨Nat.mod_lt e hB, by dsimp only; omega⟩
      · rw [hdiv]

variable [Add α] [Mul α] [IntCast α]

namespace Realizes

/-- A scatter adds one term for each node of each element, in some order. -/
theorem terms_perm (h : op.Realizes t) (mode : Mode) (w : Array α) :
    (terms op.shape t mode w).Perm ((TransposeMap.triples op.shape).map fun x =>
      (t.address x.1 x.2.1 x.2.2, t.scattered op.shape.elemSize mode
        (fun m => Buffer.entry w (place op.shape (x.1 / op.shape.blockSize)
          ⟨x.2.1, m, x.1 % op.shape.blockSize⟩)) x.1 x.2.2)) := by
  refine .trans (.of_eq ?_) ((visits_active_perm h.blockSize_pos h.numBlock_eq).map _)
  rw [terms_eq, List.map_map]
  apply List.map_congr_left
  intro x hx
  obtain ⟨hj, he⟩ := Shape.lt_activeLanes_iff.1 (mem_visits.1 hx).2.2.2
  simp only [Function.comp_apply, elemAt_of_active he, mul_add_div_of_lt hj, mul_add_mod_of_lt hj]

/-- E-vectors that agree outside the padding lanes add the same terms. -/
theorem terms_congr (h : op.Realizes t) (mode : Mode) {w w' : Array α}
    (hw : ∀ i < op.shape.eSize, op.shape.isPadding i = false → w[i]? = w'[i]?) :
    terms op.shape t mode w = terms op.shape t mode w' := by
  rw [terms_eq, terms_eq]
  apply List.map_congr_left
  intro x hx
  obtain ⟨hb, hk, hn, hj⟩ := mem_visits.1 hx
  obtain ⟨hj, he⟩ := Shape.lt_activeLanes_iff.1 hj
  rw [t.scattered_congr mode _ hn]
  intro m hm
  have hy : (x.1, { x.2 with node := m }) ∈ visits op.shape fun _ => op.shape.blockSize :=
    mem_visits.2 ⟨hb, hk, hm, hj⟩
  refine Buffer.entry_congr (hw _ (h.place_lt hy) ?_)
  rw [isPadding_place h.notPoints hy]
  simpa using he

/-- Scatters with different blocks agree if their E-vectors hold the same value for each node. -/
theorem addAll_terms_eq {R : Type} [CommRing R] {op' : Operator} (h : op.Realizes t)
    (h' : op'.Realizes t) (hN : op'.shape.numElem = op.shape.numElem)
    (hC : op'.shape.numComp = op.shape.numComp) (hE : op'.shape.elemSize = op.shape.elemSize)
    (mode : Mode) {v w w' : Array R}
    (hw : ∀ e < op.shape.numElem, ∀ k < op.shape.numComp, ∀ n < op.shape.elemSize,
      w'[place op'.shape (e / op'.shape.blockSize) ⟨k, n, e % op'.shape.blockSize⟩]? =
        w[place op.shape (e / op.shape.blockSize) ⟨k, n, e % op.shape.blockSize⟩]?) :
    Buffer.addAll v (terms op'.shape t mode w') = Buffer.addAll v (terms op.shape t mode w) := by
  rw [Buffer.addAll_perm v (h.terms_perm mode w), Buffer.addAll_perm v (h'.terms_perm mode w')]
  have htriples : TransposeMap.triples op'.shape = TransposeMap.triples op.shape := by
    rw [TransposeMap.triples, TransposeMap.triples, hN, hC, hE]
  rw [htriples]
  congr 1
  apply List.map_congr_left
  rintro ⟨e, k, n⟩ hx
  obtain ⟨he, hk, hn⟩ := TransposeMap.mem_triples.1 hx
  dsimp only
  rw [hE, t.scattered_congr mode e hn fun m hm => Buffer.entry_congr (hw e he k hk m hm)]

end Realizes

end Reference.Operator

end GatherScatter
