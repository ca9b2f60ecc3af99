import GatherScatter.Proofs.Reference.Apply
import Mathlib.Algebra.BigOperators.Group.Finset.Sigma
import Mathlib.Algebra.BigOperators.Ring.Finset

/-!
# Scatter is the adjoint of gather

Over a commutative ring, a full apply is a linear map and its transpose the adjoint of that map:
`⟨u, scatter w⟩ = ⟨gather u, w⟩`, where padding lanes of the E-vector do not count. What a scatter
does to its output is the difference between the vector after and before.

* `Buffer.sum_addAll`: the pairing of a vector with what terms add to another one.
* `Stencil.sum_gathered_mul`: in each element, the weights of a scatter are those of a gather
  transposed.
* `Sound.adjoint`: both directions of an apply are adjoint.
* `Sound.getElem?_scatter`: a scatter leaves the entries behind the L-vector alone.
-/
namespace GatherScatter

variable {R : Type} [CommRing R]

/-! ## Sums over lists -/

theorem foldl_add_eq_sum {ι : Type} (f : ι → R) (xs : List ι) (b : R) :
    xs.foldl (fun acc x => acc + f x) b = b + (xs.map f).sum := by
  induction xs generalizing b with
  | nil => simp
  | cons x xs ih => rw [List.foldl_cons, ih, List.map_cons, List.sum_cons, add_assoc]

theorem sum_map_flatMap {ι κ : Type} (f : ι → List κ) (g : κ → R) (xs : List ι) :
    ((xs.flatMap f).map g).sum = (xs.map fun x => ((f x).map g).sum).sum := by
  induction xs with
  | nil => rfl
  | cons x xs ih => rw [List.flatMap_cons, List.map_append, List.sum_append, ih, List.map_cons,
      List.sum_cons]

theorem sum_map_range (f : Nat → R) (n : Nat) :
    ((List.range n).map f).sum = ∑ i ∈ Finset.range n, f i := by
  rw [← List.sum_toFinset _ List.nodup_range]
  congr 1
  ext i
  simp

namespace Buffer

theorem entry_modify_add (v : Array R) (i l : Nat) (x : R) (hi : i < v.size) :
    entry (v.modify i (· + x)) l = entry v l + if l = i then x else 0 := by
  unfold entry
  rw [Array.getD_eq_getD_getElem?, Array.getD_eq_getD_getElem?, Array.getElem?_modify]
  by_cases h : i = l
  · subst h
    simp [hi]
  · rw [if_neg h, if_neg fun e => h e.symm, add_zero]

/-- Terms pair with a vector as the entries to which they add. -/
theorem sum_addAll {L : Nat} (u : Nat → R) {v : Array R} {xs : List (Nat × R)}
    (hv : L ≤ v.size) (h : ∀ x ∈ xs, x.1 < L) :
    ∑ l ∈ Finset.range L, u l * (entry (addAll v xs) l - entry v l) =
      (xs.map fun x => u x.1 * x.2).sum := by
  induction xs generalizing v with
  | nil => simp [addAll]
  | cons x xs ih =>
    have hx := h x List.mem_cons_self
    have hstep : ∑ l ∈ Finset.range L, u l * (entry (v.modify x.1 (· + x.2)) l - entry v l) =
        u x.1 * x.2 := by
      rw [Finset.sum_eq_single_of_mem x.1 (Finset.mem_range.2 hx)]
      · rw [entry_modify_add v x.1 x.1 x.2 (by omega), if_pos rfl]
        ring
      · intro l _ hl
        rw [entry_modify_add v x.1 l x.2 (by omega), if_neg hl]
        ring
    rw [addAll_cons, List.map_cons, List.sum_cons, ← hstep,
      ← ih (v := v.modify x.1 (· + x.2)) (by simpa using hv)
        fun y hy => h y (List.mem_cons_of_mem x hy), ← Finset.sum_add_distrib]
    refine Finset.sum_congr rfl fun l _ => ?_
    ring

/-- A sum over the entries that were put, or over the values put there. -/
theorem sum_putAll {n : Nat} {p : Nat → Bool} {ι : Type} {ys : List ι} {pos : ι → Nat}
    (hpos : ys.map pos = (List.range n).filter p) {v : Array R} {val : ι → R}
    (hval : ∀ x ∈ ys, v[pos x]? = some (val x)) (w : Nat → R) :
    ∑ i ∈ (Finset.range n).filter fun i => p i, entry v i * w i =
      (ys.map fun x => val x * w (pos x)).sum := by
  have hset : ((Finset.range n).filter fun i => p i) = ((List.range n).filter p).toFinset := by
    ext i
    simp
  rw [hset, List.sum_toFinset _ (List.nodup_range.filter p), ← hpos, List.map_map]
  congr 1
  apply List.map_congr_left
  intro x hx
  rw [Function.comp_apply, entry, Array.getD_eq_getD_getElem?, hval x hx]
  rfl

end Buffer

namespace Stencil

variable (t : Stencil) {elemSize : Nat} (mode : Mode)

theorem nodup_neighbours {n : Nat} : (n :: t.neighbours elemSize mode n).Nodup := by
  unfold neighbours
  by_cases h0 : 0 < n <;> by_cases h1 : n + 1 < elemSize <;> by_cases hc : t.coupled mode <;>
    simp [h0, h1, hc] <;> omega

/-- A node is linked to itself and to its neighbours. -/
def linked (elemSize n m : Nat) : Prop := m ∈ n :: t.neighbours elemSize mode n

theorem linked_comm {n m : Nat} (hn : n < elemSize) (hm : m < elemSize) :
    t.linked mode elemSize n m ↔ t.linked mode elemSize m n := by
  unfold linked
  rw [List.mem_cons, List.mem_cons, mem_neighbours, mem_neighbours]
  constructor <;> rintro (h | ⟨hc, h⟩) <;> first | exact .inl h.symm | exact .inr ⟨hc, by omega⟩

open Classical in
theorem weightedSum_eq_sum {n : Nat} (hn : n < elemSize) (w : Nat → Int) (x : Nat → R) :
    weightedSum w x n (t.neighbours elemSize mode n) =
      ∑ m ∈ Finset.range elemSize, if t.linked mode elemSize n m then (w m : R) * x m else 0 := by
  have hset : (Finset.range elemSize).filter (t.linked mode elemSize n) =
      (n :: t.neighbours elemSize mode n).toFinset := by
    ext m
    rw [Finset.mem_filter, Finset.mem_range, List.mem_toFinset]
    exact ⟨fun h => h.2, fun h => ⟨lt_of_mem_neighbours hn h, h⟩⟩
  rw [← Finset.sum_filter, hset, List.sum_toFinset _ (t.nodup_neighbours mode), List.map_cons,
    List.sum_cons, weightedSum, foldl_add_eq_sum]

/-- In each element and component, the weights of a scatter are those of a gather transposed. -/
theorem sum_gathered_mul (u : Array R) (x : Nat → R) (e k : Nat) :
    ∑ n ∈ Finset.range elemSize, t.gathered elemSize mode u e k n * x n =
      ∑ n ∈ Finset.range elemSize,
        Buffer.entry u (t.address e k n) * t.scattered elemSize mode x e n := by
  classical
  have hl : ∀ n ∈ Finset.range elemSize, t.gathered elemSize mode u e k n * x n =
      ∑ m ∈ Finset.range elemSize, if t.linked mode elemSize n m then
        (t.weight mode e n m : R) * Buffer.entry u (t.address e k m) * x n else 0 := by
    intro n hn
    rw [gathered, t.weightedSum_eq_sum mode (Finset.mem_range.1 hn), Finset.sum_mul]
    simp only [ite_mul, zero_mul]
  have hr : ∀ m ∈ Finset.range elemSize,
      Buffer.entry u (t.address e k m) * t.scattered elemSize mode x e m =
        ∑ n ∈ Finset.range elemSize, if t.linked mode elemSize n m then
          (t.weight mode e n m : R) * Buffer.entry u (t.address e k m) * x n else 0 := by
    intro m hm
    rw [scattered, t.weightedSum_eq_sum mode (Finset.mem_range.1 hm), Finset.mul_sum]
    refine Finset.sum_congr rfl fun n hn => ?_
    rw [mul_ite, mul_zero]
    refine if_congr (t.linked_comm mode (Finset.mem_range.1 hm) (Finset.mem_range.1 hn)) ?_ rfl
    ring
  rw [Finset.sum_congr rfl hl, Finset.sum_congr rfl hr, Finset.sum_comm]

end Stencil

namespace Reference.Operator

open Stencil

theorem sum_visits (s : Shape) (lanes : Nat → Nat) (f : Nat × Cell → R) :
    ((visits s lanes).map f).sum = ∑ b ∈ Finset.range s.numBlock, ∑ k ∈ Finset.range s.numComp,
      ∑ j ∈ Finset.range (lanes b), ∑ n ∈ Finset.range s.elemSize, f (b, ⟨k, n, j⟩) := by
  simp only [visits, cells, sum_map_flatMap, List.map_map, sum_map_range]
  refine Finset.sum_congr rfl fun b _ => Finset.sum_congr rfl fun k _ => ?_
  rw [Finset.sum_comm]
  rfl

variable {op : Operator} {t : Stencil} {entries : Array Int}

/-- Both directions pair the places of the active lanes with the addresses behind them. -/
theorem Realizes.sum_terms (t : Stencil) (s : Shape) (mode : Mode) (u w : Array R) :
    ((terms s t mode w).map fun x => Buffer.entry u x.1 * x.2).sum =
      ((visits s s.activeLanes).map fun x =>
        t.gathered s.elemSize mode u (elemAt s x.1 x.2.lane) x.2.comp x.2.node *
          Buffer.entry w (place s x.1 x.2)).sum := by
  rw [terms_eq, List.map_map, sum_visits, sum_visits]
  refine Finset.sum_congr rfl fun b _ => Finset.sum_congr rfl fun k _ =>
    Finset.sum_congr rfl fun j _ => ?_
  exact (t.sum_gathered_mul mode u (fun n => Buffer.entry w (place s b ⟨k, n, j⟩))
    (elemAt s b j) k).symm

theorem Realizes.adjoint (h : op.Realizes t) (mode : Mode) {u w v y₀ : Array R}
    (hv : op.shape.lSize ≤ v.size) (hy : op.shape.eSize ≤ y₀.size) :
    ∑ l ∈ Finset.range op.shape.lSize, Buffer.entry u l *
        (Buffer.entry (Buffer.addAll v (terms op.shape t mode w)) l - Buffer.entry v l) =
      ∑ i ∈ (Finset.range op.shape.eSize).filter fun i => !op.shape.isPadding i,
        Buffer.entry (Buffer.putAll y₀ (puts op.shape t mode u)) i * Buffer.entry w i := by
  rw [Buffer.sum_addAll (Buffer.entry u) hv fun _ => h.terms_inside, Realizes.sum_terms, h.eSize_eq,
    Buffer.sum_putAll (visits_active_map_place h.notPoints)]
  rintro ⟨b, k, n, j⟩ hx
  obtain ⟨hb, hk, hn, hj⟩ := mem_visits.1 hx
  exact h.getElem?_gather mode hy hb hk hn (Nat.lt_of_lt_of_le hj (op.shape.activeLanes_le b))

theorem OntoPoints.adjoint (h : op.OntoPoints entries) {u w v y₀ : Array R}
    (hv : op.shape.lSize ≤ v.size) (hy : op.shape.eSize ≤ y₀.size) :
    ∑ l ∈ Finset.range op.shape.lSize, Buffer.entry u l *
        (Buffer.entry (Points.moveAll .transpose w v
          (Points.links op.shape.numElem op.shape.numComp entries)) l - Buffer.entry v l) =
      ∑ i ∈ (Finset.range op.shape.eSize).filter fun i => !op.shape.isPadding i,
        Buffer.entry (Points.moveAll .forward u y₀
          (Points.links op.shape.numElem op.shape.numComp entries)) i * Buffer.entry w i := by
  have hpad : (List.range op.shape.eSize).filter (fun i => !op.shape.isPadding i) =
      List.range op.shape.eSize := by
    rw [List.filter_eq_self]
    intro i _
    rw [Shape.isPadding, h.isPoints]
    rfl
  have hpos := h.ranges.map_links_fst
  rw [← h.eSize_eq, ← hpad] at hpos
  rw [Points.moveAll, Points.moveAll, Buffer.sum_addAll (Buffer.entry u) hv, List.map_map,
    Buffer.sum_putAll hpos]
  · rfl
  · intro x hx
    apply Buffer.getElem?_putAll_of_mem
    · rw [List.map_map]
      exact hpos ▸ List.nodup_range.filter _
    · exact List.mem_map_of_mem hx
    · have := (h.ranges.mem_links hx).1
      rw [← h.eSize_eq] at this
      omega
  · intro x hx
    obtain ⟨y, hy, rfl⟩ := List.mem_map.1 hx
    exact (h.ranges.mem_links hy).2

/-- Both directions of an apply are adjoint to each other. -/
theorem Sound.adjoint (h : op.Sound) (mode : Mode) {u w v y₀ y v₁ : Array R}
    (hu : op.shape.lSize ≤ u.size) (hw : op.shape.eSize ≤ w.size)
    (hv : op.shape.lSize ≤ v.size) (hy : op.shape.eSize ≤ y₀.size)
    (hgather : op.apply mode .forward u y₀ = .ok y)
    (hscatter : op.apply mode .transpose w v = .ok v₁) :
    ∑ l ∈ Finset.range op.shape.lSize,
        Buffer.entry u l * (Buffer.entry v₁ l - Buffer.entry v l) =
      ∑ i ∈ (Finset.range op.shape.eSize).filter fun i => !op.shape.isPadding i,
        Buffer.entry y i * Buffer.entry w i := by
  cases h with
  | nodes t h =>
    rw [h.apply_eq_ok mode (d := .forward) hu hy] at hgather
    rw [h.apply_eq_ok mode (d := .transpose) hw hv] at hscatter
    cases hgather
    cases hscatter
    exact h.adjoint mode hv hy
  | points entries h =>
    rw [h.apply_eq_ok mode (d := .forward) hu hy] at hgather
    rw [h.apply_eq_ok mode (d := .transpose) hw hv] at hscatter
    cases hgather
    cases hscatter
    exact h.adjoint hv hy

/-- A scatter leaves the entries behind the L-vector alone. -/
theorem Sound.getElem?_scatter (h : op.Sound) (mode : Mode) {w v v₁ : Array R}
    (hw : op.shape.eSize ≤ w.size) (hv : op.shape.lSize ≤ v.size)
    (hscatter : op.apply mode .transpose w v = .ok v₁) {l : Nat} (hl : op.shape.lSize ≤ l) :
    v₁[l]? = v[l]? := by
  cases h with
  | nodes t h =>
    rw [h.apply_eq_ok mode (d := .transpose) hw hv] at hscatter
    cases hscatter
    apply Buffer.getElem?_addAll_of_notMem
    intro hmem
    obtain ⟨x, hx, rfl⟩ := List.mem_map.1 hmem
    exact Nat.not_lt.2 hl (h.terms_inside hx)
  | points entries h =>
    rw [h.apply_eq_ok mode (d := .transpose) hw hv] at hscatter
    cases hscatter
    apply Buffer.getElem?_addAll_of_notMem
    intro hmem
    rw [List.map_map] at hmem
    obtain ⟨x, hx, rfl⟩ := List.mem_map.1 hmem
    exact Nat.not_lt.2 hl (h.ranges.mem_links hx).2

end Reference.Operator

end GatherScatter
