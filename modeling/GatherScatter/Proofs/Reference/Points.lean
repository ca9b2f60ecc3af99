import GatherScatter.Proofs.Creation
import GatherScatter.Reference.Backend
import GatherScatter.Session.Query

/-!
# What the loops over points leave behind

The range starts of an accepted request rise from the end of the starts to the end of the array, so
the ranges of the elements follow each other and fill the E-vector. `links` lists where each value
stands on the element side and in the L-vector.

* `PointRanges.map_links_fst`: the element sides of all links are `0, 1, 2, …`.
* `PointRanges.transfer_eq_ok`: both directions move all links, in order.
* `PointRanges.transferElement_eq_ok`: the same for the points of one element.
-/
namespace GatherScatter

/-- Start of the range of element `e`. -/
def Reference.Points.start (offsets : Array Int) (e : Nat) : Nat := (offsets.getD e 0).toNat

/-- Number of points of element `e`. -/
def Reference.Points.count (offsets : Array Int) (e : Nat) : Nat :=
  start offsets (e + 1) - start offsets e

/-- Point `i` of element `e`. -/
def Reference.Points.point (offsets : Array Int) (e i : Nat) : Nat :=
  (offsets.getD (start offsets e + i) 0).toNat

namespace PointStarts

open Reference Points

variable {offsets : Array Int} {numElem numPoints : Nat}

theorem start_eq (h : PointStarts offsets numElem numPoints) {e : Nat}
    (he : e ≤ numElem) : offsets.getD e 0 = start offsets e := by
  have hpos : 0 ≤ offsets.getD e 0 := by
    induction e with
    | zero => rw [h.first]; omega
    | succ e ih => exact Int.le_trans (ih (by omega)) (h.rising e (by omega))
  exact (Int.toNat_of_nonneg hpos).symm

theorem start_zero (h : PointStarts offsets numElem numPoints) :
    start offsets 0 = numElem + 1 := by
  rw [start, h.first]; rfl

theorem start_last (h : PointStarts offsets numElem numPoints) :
    start offsets numElem = numElem + 1 + numPoints := by
  rw [start, h.last, h.size_eq]; rfl

theorem start_mono (h : PointStarts offsets numElem numPoints) {e e' : Nat}
    (hle : e ≤ e') (he : e' ≤ numElem) : start offsets e ≤ start offsets e' := by
  induction e', hle using Nat.le_induction with
  | base => exact Nat.le_refl _
  | succ e' _ ih =>
    have hstep := h.rising e' he
    rw [h.start_eq (Nat.le_of_succ_le he), h.start_eq he] at hstep
    have := ih (by omega)
    omega

theorem start_bounds (h : PointStarts offsets numElem numPoints) {e : Nat}
    (he : e ≤ numElem) : numElem < start offsets e ∧ start offsets e ≤ offsets.size := by
  have h0 := h.start_mono (Nat.zero_le e) he
  have h1 := h.start_mono he (Nat.le_refl numElem)
  rw [h.start_zero] at h0
  rw [h.start_last] at h1
  have := h.size_eq
  omega

theorem pointsBetween_eq_ok (h : PointStarts offsets numElem numPoints) {e : Nat}
    (he : e < numElem) : pointsBetween offsets e = .ok (count offsets e) := by
  have hsize := h.size_eq
  rw [pointsBetween, Buffer.read_eq_ok (by omega) 0, Loop.ok_bind,
    Buffer.read_eq_ok (by omega) 0, Loop.ok_bind, h.start_eq (Nat.le_of_lt he),
    h.start_eq (show e + 1 ≤ numElem from he)]
  congr 1
  rw [count]
  omega

end PointStarts

namespace PointRanges

open Reference Points

variable {offsets : Array Int} {numElem numPoints numComp lSize : Nat}

/-- The points of an element are in the L-vector, with all their components. -/
theorem point_inside (h : PointRanges offsets numElem numPoints numComp lSize) {e i k : Nat}
    (he : e < numElem) (hi : i < count offsets e) (hk : k < numComp) :
    0 ≤ offsets.getD (start offsets e + i) 0 ∧ point offsets e i * numComp + k < lSize := by
  have h0 := h.start_bounds (Nat.le_of_lt he)
  have h1 := h.start_bounds (show e + 1 ≤ numElem from he)
  rw [count] at hi
  obtain ⟨hpos, hlt⟩ := h.inside (start offsets e + i) (by omega) (by omega)
  have := mul_add_lt hlt hk
  have := Nat.div_mul_le_self lSize numComp
  exact ⟨hpos, by rw [point]; omega⟩

theorem ofElement_eq_ok (h : PointRanges offsets numElem numPoints numComp lSize) {e : Nat}
    (he : e < numElem) (s : Shape) :
    ofElement s offsets e = .ok ((List.range (count offsets e)).map (point offsets e)).toArray := by
  have h0 := h.start_bounds (Nat.le_of_lt he)
  have h1 := h.start_bounds (show e + 1 ≤ numElem from he)
  have hle := h.start_mono (Nat.le_add_right e 1) (show e + 1 ≤ numElem from he)
  have hsize := h.size_eq
  have hindex {o : Int} (n : Nat) (ho : 0 ≤ o) : index s e n o = .ok o.toNat := by
    obtain ⟨m, rfl⟩ := Int.eq_ofNat_of_zero_le ho
    rfl
  rw [ofElement, Buffer.read_eq_ok (by omega) 0, Loop.ok_bind, h.start_eq (Nat.le_of_lt he),
    hindex 0 (by omega), Loop.ok_bind, Buffer.read_eq_ok (by omega) 0, Loop.ok_bind,
    h.start_eq (show e + 1 ≤ numElem from he), hindex 0 (by omega), Loop.ok_bind,
    Int.toNat_natCast, Int.toNat_natCast, Buffer.slice, if_pos ⟨hle, h1.2⟩, Loop.ok_bind]
  have hlist : (offsets.extract (start offsets e) (start offsets (e + 1))).toList =
      (List.range (count offsets e)).map fun i => offsets.getD (start offsets e + i) 0 := by
    apply List.ext_getElem
    · simp [count]; omega
    · intro i hi _
      simp at hi
      simp [Array.getD, show start offsets e + i < offsets.size by omega]
  rw [hlist, List.mapM_map, Loop.mapM_eq_map (g := point offsets e)]
  · rfl
  · intro i hi
    have hi := List.mem_range.1 hi
    refine hindex 0 (h.inside _ ?_ ?_).1 <;> rw [count] at hi <;> omega

end PointRanges

/-! ## Where the values stand -/

namespace Reference.Points

/-- Places on the element side, from `base` on, of the values of element `e`, with the L-vector
entries to which they belong. -/
def elementLinks (numComp : Nat) (offsets : Array Int) (base e : Nat) : List (Nat × Nat) :=
  (Ranges.pairs numComp (count offsets e)).map fun x =>
    (base + x.1 * count offsets e + x.2, point offsets e x.2 * numComp + x.1)

/-- The values of an element follow each other without gaps. -/
theorem map_elementLinks_fst (numComp : Nat) (offsets : Array Int) (base e : Nat) :
    (elementLinks numComp offsets base e).map Prod.fst =
      (List.range (count offsets e * numComp)).map fun i => base + i := by
  rw [Nat.mul_comm, ← Ranges.map_pairs, elementLinks, List.map_map, List.map_map]
  apply List.map_congr_left
  intro x _
  exact Nat.add_assoc _ _ _

/-- Place of the first value of element `e` in the E-vector. -/
def base (numElem numComp : Nat) (offsets : Array Int) (e : Nat) : Nat :=
  (start offsets e - (numElem + 1)) * numComp

/-- Places of the E-vector, with the L-vector entries to which they belong. -/
def links (numElem numComp : Nat) (offsets : Array Int) : List (Nat × Nat) :=
  (List.range numElem).flatMap fun e =>
    elementLinks numComp offsets (base numElem numComp offsets e) e

variable {α : Type} [Add α] [IntCast α]

/-- Vector `v` after the values of all links have been moved to it, or added. -/
def moveAll (d : Direction) (u v : Array α) (ls : List (Nat × Nat)) : Array α :=
  match d with
  | .forward => Buffer.putAll v (ls.map fun x => (x.1, Buffer.entry u x.2))
  | .transpose => Buffer.addAll v (ls.map fun x => (x.2, Buffer.entry u x.1))

theorem moveAll_append (d : Direction) (u v : Array α) (ls ls' : List (Nat × Nat)) :
    moveAll d u v (ls ++ ls') = moveAll d u (moveAll d u v ls) ls' := by
  cases d with
  | forward => simp only [moveAll, List.map_append, Buffer.putAll_append]
  | transpose => simp only [moveAll, List.map_append, Buffer.addAll_append]

@[simp]
theorem size_moveAll (d : Direction) (u v : Array α) (ls : List (Nat × Nat)) :
    (moveAll d u v ls).size = v.size := by
  cases d <;> simp [moveAll]

end Reference.Points

namespace PointRanges

open Reference Points

variable {offsets : Array Int} {numElem numPoints numComp lSize : Nat}

theorem base_zero (h : PointRanges offsets numElem numPoints numComp lSize) :
    base numElem numComp offsets 0 = 0 := by
  rw [base, h.start_zero, Nat.sub_self, Nat.zero_mul]

theorem base_succ (h : PointRanges offsets numElem numPoints numComp lSize) {e : Nat}
    (he : e < numElem) : base numElem numComp offsets (e + 1) =
      base numElem numComp offsets e + count offsets e * numComp := by
  have h0 := h.start_bounds (Nat.le_of_lt he)
  have hle := h.start_mono (Nat.le_add_right e 1) (show e + 1 ≤ numElem from he)
  rw [base, base, count, ← Nat.add_mul]
  congr 1
  omega

theorem base_le (h : PointRanges offsets numElem numPoints numComp lSize) {e : Nat}
    (he : e ≤ numElem) : base numElem numComp offsets e ≤ numPoints * numComp := by
  have h0 := h.start_bounds he
  have hsize := h.size_eq
  exact Nat.mul_le_mul_right numComp (by omega)

theorem base_last (h : PointRanges offsets numElem numPoints numComp lSize) :
    base numElem numComp offsets numElem = numPoints * numComp := by
  rw [base, h.start_last]
  congr 1
  omega

/-- The links of one element go to places of its own and stay inside the L-vector. -/
theorem mem_elementLinks (h : PointRanges offsets numElem numPoints numComp lSize) {e b : Nat}
    (he : e < numElem) {x : Nat × Nat} (hx : x ∈ elementLinks numComp offsets b e) :
    x.1 < b + count offsets e * numComp ∧ x.2 < lSize := by
  obtain ⟨⟨k, i⟩, hki, rfl⟩ := List.mem_map.1 hx
  obtain ⟨hk, hi⟩ := Ranges.mem_pairs.1 hki
  have hlt := mul_add_lt hk hi
  rw [Nat.mul_comm numComp] at hlt
  exact ⟨by dsimp only at hlt ⊢; omega, (h.point_inside he hi hk).2⟩

/-- The first elements fill the E-vector from its start on. -/
theorem map_fst_prefix (h : PointRanges offsets numElem numPoints numComp lSize) {k : Nat}
    (hk : k ≤ numElem) :
    ((List.range k).flatMap fun e =>
      elementLinks numComp offsets (base numElem numComp offsets e) e).map Prod.fst =
        List.range (base numElem numComp offsets k) := by
  induction k with
  | zero => rw [h.base_zero]; rfl
  | succ k ih =>
    rw [List.range_succ, List.flatMap_append, List.map_append, ih (by omega),
      h.base_succ (by omega), List.range_add, List.flatMap_singleton, map_elementLinks_fst]

theorem map_links_fst (h : PointRanges offsets numElem numPoints numComp lSize) :
    (links numElem numComp offsets).map Prod.fst = List.range (numPoints * numComp) := by
  rw [links, h.map_fst_prefix (Nat.le_refl numElem), h.base_last]

theorem mem_links (h : PointRanges offsets numElem numPoints numComp lSize) {x : Nat × Nat}
    (hx : x ∈ links numElem numComp offsets) : x.1 < numPoints * numComp ∧ x.2 < lSize := by
  refine ⟨?_, ?_⟩
  · have := List.mem_map_of_mem (f := Prod.fst) hx
    rwa [h.map_links_fst, List.mem_range] at this
  · obtain ⟨e, he, hx⟩ := List.mem_flatMap.1 hx
    exact (h.mem_elementLinks (List.mem_range.1 he) hx).2

variable {α : Type} [Add α] [IntCast α] {s : Shape}

theorem transferElement_eq_ok (h : PointRanges offsets numElem numPoints s.numComp s.lSize)
    {e b : Nat} (he : e < numElem) {d : Direction} {u v : Array α}
    (hu : (s.sides d (b + count offsets e * s.numComp)).2 ≤ u.size)
    (hv : (s.sides d (b + count offsets e * s.numComp)).1 ≤ v.size) :
    transferElement s ((List.range (count offsets e)).map (point offsets e)).toArray b d u v =
      .ok (moveAll d u v (elementLinks s.numComp offsets b e)) := by
  have hsize : ((List.range (count offsets e)).map (point offsets e)).toArray.size =
      count offsets e := by simp
  have hpoint {i : Nat} (hi : i < count offsets e) :
      Buffer.read ((List.range (count offsets e)).map (point offsets e)).toArray i =
        .ok (point offsets e i) := by
    rw [Buffer.read_eq_ok_iff]
    simp [hi]
  rw [transferElement, hsize]
  cases d with
  | forward =>
    rw [moveAll, elementLinks, Buffer.putAll, List.map_map, List.foldl_map]
    refine (Loop.foldlM_eq_foldl (fun v' => v'.size = v.size) (fun ⟨k, i⟩ hx v' hv' => ?_) rfl).1
    have hin := h.mem_elementLinks he (b := b) (List.mem_map_of_mem hx)
    have hi : i < count offsets e := (Ranges.mem_pairs.1 hx).2
    dsimp only [Shape.sides] at hu hv hin ⊢
    rw [hpoint hi, Loop.ok_bind]
    rw [Buffer.read_eq_entry (show _ < u.size by omega), Loop.ok_bind,
      Buffer.write_eq_ok (by omega)]
    exact ⟨rfl, by simpa using hv'⟩
  | transpose =>
    rw [moveAll, elementLinks, Buffer.addAll, List.map_map, List.foldl_map]
    refine (Loop.foldlM_eq_foldl (fun v' => v'.size = v.size) (fun ⟨k, i⟩ hx v' hv' => ?_) rfl).1
    have hin := h.mem_elementLinks he (b := b) (List.mem_map_of_mem hx)
    have hi : i < count offsets e := (Ranges.mem_pairs.1 hx).2
    dsimp only [Shape.sides] at hu hv hin ⊢
    rw [hpoint hi, Loop.ok_bind]
    rw [Buffer.read_eq_entry (show _ < u.size by omega), Loop.ok_bind]
    exact ⟨Buffer.read_write_add (show _ < v'.size by omega) _, by simpa using hv'⟩

/-- After `k` elements the loop stands at the start of the next one. -/
theorem transfer_prefix (h : PointRanges offsets numElem numPoints s.numComp s.lSize)
    {d : Direction} {u v : Array α} (hu : (s.sides d (numPoints * s.numComp)).2 ≤ u.size)
    (hv : (s.sides d (numPoints * s.numComp)).1 ≤ v.size) {k : Nat} (hk : k ≤ numElem) :
    (List.range k).foldlM
      (fun (base, v) elem => do
        let points ← ofElement s offsets elem
        let v ← transferElement s points base d u v
        return (base + points.size * s.numComp, v))
      (0, v) = .ok (base numElem s.numComp offsets k,
        moveAll d u v ((List.range k).flatMap fun e =>
          elementLinks s.numComp offsets (base numElem s.numComp offsets e) e)) := by
  induction k with
  | zero => rw [h.base_zero]; cases d <;> rfl
  | succ k ih =>
    have hle := h.base_le (show k + 1 ≤ numElem from hk)
    rw [h.base_succ (by omega)] at hle
    rw [List.range_succ, List.foldlM_append, ih (by omega), Loop.ok_bind, List.foldlM_cons]
    dsimp only
    rw [h.ofElement_eq_ok (by omega), Loop.ok_bind, h.transferElement_eq_ok (by omega),
      Loop.ok_bind, List.flatMap_append, moveAll_append, h.base_succ (by omega)]
    · simp [Loop.pure_eq]
    · cases d <;> dsimp only [Shape.sides] at hu ⊢ <;> omega
    · rw [size_moveAll]
      cases d <;> dsimp only [Shape.sides] at hv ⊢ <;> omega

/-- Both directions move the values of all links, in the order of the E-vector. -/
theorem transfer_eq_ok (h : PointRanges offsets s.numElem numPoints s.numComp s.lSize)
    {d : Direction} {u v : Array α} (hu : (s.sides d (numPoints * s.numComp)).2 ≤ u.size)
    (hv : (s.sides d (numPoints * s.numComp)).1 ≤ v.size) :
    transfer s offsets d u v = .ok (moveAll d u v (links s.numElem s.numComp offsets)) := by
  rw [transfer, h.transfer_prefix hu hv (Nat.le_refl _)]
  rfl

end PointRanges

end GatherScatter
