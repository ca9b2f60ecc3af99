import GatherScatter.Proofs.Reference.Blocks
import Mathlib.Algebra.BigOperators.Group.Finset.Basic

/-!
# Parts of an E-vector

An apply to one block, or to the points of one element, reads or fills a vector of its own, which
starts at zero. What it does there is what the apply of the whole does in its part of the E-vector.

* `Realizes.putAll_blockPuts`: a gathered block is a part of the gathered E-vector.
* `addAll_parts`, `addAll_terms_of_perm`: a scatter of all blocks adds the terms of the whole.
* `PointRanges.base_eq`, `PointRanges.places_eq_range`: where the values of an element stand.
* `PointRanges.getElem?_gather`, `Points.getElem?_gatherElement`: what is gathered there, as a whole
  and element by element.
* `Points.moveAll_parts`: a scatter of all elements adds the values of the whole.
-/
namespace GatherScatter

/-- An array is part of another one from `a` on, if they agree there. -/
theorem Buffer.eq_extract {α : Type} {v z : Array α} {a : Nat} (hz : a + v.size ≤ z.size)
    (h : ∀ i < v.size, v[i]? = z[a + i]?) : v = z.extract a (a + v.size) := by
  apply Array.ext_getElem?
  intro i
  rw [Array.getElem?_extract]
  by_cases hi : i < v.size
  · rw [if_pos (by omega), h i hi]
  · rw [if_neg (by omega), Array.getElem?_eq_none (by omega)]

namespace Reference.Operator

variable {op : Operator} {t : Stencil} {α : Type} [Add α] [Mul α] [IntCast α]

/-- Every position of a block is that of a cell. -/
theorem exists_cell {s : Shape} {i : Nat} (hi : i < s.blockLen) :
    ∃ c ∈ cells s s.blockSize, position s c.comp c.node c.lane = i := by
  rw [← List.mem_range, ← cells_map_position] at hi
  exact List.mem_map.1 hi

/-- What a gather puts at a position of a block depends on the element there alone. -/
theorem getElem?_gatherBlock {s : Shape} (mode : Mode) (u : Array α) (b : Nat) {v : Array α}
    (hv : s.blockLen ≤ v.size) {c : Cell} (hc : c ∈ cells s s.blockSize) :
    (Buffer.putAll v (blockPuts s t mode u 0 b))[position s c.comp c.node c.lane]? =
      some (t.gathered s.elemSize mode u (elemAt s b c.lane) c.comp c.node) := by
  obtain ⟨hk, hn, hj⟩ := mem_cells.1 hc
  have hlt := position_lt hk hn hj
  have hfst : (blockPuts s t mode u 0 b).map Prod.fst = List.range s.blockLen := by
    simp [← cells_map_position, blockPuts, Function.comp_def]
  apply Buffer.getElem?_putAll_of_mem
  · rw [hfst]
    exact List.nodup_range
  · exact List.mem_map.2 ⟨c, hc, by rw [Nat.zero_add]⟩
  · omega

/-- A block that is gathered into a vector of its own is a part of the gathered E-vector. -/
theorem Realizes.putAll_blockPuts (h : op.Realizes t) (mode : Mode) (u : Array α) {y v : Array α}
    (hy : op.shape.eSize ≤ y.size) (hv : v.size = op.shape.blockLen) {b : Nat}
    (hb : b < op.shape.numBlock) :
    Buffer.putAll v (blockPuts op.shape t mode u 0 b) =
      (Buffer.putAll y (puts op.shape t mode u)).extract (b * op.shape.blockLen)
        (b * op.shape.blockLen + op.shape.blockLen) := by
  have hend := h.block_end_le hb hy
  have hpart := Buffer.eq_extract (v := Buffer.putAll v (blockPuts op.shape t mode u 0 b))
    (z := Buffer.putAll y (puts op.shape t mode u)) (a := b * op.shape.blockLen)
  simp only [Buffer.size_putAll, hv] at hpart
  refine hpart hend fun i hi => ?_
  obtain ⟨c, hc, rfl⟩ := exists_cell hi
  obtain ⟨hk, hn, hj⟩ := mem_cells.1 hc
  rw [getElem?_gatherBlock mode u b (by omega) hc]
  exact (h.getElem?_gather mode hy hb hk hn hj).symm

/-- A block adds the same terms wherever its values start. -/
theorem blockTerms_extract {s : Shape} (mode : Mode) (w : Array α) (base b : Nat) :
    blockTerms s t mode (w.extract base (base + s.blockLen)) 0 b =
      blockTerms s t mode w base b := by
  unfold blockTerms
  apply List.map_congr_left
  intro c hc
  obtain ⟨hk, hn, hj⟩ := mem_cells.1 hc
  have hlane := Nat.lt_of_lt_of_le hj (s.activeLanes_le b)
  congr 1
  apply t.scattered_congr mode _ hn
  intro m hm
  have hlt := position_lt hk hm hlane
  rw [Nat.zero_add, Buffer.entry_extract w (by omega)]

/-- Scattering blocks one after the other, each from its part of the E-vector. -/
theorem addAll_parts (s : Shape) (t : Stencil) (mode : Mode) (w v : Array α) (blocks : List Nat) :
    blocks.foldl (fun v b => Buffer.addAll v (blockTerms s t mode
        (w.extract (b * s.blockLen) (b * s.blockLen + s.blockLen)) 0 b)) v =
      Buffer.addAll v (blocks.flatMap fun b => blockTerms s t mode w (b * s.blockLen) b) := by
  simp only [blockTerms_extract]
  induction blocks generalizing v with
  | nil => rfl
  | cons b blocks ih => rw [List.foldl_cons, ih, List.flatMap_cons, Buffer.addAll_append]

/-- In sums that may be reordered, so may be the blocks. -/
theorem addAll_terms_of_perm {R : Type} [CommRing R] (s : Shape) (t : Stencil) (mode : Mode)
    (w v : Array R) {blocks : List Nat} (h : blocks.Perm (List.range s.numBlock)) :
    Buffer.addAll v (blocks.flatMap fun b => blockTerms s t mode w (b * s.blockLen) b) =
      Buffer.addAll v (terms s t mode w) :=
  Buffer.addAll_perm v (h.flatMap_right _)

end Reference.Operator

/-! ## Elements of points -/

namespace Reference.Points

variable {α : Type} [Add α] [IntCast α]

/-- An element adds the same values wherever they start. -/
theorem moveAll_extract (numComp : Nat) (offsets : Array Int) (w v : Array α) (base e : Nat) :
    moveAll .transpose (w.extract base (base + count offsets e * numComp)) v
        (elementLinks numComp offsets 0 e) =
      moveAll .transpose w v (elementLinks numComp offsets base e) := by
  simp only [moveAll, elementLinks, List.map_map]
  congr 1
  apply List.map_congr_left
  intro x hx
  obtain ⟨hk, hi⟩ := Ranges.mem_pairs.1 hx
  have hlt := mul_add_lt hk hi
  rw [Nat.mul_comm numComp] at hlt
  simp only [Function.comp_apply, Nat.zero_add, Nat.add_assoc base, Buffer.entry_extract w
    (show base + (x.1 * count offsets e + x.2) < base + count offsets e * numComp by omega)]

/-- Scattering elements one after the other, each from its part of the E-vector. -/
theorem moveAll_parts (numElem numComp : Nat) (offsets : Array Int) (w v : Array α) :
    (List.range numElem).foldl (fun v e => moveAll .transpose
        (w.extract (base numElem numComp offsets e)
          (base numElem numComp offsets e + count offsets e * numComp)) v
        (elementLinks numComp offsets 0 e)) v =
      moveAll .transpose w v (links numElem numComp offsets) := by
  simp only [moveAll_extract, links]
  induction List.range numElem generalizing v with
  | nil => rfl
  | cons e es ih => rw [List.foldl_cons, ih, List.flatMap_cons, moveAll_append]

/-- Where the places of all links differ, every value that is gathered is there. -/
theorem getElem?_moveAll_of_mem (u : Array α) {v : Array α} {ls : List (Nat × Nat)}
    (hd : (ls.map Prod.fst).Nodup) {i l : Nat} (hm : (i, l) ∈ ls) (hi : i < v.size) :
    (moveAll .forward u v ls)[i]? = some (Buffer.entry u l) := by
  refine Buffer.getElem?_putAll_of_mem ?_ (List.mem_map.2 ⟨_, hm, rfl⟩) hi
  rwa [List.map_map]

/-- Places without a link keep their value. -/
theorem getElem?_moveAll_of_notMem (u : Array α) {v : Array α} {ls : List (Nat × Nat)} {i : Nat}
    (h : i ∉ ls.map Prod.fst) : (moveAll .forward u v ls)[i]? = v[i]? := by
  refine Buffer.getElem?_putAll_of_notMem ?_
  rwa [List.map_map]

/-- Component `k` of point `i` of an element is linked to its value in the L-vector. -/
theorem link_mem_elementLinks {numComp : Nat} {offsets : Array Int} (base : Nat) {e k i : Nat}
    (hk : k < numComp) (hi : i < count offsets e) :
    (base + k * count offsets e + i, point offsets e i * numComp + k) ∈
      elementLinks numComp offsets base e :=
  List.mem_map.2 ⟨(k, i), Ranges.mem_pairs.2 ⟨hk, hi⟩, rfl⟩

/-- What a gather of one element puts into a vector of its own. -/
theorem getElem?_gatherElement {numComp : Nat} {offsets : Array Int} (u : Array α) {z : Array α}
    {e k i : Nat} (hz : count offsets e * numComp ≤ z.size) (hk : k < numComp)
    (hi : i < count offsets e) :
    (moveAll .forward u z (elementLinks numComp offsets 0 e))[k * count offsets e + i]? =
      some (Buffer.entry u (point offsets e i * numComp + k)) := by
  have hm := link_mem_elementLinks 0 hk hi
  rw [Nat.zero_add] at hm
  have hlt := mul_add_lt hk hi
  rw [Nat.mul_comm numComp] at hlt
  refine getElem?_moveAll_of_mem u ?_ hm (by omega)
  rw [map_elementLinks_fst]
  simpa using List.nodup_range

end Reference.Points

namespace PointRanges

open Reference Points

variable {offsets : Array Int} {numElem numPoints numComp lSize : Nat}

/-- The values of an element start behind those of all elements before it. -/
theorem base_eq (h : PointRanges offsets numElem numPoints numComp lSize) {e : Nat}
    (he : e ≤ numElem) :
    base numElem numComp offsets e = numComp * ∑ f ∈ Finset.range e, count offsets f := by
  induction e with
  | zero => rw [h.base_zero, Finset.sum_range_zero, Nat.mul_zero]
  | succ e ih =>
    rw [h.base_succ he, ih (by omega), Finset.sum_range_succ, Nat.mul_add,
      Nat.mul_comm (count offsets e)]

/-- Element after element, component after component and point after point, the values fill the
E-vector without gaps and without overlaps. -/
theorem places_eq_range (h : PointRanges offsets numElem numPoints numComp lSize) :
    ((List.range numElem).flatMap fun e =>
      (List.range numComp).flatMap fun k =>
        (List.range (count offsets e)).map fun i =>
          base numElem numComp offsets e + k * count offsets e + i) =
      List.range (numPoints * numComp) := by
  rw [← h.map_links_fst, links, List.map_flatMap]
  congr 1
  funext e
  rw [elementLinks, Ranges.pairs_eq, List.map_flatMap, List.map_flatMap]
  simp only [List.map_map]
  rfl

variable {α : Type} [Add α] [IntCast α]

/-- What a gather puts at the places of one element. -/
theorem getElem?_gather (h : PointRanges offsets numElem numPoints numComp lSize) (u : Array α)
    {v : Array α} (hv : numPoints * numComp ≤ v.size) {e k i : Nat} (he : e < numElem)
    (hk : k < numComp) (hi : i < count offsets e) :
    (moveAll .forward u v (links numElem numComp offsets))[
        base numElem numComp offsets e + k * count offsets e + i]? =
      some (Buffer.entry u (point offsets e i * numComp + k)) := by
  have hm : (base numElem numComp offsets e + k * count offsets e + i,
      point offsets e i * numComp + k) ∈ links numElem numComp offsets :=
    List.mem_flatMap.2 ⟨e, List.mem_range.2 he, link_mem_elementLinks _ hk hi⟩
  have hd : ((links numElem numComp offsets).map Prod.fst).Nodup := by
    rw [h.map_links_fst]
    exact List.nodup_range
  exact getElem?_moveAll_of_mem u hd hm (Nat.lt_of_lt_of_le (h.mem_links hm).1 hv)

/-- Nothing is put behind the E-vector. -/
theorem getElem?_gather_of_le (h : PointRanges offsets numElem numPoints numComp lSize)
    (u v : Array α) {i : Nat} (hi : numPoints * numComp ≤ i) :
    (moveAll .forward u v (links numElem numComp offsets))[i]? = v[i]? := by
  apply getElem?_moveAll_of_notMem
  rw [h.map_links_fst, List.mem_range]
  omega

end PointRanges

end GatherScatter
