import GatherScatter.Proofs.Ranges
import GatherScatter.Reference.Operator
import Mathlib.Data.List.Nodup
import Mathlib.Tactic.Ring

/-!
# Places in the E-vector

The loops over a blocked restriction visit blocks, and in each block its cells. `visits` lists the
pairs of a block and a cell in this order and `place` is where such a pair stands in the E-vector.

* `visits_map_place`: with all lanes, the loops visit `0, 1, 2, …` up to the E-vector's length.
* `visits_active_map_place`: with the active lanes, they visit what is left of these places when
  the padding lanes are taken out.
* `lt_numBlocks_iff`: block `b` exists exactly if its first element does.
-/
namespace GatherScatter

/-! ## Blocks and lanes -/

theorem filter_range_lt {m n : Nat} (h : m ≤ n) :
    ((List.range n).filter fun j => decide (j < m)) = List.range m := by
  obtain ⟨d, rfl⟩ := Nat.exists_eq_add_of_le h
  rw [List.range_add, List.filter_append, List.filter_eq_self.2, List.filter_eq_nil_iff.2,
    List.append_nil]
  · intro j hj
    obtain ⟨i, -, rfl⟩ := List.mem_map.1 hj
    simp
  · intro j hj
    simpa using hj

theorem lt_numBlocks_iff {numElem blockSize b : Nat} (h : 0 < blockSize) :
    b < numBlocks numElem blockSize ↔ b * blockSize < numElem := by
  rw [numBlocks, Nat.max_eq_left h, Nat.lt_iff_add_one_le, Nat.le_div_iff_mul_le h, Nat.add_mul]
  omega

@[simp]
theorem numBlocks_one (numElem : Nat) : numBlocks numElem 1 = numElem := by simp [numBlocks]

theorem div_lt_numBlocks {numElem blockSize e : Nat} (h : 0 < blockSize) (he : e < numElem) :
    e / blockSize < numBlocks numElem blockSize := by
  rw [lt_numBlocks_iff h]
  have := Nat.div_mul_le_self e blockSize
  omega

namespace Blocking

/-- Every lane of an existing block is filled by an element. -/
theorem laneElem_lt {numElem blockSize b j : Nat} (h : b * blockSize < numElem) :
    laneElem numElem blockSize b j < numElem := by
  unfold laneElem; omega

theorem laneElem_of_active {numElem blockSize b j : Nat} (h : b * blockSize + j < numElem) :
    laneElem numElem blockSize b j = b * blockSize + j := by
  unfold laneElem; omega

end Blocking

namespace Shape

theorem lt_activeLanes_iff {s : Shape} {b j : Nat} :
    j < s.activeLanes b ↔ j < s.blockSize ∧ b * s.blockSize + j < s.numElem := by
  unfold activeLanes; omega

theorem activeLanes_le (s : Shape) (b : Nat) : s.activeLanes b ≤ s.blockSize := by
  unfold activeLanes; omega

/-- Whether place `i` of the E-vector is a lane past the last element. -/
def isPadding (s : Shape) (i : Nat) : Bool :=
  !s.isPoints && decide (s.numElem ≤ i / s.blockLen * s.blockSize + i % s.blockSize)

end Shape

namespace Reference.Operator

theorem cells_eq (s : Shape) (lanes : Nat) :
    cells s lanes = (Ranges.triples s.numComp s.elemSize lanes).map fun x =>
      ⟨x.1, x.2.1, x.2.2⟩ := by
  simp only [cells, Ranges.triples_eq_flatMap, List.map_flatMap, List.map_map]
  rfl

theorem mem_cells {s : Shape} {lanes : Nat} {c : Cell} :
    c ∈ cells s lanes ↔ c.comp < s.numComp ∧ c.node < s.elemSize ∧ c.lane < lanes := by
  rw [cells_eq, List.mem_map]
  constructor
  · rintro ⟨x, hx, rfl⟩
    exact Ranges.mem_triples.1 hx
  · intro h
    exact ⟨(c.comp, c.node, c.lane), Ranges.mem_triples.2 h, rfl⟩

theorem position_lt {s : Shape} {k n j : Nat} (hk : k < s.numComp) (hn : n < s.elemSize)
    (hj : j < s.blockSize) : position s k n j < s.blockLen := by
  have h := mul_add_lt (mul_add_lt hk hn) hj
  have hlen : s.blockLen = s.numComp * s.elemSize * s.blockSize := by
    rw [Shape.blockLen, Nat.mul_assoc, Nat.mul_comm, Nat.mul_comm s.elemSize]
  rwa [position, hlen]

/-- Place of cell `c` of block `b` in the E-vector. -/
def place (s : Shape) (b : Nat) (c : Cell) : Nat :=
  b * s.blockLen + position s c.comp c.node c.lane

/-- Blocks and their cells in the order of an apply; block `b` has `lanes b` lanes. -/
def visits (s : Shape) (lanes : Nat → Nat) : List (Nat × Cell) :=
  (List.range s.numBlock).flatMap fun b => (cells s (lanes b)).map fun c => (b, c)

theorem mem_visits {s : Shape} {lanes : Nat → Nat} {x : Nat × Cell} :
    x ∈ visits s lanes ↔ x.1 < s.numBlock ∧ x.2.comp < s.numComp ∧ x.2.node < s.elemSize ∧
      x.2.lane < lanes x.1 := by
  obtain ⟨b, c⟩ := x
  simp only [visits, List.mem_flatMap, List.mem_map, List.mem_range, Prod.mk.injEq]
  constructor
  · rintro ⟨_, hb, _, hc, rfl, rfl⟩
    exact ⟨hb, mem_cells.1 hc⟩
  · rintro ⟨hb, hc⟩
    exact ⟨b, hb, c, mem_cells.2 hc, rfl, rfl⟩

theorem cells_map_position (s : Shape) :
    (cells s s.blockSize).map (fun c => position s c.comp c.node c.lane) =
      List.range s.blockLen := by
  have hlen : s.blockLen = s.numComp * s.elemSize * s.blockSize := by
    rw [Shape.blockLen]; ring
  rw [cells_eq, List.map_map, hlen, ← Ranges.map_triples]
  rfl

/-- The loops over all lanes visit the places of the E-vector one after the other. -/
theorem visits_map_place (s : Shape) :
    (visits s fun _ => s.blockSize).map (fun x => place s x.1 x.2) =
      List.range (s.numBlock * s.blockLen) := by
  rw [← range_flatMap_range, visits, List.map_flatMap]
  congr 1
  funext b
  rw [← cells_map_position s, List.map_map, List.map_map]
  rfl

theorem nodup_visits (s : Shape) : (visits s fun _ => s.blockSize).Nodup :=
  List.Nodup.of_map _ (by rw [visits_map_place]; exact List.nodup_range)

/-- A place tells its block and its lane. -/
theorem isPadding_place {s : Shape} (hs : s.isPoints = false) {x : Nat × Cell}
    (hx : x ∈ visits s fun _ => s.blockSize) :
    s.isPadding (place s x.1 x.2) = decide (s.numElem ≤ x.1 * s.blockSize + x.2.lane) := by
  obtain ⟨-, hk, hn, hj⟩ := mem_visits.1 hx
  have hdiv : place s x.1 x.2 / s.blockLen = x.1 := mul_add_div_of_lt (position_lt hk hn hj)
  have hmod : place s x.1 x.2 % s.blockSize = x.2.lane := by
    have h : place s x.1 x.2 =
        (x.1 * (s.elemSize * s.numComp) + (x.2.comp * s.elemSize + x.2.node)) * s.blockSize +
          x.2.lane := by
      simp only [place, position, Shape.blockLen]; ring
    rw [h, mul_add_mod_of_lt hj]
  rw [Shape.isPadding, hs, hdiv, hmod]
  rfl

/-- The active lanes of a block are those that an element fills. -/
theorem range_activeLanes (s : Shape) (b : Nat) :
    List.range (s.activeLanes b) =
      (List.range s.blockSize).filter fun j => !decide (s.numElem ≤ b * s.blockSize + j) := by
  rw [← filter_range_lt (s.activeLanes_le b)]
  apply List.filter_congr
  intro j hj
  rw [List.mem_range] at hj
  rw [← decide_not, decide_eq_decide, Shape.lt_activeLanes_iff]
  omega

theorem visits_active (s : Shape) :
    visits s s.activeLanes = (visits s fun _ => s.blockSize).filter fun x =>
      !decide (s.numElem ≤ x.1 * s.blockSize + x.2.lane) := by
  simp only [visits, cells, List.filter_flatMap, List.filter_map, range_activeLanes,
    List.map_flatMap]
  rfl

/-- The places of the active lanes are all places but the padding lanes. -/
theorem visits_active_map_place {s : Shape} (hs : s.isPoints = false) :
    (visits s s.activeLanes).map (fun x => place s x.1 x.2) =
      (List.range (s.numBlock * s.blockLen)).filter fun i => !s.isPadding i := by
  rw [← visits_map_place, List.filter_map, visits_active]
  congr 1
  apply List.filter_congr
  intro x hx
  rw [Function.comp_apply, isPadding_place hs hx]

end Reference.Operator

end GatherScatter
