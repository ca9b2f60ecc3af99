import GatherScatter.Ranges

/-!
# Nested loops as one loop

Nested loops visit the numbers `i * n + j` with `j < n` in their order, and the indices of a visit
are the digits of its number. So what they visit first, second and so on is known by position.

* `range_flatMap_range`: two loops count up without gaps.
* `flatMap_range_eq_map`: two loops are one loop over the digits of its index.
* `Ranges.map_pairs`, `Ranges.map_triples`: the numbers of the visits.
* `Ranges.getElem?_triples`: the visit with a given number.
-/
namespace GatherScatter

/-! ## Mixed radix -/

theorem range_flatMap_range (a b : Nat) :
    ((List.range a).flatMap fun i => (List.range b).map fun j => i * b + j) =
      List.range (a * b) := by
  induction a with
  | zero => simp
  | succ a ih => simp [List.range_succ, List.flatMap_append, ih, Nat.succ_mul, List.range_add]

theorem mul_add_div_of_lt {q m x : Nat} (h : x < m) : (q * m + x) / m = q := by
  rw [Nat.mul_comm, Nat.mul_add_div (by omega), Nat.div_eq_of_lt h, Nat.add_zero]

theorem mul_add_mod_of_lt {q m x : Nat} (h : x < m) : (q * m + x) % m = x := by
  rw [Nat.mul_comm, Nat.mul_add_mod, Nat.mod_eq_of_lt h]

theorem mul_add_lt {q n m x : Nat} (hq : q < n) (hx : x < m) : q * m + x < n * m := by
  have := Nat.mul_le_mul_right m hq
  rw [Nat.succ_mul] at this
  omega

theorem exists_mul_add_of_lt {n m x : Nat} (h : x < n * m) :
    ∃ q r, q < m ∧ r < n ∧ q * n + r = x := by
  have hn : 0 < n := Nat.pos_of_mul_pos_right (Nat.zero_lt_of_lt h)
  exact ⟨x / n, x % n, Nat.div_lt_of_lt_mul h, Nat.mod_lt x hn, Nat.div_add_mod' x n⟩

theorem flatMap_range_eq_map {β : Type} (m n : Nat) (f : Nat → Nat → β) :
    ((List.range m).flatMap fun i => (List.range n).map (f i)) =
      (List.range (m * n)).map fun q => f (q / n) (q % n) := by
  rw [← range_flatMap_range, List.map_flatMap]
  congr 1
  funext i
  rw [List.map_map]
  apply List.map_congr_left
  intro j hj
  have hj := List.mem_range.1 hj
  rw [Function.comp_apply, mul_add_div_of_lt hj, mul_add_mod_of_lt hj]

/-! ## Products of ranges -/

namespace Ranges

/-- An empty inner range ends the loops at once, which changes nothing. -/
theorem pairs_eq (m n : Nat) :
    pairs m n = (List.range m).flatMap fun i => (List.range n).map fun j => (i, j) := by
  unfold pairs
  split
  · rename_i hn
    simp [hn]
  · rfl

theorem triples_eq (l m n : Nat) :
    triples l m n = (pairs l m).flatMap fun x => (List.range n).map fun k => (x.1, x.2, k) := by
  unfold triples
  split
  · rename_i hn
    simp [hn]
  · rfl

theorem triples_eq_flatMap (l m n : Nat) :
    triples l m n =
      (List.range l).flatMap fun i =>
        (List.range m).flatMap fun j => (List.range n).map fun k => (i, j, k) := by
  rw [triples_eq, pairs_eq, List.flatMap_assoc]
  simp only [List.flatMap_map]

/-- Two nested loops are one loop over the digits of its index. -/
theorem pairs_eq_map (m n : Nat) :
    pairs m n = (List.range (m * n)).map fun q => (q / n, q % n) := by
  rw [pairs_eq, flatMap_range_eq_map m n fun i j => (i, j)]

/-- And so are three. -/
theorem triples_eq_map (l m n : Nat) :
    triples l m n = (List.range (l * m * n)).map fun q => (q / n / m, q / n % m, q % n) := by
  rw [triples_eq, pairs_eq_map, List.flatMap_map,
    flatMap_range_eq_map (l * m) n fun q k => (q / m, q % m, k)]

@[simp]
theorem length_triples (l m n : Nat) : (triples l m n).length = l * m * n := by
  simp [triples_eq_map]

/-- The numbers of the visits of two nested loops. -/
theorem map_pairs (m n : Nat) : (pairs m n).map (fun x => x.1 * n + x.2) = List.range (m * n) := by
  rw [← range_flatMap_range, pairs_eq, List.map_flatMap]
  simp only [List.map_map]
  rfl

theorem map_triples (l m n : Nat) :
    (triples l m n).map (fun x => (x.1 * m + x.2.1) * n + x.2.2) = List.range (l * m * n) := by
  rw [← range_flatMap_range, ← map_pairs, triples_eq, List.map_flatMap, List.flatMap_map]
  simp only [List.map_map]
  rfl

theorem getElem?_triples {l m n i j k : Nat} (hi : i < l) (hj : j < m) (hk : k < n) :
    (triples l m n)[(i * m + j) * n + k]? = some (i, j, k) := by
  have hlt := mul_add_lt (mul_add_lt hi hj) hk
  rw [triples_eq_map, List.getElem?_map, List.getElem?_range hlt, Option.map_some,
    mul_add_div_of_lt hk, mul_add_mod_of_lt hk, mul_add_div_of_lt hj, mul_add_mod_of_lt hj]

end Ranges

end GatherScatter
