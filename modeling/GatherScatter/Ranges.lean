/-!
# Products of ranges

The indices that loops over ranges visit when they are nested, the innermost index running fastest.
Where an inner range is empty there is nothing to visit, and the ranges around it are not walked,
however long they are.

* `mem_pairs`, `mem_triples`: every index is visited.
-/
namespace GatherScatter.Ranges

/-- Indices of two nested loops. -/
def pairs (m n : Nat) : List (Nat × Nat) :=
  if n = 0 then []
  else (List.range m).flatMap fun i => (List.range n).map fun j => (i, j)

/-- Indices of three nested loops. -/
def triples (l m n : Nat) : List (Nat × Nat × Nat) :=
  if n = 0 then []
  else (pairs l m).flatMap fun (i, j) => (List.range n).map fun k => (i, j, k)

theorem mem_pairs {m n : Nat} {x : Nat × Nat} : x ∈ pairs m n ↔ x.1 < m ∧ x.2 < n := by
  obtain ⟨i, j⟩ := x
  unfold pairs
  split
  · simp; omega
  · simp

theorem mem_triples {l m n : Nat} {x : Nat × Nat × Nat} :
    x ∈ triples l m n ↔ x.1 < l ∧ x.2.1 < m ∧ x.2.2 < n := by
  obtain ⟨i, j, k⟩ := x
  unfold triples
  split
  · simp; omega
  · simp only [List.mem_flatMap, List.mem_map, List.mem_range, mem_pairs, Prod.mk.injEq]
    constructor
    · rintro ⟨_, ⟨hi, hj⟩, _, hk, rfl, rfl, rfl⟩
      exact ⟨hi, hj, hk⟩
    · rintro ⟨hi, hj, hk⟩
      exact ⟨(i, j), ⟨hi, hj⟩, k, hk, rfl, rfl, rfl⟩

end GatherScatter.Ranges
