import GatherScatter.Slots
import Mathlib.Data.List.Basic

/-!
# Counting slots

`count` is the number of occupied slots whose value has a property. Since names are distinct, a
change of one slot moves the count by what was in it and by what is put there.

* `get?_eq_some_iff`: what is in a slot is an entry, and the other way round.
* `count_erase`, `count_put`: the counts after the two changes.
-/
namespace GatherScatter.Slots

variable {β : Type}

theorem get?_eq_some_iff {s : Slots β} {name : String} {b : β} :
    s.get? name = some b ↔ (name, b) ∈ s.entries := by
  obtain ⟨entries, distinct⟩ := s
  unfold get?
  dsimp only
  induction entries with
  | nil => simp
  | cons e es ih =>
    obtain ⟨c, x⟩ := e
    rw [List.pairwise_cons] at distinct
    rw [lookup_cons_ite, List.mem_cons, Prod.mk.injEq]
    by_cases h : name = c
    · subst h
      have hnot : (name, b) ∉ es := fun hm => distinct.1 _ hm rfl
      simp [hnot, eq_comm]
    · simp [h, ih distinct.2]

theorem mem_entries_erase {s : Slots β} {name : String} {e : String × β} :
    e ∈ (s.erase name).entries ↔ name ≠ e.1 ∧ e ∈ s.entries := by
  rw [erase, List.mem_filter, bne_iff_ne, and_comm]

theorem mem_entries_put {s : Slots β} {name : String} {b : β} {e : String × β} :
    e ∈ (s.put name b).entries ↔ e = (name, b) ∨ name ≠ e.1 ∧ e ∈ s.entries := by
  rw [put, List.mem_cons, mem_entries_erase]

/-- Emptying an empty slot. -/
theorem erase_eq_self {s : Slots β} {name : String} (h : s.get? name = none) :
    s.erase name = s := by
  have hself : s.entries.filter (fun e => name != e.1) = s.entries := by
    rw [List.filter_eq_self]
    intro e he
    refine bne_iff_ne.2 ?_
    rintro rfl
    rw [get?_eq_some_iff.2 he] at h
    cases h
  obtain ⟨entries, distinct⟩ := s
  simpa only [erase, Slots.mk.injEq] using hself

/-- Number of occupied slots whose value satisfies `p`. -/
def count (s : Slots β) (p : β → Bool) : Nat := s.entries.countP fun e => p e.2

theorem count_pos {s : Slots β} {name : String} {b : β} {p : β → Bool}
    (h : s.get? name = some b) (hp : p b) : 0 < s.count p :=
  List.countP_pos_iff.2 ⟨(name, b), get?_eq_some_iff.1 h, hp⟩

theorem count_erase (s : Slots β) (name : String) (p : β → Bool) :
    (s.erase name).count p + (s.get? name).toList.countP p = s.count p := by
  obtain ⟨entries, distinct⟩ := s
  unfold count erase get?
  dsimp only
  induction entries with
  | nil => rfl
  | cons e es ih =>
    obtain ⟨c, x⟩ := e
    rw [List.pairwise_cons] at distinct
    rw [lookup_cons_ite]
    by_cases hc : name = c
    · subst hc
      have hself : es.filter (fun e => name != e.1) = es := by
        rw [List.filter_eq_self]
        intro e he
        exact bne_iff_ne.2 (distinct.1 e he)
      rw [if_pos rfl, List.filter_cons_of_neg (by simp), hself, List.countP_cons]
      simp [List.countP_cons]
    · rw [if_neg hc, List.filter_cons_of_pos (by simpa using hc), List.countP_cons,
        List.countP_cons, ← ih distinct.2]
      omega

/-- Two slots with values that satisfy `p`. -/
theorem two_le_count {s : Slots β} {name name' : String} {b b' : β} {p : β → Bool}
    (h : s.get? name = some b) (h' : s.get? name' = some b') (hne : name' ≠ name) (hp : p b)
    (hp' : p b') : 2 ≤ s.count p := by
  have herase := s.count_erase name p
  have hother : (s.erase name).get? name' = some b' := by rw [get?_erase, if_neg hne, h']
  have := count_pos hother hp'
  rw [h, Option.toList_some, List.countP_singleton, if_pos hp] at herase
  omega

theorem count_put (s : Slots β) (name : String) (b : β) (p : β → Bool) :
    (s.put name b).count p + (s.get? name).toList.countP p = s.count p + if p b then 1 else 0 := by
  have hput : (s.put name b).count p = (s.erase name).count p + if p b then 1 else 0 := by
    rw [count, put, List.countP_cons]
    rfl
  have := s.count_erase name p
  omega

end GatherScatter.Slots
