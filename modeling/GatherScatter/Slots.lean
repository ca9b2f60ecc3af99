/-!
# Slots

Named slots, each empty or holding one value. An association list whose names are distinct.

* `get?_put`, `get?_erase`: what the two changes do to the contents.
-/
namespace GatherScatter

/-- The occupied slots with their values. -/
structure Slots (β : Type) where
  entries : List (String × β) := []
  distinct : entries.Pairwise (fun a b => a.1 ≠ b.1) := by exact .nil

namespace Slots

variable {β : Type}

def get? (s : Slots β) (name : String) : Option β := s.entries.lookup name

/-- Empties a slot. -/
def erase (s : Slots β) (name : String) : Slots β where
  entries := s.entries.filter fun e => name != e.1
  distinct := s.distinct.filter _

/-- Fills a slot, whatever it held. -/
def put (s : Slots β) (name : String) (b : β) : Slots β where
  entries := (name, b) :: (s.erase name).entries
  distinct := by
    refine List.pairwise_cons.2 ⟨fun e he => ?_, (s.erase name).distinct⟩
    exact bne_iff_ne.1 (List.mem_filter.1 he).2

theorem lookup_cons_ite (a b : String) (x : β) (es : List (String × β)) :
    List.lookup b ((a, x) :: es) = if b = a then some x else List.lookup b es := by
  rw [List.lookup_cons]
  by_cases h : b = a
  · simp [h]
  · rw [if_neg h, beq_false_of_ne h]

theorem lookup_filter (a b : String) (es : List (String × β)) :
    List.lookup b (es.filter fun e => a != e.1) = if b = a then none else List.lookup b es := by
  induction es with
  | nil => simp
  | cons e es ih =>
    obtain ⟨c, x⟩ := e
    by_cases hc : a = c
    · subst hc
      simp only [List.filter_cons, bne_self_eq_false, Bool.false_eq_true, if_false, ih,
        lookup_cons_ite]
      split <;> rfl
    · simp only [List.filter_cons, bne_iff_ne.2 hc, if_true, ih, lookup_cons_ite]
      by_cases hb : b = a
      · rw [if_pos hb, if_neg (by rw [hb]; exact hc), if_pos hb]
      · rw [if_neg hb, if_neg hb]

theorem get?_erase (s : Slots β) (a b : String) :
    (s.erase a).get? b = if b = a then none else s.get? b :=
  lookup_filter a b s.entries

theorem get?_put (s : Slots β) (a b : String) (x : β) :
    (s.put a x).get? b = if b = a then some x else s.get? b := by
  rw [get?, put, lookup_cons_ite]
  by_cases h : b = a
  · rw [if_pos h, if_pos h]
  · rw [if_neg h, if_neg h]
    exact (s.get?_erase a b).trans (if_neg h)

end Slots

end GatherScatter
