import GatherScatter.Buffer
import Mathlib.Data.List.Forall2

/-!
# Loops over buffers

The loops of the library are folds whose steps may fail. Where no step can fail, such a loop is a
plain fold of pure steps, and the buffer it leaves is known entry by entry.

* `Loop.foldlM_eq_foldl`, `Loop.mapM_eq_map`: loops without a failing step.
* `Loop.foldlM_push`: a loop that appends one result after the other.
* `Loop.forall_of_foldlM_eq_ok`: what every entry has where a loop over them succeeds.
* `Loop.find?_reverse_zipIdx`: a search of a list from the end gives the last entry it finds.
* `Buffer.FirstWithout`, `Buffer.exists_find?_drop`: a search of a buffer, from some entry on, gives
  the first entry that does not have a property.
* `Buffer.putAll`, `Buffer.addAll`: the buffer after a loop that overwrites entries, or adds to
  them.
* `getElem?_putAll_of_mem`: where the positions are distinct, every value that was put is there.
* `getElem?_addAll`: an entry receives exactly its own terms, in their order.
-/
namespace GatherScatter

namespace Loop

variable {ε ι β γ : Type}

/-- A sequence of two steps succeeds exactly when both do. -/
theorem bind_eq_ok {x : Except ε β} {f : β → Except ε γ} {c : γ} :
    (x >>= f) = .ok c ↔ ∃ b, x = .ok b ∧ f b = .ok c := by
  constructor
  · intro h
    cases x with
    | error e => cases h
    | ok b => exact ⟨b, rfl, h⟩
  · rintro ⟨b, rfl, h⟩
    exact h

/-- A check in front of a computation. -/
theorem check_eq_ok {x : Except ε Unit} {y : Except ε β} {c : β} :
    (x >>= fun _ => y) = .ok c ↔ x = .ok () ∧ y = .ok c := by
  rw [bind_eq_ok]
  exact ⟨fun ⟨_, hx, hy⟩ => ⟨hx, hy⟩, fun ⟨hx, hy⟩ => ⟨(), hx, hy⟩⟩

/-- A refusal in front of a computation. -/
theorem refuse_eq_ok {p : Prop} [Decidable p] {e : ε} {f : Unit → Except ε β} {c : β} :
    (if p then throw e >>= f else f ()) = .ok c ↔ ¬ p ∧ f () = .ok c := by
  by_cases hp : p
  · rw [if_pos hp]
    exact ⟨nofun, fun h => absurd hp h.1⟩
  · rw [if_neg hp]
    exact ⟨fun h => ⟨hp, h⟩, fun h => h.2⟩

@[simp]
theorem ok_bind (b : β) (f : β → Except ε γ) : ((.ok b : Except ε β) >>= f) = f b := rfl

theorem isOk_iff {x : Except ε β} : x.isOk ↔ ∃ b, x = .ok b := by
  cases x <;> simp [Except.isOk, Except.toBool]

theorem pure_eq (b : β) : (pure b : Except ε β) = .ok b := rfl

/-- A loop whose steps succeed under an invariant is the fold of their results. -/
theorem foldlM_eq_foldl {f : β → ι → Except ε β} {g : β → ι → β} (P : β → Prop) {l : List ι}
    (h : ∀ x ∈ l, ∀ b, P b → f b x = .ok (g b x) ∧ P (g b x)) {b : β} (hb : P b) :
    l.foldlM f b = .ok (l.foldl g b) ∧ P (l.foldl g b) := by
  induction l generalizing b with
  | nil => exact ⟨rfl, hb⟩
  | cons x l ih =>
    obtain ⟨h1, h2⟩ := h x List.mem_cons_self b hb
    rw [List.foldlM_cons, h1, ok_bind, List.foldl_cons]
    exact ih (fun y hy => h y (List.mem_cons_of_mem x hy)) h2

/-- A loop whose steps demand something of their entries succeeds only where all entries have it. -/
theorem forall_of_foldlM_eq_ok {f : β → ι → Except ε β} (P : β → Prop) {Q : ι → Prop}
    (h : ∀ b x b', P b → f b x = .ok b' → Q x ∧ P b') {l : List ι} {b c : β} (hb : P b)
    (hl : l.foldlM f b = .ok c) : ∀ x ∈ l, Q x := by
  induction l generalizing b with
  | nil => exact List.forall_mem_nil _
  | cons x l ih =>
    rw [List.foldlM_cons] at hl
    obtain ⟨b', hstep, hrest⟩ := bind_eq_ok.1 hl
    obtain ⟨hx, hb'⟩ := h b x b' hb hstep
    exact List.forall_mem_cons.2 ⟨hx, ih hb' hrest⟩

theorem mapM_eq_ok_iff {f : ι → Except ε β} {xs : List ι} {ys : List β} :
    xs.mapM f = .ok ys ↔ List.Forall₂ (fun x y => f x = .ok y) xs ys := by
  induction xs generalizing ys with
  | nil =>
    rw [List.mapM_nil, List.forall₂_nil_left_iff, pure_eq, Except.ok.injEq, eq_comm]
  | cons x xs ih =>
    rw [List.mapM_cons, bind_eq_ok, List.forall₂_cons_left_iff]
    constructor
    · rintro ⟨y, hy, h⟩
      obtain ⟨zs, hzs, h⟩ := bind_eq_ok.1 h
      cases h
      exact ⟨y, zs, hy, ih.1 hzs, rfl⟩
    · rintro ⟨y, zs, hy, hzs, rfl⟩
      exact ⟨y, hy, bind_eq_ok.2 ⟨zs, ih.2 hzs, rfl⟩⟩

theorem mapM_eq_ok_iff_map {f : ι → Except ε β} {xs : List ι} {ys : List β} :
    xs.mapM f = .ok ys ↔ xs.map f = ys.map .ok := by
  rw [mapM_eq_ok_iff, ← List.forall₂_eq_eq_eq, List.forall₂_map_left_iff,
    List.forall₂_map_right_iff]

/-- Where every step of a loop succeeds, so does the loop, with the results in order. -/
theorem exists_mapM_eq_ok {f : ι → Except ε β} {l : List ι} (h : ∀ x ∈ l, ∃ y, f x = .ok y) :
    ∃ ys, l.mapM f = .ok ys ∧ List.Forall₂ (fun x y => f x = .ok y) l ys := by
  induction l with
  | nil => exact ⟨[], rfl, .nil⟩
  | cons x l ih =>
    obtain ⟨y, hy⟩ := h x List.mem_cons_self
    obtain ⟨ys, -, hys⟩ := ih fun z hz => h z (List.mem_cons_of_mem x hz)
    have hall : List.Forall₂ (fun x y => f x = .ok y) (x :: l) (y :: ys) := .cons hy hys
    exact ⟨y :: ys, mapM_eq_ok_iff.2 hall, hall⟩

theorem mapM_eq_map {f : ι → Except ε β} {g : ι → β} {xs : List ι}
    (h : ∀ x ∈ xs, f x = .ok (g x)) : xs.mapM f = .ok (xs.map g) := by
  induction xs with
  | nil => rfl
  | cons x xs ih =>
    rw [List.mapM_cons, h x List.mem_cons_self, ok_bind,
      ih fun y hy => h y (List.mem_cons_of_mem x hy)]
    rfl

/-- A loop that appends a result in every step gives the results in order. -/
theorem foldlM_push {f : ι → Except ε β} (xs : List ι) (out : Array β) :
    xs.foldlM (fun out x => do return out.push (← f x)) out =
      (do return out ++ (← xs.mapM f).toArray) := by
  induction xs generalizing out with
  | nil => simp
  | cons x xs ih =>
    rw [List.foldlM_cons, List.mapM_cons]
    cases f x with
    | error e => rfl
    | ok y =>
      rw [ok_bind, ok_bind, pure_eq, ok_bind, ih]
      cases xs.mapM f with
      | error e => rfl
      | ok ys => simp

/-! ## Searching -/

theorem find?_zipIdx_eq_none_iff {xs : List β} {p : β → Bool} :
    (xs.zipIdx.find? fun x => p x.1) = none ↔ ∀ b ∈ xs, p b = false := by
  rw [List.find?_eq_none]
  constructor
  · intro h b hb
    obtain ⟨i, hi⟩ := List.mem_iff_getElem?.1 hb
    simpa using h (b, i) (List.mem_zipIdx_iff_getElem?.2 hi)
  · intro h x hx
    simpa using h x.1 (List.mem_of_getElem? (List.mem_zipIdx_iff_getElem?.1 hx))

/-- The entry that is found comes with its position, and no entry before it has the property. -/
theorem exists_find?_zipIdx {xs : List β} {p : β → Bool} (h : ∃ b ∈ xs, p b = true) :
    ∃ b i, (xs.zipIdx.find? fun x => p x.1) = some (b, i) ∧ xs[i]? = some b ∧ p b = true ∧
      ∀ j < i, ∀ c, xs[j]? = some c → p c = false := by
  cases hf : xs.zipIdx.find? fun x => p x.1 with
  | none =>
    obtain ⟨b, hb, hp⟩ := h
    rw [find?_zipIdx_eq_none_iff.1 hf b hb] at hp
    cases hp
  | some x =>
    obtain ⟨hp, i, hi, rfl, hbefore⟩ := List.find?_eq_some_iff_getElem.1 hf
    rw [List.length_zipIdx] at hi
    simp only [List.getElem_zipIdx, Nat.zero_add] at hp hbefore ⊢
    refine ⟨xs[i], i, rfl, List.getElem?_eq_getElem hi, hp, fun j hj c hc => ?_⟩
    obtain ⟨hlt, rfl⟩ := List.getElem?_eq_some_iff.1 hc
    simpa using hbefore j hj

/-- A search from the end finds the last entry that has the property. -/
theorem find?_reverse_zipIdx {xs : List β} {p : β → Bool} {k i : Nat} {b : β}
    (hb : xs[i]? = some b) (hp : p b = true)
    (hafter : ∀ j, i < j → ∀ c, xs[j]? = some c → p c = false) :
    ((xs.zipIdx k).reverse.find? fun x => p x.1) = some (b, k + i) := by
  induction xs generalizing k i with
  | nil => simp at hb
  | cons x xs ih =>
    rw [List.zipIdx_cons, List.reverse_cons, List.find?_append]
    cases i with
    | zero =>
      have hnone : ((xs.zipIdx (k + 1)).reverse.find? fun x => p x.1) = none := by
        rw [List.find?_eq_none]
        intro y hy
        obtain ⟨-, hy⟩ := List.mem_zipIdx_iff_le_and_getElem?_sub.1 (List.mem_reverse.1 hy)
        simp [hafter (y.2 - (k + 1) + 1) (by omega) y.1 (by simpa using hy)]
      obtain rfl : x = b := by simpa using hb
      simp [hnone, hp]
    | succ i =>
      rw [ih (by simpa using hb) fun j hj c hc => hafter (j + 1) (by omega) c (by simpa using hc)]
      simp
      omega

end Loop

namespace Buffer

variable {β : Type}

/-- Entry `i` is `b`, and from entry `start` on it is the first one without the property. -/
structure FirstWithout (P : β → Prop) (xs : Array β) (start i : Nat) (b : β) : Prop where
  start_le : start ≤ i
  entry : xs[i]? = some b
  without : ¬ P b
  before : ∀ j, start ≤ j → j < i → ∀ c, xs[j]? = some c → P c

theorem FirstWithout.unique {P : β → Prop} {xs : Array β} {start i j : Nat} {b c : β}
    (h : FirstWithout P xs start i b) (h' : FirstWithout P xs start j c) : i = j ∧ b = c := by
  have hij : i = j := by
    rcases Nat.lt_trichotomy i j with hlt | heq | hlt
    · exact absurd (h'.before i h.start_le hlt b h.entry) h.without
    · exact heq
    · exact absurd (h.before j h'.start_le hlt c h'.entry) h'.without
  subst hij
  exact ⟨rfl, Option.some.inj (h.entry.symm.trans h'.entry)⟩

/-- A search for the entries without the property finds the first one. -/
theorem exists_find?_drop {P : β → Prop} {p : β → Bool} (hp : ∀ b, p b = false ↔ P b)
    {xs : Array β} {start : Nat} (h : ∃ b ∈ xs.toList.drop start, ¬ P b) :
    ∃ i b, FirstWithout P xs start (start + i) b ∧
      ((xs.toList.drop start).zipIdx.find? fun x => p x.1) = some (b, i) := by
  have hget (j : Nat) : (xs.toList.drop start)[j]? = xs[start + j]? := by
    rw [List.getElem?_drop, Array.getElem?_toList]
  obtain ⟨b, hb, hnot⟩ := h
  obtain ⟨b, i, hfind, hentry, hfound, hbefore⟩ :=
    Loop.exists_find?_zipIdx ⟨b, hb, eq_true_of_ne_false (mt (hp b).1 hnot)⟩
  refine ⟨i, b, ⟨Nat.le_add_right start i, (hget i).symm.trans hentry, fun h => ?_,
    fun j hj hji c hc => ?_⟩, hfind⟩
  · rw [(hp b).2 h] at hfound
    cases hfound
  · refine (hp c).1 (hbefore (j - start) (by omega) c ?_)
    rw [hget, Nat.add_sub_cancel' hj]
    exact hc

theorem read_eq_ok {xs : Array β} {i : Nat} (h : i < xs.size) (d : β) :
    read xs i = .ok (xs.getD i d) := by
  rw [read_eq_ok_iff, Array.getElem?_eq_getElem h, Array.getD, dif_pos h]
  rfl

/-- Entry `i`, read in a type of scalars; zero outside the array. -/
def entry [IntCast β] (xs : Array β) (i : Nat) : β := xs.getD i ((0 : Int) : β)

theorem read_eq_entry [IntCast β] {xs : Array β} {i : Nat} (h : i < xs.size) :
    read xs i = .ok (entry xs i) := read_eq_ok h _

theorem some_entry [IntCast β] {xs : Array β} {i : Nat} (h : i < xs.size) :
    some (entry xs i) = xs[i]? := by
  rw [entry, Array.getD, dif_pos h, Array.getElem?_eq_getElem h]
  rfl

/-- An entry of a part of an array. -/
theorem entry_extract [IntCast β] (xs : Array β) {start stop i : Nat} (h : start + i < stop) :
    entry (xs.extract start stop) i = entry xs (start + i) := by
  unfold entry
  simp only [Array.getD_eq_getD_getElem?, Array.getElem?_extract]
  split
  · rfl
  · rw [Array.getElem?_eq_none (by omega)]

theorem write_eq_ok {xs : Array β} {i : Nat} (h : i < xs.size) (x : β) :
    write xs i x = .ok (xs.setIfInBounds i x) := by
  rw [write, dif_pos h, Array.setIfInBounds, dif_pos h]

theorem setIfInBounds_eq_modify {xs : Array β} {i : Nat} (h : i < xs.size) (d : β) (g : β → β) :
    xs.setIfInBounds i (g (xs.getD i d)) = xs.modify i g := by
  apply Array.ext_getElem?
  intro j
  rw [Array.getElem?_setIfInBounds, Array.getElem?_modify]
  by_cases hj : i = j
  · subst hj; simp [Array.getD, h]
  · simp [hj]

/-- Reading an entry, adding to it and writing it back. -/
theorem read_write_add [Add β] {xs : Array β} {i : Nat} (h : i < xs.size) (x : β) :
    (do let old ← read xs i; write xs i (old + x)) = .ok (xs.modify i (· + x)) := by
  rw [read_eq_ok h xs[i], Loop.ok_bind, write_eq_ok h]
  exact congrArg Except.ok (setIfInBounds_eq_modify h _ (· + x))

theorem getElem?_foldl_modify_range (g : Nat → β → β) (v : Array β) (k i : Nat) :
    ((List.range k).foldl (fun v l => v.modify l (g l)) v)[i]? =
      if i < k then v[i]?.map (g i) else v[i]? := by
  induction k with
  | zero => simp
  | succ k ih =>
    rw [List.range_succ, List.foldl_append, List.foldl_cons, List.foldl_nil,
      Array.getElem?_modify, ih]
    by_cases h : k = i
    · subst h; simp
    · by_cases h' : i < k
      · rw [if_neg h, if_pos h', if_pos (by omega)]
      · rw [if_neg h, if_neg h', if_neg (by omega)]

/-! ## Overwriting -/

/-- Puts values into their entries, one after the other. -/
def putAll (v : Array β) (xs : List (Nat × β)) : Array β :=
  xs.foldl (fun v x => v.setIfInBounds x.1 x.2) v

theorem putAll_cons (v : Array β) (x : Nat × β) (xs : List (Nat × β)) :
    putAll v (x :: xs) = putAll (v.setIfInBounds x.1 x.2) xs := rfl

theorem putAll_append (v : Array β) (xs ys : List (Nat × β)) :
    putAll v (xs ++ ys) = putAll (putAll v xs) ys := List.foldl_append

@[simp]
theorem size_putAll (v : Array β) (xs : List (Nat × β)) : (putAll v xs).size = v.size := by
  induction xs generalizing v with
  | nil => rfl
  | cons x xs ih => rw [putAll_cons, ih, Array.size_setIfInBounds]

/-- Entries to which nothing is put keep their value. -/
theorem getElem?_putAll_of_notMem {v : Array β} {xs : List (Nat × β)} {i : Nat}
    (h : i ∉ xs.map Prod.fst) : (putAll v xs)[i]? = v[i]? := by
  induction xs generalizing v with
  | nil => rfl
  | cons x xs ih =>
    rw [List.map_cons, List.mem_cons, not_or] at h
    rw [putAll_cons, ih h.2, Array.getElem?_setIfInBounds, if_neg fun e => h.1 e.symm]

theorem getElem?_putAll_of_mem {v : Array β} {xs : List (Nat × β)} {i : Nat} {b : β}
    (hd : (xs.map Prod.fst).Nodup) (hm : (i, b) ∈ xs) (hi : i < v.size) :
    (putAll v xs)[i]? = some b := by
  induction xs generalizing v with
  | nil => cases hm
  | cons x xs ih =>
    rw [List.map_cons, List.nodup_cons] at hd
    rw [putAll_cons]
    rcases List.mem_cons.1 hm with rfl | hm
    · rw [getElem?_putAll_of_notMem hd.1, Array.getElem?_setIfInBounds, if_pos rfl, if_pos hi]
    · exact ih hd.2 hm (by simpa using hi)

/-! ## Adding -/

/-- Adds terms to their entries, one after the other. -/
def addAll [Add β] (v : Array β) (xs : List (Nat × β)) : Array β :=
  xs.foldl (fun v x => v.modify x.1 (· + x.2)) v

/-- The terms of entry `i`, in order. -/
def termsAt (i : Nat) (xs : List (Nat × β)) : List β :=
  (xs.filter fun x => x.1 = i).map Prod.snd

theorem termsAt_cons (i : Nat) (x : Nat × β) (xs : List (Nat × β)) :
    termsAt i (x :: xs) = if x.1 = i then x.2 :: termsAt i xs else termsAt i xs := by
  by_cases h : x.1 = i <;> simp [termsAt, h]

variable [Add β]

theorem addAll_cons (v : Array β) (x : Nat × β) (xs : List (Nat × β)) :
    addAll v (x :: xs) = addAll (v.modify x.1 (· + x.2)) xs := rfl

theorem addAll_append (v : Array β) (xs ys : List (Nat × β)) :
    addAll v (xs ++ ys) = addAll (addAll v xs) ys := List.foldl_append

@[simp]
theorem size_addAll (v : Array β) (xs : List (Nat × β)) : (addAll v xs).size = v.size := by
  induction xs generalizing v with
  | nil => rfl
  | cons x xs ih => rw [addAll_cons, ih, Array.size_modify]

theorem getElem?_addAll (v : Array β) (xs : List (Nat × β)) (i : Nat) :
    (addAll v xs)[i]? = v[i]?.map fun old => (termsAt i xs).foldl (· + ·) old := by
  induction xs generalizing v with
  | nil => simp [addAll, termsAt]
  | cons x xs ih =>
    rw [addAll_cons, ih, Array.getElem?_modify, termsAt_cons]
    by_cases h : x.1 = i
    · rw [if_pos h, if_pos h]
      cases v[i]? <;> rfl
    · rw [if_neg h, if_neg h]

/-- Entries without terms keep their value. -/
theorem getElem?_addAll_of_notMem {v : Array β} {xs : List (Nat × β)} {i : Nat}
    (h : i ∉ xs.map Prod.fst) : (addAll v xs)[i]? = v[i]? := by
  have hnil : termsAt i xs = [] := by
    rw [termsAt, List.map_eq_nil_iff, List.filter_eq_nil_iff]
    intro x hx hi
    exact h (List.mem_map.2 ⟨x, hx, by simpa using hi⟩)
  rw [getElem?_addAll, hnil]
  simp

end Buffer

end GatherScatter
