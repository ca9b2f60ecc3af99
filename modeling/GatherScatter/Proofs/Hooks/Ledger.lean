import GatherScatter.Proofs.Hooks.Journal

/-!
# The ledger of a journal

A session whose backends keep a journal goes through the same states as one whose backends keep
none. `Ledger` says what is in order with the journal in such a state: the hooks in it were allowed,
and none ran on data after these were destroyed.

* `Ledger.note`, `Ledger.retire`: a hook of data that are there, and the end of data.
* `Records`, `Follows`: what an operation does with a journal is what it does without one, and the
  ledger stays in order.
* `Records.bind`, `Follows.bind`, `Follows.tryCatch`, `Follows.descriptor_bind`: operations from
  their parts.
-/
namespace GatherScatter.Session

variable {σ α β γ : Type}

/-- The journal `events` of data built `made` times is in order, where `tags` are the tags of the
roots of `s`. -/
structure Ledger (tags : Nat → Tag) (s : Session σ α) (made : Nat)
    (events : List (HookEvent σ α)) : Prop where
  event : ∀ e ∈ events, e.number < made ∧
    (∃ spec : Spec, spec.plan = .ok (e.site.shape, e.site.data)) ∧ e.site.Allows e.hook
  once : events.Pairwise fun e e' => e.number = e'.number → e.hook ≠ .destroy
  root : ∀ (root : Nat) (r : Descriptor σ α), s.table[root]? = some r → r.data.isSome →
    (tags root).number < made ∧ (∃ spec : Spec, spec.plan = .ok (r.shape, (tags root).data)) ∧
      ∀ e ∈ events, e.number = (tags root).number → e.hook ≠ .destroy
  distinct : ∀ (root root' : Nat) (r r' : Descriptor σ α), s.table[root]? = some r →
    s.table[root']? = some r' → r.data.isSome → r'.data.isSome →
      (tags root).number = (tags root').number → root = root'

/-- `y` is what comes of `x` in a session with a journal: the result is the same, hooks for which
`P` holds were added to the journal, and the ledger is still in order. -/
def Records (P : HookEvent σ α → Prop) (tags : Nat → Tag) (made : Nat)
    (events : List (HookEvent σ α)) (x : β × Session σ α) (y : β × Session (Journal σ α) α) :
    Prop :=
  ∃ added, (∀ e ∈ added, P e) ∧ Ledger tags x.2 made (events ++ added) ∧
    y = (x.1, x.2.journaled tags made (events ++ added))

/-- `y` does with a journal what `x` does without one. -/
def Follows (P : HookEvent σ α → Prop) (x : Act σ α β) (y : Act (Journal σ α) α β) : Prop :=
  ∀ tags s made events, Ledger tags s made events →
    Records P tags made events (outcome x s) (outcome y (s.journaled tags made events))

/-! ## Tables with tags -/

section Table

variable {tags : Nat → Tag} {s : Session σ α} {made : Nat} {events : List (HookEvent σ α)}

theorem getElem?_journaled {id : Nat} {d : Descriptor σ α} (h : s.table[id]? = some d) :
    (s.journaled tags made events).table[id]? = some (d.journaled (tags id)) := by
  rw [journaled, Array.getElem?_mapIdx, h, Option.map_some]

theorem getElem?_journaled_none {id : Nat} (h : s.table[id]? = none) :
    (s.journaled tags made events).table[id]? = none := by
  rw [journaled, Array.getElem?_mapIdx, h, Option.map_none]

theorem table_journaled_modify {f : Descriptor σ α → Descriptor σ α}
    {f' : Descriptor (Journal σ α) α → Descriptor (Journal σ α) α}
    (hf : ∀ d tag, (f d).journaled tag = f' (d.journaled tag)) (id : Nat) :
    (s.table.modify id f).mapIdx (fun id d => d.journaled (tags id)) =
      (s.table.mapIdx fun id d => d.journaled (tags id)).modify id f' := by
  apply Array.ext_getElem?
  intro j
  rw [Array.getElem?_mapIdx, Array.getElem?_modify, Array.getElem?_modify, Array.getElem?_mapIdx]
  split
  · cases s.table[j]? with
    | none => rfl
    | some d => exact congrArg some (hf d _)
  · rfl

/-- Tags of places that are not in use do not matter. -/
theorem journaled_congr {tags' : Nat → Tag}
    (h : ∀ (id : Nat) (d : Descriptor σ α), s.table[id]? = some d → tags id = tags' id) :
    s.journaled tags made events = s.journaled tags' made events := by
  rw [journaled, journaled]
  congr 1
  apply Array.ext_getElem?
  intro j
  rw [Array.getElem?_mapIdx, Array.getElem?_mapIdx]
  cases hd : s.table[j]? with
  | none => rfl
  | some d => rw [Option.map_some, Option.map_some, h j d hd]

theorem Finds.journaled {name : String} {id : Nat} {d r : Descriptor σ α} {c : Compiled σ α}
    (h : s.Finds name id d r c) :
    (s.journaled tags made events).Finds name id (d.journaled (tags id))
      (r.journaled (tags (d.root id)))
      (((tags (d.root id)).site r c).journaled (tags (d.root id)).number) where
  handle := h.handle
  entry := getElem?_journaled h.entry
  root := getElem?_journaled h.root
  data := Descriptor.data_journaled h.data _

end Table

namespace Ledger

variable {tags : Nat → Tag} {s s' : Session σ α} {made : Nat} {events : List (HookEvent σ α)}

/-- The ledger only looks at roots with data. -/
theorem of_data (h : Ledger tags s made events)
    (hs : ∀ (root : Nat) (r' : Descriptor σ α), s'.table[root]? = some r' → r'.data.isSome →
      ∃ r, s.table[root]? = some r ∧ r.data.isSome ∧ r.shape = r'.shape) :
    Ledger tags s' made events where
  event := h.event
  once := h.once
  root root r' hr' hc' := by
    obtain ⟨r, hr, hc, hshape⟩ := hs root r' hr' hc'
    rw [← hshape]
    exact h.root root r hr hc
  distinct root₁ root₂ r₁ r₂ hr₁ hr₂ hc₁ hc₂ := by
    obtain ⟨r₁', hr₁', hc₁', -⟩ := hs root₁ r₁ hr₁ hc₁
    obtain ⟨r₂', hr₂', hc₂', -⟩ := hs root₂ r₂ hr₂ hc₂
    exact h.distinct root₁ root₂ r₁' r₂' hr₁' hr₂' hc₁' hc₂'

theorem congr (h : Ledger tags s made events) (ht : s'.table = s.table) :
    Ledger tags s' made events :=
  h.of_data fun root r hr hc => ⟨r, by rw [← ht]; exact hr, hc, rfl⟩

/-- A hook of data that are there. -/
theorem note (h : Ledger tags s made events) {root : Nat} {r : Descriptor σ α} {c : Compiled σ α}
    (hr : s.table[root]? = some r) (hc : r.data = some c) {hook : HookCall α}
    (hallows : ((tags root).site r c).Allows hook) (hne : hook ≠ .destroy) :
    Ledger tags s made (events ++ [(tags root).event r c hook]) := by
  obtain ⟨hlt, hplan, hfree⟩ := h.root root r hr (by rw [hc]; rfl)
  refine ⟨?_, ?_, fun root' r' hr' hc' => ?_, h.distinct⟩
  · exact List.forall_mem_append.2 ⟨h.event, List.forall_mem_singleton.2 ⟨hlt, hplan, hallows⟩⟩
  · refine List.pairwise_append.2 ⟨h.once, List.pairwise_singleton _ _, fun e he e' he' => ?_⟩
    cases List.mem_singleton.1 he'
    exact hfree e he
  · obtain ⟨hlt', hplan', hfree'⟩ := h.root root' r' hr' hc'
    refine ⟨hlt', hplan', List.forall_mem_append.2 ⟨hfree', ?_⟩⟩
    exact List.forall_mem_singleton.2 fun _ => hne

/-- The end of data: no other root has their number. -/
theorem retire (h : Ledger tags s made events) {root : Nat} {r : Descriptor σ α} {c : Compiled σ α}
    (hr : s.table[root]? = some r) (hc : r.data = some c) (hdestroy : c.supports .destroy) :
    Ledger tags (s.replace root { r with data := none }) made
      (events ++ [(tags root).event r c .destroy]) := by
  have hdata : r.data.isSome := by rw [hc]; rfl
  obtain ⟨hlt, hplan, hfree⟩ := h.root root r hr hdata
  have hother : ∀ (root' : Nat) (r' : Descriptor σ α),
      (s.replace root { r with data := none }).table[root']? = some r' → r'.data.isSome →
        root' ≠ root ∧ s.table[root']? = some r' := by
    intro root' r' hr' hc'
    rcases cases_replace hr hr' with ⟨rfl, rfl⟩ | h'
    · cases hc'
    · exact h'
  refine ⟨?_, ?_, fun root' r' hr' hc' => ?_, fun root₁ root₂ r₁ r₂ hr₁ hr₂ hc₁ hc₂ => ?_⟩
  · exact List.forall_mem_append.2 ⟨h.event, List.forall_mem_singleton.2 ⟨hlt, hplan, hdestroy⟩⟩
  · refine List.pairwise_append.2 ⟨h.once, List.pairwise_singleton _ _, fun e he e' he' => ?_⟩
    cases List.mem_singleton.1 he'
    exact hfree e he
  · obtain ⟨hne, hr'⟩ := hother root' r' hr' hc'
    obtain ⟨hlt', hplan', hfree'⟩ := h.root root' r' hr' hc'
    refine ⟨hlt', hplan', List.forall_mem_append.2 ⟨hfree', List.forall_mem_singleton.2 ?_⟩⟩
    exact fun heq => absurd (h.distinct root root' r r' hr hr' hdata hc' heq) (Ne.symm hne)
  · exact h.distinct root₁ root₂ r₁ r₂ (hother _ _ hr₁ hc₁).2 (hother _ _ hr₂ hc₂).2 hc₁ hc₂

end Ledger

/-! ## Operations with a journal -/

theorem outcome_effect_notes {x : Effect σ β} {e : HookEvent σ α} {y : Effect (Journal σ α) β}
    (h : x.Notes e y) (tags : Nat → Tag) (s : Session σ α) (made : Nat)
    (events : List (HookEvent σ α)) :
    outcome (effect y) (s.journaled tags made events) = ((outcome (effect x) s).1,
      (outcome (effect x) s).2.journaled tags made (events ++ [e])) := by
  rw [outcome_effect, outcome_effect, h]
  rfl

namespace Records

variable {P : HookEvent σ α → Prop} {tags : Nat → Tag} {made : Nat} {events : List (HookEvent σ α)}

/-- Nothing is added. -/
theorem same {x : β × Session σ α} {y : β × Session (Journal σ α) α}
    (h : Ledger tags x.2 made events) (hy : y = (x.1, x.2.journaled tags made events)) :
    Records P tags made events x y := by
  refine ⟨[], List.forall_mem_nil _, ?_, ?_⟩
  · rw [List.append_nil]
    exact h
  · rw [List.append_nil]
    exact hy

/-- What was added before counts as well. -/
theorem after {added : List (HookEvent σ α)} {x : β × Session σ α}
    {y : β × Session (Journal σ α) α} (hadded : ∀ e ∈ added, P e)
    (h : Records P tags made (events ++ added) x y) : Records P tags made events x y := by
  obtain ⟨added', hadded', hledger, hy⟩ := h
  rw [List.append_assoc] at hledger hy
  exact ⟨added ++ added', List.forall_mem_append.2 ⟨hadded, hadded'⟩, hledger, hy⟩

/-- One operation after the other. -/
theorem bind {x : Act σ α β} {f : β → Act σ α γ} {y : Act (Journal σ α) α β}
    {g : β → Act (Journal σ α) α γ} {s : Session σ α}
    (hx : Records P tags made events (outcome x s) (outcome y (s.journaled tags made events)))
    (hf : ∀ b s' events', outcome x s = (.ok b, s') → Ledger tags s' made events' →
      Records P tags made events' (outcome (f b) s')
        (outcome (g b) (s'.journaled tags made events'))) :
    Records P tags made events (outcome (x >>= f) s)
      (outcome (y >>= g) (s.journaled tags made events)) := by
  obtain ⟨added, hadded, hledger, hy⟩ := hx
  rw [outcome_bind, outcome_bind, hy]
  rcases hs : outcome x s with ⟨r, s'⟩
  rw [hs] at hledger
  cases r with
  | error e => exact ⟨added, hadded, hledger, rfl⟩
  | ok b => exact .after hadded (hf b s' _ hs hledger)

end Records

namespace Follows

variable {P : HookEvent σ α → Prop}

theorem bind {x : Act σ α β} {f : β → Act σ α γ} {y : Act (Journal σ α) α β}
    {g : β → Act (Journal σ α) α γ} (hx : Follows P x y) (hf : ∀ b, Follows P (f b) (g b)) :
    Follows P (x >>= f) (y >>= g) := fun tags s made events h =>
  (hx tags s made events h).bind fun b s' events' _ h' => hf b tags s' made events' h'

theorem pure (b : β) : Follows P (pure b : Act σ α β) (pure b) :=
  fun _ _ _ _ h => .same h rfl

theorem throw (e : Failure) : Follows P (throw e : Act σ α β) (throw e) :=
  fun _ _ _ _ h => .same h rfl

theorem ofExcept (r : Except Error β) : Follows P (ofExcept r : Act σ α β) (ofExcept r) := by
  intro tags s made events h
  rw [outcome_ofExcept, outcome_ofExcept]
  exact .same h rfl

theorem ite {p : Prop} [Decidable p] {x x' : Act σ α β} {y y' : Act (Journal σ α) α β}
    (hx : Follows P x y) (hx' : Follows P x' y') :
    Follows P (if p then x else x') (if p then y else y') := by
  split
  · exact hx
  · exact hx'

theorem tryCatch {x : Act σ α β} {y : Act (Journal σ α) α β} {f : Failure → Act σ α β}
    {g : Failure → Act (Journal σ α) α β} (hx : Follows P x y)
    (hf : ∀ e, Follows P (f e) (g e)) :
    Follows P (MonadExcept.tryCatch x f) (MonadExcept.tryCatch y g) := by
  intro tags s made events h
  obtain ⟨added, hadded, hledger, hy⟩ := hx tags s made events h
  rw [outcome_tryCatch, outcome_tryCatch, hy]
  rcases hs : outcome x s with ⟨r, s'⟩
  rw [hs] at hledger
  cases r with
  | ok b => exact ⟨added, hadded, hledger, rfl⟩
  | error e => exact .after hadded (hf e tags s' made _ hledger)

/-- What an operation sees of the session it starts from is the same with a journal. -/
theorem get_bind {f : Session σ α → Act σ α β} {g : Session (Journal σ α) α → Act (Journal σ α) α β}
    (h : ∀ tags s made events, Follows P (f s) (g (s.journaled tags made events))) :
    Follows P (get >>= f) (get >>= g) := by
  intro tags s made events hledger
  rw [outcome_bind_ok (outcome_get s), outcome_bind_ok (outcome_get _)]
  exact h tags s made events tags s made events hledger

theorem setHandles {f : Session σ α → Slots Nat} {f' : Session (Journal σ α) α → Slots Nat}
    (hf : ∀ tags s made events, f' (s.journaled tags made events) = f s) :
    Follows P (modify fun s => { s with handles := f s } : Act σ α Unit)
      (modify fun s => { s with handles := f' s }) := by
  intro tags s made events h
  rw [outcome_modify, outcome_modify, hf]
  exact .same (h.congr rfl) rfl

theorem setViews {f : Session σ α → Slots ArrayView}
    {f' : Session (Journal σ α) α → Slots ArrayView}
    (hf : ∀ tags s made events, f' (s.journaled tags made events) = f s) :
    Follows P (modify fun s => { s with views := f s } : Act σ α Unit)
      (modify fun s => { s with views := f' s }) := by
  intro tags s made events h
  rw [outcome_modify, outcome_modify, hf]
  exact .same (h.congr rfl) rfl

theorem held (name : String) : Follows P (held name : Act σ α Nat) (held name) := by
  refine get_bind fun tags s made events => ?_
  have hhandles : (s.journaled tags made events).handles = s.handles := rfl
  rw [hhandles]
  cases s.handles.get? name with
  | none => exact throw _
  | some id => exact pure id

theorem descriptor_bind {f : Descriptor σ α → Act σ α β}
    {g : Descriptor (Journal σ α) α → Act (Journal σ α) α β}
    (h : ∀ d tag, Follows P (f d) (g (d.journaled tag))) (id : Nat) :
    Follows P (descriptor id >>= f) (descriptor id >>= g) := by
  intro tags s made events hledger
  cases hd : s.table[id]? with
  | none =>
    rw [outcome_bind_error (outcome_descriptor_none hd),
      outcome_bind_error (outcome_descriptor_none (getElem?_journaled_none hd))]
    exact .same hledger rfl
  | some d =>
    rw [outcome_bind_ok (outcome_descriptor hd),
      outcome_bind_ok (outcome_descriptor (getElem?_journaled hd))]
    exact h d (tags id) tags s made events hledger

/-- Changing counts. -/
theorem modifyDescriptor {f : Descriptor σ α → Descriptor σ α}
    {f' : Descriptor (Journal σ α) α → Descriptor (Journal σ α) α}
    (hf : ∀ d tag, (f d).journaled tag = f' (d.journaled tag))
    (hdata : ∀ d, (f d).data.isSome → d.data.isSome ∧ d.shape = (f d).shape) (id : Nat) :
    Follows P (modifyDescriptor id f) (modifyDescriptor id f') := by
  intro tags s made events h
  rw [outcome_modifyDescriptor, outcome_modifyDescriptor]
  refine .same (h.of_data fun root r' hr' hc' => ?_) ?_
  · dsimp only at hr'
    rw [Array.getElem?_modify] at hr'
    split at hr'
    · obtain ⟨r, hr, rfl⟩ := Option.map_eq_some_iff.1 hr'
      exact ⟨r, hr, hdata r hc'⟩
    · exact ⟨r', hr', hc', rfl⟩
  · rw [journaled, journaled, table_journaled_modify hf]

end Follows

end GatherScatter.Session
