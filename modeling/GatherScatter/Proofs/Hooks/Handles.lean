import GatherScatter.Proofs.Hooks.Ledger

/-!
# Handles and the journal

Operations on handles run no hook but `destroy`, and this one only on data that are given up at that
moment. Data are built under a number of their own.

* `Follows.releaseData`, `Follows.release`: giving up data.
* `Follows.assign`, `Follows.derive`, `Follows.destroy` and so on: one for each operation.
* `Ledger.after_create`: new data.
-/
namespace GatherScatter

/-- The hook that ends data. -/
def HookEvent.IsDestroy {σ α : Type} (e : HookEvent σ α) : Prop := e.hook = .destroy

namespace Session

variable {σ α β : Type}

theorem journaled_replace (s : Session σ α) (id : Nat) (d' : Descriptor σ α) (tags : Nat → Tag)
    (made : Nat) (events : List (HookEvent σ α)) :
    (s.replace id d').journaled tags made events =
      (s.journaled tags made events).replace id (d'.journaled (tags id)) := by
  rw [replace, replace, journaled, journaled]
  congr 1
  apply Array.ext_getElem?
  intro j
  rw [Array.getElem?_mapIdx, Array.getElem?_setIfInBounds, Array.getElem?_setIfInBounds,
    Array.getElem?_mapIdx, Array.size_mapIdx]
  by_cases hj : id = j
  · subst hj
    rw [if_pos rfl, if_pos rfl]
    split <;> rfl
  · rw [if_neg hj, if_neg hj]

namespace Follows

theorem releaseData (id : Nat) :
    Follows HookEvent.IsDestroy (releaseData id : Act σ α Unit) (releaseData id) := by
  intro tags s made events h
  cases hd : s.table[id]? with
  | none =>
    rw [Session.releaseData, Session.releaseData, outcome_bind_error (outcome_descriptor_none hd),
      outcome_bind_error (outcome_descriptor_none (getElem?_journaled_none hd))]
    exact .same h rfl
  | some d =>
    have hd' : (s.journaled tags made events).table[id]? = _ := getElem?_journaled hd
    cases hc : d.data with
    | none =>
      rw [outcome_releaseData_none hd hc,
        outcome_releaseData_none hd' (Descriptor.data_journaled_none hc _)]
      exact .same h rfl
    | some c =>
      have hreplace := journaled_replace s id { d with data := none } tags made events
      rw [outcome_releaseData hd hc, outcome_releaseData hd' (Descriptor.data_journaled hc _)]
      change Records _ _ _ _ _ (outcome (if c.supports .destroy then _ else _)
        ((s.journaled tags made events).replace id
          (Descriptor.journaled { d with data := none } (tags id))))
      rw [← hreplace]
      by_cases hdestroy : c.supports .destroy
      · rw [if_pos hdestroy, if_pos hdestroy]
        have hnotes := outcome_effect_notes (Effect.notes_noted c.destroy
          ((tags id).event d c .destroy)) tags
          (s.replace id { d with data := none }) made events
        refine ⟨_, fun e he => ?_, ?_, hnotes⟩
        · cases List.mem_singleton.1 he
          rfl
        · rw [outcome_effect]
          exact (h.retire hd hc hdestroy).congr rfl
      · rw [if_neg hdestroy, if_neg hdestroy]
        refine .same (h.of_data fun root r' hr' hc' => ?_) rfl
        rcases cases_replace hd hr' with ⟨rfl, rfl⟩ | ⟨-, hr⟩
        · cases hc'
        · exact ⟨r', hr, hc', rfl⟩

theorem release (chain : List Nat) :
    Follows HookEvent.IsDestroy (release chain : Act σ α Unit) (release chain) := by
  induction chain with
  | nil => exact pure ()
  | cons id ancestors ih =>
    refine bind (modifyDescriptor (fun _ _ => by rfl) (fun _ h => by exact ⟨h, rfl⟩) id) fun _ =>
      descriptor_bind (fun d tag => ?_) id
    exact ite ((releaseData id).bind fun _ => ih) (pure ())

theorem dropReference (id : Nat) :
    Follows HookEvent.IsDestroy (dropReference id : Act σ α Unit) (dropReference id) :=
  (descriptor_bind (fun d _ => release (id :: d.ancestors)) id).tryCatch fun _ => pure ()

theorem assign (name : String) (id : Nat) :
    Follows HookEvent.IsDestroy (assign name id : Act σ α Unit) (assign name id) := by
  refine get_bind fun tags s made events => bind (setHandles fun _ _ _ _ => rfl) fun _ => ?_
  have hhandles : (s.journaled tags made events).handles = s.handles := rfl
  rw [hhandles]
  cases s.handles.get? name with
  | none => exact pure ()
  | some old => exact dropReference old

theorem retain {P : HookEvent σ α → Prop} (id : Nat) :
    Follows P (retain id : Act σ α Unit) (retain id) := by
  unfold Session.retain
  exact modifyDescriptor (fun _ _ => by rfl) (fun _ h => by exact ⟨h, rfl⟩) id

theorem reference (name newName : String) :
    Follows HookEvent.IsDestroy (reference name newName : Act σ α Unit) (reference name newName) :=
  (held name).bind fun id => (retain id).bind fun _ => assign newName id

/-- Asking whether the data have a capability runs no hook. -/
theorem hasCapability {P : HookEvent σ α → Prop} (id : Nat) (cap : Capability) :
    Follows P (withCapability id cap fun _ => Pure.pure () : Act σ α Unit)
      (withCapability id cap fun _ => Pure.pure ()) := by
  refine descriptor_bind (fun d tag => descriptor_bind (fun r tag' => ?_) (d.root id)) id
  dsimp only
  cases hc : r.data with
  | none =>
    rw [Descriptor.data_journaled_none hc]
    exact throw _
  | some c =>
    rw [Descriptor.data_journaled hc]
    change Follows P (effect (if c.supports cap then _ else _))
      (effect (if c.supports cap then _ else _))
    intro tags s made events h
    split <;> exact .same (h.congr rfl) rfl

/-- A new descriptor without data. -/
theorem addDescriptor {P : HookEvent σ α → Prop} {d : Descriptor σ α} (hdata : d.data = none)
    (tag : Tag) : Follows P (addDescriptor d) (addDescriptor (d.journaled tag)) := by
  intro tags s made events h
  rw [outcome_addDescriptor, outcome_addDescriptor]
  refine .same (h.of_data fun root r' hr' hc' => ?_) ?_
  · dsimp only at hr'
    rw [Array.getElem?_push] at hr'
    split at hr'
    · cases hr'
      rw [hdata] at hc'
      cases hc'
    · exact ⟨r', hr', hc', rfl⟩
  · have hsame : d.journaled tag = d.journaled (tags s.table.size) := by
      rw [Descriptor.journaled, Descriptor.journaled, hdata]
      rfl
    rw [journaled, journaled, hsame, Array.size_mapIdx, Array.mapIdx_push]

theorem derive (name : String) (mode : Mode) (newName : String) :
    Follows HookEvent.IsDestroy (derive name mode newName : Act σ α Unit)
      (derive name mode newName) :=
  (held name).bind fun id => (hasCapability id mode.capability).bind fun _ =>
    descriptor_bind (fun _ tag => (addDescriptor rfl tag).bind fun newId =>
      (retain id).bind fun _ => assign newName newId) id

theorem blockedByReaders {P : HookEvent σ α → Prop} (chain : List Nat) :
    Follows P (blockedByReaders chain : Act σ α Bool) (blockedByReaders chain) := by
  induction chain with
  | nil => exact pure false
  | cons id ancestors ih =>
    cases ancestors with
    | nil => exact descriptor_bind (fun _ _ => pure _) id
    | cons p rest =>
      refine descriptor_bind (fun d tag => ?_) id
      exact ite (pure false) ih

theorem destroy (name : String) :
    Follows HookEvent.IsDestroy (destroy name : Act σ α Unit) (destroy name) := by
  refine get_bind fun tags s made events => ?_
  have hhandles : (s.journaled tags made events).handles = s.handles := rfl
  rw [hhandles]
  cases s.handles.get? name with
  | none => exact pure ()
  | some id =>
    refine descriptor_bind (fun d _ => (blockedByReaders _).bind fun blocked => ?_) id
    have hrest : Follows HookEvent.IsDestroy
        (do
          modify fun s => { s with handles := s.handles.erase name }
          Session.release (id :: d.ancestors) : Act σ α Unit)
        (do
          modify fun s => { s with handles := s.handles.erase name }
          Session.release (id :: d.ancestors)) :=
      bind (setHandles fun _ _ _ _ => rfl) fun _ => release (id :: d.ancestors)
    exact ite ((throw _).bind fun _ => hrest) hrest

theorem drop (name : String) :
    Follows HookEvent.IsDestroy (drop name : Act σ α Unit) (drop name) :=
  (held name).bind fun id => bind (setHandles fun _ _ _ _ => rfl) fun _ => dropReference id

theorem referenceCopy (src : Option String) (dst : String) :
    Follows HookEvent.IsDestroy (referenceCopy src dst : Act σ α Unit) (referenceCopy src dst) := by
  refine get_bind fun tags s made events => ?_
  have hhandles : (s.journaled tags made events).handles = s.handles := rfl
  rw [hhandles]
  cases src.bind s.handles.get? with
  | none => exact destroy dst
  | some id =>
    refine (retain id).bind fun _ => ((destroy dst).tryCatch fun e => ?_).bind fun _ =>
      setHandles fun _ _ _ _ => rfl
    exact (dropReference id).bind fun _ => throw e

theorem giveBack {P : HookEvent σ α → Prop} (root : Nat) :
    Follows P (giveBack root : Act σ α Unit) (giveBack root) := by
  unfold Session.giveBack
  exact modifyDescriptor (fun _ _ => by rfl) (fun _ h => by exact ⟨h, rfl⟩) root

theorem restore {P : HookEvent σ α → Prop} (viewName : String) :
    Follows P (restore viewName : Act σ α Unit) (restore viewName) := by
  have hview : Follows P (view viewName : Act σ α ArrayView) (view viewName) := by
    refine get_bind fun tags s made events => ?_
    have hviews : (s.journaled tags made events).views = s.views := rfl
    rw [hviews]
    cases s.views.get? viewName with
    | none => exact throw _
    | some v => exact pure v
  exact hview.bind fun v => bind (setViews fun _ _ _ _ => rfl) fun _ => giveBack v.root

theorem register {P : HookEvent σ α → Prop} (e : Entry σ α) :
    Follows P (register e) (register e.journaled) := by
  intro tags s made events h
  have hregistry : (s.journaled tags made events).registry.register e.journaled =
      (s.registry.register e).map Registry.journaled := s.registry.register_journaled e
  rw [Session.register, Session.register, outcome_bind_ok (outcome_get _),
    outcome_bind_ok (outcome_get _), outcome_bind, outcome_bind, outcome_ofExcept,
    outcome_ofExcept, hregistry]
  cases s.registry.register e with
  | error e => exact .same h rfl
  | ok registry => exact .same (h.congr rfl) rfl

end Follows

/-- Opening a context runs no hook of data. -/
theorem Ledger.after_openContext {tags : Nat → Tag} {s : Session σ α} {made : Nat}
    {events : List (HookEvent σ α)} (h : Ledger tags s made events) (limit : Nat)
    (config : Config) :
    Ledger tags (outcome (openContext limit config) s).2 made events ∧
      (outcome (openContext limit config) (s.journaled tags made events)).2 =
        (outcome (openContext limit config) s).2.journaled tags made events := by
  have hopen : (s.journaled tags made events).registry.openWithin limit config =
      s.registry.journaled.openWithin limit config := rfl
  have hworld : (s.journaled tags made events).world = ⟨s.world, made, events⟩ := rfl
  rw [openContext, openContext, outcome_bind_ok (outcome_get _), outcome_bind_ok (outcome_get _),
    outcome_bind, outcome_bind, outcome_effect, outcome_effect, hopen, hworld,
    s.registry.openWithin_mutes limit config]
  dsimp only
  rcases (s.registry.openWithin limit config).run.run s.world with ⟨r, world⟩
  rcases r with e | _ | chain
  · exact ⟨h.congr rfl, rfl⟩
  · exact ⟨h.congr rfl, rfl⟩
  · have hlength : chain.journaled.toList.length = chain.toList.length := by
      simp [Chain.toList, Chain.journaled]
    refine ⟨h.congr rfl, ?_⟩
    change _ = Session.journaled { s with
      world := world, nextSerial := s.nextSerial + chain.toList.length } tags made events
    rw [← hlength]
    rfl

/-! ## New data -/

section Create

variable {tags : Nat → Tag} {s : Session σ α} {made : Nat} {events : List (HookEvent σ α)}

/-- New data have a number that was not in use. -/
theorem Ledger.push_root (h : Ledger tags s made events) {spec : Spec} {shape : Shape}
    {data : IndexData} (hp : spec.plan = .ok (shape, data)) (context : Context σ α)
    (c : Compiled σ α) :
    Ledger (Function.update tags s.table.size ⟨made, data⟩) (s.withRoot context shape c) (made + 1)
      events := by
  have hcases : ∀ (root : Nat) (r : Descriptor σ α),
      (s.withRoot context shape c).table[root]? = some r →
        (root = s.table.size ∧ r.shape = shape) ∨
          (root ≠ s.table.size ∧ s.table[root]? = some r) := by
    intro root r hr
    rw [withRoot, Array.getElem?_push] at hr
    split at hr
    · cases hr
      exact .inl ⟨‹_›, rfl⟩
    · exact .inr ⟨‹_›, hr⟩
  refine ⟨fun e he => ?_, h.once, fun root r hr hc => ?_,
    fun root root' r r' hr hr' hc hc' heq => ?_⟩
  · obtain ⟨hlt, hrest⟩ := h.event e he
    exact ⟨by omega, hrest⟩
  · rcases hcases root r hr with ⟨rfl, rfl⟩ | ⟨hne, hr⟩
    · rw [Function.update_self]
      refine ⟨by dsimp only; omega, ⟨spec, hp⟩, fun e he heq => ?_⟩
      have := (h.event e he).1
      dsimp only at heq
      omega
    · obtain ⟨hlt, hrest⟩ := h.root root r hr hc
      rw [Function.update_of_ne hne]
      exact ⟨by omega, hrest⟩
  · rcases hcases root r hr with ⟨rfl, -⟩ | ⟨hne, hr⟩ <;>
      rcases hcases root' r' hr' with ⟨rfl, -⟩ | ⟨hne', hr'⟩
    · rfl
    · have := (h.root root' r' hr' hc').1
      rw [Function.update_self, Function.update_of_ne hne'] at heq
      dsimp only at heq
      omega
    · have := (h.root root r hr hc).1
      rw [Function.update_self, Function.update_of_ne hne] at heq
      dsimp only at heq
      omega
    · rw [Function.update_of_ne hne, Function.update_of_ne hne'] at heq
      exact h.distinct root root' r r' hr hr' hc hc' heq

theorem withRoot_journaled (s : Session σ α) (tags : Nat → Tag) (made : Nat)
    (events : List (HookEvent σ α)) (context : Context σ α) (shape : Shape) (data : IndexData)
    (c : Compiled σ α) (n : Nat) :
    (s.journaled tags made events).withRoot context.journaled shape
        (Site.journaled ⟨shape, data, c⟩ n) =
      (s.withRoot context shape c).journaled (Function.update tags s.table.size ⟨n, data⟩) made
        events := by
  have hold : s.journaled (Function.update tags s.table.size ⟨n, data⟩) made events =
      s.journaled tags made events := by
    refine journaled_congr fun id d hd => Function.update_of_ne ?_ _ _
    have := lt_size_of_getElem? hd
    omega
  rw [← hold, withRoot, withRoot]
  rw [journaled, journaled]
  dsimp only
  rw [Array.mapIdx_push, Function.update_self]
  rfl

/-- A creation that succeeds builds data; what it releases was in the slot before. -/
theorem Ledger.after_create (h : Ledger tags s made events) (ctx : Context σ α) (spec : Spec)
    (name : String) :
    ∃ tags' made' added, (∀ e ∈ added, HookEvent.IsDestroy e) ∧
      Ledger tags' (outcome (create ctx spec name) s).2 made' (events ++ added) ∧
      outcome (create ctx.journaled spec name) (s.journaled tags made events) =
        ((outcome (create ctx spec name) s).1,
          (outcome (create ctx spec name) s).2.journaled tags' made' (events ++ added)) := by
  have hbuild := ctx.run_create_journaled spec s.world made events
  have heffect := outcome_effect (ctx.create spec) s
  have heffect' : outcome (effect (ctx.journaled.create spec)) (s.journaled tags made events) =
      (lift ((ctx.journaled.create spec).run.run ⟨s.world, made, events⟩).1,
        { s.journaled tags made events with
          world := ((ctx.journaled.create spec).run.run ⟨s.world, made, events⟩).2 }) :=
    outcome_effect _ _
  rcases hr : (ctx.create spec).run.run s.world with ⟨r, world⟩
  rw [hr] at hbuild heffect
  cases r with
  | error e =>
    dsimp only at hbuild
    rw [hbuild] at heffect'
    have hsame : Records HookEvent.IsDestroy tags made events (outcome (create ctx spec name) s)
        (outcome (create ctx.journaled spec name) (s.journaled tags made events)) := by
      rw [create, outcome_bind_error heffect, create, outcome_bind_error heffect']
      exact .same (h.congr rfl) rfl
    exact ⟨tags, made, hsame⟩
  | ok built =>
    obtain ⟨target, shape, c⟩ := built
    obtain ⟨data, hp, hbuild⟩ := hbuild
    rw [hbuild] at heffect'
    have hworld : Ledger tags { s with world := world } made events := h.congr rfl
    obtain ⟨added, hadded, hledger, hassign⟩ :=
      Follows.assign name s.table.size _ _ _ _ (hworld.push_root hp target c)
    have hroot := withRoot_journaled { s with world := world } tags (made + 1) events target shape
      data c made
    rw [← hroot] at hassign
    have hsize : (s.journaled tags made events).table.size = s.table.size := Array.size_mapIdx
    have hcreate := outcome_create heffect name
    have hcreate' := outcome_create heffect' name
    rw [hcreate]
    refine ⟨_, made + 1, added, hadded, hledger, ?_⟩
    rw [hcreate']
    change (Except.ok (s.journaled tags made events).table.size, (outcome
      (assign name (s.journaled tags made events).table.size) _).2) = _
    rw [hsize]
    exact congrArg (fun y => (Except.ok s.table.size, y.2)) hassign

end Create

end Session

end GatherScatter
