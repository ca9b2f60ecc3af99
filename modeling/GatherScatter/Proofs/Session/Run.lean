import GatherScatter.Proofs.Session.Lifecycle

/-!
# Runs

A run is a list of calls, each of which may succeed or fail. Its effect on a session is all that
counts: what a call changed before it failed stays changed.

* `Books.after_call`, `Books.after_run`: exact books stay exact.
* `Tracked`: the views of a session are counted where they were checked out.
* `counts_exact`: in every reachable state, all counts are exact and no live handle has lost its
  data.
-/
namespace GatherScatter

/-- One operation with its arguments. -/
inductive Call (σ α : Type) where
  | register (e : Entry σ α)
  | openContext (limit : Nat) (config : Config)
  | create (ctx : Context σ α) (spec : Spec) (name : String)
  | reference (name newName : String)
  | referenceCopy (src : Option String) (dst : String)
  | derive (name : String) (mode : Mode) (newName : String)
  | destroy (name : String)
  | drop (name : String)
  | checkout (name : String) (part : Part) (mem : MemKind) (viewName : String)
  | restore (viewName : String)
  | pointsInElement (name : String) (elem : Nat)
  | maxPoints (name : String)
  | apply (name : String) (d : Direction) (u v : Array α)
  | applyBlock (name : String) (block : Nat) (d : Direction) (u v : Array α)
  | applyAtPoints (name : String) (elem : Nat) (d : Direction) (u v : Array α)
  | multiplicity (name : String) (v : Array α)

namespace Session

variable {σ α : Type}

/-- A session in which nothing happened yet. -/
def start (registry : Registry σ α) (world : σ) : Session σ α := { registry, world }

theorem books_start (registry : Registry σ α) (world : σ) :
    Books (start registry world) [] [] (start registry world) where
  grows _ d hd := ⟨d, hd, .refl d⟩
  handle := nofun
  pending := nofun
  view := nofun
  reading := nofun
  parent _ _ _ _ hd := by simp [start] at hd
  refCount _ _ hd := by simp [start] at hd
  readers _ _ hd := by simp [start] at hd
  data _ _ hd := by simp [start] at hd

/-- Opening a context gives out serial numbers. -/
theorem outcome_openContext (limit : Nat) (config : Config) (s : Session σ α) :
    ∃ r world serial, outcome (openContext limit config) s =
      (r, { s with world := world, nextSerial := serial }) := by
  rw [openContext, outcome_bind_ok (outcome_get s), outcome_bind, outcome_effect]
  rcases (s.registry.openWithin limit config).run.run s.world with ⟨r, world⟩
  cases r with
  | error e => exact ⟨_, world, s.nextSerial, rfl⟩
  | ok chain =>
    cases chain with
    | none => exact ⟨_, world, s.nextSerial, rfl⟩
    | some chain => exact ⟨_, world, _, rfl⟩

theorem outcome_register (e : Entry σ α) (s : Session σ α) :
    ∃ r registry, outcome (register e) s = (r, { s with registry := registry }) := by
  rw [register, outcome_bind_ok (outcome_get s), outcome_bind, outcome_ofExcept]
  cases s.registry.register e with
  | error e => exact ⟨_, s.registry, rfl⟩
  | ok registry => exact ⟨_, registry, rfl⟩

/-! ## Where views come from -/

/-- Root of the descriptor that a view was checked out from. -/
def originRoot (s : Session σ α) (origins : Slots Nat) (viewName : String) : Option Nat := do
  let id ← origins.get? viewName
  let d ← s.table[id]?
  return d.root id

/-- Number of views checked out from the root at `root`, or from what is derived from it. -/
def viewsFrom (s : Session σ α) (origins : Slots Nat) (root : Nat) : Nat :=
  s.views.entries.countP fun e => s.originRoot origins e.1 = some root

/-- Every view shows the root of the descriptor that it was checked out from. -/
def Tracked (s : Session σ α) (origins : Slots Nat) : Prop :=
  ∀ e ∈ s.views.entries, s.originRoot origins e.1 = some e.2.root

theorem Tracked.viewsFrom_eq {s : Session σ α} {origins : Slots Nat} (h : s.Tracked origins)
    (root : Nat) : s.viewsFrom origins root = s.viewsOn root := by
  rw [viewsFrom, viewsOn, Slots.count]
  apply List.countP_congr
  intro e he
  rw [h e he]
  simp

theorem originRoot_congr {s : Session σ α} {origins origins' : Slots Nat} {viewName : String}
    (h : origins'.get? viewName = origins.get? viewName) :
    s.originRoot origins' viewName = s.originRoot origins viewName := by
  rw [originRoot, h, originRoot]

theorem originRoot_of_grows {s s' : Session σ α} {origins : Slots Nat} {viewName : String}
    {root : Nat} (h : Books s [] [] s') (hr : s.originRoot origins viewName = some root) :
    s'.originRoot origins viewName = some root := by
  unfold originRoot at hr ⊢
  obtain ⟨id, hid, hr⟩ := Option.bind_eq_some_iff.1 hr
  obtain ⟨d, hd, hr⟩ := Option.bind_eq_some_iff.1 hr
  obtain ⟨d', hd', hc⟩ := h.grows id d hd
  refine Option.bind_eq_some_iff.2 ⟨id, hid, Option.bind_eq_some_iff.2 ⟨d', hd', ?_⟩⟩
  rw [← hr, Descriptor.root, hc.ancestors, ← Descriptor.root]

/-- Calls that are neither checkouts nor restores leave the views alone. -/
theorem Tracked.of_views_eq {s s' : Session σ α} {origins : Slots Nat} (h : s.Tracked origins)
    (hb : Books s [] [] s') (hv : s'.views = s.views) : s'.Tracked origins := by
  intro e he
  rw [hv] at he
  exact originRoot_of_grows hb (h e he)

/-- A checkout fails, or fills the slot with a view of the root of the handle's descriptor. -/
theorem outcome_checkout {s : Session σ α} {name : String} {id : Nat} {d : Descriptor σ α}
    (hn : s.handles.get? name = some id) (hd : s.table[id]? = some d) (part : Part) (mem : MemKind)
    (viewName : String) :
    (∃ e world, outcome (checkout name part mem viewName) s =
      (.error e, { s with world := world })) ∨
    ∃ content s', outcome (checkout name part mem viewName) s = (.ok ⟨d.root id, content⟩, s') ∧
      s'.views = s.views.put viewName ⟨d.root id, content⟩ := by
  rw [checkout, outcome_bind_ok (outcome_held hn), outcome_bind]
  obtain ⟨r, world, hr⟩ := Quiet.withCapability id part.capability (part.fetch mem) s
  cases r with
  | error e =>
    rw [outcome_takeArray_error hr]
    exact .inl ⟨e, world, rfl⟩
  | ok content =>
    rw [outcome_takeArray hr hd]
    dsimp only
    rw [outcome_bind_ok (outcome_get _), outcome_bind_ok (outcome_modify _ _)]
    dsimp only
    cases s.views.get? viewName with
    | none => exact .inr ⟨content, _, rfl, rfl⟩
    | some old => exact .inr ⟨content, _, rfl, rfl⟩

/-- What a restore leaves are the views of the other slots. -/
theorem views_restore (s : Session σ α) (viewName : String) :
    ∀ e ∈ (outcome (restore viewName) s).2.views.entries,
      e.1 ≠ viewName ∧ e ∈ s.views.entries := by
  intro e he
  rw [restore, view] at he
  cases hv : s.views.get? viewName with
  | none =>
    rw [outcome_bind_error
      (by rw [outcome_bind_ok (outcome_get s), hv, outcome_throw])] at he
    refine ⟨?_, he⟩
    rintro rfl
    rw [Slots.get?_eq_some_iff.2 he] at hv
    cases hv
  | some v =>
    rw [outcome_bind_ok
      (by rw [outcome_bind_ok (outcome_get s), hv, outcome_pure]),
      outcome_bind_ok (outcome_modify _ s)] at he
    obtain ⟨hne, he⟩ := Slots.mem_entries_erase.1 he
    exact ⟨Ne.symm hne, he⟩

/-! ## Calls -/

variable [IntCast α]

/-- The session after a call, whether the call succeeded or failed. -/
def after (s : Session σ α) : Call σ α → Session σ α
  | .register e => (outcome (register e) s).2
  | .openContext limit config => (outcome (openContext limit config) s).2
  | .create ctx spec name => (outcome (create ctx spec name) s).2
  | .reference name newName => (outcome (reference name newName) s).2
  | .referenceCopy src dst => (outcome (referenceCopy src dst) s).2
  | .derive name mode newName => (outcome (derive name mode newName) s).2
  | .destroy name => (outcome (destroy name) s).2
  | .drop name => (outcome (drop name) s).2
  | .checkout name part mem viewName => (outcome (checkout name part mem viewName) s).2
  | .restore viewName => (outcome (restore viewName) s).2
  | .pointsInElement name elem => (outcome (pointsInElement name elem) s).2
  | .maxPoints name => (outcome (maxPoints name) s).2
  | .apply name d u v => (outcome (apply name d u v) s).2
  | .applyBlock name block d u v => (outcome (applyBlock name block d u v) s).2
  | .applyAtPoints name elem d u v => (outcome (applyAtPoints name elem d u v) s).2
  | .multiplicity name v => (((multiplicity name v).run s).run).2

/-- The session after some calls. -/
def run (s : Session σ α) (calls : List (Call σ α)) : Session σ α := calls.foldl after s

theorem run_concat (s : Session σ α) (calls : List (Call σ α)) (c : Call σ α) :
    s.run (calls ++ [c]) = (s.run calls).after c := List.foldl_append

namespace Books

variable {base s : Session σ α}

theorem after_call (h : Books base [] [] s) (c : Call σ α) : Books base [] [] (s.after c) := by
  cases c with
  | register e =>
    obtain ⟨r, registry, hr⟩ := outcome_register e s
    rw [after, hr]
    exact h.congr rfl rfl rfl
  | openContext limit config =>
    obtain ⟨r, world, serial, hr⟩ := outcome_openContext limit config s
    rw [after, hr]
    exact h.congr rfl rfl rfl
  | create ctx spec name => exact h.after_create ctx spec name
  | reference name newName => exact h.after_reference name newName
  | referenceCopy src dst => exact h.after_referenceCopy src dst
  | derive name mode newName => exact h.after_derive name mode newName
  | destroy name => exact h.after_destroy name
  | drop name => exact h.after_drop name
  | checkout name part mem viewName => exact h.after_checkout name part mem viewName
  | restore viewName => exact h.after_restore viewName
  | pointsInElement name elem => exact h.after_quiet (.pointsInElement name elem)
  | maxPoints name => exact h.after_quiet (.maxPoints name)
  | apply name d u v => exact h.after_quiet (.apply name d u v)
  | applyBlock name block d u v => exact h.after_quiet (.applyBlock name block d u v)
  | applyAtPoints name elem d u v => exact h.after_quiet (.applyAtPoints name elem d u v)
  | multiplicity name v =>
    obtain ⟨world, hw⟩ := quiet_multiplicity name v s
    rw [after, hw]
    exact h.congr rfl rfl rfl

theorem after_run (h : Books base [] [] s) (calls : List (Call σ α)) :
    Books base [] [] (s.run calls) := by
  induction calls generalizing s with
  | nil => exact h
  | cons c calls ih => exact ih (h.after_call c)

end Books

/-- For every view slot in use, the descriptor whose handle the view was checked out from. -/
def originsAfter (s : Session σ α) (origins : Slots Nat) : Call σ α → Slots Nat
  | .checkout name part mem viewName =>
    match (outcome (checkout name part mem viewName) s).1, s.handles.get? name with
    | .ok _, some id => origins.put viewName id
    | _, _ => origins
  | .restore viewName => origins.erase viewName
  | _ => origins

/-- The origins of all views after some calls. -/
def viewOrigins (s : Session σ α) (origins : Slots Nat) : List (Call σ α) → Slots Nat
  | [] => origins
  | c :: calls => viewOrigins (s.after c) (s.originsAfter origins c) calls

theorem Tracked.after_checkout {s : Session σ α} {origins : Slots Nat} (h : s.Tracked origins)
    (hb : Books s [] [] s) (name : String) (part : Part) (mem : MemKind) (viewName : String) :
    (s.after (.checkout name part mem viewName)).Tracked
      (s.originsAfter origins (.checkout name part mem viewName)) := by
  have hb' := hb.after_checkout name part mem viewName
  rw [originsAfter, after]
  cases hn : s.handles.get? name with
  | none =>
    have hfail : outcome (checkout name part mem viewName) s = (.error .emptySlot, s) := by
      rw [checkout, outcome_bind_error (outcome_held_none hn)]
    rw [hfail]
    exact h
  | some id =>
    obtain ⟨d, hd⟩ := exists_getElem? (hb.lt_of_handle hn)
    rcases outcome_checkout hn hd part mem viewName with ⟨e, world, hr⟩ | ⟨content, s', hr, hv⟩
    · rw [hr] at hb' ⊢
      exact h.of_views_eq hb' rfl
    · rw [hr] at hb' ⊢
      intro e he
      dsimp only at he hb' ⊢
      rw [hv] at he
      rcases Slots.mem_entries_put.1 he with rfl | ⟨hne, he⟩
      · refine originRoot_of_grows hb' ?_
        exact Option.bind_eq_some_iff.2 ⟨id, by rw [Slots.get?_put, if_pos rfl],
          Option.bind_eq_some_iff.2 ⟨d, hd, rfl⟩⟩
      · refine (originRoot_congr ?_).trans (originRoot_of_grows hb' (h e he))
        rw [Slots.get?_put, if_neg (Ne.symm hne)]

theorem Tracked.after_call {s : Session σ α} {origins : Slots Nat} (h : s.Tracked origins)
    (hb : Books s [] [] s) (c : Call σ α) : (s.after c).Tracked (s.originsAfter origins c) := by
  have hb' := hb.after_call c
  cases c with
  | checkout name part mem viewName => exact h.after_checkout hb name part mem viewName
  | restore viewName =>
    intro e he
    obtain ⟨hne, he⟩ := views_restore s viewName e he
    refine (originRoot_congr ?_).trans (originRoot_of_grows hb' (h e he))
    rw [originsAfter, Slots.get?_erase, if_neg hne]
  | register e =>
    refine h.of_views_eq hb' ?_
    obtain ⟨r, registry, hr⟩ := outcome_register e s
    rw [after, hr]
  | openContext limit config =>
    refine h.of_views_eq hb' ?_
    obtain ⟨r, world, serial, hr⟩ := outcome_openContext limit config s
    rw [after, hr]
  | create ctx spec name => exact h.of_views_eq hb' (Keeps.create beside_views ctx spec name s)
  | reference name newName =>
    exact h.of_views_eq hb' (Keeps.reference beside_views name newName s)
  | referenceCopy src dst =>
    exact h.of_views_eq hb' (Keeps.referenceCopy beside_views src dst s)
  | derive name mode newName =>
    exact h.of_views_eq hb' (Keeps.derive beside_views name mode newName s)
  | destroy name => exact h.of_views_eq hb' (Keeps.destroy beside_views name s)
  | drop name => exact h.of_views_eq hb' (Keeps.drop beside_views name s)
  | pointsInElement name elem =>
    exact h.of_views_eq hb' (Keeps.quiet beside_views.apart (.pointsInElement name elem) s)
  | maxPoints name => exact h.of_views_eq hb' (Keeps.quiet beside_views.apart (.maxPoints name) s)
  | apply name d u v =>
    exact h.of_views_eq hb' (Keeps.quiet beside_views.apart (.apply name d u v) s)
  | applyBlock name block d u v =>
    exact h.of_views_eq hb' (Keeps.quiet beside_views.apart (.applyBlock name block d u v) s)
  | applyAtPoints name elem d u v =>
    exact h.of_views_eq hb' (Keeps.quiet beside_views.apart (.applyAtPoints name elem d u v) s)
  | multiplicity name v =>
    refine h.of_views_eq hb' ?_
    obtain ⟨world, hw⟩ := quiet_multiplicity name v s
    rw [after, hw]

theorem Tracked.after_run {s : Session σ α} {origins : Slots Nat} (h : s.Tracked origins)
    (hb : Books s [] [] s) (calls : List (Call σ α)) :
    (s.run calls).Tracked (s.viewOrigins origins calls) := by
  induction calls generalizing s origins with
  | nil => exact h
  | cons c calls ih => exact ih (h.after_call hb c) (hb.after_call c).rebase

/-! ## The state after any run -/

/-- However a session got where it is, every count is exact: a descriptor's references are its
handles and the live descriptors derived from it, a root's readers are the views checked out from
it or from what is derived from it, and its data are there exactly while it is referenced. So every
hook that runs through a live handle finds data. -/
theorem counts_exact (registry : Registry σ α) (world : σ) (calls : List (Call σ α)) :
    let s := (start registry world).run calls
    let origins := (start registry world).viewOrigins {} calls
    (∀ (id : Nat) (d : Descriptor σ α), s.table[id]? = some d →
      d.refCount = s.handlesOn id + s.childrenOf id ∧
      (d.ancestors = [] → d.readers = s.viewsFrom origins id) ∧
      (d.data.isSome ↔ d.ancestors = [] ∧ 0 < d.refCount)) ∧
    ∀ name id, s.handles.get? name = some id →
      ∃ c : Compiled σ α, ∀ {β : Type} (f : Compiled σ α → Effect σ β),
        outcome (withData id f) s = outcome (effect (f c)) s := by
  intro s origins
  have hb : Books (start registry world) [] [] s := (books_start registry world).after_run calls
  have ht : s.Tracked origins :=
    Tracked.after_run (s := start registry world) nofun (books_start registry world) calls
  refine ⟨fun id d hd => ⟨hb.refCount id d hd, fun _ => ?_, hb.data id d hd⟩, fun name id hn => ?_⟩
  · rw [ht.viewsFrom_eq]
    exact hb.readers id d hd
  · obtain ⟨d, hd⟩ := exists_getElem? (hb.lt_of_handle hn)
    obtain ⟨r, hr, hroot, -, hpos⟩ := hb.exists_root hd
    have hdata := (hb.data _ r hr).2 ⟨hroot, hpos (hb.refCount_pos_of_handle hn hd)⟩
    obtain ⟨c, hc⟩ := Option.isSome_iff_exists.1 hdata
    exact ⟨c, fun f => outcome_withData hd hr hc f⟩

end Session

end GatherScatter
