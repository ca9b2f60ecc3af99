import GatherScatter.Proofs.Session.Guard

/-!
# Data stay while they are read

A root gives up its data with its last reference. Handles are given up by `destroy` and
`referenceCopy`, which the readers of a root can refuse, or silently, by dropping them or by filling
their slot. Without the silent ways, no root gives up data that are still shown by a view.

* `HasData.release`: a release takes the data of a root only along a chain of last references.
* `Explicit`: a call that gives up no handle silently.
* `Backed.after_call`, `Backed.after_run`: explicit calls leave every view its data.
-/
namespace GatherScatter.Session

variable {σ α β γ : Type}

/-- The descriptor at `j` has its data. -/
def HasData (s : Session σ α) (j : Nat) : Prop :=
  ∃ (r : Descriptor σ α) (c : Compiled σ α), s.table[j]? = some r ∧ r.data = some c

/-- Every view shows a root that has its data. -/
def Backed (s : Session σ α) : Prop := ∀ e ∈ s.views.entries, s.HasData e.2.root

namespace HasData

variable {base s : Session σ α} {refs reads : List Nat} {id j : Nat} {d : Descriptor σ α}

theorem congr {s' : Session σ α} (h : s.HasData j) (ht : s'.table = s.table) : s'.HasData j := by
  obtain ⟨r, c, hr, hc⟩ := h
  exact ⟨r, c, by rw [ht, hr], hc⟩

theorem replace (d' : Descriptor σ α) (h : s.HasData j) (hd : s.table[id]? = some d)
    (hdata : j = id → d'.data = d.data) : (s.replace id d').HasData j := by
  obtain ⟨r, c, hr, hc⟩ := h
  have hget := getElem?_replace hd d' j
  by_cases hj : j = id
  · rw [if_pos hj] at hget
    rw [hj, hd] at hr
    cases hr
    exact ⟨d', c, hget, by rw [hdata hj, hc]⟩
  · rw [if_neg hj, hr] at hget
    exact ⟨r, c, hget, hc⟩

theorem push (h : s.HasData j) (d : Descriptor σ α) :
    HasData { s with table := s.table.push d } j := by
  obtain ⟨r, c, hr, hc⟩ := h
  exact ⟨r, c, getElem?_push hr d, hc⟩

theorem modify (h : s.HasData j) (id : Nat) {f : Descriptor σ α → Descriptor σ α}
    (hf : ∀ d, (f d).data = d.data) : HasData { s with table := s.table.modify id f } j := by
  obtain ⟨r, c, hr, hc⟩ := h
  by_cases hj : id = j
  · exact ⟨f r, c, by rw [Array.getElem?_modify, if_pos hj, hr]; rfl, by rw [hf, hc]⟩
  · exact ⟨r, c, by rw [Array.getElem?_modify, if_neg hj, hr], hc⟩

/-- Induction on the chain: the data of a root go only if every reference on the way to it is the
last. -/
theorem release (hdata : s.HasData j) (h : Books base (id :: refs) reads s)
    (hd : s.table[id]? = some d) (hsafe : j = d.root id → ¬ s.Sole (id :: d.ancestors)) :
    (outcome (release (id :: d.ancestors)) s).2.HasData j := by
  unfold Descriptor.root at hsafe
  generalize hanc : d.ancestors = chain at hsafe
  induction chain generalizing id d s with
  | nil =>
    rcases Nat.lt_or_ge 1 d.refCount with hlt | hle
    · rw [outcome_release_of_shared hd hlt]
      exact hdata.replace _ hd fun _ => rfl
    have hone : d.refCount = 1 := by
      have := h.refCount_pos_of_pending hd
      omega
    have hne : j ≠ id := fun hj => hsafe hj (.cons hd hone nofun)
    obtain ⟨c, hc⟩ := Option.isSome_iff_exists.1 ((h.data id d hd).2 ⟨hanc, by omega⟩)
    have hd' := getElem?_replace_self hd { d with refCount := 0 }
    obtain ⟨r, world, hr⟩ := outcome_releaseData_some hd' hc
    rw [replace_replace] at hr
    rw [outcome_release_of_last hd hone, outcome_bind, hr]
    have hgone := hdata.replace { d with refCount := 0, data := none } hd
      fun hj => absurd hj hne
    cases r <;> exact hgone.congr rfl
  | cons p rest ih =>
    rcases Nat.lt_or_ge 1 d.refCount with hlt | hle
    · rw [outcome_release_of_shared hd hlt]
      exact hdata.replace _ hd fun _ => rfl
    have hone : d.refCount = 1 := by
      have := h.refCount_pos_of_pending hd
      omega
    have hnone : d.data = none := by
      rw [← Option.not_isSome_iff_eq_none, h.data id d hd, hanc]
      simp
    have hsame : { d with refCount := 0 } = { d with refCount := 0, data := none } := by
      rw [← hnone]
    have hclose := h.close hd hone
    rw [show d.ancestors.head?.toList ++ refs = p :: refs by rw [hanc]; rfl] at hclose
    have hd' := getElem?_replace_self hd { d with refCount := 0 }
    obtain ⟨hlt, dp, hp, hprest, -⟩ := h.parent id d p rest hd hanc
    have hget := getElem?_replace hd { d with refCount := 0, data := none }
    rw [outcome_release_of_last hd hone, outcome_bind_ok (outcome_releaseData_none hd' hnone),
      hsame]
    refine ih (hdata.replace _ hd fun _ => hnone.symm) hclose ?_ hprest fun hj hsole => ?_
    · rw [hget, if_neg (by omega)]
      exact hp
    · refine hsafe (by rw [List.getLastD_cons]; exact hj) (.cons hd hone fun k hk => ?_)
      obtain ⟨dk, hdk, hk1⟩ := hsole k hk
      rcases cases_replace hd hdk with ⟨-, rfl⟩ | ⟨-, hdk⟩
      · cases hk1
      · exact ⟨dk, hdk, hk1⟩

/-- Dropping a reference that is not the last. -/
theorem dropReference_of_shared (hdata : s.HasData j) (hd : s.table[id]? = some d)
    (hlt : 1 < d.refCount) : (outcome (dropReference id) s).2.HasData j := by
  rw [dropReference, outcome_silently, outcome_bind_ok (outcome_descriptor hd),
    outcome_release_of_shared hd hlt]
  exact hdata.replace _ hd fun _ => rfl

/-- Destroying a handle leaves the data of a root that is being read alone. -/
theorem destroy (hdata : s.HasData j) (h : Books base refs reads s) (hread : 0 < s.viewsOn j)
    (name : String) : (outcome (destroy name) s).2.HasData j := by
  cases hn : s.handles.get? name with
  | none =>
    rw [Session.destroy, outcome_bind_ok (outcome_get s), hn]
    exact hdata
  | some id =>
    obtain ⟨d, hd⟩ := exists_getElem? (h.lt_of_handle hn)
    by_cases hb : s.Blocked id d
    · rw [h.outcome_destroy_of_blocked hn hd hb]
      exact hdata
    · have herase := h.eraseHandle name
      rw [hn] at herase
      rw [h.outcome_destroy_of_not_blocked hn hd hb]
      refine HasData.release (s := { s with handles := s.handles.erase name }) (hdata.congr rfl)
        herase hd fun hj hsole => hb ⟨hsole, ?_⟩
      obtain ⟨r, c, hr, -⟩ := hdata
      refine ⟨r, hj ▸ hr, ?_⟩
      rw [h.readers j r hr]
      omega

theorem referenceCopy (hdata : s.HasData j) (h : Books base refs reads s)
    (hread : 0 < s.viewsOn j) (src : Option String) (dst : String) :
    (outcome (referenceCopy src dst) s).2.HasData j := by
  cases hsrc : src.bind s.handles.get? with
  | none =>
    rw [Session.referenceCopy, outcome_bind_ok (outcome_get s), hsrc]
    exact hdata.destroy h hread dst
  | some id =>
    obtain ⟨name, rfl, hn⟩ := Option.bind_eq_some_iff.1 hsrc
    obtain ⟨d, hd⟩ := exists_getElem? (h.lt_of_handle hn)
    have hpos := h.refCount_pos_of_handle hn hd
    have hretain := h.retain hd hpos
    have hgone := (hdata.replace { d with refCount := d.refCount + 1 } hd
      fun _ => rfl).destroy hretain hread dst
    have hbooks := hretain.after_destroy dst
    rw [outcome_referenceCopy hn hd]
    rcases hr : outcome (Session.destroy dst) (s.replace id { d with refCount := d.refCount + 1 })
      with ⟨r, s'⟩
    rw [hr] at hgone hbooks
    dsimp only at hgone hbooks
    cases r with
    | ok _ => exact hgone.congr rfl
    | error e =>
      -- the handle that was to be copied still has a reference of its own
      have hget := getElem?_replace_self hd { d with refCount := d.refCount + 1 }
      have hne : name ≠ dst := by
        rintro rfl
        have hok := hretain.outcome_destroy_of_shared hn hget (by dsimp only; omega)
        rw [hr] at hok
        cases hok
      have hn' := hretain.get?_destroy_of_ne hne
      rw [hr] at hn'
      have hn' : s'.handles.get? name = some id := hn'.trans hn
      obtain ⟨d', hd'⟩ := exists_getElem? (hbooks.lt_of_handle hn')
      refine hgone.dropReference_of_shared hd' ?_
      have := Slots.count_pos (p := fun h => decide (h = id)) hn' (by simp)
      rw [hbooks.refCount id d' hd', handlesOn, List.count_cons_self]
      omega

/-! ## Views -/

/-- A live handle has its data at its root. -/
theorem of_handle (h : Books base refs reads s) {name : String}
    (hn : s.handles.get? name = some id) (hd : s.table[id]? = some d) : s.HasData (d.root id) := by
  obtain ⟨r, hr, hroot, -, hpos⟩ := h.exists_root hd
  obtain ⟨c, hc⟩ := Option.isSome_iff_exists.1
    ((h.data _ r hr).2 ⟨hroot, hpos (h.refCount_pos_of_handle hn hd)⟩)
  exact ⟨r, c, hr, hc⟩

theorem giveBack (hdata : s.HasData j) (root : Nat) :
    (outcome (giveBack root) s).2.HasData j := by
  rw [Session.giveBack, outcome_modifyDescriptor]
  exact hdata.modify root fun _ => rfl

theorem checkout (hdata : s.HasData j) (h : Books base refs reads s) (name : String) (part : Part)
    (mem : MemKind) (viewName : String) :
    (outcome (checkout name part mem viewName) s).2.HasData j := by
  rw [Session.checkout]
  cases hn : s.handles.get? name with
  | none =>
    rw [outcome_bind_error (outcome_held_none hn)]
    exact hdata
  | some id =>
    obtain ⟨r, world, hr⟩ := Quiet.withCapability id part.capability (part.fetch mem) s
    rw [outcome_bind_ok (outcome_held hn)]
    cases r with
    | error e =>
      rw [outcome_bind_error (outcome_takeArray_error hr)]
      exact hdata.congr rfl
    | ok content =>
      obtain ⟨d, hd⟩ := exists_getElem? (h.lt_of_handle hn)
      have htaken := hdata.modify (d.root id) (f := fun d => { d with readers := d.readers + 1 })
        fun _ => rfl
      rw [outcome_bind_ok (outcome_takeArray hr hd)]
      dsimp only
      rw [outcome_bind_ok (outcome_get _), outcome_bind_ok (outcome_modify _ _)]
      dsimp only
      cases s.views.get? viewName with
      | none => exact htaken.congr rfl
      | some old => exact (htaken.congr rfl).giveBack old.root

theorem restore (hdata : s.HasData j) (viewName : String) :
    (outcome (restore viewName) s).2.HasData j := by
  rw [Session.restore, Session.view]
  cases hv : s.views.get? viewName with
  | none =>
    rw [outcome_bind_error (by rw [outcome_bind_ok (outcome_get s), hv, outcome_throw])]
    exact hdata
  | some v =>
    rw [outcome_bind_ok (by rw [outcome_bind_ok (outcome_get s), hv, outcome_pure]),
      outcome_bind_ok (outcome_modify _ s)]
    exact HasData.giveBack (s := { s with views := s.views.erase viewName }) (hdata.congr rfl)
      v.root

end HasData

namespace Backed

variable {s s' : Session σ α}

/-- It is enough to look at the roots that are read. -/
theorem of_views (h : s.Backed) (hv : ∀ e ∈ s'.views.entries, e ∈ s.views.entries)
    (hdata : ∀ j, 0 < s.viewsOn j → s.HasData j → s'.HasData j) : s'.Backed := by
  intro e he
  refine hdata e.2.root ?_ (h e (hv e he))
  exact List.countP_pos_iff.2 ⟨e, hv e he, decide_eq_true rfl⟩

theorem congr (h : s.Backed) (hv : s'.views = s.views) (ht : s'.table = s.table) : s'.Backed :=
  h.of_views (fun _ he => hv ▸ he) fun _ _ hdata => hdata.congr ht

theorem quiet {β : Type} {x : Act σ α β} (h : s.Backed) (hx : Quiet x) :
    (outcome x s).2.Backed := by
  obtain ⟨r, world, hr⟩ := hx s
  rw [hr]
  exact h.congr rfl rfl

/-- A new view shows the data of a live handle. -/
theorem checkout (h : s.Backed) (hb : Books s [] [] s) (name : String) (part : Part)
    (mem : MemKind) (viewName : String) :
    (outcome (checkout name part mem viewName) s).2.Backed := by
  have hkeeps (j : Nat) (hdata : s.HasData j) := hdata.checkout hb name part mem viewName
  cases hn : s.handles.get? name with
  | none =>
    rw [Session.checkout, outcome_bind_error (outcome_held_none hn)]
    exact h
  | some id =>
    obtain ⟨d, hd⟩ := exists_getElem? (hb.lt_of_handle hn)
    rcases outcome_checkout hn hd part mem viewName with ⟨e, world, hr⟩ | ⟨content, s', hr, hv⟩
    · rw [hr]
      exact h.congr rfl rfl
    · rw [hr] at hkeeps ⊢
      intro e he
      dsimp only at he hkeeps ⊢
      rw [hv] at he
      rcases Slots.mem_entries_put.1 he with rfl | ⟨-, he⟩
      · exact hkeeps _ (HasData.of_handle hb hn hd)
      · exact hkeeps _ (h e he)

end Backed

/-! ## Filling slots -/

theorem outcome_assign_of_empty {s : Session σ α} {name : String}
    (h : s.handles.get? name = none) (id : Nat) :
    outcome (assign name id) s = (.ok (), { s with handles := s.handles.put name id }) := by
  rw [assign, outcome_bind_ok (outcome_get s), outcome_bind_ok (outcome_modify _ s), h]
  rfl

/-- A slot that holds what it is filled with already may be filled once more. -/
theorem HasData.assign {s : Session σ α} {id j : Nat} {d : Descriptor σ α} (hdata : s.HasData j)
    (hd : s.table[id]? = some d) (hlt : 1 < d.refCount) {name : String}
    (hold : ∀ old, s.handles.get? name = some old → old = id) :
    (outcome (assign name id) s).2.HasData j := by
  cases hn : s.handles.get? name with
  | none =>
    rw [outcome_assign_of_empty hn]
    exact hdata.congr rfl
  | some old =>
    cases hold old hn
    rw [Session.assign, outcome_bind_ok (outcome_get s), outcome_bind_ok (outcome_modify _ s), hn]
    exact HasData.dropReference_of_shared (s := { s with handles := s.handles.put name id })
      (hdata.congr rfl) hd hlt

/-- A slot that may be filled with a new descriptor without losing a handle is empty. -/
theorem Books.empty_of_put_fresh {base s : Session σ α} {refs reads : List Nat}
    (h : Books base refs reads s) {name : String}
    (hslots : ∀ id, s.handles.get? name = some id →
      (s.handles.put name s.table.size).get? name = some id) : s.handles.get? name = none := by
  cases hn : s.handles.get? name with
  | none => rfl
  | some old =>
    have hold := hslots old hn
    rw [Slots.get?_put, if_pos rfl] at hold
    cases hold
    exact absurd (h.lt_of_handle hn) (Nat.lt_irrefl _)

/-! ## Runs without silent drops -/

variable [IntCast α]

/-- Handles are given up by `destroy` and `referenceCopy` alone: any other call leaves those that
are there in their slots. -/
def Explicit (s : Session σ α) : Call σ α → Prop
  | .destroy _ => True
  | .referenceCopy _ _ => True
  | c => ∀ name id, s.handles.get? name = some id → (s.after c).handles.get? name = some id

/-- Calls that are explicit one after the other. -/
def ExplicitRun (s : Session σ α) : List (Call σ α) → Prop
  | [] => True
  | c :: calls => Explicit s c ∧ ExplicitRun (s.after c) calls

namespace HasData

variable {s : Session σ α} {j : Nat}

theorem create (hdata : s.HasData j) (h : Books s [] [] s) {ctx : Context σ α} {spec : Spec}
    {name : String} (hexplicit : Explicit s (.create ctx spec name)) :
    (s.after (.create ctx spec name)).HasData j := by
  obtain ⟨r, world, hr⟩ := Quiet.effect (ctx.create spec) s
  have hslots := hexplicit name
  rw [after] at hslots ⊢
  cases r with
  | error e =>
    rw [Session.create, outcome_bind_error hr]
    exact hdata.congr rfl
  | ok made =>
    obtain ⟨context, shape, compiled⟩ := made
    rw [outcome_create hr] at hslots ⊢
    rw [handles_assign] at hslots
    have hempty := h.empty_of_put_fresh hslots
    rw [outcome_assign_of_empty (s := withRoot { s with world := world } context shape compiled)
      hempty]
    exact (hdata.push _).congr rfl

theorem derive (hdata : s.HasData j) (h : Books s [] [] s) {name newName : String} {mode : Mode}
    (hexplicit : Explicit s (.derive name mode newName)) :
    (s.after (.derive name mode newName)).HasData j := by
  have hslots := hexplicit newName
  rw [after] at hslots ⊢
  cases hn : s.handles.get? name with
  | none =>
    rw [Session.derive, outcome_bind_error (outcome_held_none hn)]
    exact hdata
  | some id =>
    obtain ⟨r, world, hr⟩ := Quiet.withCapability id mode.capability (fun _ => pure ()) s
    cases r with
    | error e =>
      rw [Session.derive, outcome_bind_ok (outcome_held hn), outcome_bind_error hr]
      exact hdata.congr rfl
    | ok _ =>
      obtain ⟨d, hd⟩ := exists_getElem? (h.lt_of_handle hn)
      rw [outcome_derive hn hr hd] at hslots ⊢
      rw [handles_assign] at hslots
      have hempty := h.empty_of_put_fresh hslots
      rw [outcome_assign_of_empty (s := withDerived { s with world := world } id d mode) hempty]
      have hretained := hdata.replace { d with refCount := d.refCount + 1 } hd fun _ => rfl
      exact hretained.push { d with
        mode := mode, ancestors := id :: d.ancestors, refCount := 1, readers := 0, data := none }

theorem reference (hdata : s.HasData j) (h : Books s [] [] s) {name newName : String}
    (hexplicit : Explicit s (.reference name newName)) :
    (s.after (.reference name newName)).HasData j := by
  have hslots := hexplicit newName
  rw [after, Session.reference] at hslots ⊢
  cases hn : s.handles.get? name with
  | none =>
    rw [outcome_bind_error (outcome_held_none hn)]
    exact hdata
  | some id =>
    obtain ⟨d, hd⟩ := exists_getElem? (h.lt_of_handle hn)
    have hpos := h.refCount_pos_of_handle hn hd
    have hget := getElem?_replace_self hd { d with refCount := d.refCount + 1 }
    rw [outcome_bind_ok (outcome_held hn), outcome_bind_ok (outcome_retain hd)] at hslots ⊢
    have hretained := hdata.replace { d with refCount := d.refCount + 1 } hd fun _ => rfl
    refine hretained.assign hget (Nat.succ_lt_succ hpos) fun old hold => ?_
    have hold := hslots old hold
    rw [handles_assign, Slots.get?_put, if_pos rfl] at hold
    exact (Option.some.inj hold).symm

end HasData

namespace Backed

variable {s : Session σ α}

theorem after_call (h : s.Backed) (hb : Books s [] [] s) {c : Call σ α} (hc : Explicit s c) :
    (s.after c).Backed := by
  cases c with
  | register e =>
    obtain ⟨r, registry, hr⟩ := outcome_register e s
    rw [after, hr]
    exact h.congr rfl rfl
  | openContext limit config =>
    obtain ⟨r, world, serial, hr⟩ := outcome_openContext limit config s
    rw [after, hr]
    exact h.congr rfl rfl
  | create ctx spec name =>
    exact h.of_views (fun _ he => Keeps.create beside_views ctx spec name s ▸ he)
      fun _ _ hdata => hdata.create hb hc
  | reference name newName =>
    exact h.of_views (fun _ he => Keeps.reference beside_views name newName s ▸ he)
      fun _ _ hdata => hdata.reference hb hc
  | derive name mode newName =>
    exact h.of_views (fun _ he => Keeps.derive beside_views name mode newName s ▸ he)
      fun _ _ hdata => hdata.derive hb hc
  | referenceCopy src dst =>
    exact h.of_views (fun _ he => Keeps.referenceCopy beside_views src dst s ▸ he)
      fun _ hread hdata => hdata.referenceCopy hb hread src dst
  | destroy name =>
    exact h.of_views (fun _ he => Keeps.destroy beside_views name s ▸ he)
      fun _ hread hdata => hdata.destroy hb hread name
  | drop name =>
    have hempty : s.handles.get? name = none := by
      cases hn : s.handles.get? name with
      | none => rfl
      | some id =>
        have hstays := hc name id hn
        rw [after, Session.drop, outcome_bind_ok (outcome_held hn),
          outcome_bind_ok (outcome_modify _ s), Keeps.dropReference apart_handles] at hstays
        dsimp only at hstays
        rw [Slots.get?_erase, if_pos rfl] at hstays
        cases hstays
    rw [after, Session.drop, outcome_bind_error (outcome_held_none hempty)]
    exact h
  | checkout name part mem viewName => exact h.checkout hb name part mem viewName
  | restore viewName =>
    exact h.of_views (fun e he => (views_restore s viewName e he).2)
      fun _ _ hdata => hdata.restore viewName
  | pointsInElement name elem => exact h.quiet (.pointsInElement name elem)
  | maxPoints name => exact h.quiet (.maxPoints name)
  | apply name d u v => exact h.quiet (.apply name d u v)
  | applyBlock name block d u v => exact h.quiet (.applyBlock name block d u v)
  | applyAtPoints name elem d u v => exact h.quiet (.applyAtPoints name elem d u v)
  | multiplicity name v =>
    obtain ⟨world, hw⟩ := quiet_multiplicity name v s
    rw [after, hw]
    exact h.congr rfl rfl

theorem after_run (h : s.Backed) (hb : Books s [] [] s) {calls : List (Call σ α)}
    (hc : ExplicitRun s calls) : (s.run calls).Backed := by
  induction calls generalizing s with
  | nil => exact h
  | cons c calls ih => exact ih (h.after_call hb hc.1) (hb.after_call c).rebase hc.2

end Backed

end GatherScatter.Session
