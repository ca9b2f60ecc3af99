import GatherScatter.Proofs.Session.Books
import GatherScatter.Proofs.Session.Frame

/-!
# The books after each operation

Every operation, whether it succeeds or fails, leaves exact books behind and holds nothing any
more. In between it holds references of its own: `release` starts with the one that it is to give
up, `assign` with the one that is to become a handle.

* `Books.after_release`: along a chain of descriptors, by induction on the chain.
* `Books.after_create`, `Books.after_derive`, `Books.after_destroy` and so on: one for each
  operation.
-/
namespace GatherScatter.Session

variable {σ α β : Type}

theorem outcome_releaseData_none {s : Session σ α} {id : Nat} {d : Descriptor σ α}
    (hd : s.table[id]? = some d) (hdata : d.data = none) :
    outcome (releaseData id) s = (.ok (), s) := by
  rw [releaseData, outcome_bind_ok (outcome_descriptor hd), hdata]
  rfl

/-- The data are gone before their hook runs. -/
theorem outcome_releaseData {s : Session σ α} {id : Nat} {d : Descriptor σ α}
    {c : Compiled σ α} (hd : s.table[id]? = some d) (hdata : d.data = some c) :
    outcome (releaseData id) s = outcome (if c.supports .destroy then effect c.destroy else pure ())
      (s.replace id { d with data := none }) := by
  rw [releaseData, outcome_bind_ok (outcome_descriptor hd), hdata]
  dsimp only
  rw [outcome_bind_ok (outcome_modifyDescriptor id _ s), modify_eq_replace hd]

/-- Giving up data may fail, and then the data are gone all the same. -/
theorem outcome_releaseData_some {s : Session σ α} {id : Nat} {d : Descriptor σ α}
    {c : Compiled σ α} (hd : s.table[id]? = some d) (hdata : d.data = some c) :
    ∃ r world, outcome (releaseData id) s =
      (r, { s.replace id { d with data := none } with world := world }) := by
  rw [outcome_releaseData hd hdata]
  by_cases hc : c.supports .destroy
  · rw [if_pos hc, outcome_effect]
    exact ⟨_, _, rfl⟩
  · rw [if_neg hc]
    exact ⟨_, s.world, rfl⟩

theorem replace_replace (s : Session σ α) (id : Nat) (d d' : Descriptor σ α) :
    (s.replace id d).replace id d' = s.replace id d' := by
  rw [replace, replace, replace, Array.setIfInBounds_setIfInBounds]

theorem getElem?_replace_self {s : Session σ α} {id : Nat} {d : Descriptor σ α}
    (hd : s.table[id]? = some d) (d' : Descriptor σ α) :
    (s.replace id d').table[id]? = some d' := by
  rw [getElem?_replace hd, if_pos rfl]

theorem outcome_retain {s : Session σ α} {id : Nat} {d : Descriptor σ α}
    (hd : s.table[id]? = some d) :
    outcome (retain id) s = (.ok (), s.replace id { d with refCount := d.refCount + 1 }) := by
  rw [retain, outcome_modifyDescriptor, modify_eq_replace hd]

/-- Replacing a descriptor and adding another one do not meet. -/
theorem push_replace {s : Session σ α} {id : Nat} {d : Descriptor σ α}
    (hd : s.table[id]? = some d) (d' new : Descriptor σ α) :
    replace { s with table := s.table.push new } id d' =
      { s.replace id d' with table := (s.replace id d').table.push new } := by
  have hlt := lt_size_of_getElem? hd
  rw [replace, replace]
  congr 1
  apply Array.ext_getElem?
  intro j
  simp only [Array.getElem?_setIfInBounds, Array.getElem?_push, Array.size_setIfInBounds,
    Array.size_push]
  by_cases hj : id = j
  · rw [if_pos hj, if_pos (by omega), if_neg (by omega), if_pos hj, if_pos hlt]
  · rw [if_neg hj, if_neg hj]

/-- Giving up a reference that is not the last. -/
theorem outcome_release_of_shared {s : Session σ α} {id : Nat} {d : Descriptor σ α}
    (hd : s.table[id]? = some d) (h : 1 < d.refCount) (chain : List Nat) :
    outcome (release (id :: chain)) s =
      (.ok (), s.replace id { d with refCount := d.refCount - 1 }) := by
  have hd' := getElem?_replace_self hd { d with refCount := d.refCount - 1 }
  rw [release, outcome_bind_ok (outcome_modifyDescriptor id _ s), modify_eq_replace hd,
    outcome_bind_ok (outcome_descriptor hd'), if_neg (by dsimp only; omega)]
  rfl

/-- Giving up the last reference. -/
theorem outcome_release_of_last {s : Session σ α} {id : Nat} {d : Descriptor σ α}
    (hd : s.table[id]? = some d) (h : d.refCount = 1) (chain : List Nat) :
    outcome (release (id :: chain)) s =
      outcome (do releaseData id; release chain) (s.replace id { d with refCount := 0 }) := by
  have hd' := getElem?_replace_self hd { d with refCount := d.refCount - 1 }
  rw [release, outcome_bind_ok (outcome_modifyDescriptor id _ s), modify_eq_replace hd,
    outcome_bind_ok (outcome_descriptor hd'), if_pos (by dsimp only; omega), h]

/-- Session `s` with a new root. -/
def withRoot (s : Session σ α) (context : Context σ α) (shape : Shape)
    (compiled : Compiled σ α) : Session σ α :=
  { s with
    table := s.table.push ⟨context, shape, compiled.eLayout, .full, [], 1, 0, some compiled⟩ }

/-- Session `s` with a new descriptor that is derived from `d`, which stands at `id`. -/
def withDerived (s : Session σ α) (id : Nat) (d : Descriptor σ α) (mode : Mode) : Session σ α :=
  let s' := s.replace id { d with refCount := d.refCount + 1 }
  { s' with
    table := s'.table.push { d with
      mode := mode, ancestors := id :: d.ancestors, refCount := 1, readers := 0, data := none } }

theorem getElem?_withDerived (s : Session σ α) (id : Nat) (d : Descriptor σ α) (mode : Mode) :
    (s.withDerived id d mode).table[s.table.size]? = some { d with
      mode := mode, ancestors := id :: d.ancestors, refCount := 1, readers := 0,
      data := none } := by
  rw [withDerived, Array.getElem?_push, replace, if_pos (Array.size_setIfInBounds).symm]

/-- Failures of dropping what was in the slot are silent. -/
theorem assign_ok (name : String) (id : Nat) (s : Session σ α) :
    (outcome (assign name id) s).1 = .ok () := by
  rw [assign, outcome_bind_ok (outcome_get s), outcome_bind_ok (outcome_modify _ s)]
  cases s.handles.get? name with
  | none => rfl
  | some old =>
    dsimp only
    rw [dropReference, outcome_silently]

theorem outcome_create_error {ctx : Context σ α} {spec : Spec} {s : Session σ α} {world : σ}
    {e : Error} (h : (ctx.create spec).run.run s.world = (.error e, world)) (name : String) :
    outcome (create ctx spec name) s = (.error (.error e), { s with world := world }) := by
  rw [create]
  refine outcome_bind_error ?_
  rw [outcome_effect, h]
  rfl

theorem outcome_create {ctx context : Context σ α} {spec : Spec} {s s' : Session σ α}
    {shape : Shape} {compiled : Compiled σ α}
    (h : outcome (effect (ctx.create spec)) s = (.ok (context, shape, compiled), s'))
    (name : String) :
    outcome (create ctx spec name) s = (.ok s'.table.size,
      (outcome (assign name s'.table.size) (s'.withRoot context shape compiled)).2) := by
  have hassign := assign_ok name s'.table.size (s'.withRoot context shape compiled)
  rw [create, outcome_bind_ok h]
  dsimp only
  rw [outcome_bind_ok (outcome_addDescriptor _ s')]
  change outcome (assign name s'.table.size >>= fun _ => pure s'.table.size)
    (s'.withRoot context shape compiled) = _
  rw [outcome_bind]
  rcases hs : outcome (assign name s'.table.size) (s'.withRoot context shape compiled) with ⟨r, s₁⟩
  rw [hs] at hassign
  cases hassign
  rfl

theorem outcome_derive {s s' : Session σ α} {name : String} {id : Nat} {d : Descriptor σ α}
    {mode : Mode} (hn : s.handles.get? name = some id)
    (hc : outcome (withCapability id mode.capability fun _ => pure ()) s = (.ok (), s'))
    (hd : s'.table[id]? = some d) (newName : String) :
    outcome (derive name mode newName) s =
      outcome (assign newName s'.table.size) (s'.withDerived id d mode) := by
  rw [derive, outcome_bind_ok (outcome_held hn), outcome_bind_ok hc,
    outcome_bind_ok (outcome_descriptor hd), outcome_bind_ok (outcome_addDescriptor _ _),
    outcome_bind_ok (outcome_retain (getElem?_push hd _)), push_replace hd]
  rfl

theorem handles_assign (name : String) (id : Nat) (s : Session σ α) :
    (outcome (assign name id) s).2.handles = s.handles.put name id := by
  rw [assign, outcome_bind_ok (outcome_get s), outcome_bind_ok (outcome_modify _ s)]
  cases s.handles.get? name with
  | none => rfl
  | some old =>
    exact Keeps.dropReference apart_handles old { s with handles := s.handles.put name id }

namespace Books

variable {base s : Session σ α} {refs reads : List Nat} {id : Nat} {d : Descriptor σ α}

/-- Induction on the chain: with its last reference, a derived descriptor passes on the reference
that it holds to the next one. -/
theorem after_release (h : Books base (id :: refs) reads s) (hd : s.table[id]? = some d) :
    Books base refs reads (outcome (release (id :: d.ancestors)) s).2 := by
  generalize hanc : d.ancestors = chain
  induction chain generalizing id d s with
  | nil =>
    rcases Nat.lt_or_ge 1 d.refCount with hlt | hle
    · rw [outcome_release_of_shared hd hlt]
      exact h.decrement hd hlt
    have hpos := h.refCount_pos_of_pending hd
    have hclose := h.close hd (by omega)
    rw [show d.ancestors.head?.toList ++ refs = refs by rw [hanc]; rfl] at hclose
    obtain ⟨c, hc⟩ := Option.isSome_iff_exists.1 ((h.data id d hd).2 ⟨hanc, hpos⟩)
    have hd' := getElem?_replace_self hd { d with refCount := 0 }
    obtain ⟨r, world, hr⟩ := outcome_releaseData_some hd' hc
    rw [replace_replace] at hr
    rw [outcome_release_of_last hd (by omega), outcome_bind, hr]
    cases r <;> exact hclose.congr rfl rfl rfl
  | cons p rest ih =>
    rcases Nat.lt_or_ge 1 d.refCount with hlt | hle
    · rw [outcome_release_of_shared hd hlt]
      exact h.decrement hd hlt
    have hpos := h.refCount_pos_of_pending hd
    have hclose := h.close hd (by omega)
    rw [show d.ancestors.head?.toList ++ refs = p :: refs by rw [hanc]; rfl] at hclose
    have hnone : d.data = none := by
      rw [← Option.not_isSome_iff_eq_none, h.data id d hd, hanc]
      simp
    have hsame : { d with refCount := 0 } = { d with refCount := 0, data := none } := by
      rw [← hnone]
    have hd' := getElem?_replace_self hd { d with refCount := 0 }
    obtain ⟨hlt, dp, hp, hprest, -⟩ := h.parent id d p rest hd hanc
    rw [outcome_release_of_last hd (by omega),
      outcome_bind_ok (outcome_releaseData_none hd' hnone), hsame]
    refine ih hclose ?_ hprest
    rw [getElem?_replace hd, if_neg (by omega)]
    exact hp

theorem after_dropReference (h : Books base (id :: refs) reads s) :
    Books base refs reads (outcome (dropReference id) s).2 := by
  obtain ⟨d, hd⟩ := exists_getElem? (h.pending id List.mem_cons_self)
  rw [dropReference, outcome_silently, outcome_bind_ok (outcome_descriptor hd)]
  exact h.after_release hd

/-- A reference becomes a handle; the handle that was in the slot is dropped. -/
theorem after_assign (h : Books base (id :: refs) reads s) (name : String) :
    Books base refs reads (outcome (assign name id) s).2 := by
  have hput := h.putHandle name
  rw [assign, outcome_bind_ok (outcome_get s),
    outcome_bind_ok (outcome_modify _ s)]
  cases hold : s.handles.get? name with
  | none =>
    rw [hold] at hput
    exact hput
  | some old =>
    rw [hold] at hput
    exact hput.after_dropReference

/-- The slot then has a handle on the descriptor, which is still the one it was. -/
theorem exists_assigned (h : Books base (id :: refs) reads s) (hd : s.table[id]? = some d)
    (name : String) :
    ∃ d', (outcome (assign name id) s).2.handles.get? name = some id ∧
      (outcome (assign name id) s).2.table[id]? = some d' ∧ d.Continues d' := by
  obtain ⟨d', hd', hc⟩ := (h.rebase.after_assign name).grows id d hd
  exact ⟨d', by rw [handles_assign, Slots.get?_put, if_pos rfl], hd', hc⟩

theorem after_quiet {x : Act σ α β} (hx : Quiet x) (h : Books base refs reads s) :
    Books base refs reads (outcome x s).2 := by
  obtain ⟨r, world, hr⟩ := hx s
  rw [hr]
  exact h.congr rfl rfl rfl

theorem retain_of_handle (h : Books base refs reads s) {name : String}
    (hn : s.handles.get? name = some id) :
    ∃ s', outcome (Session.retain id) s = (.ok (), s') ∧ Books base (id :: refs) reads s' := by
  obtain ⟨d, hd⟩ := exists_getElem? (h.lt_of_handle hn)
  exact ⟨_, outcome_retain hd, h.retain hd (h.refCount_pos_of_handle hn hd)⟩

/-! ## Making handles -/

/-- A new root is referenced by the operation that made it. -/
theorem push_root (h : Books base refs reads s) (context : Context σ α) (shape : Shape)
    (compiled : Compiled σ α) :
    Books base (s.table.size :: refs) reads (s.withRoot context shape compiled) :=
  push (d := ⟨context, shape, compiled.eLayout, .full, [], 1, 0, some compiled⟩) h nofun rfl rfl
    (by simp)

/-- A derived descriptor is referenced by the operation that made it and holds a reference to the
one that it is derived from. -/
theorem push_derived (h : Books base refs reads s) {name : String}
    (hn : s.handles.get? name = some id) (hd : s.table[id]? = some d) (mode : Mode) :
    Books base (s.table.size :: refs) reads (s.withDerived id d mode) := by
  have hretain := h.retain hd (h.refCount_pos_of_handle hn hd)
  have hget := getElem?_replace_self hd { d with refCount := d.refCount + 1 }
  have hpush := push (d := { d with
      mode := mode, ancestors := id :: d.ancestors, refCount := 1, readers := 0, data := none })
    hretain (fun p rest hanc => by cases hanc; exact ⟨_, hget, rfl, rfl, rfl⟩) rfl rfl (by simp)
  rw [Session.replace, Array.size_setIfInBounds] at hpush
  exact hpush

/-- Nothing is derived from the descriptor that was added last. -/
theorem childrenOf_last (h : Books base refs reads s) (hlast : s.table.size = id + 1) :
    s.childrenOf id = 0 := by
  rw [childrenOf, Array.countP_eq_zero]
  intro d hd hchild
  obtain ⟨j, hj, rfl⟩ := Array.mem_iff_getElem.1 hd
  rw [h.not_isChildOf (Array.getElem?_eq_getElem hj) (.refl _) (by omega)] at hchild
  cases hchild

/-- The handle on a new root is the only reference to it, and it has no readers. -/
theorem getElem?_assigned_root (h : Books base [] [] s) (context : Context σ α) (shape : Shape)
    (compiled : Compiled σ α) (name : String) :
    (outcome (assign name s.table.size)
        (s.withRoot context shape compiled)).2.table[s.table.size]? =
      some ⟨context, shape, compiled.eLayout, .full, [], 1, 0, some compiled⟩ := by
  have hpush := h.push_root context shape compiled
  obtain ⟨d, hhandle, hd, hcont⟩ := hpush.exists_assigned Array.getElem?_push_size name
  have hbooks := hpush.after_assign name
  obtain ⟨hhandles, -, -, hviews, -⟩ := h.fresh
  have hrefs : d.refCount = 1 := by
    have hcount := hbooks.refCount _ _ hd
    have hchildren := hbooks.childrenOf_last ((size_assign _ _ _).trans (Array.size_push _))
    have hput := s.handles.count_put name s.table.size fun i => i = s.table.size
    have hpos := Slots.count_pos (p := fun i => decide (i = s.table.size)) hhandle (by simp)
    rw [handles_assign] at hpos
    rw [handlesOn, handles_assign, hchildren, List.count_nil] at hcount
    rw [handlesOn] at hhandles
    rw [hhandles, if_pos (decide_eq_true rfl)] at hput
    change 0 < (s.handles.put name s.table.size).count _ at hpos
    change d.refCount = (s.handles.put name s.table.size).count _ + _ + _ at hcount
    omega
  have hreaders : d.readers = 0 := by
    rw [hbooks.readers _ _ hd, viewsOn, Keeps.assign_beside beside_views]
    exact hviews
  have hdata : d.data = some compiled := by
    have hsome := (hbooks.data _ _ hd).2 ⟨hcont.ancestors, by omega⟩
    rcases hcont.data with hdata | hdata
    · exact hdata
    · rw [hdata] at hsome
      cases hsome
  obtain ⟨hcontext, hshape, hlayout, hmode, hancestors, -⟩ := hcont
  rw [hd]
  obtain ⟨context', shape', eLayout', mode', ancestors', refCount', readers', data'⟩ := d
  cases hcontext
  cases hshape
  cases hlayout
  cases hmode
  cases hancestors
  cases hrefs
  cases hreaders
  cases hdata
  rfl

theorem after_create (h : Books base refs reads s) (ctx : Context σ α) (spec : Spec)
    (name : String) : Books base refs reads (outcome (create ctx spec name) s).2 := by
  obtain ⟨r, world, hr⟩ := Quiet.effect (ctx.create spec) s
  have h' : Books base refs reads { s with world := world } := h.congr rfl rfl rfl
  cases r with
  | error e =>
    rw [create, outcome_bind_error hr]
    exact h'
  | ok made =>
    obtain ⟨context, shape, compiled⟩ := made
    rw [outcome_create hr]
    exact (h'.push_root context shape compiled).after_assign name

theorem after_reference (h : Books base refs reads s) (name newName : String) :
    Books base refs reads (outcome (reference name newName) s).2 := by
  rw [reference]
  cases hn : s.handles.get? name with
  | none =>
    rw [outcome_bind_error (outcome_held_none hn)]
    exact h
  | some id =>
    obtain ⟨s', hs', h'⟩ := h.retain_of_handle hn
    rw [outcome_bind_ok (outcome_held hn), outcome_bind_ok hs']
    exact h'.after_assign newName

theorem after_derive (h : Books base refs reads s) (name : String) (mode : Mode)
    (newName : String) : Books base refs reads (outcome (derive name mode newName) s).2 := by
  cases hn : s.handles.get? name with
  | none =>
    rw [derive, outcome_bind_error (outcome_held_none hn)]
    exact h
  | some id =>
    obtain ⟨r, world, hr⟩ := Quiet.withCapability id mode.capability (fun _ => pure ()) s
    have h' : Books base refs reads { s with world := world } := h.congr rfl rfl rfl
    cases r with
    | error e =>
      rw [derive, outcome_bind_ok (outcome_held hn), outcome_bind_error hr]
      exact h'
    | ok _ =>
      obtain ⟨d, hd⟩ := exists_getElem? (h'.lt_of_handle hn)
      rw [outcome_derive hn hr hd]
      exact (h'.push_derived hn hd mode).after_assign newName

/-! ## Giving up handles -/

theorem after_destroy (h : Books base refs reads s) (name : String) :
    Books base refs reads (outcome (destroy name) s).2 := by
  rw [destroy, outcome_bind_ok (outcome_get s)]
  cases hn : s.handles.get? name with
  | none => exact h
  | some id =>
    obtain ⟨d, hd⟩ := exists_getElem? (h.lt_of_handle hn)
    obtain ⟨r, hr⟩ := Reads.blockedByReaders (id :: d.ancestors) s
    dsimp only
    rw [outcome_bind_ok (outcome_descriptor hd), outcome_bind, hr]
    cases r with
    | error e => exact h
    | ok blocked =>
      cases blocked with
      | true => exact h
      | false =>
        have herase := h.eraseHandle name
        rw [hn] at herase
        exact herase.after_release hd

theorem after_drop (h : Books base refs reads s) (name : String) :
    Books base refs reads (outcome (drop name) s).2 := by
  rw [drop]
  cases hn : s.handles.get? name with
  | none =>
    rw [outcome_bind_error (outcome_held_none hn)]
    exact h
  | some id =>
    have herase := h.eraseHandle name
    rw [hn] at herase
    rw [outcome_bind_ok (outcome_held hn), outcome_bind_ok (outcome_modify _ s)]
    exact herase.after_dropReference

/-- The reference that keeps the source alive becomes the new handle, or is dropped. -/
theorem after_referenceCopy (h : Books base refs reads s) (src : Option String) (dst : String) :
    Books base refs reads (outcome (referenceCopy src dst) s).2 := by
  rw [referenceCopy, outcome_bind_ok (outcome_get s)]
  cases hsrc : src.bind s.handles.get? with
  | none => exact h.after_destroy dst
  | some id =>
    obtain ⟨name, -, hn⟩ := Option.bind_eq_some_iff.1 hsrc
    obtain ⟨s', hs', h'⟩ := h.retain_of_handle hn
    have hdestroy := h'.after_destroy dst
    dsimp only
    rw [outcome_bind_ok hs', outcome_bind, outcome_tryCatch]
    rcases hd : outcome (destroy dst) s' with ⟨r, s''⟩
    rw [hd] at hdestroy
    cases r with
    | error e =>
      have hdrop := hdestroy.after_dropReference
      dsimp only
      rw [outcome_bind]
      rcases hs : outcome (dropReference id) s'' with ⟨r, s₃⟩
      rw [hs] at hdrop
      cases r <;> exact hdrop
    | ok _ =>
      have hput := hdestroy.putHandle dst
      rw [get?_of_destroy hd] at hput
      exact hput

/-! ## Views -/

/-- A descriptor that has references keeps those it is derived from alive, up to its root. -/
theorem exists_root (h : Books base refs reads s) (hd : s.table[id]? = some d) :
    ∃ r, s.table[d.root id]? = some r ∧ r.ancestors = [] ∧ d.Inherits r ∧
      (0 < d.refCount → 0 < r.refCount) := by
  unfold Descriptor.root
  generalize hanc : d.ancestors = chain
  induction chain generalizing id d with
  | nil => exact ⟨d, hd, hanc, .refl d, fun h => h⟩
  | cons p rest ih =>
    obtain ⟨-, dp, hp, hrest, hsame⟩ := h.parent id d p rest hd hanc
    obtain ⟨r, hr, hroot, hrs, hpos⟩ := ih hp hrest
    refine ⟨r, ?_, hroot, hsame.trans hrs, fun hd0 => hpos ?_⟩
    · rw [List.getLastD_cons]
      exact hr
    · have hchild := childrenOf_pos hd hd0 hanc
      rw [h.refCount p dp hp]
      omega

theorem after_giveBack {root : Nat} (h : Books base refs (root :: reads) s) :
    Books base refs reads (outcome (Session.giveBack root) s).2 := by
  obtain ⟨d, hd, -⟩ := h.reading root List.mem_cons_self
  rw [Session.giveBack, outcome_modifyDescriptor, modify_eq_replace hd]
  exact h.giveBack hd

/-- Taking an array counts a reader at the root. -/
theorem after_takeArray (h : Books base refs reads s) {name : String}
    (hn : s.handles.get? name = some id) (cap : Capability) (fetch : Compiled σ α → Effect σ β) :
    match outcome (takeArray id cap fetch) s with
    | (.ok (root, _), s') => Books base refs (root :: reads) s' ∧ s'.views = s.views
    | (.error _, s') => Books base refs reads s' := by
  obtain ⟨r, world, hr⟩ := Quiet.withCapability id cap fetch s
  have h' : Books base refs reads { s with world := world } := h.congr rfl rfl rfl
  cases r with
  | error e =>
    rw [outcome_takeArray_error hr]
    exact h'
  | ok b =>
    obtain ⟨d, hd⟩ := exists_getElem? (h'.lt_of_handle hn)
    obtain ⟨root, hroot, hanc, -⟩ := h'.exists_root hd
    rw [outcome_takeArray hr hd]
    refine ⟨?_, rfl⟩
    dsimp only
    rw [modify_eq_replace hroot]
    exact h'.lend hroot hanc

theorem after_checkout (h : Books base refs reads s) (name : String) (part : Part) (mem : MemKind)
    (viewName : String) :
    Books base refs reads (outcome (checkout name part mem viewName) s).2 := by
  rw [checkout]
  cases hn : s.handles.get? name with
  | none =>
    rw [outcome_bind_error (outcome_held_none hn)]
    exact h
  | some id =>
    have htake := h.after_takeArray hn part.capability (part.fetch mem)
    rw [outcome_bind_ok (outcome_held hn), outcome_bind]
    rcases hs : outcome (takeArray id part.capability (part.fetch mem)) s with ⟨r, s'⟩
    rw [hs] at htake
    cases r with
    | error e => exact htake
    | ok taken =>
      obtain ⟨root, content⟩ := taken
      have hput := putView (v := ⟨root, content⟩) htake.1 viewName
      dsimp only
      rw [outcome_bind_ok (outcome_get s'), outcome_bind_ok (outcome_modify _ s')]
      cases hold : s'.views.get? viewName with
      | none =>
        rw [hold] at hput
        exact hput
      | some old =>
        rw [hold] at hput
        exact hput.after_giveBack

theorem after_restore (h : Books base refs reads s) (viewName : String) :
    Books base refs reads (outcome (restore viewName) s).2 := by
  have herase := h.eraseView viewName
  rw [restore, Session.view]
  cases hv : s.views.get? viewName with
  | none =>
    rw [outcome_bind_error
      (by rw [outcome_bind_ok (outcome_get s), hv, outcome_throw])]
    exact h
  | some v =>
    rw [hv] at herase
    rw [outcome_bind_ok
      (by rw [outcome_bind_ok (outcome_get s), hv, outcome_pure]),
      outcome_bind_ok (outcome_modify _ s)]
    exact herase.after_giveBack

end Books

end GatherScatter.Session
