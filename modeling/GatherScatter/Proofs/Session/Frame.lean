import GatherScatter.Proofs.Session.Queries

/-!
# What operations leave alone

Releasing descriptors touches the table and the backends, never the slots; operations on handles
touch neither the views nor the registry.

* `Keeps`: an operation that leaves a part of the session alone.
* `Keeps.release`: releasing leaves the slots alone.
* `Keeps.assign`, `size_assign`: so does filling a slot, but for the handles; the table stays as
  long as it is.
* `Keeps.create`, `Keeps.reference` and so on: operations on handles leave alone what is `Beside`
  the table and the handles.
* `get?_of_destroy`: after a handle was destroyed, its slot is empty.
-/
namespace GatherScatter.Session

variable {σ α β γ δ : Type}

/-- The operation leaves the part of the session that `g` shows alone. -/
def Keeps (g : Session σ α → δ) (x : Act σ α β) : Prop := ∀ s, g (outcome x s).2 = g s

/-- The part of the session that `g` shows has to do neither with what is in the table nor with the
state of the backends. -/
def Apart (g : Session σ α → δ) : Prop :=
  ∀ (s : Session σ α) table world, table.size = s.table.size →
    g { s with table := table, world := world } = g s

/-- The part of the session that `g` shows has nothing to do with the table, the handles and the
state of the backends. -/
def Beside (g : Session σ α → δ) : Prop :=
  ∀ (s : Session σ α) table handles world,
    g { s with table := table, handles := handles, world := world } = g s

namespace Beside

variable {g : Session σ α → δ}

theorem apart (hg : Beside g) : Apart g := fun s table world _ => hg s table s.handles world

theorem handles (hg : Beside g) (s : Session σ α) (handles : Slots Nat) :
    g { s with handles := handles } = g s := hg s s.table handles s.world

end Beside

namespace Keeps

variable {g : Session σ α → δ}

theorem bind {x : Act σ α β} {f : β → Act σ α γ} (hx : Keeps g x) (hf : ∀ b, Keeps g (f b)) :
    Keeps g (x >>= f) := by
  intro s
  have h := hx s
  rw [outcome_bind]
  rcases hs : outcome x s with ⟨r, s'⟩
  rw [hs] at h
  cases r with
  | error e => exact h
  | ok b => exact (hf b s').trans h

theorem quiet {x : Act σ α β} (hg : Apart g) (hx : Quiet x) : Keeps g x := by
  intro s
  obtain ⟨r, world, hr⟩ := hx s
  rw [hr]
  exact hg s s.table world rfl

theorem reads {x : Act σ α β} (hx : Reads x) : Keeps g x := by
  intro s
  obtain ⟨r, hr⟩ := hx s
  rw [hr]

theorem pure (b : β) : Keeps g (pure b : Act σ α β) := fun _ => rfl

theorem get : Keeps g (get : Act σ α (Session σ α)) := fun _ => rfl

theorem setHandles (hg : Beside g) (h : Session σ α → Slots Nat) :
    Keeps g (modify fun s => { s with handles := h s } : Act σ α Unit) := fun s => hg.handles s _

theorem tryCatch {x : Act σ α β} {h : Failure → Act σ α β} (hx : Keeps g x)
    (hh : ∀ e, Keeps g (h e)) : Keeps g (tryCatch x h) := by
  intro s
  have hs := hx s
  rw [outcome_tryCatch]
  rcases hr : outcome x s with ⟨r, s'⟩
  rw [hr] at hs
  cases r with
  | error e => exact (hh e s').trans hs
  | ok b => exact hs

theorem modifyDescriptor (hg : Apart g) (id : Nat) (f : Descriptor σ α → Descriptor σ α) :
    Keeps g (modifyDescriptor id f) := fun s => hg s _ s.world Array.size_modify

theorem addDescriptor (hg : Beside g) (d : Descriptor σ α) : Keeps g (addDescriptor d) :=
  fun s => hg s (s.table.push d) s.handles s.world

theorem releaseData (hg : Apart g) (id : Nat) : Keeps g (releaseData id) := by
  refine (reads (Reads.descriptor id)).bind fun d => ?_
  cases d.data with
  | none => exact pure ()
  | some c =>
    refine (modifyDescriptor hg id _).bind fun _ => ?_
    split
    · exact quiet hg (Quiet.effect _)
    · exact pure ()

theorem release (hg : Apart g) (chain : List Nat) : Keeps g (release chain) := by
  induction chain with
  | nil => exact pure ()
  | cons id ancestors ih =>
    refine (modifyDescriptor hg id _).bind fun _ => (reads (Reads.descriptor id)).bind fun d => ?_
    split
    · exact (releaseData hg id).bind fun _ => ih
    · exact pure ()

theorem dropReference (hg : Apart g) (id : Nat) : Keeps g (dropReference id) :=
  ((reads (Reads.descriptor id)).bind fun _ => release hg _).tryCatch fun _ => pure ()

theorem assign (hg : Apart g) (hh : ∀ (s : Session σ α) handles, g { s with handles := handles } =
    g s) (name : String) (id : Nat) : Keeps g (assign name id) := by
  refine get.bind fun s => bind (fun s' => hh s' _) fun _ => ?_
  split
  · exact dropReference hg _
  · exact pure ()

end Keeps

theorem apart_handles : Apart (Session.handles : Session σ α → _) := fun _ _ _ _ => rfl

theorem beside_views : Beside (Session.views : Session σ α → _) := fun _ _ _ _ => rfl

theorem beside_registry : Beside (Session.registry : Session σ α → _) := fun _ _ _ _ => rfl

/-- Filling a handle slot adds no descriptor and takes none away. -/
theorem size_assign (name : String) (id : Nat) (s : Session σ α) :
    (outcome (assign name id) s).2.table.size = s.table.size :=
  Keeps.assign (g := fun s => s.table.size) (fun _ _ _ h => h) (fun _ _ => rfl) name id s

/-! ## Operations on handles -/

namespace Keeps

variable {g : Session σ α → δ}

/-- Filling a handle slot leaves alone what is beside the table and the handles. -/
theorem assign_beside (hg : Beside g) (name : String) (id : Nat) :
    Keeps g (Session.assign name id) :=
  assign hg.apart hg.handles name id

theorem create (hg : Beside g) (ctx : Context σ α) (spec : Spec) (name : String) :
    Keeps g (create ctx spec name) :=
  (quiet hg.apart (Quiet.effect _)).bind fun _ => (addDescriptor hg _).bind fun _ =>
    (assign_beside hg name _).bind fun _ => pure _

theorem reference (hg : Beside g) (name newName : String) : Keeps g (reference name newName) :=
  (reads (Reads.held name)).bind fun id => (modifyDescriptor hg.apart id _).bind fun _ =>
    assign_beside hg newName id

theorem derive (hg : Beside g) (name : String) (mode : Mode) (newName : String) :
    Keeps g (derive name mode newName) :=
  (reads (Reads.held name)).bind fun id =>
    (quiet hg.apart (Quiet.withCapability id _ _)).bind fun _ =>
      (reads (Reads.descriptor id)).bind fun _ => (addDescriptor hg _).bind fun _ =>
        (modifyDescriptor hg.apart id _).bind fun _ => assign_beside hg newName _

theorem destroy (hg : Beside g) (name : String) : Keeps g (destroy name) := by
  refine get.bind fun s => ?_
  split
  · exact pure ()
  · refine (reads (Reads.descriptor _)).bind fun d => (reads (Reads.blockedByReaders _)).bind
      fun blocked => ?_
    split
    · exact (reads (Reads.fail _)).bind fun _ => (setHandles hg _).bind fun _ =>
        release hg.apart _
    · exact (setHandles hg _).bind fun _ => release hg.apart _

theorem referenceCopy (hg : Beside g) (src : Option String) (dst : String) :
    Keeps g (referenceCopy src dst) := by
  refine get.bind fun s => ?_
  split
  · exact destroy hg dst
  · refine (modifyDescriptor hg.apart _ _).bind fun _ => ?_
    refine (tryCatch (destroy hg dst) fun _ => ?_).bind fun _ => setHandles hg _
    exact (dropReference hg.apart _).bind fun _ => fun _ => rfl

theorem drop (hg : Beside g) (name : String) : Keeps g (drop name) :=
  (reads (Reads.held name)).bind fun _ => (setHandles hg _).bind fun _ =>
    dropReference hg.apart _

end Keeps

/-- After a handle was destroyed, its slot is empty. -/
theorem get?_of_destroy {s s' : Session σ α} {name : String}
    (h : outcome (destroy name) s = (.ok (), s')) : s'.handles.get? name = none := by
  rw [destroy, outcome_bind_ok (outcome_get s)] at h
  cases hn : s.handles.get? name with
  | none =>
    rw [hn] at h
    cases h
    exact hn
  | some id =>
    rw [hn] at h
    dsimp only at h
    obtain ⟨r, hr⟩ := Reads.descriptor (σ := σ) (α := α) id s
    rw [outcome_bind, hr] at h
    cases r with
    | error e => cases h
    | ok d =>
      obtain ⟨r, hr⟩ := Reads.blockedByReaders (σ := σ) (α := α) (id :: d.ancestors) s
      dsimp only at h
      rw [outcome_bind, hr] at h
      cases r with
      | error e => cases h
      | ok blocked =>
        cases blocked with
        | true => cases h
        | false =>
          have hslots := Keeps.release apart_handles (id :: d.ancestors)
            { s with handles := s.handles.erase name }
          have hs' : (outcome (release (id :: d.ancestors))
              { s with handles := s.handles.erase name }).2 = s' := congrArg Prod.snd h
          rw [← hs', hslots, Slots.get?_erase, if_pos rfl]

end GatherScatter.Session
