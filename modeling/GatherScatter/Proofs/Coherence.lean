import GatherScatter.Proofs.Creation.Coherent
import GatherScatter.Proofs.Hooks.Journal
import GatherScatter.Proofs.Session.Run

/-!
# Handles keep the shapes of requests

A shape enters the table when a request was accepted, or with a descriptor that is derived from one
that is there. No operation changes it, also not when it fails or gives up data. So whatever was
called before, a handle leads to a descriptor with the shape of an accepted request, which is the
shape of its root.

* `Shaped`: every descriptor has the shape of an accepted request.
* `Upholds`: an operation that leaves a session so, with one line for each operation.
* `Shaped.after_call`, `Shaped.after_run`: the step and the run.
* `handles_are_valid`: what is true of every handle in every reachable state.
-/
namespace GatherScatter

/-- The shape of an accepted request. -/
def Shape.IsPlanned (s : Shape) : Prop := ∃ spec data, Spec.plan spec = .ok (s, data)

namespace Context

variable {σ α : Type}

/-- What is created has the shape that was planned. -/
theorem isPlanned_of_create {ctx target : Context σ α} {spec : Spec} {shape : Shape}
    {compiled : Compiled σ α} {world world' : σ}
    (h : (ctx.create spec).run.run world = (.ok (target, shape, compiled), world')) :
    shape.IsPlanned := by
  cases hresolve : ctx.resolve spec.construction.capability with
  | error e =>
    rw [create, hresolve] at h
    cases h
  | ok first =>
    cases hplan : spec.plan with
    | error e =>
      rw [create_eq hresolve, hplan] at h
      cases h
    | ok planned =>
      obtain ⟨shape', data⟩ := planned
      rw [run_create hresolve hplan] at h
      rcases hhook : (first.head.backend.create spec.construction first.config shape' data).run.run
        world with ⟨r, world₁⟩
      rw [hhook] at h
      cases r with
      | error e => cases h
      | ok c =>
        cases h
        exact ⟨spec, data, hplan⟩

end Context

namespace Session

variable {σ α β γ : Type}

/-- Every descriptor has the shape of an accepted request. -/
def Shaped (s : Session σ α) : Prop :=
  ∀ (id : Nat) (d : Descriptor σ α), s.table[id]? = some d → d.shape.IsPlanned

/-- Whether it succeeds or fails, the operation leaves all descriptors with shapes of accepted
requests. -/
def Upholds (x : Act σ α β) : Prop := ∀ s, s.Shaped → (outcome x s).2.Shaped

namespace Upholds

theorem bind {x : Act σ α β} {f : β → Act σ α γ} (hx : Upholds x) (hf : ∀ b, Upholds (f b)) :
    Upholds (x >>= f) := by
  intro s hs
  have hs' := hx s hs
  rw [outcome_bind]
  rcases hr : outcome x s with ⟨r, s'⟩
  rw [hr] at hs'
  cases r with
  | error e => exact hs'
  | ok b => exact hf b s' hs'

theorem tryCatch {x : Act σ α β} {h : Failure → Act σ α β} (hx : Upholds x)
    (hh : ∀ e, Upholds (h e)) : Upholds (tryCatch x h) := by
  intro s hs
  have hs' := hx s hs
  rw [outcome_tryCatch]
  rcases hr : outcome x s with ⟨r, s'⟩
  rw [hr] at hs'
  cases r with
  | error e => exact hh e s' hs'
  | ok b => exact hs'

/-- The backends have no part in shapes. -/
theorem quiet {x : Act σ α β} (hx : Quiet x) : Upholds x := by
  intro s hs
  obtain ⟨r, world, hr⟩ := hx s
  rw [hr]
  exact hs

theorem reads {x : Act σ α β} (hx : Reads x) : Upholds x := quiet hx.quiet

theorem pure (b : β) : Upholds (pure b : Act σ α β) := reads (Reads.pure b)

theorem get : Upholds (get : Act σ α (Session σ α)) := fun _ hs => hs

theorem setHandles (h : Session σ α → Slots Nat) :
    Upholds (modify fun s => { s with handles := h s } : Act σ α Unit) := fun _ hs => hs

theorem setViews (v : Session σ α → Slots ArrayView) :
    Upholds (modify fun s => { s with views := v s } : Act σ α Unit) := fun _ hs => hs

/-- A descriptor that is looked up has the shape of an accepted request. -/
theorem descriptor_bind {id : Nat} {f : Descriptor σ α → Act σ α β}
    (hf : ∀ d, d.shape.IsPlanned → Upholds (f d)) : Upholds (descriptor id >>= f) := by
  intro s hs
  cases hd : s.table[id]? with
  | none =>
    rw [outcome_bind_error (outcome_descriptor_none hd)]
    exact hs
  | some d =>
    rw [outcome_bind_ok (outcome_descriptor hd)]
    exact hf d (hs id d hd) s hs

/-- So has one that is created. -/
theorem create_bind {ctx : Context σ α} {spec : Spec}
    {f : Context σ α × Shape × Compiled σ α → Act σ α β}
    (hf : ∀ made, made.2.1.IsPlanned → Upholds (f made)) :
    Upholds (effect (ctx.create spec) >>= f) := by
  intro s hs
  rw [outcome_bind, outcome_effect]
  rcases hrun : (ctx.create spec).run.run s.world with ⟨r, world⟩
  cases r with
  | error e => exact hs
  | ok made => exact hf made (Context.isPlanned_of_create hrun) { s with world := world } hs

theorem modifyDescriptor (id : Nat) (f : Descriptor σ α → Descriptor σ α)
    (hf : ∀ d, (f d).shape = d.shape) : Upholds (modifyDescriptor id f) := by
  intro s hs j d hd
  rw [outcome_modifyDescriptor] at hd
  dsimp only at hd
  rw [Array.getElem?_modify] at hd
  split at hd
  · obtain ⟨d', hd', rfl⟩ := Option.map_eq_some_iff.1 hd
    rw [hf]
    exact hs j d' hd'
  · exact hs j d hd

theorem addDescriptor (d : Descriptor σ α) (hd : d.shape.IsPlanned) :
    Upholds (addDescriptor d) := by
  intro s hs j d' hd'
  rw [outcome_addDescriptor] at hd'
  dsimp only at hd'
  rw [Array.getElem?_push] at hd'
  split at hd'
  · cases hd'
    exact hd
  · exact hs j d' hd'

/-! ## Operations -/

theorem retain (id : Nat) : Upholds (retain id : Act σ α Unit) :=
  modifyDescriptor id _ fun _ => rfl

theorem giveBack (root : Nat) : Upholds (giveBack root : Act σ α Unit) :=
  modifyDescriptor root _ fun _ => rfl

theorem releaseData (id : Nat) : Upholds (releaseData id : Act σ α Unit) := by
  refine descriptor_bind fun d _ => ?_
  cases d.data with
  | none => exact pure ()
  | some c =>
    refine bind (modifyDescriptor id _ fun _ => rfl) fun _ => ?_
    split
    · exact quiet (Quiet.effect _)
    · exact pure ()

theorem release (chain : List Nat) : Upholds (release chain : Act σ α Unit) := by
  induction chain with
  | nil => exact pure ()
  | cons id ancestors ih =>
    refine bind (modifyDescriptor id _ fun _ => rfl) fun _ => descriptor_bind fun d _ => ?_
    split
    · exact (releaseData id).bind fun _ => ih
    · exact pure ()

theorem dropReference (id : Nat) : Upholds (dropReference id : Act σ α Unit) :=
  tryCatch (descriptor_bind fun _ _ => release _) fun _ => pure ()

theorem assign (name : String) (id : Nat) : Upholds (assign name id : Act σ α Unit) := by
  refine get.bind fun s => (setHandles _).bind fun _ => ?_
  split
  · exact dropReference _
  · exact pure ()

theorem create (ctx : Context σ α) (spec : Spec) (name : String) :
    Upholds (create ctx spec name) :=
  create_bind fun _ hmade => bind (addDescriptor _ hmade) fun id =>
    (assign name id).bind fun _ => pure id

theorem reference (name newName : String) : Upholds (reference name newName : Act σ α Unit) :=
  (reads (Reads.held name)).bind fun id => (retain id).bind fun _ => assign newName id

theorem derive (name : String) (mode : Mode) (newName : String) :
    Upholds (derive name mode newName : Act σ α Unit) :=
  (reads (Reads.held name)).bind fun id =>
    (quiet (Quiet.withCapability id _ _)).bind fun _ =>
      descriptor_bind fun _ hd => bind (addDescriptor _ hd) fun newId =>
        (retain id).bind fun _ => assign newName newId

theorem destroy (name : String) : Upholds (destroy name : Act σ α Unit) := by
  refine get.bind fun s => ?_
  split
  · exact pure ()
  · refine descriptor_bind fun d _ => (reads (Reads.blockedByReaders _)).bind fun blocked => ?_
    split
    · exact (reads (Reads.fail _)).bind fun _ => (setHandles _).bind fun _ => release _
    · exact (setHandles _).bind fun _ => release _

theorem referenceCopy (src : Option String) (dst : String) :
    Upholds (referenceCopy src dst : Act σ α Unit) := by
  refine get.bind fun s => ?_
  split
  · exact destroy dst
  · refine (retain _).bind fun _ => ?_
    refine (tryCatch (destroy dst) fun e => ?_).bind fun _ => setHandles _
    exact (dropReference _).bind fun _ => fun _ hs => hs

theorem drop (name : String) : Upholds (drop name : Act σ α Unit) :=
  (reads (Reads.held name)).bind fun id => (setHandles _).bind fun _ => dropReference id

theorem checkout (name : String) (part : Part) (mem : MemKind) (viewName : String) :
    Upholds (checkout name part mem viewName : Act σ α ArrayView) := by
  refine (reads (Reads.held name)).bind fun id => bind ?_ fun taken => get.bind fun s =>
    (setViews _).bind fun _ => ?_
  · exact (quiet (Quiet.withCapability id _ _)).bind fun _ => descriptor_bind fun d _ =>
      bind (modifyDescriptor _ _ fun _ => rfl) fun _ => pure _
  · split
    · exact (giveBack _).bind fun _ => pure _
    · exact pure _

theorem restore (viewName : String) : Upholds (restore viewName : Act σ α Unit) := by
  have hview : Upholds (view viewName : Act σ α ArrayView) := by
    refine get.bind fun s => ?_
    split
    · exact pure _
    · exact fun _ hs => hs
  exact hview.bind fun v => (setViews _).bind fun _ => giveBack v.root

end Upholds

/-! ## Runs -/

namespace Shaped

variable [IntCast α] {s : Session σ α}

theorem after_call (h : s.Shaped) (c : Call σ α) : (s.after c).Shaped := by
  cases c with
  | register e =>
    obtain ⟨r, registry, hr⟩ := outcome_register e s
    rw [after, hr]
    exact h
  | openContext limit config =>
    obtain ⟨r, world, serial, hr⟩ := outcome_openContext limit config s
    rw [after, hr]
    exact h
  | create ctx spec name => exact Upholds.create ctx spec name s h
  | reference name newName => exact Upholds.reference name newName s h
  | referenceCopy src dst => exact Upholds.referenceCopy src dst s h
  | derive name mode newName => exact Upholds.derive name mode newName s h
  | destroy name => exact Upholds.destroy name s h
  | drop name => exact Upholds.drop name s h
  | checkout name part mem viewName => exact Upholds.checkout name part mem viewName s h
  | restore viewName => exact Upholds.restore viewName s h
  | pointsInElement name elem => exact Upholds.quiet (.pointsInElement name elem) s h
  | maxPoints name => exact Upholds.quiet (.maxPoints name) s h
  | apply name d u v => exact Upholds.quiet (.apply name d u v) s h
  | applyBlock name block d u v => exact Upholds.quiet (.applyBlock name block d u v) s h
  | applyAtPoints name elem d u v => exact Upholds.quiet (.applyAtPoints name elem d u v) s h
  | multiplicity name v =>
    obtain ⟨world, hw⟩ := quiet_multiplicity name v s
    rw [after, hw]
    exact h

theorem after_run (h : s.Shaped) (calls : List (Call σ α)) : (s.run calls).Shaped := by
  induction calls generalizing s with
  | nil => exact h
  | cons c calls ih => exact ih (h.after_call c)

end Shaped

/-- However a session got where it is, what a handle leads to passes the library's own check and has
references. Its sizes fit together and were computed inside the index range, and it has the shape
of the root whose data it uses, however many descriptors are in between. -/
theorem handles_are_valid [IntCast α] (registry : Registry σ α) (world : σ)
    (calls : List (Call σ α)) :
    let s := (start registry world).run calls
    ∀ name id, s.handles.get? name = some id → ∃ d r : Descriptor σ α,
      outcome (restriction name) s = (.ok d, s) ∧ s.table[id]? = some d ∧
        d.validate = .ok () ∧ d.shape.Coherent ∧ 1 ≤ d.refCount ∧
        s.table[d.root id]? = some r ∧ r.ancestors = [] ∧ d.shape = r.shape := by
  intro s name id hn
  have hb : Books (start registry world) [] [] s := (books_start registry world).after_run calls
  have hshaped : s.Shaped :=
    Shaped.after_run (s := start registry world) (fun id d hd => by simp [start] at hd) calls
  obtain ⟨d, hd⟩ := exists_getElem? (hb.lt_of_handle hn)
  obtain ⟨r, hr, hroot, hsame, -⟩ := hb.exists_root hd
  obtain ⟨spec, data, hplan⟩ := hshaped id d hd
  have hcoherent := Spec.coherent_of_plan hplan
  have hpos : 1 ≤ d.refCount := hb.refCount_pos_of_handle hn hd
  refine ⟨d, r, ?_, hd, hcoherent.validate_eq hpos, hcoherent, hpos, hr, hroot, hsame.shape⟩
  rw [restriction, outcome_bind_ok (outcome_held hn), outcome_descriptor hd]

end Session

end GatherScatter
