import GatherScatter.Session.Apply
import GatherScatter.Session.Handles

/-!
# Outcomes

Every operation gives an outcome: a result or a failure, and the session as it is then. What an
operation changed before it failed stays changed, so sequencing looks at the first outcome and goes
on from its session.

* `outcome_bind_ok`, `outcome_bind_error`: sequencing.
* `outcome_tryCatch`: catching a failure.
* One equation for each elementary operation.
-/
namespace GatherScatter

/-- Sequencing of computations of backends. -/
theorem Effect.run_bind {σ β γ : Type} (x : Effect σ β) (f : β → Effect σ γ) (world : σ) :
    (x >>= f).run.run world =
      match x.run.run world with
      | (.ok b, world') => (f b).run.run world'
      | (.error e, world') => (.error e, world') := by
  have hrun : (x >>= f).run.run world =
      (ExceptT.bindCont f (x.run.run world).1).run (x.run.run world).2 := rfl
  rw [hrun]
  rcases x.run.run world with ⟨r, world'⟩
  cases r <;> rfl

theorem Effect.run_ofExcept {σ β : Type} (r : Except Error β) (world : σ) :
    (Effect.ofExcept r : Effect σ β).run.run world = (r, world) := rfl

namespace Session

variable {σ α β γ : Type}

/-- Result of an operation, and the session that it leaves. -/
def outcome (x : Act σ α β) (s : Session σ α) : Except Failure β × Session σ α :=
  (x.run.run s).run

theorem outcome_bind (x : Act σ α β) (f : β → Act σ α γ) (s : Session σ α) :
    outcome (x >>= f) s =
      match outcome x s with
      | (.ok b, s') => outcome (f b) s'
      | (.error e, s') => (.error e, s') := by
  change (match (x.run.run s).run with
    | (r, s') => ((ExceptT.bindCont f r).run s').run) = _
  rw [outcome]
  rcases (x.run.run s).run with ⟨r, s'⟩
  cases r <;> rfl

theorem outcome_bind_ok {x : Act σ α β} {f : β → Act σ α γ} {s s' : Session σ α} {b : β}
    (h : outcome x s = (.ok b, s')) : outcome (x >>= f) s = outcome (f b) s' := by
  rw [outcome_bind, h]

theorem outcome_bind_error {x : Act σ α β} {f : β → Act σ α γ} {s s' : Session σ α} {e : Failure}
    (h : outcome x s = (.error e, s')) : outcome (x >>= f) s = (.error e, s') := by
  rw [outcome_bind, h]

/-- Going on from the outcome of an operation, whatever it is. -/
theorem run_bind_outcome {x : Act σ α β} {s s' : Session σ α} {r : Except Failure β}
    (h : outcome x s = (r, s')) (f : Except Failure β → StateM (Session σ α) γ) :
    ((x.run >>= f).run s).run = ((f r).run s').run := by
  have hrun : ((x.run >>= f).run s).run = ((f (outcome x s).1).run (outcome x s).2).run := rfl
  rw [hrun, h]

@[simp]
theorem outcome_pure (b : β) (s : Session σ α) :
    outcome (pure b : Act σ α β) s = (.ok b, s) := rfl

@[simp]
theorem outcome_throw (e : Failure) (s : Session σ α) :
    outcome (throw e : Act σ α β) s = (.error e, s) := rfl

@[simp]
theorem outcome_fail (e : Error) (s : Session σ α) :
    outcome (fail e : Act σ α β) s = (.error (.error e), s) := rfl

@[simp]
theorem outcome_get (s : Session σ α) : outcome (get : Act σ α _) s = (.ok s, s) := rfl

@[simp]
theorem outcome_set (s s' : Session σ α) :
    outcome (set s' : Act σ α Unit) s = (.ok (), s') := rfl

@[simp]
theorem outcome_modify (f : Session σ α → Session σ α) (s : Session σ α) :
    outcome (modify f : Act σ α Unit) s = (.ok (), f s) := rfl

theorem outcome_tryCatch (x : Act σ α β) (h : Failure → Act σ α β) (s : Session σ α) :
    outcome (tryCatch x h) s =
      match outcome x s with
      | (.ok b, s') => (.ok b, s')
      | (.error e, s') => outcome (h e) s' := by
  have hx : outcome (tryCatch x h) s = (((ExceptT.tryCatch x h).run).run s).run := rfl
  have hrun : outcome x s = (StateT.run x s).run := rfl
  rw [hx, hrun, ExceptT.tryCatch, ExceptT.run_mk, StateT.run_bind, Id.run_bind]
  rcases (StateT.run x s).run with ⟨r, s'⟩
  cases r <;> rfl

/-- A failure kept silent leaves the session as it was when the operation failed. -/
theorem outcome_silently (x : Act σ α Unit) (s : Session σ α) :
    outcome (silently x) s = (.ok (), (outcome x s).2) := by
  rw [silently, outcome_tryCatch]
  rcases outcome x s with ⟨r, s'⟩
  cases r <;> rfl

/-- A loop whose steps succeed under an invariant and leave the session alone is the fold of their
results. -/
theorem outcome_foldlM {ι : Type} {f : β → ι → Act σ α β} {g : β → ι → β} (P : β → Prop)
    {s : Session σ α} {l : List ι}
    (h : ∀ x ∈ l, ∀ b, P b → outcome (f b x) s = (.ok (g b x), s) ∧ P (g b x)) {b : β} (hb : P b) :
    outcome (l.foldlM f b) s = (.ok (l.foldl g b), s) := by
  induction l generalizing b with
  | nil => rfl
  | cons x l ih =>
    obtain ⟨hx, hg⟩ := h x List.mem_cons_self b hb
    rw [List.foldlM_cons, outcome_bind_ok hx, List.foldl_cons]
    exact ih (fun y hy => h y (List.mem_cons_of_mem x hy)) hg

/-! ## Elementary operations -/

/-- A failure of the domain as the failure of an operation. -/
def lift : Except Error β → Except Failure β
  | .ok b => .ok b
  | .error e => .error (.error e)

theorem outcome_ofExcept (r : Except Error β) (s : Session σ α) :
    outcome (ofExcept r : Act σ α β) s = (lift r, s) := by
  cases r <;> rfl

theorem outcome_effect (x : Effect σ β) (s : Session σ α) :
    outcome (effect x : Act σ α β) s =
      (lift (x.run.run s.world).1, { s with world := (x.run.run s.world).2 }) := by
  rw [effect, outcome_bind_ok (outcome_get s)]
  rcases hx : x.run.run s.world with ⟨r, world⟩
  dsimp only
  rw [outcome_bind_ok (outcome_set s { s with world := world }), outcome_ofExcept]

theorem outcome_effect_ofExcept (r : Except Error β) (s : Session σ α) :
    outcome (effect (.ofExcept r) : Act σ α β) s = (lift r, s) := outcome_effect _ s

theorem outcome_held {name : String} {id : Nat} {s : Session σ α}
    (h : s.handles.get? name = some id) : outcome (held name) s = (.ok id, s) := by
  rw [held, outcome_bind_ok (outcome_get s), h, outcome_pure]

theorem outcome_held_none {name : String} {s : Session σ α} (h : s.handles.get? name = none) :
    outcome (held name) s = (.error .emptySlot, s) := by
  rw [held, outcome_bind_ok (outcome_get s), h, outcome_throw]

theorem outcome_descriptor {id : Nat} {d : Descriptor σ α} {s : Session σ α}
    (h : s.table[id]? = some d) : outcome (descriptor id) s = (.ok d, s) := by
  rw [descriptor, outcome_bind_ok (outcome_get s), h, outcome_pure]

theorem outcome_descriptor_none {id : Nat} {s : Session σ α} (h : s.table[id]? = none) :
    outcome (descriptor id) s = (.error .emptySlot, s) := by
  rw [descriptor, outcome_bind_ok (outcome_get s), h, outcome_throw]

theorem outcome_modifyDescriptor (id : Nat) (f : Descriptor σ α → Descriptor σ α)
    (s : Session σ α) :
    outcome (modifyDescriptor id f) s = (.ok (), { s with table := s.table.modify id f }) := rfl

theorem outcome_addDescriptor (d : Descriptor σ α) (s : Session σ α) :
    outcome (addDescriptor d) s = (.ok s.table.size, { s with table := s.table.push d }) := rfl

/-- A hook runs on the data of the root. -/
theorem outcome_withData {id : Nat} {d r : Descriptor σ α} {c : Compiled σ α} {s : Session σ α}
    (hd : s.table[id]? = some d) (hr : s.table[d.root id]? = some r) (hc : r.data = some c)
    (f : Compiled σ α → Effect σ β) :
    outcome (withData id f) s = outcome (effect (f c)) s := by
  rw [withData, outcome_bind_ok (outcome_descriptor hd), outcome_bind_ok (outcome_descriptor hr),
    hc]

end Session

end GatherScatter
