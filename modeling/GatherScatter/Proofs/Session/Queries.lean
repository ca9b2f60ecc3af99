import GatherScatter.Proofs.Session.Outcome

/-!
# Operations that only ask

Queries and applies leave the table and all slots as they were, whether they succeed or fail: they
run hooks, which change the state of the backends at most. Queries about single elements check the
offsets out and give them back, so the reader that they add is gone at the end.

* `Reads`: an operation that changes nothing.
* `Quiet`: an operation that changes the state of the backends at most.
* `Quiet.pointsInElement`, `Quiet.maxPoints`, `Quiet.apply`, `Quiet.applyBlock`,
  `Quiet.applyAtPoints`, `quiet_multiplicity`.
-/
namespace GatherScatter.Session

variable {σ α β γ : Type}

/-- The operation changes nothing. -/
def Reads (x : Act σ α β) : Prop := ∀ s, ∃ r, outcome x s = (r, s)

/-- Whatever its result is, the operation changes the state of the backends at most. -/
def Quiet (x : Act σ α β) : Prop := ∀ s, ∃ r world, outcome x s = (r, { s with world := world })

namespace Reads

theorem quiet {x : Act σ α β} (h : Reads x) : Quiet x := by
  intro s
  obtain ⟨r, hr⟩ := h s
  exact ⟨r, s.world, hr⟩

theorem bind {x : Act σ α β} {f : β → Act σ α γ} (hx : Reads x) (hf : ∀ b, Reads (f b)) :
    Reads (x >>= f) := by
  intro s
  obtain ⟨r, hr⟩ := hx s
  rw [outcome_bind, hr]
  cases r with
  | error e => exact ⟨_, rfl⟩
  | ok b => exact hf b s

theorem ite {p : Prop} [Decidable p] {x y : Act σ α β} (hx : Reads x) (hy : Reads y) :
    Reads (if p then x else y) := by
  split
  · exact hx
  · exact hy

theorem pure (b : β) : Reads (pure b : Act σ α β) := fun _ => ⟨_, rfl⟩

theorem fail (e : Error) : Reads (fail e : Act σ α β) := fun _ => ⟨_, rfl⟩

theorem ofExcept (r : Except Error β) : Reads (ofExcept r : Act σ α β) :=
  fun s => ⟨_, outcome_ofExcept r s⟩

theorem held (name : String) : Reads (held name : Act σ α Nat) := by
  intro s
  cases h : s.handles.get? name with
  | none => exact ⟨_, outcome_held_none h⟩
  | some id => exact ⟨_, outcome_held h⟩

theorem descriptor (id : Nat) : Reads (descriptor id : Act σ α (Descriptor σ α)) := by
  intro s
  rw [Session.descriptor, outcome_bind_ok (outcome_get s)]
  cases s.table[id]? <;> exact ⟨_, rfl⟩

theorem blockedByReaders (chain : List Nat) : Reads (blockedByReaders chain : Act σ α Bool) := by
  fun_induction Session.blockedByReaders chain with
  | case1 => exact pure _
  | case2 root => exact (descriptor root).bind fun _ => pure _
  | case3 id ancestors _ ih => exact (descriptor id).bind fun _ => ite (pure _) ih

end Reads

namespace Quiet

theorem bind {x : Act σ α β} {f : β → Act σ α γ} (hx : Quiet x) (hf : ∀ b, Quiet (f b)) :
    Quiet (x >>= f) := by
  intro s
  obtain ⟨r, world, hr⟩ := hx s
  rw [outcome_bind, hr]
  cases r with
  | error e => exact ⟨_, _, rfl⟩
  | ok b => exact hf b _

theorem ite {p : Prop} [Decidable p] {x y : Act σ α β} (hx : Quiet x) (hy : Quiet y) :
    Quiet (if p then x else y) := by
  split
  · exact hx
  · exact hy

theorem effect (x : Effect σ β) : Quiet (effect x : Act σ α β) :=
  fun s => ⟨_, _, outcome_effect x s⟩

theorem withData (id : Nat) (f : Compiled σ α → Effect σ β) : Quiet (withData id f) := by
  refine (Reads.descriptor id).quiet.bind fun d => (Reads.descriptor _).quiet.bind fun r => ?_
  cases r.data with
  | none => exact (Reads.fail _).quiet
  | some c => exact effect _

theorem withCapability (id : Nat) (cap : Capability) (f : Compiled σ α → Effect σ β) :
    Quiet (withCapability id cap f) := withData id _

end Quiet

/-! ## Asking the offsets -/

theorem outcome_takeArray {s s' : Session σ α} {id : Nat} {cap : Capability}
    {fetch : Compiled σ α → Effect σ β} {b : β} {d : Descriptor σ α}
    (h : outcome (withCapability id cap fetch) s = (.ok b, s')) (hd : s'.table[id]? = some d) :
    outcome (takeArray id cap fetch) s = (.ok (d.root id, b), { s' with
      table := s'.table.modify (d.root id) fun d => { d with readers := d.readers + 1 } }) := by
  rw [takeArray, outcome_bind_ok h, outcome_bind_ok (outcome_descriptor hd)]
  rfl

theorem outcome_takeArray_error {s s' : Session σ α} {id : Nat} {cap : Capability}
    {fetch : Compiled σ α → Effect σ β} {e : Failure}
    (h : outcome (withCapability id cap fetch) s = (.error e, s')) :
    outcome (takeArray id cap fetch) s = (.error e, s') := by
  rw [takeArray, outcome_bind_error h]

/-- What is taken and given back at once is not missed. -/
theorem modify_modify_readers (s : Session σ α) (root : Nat) :
    (s.table.modify root fun d => { d with readers := d.readers + 1 }).modify root
      (fun d => { d with readers := d.readers - 1 }) = s.table := by
  apply Array.ext_getElem?
  intro j
  rw [Array.getElem?_modify, Array.getElem?_modify]
  split
  · cases s.table[j]? <;> rfl
  · rfl

/-- Asking the offsets leaves the session as the hook leaves it. -/
theorem outcome_withOffsets {s s' : Session σ α} {id : Nat} {offsets : Array Int}
    {d : Descriptor σ α} (h : outcome (withCapability id .getOffsets fun c => c.offsets .host) s =
      (.ok offsets, s')) (hd : s'.table[id]? = some d) (f : Array Int → Except Error β) :
    outcome (withOffsets id f) s = (lift (f offsets), s') := by
  rw [withOffsets, outcome_bind_ok (outcome_takeArray h hd)]
  dsimp only
  rw [giveBack, outcome_bind_ok (outcome_modifyDescriptor _ _ _), outcome_ofExcept]
  dsimp only
  rw [modify_modify_readers]

namespace Quiet

theorem withOffsets (id : Nat) (f : Array Int → Except Error β) :
    Quiet (withOffsets id f : Act σ α β) := by
  intro s
  obtain ⟨r, world, hr⟩ := withCapability id .getOffsets (fun c => c.offsets .host) s
  cases r with
  | error e =>
    exact ⟨.error e, world, outcome_bind_error (outcome_takeArray_error hr)⟩
  | ok offsets =>
    cases hd : s.table[id]? with
    | some d => exact ⟨_, world, outcome_withOffsets hr hd f⟩
    | none =>
      have hnone := outcome_descriptor_none (s := { s with world := world }) hd
      exact ⟨.error .emptySlot, world, outcome_bind_error
        (by rw [takeArray, outcome_bind_ok hr, outcome_bind_error hnone])⟩

/-! ## Queries and applies -/

theorem pointsInElementAt (id elem : Nat) : Quiet (pointsInElementAt id elem : Act σ α Nat) := by
  refine (Reads.descriptor id).quiet.bind fun r => (Reads.ofExcept _).quiet.bind fun _ => ?_
  exact ite ((Reads.fail _).quiet.bind fun _ => withOffsets id _) (withOffsets id _)

theorem pointsInElement (name : String) (elem : Nat) :
    Quiet (pointsInElement name elem : Act σ α Nat) :=
  (Reads.held name).quiet.bind fun id => pointsInElementAt id elem

theorem maxPoints (name : String) : Quiet (maxPoints name : Act σ α Nat) :=
  (Reads.held name).quiet.bind fun id => (Reads.descriptor id).quiet.bind fun _ =>
    (Reads.ofExcept _).quiet.bind fun _ => withOffsets id _

theorem applyAt (id : Nat) (d : Direction) (u v : Array α) :
    Quiet (applyAt id d u v : Act σ α _) := by
  refine (Reads.descriptor id).quiet.bind fun r => (Reads.ofExcept _).quiet.bind fun _ => ?_
  exact ite (Reads.pure _).quiet (withCapability id _ _)

theorem apply (name : String) (d : Direction) (u v : Array α) :
    Quiet (apply name d u v : Act σ α _) :=
  (Reads.held name).quiet.bind fun id => applyAt id d u v

theorem applyBlock (name : String) (block : Nat) (d : Direction) (u v : Array α) :
    Quiet (applyBlock name block d u v : Act σ α _) := by
  refine (Reads.held name).quiet.bind fun id => (withCapability id _ _).bind fun _ =>
    (Reads.descriptor id).quiet.bind fun r => (Reads.ofExcept _).quiet.bind fun _ => ?_
  exact ite ((Reads.fail _).quiet.bind fun _ => withData id _) (withData id _)

theorem applyAtPoints (name : String) (elem : Nat) (d : Direction) (u v : Array α) :
    Quiet (applyAtPoints name elem d u v : Act σ α _) := by
  refine (Reads.held name).quiet.bind fun id => (Reads.descriptor id).quiet.bind fun r =>
    (Reads.ofExcept _).quiet.bind fun _ => ?_
  have hrest : Quiet (do
      let points ← Session.pointsInElementAt id elem
      let sides := r.shape.sides d (points * r.shape.numComp)
      Session.ofExcept (checkAtLeast u.size v.size sides.1 sides.2)
      Session.withCapability id .applyAtPointsInElement fun c => c.applyAtPoints elem d u v :
        Act σ α _) :=
    (pointsInElementAt id elem).bind fun _ => (Reads.ofExcept _).quiet.bind fun _ =>
      withCapability id _ _
  exact ite ((Reads.fail _).quiet.bind fun _ => hrest) hrest

/-- Going on from the outcome of a quiet operation. -/
theorem run_bind {x : Act σ α β} (hx : Quiet x) {f : Except Failure β → StateM (Session σ α) γ}
    (hf : ∀ r s, ∃ world, (((f r).run s).run).2 = { s with world := world }) (s : Session σ α) :
    ∃ world, (((x.run >>= f).run s).run).2 = { s with world := world } := by
  obtain ⟨r, world, hr⟩ := hx s
  have hrun : ((x.run >>= f).run s).run = ((f (outcome x s).1).run (outcome x s).2).run := rfl
  rw [hr] at hrun
  obtain ⟨world', hw⟩ := hf r { s with world := world }
  exact ⟨world', by rw [hrun, hw]⟩

end Quiet

/-- Counting the readers of each entry is two applies. -/
theorem quiet_multiplicity [IntCast α] (name : String) (v : Array α) (s : Session σ α) :
    ∃ world, (((multiplicity name v).run s).run).2 = { s with world := world } := by
  refine (Reads.held name).quiet.run_bind (fun r s => ?_) s
  cases r with
  | error f => exact ⟨s.world, rfl⟩
  | ok id =>
    refine Quiet.run_bind ((Reads.descriptor id).quiet.bind fun _ => Quiet.applyAt id _ _ _)
      (fun r s => ?_) s
    cases r with
    | error f => exact ⟨s.world, rfl⟩
    | ok e =>
      refine (Quiet.applyAt id _ _ _).run_bind (fun r s => ?_) s
      cases r <;> exact ⟨s.world, rfl⟩

end GatherScatter.Session
