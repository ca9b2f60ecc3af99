import GatherScatter.Memcheck
import GatherScatter.Proofs.Creation
import GatherScatter.Proofs.Hooks.Builds
import GatherScatter.Proofs.Session.Run
import GatherScatter.Reference.Backend

/-!
# Delegation of creation

A request goes to the first context of the chain that has the hook for its kind. Which one that is
does not depend on anything else in the request, and no other context takes part.

* `Spec.Receives`: the arrays that the hook is called with.
* `creation_goes_to_one_context`: who is called, with what, and what comes of it.
-/
namespace GatherScatter

/-- The arrays are handed over for good. -/
structure IndexData.Owned (data : IndexData) : Prop where
  offsets : ∀ a, data.offsets = some a → a.mode = .ownPointer
  signs : ∀ a, data.orientation = .signs a → a.mode = .ownPointer
  curl : ∀ a, data.orientation = .curl a → a.mode = .ownPointer

/-- What the hook receives for a request: with blocks of more than one element, new arrays in
blocked form, and otherwise the arrays of the request, held as the request says. -/
def Spec.Receives : Spec → IndexData → Prop
  | offsets s, data =>
    if 1 < s.blockSize then
      data.mem = s.mem ∧ data.Owned ∧
      (∃ out, data.offsets = some out ∧
        Blocking.Interleaved s.offsets.entries out.entries s.numElem s.elemSize s.blockSize) ∧
      s.Oriented data.orientation
    else data = ⟨s.mem, some s.offsets, s.orientation⟩
  | strided _, data => data = {}
  | points s, data => data = ⟨s.mem, some s.offsets, .plain⟩

theorem OffsetSpec.data_owned {s : OffsetSpec} {data : IndexData} (hB : 1 < s.blockSize)
    (h : s.data = .ok data) : data.Owned := by
  unfold OffsetSpec.data at h
  rw [if_pos hB] at h
  obtain ⟨out, -, h⟩ := Loop.bind_eq_ok.1 h
  obtain ⟨orientation, hor, h⟩ := Loop.bind_eq_ok.1 h
  cases h
  unfold blockedOrientation at hor
  cases ho : s.orientation with
  | plain =>
    rw [ho] at hor
    cases hor
    exact ⟨by rintro a ⟨⟩; rfl, nofun, nofun⟩
  | signs flips =>
    rw [ho] at hor
    obtain ⟨signs, -, hor⟩ := Loop.bind_eq_ok.1 hor
    cases hor
    exact ⟨by rintro a ⟨⟩; rfl, by rintro a ⟨⟩; rfl, nofun⟩
  | curl rows =>
    rw [ho] at hor
    obtain ⟨curl, -, hor⟩ := Loop.bind_eq_ok.1 hor
    cases hor
    exact ⟨by rintro a ⟨⟩; rfl, nofun, by rintro a ⟨⟩; rfl⟩

theorem Spec.receives_of_plan {spec : Spec} {shape : Shape} {data : IndexData}
    (h : spec.plan = .ok (shape, data)) : spec.Receives data := by
  cases spec with
  | offsets s =>
    have hplanned := OffsetSpec.planned_of_plan h
    obtain ⟨-, -, -, -, hdata⟩ := OffsetSpec.plan_eq_ok_iff.1 h
    rw [Receives]
    by_cases hB : 1 < s.blockSize
    · rw [if_pos hB]
      exact ⟨hplanned.mem_eq, OffsetSpec.data_owned hB hdata, hplanned.offsets, hplanned.oriented⟩
    · rw [if_neg hB]
      rw [OffsetSpec.data_unblocked hB] at hdata
      cases hdata
      rfl
  | strided s => exact (StridedSpec.planned_of_plan h).data_eq
  | points s => exact (PointsSpec.planned_of_plan h).data_eq

namespace Session

variable {σ α : Type}

/-- The handle on a restriction that was created is the only reference to it. -/
theorem Books.exists_created {s : Session σ α} (h : Books s [] [] s) {ctx target : Context σ α}
    {spec : Spec} {shape : Shape} {c : Compiled σ α} {world : σ}
    (hrun : (ctx.create spec).run.run s.world = (.ok (target, shape, c), world)) (name : String) :
    ∃ (id : Nat) (d : Descriptor σ α) (s' : Session σ α),
      outcome (create ctx spec name) s = (.ok id, s') ∧ s'.Finds name id d d c ∧
        d.context = target ∧ d.shape = shape ∧ d.refCount = 1 ∧ d.readers = 0 := by
  have heffect : outcome (effect (ctx.create spec)) s =
      (.ok (target, shape, c), { s with world := world }) := by
    rw [outcome_effect, hrun]
    rfl
  have h' : Books s [] [] { s with world := world } := h.congr rfl rfl rfl
  have hroot := h'.getElem?_assigned_root target shape c name
  exact ⟨_, _, _, outcome_create heffect name,
    ⟨by rw [handles_assign, Slots.get?_put, if_pos rfl], hroot, hroot, rfl⟩, rfl, rfl, rfl, rfl⟩

/-- A request goes to exactly one context, whatever the contexts of the chain can do and whatever
their hooks do.

* If no context of the chain has the hook for the kind of the request, none is called, and the last
  one is named, whether or not anything else is wrong with the request.
* Otherwise `target`, the first one that has the hook, takes the request. If a check fails, no hook
  is called. If all checks pass, the hook of `target` is called once, and no other one; it receives
  the arrays as `Receives` says. Its error is the error of the creation. If it succeeds, there is
  a new restriction with the context `target`, to which the handle is the only reference, without
  readers. -/
theorem creation_goes_to_one_context [IntCast α] (registry : Registry σ α) (world : σ)
    (calls : List (Call σ α)) (ctx : Context σ α) (spec : Spec) (name : String) :
    let s := (start registry world).run calls
    let cap := spec.construction.capability
    match ctx.firstWith? cap with
    | none =>
      ctx.Calls spec s.world [] ∧
        outcome (create ctx spec name) s =
          (.error (.error (.unsupported cap.hook ctx.last.resource)), s)
    | some target =>
      match spec.plan with
      | .error e =>
        ctx.Calls spec s.world [] ∧ outcome (create ctx spec name) s = (.error (.error e), s)
      | .ok (shape, data) =>
        ctx.Calls spec s.world [⟨target, spec.construction, target.config, shape, data⟩] ∧
        spec.Receives data ∧
        match (target.head.backend.create spec.construction target.config shape data).run.run
          s.world with
        | (.error e, world') =>
          outcome (create ctx spec name) s = (.error (.error e), { s with world := world' })
        | (.ok c, _) => ∃ (id : Nat) (d : Descriptor σ α) (s' : Session σ α),
          outcome (create ctx spec name) s = (.ok id, s') ∧ s'.Finds name id d d c ∧
            d.context = target ∧ d.shape = shape ∧ d.refCount = 1 ∧ d.readers = 0 := by
  intro s cap
  have hb : Books s [] [] s := ((books_start registry world).after_run calls).rebase
  have hresolve := ctx.resolve_eq cap
  cases hfirst : ctx.firstWith? cap with
  | none =>
    rw [hfirst] at hresolve
    refine ⟨Context.calls_of_missing hfirst s.world, outcome_create_error ?_ name⟩
    rw [Context.create, hresolve]
    rfl
  | some target =>
    rw [hfirst] at hresolve
    cases hplan : spec.plan with
    | error e =>
      refine ⟨Context.calls_of_refused hfirst hplan s.world, outcome_create_error ?_ name⟩
      rw [Context.create_eq hresolve, hplan]
      rfl
    | ok planned =>
      obtain ⟨shape, data⟩ := planned
      refine ⟨Context.calls_of_plan hfirst hplan s.world, Spec.receives_of_plan hplan, ?_⟩
      have hrun := Context.run_create hresolve hplan s.world
      rcases hhook : (target.head.backend.create spec.construction target.config shape data).run.run
        s.world with ⟨r, world'⟩
      rw [hhook] at hrun
      cases r with
      | error e => exact outcome_create_error hrun name
      | ok c => exact hb.exists_created hrun name

-- the memory-checking backend builds nothing itself: its delegate is called, with blocked arrays
example :
    let ctx : Context Unit Int := ⟨⟨⟨⟨Memcheck.stem, false⟩, Memcheck.backend 7 Memcheck.stem⟩,
      [⟨⟨Memcheck.delegate, false⟩, Reference.backend Memcheck.delegate⟩]⟩, 0⟩
    let spec : Spec := .offsets
      { numElem := 3, elemSize := 2, blockSize := 2, numComp := 1, compStride := 1, lSize := 4
        offsets := ⟨.copyValues, #[0, 1, 1, 2, 2, 3]⟩ }
    ((ctx.logged.create spec).run.run ((), [])).2.2.map
        (fun b => (b.context.serial, b.construction, b.data)) =
      [(1, .blocked, ⟨.host, some (.owned #[0, 1, 1, 2, 2, 2, 3, 3]), .plain⟩)] := rfl

end Session

end GatherScatter
