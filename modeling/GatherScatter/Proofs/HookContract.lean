import GatherScatter.Proofs.Hooks.Applies
import GatherScatter.Proofs.Session.Reference

/-!
# The contract of the hooks

A backend may rely on what the library checks: whatever its hooks do and whichever capabilities its
data have, a hook runs only if its capability is there and its arguments are right, and data are
destroyed at most once, after which no hook of theirs runs any more. A capability that is missing is
named by the operation that needs it.

* `Runs`: the hooks that a call may run, on data that it finds through its handle.
* `Ledger.after_call`, `exists_ledger`: what a call adds to a journal, and what a run leaves in it.
* `Lacks`, `ReportsMissing`: operations that fail for want of a capability.
* `hooks_within_contract`: all hooks of a run, seen through a journal.
-/
namespace GatherScatter.Session

variable {σ α β γ : Type}

/-! ## Which hooks a call runs -/

/-- A hook, among `hooks`, of the data that the handle `name` finds. -/
def Uses (s : Session σ α) (tags : Nat → Tag) (name : String) (hooks : Mode → HookCall α → Prop)
    (e : HookEvent σ α) : Prop :=
  ∃ (id : Nat) (d r : Descriptor σ α) (c : Compiled σ α) (hook : HookCall α),
    s.Finds name id d r c ∧ hooks d.mode hook ∧ e = (tags (d.root id)).event r c hook

/-- The hooks that a call may run in the session `s`. -/
def Runs (s : Session σ α) (tags : Nat → Tag) : Call σ α → HookEvent σ α → Prop
  | .register _ => fun _ => False
  | .openContext _ _ => fun _ => False
  | .create _ _ _ => HookEvent.IsDestroy
  | .reference _ _ => HookEvent.IsDestroy
  | .referenceCopy _ _ => HookEvent.IsDestroy
  | .derive _ _ _ => HookEvent.IsDestroy
  | .destroy _ => HookEvent.IsDestroy
  | .drop _ => HookEvent.IsDestroy
  | .checkout name part mem _ => s.Uses tags name fun _ hook => hook = .get part mem
  | .restore _ => fun _ => False
  | .pointsInElement name _ => s.Uses tags name fun _ hook => hook = .get .offsets .host
  | .maxPoints name => s.Uses tags name fun _ hook => hook = .get .offsets .host
  | .apply name d u v => s.Uses tags name fun mode hook => hook = .apply mode d u v
  | .applyBlock name block d u v =>
    s.Uses tags name fun mode hook => hook = .applyBlock block mode d u v
  | .applyAtPoints name elem d u v => s.Uses tags name fun _ hook =>
      hook = .get .offsets .host ∨ hook = .applyAtPoints elem d u v
  | .multiplicity name _ => s.Uses tags name fun mode hook => ∃ d u v, hook = .apply mode d u v

namespace Ledger

variable {P : HookEvent σ α → Prop} {tags : Nat → Tag} {s base : Session σ α} {made : Nat}
  {events : List (HookEvent σ α)}

/-- An operation through a handle runs no hook if there is no such handle. -/
theorem held_bind (h : Ledger tags s made events) (hb : Books base [] [] s) {name : String}
    {f : Nat → Act σ α β} {g : Nat → Act (Journal σ α) α β}
    (hf : ∀ id d r c, s.Finds name id d r c → r.shape = d.shape →
      Records P tags made events (outcome (held name >>= f) s)
        (outcome (held name >>= g) (s.journaled tags made events))) :
    Records P tags made events (outcome (held name >>= f) s)
      (outcome (held name >>= g) (s.journaled tags made events)) := by
  cases hn : s.handles.get? name with
  | none =>
    have hn' : (s.journaled tags made events).handles.get? name = none := hn
    rw [outcome_bind_error (outcome_held_none hn), outcome_bind_error (outcome_held_none hn')]
    exact .same h rfl
  | some id =>
    obtain ⟨d, r, c, hfinds, hshape⟩ := hb.exists_finds hn
    exact hf id d r c hfinds hshape

variable [IntCast α]

/-- A call does with a journal what it does without one, and leaves the ledger in order. -/
theorem after_call (h : Ledger tags s made events) (hb : Books base [] [] s) (call : Call σ α) :
    ∃ tags' made' added, (∀ e ∈ added, s.Runs tags call e) ∧
      Ledger tags' (s.after call) made' (events ++ added) ∧
      (s.journaled tags made events).after call.journaled =
        (s.after call).journaled tags' made' (events ++ added) := by
  have hrecords {P : HookEvent σ α → Prop} {γ : Type} {x : γ × Session σ α}
      {y : γ × Session (Journal σ α) α} (hx : Records P tags made events x y) :
      ∃ tags' made' added, (∀ e ∈ added, P e) ∧ Ledger tags' x.2 made' (events ++ added) ∧
        y.2 = x.2.journaled tags' made' (events ++ added) := by
    obtain ⟨added, hadded, hledger, rfl⟩ := hx
    exact ⟨tags, made, added, hadded, hledger, rfl⟩
  cases call with
  | register e => exact hrecords (Follows.register e tags s made events h)
  | openContext limit config =>
    obtain ⟨hledger, hopen⟩ := h.after_openContext limit config
    exact ⟨tags, made, [], List.forall_mem_nil _, by rw [List.append_nil]; exact hledger,
      by rw [List.append_nil]; exact hopen⟩
  | create ctx spec name =>
    obtain ⟨tags', made', added, hadded, hledger, hy⟩ := h.after_create ctx spec name
    exact ⟨tags', made', added, hadded, hledger, congrArg Prod.snd hy⟩
  | reference name newName => exact hrecords (Follows.reference name newName tags s made events h)
  | referenceCopy src dst => exact hrecords (Follows.referenceCopy src dst tags s made events h)
  | derive name mode newName =>
    exact hrecords (Follows.derive name mode newName tags s made events h)
  | destroy name => exact hrecords (Follows.destroy name tags s made events h)
  | drop name => exact hrecords (Follows.drop name tags s made events h)
  | restore viewName => exact hrecords (Follows.restore viewName tags s made events h)
  | checkout name part mem viewName =>
    exact hrecords (h.held_bind hb fun id d r c hf _ =>
      h.checkout hf part mem viewName ⟨id, d, r, c, _, hf, rfl, rfl⟩)
  | pointsInElement name elem =>
    exact hrecords (h.held_bind hb fun id d r c hf _ =>
      h.pointsInElement hf elem ⟨id, d, r, c, _, hf, rfl, rfl⟩)
  | maxPoints name =>
    exact hrecords (h.held_bind hb fun id d r c hf _ =>
      h.maxPoints hf ⟨id, d, r, c, _, hf, rfl, rfl⟩)
  | apply name dir u v =>
    exact hrecords (h.held_bind hb fun id d r c hf hshape =>
      h.apply hf hshape dir u v ⟨id, d, r, c, _, hf, rfl, rfl⟩)
  | applyBlock name block dir u v =>
    exact hrecords (h.held_bind hb fun id d r c hf hshape =>
      h.applyBlock hf hshape block dir u v ⟨id, d, r, c, _, hf, rfl, rfl⟩)
  | applyAtPoints name elem dir u v =>
    exact hrecords (h.held_bind hb fun id d r c hf hshape =>
      h.applyAtPoints hf hshape elem dir u v ⟨id, d, r, c, _, hf, .inl rfl, rfl⟩
        ⟨id, d, r, c, _, hf, .inr rfl, rfl⟩)
  | multiplicity name v =>
    refine hrecords ?_
    cases hn : s.handles.get? name with
    | none =>
      have hn' : (s.journaled tags made events).handles.get? name = none := hn
      rw [Session.multiplicity, run_bind_outcome (outcome_held_none hn), Session.multiplicity,
        run_bind_outcome (outcome_held_none hn')]
      exact .same h rfl
    | some id =>
      obtain ⟨d, r, c, hf, hshape⟩ := hb.exists_finds hn
      exact h.multiplicity hf hshape v fun dir u w =>
        ⟨id, d, r, c, _, hf, ⟨dir, u, w, rfl⟩, rfl⟩

theorem after_run (h : Ledger tags s made events) (hb : Books base [] [] s)
    (calls : List (Call σ α)) :
    ∃ tags' made' events', Ledger tags' (s.run calls) made' events' ∧
      (s.journaled tags made events).run (calls.map Call.journaled) =
        (s.run calls).journaled tags' made' events' := by
  induction calls generalizing s tags made events with
  | nil => exact ⟨tags, made, events, h, rfl⟩
  | cons call calls ih =>
    obtain ⟨tags', made', added, -, h', hcall⟩ := h.after_call hb call
    obtain ⟨tags'', made'', events'', h'', hrun⟩ := ih h' (hb.after_call call)
    refine ⟨tags'', made'', events'', h'', ?_⟩
    change ((s.journaled tags made events).after call.journaled).run (calls.map Call.journaled) = _
    rw [hcall]
    exact hrun

end Ledger

theorem ledger_start (registry : Registry σ α) (world : σ) (tags : Nat → Tag) :
    Ledger tags (start registry world) 0 [] where
  event := List.forall_mem_nil _
  once := .nil
  root _ _ hr := by simp [start] at hr
  distinct _ _ _ _ hr := by simp [start] at hr

/-- What the reference backend gives as offsets is what it was built from. -/
theorem honest_compiled [Add α] [Mul α] [IntCast α] {deterministic : Bool} {shape : Shape}
    {data : IndexData} {op : Reference.Operator} (resource : String)
    (h : Reference.Operator.compile deterministic shape data = .ok op) :
    Site.Honest (⟨shape, data, Reference.compiled resource op⟩ : Site σ α) := by
  intro world world' offsets hrun
  change (op.offsets, world) = (.ok offsets, world') at hrun
  obtain ⟨hoffsets, -⟩ := Prod.mk.inj hrun
  unfold Reference.Operator.compile at h
  obtain ⟨_, -, h⟩ := Loop.bind_eq_ok.1 h
  cases hgiven : data.offsets with
  | some given =>
    rw [hgiven] at h
    dsimp only at h
    split at h
    all_goals
      obtain ⟨map, -, h⟩ := Loop.bind_eq_ok.1 h
      cases h
      cases hoffsets
      exact ⟨given, rfl, rfl⟩
  | none =>
    rw [hgiven] at h
    cases hstrides : shape.effectiveStrides with
    | some strides =>
      rw [hstrides] at h
      cases h
      cases hoffsets
    | none =>
      rw [hstrides] at h
      cases h

/-! ## Capabilities that are missing -/

/-- The operation fails because `resource` does not have the capability, and changes nothing. -/
def Lacks (x : Act σ α β) (s : Session σ α) (cap : Capability) (resource : String) : Prop :=
  outcome x s = (.error (.error (.unsupported cap.hook resource)), s)

/-- What a handle with the descriptor `d` and the data `c` says where data lack a capability: its
operations check what comes before the capability, and then name it. -/
structure ReportsMissing [IntCast α] (s : Session σ α) (name : String) (d : Descriptor σ α)
    (c : Compiled σ α) : Prop where
  apply : ∀ (dir : Direction) (u v : Array α), (d.shape.sides dir d.shape.eSize).2 ≤ u.size →
    (d.shape.sides dir d.shape.eSize).1 ≤ v.size → d.shape.numElem ≠ 0 →
      ¬ c.supports d.mode.capability →
        Lacks (apply name dir u v) s d.mode.capability c.resource
  multiplicity : ∀ v : Array α, d.shape.lSize ≤ v.size → d.shape.numElem ≠ 0 →
    ¬ c.supports d.mode.capability → ((multiplicity name v).run s).run =
      ((Buffer.fill v ((1 : Int) : α),
        .error (.error (.unsupported d.mode.capability.hook c.resource))), s)
  applyBlock : ¬ c.supports .applyBlock → ∀ (block : Nat) (dir : Direction) (u v : Array α),
    Lacks (applyBlock name block dir u v) s .applyBlock c.resource
  offsetsOfPoints : d.shape.isPoints → ¬ c.supports .getOffsets →
    (∀ elem < d.shape.numElem, Lacks (pointsInElement name elem) s .getOffsets c.resource ∧
      ∀ (dir : Direction) (u v : Array α),
        Lacks (applyAtPoints name elem dir u v) s .getOffsets c.resource) ∧
    Lacks (maxPoints name) s .getOffsets c.resource
  /-- Asking how many points there are may have changed the state of the backends. -/
  applyAtPoints : ¬ c.supports .applyAtPointsInElement →
    ∀ (elem points : Nat) (s' : Session σ α) (dir : Direction) (u v : Array α),
      outcome (pointsInElement name elem) s = (.ok points, s') →
      (d.shape.sides dir (points * d.shape.numComp)).2 ≤ u.size →
      (d.shape.sides dir (points * d.shape.numComp)).1 ≤ v.size →
        outcome (applyAtPoints name elem dir u v) s = (.error (.error (.unsupported
          Capability.applyAtPointsInElement.hook c.resource)), s')
  checkout : ∀ (part : Part) (mem : MemKind) (viewName : String), ¬ c.supports part.capability →
    Lacks (checkout name part mem viewName) s part.capability c.resource
  derive : ∀ (mode : Mode) (newName : String), ¬ c.supports mode.capability →
    Lacks (derive name mode newName) s mode.capability c.resource

namespace Finds

variable {s : Session σ α} {name : String} {id : Nat} {d r : Descriptor σ α} {c : Compiled σ α}

theorem lacks_withCapability (h : s.Finds name id d r c) {cap : Capability}
    (hc : ¬ c.supports cap) (f : Compiled σ α → Effect σ β) :
    Lacks (withCapability id cap f) s cap c.resource := by
  rw [Lacks, h.outcome_withCapability, if_neg hc]

theorem lacks_withOffsets (h : s.Finds name id d r c) (hc : ¬ c.supports .getOffsets)
    (f : Array Int → Except Error β) : Lacks (withOffsets id f) s .getOffsets c.resource := by
  rw [Lacks, h.outcome_withOffsets, h.lacks_withCapability hc]

theorem lacks_applyAt (h : s.Finds name id d r c) {dir : Direction} {u v : Array α}
    (hu : (d.shape.sides dir d.shape.eSize).2 ≤ u.size)
    (hv : (d.shape.sides dir d.shape.eSize).1 ≤ v.size) (hN : d.shape.numElem ≠ 0)
    (hc : ¬ c.supports d.mode.capability) :
    Lacks (applyAt id dir u v) s d.mode.capability c.resource := by
  rw [Lacks, h.outcome_applyAt, checkAtLeast_eq_ok_iff.2 ⟨hu, hv⟩]
  dsimp only
  rw [if_neg hN, h.lacks_withCapability hc]

theorem reportsMissing [IntCast α] (h : s.Finds name id d r c) : s.ReportsMissing name d c where
  apply dir u v hu hv hN hc := by
    rw [Lacks, h.outcome_apply, h.lacks_applyAt hu hv hN hc]
  multiplicity v hv hN hc := by
    have hones : (d.shape.sides .forward d.shape.eSize).2 ≤
        (Buffer.fill v ((1 : Int) : α)).size := by
      rw [Buffer.fill, Array.size_replicate]
      exact hv
    have hvector : (d.shape.sides .forward d.shape.eSize).1 ≤ d.eVector.size := by
      rw [Descriptor.eVector, Context.vector, Array.size_replicate]
      exact Nat.le_refl _
    rw [h.run_multiplicity, h.lacks_applyAt hones hvector hN hc]
  applyBlock hc block dir u v := by
    rw [Lacks, h.outcome_applyBlock, if_neg hc]
  offsetsOfPoints hp hc := by
    refine ⟨fun elem he => ⟨?_, fun dir u v => ?_⟩, ?_⟩
    · rw [Lacks, h.outcome_pointsInElement, h.outcome_pointsInElementAt, if_pos hp,
        if_neg (by omega), h.lacks_withOffsets hc]
    · rw [Lacks, h.outcome_applyAtPoints, if_pos hp, if_neg (by omega), h.lacks_withOffsets hc]
    · rw [Lacks, h.outcome_maxPoints, if_pos hp, h.lacks_withOffsets hc]
  applyAtPoints hc elem points s' dir u v hpoints hu hv := by
    rw [h.outcome_pointsInElement, h.outcome_pointsInElementAt] at hpoints
    by_cases hp : d.shape.isPoints
    · by_cases he : d.shape.numElem ≤ elem
      · rw [if_pos hp, if_pos he] at hpoints
        cases hpoints
      · rw [if_pos hp, if_neg he] at hpoints
        obtain ⟨-, world, -, -, hs'⟩ := h.withOffsets_eq_ok hpoints
        have h' : s'.Finds name id d r c := by
          rw [hs']
          exact h.setWorld world
        rw [h.outcome_applyAtPoints, if_pos hp, if_neg he, hpoints]
        dsimp only
        rw [checkAtLeast_eq_ok_iff.2 ⟨hu, hv⟩]
        exact h'.lacks_withCapability hc _
    · rw [if_neg hp] at hpoints
      cases hpoints
  checkout part mem viewName hc := by
    rw [Lacks, checkout, outcome_bind_ok (outcome_held h.handle),
      outcome_bind_error (outcome_takeArray_error (h.lacks_withCapability hc _))]
  derive mode newName hc := by
    rw [Lacks, derive, outcome_bind_ok (outcome_held h.handle),
      outcome_bind_error (h.lacks_withCapability hc _)]

end Finds

/-- If no context of a chain has the capability, the last one is named. -/
theorem resolveFrom_of_missing {cap : Capability} {p : Provider σ α} {rest : List (Provider σ α)}
    (h : ∀ q ∈ p :: rest, ¬ q.backend.supports cap) (serial : Nat) :
    Context.resolveFrom cap serial p rest =
      .error (.unsupported cap.hook
        ((p :: rest).getLast (List.cons_ne_nil _ _)).config.resource) := by
  induction rest generalizing serial p with
  | nil => rw [Context.resolveFrom, if_neg (h p List.mem_cons_self), List.getLast_singleton]
  | cons q rest ih =>
    rw [Context.resolveFrom, if_neg (h p List.mem_cons_self),
      ih (fun q hq => h q (List.mem_cons_of_mem _ hq)), List.getLast_cons (List.cons_ne_nil _ _)]

/-- A creation that no context of the chain can do. -/
theorem lacks_create {ctx : Context σ α} {spec : Spec}
    (h : ∀ p ∈ ctx.toList, ¬ p.backend.supports spec.construction.capability) (name : String)
    (s : Session σ α) :
    Lacks (create ctx spec name) s spec.construction.capability
      (ctx.toList.getLast (List.cons_ne_nil _ _)).config.resource := by
  have hresolve : ctx.resolve spec.construction.capability = _ :=
    resolveFrom_of_missing h ctx.serial
  refine outcome_create_error ?_ name
  rw [Context.create, hresolve]
  rfl

/-! ## All hooks of a run -/

variable [IntCast α]

/-- However a session got where it is, with whatever backends, a journal of the same calls shows
that

* keeping it changed nothing;
* every hook ran on data built from a planned request, under a capability that the data have, with
  arguments that their shape allows;
* data were destroyed at most once, and no hook of theirs ran after that, where every root has data
  of its own;
* a further call, whatever it is, runs no other hooks than its own ones, those of an apply in the
  mode of the handle, and `destroy` where it can give up data.

Where data lack a capability, an operation that comes to need it names it and changes nothing; so
does a creation that no context of the chain can do. -/
theorem hooks_within_contract (registry : Registry σ α) (world : σ) (calls : List (Call σ α)) :
    let s := (start registry world).run calls
    (∃ tags made events,
      (start registry.journaled ⟨world, 0, []⟩).run (calls.map Call.journaled) =
        s.journaled tags made events ∧
      (∀ e ∈ events, (∃ spec : Spec, spec.plan = .ok (e.site.shape, e.site.data)) ∧
        e.site.Allows e.hook) ∧
      (events.Pairwise fun e e' => e.number = e'.number → e.hook ≠ .destroy) ∧
      (∀ (root root' : Nat) (r r' : Descriptor σ α), s.table[root]? = some r →
        s.table[root']? = some r' → r.data.isSome → r'.data.isSome →
          (tags root).number = (tags root').number → root = root') ∧
      ∀ call : Call σ α, ∃ tags' made' added,
        (s.journaled tags made events).after call.journaled =
          (s.after call).journaled tags' made' (events ++ added) ∧
        ∀ e ∈ added, s.Runs tags call e ∧ e.site.Allows e.hook) ∧
    (∀ name id, s.handles.get? name = some id →
      ∃ d r c, s.Finds name id d r c ∧ s.ReportsMissing name d c) ∧
    ∀ (ctx : Context σ α) (spec : Spec) (name : String),
      (∀ p ∈ ctx.toList, ¬ p.backend.supports spec.construction.capability) →
        Lacks (create ctx spec name) s spec.construction.capability
          (ctx.toList.getLast (List.cons_ne_nil _ _)).config.resource := by
  intro s
  have hb : Books (start registry world) [] [] s := (books_start registry world).after_run calls
  refine ⟨?_, fun name id hn => ?_, fun ctx spec name h => lacks_create h name s⟩
  · obtain ⟨tags, made, events, hledger, hrun⟩ :=
      (ledger_start registry world fun _ => ⟨0, {}⟩).after_run (books_start registry world) calls
    refine ⟨tags, made, events, hrun, fun e he => (hledger.event e he).2, hledger.once,
      hledger.distinct, fun call => ?_⟩
    obtain ⟨tags', made', added, hadded, hledger', hcall⟩ := hledger.after_call hb call
    refine ⟨tags', made', added, hcall, fun e he => ⟨hadded e he, ?_⟩⟩
    exact (hledger'.event e (List.mem_append_right _ he)).2.2
  · obtain ⟨d, r, c, hfinds, -⟩ := hb.exists_finds hn
    exact ⟨d, r, c, hfinds, hfinds.reportsMissing⟩

-- the derived handle goes first, so the data are destroyed when the handle on their root is dropped
example :
    let calls : List (Call Unit Int) := [.create (referenceContext false) (.orientedLine 1) "r",
      .derive "r" .unsigned "u", .apply "u" .forward #[1, 2, 3, 4] (Array.replicate 6 0),
      .destroy "u", .drop "r"]
    ((start (Registry.journaled ⟨[]⟩) ⟨(), 0, []⟩).run (calls.map Call.journaled)).world.events.map
        HookEvent.hook =
      [.apply .unsigned .forward #[1, 2, 3, 4] (Array.replicate 6 0), .destroy] := rfl

end GatherScatter.Session
