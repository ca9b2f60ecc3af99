import GatherScatter.Proofs.Chains
import GatherScatter.Proofs.Reference.Apply
import GatherScatter.Proofs.Session.Dispatch

/-!
# Handles on restrictions of the reference backend

`OnReference` says where a handle comes from: some calls ago the reference backend created a
restriction from a request, and the handle is on it or on a view derived from it. Whatever happened
since then, the handle still finds the compiled operator, and an apply through it is an apply of
this operator behind the checks of lengths and numbers.

* `Descends`: the same for any context that builds like the reference backend, whatever else it
  does; `OnReferenceWith` tells contexts with deterministic applies from those without.
* `Descends.serves`, `OnReference.serves`: the operator is still there;
  `OnReference.exists_layout`: so is its layout.
* `Serves.outcome_apply`, `Serves.outcome_applyBlock`, `Serves.outcome_applyAtPoints`: what an apply
  through the handle gives; `Serves.outcome_apply_ok` and so on say it for vectors of the right
  lengths.
* `descends_create`, `Descends.derive`: how such handles are made.
-/
namespace GatherScatter

/-- The context builds its restrictions as the reference backend for `resource` does. Nothing is
said about its new vectors. -/
def Context.Builds {σ α : Type} [Add α] [Mul α] [IntCast α] (ctx : Context σ α)
    (resource : String) : Prop :=
  ctx.head.backend.create = (Reference.backend resource).create

namespace Session

open GatherScatter.Reference

variable {σ α : Type} [Add α] [Mul α] [IntCast α]

/-- Some calls ago the reference backend created a restriction from `spec`, and `name` is a handle
on it, or on a view derived from it, that applies it in `mode`. -/
def OnReference (resource : String) (spec : Spec) (s : Session σ α) (name : String) (mode : Mode) :
    Prop :=
  ∃ (registry : Registry σ α) (world : σ) (calls later : List (Call σ α)) (ctx target : Context σ α)
    (newName : String) (root : Nat) (s₁ : Session σ α),
    ctx.resolve spec.construction.capability = .ok target ∧
    target.head.backend = Reference.backend resource ∧
    outcome (create ctx spec newName) ((start registry world).run calls) = (.ok root, s₁) ∧
    s = s₁.run later ∧
    ∃ (id : Nat) (d : Descriptor σ α), s.handles.get? name = some id ∧ s.table[id]? = some d ∧
      d.root id = root ∧ d.mode = mode

/-- Some calls ago a context with `p` created a restriction from `spec`, and `name` is a handle on
it, or on a view derived from it, that applies it in `mode`. -/
def Descends (p : Context σ α → Prop) (spec : Spec) (s : Session σ α) (name : String)
    (mode : Mode) : Prop :=
  ∃ (registry : Registry σ α) (world : σ) (calls later : List (Call σ α)) (ctx target : Context σ α)
    (newName : String) (root : Nat) (s₁ : Session σ α),
    ctx.resolve spec.construction.capability = .ok target ∧
    p target ∧
    outcome (create ctx spec newName) ((start registry world).run calls) = (.ok root, s₁) ∧
    s = s₁.run later ∧
    ∃ (id : Nat) (d : Descriptor σ α), s.handles.get? name = some id ∧ s.table[id]? = some d ∧
      d.root id = root ∧ d.mode = mode

theorem onReference_iff_descends {resource name : String} {spec : Spec} {s : Session σ α}
    {mode : Mode} : OnReference resource spec s name mode ↔
      Descends (fun ctx => ctx.head.backend = Reference.backend resource) spec s name mode := .rfl

/-- The restriction behind the handle was built like one of the reference backend, for a context
with deterministic applies or for one without; new vectors of that context may start out as
anything. -/
def OnReferenceWith (deterministic : Bool) (resource : String) (spec : Spec) (s : Session σ α)
    (name : String) (mode : Mode) : Prop :=
  Descends (fun ctx => ctx.config.deterministic = deterministic ∧ ctx.Builds resource) spec s name
    mode

/-- The handle `name` finds the operator `op` and applies it in `mode`. -/
def Serves (s : Session σ α) (name resource : String) (op : Operator) (mode : Mode) : Prop :=
  ∃ (id : Nat) (d r : Descriptor σ α), s.handles.get? name = some id ∧ s.table[id]? = some d ∧
    s.table[d.root id]? = some r ∧ d.shape = op.shape ∧ d.mode = mode ∧
    r.data = some (compiled resource op)

theorem run_create {ctx target : Context σ α} {spec : Spec} {resource : String}
    (hr : ctx.resolve spec.construction.capability = .ok target)
    (hb : target.Builds resource) (world : σ) :
    (ctx.create spec).run.run world = ((do
      let (shape, data) ← spec.plan
      let op ← Operator.compile target.config.deterministic shape data
      return (target, shape, compiled resource op)), world) := by
  have hcreate (shape : Shape) (data : IndexData) :
      target.head.backend.create spec.construction target.config shape data = .ofExcept
        (compiled resource <$> Operator.compile target.config.deterministic shape data) := by
    rw [hb]; rfl
  rw [Context.create_eq hr]
  cases spec.plan with
  | error e => rfl
  | ok planned =>
    obtain ⟨shape, data⟩ := planned
    change ((do
      let compiled ← target.head.backend.create spec.construction target.config shape data
      return (target, shape, compiled) : Effect σ _).run.run world) = _
    rw [hcreate]
    dsimp only [Loop.ok_bind]
    cases Operator.compile target.config.deterministic shape data <;> rfl

/-- What the creation of a restriction by the reference backend went through. -/
theorem create_eq_ok {ctx target : Context σ α} {spec : Spec} {resource name : String}
    {s s₁ : Session σ α} {root : Nat}
    (hr : ctx.resolve spec.construction.capability = .ok target)
    (hb : target.Builds resource)
    (h : outcome (create ctx spec name) s = (.ok root, s₁)) :
    ∃ shape data op, spec.plan = .ok (shape, data) ∧
      Operator.compile target.config.deterministic shape data = .ok op ∧
      root = s.table.size ∧
      s₁ = (outcome (assign name root) (s.withRoot target shape (compiled resource op))).2 := by
  have heffect := outcome_effect (ctx.create spec) s
  rw [run_create hr hb] at heffect
  cases hp : spec.plan with
  | error e =>
    rw [hp] at heffect
    rw [create, outcome_bind_error heffect] at h
    cases h
  | ok planned =>
    obtain ⟨shape, data⟩ := planned
    rw [hp] at heffect
    dsimp only [Loop.ok_bind] at heffect
    cases hc : Operator.compile target.config.deterministic shape data with
    | error e =>
      rw [hc] at heffect
      rw [create, outcome_bind_error heffect] at h
      cases h
    | ok op =>
      rw [hc] at heffect
      rw [outcome_create heffect] at h
      cases h
      exact ⟨shape, data, op, rfl, hc, rfl, rfl⟩

/-- The reference backend turns down nothing that has a plan: a creation gives a new restriction, or
the error of the plan. -/
theorem create_fst {ctx target : Context σ α} {spec : Spec} {resource : String}
    (hr : ctx.resolve spec.construction.capability = .ok target) (hb : target.Builds resource)
    (hhost : spec.onHost) (name : String) (s : Session σ α) :
    (outcome (create ctx spec name) s).1 = lift (spec.plan.map fun _ => s.table.size) := by
  have hrun := run_create hr hb s.world
  cases hp : spec.plan with
  | error e =>
    rw [hp] at hrun
    rw [outcome_create_error hrun]
    rfl
  | ok planned =>
    obtain ⟨shape, data⟩ := planned
    obtain ⟨op, hop, -⟩ := Spec.exists_compile hp hhost target.config.deterministic
    rw [hp, Loop.ok_bind] at hrun
    dsimp only at hrun
    rw [hop, Loop.ok_bind] at hrun
    have heffect := outcome_effect (ctx.create spec) s
    rw [hrun] at heffect
    rw [outcome_create heffect]
    rfl

theorem create_isOk_iff {ctx target : Context σ α} {spec : Spec} {resource : String}
    (hr : ctx.resolve spec.construction.capability = .ok target) (hb : target.Builds resource)
    (hhost : spec.onHost) (name : String) (s : Session σ α) :
    (outcome (create ctx spec name) s).1.isOk ↔ spec.plan.isOk := by
  rw [create_fst hr hb hhost]
  cases spec.plan <;> simp [lift, Except.map, Except.isOk, Except.toBool]

/-- Whatever happened since it was made, a live handle finds the operator, compiled as the context
asked for, and its restriction has the operator's shape and layout. -/
theorem Descends.finds {p : Context σ α → Prop} {resource name : String} {spec : Spec}
    {s : Session σ α} {mode : Mode} (h : Descends p spec s name mode)
    (hbuilds : ∀ ctx, p ctx → ctx.Builds resource) :
    ∃ ctx shape data op, p ctx ∧ spec.plan = .ok (shape, data) ∧
      Operator.compile ctx.config.deterministic shape data = .ok op ∧ op.shape = shape ∧
      ∃ id d r, s.Finds name id d r (compiled resource op) ∧ d.shape = op.shape ∧ d.mode = mode ∧
        d.eLayout = op.eLayout := by
  obtain ⟨registry, world, calls, later, ctx, target, newName, root, s₁, hr, hctx, hcreate, hs, id,
    d, hn, hd, hroot, hmode⟩ := h
  obtain ⟨shape, data, op, hp, hc, hid, hs₁⟩ := create_eq_ok hr (hbuilds target hctx) hcreate
  have hshape := (Spec.implements_of_compile hp hc).1
  -- the books since the root was added
  have hbooks := ((books_start registry world).after_run calls).push_root target shape
    (compiled resource op)
  rw [← hid] at hbooks
  have hbooks := hbooks.rebase.after_assign newName
  rw [← hs₁] at hbooks
  have hbooks := hbooks.after_run later
  rw [← hs] at hbooks
  have hadded : (Session.withRoot ((start registry world).run calls) target shape
      (compiled resource op)).table[root]? = some ⟨target, shape, op.eLayout, .full, [], 1, 0,
        some (compiled resource op)⟩ := by
    rw [hid]
    exact Array.getElem?_push_size
  obtain ⟨r, hf, hsame⟩ := hbooks.exists_finds_of_root hn hd hroot hadded rfl
  exact ⟨target, shape, data, op, hctx, hp, hc, hshape, id, d, r, hf,
    hsame.shape.trans hshape.symm, hmode, hsame.eLayout⟩

theorem Descends.serves {p : Context σ α → Prop} {resource name : String} {spec : Spec}
    {s : Session σ α} {mode : Mode} (h : Descends p spec s name mode)
    (hbuilds : ∀ ctx, p ctx → ctx.Builds resource) :
    ∃ ctx shape data op, p ctx ∧ spec.plan = .ok (shape, data) ∧
      Operator.compile ctx.config.deterministic shape data = .ok op ∧ op.shape = shape ∧
      s.Serves name resource op mode := by
  obtain ⟨ctx, shape, data, op, hctx, hp, hc, hop, id, d, r, hf, hshape, hmode, -⟩ :=
    h.finds hbuilds
  exact ⟨ctx, shape, data, op, hctx, hp, hc, hop, id, d, r, hf.handle, hf.entry, hf.root, hshape,
    hmode, hf.data⟩

omit [Add α] [Mul α] in
/-- The books of the session are in order. -/
theorem Descends.books {p : Context σ α → Prop} {name : String} {spec : Spec} {s : Session σ α}
    {mode : Mode} (h : Descends p spec s name mode) : Books s [] [] s := by
  obtain ⟨registry, world, calls, later, ctx, target, newName, root, s₁, -, -, hcreate, hs, -⟩ := h
  have hb := ((books_start registry world).after_run calls).after_create ctx spec newName
  rw [hcreate] at hb
  rw [hs]
  exact (hb.after_run later).rebase

theorem builds_backend (resource : String) (ctx : Context σ α)
    (h : ctx.head.backend = Reference.backend resource) : ctx.Builds resource :=
  congrArg Backend.create h

/-- Whatever happened since it was made, a live handle finds the operator. -/
theorem OnReference.serves {resource name : String} {spec : Spec} {s : Session σ α} {mode : Mode}
    (h : OnReference resource spec s name mode) :
    ∃ shape data op, spec.plan = .ok (shape, data) ∧ spec.onHost ∧ op.shape = shape ∧
      op.Implements spec ∧ s.Serves name resource op mode := by
  obtain ⟨_, shape, data, op, -, hp, hc, hshape, hserves⟩ :=
    (onReference_iff_descends.1 h).serves (builds_backend resource)
  exact ⟨shape, data, op, hp, Spec.onHost_of_compile hp hc, hshape,
    (Spec.implements_of_compile hp hc).2, hserves⟩

/-- The restriction behind a live handle reports the layout of an operator for the request. -/
theorem OnReference.exists_layout {resource name : String} {spec : Spec} {s : Session σ α}
    {mode : Mode} (h : OnReference resource spec s name mode) :
    ∃ (d : Descriptor σ α) (shape : Shape) (data : IndexData) (op : Operator),
      outcome (restriction name) s = (.ok d, s) ∧ spec.plan = .ok (shape, data) ∧
      op.shape = shape ∧ op.Implements spec ∧ d.eLayout = op.eLayout := by
  obtain ⟨_, shape, data, op, -, hp, hc, hshape, id, d, r, hf, -, -, hlayout⟩ :=
    (onReference_iff_descends.1 h).finds (builds_backend resource)
  refine ⟨d, shape, data, op, ?_, hp, hshape, (Spec.implements_of_compile hp hc).2, hlayout⟩
  rw [restriction, outcome_bind_ok (outcome_held hf.handle), outcome_descriptor hf.entry]

theorem OnReference.books {resource name : String} {spec : Spec} {s : Session σ α} {mode : Mode}
    (h : OnReference resource spec s name mode) : Books s [] [] s :=
  (onReference_iff_descends.1 h).books

/-- The same, with what the context asked for. -/
theorem OnReferenceWith.serves {deterministic : Bool} {resource name : String} {spec : Spec}
    {s : Session σ α} {mode : Mode} (h : OnReferenceWith deterministic resource spec s name mode) :
    ∃ shape data op, spec.plan = .ok (shape, data) ∧
      Operator.compile deterministic shape data = .ok op ∧ op.shape = shape ∧
      op.Implements spec ∧ s.Serves name resource op mode := by
  obtain ⟨ctx, shape, data, op, ⟨rfl, -⟩, hp, hc, hshape, hserves⟩ :=
    Descends.serves h fun _ hctx => hctx.2
  exact ⟨shape, data, op, hp, hc, hshape, (Spec.implements_of_compile hp hc).2, hserves⟩

namespace Serves

variable {s : Session σ α} {name resource : String} {op : Operator} {mode : Mode}

/-- What the handle finds. -/
theorem exists_finds (h : s.Serves name resource op mode) :
    ∃ id d r, s.Finds name id d r (compiled resource op) ∧ d.shape = op.shape ∧ d.mode = mode := by
  obtain ⟨id, d, r, hn, hd, hr, hshape, hmode, hdata⟩ := h
  exact ⟨id, d, r, ⟨hn, hd, hr, hdata⟩, hshape, hmode⟩

/-- The restriction behind the handle has the operator's shape. -/
theorem exists_restriction (h : s.Serves name resource op mode) :
    ∃ d, outcome (restriction name) s = (.ok d, s) ∧ d.shape = op.shape := by
  obtain ⟨id, d, r, hn, hd, -, hshape, -⟩ := h
  exact ⟨d, by rw [restriction, outcome_bind_ok (outcome_held hn), outcome_descriptor hd], hshape⟩

/-- A hook of the reference backend leaves the session alone. -/
theorem outcome_withCapability {β : Type} {id : Nat} {d r : Descriptor σ α}
    (h : s.Finds name id d r (compiled resource op)) (cap : Capability)
    (f : Compiled σ α → Effect σ β) {x : Except Error β}
    (hf : f (compiled resource op) = .ofExcept x) :
    outcome (withCapability id cap f) s =
      (lift (if op.supports cap then x else .error (.unsupported cap.hook resource)), s) := by
  rw [h.outcome_withCapability]
  by_cases hc : op.supports cap
  · rw [if_pos hc, if_pos (show (compiled resource op).supports cap from hc), hf,
      outcome_effect_ofExcept]
  · rw [if_neg hc, if_neg (show ¬ (compiled resource op).supports cap from hc)]
    rfl

/-- Every mode is supported. -/
theorem outcome_hasMode {id : Nat} {d r : Descriptor σ α}
    (h : s.Finds name id d r (compiled resource op)) (mode' : Mode) :
    outcome (withCapability id mode'.capability fun _ => pure ()) s = (.ok (), s) := by
  rw [outcome_withCapability h _ (fun _ => pure ()) (x := .ok ()) rfl,
    if_pos (by cases mode' <;> rfl)]
  rfl

/-- So a copy can be derived in every mode. -/
theorem derive_ok (h : s.Serves name resource op mode) (mode' : Mode) (newName : String) :
    (outcome (derive name mode' newName) s).1 = .ok () := by
  obtain ⟨id, d, r, hf, -, -⟩ := h.exists_finds
  rw [outcome_derive hf.handle (outcome_hasMode hf mode') hf.entry, assign_ok]

theorem outcome_apply (h : s.Serves name resource op mode) (hop : op.Sound) (d : Direction)
    (u v : Array α) :
    outcome (apply name d u v) s = (lift (do
      checkAtLeast u.size v.size (op.shape.sides d op.shape.eSize).1
        (op.shape.sides d op.shape.eSize).2
      op.apply mode d u v), s) := by
  obtain ⟨id, dd, r, hf, hshape, hmode⟩ := h.exists_finds
  rw [hf.outcome_apply, hf.outcome_applyAt, hshape, hmode]
  cases hc : checkAtLeast u.size v.size (op.shape.sides d op.shape.eSize).1
    (op.shape.sides d op.shape.eSize).2 with
  | error e => rfl
  | ok _ =>
    obtain ⟨hu, hv⟩ := checkAtLeast_eq_ok_iff.1 hc
    rw [Loop.ok_bind]
    dsimp only
    by_cases hN : op.shape.numElem = 0
    · rw [if_pos hN, hop.apply_of_noElem hN mode hu hv]
      rfl
    · rw [if_neg hN, outcome_withCapability hf _ _ rfl, if_pos (by cases mode <;> rfl)]

/-- On vectors that are long enough, an apply is an apply of the operator. -/
theorem outcome_apply_ok (h : s.Serves name resource op mode) (hop : op.Sound) {d : Direction}
    {u v v' : Array α} (hu : (op.shape.sides d op.shape.eSize).2 ≤ u.size)
    (hv : (op.shape.sides d op.shape.eSize).1 ≤ v.size) (happly : op.apply mode d u v = .ok v') :
    outcome (apply name d u v) s = (.ok v', s) := by
  rw [h.outcome_apply hop, checkAtLeast_eq_ok_iff.2 ⟨hu, hv⟩, Loop.ok_bind, happly]
  rfl

theorem outcome_applyBlock (h : s.Serves name resource op mode) (block : Nat) (d : Direction)
    (u v : Array α) :
    outcome (applyBlock name block d u v) s = (lift (
      if op.shape.isPoints then .error (.unsupported Capability.applyBlock.hook resource)
      else do
        checkExact u.size v.size (op.shape.sides d op.shape.wrappedBlockLen).1
          (op.shape.sides d op.shape.wrappedBlockLen).2
        if op.shape.numElem ≤ block * op.shape.blockSize then
          .error (.blockOutOfRange block op.shape.blockSize op.shape.numElem)
        else op.applyBlock resource block mode d u v), s) := by
  obtain ⟨id, dd, r, hf, hshape, hmode⟩ := h.exists_finds
  have hsupports : (compiled resource op : Compiled σ α).supports .applyBlock =
      !op.shape.isPoints := rfl
  rw [hf.outcome_applyBlock, hsupports, hshape, hmode]
  cases op.shape.isPoints with
  | true => rfl
  | false =>
    rw [if_pos (show (!false) = true from rfl), if_neg Bool.false_ne_true]
    cases checkExact u.size v.size (op.shape.sides d op.shape.wrappedBlockLen).1
      (op.shape.sides d op.shape.wrappedBlockLen).2 with
    | error e => rfl
    | ok _ =>
      dsimp only [Loop.ok_bind]
      split
      · rfl
      · exact outcome_effect_ofExcept _ s

/-- On vectors of the right lengths, an apply to a block is an apply of the operator to it. -/
theorem outcome_applyBlock_ok (h : s.Serves name resource op mode) {t : Stencil}
    (hop : op.Realizes t) {b : Nat} (hb : b < op.shape.numBlock) {d : Direction} {u v : Array α}
    (hu : u.size = (op.shape.sides d op.shape.blockLen).2)
    (hv : v.size = (op.shape.sides d op.shape.blockLen).1) :
    outcome (applyBlock name b d u v) s = (.ok (match d with
      | .forward => Buffer.putAll v (Operator.blockPuts op.shape t mode u 0 b)
      | .transpose => Buffer.addAll v (Operator.blockTerms op.shape t mode u 0 b)), s) := by
  have hfirst : ¬ op.shape.numElem ≤ b * op.shape.blockSize := by
    rw [hop.numBlock_eq, lt_numBlocks_iff hop.blockSize_pos] at hb
    omega
  rw [h.outcome_applyBlock, if_neg (by rw [hop.notPoints]; exact Bool.false_ne_true),
    hop.wrappedBlockLen_eq hb, checkExact_eq_ok_iff.2 ⟨hu, hv⟩, Loop.ok_bind, if_neg hfirst,
    hop.applyBlock_eq_ok resource mode hb (Nat.le_of_eq hu.symm) (Nat.le_of_eq hv.symm)]
  cases d <;> rfl

/-- Where a restriction is not onto points, applies at points are refused. -/
theorem outcome_applyAtPoints_of_nodes (h : s.Serves name resource op mode)
    (hp : op.shape.isPoints = false) (elem : Nat) (d : Direction) (u v : Array α) :
    outcome (applyAtPoints name elem d u v) s =
      (.error (.error (.incompatible (.notPoints "apply at points"))), s) := by
  obtain ⟨id, dd, r, hf, hshape, -⟩ := h.exists_finds
  rw [hf.outcome_applyAtPoints, hshape, hp]
  rfl

/-- What is asked of the offsets is answered by the entries of the request. -/
theorem outcome_withOffsets {β : Type} {id : Nat} {d r : Descriptor σ α}
    (h : s.Finds name id d r (compiled resource op)) {entries : Array Int}
    (hop : op.OntoPoints entries) (f : Array Int → Except Error β) :
    outcome (withOffsets id f) s = (lift (f entries), s) := by
  have hoffsets : op.offsets = .ok entries := by rw [Operator.offsets, hop.indexing_eq]
  have hasked : outcome (withCapability id .getOffsets fun c => c.offsets .host) s =
      (.ok entries, s) := by
    rw [outcome_withCapability h .getOffsets (fun c => c.offsets .host) rfl,
      if_pos (by rw [Operator.supports, hoffsets]; rfl), MemKind.requireHost, Loop.ok_bind,
      hoffsets]
    rfl
  rw [h.outcome_withOffsets, hasked]

theorem outcome_countPoints {id : Nat} {d r : Descriptor σ α}
    (h : s.Finds name id d r (compiled resource op)) {entries : Array Int}
    (hop : op.OntoPoints entries) {elem : Nat} (he : elem < op.shape.numElem) :
    outcome (withOffsets id fun offsets => pointsBetween offsets elem) s =
      (.ok (Points.count entries elem), s) := by
  rw [outcome_withOffsets h hop, hop.ranges.pointsBetween_eq_ok he]
  rfl

theorem outcome_pointsInElement (h : s.Serves name resource op mode) {entries : Array Int}
    (hop : op.OntoPoints entries) {elem : Nat} (he : elem < op.shape.numElem) :
    outcome (pointsInElement name elem) s = (.ok (Points.count entries elem), s) := by
  obtain ⟨id, dd, r, hf, hshape, -⟩ := h.exists_finds
  rw [hf.outcome_pointsInElement, hf.outcome_pointsInElementAt, hshape, if_pos hop.isPoints,
    if_neg (by omega), outcome_countPoints hf hop he]

theorem outcome_maxPoints (h : s.Serves name resource op mode) {entries : Array Int}
    (hop : op.OntoPoints entries) :
    outcome (maxPoints name) s = (lift (largestPoints entries op.shape.numElem), s) := by
  obtain ⟨id, dd, r, hf, hshape, -⟩ := h.exists_finds
  rw [hf.outcome_maxPoints, hshape, if_pos hop.isPoints, outcome_withOffsets hf hop]

theorem outcome_applyAtPoints (h : s.Serves name resource op mode) {entries : Array Int}
    (hop : op.OntoPoints entries) (elem : Nat) (d : Direction) (u v : Array α) :
    outcome (applyAtPoints name elem d u v) s = (lift (
      if op.shape.numElem ≤ elem then .error (.elementOutOfRange elem op.shape.numElem)
      else do
        let m := op.shape.sides d (Points.count entries elem * op.shape.numComp)
        checkAtLeast u.size v.size m.1 m.2
        op.applyAtPoints resource elem d u v), s) := by
  obtain ⟨id, dd, r, hf, hshape, -⟩ := h.exists_finds
  rw [hf.outcome_applyAtPoints, hshape, if_pos hop.isPoints]
  by_cases he : op.shape.numElem ≤ elem
  · rw [if_pos he, if_pos he]
    rfl
  · rw [if_neg he, if_neg he, outcome_countPoints hf hop (by omega)]
    dsimp only
    cases checkAtLeast u.size v.size
      (op.shape.sides d (Points.count entries elem * op.shape.numComp)).1
      (op.shape.sides d (Points.count entries elem * op.shape.numComp)).2 with
    | error e => rfl
    | ok _ =>
      dsimp only [Loop.ok_bind]
      rw [outcome_withCapability hf _ _ rfl,
        if_pos (show op.supports .applyAtPointsInElement = true from hop.isPoints)]

/-- On vectors that are long enough, an apply at points moves the values of the element. -/
theorem outcome_applyAtPoints_ok (h : s.Serves name resource op mode) {entries : Array Int}
    (hop : op.OntoPoints entries) {elem : Nat} (he : elem < op.shape.numElem) {d : Direction}
    {u v : Array α}
    (hu : (op.shape.sides d (Points.count entries elem * op.shape.numComp)).2 ≤ u.size)
    (hv : (op.shape.sides d (Points.count entries elem * op.shape.numComp)).1 ≤ v.size) :
    outcome (applyAtPoints name elem d u v) s = (.ok (Points.moveAll d u v
      (Points.elementLinks op.shape.numComp entries 0 elem)), s) := by
  rw [h.outcome_applyAtPoints hop, if_neg (by omega)]
  dsimp only
  rw [checkAtLeast_eq_ok_iff.2 ⟨hu, hv⟩, Loop.ok_bind, hop.applyAtPoints_eq_ok resource he hu hv]
  rfl

end Serves

/-! ## Making such handles -/

/-- What a context accepts that builds like the reference backend is served through the handle that
was asked for. -/
theorem descends_create {p : Context σ α → Prop} (registry : Registry σ α) (world : σ)
    (calls : List (Call σ α)) {ctx target : Context σ α} {spec : Spec} {resource : String}
    {shape : Shape} {data : IndexData}
    (hr : ctx.resolve spec.construction.capability = .ok target) (hctx : p target)
    (hb : target.Builds resource) (hp : spec.plan = .ok (shape, data)) (hhost : spec.onHost)
    (name : String) :
    Descends p spec (((start registry world).run calls).after (.create ctx spec name)) name
      .full := by
  obtain ⟨op, hop, -⟩ := Spec.exists_compile hp hhost target.config.deterministic
  have heffect := outcome_effect (ctx.create spec) ((start registry world).run calls)
  rw [run_create hr hb, hp, Loop.ok_bind] at heffect
  dsimp only at heffect
  rw [hop, Loop.ok_bind] at heffect
  have hcreate := outcome_create heffect name
  have hbooks := ((books_start registry world).after_run calls).push_root target shape
    (compiled resource op)
  obtain ⟨d, hn, hd, hc⟩ := hbooks.exists_assigned Array.getElem?_push_size name
  rw [after, hcreate]
  refine ⟨registry, world, calls, [], ctx, target, name, _, _, hr, hctx, hcreate, rfl, _, d, hn, hd,
    ?_, hc.mode⟩
  rw [Descriptor.root, hc.ancestors]
  rfl

/-- Every mode can be derived. -/
theorem Descends.derive {p : Context σ α → Prop} {resource name : String} {spec : Spec}
    {s : Session σ α} {mode : Mode} (h : Descends p spec s name mode)
    (hbuilds : ∀ ctx, p ctx → ctx.Builds resource) (mode' : Mode) (newName : String) :
    Descends p spec (s.after (.derive name mode' newName)) newName mode' := by
  obtain ⟨-, shape, data, op, -, -, -, -, id, d, r, hn, hd, hr, -, -, hdata⟩ := h.serves hbuilds
  obtain ⟨registry, world, calls, later, ctx, target, firstName, root, s₁, hres, hctx, hcreate, hs,
    id', d', hn', hd', hroot, -⟩ := h
  rw [hn] at hn'
  cases hn'
  rw [hd] at hd'
  cases hd'
  have hbooks := ((books_start registry world).after_run calls).after_create ctx spec firstName
  rw [hcreate] at hbooks
  have hbooks := (hbooks.after_run later).rebase
  rw [← hs] at hbooks
  have hcap := Serves.outcome_hasMode ⟨hn, hd, hr, hdata⟩ mode'
  obtain ⟨d', hn', hd', hc⟩ :=
    (hbooks.push_derived hn hd mode').exists_assigned (getElem?_withDerived s id d mode')
      newName
  rw [after, outcome_derive hn hcap hd]
  refine ⟨registry, world, calls, later ++ [.derive name mode' newName], ctx, target, firstName,
    root, s₁, hres, hctx, hcreate, ?_, _, d', hn', hd', ?_, hc.mode⟩
  · rw [run_concat, ← hs, after, outcome_derive hn hcap hd]
  · rw [Descriptor.root, hc.ancestors, ← hroot, Descriptor.root, List.getLastD_cons]

theorem OnReference.derive {resource name : String} {spec : Spec} {s : Session σ α} {mode : Mode}
    (h : OnReference resource spec s name mode) (mode' : Mode) (newName : String) :
    OnReference resource spec (s.after (.derive name mode' newName)) newName mode' :=
  onReference_iff_descends.2
    ((onReference_iff_descends.1 h).derive (builds_backend resource) mode' newName)

theorem OnReferenceWith.derive {deterministic : Bool} {resource name : String} {spec : Spec}
    {s : Session σ α} {mode : Mode} (h : OnReferenceWith deterministic resource spec s name mode)
    (mode' : Mode) (newName : String) :
    OnReferenceWith deterministic resource spec (s.after (.derive name mode' newName)) newName
      mode' :=
  Descends.derive h (fun _ hctx => hctx.2) mode' newName

/-- A context of the reference backend, without delegates. -/
def referenceContext (deterministic : Bool) : Context σ α :=
  ⟨⟨⟨{ resource := stem, deterministic := deterministic }, Reference.backend stem⟩, []⟩, 0⟩

theorem resolve_referenceContext (deterministic : Bool) (c : Construction) :
    (referenceContext deterministic : Context σ α).resolve c.capability =
      .ok (referenceContext deterministic) := by
  cases c <;> rfl

/-- A session in which nothing but one restriction was asked for, under the name `"r"`. -/
def single (world : σ) (deterministic : Bool) (spec : Spec) : Session σ α :=
  (start ⟨[]⟩ world).after (.create (referenceContext deterministic) spec "r")

theorem descends_single {p : Context σ α → Prop} (world : σ) (deterministic : Bool) (spec : Spec)
    (hctx : p (referenceContext deterministic)) (h : spec.plan.isOk) (hhost : spec.onHost) :
    Descends p spec (single world deterministic spec : Session σ α) "r" .full := by
  cases hp : spec.plan with
  | error e =>
    rw [hp] at h
    cases h
  | ok planned =>
    exact descends_create ⟨[]⟩ world [] (resolve_referenceContext deterministic _) hctx
      (builds_backend stem _ rfl) hp hhost "r"

theorem onReference_single (world : σ) (deterministic : Bool) (spec : Spec) (h : spec.plan.isOk)
    (hhost : spec.onHost) :
    OnReference stem spec (single world deterministic spec : Session σ α) "r" .full :=
  onReference_iff_descends.2 (descends_single world deterministic spec rfl h hhost)

theorem onReferenceWith_single (world : σ) (deterministic : Bool) (spec : Spec)
    (h : spec.plan.isOk) (hhost : spec.onHost) :
    OnReferenceWith deterministic stem spec (single world deterministic spec : Session σ α) "r"
      .full :=
  descends_single world deterministic spec ⟨rfl, builds_backend stem _ rfl⟩ h hhost

end Session

namespace Spec

/-- Three elements of two nodes along a line, with two nodes of the other sign. -/
def orientedLine (blockSize : Nat) : Spec := .offsets
  { numElem := 3, elemSize := 2, blockSize := blockSize, numComp := 1, compStride := 1, lSize := 4
    offsets := .owned #[0, 1, 1, 2, 2, 3]
    orientation := .signs (.owned #[false, true, false, true, false, false]) }

/-- Two elements of three nodes along a line, with a full tridiagonal matrix each. -/
def curlLine : Spec := .offsets
  { numElem := 2, elemSize := 3, numComp := 1, compStride := 1, lSize := 5
    offsets := .owned #[0, 1, 2, 2, 3, 4]
    orientation := .curl (.owned #[0, 1, 2, 2, -1, 1, -1, 1, 0, 0, 1, -2, 1, 1, 1, -1, 1, 0]) }

end Spec

/-- Three elements of two nodes whose offsets repeat, also inside of an element, with two components
whose strides overlap. -/
def OffsetSpec.overlapping (blockSize : Nat) : OffsetSpec where
  numElem := 3
  elemSize := 2
  blockSize := blockSize
  numComp := 2
  compStride := 1
  lSize := 4
  offsets := .owned #[0, 1, 1, 1, 2, 0]
  orientation := .signs (.owned #[false, true, false, true, true, false])

end GatherScatter
