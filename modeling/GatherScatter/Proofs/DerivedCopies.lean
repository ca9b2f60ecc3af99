import GatherScatter.Proofs.Reference.Modes
import GatherScatter.Proofs.Session.Copies
import GatherScatter.Proofs.Session.Reference

/-!
# Derived copies

A copy of an offset-based restriction applies its own mode to the data of the root, however many
copies lie between the two and whether or not any of them is still there.

* `AppliesAlike`: applies through two handles give the same.
* `AnswersAs`: what else can be asked of a handle is answered as it was for the restriction itself.
* `copies_apply_last_mode`: a copy applies like a restriction that was created without what the mode
  drops.
-/
namespace GatherScatter.Session

open Reference

/-- Applies through two handles, each in a session of its own, give the same results and the same
errors, and change nothing else. -/
structure AppliesAlike {σ σ' α : Type} (s : Session σ α) (name : String) (s' : Session σ' α)
    (name' : String) : Prop where
  apply : ∀ (d : Direction) (u v : Array α), ∃ x,
    outcome (apply name d u v) s = (x, s) ∧ outcome (Session.apply name' d u v) s' = (x, s')
  applyBlock : ∀ (b : Nat) (d : Direction) (u v : Array α), ∃ x,
    outcome (applyBlock name b d u v) s = (x, s) ∧
      outcome (Session.applyBlock name' b d u v) s' = (x, s')

/-- The restriction behind `name` has the shape, the strides and the layout of the one behind `r`,
and its index arrays can be checked out, or not, as they can through `r`. -/
structure AnswersAs {σ α : Type} (s₀ : Session σ α) (r : String) (s : Session σ α)
    (name : String) : Prop where
  restriction : ∃ d₀ d : Descriptor σ α, outcome (restriction r) s₀ = (.ok d₀, s₀) ∧
    outcome (Session.restriction name) s = (.ok d, s) ∧ d.shape = d₀.shape ∧
      d.strides = d₀.strides ∧ d.layout = d₀.layout
  checkout : ∀ (part : Part) (mem : MemKind) (viewName : String),
    (outcome (checkout name part mem viewName) s).1 =
      (outcome (Session.checkout r part mem viewName) s₀).1

variable {σ α : Type} [Add α] [Mul α] [IntCast α]

/-- The index arrays of the reference backend do not depend on anything else. -/
theorem exists_fetch_eq (part : Part) (mem : MemKind) (resource : String) (op : Operator) :
    ∃ x, part.fetch mem (compiled resource op : Compiled σ α) = .ofExcept x := by
  have hmap {β γ : Type} (r : Except Error β) (f : β → γ) :
      f <$> (Effect.ofExcept r : Effect σ β) = .ofExcept (r.map f) := by cases r <;> rfl
  cases part with
  | offsets => exact ⟨_, hmap _ _⟩
  | orientations => exact ⟨_, hmap _ _⟩
  | curlOrientations => exact ⟨_, hmap _ _⟩

namespace Serves

variable {s : Session σ α} {name resource : String} {op op' : Operator} {mode mode' : Mode}
  {t t' : Stencil} {kind : Kind} {compStride : Nat} {strides : Option Strides}

theorem appliesAlike {σ' : Type} {s' : Session σ' α} {name' resource' : String}
    (h : s.Serves name resource op mode) (hop : op.Realizes t)
    (h' : s'.Serves name' resource' op' mode') (hop' : op'.Realizes t')
    (hagree : t.Agree mode t' mode') (hshape : op'.shape = { op.shape with
      kind := kind, compStride := compStride, strides := strides }) :
    AppliesAlike s name s' name' where
  apply d u v := by
    refine ⟨_, h.outcome_apply (.nodes t hop) d u v, ?_⟩
    have hsides : op'.shape.sides d op'.shape.eSize = op.shape.sides d op.shape.eSize := by
      rw [hshape]
      cases d <;> rfl
    rw [h'.outcome_apply (.nodes t' hop') d u v, hsides]
    cases hc : checkAtLeast u.size v.size (op.shape.sides d op.shape.eSize).1
      (op.shape.sides d op.shape.eSize).2 with
    | error e => rfl
    | ok _ =>
      obtain ⟨hu, hv⟩ := checkAtLeast_eq_ok_iff.1 hc
      rw [Loop.ok_bind, Loop.ok_bind, hop.apply_agree hop' hagree hshape hu hv]
  applyBlock b d u v := by
    refine ⟨_, h.outcome_applyBlock b d u v, ?_⟩
    have hsides : op'.shape.sides d op'.shape.wrappedBlockLen =
        op.shape.sides d op.shape.wrappedBlockLen := by
      rw [hshape]
      cases d <;> rfl
    have hblock : op'.shape.blockSize = op.shape.blockSize := by rw [hshape]
    have helem : op'.shape.numElem = op.shape.numElem := by rw [hshape]
    rw [h'.outcome_applyBlock b d u v, hsides, hblock, helem, hop.notPoints, hop'.notPoints,
      if_neg Bool.false_ne_true, if_neg Bool.false_ne_true]
    cases hc : checkExact u.size v.size (op.shape.sides d op.shape.wrappedBlockLen).1
      (op.shape.sides d op.shape.wrappedBlockLen).2 with
    | error e => rfl
    | ok _ =>
      obtain ⟨hu, hv⟩ := checkExact_eq_ok_iff.1 hc
      rw [Loop.ok_bind, Loop.ok_bind]
      split
      · rfl
      · rename_i hb
        have hb' : b < op.shape.numBlock := by
          rw [hop.numBlock_eq, lt_numBlocks_iff hop.blockSize_pos]
          omega
        rw [hop.wrappedBlockLen_eq hb'] at hu hv
        rw [hop.applyBlock_agree hop' hagree hshape resource resource' hb' (Nat.le_of_eq hu.symm)
          (Nat.le_of_eq hv.symm)]

end Serves

/-- A copy answers as the restriction did when the first copy of it was made. -/
theorem Copy.answersAs {s₀ s : Session σ α} {r name resource : String} {modes : List Mode}
    {op : Operator} {mode₀ : Mode} (h : Copy s₀ r s name modes) (hb : Books s₀ [] [] s₀)
    (hserves : s₀.Serves r resource op mode₀) :
    AnswersAs s₀ r s name ∧ s.Serves name resource op (modes.headD mode₀) := by
  obtain ⟨id₀, d₀, root₀, hf₀, hshape₀, rfl⟩ := hserves.exists_finds
  obtain ⟨id, d, root, hf, hroot, hshape, hlayout, hmode⟩ := h.exists_finds hb hf₀
  refine ⟨⟨⟨d₀, d, ?_, ?_, hshape, ?_, ?_⟩, fun part mem viewName => ?_⟩, ?_⟩
  · rw [restriction, outcome_bind_ok (outcome_held hf₀.handle), outcome_descriptor hf₀.entry]
  · rw [restriction, outcome_bind_ok (outcome_held hf.handle), outcome_descriptor hf.entry]
  · rw [Descriptor.strides, hshape, Descriptor.strides]
  · rw [Descriptor.layout, hlayout, Descriptor.layout]
  · obtain ⟨x, hx⟩ := exists_fetch_eq (σ := σ) (α := α) part mem resource op
    rw [hf.checkout_fst (Serves.outcome_withCapability hf _ _ hx) rfl,
      hf₀.checkout_fst (Serves.outcome_withCapability hf₀ _ _ hx) rfl, hroot]
  · exact ⟨id, d, root, hf.handle, hf.entry, hf.root, hshape.trans hshape₀, hmode, hf.data⟩

/-- A copy behaves in its own mode, the last one that was asked for, over the data of the root: the
modes of the copies between them leave no trace, and it does not matter whether the restriction and
these copies still have handles. Applies through it, as a whole and by blocks, are those of a
restriction that was created with the orientation that the mode leaves (`OffsetSpec.inMode`), with
any scalars and whether or not the two use a transpose map; and such a restriction can be created.
Everything else is as it was for the restriction itself, and of both further copies can be made. -/
theorem copies_apply_last_mode {resource r name : String} {spec : OffsetSpec}
    {s₀ s : Session σ α} {mode₀ mode : Mode} {modes : List Mode}
    (hr : OnReference resource (.offsets spec) s₀ r mode₀)
    (hcopy : Copy s₀ r s name (mode :: modes)) :
    AnswersAs s₀ r s name ∧
    (∀ mode' newName, (outcome (derive r mode' newName) s₀).1 = .ok () ∧
      (outcome (derive name mode' newName) s).1 = .ok ()) ∧
    (∀ (world : σ) (deterministic : Bool), OnReference stem (.offsets (spec.inMode mode))
      (single world deterministic (.offsets (spec.inMode mode)) : Session σ α) "r" .full) ∧
    ∀ {σ' : Type} {s' : Session σ' α} {resource' name' : String},
      OnReference resource' (.offsets (spec.inMode mode)) s' name' .full →
        AppliesAlike s name s' name' := by
  obtain ⟨shape, data, op, hp, hhost, hs, himp, hserves⟩ := hr.serves
  obtain ⟨hanswers, hcopied⟩ := hcopy.answersAs hr.books hserves
  obtain ⟨data', hp'⟩ := OffsetSpec.exists_plan_inMode (s := spec) hp mode
  refine ⟨hanswers, fun mode' newName => ⟨hserves.derive_ok mode' newName,
    hcopied.derive_ok mode' newName⟩, fun world deterministic => ?_, fun h' => ?_⟩
  · refine onReference_single world deterministic (.offsets (spec.inMode mode)) ?_ hhost
    rw [Spec.plan, hp']
    rfl
  · obtain ⟨shape', data'', op', hp'', -, hs', himp', hserves'⟩ := h'.serves
    rw [Spec.plan, hp'] at hp''
    cases hp''
    exact hcopied.appliesAlike himp hserves' himp' (spec.agree_inMode mode) (by rw [hs', hs])

/-- Tridiagonal elements with a transpose map, of which nothing but the unsigned copy of an
unoriented copy is left. It applies like the absolute values of the rows without a map. -/
theorem copies_apply_last_mode_curlLine :
    ∃ spec : OffsetSpec, Spec.curlLine = .offsets spec ∧
      let s₀ : Session Unit Int := single () true (.offsets spec)
      let s := s₀.run [.derive "r" .unoriented "o", .derive "o" .unsigned "u", .destroy "r",
        .drop "o"]
      let s' : Session Unit Int := single () false (.offsets (spec.inMode .unsigned))
      OnReference stem (.offsets spec) s₀ "r" .full ∧
        Copy s₀ "r" s "u" [.unsigned, .unoriented] ∧
        s.handles.get? "r" = none ∧ s.handles.get? "o" = none ∧
        AnswersAs s₀ "r" s "u" ∧ AppliesAlike s "u" s' "r" := by
  refine ⟨_, rfl, ?_⟩
  intro s₀ s s'
  have hr : OnReference stem _ s₀ "r" .full := onReference_single () true _ rfl rfl
  have hcopy : Copy s₀ "r" s "u" [.unsigned, .unoriented] :=
    .follow (.follow (.derive (.derive .self .unoriented "o" (by decide)) .unsigned "u" (by decide))
      (.destroy "r") "u" (by decide)) (.drop "o") "u" (by decide)
  obtain ⟨hanswers, -, hcreated, happly⟩ := copies_apply_last_mode hr hcopy
  exact ⟨hr, hcopy, by decide, by decide, hanswers, happly (hcreated () false)⟩

end GatherScatter.Session
