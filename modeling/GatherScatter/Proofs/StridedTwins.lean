import GatherScatter.Proofs.Creation.Offsets
import GatherScatter.Proofs.Creation.Strides
import GatherScatter.Proofs.DerivedCopies

/-!
# Strided restrictions by offsets

What a strided request addresses by its strides, an offset-based one can address by offsets that
say where the first component of each node is. The two hold different data: the strides are
multiplied out for the element in each lane of each block during the apply, while the offsets are
brought into blocks, with the last element repeated, when the restriction is created.

* `StridedSpec.IsTwin`, `StridedSpec.twin`: the offset-based request that belongs to a strided one.
* `StridedSpec.IsTwin.plan_isOk`: it is accepted if the strided one is.
* `StridedSpec.IsTwin.realizes`: what is compiled from it realizes the stencil of the strides.
* `Serves.countsAlike`: restrictions that apply alike count alike.
* `strided_equals_twin`: so no apply and no count of readers tells the two apart.
-/
namespace GatherScatter

open Reference

/-- The request has the sizes of the strided one, the component stride of its strides, no
orientation, and for each node of each element the address of its first component as the offset. -/
structure StridedSpec.IsTwin (s : StridedSpec) (twin : OffsetSpec) : Prop where
  numElem : twin.numElem = s.numElem
  elemSize : twin.elemSize = s.elemSize
  blockSize : twin.blockSize = s.blockSize
  numComp : twin.numComp = s.numComp
  compStride : twin.compStride = s.effective.comp
  lSize : twin.lSize = s.lSize
  mem : twin.mem = .host
  orientation : twin.orientation = .plain
  size_offsets : twin.offsets.entries.size = s.numElem * s.elemSize
  offset : ∀ e < s.numElem, ∀ n < s.elemSize, twin.offsets.entries[e * s.elemSize + n]? =
    some ((n * s.effective.node + e * s.effective.elem : Nat) : Int)

namespace StridedSpec

variable {s : StridedSpec} {shape : Shape} {data : IndexData}

/-- The twin whose offsets are in an array that the restriction owns. -/
def twin (s : StridedSpec) : OffsetSpec where
  numElem := s.numElem
  elemSize := s.elemSize
  blockSize := s.blockSize
  numComp := s.numComp
  compStride := s.effective.comp
  lSize := s.lSize
  offsets := .owned (Array.ofFn fun i : Fin (s.numElem * s.elemSize) =>
    ((i % s.elemSize * s.effective.node + i / s.elemSize * s.effective.elem : Nat) : Int))

theorem isTwin_twin (s : StridedSpec) : s.IsTwin s.twin where
  numElem := rfl
  elemSize := rfl
  blockSize := rfl
  numComp := rfl
  compStride := rfl
  lSize := rfl
  mem := rfl
  orientation := rfl
  size_offsets := Array.size_ofFn
  offset e he n hn := by
    refine (Array.getElem?_ofFn ..).trans ?_
    rw [dif_pos (mul_add_lt he hn)]
    dsimp only
    rw [mul_add_mod_of_lt hn, mul_add_div_of_lt hn]

/-- The products of sizes that a plan goes through are sizes. -/
theorem products_lt_of_plan (h : s.plan = .ok (shape, data)) (hN : 1 ≤ s.numElem) :
    s.numElem * s.elemSize * s.numComp < 2 ^ 64 ∧
      (s.numComp - 1) * s.effective.comp < 2 ^ 64 ∧
      s.numElem ⌈/⌉ s.blockSize * s.blockSize * s.elemSize * s.numComp < 2 ^ 64 := by
  obtain ⟨_, hsizes, h⟩ := Loop.bind_eq_ok.1 h
  obtain ⟨_, hstrides, h⟩ := Loop.bind_eq_ok.1 h
  obtain ⟨shape', hshape, -⟩ := Loop.bind_eq_ok.1 h
  obtain ⟨hE, hB, hC, -⟩ := Creation.checkSizes_eq_ok_iff.1 hsizes
  have heSize := (Shape.exists_blocked_iff hE hB hC).1 ⟨shape', hshape⟩
  obtain ⟨hall, hcorner⟩ := Creation.checkStrides_lt hE hC hstrides
  refine ⟨hall, ?_, heSize⟩
  unfold effective
  by_cases ht : s.strides = .unset
  · rw [if_pos ht]
    dsimp only [Strides.packed]
    calc (s.numComp - 1) * s.elemSize ≤ s.numComp * s.elemSize :=
          Nat.mul_le_mul_right _ (Nat.sub_le _ _)
      _ ≤ s.numElem * (s.numComp * s.elemSize) := Nat.le_mul_of_pos_left _ hN
      _ = s.numElem * s.elemSize * s.numComp := by ring
      _ < 2 ^ 64 := hall
  · have hlt := hcorner ⟨ht, hN⟩
    rw [Strides.address] at hlt
    rw [if_neg ht]
    omega

namespace IsTwin

variable {twin : OffsetSpec}

/-- Every offset of the twin is the address of the first component of a node. -/
theorem exists_node (h : s.IsTwin twin) {o : Int} (ho : o ∈ twin.offsets.entries) :
    ∃ e < s.numElem, ∃ n < s.elemSize,
      o = ((n * s.effective.node + e * s.effective.elem : Nat) : Int) := by
  obtain ⟨i, hi, rfl⟩ := Array.mem_iff_getElem.1 ho
  have hlt : i < s.elemSize * s.numElem := by
    rwa [h.size_offsets, Nat.mul_comm] at hi
  obtain ⟨e, n, he, hn, rfl⟩ := exists_mul_add_of_lt hlt
  have hoffset := h.offset e he n hn
  rw [Array.getElem?_eq_getElem hi] at hoffset
  exact ⟨e, he, n, hn, Option.some.inj hoffset⟩

/-- Every offset of the twin addresses the L-vector in every component, as the strides do. -/
theorem addresses (h : s.IsTwin twin) (hp : s.Planned shape data) :
    ∀ o ∈ twin.offsets.entries, twin.Addresses o := by
  intro o ho
  obtain ⟨e, he, n, hn, rfl⟩ := h.exists_node ho
  refine ⟨Int.natCast_nonneg _, fun k hk => ?_⟩
  rw [h.numComp] at hk
  have hin : s.effective.address n k e < s.lSize := hp.inside n hn k hk e he
  rw [h.compStride, h.lSize]
  unfold Strides.address at hin
  omega

theorem wellSized (h : s.IsTwin twin) (hp : s.Planned shape data)
    (hstep : 1 ≤ s.effective.comp ∨ s.numComp = 1) : twin.WellSized where
  elemSize_pos := h.elemSize ▸ hp.elemSize_pos
  blockSize_pos := h.blockSize ▸ hp.blockSize_pos
  numComp_pos := h.numComp ▸ hp.numComp_pos
  compStride_pos := by rwa [h.compStride, h.numComp]
  offsets_size := by rw [h.numElem, h.elemSize]; exact h.size_offsets
  orientation_size := by rw [h.orientation]; exact (Nat.zero_mul _).symm

/-- The twin of what is accepted is accepted. -/
theorem plan_isOk (h : s.IsTwin twin) (hp : s.plan = .ok (shape, data)) (hN : 1 ≤ s.numElem)
    (hstep : 1 ≤ s.effective.comp ∨ s.numComp = 1) : twin.plan.isOk := by
  obtain ⟨hall, hshift, heSize⟩ := products_lt_of_plan hp hN
  have hplanned := planned_of_plan hp
  have hw := h.wellSized hplanned hstep
  have hnodes : twin.numElem * twin.elemSize < indexLimit := by
    rw [h.numElem, h.elemSize, indexLimit_eq]
    exact Nat.lt_of_le_of_lt (Nat.le_mul_of_pos_right _ hplanned.numComp_pos) hall
  have hlengths : twin.checkLengths = .ok () := by
    unfold OffsetSpec.checkLengths
    rw [(Size.product_pair_eq_ok_iff (.inr hw.elemSize_pos)).2 ⟨rfl, hnodes⟩, Loop.ok_bind,
      Creation.checkLength_eq_ok_iff.2 hw.offsets_size, Loop.ok_bind, h.orientation]
    rfl
  exact hw.plan_isOk (by rwa [h.numElem]) hlengths (by rwa [h.compStride, h.numComp])
    (h.addresses hplanned) (by rwa [h.numElem, h.elemSize, h.blockSize, h.numComp])

/-- What is compiled from the twin finds the addresses and weights of the strides. -/
theorem realizes (h : s.IsTwin twin) {op : Operator} (hop : op.Realizes twin.stencil)
    (hE : op.shape.elemSize = s.elemSize) (hN : op.shape.numElem = s.numElem) :
    op.Realizes s.stencil := by
  refine hop.congr (fun e he k n hn => ?_) ?_ ?_
  · have hoffset := h.offset e (hN ▸ he) n (hE ▸ hn)
    dsimp only [StridedSpec.stencil, OffsetSpec.stencil]
    rw [h.elemSize, h.compStride, Array.getD_eq_getD_getElem?, hoffset, Option.getD_some,
      Int.toNat_natCast, Strides.address]
    omega
  · funext mode
    dsimp only [StridedSpec.stencil, OffsetSpec.stencil]
    rw [h.orientation]
  · funext mode e n m
    dsimp only [StridedSpec.stencil, OffsetSpec.stencil]
    rw [h.orientation]

theorem shape_eq (h : s.IsTwin twin) (hp : s.Planned shape data) {shape' : Shape}
    {data' : IndexData} (hp' : twin.Planned shape' data') : shape' = { shape with
      kind := twin.orientation.kind, compStride := twin.compStride, strides := none } := by
  rw [hp'.shape_eq, hp.shape_eq, h.numElem, h.elemSize, h.numComp, h.lSize, h.blockSize]

end IsTwin

end StridedSpec

namespace Session

/-- Counts of readers through two handles, each in a session of its own, give the same results and
the same errors, and change nothing else. -/
def CountsAlike {σ σ' α : Type} [IntCast α] (s : Session σ α) (name : String) (s' : Session σ' α)
    (name' : String) : Prop :=
  ∀ v : Array α, ∃ x, ((multiplicity name v).run s).run = (x, s) ∧
    ((multiplicity name' v).run s').run = (x, s')

variable {σ σ' α : Type} [Add α] [Mul α] [IntCast α]

namespace Serves

variable {s : Session σ α} {s' : Session σ' α} {name name' resource resource' : String}
  {op op' : Operator} {mode mode' : Mode} {t t' : Stencil}

/-- What an E-vector holds before a forward apply does not matter. -/
theorem outcome_forward (h : s.Serves name resource op mode) (hop : op.Realizes t) (u : Array α)
    {y y' : Array α} (hy : y.size = op.shape.eSize) (hy' : y'.size = op.shape.eSize) :
    outcome (apply name .forward u y) s = outcome (apply name .forward u y') s := by
  rw [h.outcome_apply (.nodes t hop), h.outcome_apply (.nodes t hop), hy, hy']
  cases hc : checkAtLeast u.size op.shape.eSize (op.shape.sides .forward op.shape.eSize).1
    (op.shape.sides .forward op.shape.eSize).2 with
  | error e => rfl
  | ok _ =>
    obtain ⟨hu, hlen⟩ := checkAtLeast_eq_ok_iff.1 hc
    rw [Loop.ok_bind, Loop.ok_bind, hop.apply_eq_ok mode hu (hy ▸ hlen),
      hop.apply_eq_ok mode hu (hy' ▸ hlen)]
    dsimp only
    rw [hop.gather_overwrites mode u hy hy']

/-- Counting readers is two applies, so handles that apply alike count alike, whatever the new
E-vectors of their contexts hold. -/
theorem countsAlike (h : s.Serves name resource op mode)
    (h' : s'.Serves name' resource' op' mode') (hop' : op'.Realizes t')
    (hsize : op'.shape.eSize = op.shape.eSize) (happly : AppliesAlike s name s' name') :
    CountsAlike s name s' name' := by
  obtain ⟨id, d, r, hf, hshape, -⟩ := h.exists_finds
  obtain ⟨id', d', r', hf', hshape', -⟩ := h'.exists_finds
  have hnew : d.eVector.size = op'.shape.eSize := by
    rw [Descriptor.eVector, Context.vector, Array.size_replicate, hshape, hsize]
  have hnew' : d'.eVector.size = op'.shape.eSize := by
    rw [Descriptor.eVector, Context.vector, Array.size_replicate, hshape']
  intro v
  obtain ⟨x, hx, hx'⟩ := happly.apply .forward (Buffer.fill v ((1 : Int) : α)) d.eVector
  rw [h'.outcome_forward hop' _ hnew hnew', hf'.outcome_apply] at hx'
  rw [hf.outcome_apply] at hx
  rw [hf.run_multiplicity, hf'.run_multiplicity, hx, hx']
  cases x with
  | error e => exact ⟨_, rfl, rfl⟩
  | ok y =>
    obtain ⟨z, hz, hz'⟩ := happly.apply .transpose y (Buffer.fill v ((0 : Int) : α))
    rw [hf.outcome_apply] at hz
    rw [hf'.outcome_apply] at hz'
    dsimp only
    rw [hz, hz']
    cases z <;> exact ⟨_, rfl, rfl⟩

end Serves

/-- If the reference backend accepted a strided request with at least one element, and components
that are apart or only one, then it accepts the offset-based request for the same addresses as well.
Through handles on the two, in any modes, applies in both directions give the same, as a whole and
by blocks, padding lanes included, and so do counts of readers. Nothing is assumed about the
scalars. -/
theorem strided_equals_twin {spec : StridedSpec} {twin : OffsetSpec} (htwin : spec.IsTwin twin)
    (hN : 1 ≤ spec.numElem) (hstep : 1 ≤ spec.effective.comp ∨ spec.numComp = 1)
    {resource name : String} {s : Session σ α} {mode : Mode}
    (h : OnReference resource (.strided spec) s name mode) :
    (∀ {σ' : Type} {ctx target : Context σ' α} {resource' : String} (newName : String)
      (s' : Session σ' α), ctx.resolve (Spec.offsets twin).construction.capability = .ok target →
        target.Builds resource' → (outcome (create ctx (.offsets twin) newName) s').1.isOk) ∧
    ∀ {σ' : Type} {resource' name' : String} {s' : Session σ' α} {mode' : Mode},
      OnReference resource' (.offsets twin) s' name' mode' →
        AppliesAlike s name s' name' ∧ CountsAlike s name s' name' := by
  obtain ⟨shape, data, op, hp, -, hs, hop, hserves⟩ := h.serves
  have hplanned := StridedSpec.planned_of_plan hp
  refine ⟨fun newName s' hr hb => ?_, fun h' => ?_⟩
  · rw [create_isOk_iff hr hb htwin.mem]
    exact htwin.plan_isOk hp hN hstep
  · obtain ⟨shape', data', op', hp', -, hs', hop', hserves'⟩ := h'.serves
    have hplanned' := OffsetSpec.planned_of_plan hp'
    have hshape := htwin.shape_eq hplanned hplanned'
    rw [← hs, ← hs'] at hshape
    have hrealizes : op'.Realizes spec.stencil :=
      htwin.realizes hop' (by rw [hs', hplanned'.shape_eq]; exact htwin.elemSize)
        (by rw [hs', hplanned'.shape_eq]; exact htwin.numElem)
    have happly := hserves.appliesAlike hop hserves' hrealizes ⟨rfl, rfl, rfl⟩ hshape
    exact ⟨happly, hserves.countsAlike hserves' hrealizes (by rw [hshape]) happly⟩

/-- Three elements in blocks of two, with strides that are left to the backend, and with strides
that overlap and do not tell the nodes of an element apart. The twins are applied deterministically,
for which they need no transpose map, since they have blocks. -/
theorem strided_equals_twin_overlapping :
    let spec (t : Strides) : StridedSpec :=
      { numElem := 3, elemSize := 2, blockSize := 2, numComp := 2, lSize := 12, strides := t }
    let s (t : Strides) : Session Unit Int := single () false (.strided (spec t))
    let s' (t : Strides) : Session Unit Int := single () true (.offsets (spec t).twin)
    ((spec .unset).effective = ⟨1, 2, 4⟩ ∧
      OnReference stem (.offsets (spec .unset).twin) (s' .unset) "r" .full ∧
      AppliesAlike (s .unset) "r" (s' .unset) "r" ∧
      CountsAlike (s .unset) "r" (s' .unset) "r") ∧
    ((spec ⟨0, 1, 2⟩).twin.offsets.entries = #[0, 0, 2, 2, 4, 4] ∧
      OnReference stem (.offsets (spec ⟨0, 1, 2⟩).twin) (s' ⟨0, 1, 2⟩) "r" .full ∧
      AppliesAlike (s ⟨0, 1, 2⟩) "r" (s' ⟨0, 1, 2⟩) "r" ∧
      CountsAlike (s ⟨0, 1, 2⟩) "r" (s' ⟨0, 1, 2⟩) "r") := by
  intro spec s s'
  have halike (t : Strides) (ht : 1 ≤ (spec t).effective.comp) (hp : (spec t).plan.isOk) :
      OnReference stem (.offsets (spec t).twin) (s' t) "r" .full ∧
        AppliesAlike (s t) "r" (s' t) "r" ∧ CountsAlike (s t) "r" (s' t) "r" := by
    have hplan : (Spec.strided (spec t)).plan.isOk := hp
    have h : OnReference stem (.strided (spec t)) (s t) "r" .full :=
      onReference_single () false _ hplan trivial
    obtain ⟨haccepted, hsame⟩ :=
      strided_equals_twin (spec t).isTwin_twin (show 1 ≤ 3 by decide) (.inl ht) h
    let ctx : Context Unit Int := referenceContext true
    have hr : ctx.resolve .createBlocked = .ok ctx := resolve_referenceContext true .blocked
    have hb : ctx.Builds stem := rfl
    have hhost : (Spec.offsets (spec t).twin).onHost := rfl
    have htwin : (Spec.offsets (spec t).twin).plan.isOk :=
      (create_isOk_iff hr hb hhost "r" (start ⟨[]⟩ ())).1 (haccepted "r" (start ⟨[]⟩ ()) hr hb)
    have h' : OnReference stem (.offsets (spec t).twin) (s' t) "r" .full :=
      onReference_single () true _ htwin hhost
    exact ⟨h', hsame h'⟩
  exact ⟨⟨rfl, halike .unset (by decide) (by decide)⟩, by decide,
    halike ⟨0, 1, 2⟩ (by decide) (by decide)⟩

end Session

end GatherScatter
