import GatherScatter.Proofs.BlockByBlock
import GatherScatter.Proofs.Creation.Offsets
import GatherScatter.Proofs.Creation.Points
import GatherScatter.Proofs.Creation.Strides

/-!
# Requests without elements

A request without elements and without index data has nothing that could be wrong with it but its
sizes. Applies through handles on such a restriction change nothing, and no block and no element can
be picked. Strided requests and requests onto points are accepted whatever their other sizes are.
Offset-based ones are not: the last component is looked for in the L-vector although there is no
offset that it could be added to.

* `Spec.Empty`: requests without elements.
* `Spec.LastComponentInside`: what is asked of offset-based ones.
* `empty_creation_exact`: which requests without elements are accepted, and what can be done with
  them.
-/
namespace GatherScatter

namespace Direction

variable {β : Type}

/-- Of the input and the output of an apply, the one that is an L-vector. -/
def lSide (d : Direction) (u v : Array β) : Array β :=
  match d with
  | forward => u
  | transpose => v

/-- The other one, which is an E-vector or a part of one. -/
def eSide (d : Direction) (u v : Array β) : Array β :=
  match d with
  | forward => v
  | transpose => u

end Direction

/-! ## Requests -/

/-- What is said of a request whose last component is outside of the L-vector. -/
def OffsetSpec.componentError (s : OffsetSpec) : Error :=
  .invalidParameter <|
    if (s.numComp - 1) * s.compStride < 2 ^ 64 then
      .componentOutside s.compStride (s.numComp - 1) s.lSize
    else .overflow "component stride"

/-- No elements and no index data, and sizes that are positive. -/
structure OffsetSpec.Empty (s : OffsetSpec) : Prop where
  numElem_eq : s.numElem = 0
  mem_eq : s.mem = .host
  elemSize_pos : 1 ≤ s.elemSize
  blockSize_pos : 1 ≤ s.blockSize
  numComp_pos : 1 ≤ s.numComp
  compStride_pos : 1 ≤ s.compStride
  offsets_size : s.offsets.size = 0
  orientation_size : s.orientation.size = 0

structure StridedSpec.Empty (s : StridedSpec) : Prop where
  numElem_eq : s.numElem = 0
  elemSize_pos : 1 ≤ s.elemSize
  blockSize_pos : 1 ≤ s.blockSize
  numComp_pos : 1 ≤ s.numComp

/-- The offsets are the end of the range starts alone. -/
structure PointsSpec.Empty (s : PointsSpec) : Prop where
  numElem_eq : s.numElem = 0
  numPoints_eq : s.numPoints = 0
  mem_eq : s.mem = .host
  numComp_pos : 1 ≤ s.numComp
  offsets_eq : s.offsets.entries = #[1]

namespace Spec

/-- A request without elements in host memory. -/
def Empty : Spec → Prop
  | offsets s => s.Empty
  | strided s => s.Empty
  | points s => s.Empty

/-- The step from the first to the last component does not leave the L-vector. Only offset-based
requests are asked for it. -/
def LastComponentInside : Spec → Prop
  | offsets s => s.numComp = 1 ∨ (s.numComp - 1) * s.compStride < s.lSize
  | strided _ | points _ => True

/-- Elements of a block. -/
def blockSize : Spec → Nat
  | offsets s => s.blockSize
  | strided s => s.blockSize
  | points _ => 1

theorem Empty.onHost {spec : Spec} (h : spec.Empty) : spec.onHost := by
  cases spec with
  | offsets s => exact OffsetSpec.Empty.mem_eq h
  | strided s => trivial
  | points s => exact PointsSpec.Empty.mem_eq h

end Spec

/-! ## Plans -/

namespace Size

/-- The only thing that can be wrong with a product is its size. -/
theorem product_eq_error {what : String} {fs : List Nat} {e : Error}
    (h : product what fs = .error e) : e = .invalidParameter (.overflow what) := by
  unfold product at h
  split at h
  · cases h
  · exact (Except.error.inj h).symm

theorem product_pair_eq_error {what : String} {a b : Nat} (hpos : a = 0 ∨ 0 < b)
    (h : 2 ^ 64 ≤ a * b) : product what [a, b] = .error (.invalidParameter (.overflow what)) := by
  cases hp : product what [a, b] with
  | error e => rw [product_eq_error hp]
  | ok p =>
    obtain ⟨rfl, hlt⟩ := (product_pair_eq_ok_iff hpos).1 hp
    rw [indexLimit_eq] at hlt
    omega

end Size

namespace OffsetSpec.Empty

variable {s : OffsetSpec}

theorem checkSizes_eq (h : s.Empty) :
    Creation.checkSizes s.elemSize s.blockSize s.numComp s.compStride = .ok () :=
  Creation.checkSizes_eq_ok_iff.2
    ⟨h.elemSize_pos, h.blockSize_pos, h.numComp_pos, .inl h.compStride_pos⟩

/-- Arrays without entries have the right lengths. -/
theorem checkLengths_eq (h : s.Empty) : s.checkLengths = .ok () := by
  have horientation := h.orientation_size
  unfold checkLengths
  rw [h.numElem_eq, (Size.product_pair_eq_ok_iff (.inl rfl)).2 ⟨rfl, by simp [indexLimit_eq]⟩,
    Loop.ok_bind, Nat.zero_mul, Creation.checkLength_eq_ok_iff.2 h.offsets_size, Loop.ok_bind]
  cases ho : s.orientation with
  | plain => rfl
  | signs flips =>
    rw [ho] at horientation
    exact Creation.checkLength_eq_ok_iff.2 horientation
  | curl rows =>
    rw [ho] at horientation
    exact Creation.checkLength_eq_ok_iff.2 horientation

theorem toList_offsets (h : s.Empty) : s.offsets.entries.toList = [] := by
  rw [Array.toList_eq_nil_iff]
  exact Array.eq_empty_of_size_eq_zero h.offsets_size

/-- Without offsets there is none that could be outside. -/
theorem checkOffsets_eq_ok (h : s.Empty) (hl : s.lSize < 2 ^ 64)
    (hin : (Spec.offsets s).LastComponentInside) :
    Creation.checkOffsets s.offsets.entries s.elemSize s.numComp s.compStride s.lSize =
      .ok () := by
  have hshift : (s.numComp - 1) * s.compStride < 2 ^ 64 := by
    rcases hin with hone | hlt
    · simp [hone]
    · omega
  rw [checkOffsets_eq hshift h.numComp_pos hin (.inl h.compStride_pos), h.toList_offsets]
  rfl

/-- The step to the last component is looked at before the offsets are. -/
theorem checkOffsets_eq_error (h : s.Empty) (hout : ¬ (Spec.offsets s).LastComponentInside) :
    Creation.checkOffsets s.offsets.entries s.elemSize s.numComp s.compStride s.lSize =
      .error s.componentError := by
  have hpos : s.numComp - 1 = 0 ∨ 0 < s.compStride := .inr h.compStride_pos
  have hC := h.numComp_pos
  rw [Spec.LastComponentInside, not_or] at hout
  unfold Creation.checkOffsets componentError
  by_cases hlt : (s.numComp - 1) * s.compStride < 2 ^ 64
  · rw [(Size.product_pair_eq_ok_iff hpos).2 ⟨rfl, hlt⟩, Loop.ok_bind, if_pos (by omega),
      if_pos hlt]
    rfl
  · rw [Size.product_pair_eq_error hpos (by omega), if_neg hlt]
    rfl

/-- The E-vector has no entries, so it has a size. -/
theorem exists_shape (h : s.Empty) :
    ∃ shape, Shape.blocked s.orientation.kind s.numElem s.elemSize s.blockSize s.numComp
      s.compStride s.lSize none = .ok shape :=
  (Shape.exists_blocked_iff h.elemSize_pos h.blockSize_pos h.numComp_pos).2
    (by simp [h.numElem_eq])

theorem plan_isOk_iff (h : s.Empty) (hl : s.lSize < 2 ^ 64) :
    s.plan.isOk ↔ (Spec.offsets s).LastComponentInside := by
  constructor
  · intro hok
    obtain ⟨⟨shape, data⟩, hp⟩ := Loop.isOk_iff.1 hok
    by_contra hout
    have hchecked := (plan_eq_ok_iff.1 hp).2.2.1 h.mem_eq
    rw [h.checkOffsets_eq_error hout] at hchecked
    cases hchecked
  · intro hin
    obtain ⟨shape, hshape⟩ := h.exists_shape
    obtain ⟨data, hdata⟩ := exists_data h.blockSize_pos h.checkLengths_eq
    exact Loop.isOk_iff.2 ⟨(shape, data), plan_eq_ok_iff.2 ⟨h.checkSizes_eq, h.checkLengths_eq,
      fun _ => h.checkOffsets_eq_ok hl hin, hshape, hdata⟩⟩

theorem plan_eq_error (h : s.Empty) (hout : ¬ (Spec.offsets s).LastComponentInside) :
    s.plan = .error s.componentError := by
  unfold plan
  rw [h.checkSizes_eq, Loop.ok_bind, h.checkLengths_eq, Loop.ok_bind, if_pos h.mem_eq,
    h.checkOffsets_eq_error hout]
  rfl

end OffsetSpec.Empty

/-- Whatever the strides are, no node is at them. -/
theorem StridedSpec.Empty.plan_isOk {s : StridedSpec} (h : s.Empty) (hl : s.lSize < 2 ^ 64) :
    s.plan.isOk := by
  have hN := h.numElem_eq
  exact (StridedSpec.plan_isOk_iff hl).2 {
    elemSize_pos := h.elemSize_pos
    blockSize_pos := h.blockSize_pos
    numComp_pos := h.numComp_pos
    room := by simp [hN]
    eSize_lt := by simp [hN]
    inside := fun _ _ _ _ e he => by omega }

/-- The one range start is the end of the array. -/
theorem PointsSpec.Empty.plan_isOk {s : PointsSpec} (h : s.Empty) (hl : s.lSize < 2 ^ 64) :
    s.plan.isOk := by
  have hN := h.numElem_eq
  have hoffsets := h.offsets_eq
  have hsize : s.offsets.size = 1 := by rw [IndexArray.size, hoffsets]; rfl
  have hstarts : PointStarts s.offsets.entries s.numElem s.numPoints := by
    rw [hoffsets, hN, h.numPoints_eq]
    exact ⟨rfl, rfl, rfl, fun e he => by omega⟩
  refine (PointsSpec.plan_isOk_iff h.mem_eq hl (by omega)).2
    ⟨⟨h.numComp_pos, by simp [h.numPoints_eq], hstarts⟩, fun p hp => ?_⟩
  rw [hoffsets, hN] at hp
  simp at hp

theorem numBlocks_zero {blockSize : Nat} (hB : 1 ≤ blockSize) : numBlocks 0 blockSize = 0 := by
  rw [numBlocks_eq_ceilDiv hB, zero_ceilDiv]

namespace Spec.Empty

variable {spec : Spec}

/-- Only offset-based requests without elements can be turned down. -/
theorem plan_isOk_iff (h : spec.Empty) (hl : spec.lSize < 2 ^ 64) :
    spec.plan.isOk ↔ spec.LastComponentInside := by
  cases spec with
  | offsets s => exact OffsetSpec.Empty.plan_isOk_iff h hl
  | strided s => exact iff_of_true (StridedSpec.Empty.plan_isOk h hl) trivial
  | points s => exact iff_of_true (PointsSpec.Empty.plan_isOk h hl) trivial

/-- There are no blocks and no entries on the side of the elements. -/
theorem sizes (h : spec.Empty) {shape : Shape} {data : IndexData}
    (hp : spec.plan = .ok (shape, data)) :
    shape.numElem = 0 ∧ shape.numBlock = 0 ∧ shape.eSize = 0 ∧ shape.lSize = spec.lSize := by
  cases spec with
  | offsets s =>
    have hN := OffsetSpec.Empty.numElem_eq h
    have hblocks := numBlocks_zero (OffsetSpec.Empty.blockSize_pos h)
    rw [(OffsetSpec.planned_of_plan hp).shape_eq, hN, hblocks]
    exact ⟨rfl, rfl, by simp, rfl⟩
  | strided s =>
    have hN := StridedSpec.Empty.numElem_eq h
    have hblocks := numBlocks_zero (StridedSpec.Empty.blockSize_pos h)
    rw [(StridedSpec.planned_of_plan hp).shape_eq, hN, hblocks]
    exact ⟨rfl, rfl, by simp, rfl⟩
  | points s =>
    obtain ⟨maxPoints, rfl⟩ := (PointsSpec.planned_of_plan hp).shape_eq
    have hN := PointsSpec.Empty.numElem_eq h
    exact ⟨hN, hN, by simp [PointsSpec.Empty.numPoints_eq h], rfl⟩

end Spec.Empty

/-- The block size of a request is that of its shape. -/
theorem Spec.HasNodes.fits {spec : Spec} (h : spec.HasNodes) {shape : Shape} {data : IndexData}
    (hp : spec.plan = .ok (shape, data)) : shape.Fits spec spec.blockSize := by
  cases h with
  | offsets s =>
    rw [(OffsetSpec.planned_of_plan hp).shape_eq]
    exact ⟨rfl, rfl, rfl, rfl, rfl⟩
  | strided s =>
    rw [(StridedSpec.planned_of_plan hp).shape_eq]
    exact ⟨rfl, rfl, rfl, rfl, rfl⟩

theorem Spec.exists_points_of_not_hasNodes {spec : Spec} (h : ¬ spec.HasNodes) :
    ∃ s, spec = .points s := by
  cases spec with
  | offsets s => exact absurd (.offsets s) h
  | strided s => exact absurd (.strided s) h
  | points s => exact ⟨s, rfl⟩

namespace Session

open Reference

/-! ## Handles -/

theorem checkAtLeast_sides_eq_ok_iff {β : Type} {shape : Shape} {d : Direction} {u v : Array β}
    {n : Nat} : checkAtLeast u.size v.size (shape.sides d n).1 (shape.sides d n).2 = .ok () ↔
      n ≤ (d.eSide u v).size ∧ shape.lSize ≤ (d.lSide u v).size := by
  rw [checkAtLeast_eq_ok_iff]
  cases d with
  | forward => exact And.comm
  | transpose => exact Iff.rfl

theorem checkExact_sides_eq_ok_iff {β : Type} {shape : Shape} {d : Direction} {u v : Array β}
    {n : Nat} : checkExact u.size v.size (shape.sides d n).1 (shape.sides d n).2 = .ok () ↔
      (d.eSide u v).size = n ∧ (d.lSide u v).size = shape.lSize := by
  rw [checkExact_eq_ok_iff]
  cases d with
  | forward => exact And.comm
  | transpose => exact Iff.rfl

variable {σ α : Type}

/-- The dispatcher stops before it comes to the backend. -/
theorem Finds.outcome_apply_noElem {s : Session σ α} {name : String} {id : Nat}
    {d r : Descriptor σ α} {c : Compiled σ α} (h : s.Finds name id d r c)
    (hN : d.shape.numElem = 0) {dir : Direction} {u v : Array α}
    (he : d.shape.eSize ≤ (dir.eSide u v).size) (hl : d.shape.lSize ≤ (dir.lSide u v).size) :
    outcome (applyAt id dir u v) s = (.ok v, s) := by
  rw [h.outcome_applyAt, checkAtLeast_sides_eq_ok_iff.2 ⟨he, hl⟩]
  exact if_pos hN

variable [Add α] [Mul α] [IntCast α]

/-- The restriction behind the handle has no elements, and nothing is done through it: applies give
their output back, every entry has no readers, and no block and no element is there to be picked. -/
structure NothingToDo (spec : Spec) (s : Session σ α) (name : String) : Prop where
  sizes : ∃ d, outcome (restriction name) s = (.ok d, s) ∧ d.shape.numElem = 0 ∧
    d.shape.numBlock = 0 ∧ d.shape.eSize = 0 ∧ d.shape.lSize = spec.lSize
  applies : ∀ (d : Direction) (u v : Array α), spec.lSize ≤ (d.lSide u v).size →
    outcome (apply name d u v) s = (.ok v, s)
  counts : ∀ v : Array α, spec.lSize ≤ v.size →
    ((multiplicity name v).run s).run = ((Array.replicate v.size ((0 : Int) : α), .ok ()), s)
  /-- The length of a block is the product of its sizes; one outside the index range is cut. -/
  blocks : spec.HasNodes → ∀ (block : Nat) (d : Direction) (u v : Array α),
    (d.lSide u v).size = spec.lSize →
    (d.eSide u v).size = spec.blockSize * spec.elemSize * spec.numComp % 2 ^ 64 →
      outcome (applyBlock name block d u v) s =
        (.error (.error (.blockOutOfRange block spec.blockSize 0)), s)
  elements : ¬ spec.HasNodes → ∀ (elem : Nat) (d : Direction) (u v : Array α),
    outcome (applyAtPoints name elem d u v) s = (.error (.error (.elementOutOfRange elem 0)), s)

theorem Descends.nothingToDo {spec : Spec} (hempty : spec.Empty) {s : Session σ α}
    {name resource : String} {mode : Mode}
    (h : Descends (fun ctx => ctx.Builds resource) spec s name mode) :
    NothingToDo spec s name := by
  obtain ⟨_, shape, data, op, -, hp, hc, hop, id, d, r, hf, hshape, hmode, -⟩ :=
    h.finds fun _ hb => hb
  have himp : op.Implements spec := (Spec.implements_of_compile hp hc).2
  have hserves : s.Serves name resource op mode :=
    ⟨id, d, r, hf.handle, hf.entry, hf.root, hshape, hmode, hf.data⟩
  rw [hop] at hshape
  obtain ⟨hN, hblocks, he, hl⟩ := hempty.sizes hp
  have happly (dir : Direction) (u v : Array α) (hlen : spec.lSize ≤ (dir.lSide u v).size) :
      outcome (applyAt id dir u v) s = (.ok v, s) := by
    apply hf.outcome_apply_noElem <;> rw [hshape]
    · exact hN
    · rw [he]
      exact Nat.zero_le _
    · rwa [hl]
  refine ⟨⟨d, ?_, ?_⟩, ?_, ?_, ?_, ?_⟩
  · rw [restriction, outcome_bind_ok (outcome_held hf.handle), outcome_descriptor hf.entry]
  · rw [hshape]
    exact ⟨hN, hblocks, he, hl⟩
  · intro dir u v hlen
    rw [hf.outcome_apply, happly dir u v hlen]
  · intro v hlen
    have hfill (a : α) : spec.lSize ≤ (Buffer.fill v a).size := by
      rwa [Buffer.fill, Array.size_replicate]
    have hforward := happly .forward (Buffer.fill v ((1 : Int) : α)) d.eVector (hfill _)
    have htranspose := happly .transpose d.eVector (Buffer.fill v ((0 : Int) : α)) (hfill _)
    rw [hf.run_multiplicity, hforward]
    dsimp only
    rw [htranspose]
    rfl
  · intro hnodes block dir u v hu hv
    obtain ⟨t, ht⟩ := hnodes.realizes himp
    have hfits := hnodes.fits hp
    have hcheck : checkExact u.size v.size (op.shape.sides dir op.shape.wrappedBlockLen).1
        (op.shape.sides dir op.shape.wrappedBlockLen).2 = .ok () := by
      rw [checkExact_sides_eq_ok_iff, hop, Shape.wrappedBlockLen_eq, Shape.blockLen,
        hfits.blockSize, hfits.elemSize, hfits.numComp, hfits.lSize]
      exact ⟨hv, hu⟩
    rw [hserves.outcome_applyBlock, ht.notPoints, if_neg Bool.false_ne_true, hcheck, Loop.ok_bind,
      hop, hN, hfits.blockSize, if_pos (Nat.zero_le _)]
    rfl
  · intro hnodes elem dir u v
    obtain ⟨spec, rfl⟩ := Spec.exists_points_of_not_hasNodes hnodes
    have hpoints : op.OntoPoints spec.offsets.entries := himp
    rw [hserves.outcome_applyAtPoints hpoints, hop, hN, if_pos (Nat.zero_le _)]
    rfl

/-- A request without elements is accepted, unless the step from its first to its last component
leaves the L-vector; then the error is about this step. Through every handle on an accepted one, in
any mode and whatever happened since, there is nothing to do. -/
theorem empty_creation_exact {ctx target : Context σ α} {resource : String} (spec : Spec)
    (hempty : spec.Empty) (hl : spec.lSize < 2 ^ 64)
    (hr : ctx.resolve spec.construction.capability = .ok target) (hb : target.Builds resource)
    (name : String) (s : Session σ α) :
    ((outcome (create ctx spec name) s).1.isOk ↔ spec.LastComponentInside) ∧
      (¬ spec.LastComponentInside → ∃ os, spec = .offsets os ∧
        (outcome (create ctx spec name) s).1 = .error (.error os.componentError)) ∧
      ∀ (s' : Session σ α) (handle : String) (mode : Mode),
        Descends (fun ctx => ctx.Builds resource) spec s' handle mode →
          NothingToDo spec s' handle := by
  refine ⟨?_, ?_, fun s' handle mode h => h.nothingToDo hempty⟩
  · rw [create_isOk_iff hr hb hempty.onHost]
    exact hempty.plan_isOk_iff hl
  · intro hout
    cases spec with
    | offsets os =>
      refine ⟨os, rfl, ?_⟩
      rw [create_fst hr hb hempty.onHost, Spec.plan, OffsetSpec.Empty.plan_eq_error hempty hout]
      rfl
    | strided s => exact absurd trivial hout
    | points s => exact absurd trivial hout

/-- Two components, and rows of weights for the nodes that are not there. -/
def noElements (lSize : Nat) : OffsetSpec where
  numElem := 0
  elemSize := 1
  numComp := 2
  compStride := 1
  lSize := lSize
  offsets := .owned #[]
  orientation := .curl (.owned #[])

theorem empty_noElements (lSize : Nat) : (Spec.offsets (noElements lSize)).Empty :=
  ⟨rfl, rfl, Nat.le_refl 1, Nat.le_refl 1, show 1 ≤ 2 by decide, Nat.le_refl 1, rfl, rfl⟩

/-- An L-vector of one entry has no room for a second component. -/
theorem empty_creation_exact_noElements :
    let ctx : Context Unit Int := referenceContext false
    let s : Session Unit Int := single () false (.offsets (noElements 2))
    (outcome (create ctx (.offsets (noElements 2)) "r") (start ⟨[]⟩ ())).1.isOk ∧
      NothingToDo (.offsets (noElements 2)) s "r" ∧
      (outcome (create ctx (.offsets (noElements 1)) "r") (start ⟨[]⟩ ())).1 =
        .error (.error (.invalidParameter (.componentOutside 1 1 1))) := by
  intro ctx s
  have hr : ctx.resolve .createStandard = .ok ctx := resolve_referenceContext false .standard
  have hb : ctx.Builds stem := rfl
  have hlong := empty_creation_exact (.offsets (noElements 2)) (empty_noElements 2)
    (show 2 < 2 ^ 64 by decide) hr hb "r" (start ⟨[]⟩ ())
  have hshort := empty_creation_exact (.offsets (noElements 1)) (empty_noElements 1)
    (show 1 < 2 ^ 64 by decide) hr hb "r" (start ⟨[]⟩ ())
  refine ⟨hlong.1.2 (.inr (show 1 < 2 by decide)), ?_, ?_⟩
  · exact hlong.2.2 s "r" .full (descends_single () false (.offsets (noElements 2)) hb rfl rfl)
  · obtain ⟨os, hos, herror⟩ := hshort.2.1 (by simp [Spec.LastComponentInside, noElements])
    cases hos
    exact herror

/-- So a request that has nothing to address is turned down for what it would address. -/
theorem refused_without_elements :
    let spec : Spec := .offsets { noElements 1 with orientation := .plain }
    let ctx : Context Unit Int := referenceContext false
    spec.Empty ∧ (outcome (create ctx spec "r") (start ⟨[]⟩ ())).1 =
      .error (.error (.invalidParameter (.componentOutside 1 1 1))) :=
  ⟨⟨rfl, rfl, Nat.le_refl 1, Nat.le_refl 1, by decide, Nat.le_refl 1, rfl, rfl⟩, rfl⟩

end Session

end GatherScatter
