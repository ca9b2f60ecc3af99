import GatherScatter.Proofs.BlockInvariance
import GatherScatter.Proofs.Reference.Parts

/-!
# Block by block

The blocks of an E-vector follow each other without gaps, so the whole can be applied block by
block, each block with a vector of its own.

* `GathersByBlock`: a forward apply to a block gives its part of a forward apply of the whole.
* `ScattersByBlock`: transposed applies to some blocks, one after the other, do what a transposed
  apply of the whole does.
* `blocks_make_whole`: both, in the order of the blocks; in sums that may be reordered, the blocks
  may be taken in any order.
-/
namespace GatherScatter

open Reference

theorem Spec.HasNodes.realizes {spec : Spec} (h : spec.HasNodes) {op : Operator}
    (hop : op.Implements spec) : ∃ t : Stencil, op.Realizes t := by
  cases h with
  | offsets s => exact ⟨s.stencil, hop⟩
  | strided s => exact ⟨s.stencil, hop⟩

/-- The blocks fill the E-vector. -/
theorem Spec.HasNodes.eSize_eq {spec : Spec} (h : spec.HasNodes) {shape : Shape}
    {data : IndexData} (hp : spec.plan = .ok (shape, data)) :
    shape.eSize = shape.numBlock * shape.blockLen := by
  cases h with
  | offsets s =>
    rw [(OffsetSpec.planned_of_plan hp).shape_eq]
    simp only [Shape.blockLen, Nat.mul_assoc]
  | strided s =>
    rw [(StridedSpec.planned_of_plan hp).shape_eq]
    simp only [Shape.blockLen, Nat.mul_assoc]

namespace Session

open Operator

/-- What a handle on a restriction with nodes finds. -/
theorem OnReference.serves_nodes {σ α : Type} [Add α] [Mul α] [IntCast α] {resource name : String}
    {spec : Spec} {s : Session σ α} {mode : Mode} (h : OnReference resource spec s name mode)
    (hspec : spec.HasNodes) {shape : Shape} {data : IndexData}
    (hp : spec.plan = .ok (shape, data)) :
    ∃ (t : Stencil) (op : Operator), op.shape = shape ∧ op.Realizes t ∧
      s.Serves name resource op mode := by
  obtain ⟨shape', data', op, hp', -, hs, himp, hserves⟩ := h.serves
  rw [hp] at hp'
  cases hp'
  obtain ⟨t, hop⟩ := hspec.realizes himp
  exact ⟨t, op, hs, hop, hserves⟩

/-- Transposed applies to `blocks`, one after the other, each from its part of `w`, where a block
has `len` values. -/
def scatterBlocks {σ α : Type} (name : String) (len : Nat) (w : Array α) (blocks : List Nat)
    (v : Array α) : Act σ α (Array α) :=
  blocks.foldlM
    (fun v b => applyBlock name b .transpose (w.extract (b * len) (b * len + len)) v) v

/-- Forward applies of one L-vector: what a block of its own receives, whatever was in it, is the
part of that block in the whole. -/
def GathersByBlock {σ α : Type} (shape : Shape) (s : Session σ α) (name : String) : Prop :=
  ∀ u y : Array α, u.size = shape.lSize → shape.eSize ≤ y.size →
    ∃ z, outcome (apply name .forward u y) s = (.ok z, s) ∧
      ∀ b < shape.numBlock, ∀ v : Array α, v.size = shape.blockLen →
        outcome (applyBlock name b .forward u v) s =
          (.ok (z.extract (b * shape.blockLen) (b * shape.blockLen + shape.blockLen)), s)

/-- Transposed applies of one E-vector, as a whole and by `blocks`. -/
def ScattersByBlock {σ α : Type} (shape : Shape) (s : Session σ α) (name : String)
    (blocks : List Nat) : Prop :=
  ∀ w v : Array α, shape.eSize ≤ w.size → v.size = shape.lSize →
    ∃ z, outcome (apply name .transpose w v) s = (.ok z, s) ∧
      outcome (scatterBlocks name shape.blockLen w blocks v) s = (.ok z, s)

namespace Serves

variable {σ α : Type} [Add α] [Mul α] [IntCast α] {s : Session σ α} {name resource : String}
  {op : Operator} {mode : Mode} {t : Stencil}

theorem gathersByBlock (h : s.Serves name resource op mode) (hop : op.Realizes t) :
    GathersByBlock op.shape s name := by
  intro u y hu hy
  refine ⟨_, h.outcome_apply_ok (.nodes t hop) (d := .forward) (Nat.le_of_eq hu.symm) hy
    (hop.apply_eq_ok mode (d := .forward) (Nat.le_of_eq hu.symm) hy), ?_⟩
  intro b hb v hv
  rw [h.outcome_applyBlock_ok hop hb (d := .forward) hu hv]
  dsimp only
  rw [hop.putAll_blockPuts mode u hy hv hb]

/-- What the blocks add, one after the other. -/
theorem outcome_scatterBlocks (h : s.Serves name resource op mode) (hop : op.Realizes t)
    {w v : Array α} (hw : op.shape.eSize ≤ w.size) (hv : v.size = op.shape.lSize)
    {blocks : List Nat} (hblocks : ∀ b ∈ blocks, b < op.shape.numBlock) :
    outcome (scatterBlocks name op.shape.blockLen w blocks v) s =
      (.ok (Buffer.addAll v (blocks.flatMap fun b =>
        blockTerms op.shape t mode w (b * op.shape.blockLen) b)), s) := by
  rw [scatterBlocks, ← addAll_parts]
  apply outcome_foldlM fun v' => v'.size = op.shape.lSize
  · intro b hb v' hv'
    have hend := hop.block_end_le (hblocks b hb) hw
    have hpart : (w.extract (b * op.shape.blockLen)
        (b * op.shape.blockLen + op.shape.blockLen)).size = op.shape.blockLen := by
      rw [Array.size_extract]
      omega
    refine ⟨h.outcome_applyBlock_ok hop (hblocks b hb) (d := .transpose) hpart hv', ?_⟩
    rw [Buffer.size_addAll, hv']
  · exact hv

/-- Blocks that add up to what all of them add, in order, do what a transposed apply of the whole
does. -/
theorem scattersByBlock_of_sums (h : s.Serves name resource op mode) (hop : op.Realizes t)
    {blocks : List Nat} (hblocks : ∀ b ∈ blocks, b < op.shape.numBlock)
    (hsums : ∀ w v : Array α,
      Buffer.addAll v (blocks.flatMap fun b =>
        blockTerms op.shape t mode w (b * op.shape.blockLen) b) =
      Buffer.addAll v (terms op.shape t mode w)) :
    ScattersByBlock op.shape s name blocks := by
  intro w v hw hv
  have hwhole := h.outcome_apply_ok (.nodes t hop) (d := .transpose) hw (Nat.le_of_eq hv.symm)
    (hop.apply_eq_ok mode (d := .transpose) hw (Nat.le_of_eq hv.symm))
  refine ⟨_, hwhole, ?_⟩
  rw [h.outcome_scatterBlocks hop hw hv hblocks, hsums]

theorem scattersByBlock (h : s.Serves name resource op mode) (hop : op.Realizes t) :
    ScattersByBlock op.shape s name (List.range op.shape.numBlock) :=
  h.scattersByBlock_of_sums hop (fun _ hb => List.mem_range.1 hb) fun _ _ => rfl

theorem scattersByBlock_of_perm {R : Type} [CommRing R] {s : Session σ R}
    (h : s.Serves name resource op mode) (hop : op.Realizes t) {blocks : List Nat}
    (hperm : blocks.Perm (List.range op.shape.numBlock)) :
    ScattersByBlock op.shape s name blocks :=
  h.scattersByBlock_of_sums hop (fun _ hb => List.mem_range.1 (hperm.mem_iff.1 hb))
    fun w v => addAll_terms_of_perm op.shape t mode w v hperm

end Serves

/-- The whole and its blocks. The blocks have `shape.blockLen` values each and fill the E-vector. A
forward apply to a block gives its part of a forward apply of the whole. Transposed applies to the
parts of an E-vector, in the order of the blocks, add to every entry what a transposed apply of the
whole adds, in the same order, so that no law of the scalars is needed; those of a commutative ring
allow any order of the blocks. -/
theorem blocks_make_whole {spec : Spec} (hspec : spec.HasNodes) {shape : Shape} {data : IndexData}
    (hp : spec.plan = .ok (shape, data)) (mode : Mode) :
    shape.eSize = shape.numBlock * shape.blockLen ∧
    (∀ {σ α : Type} [Add α] [Mul α] [IntCast α] {s : Session σ α} {resource name : String},
      OnReference resource spec s name mode →
        GathersByBlock shape s name ∧ ScattersByBlock shape s name (List.range shape.numBlock)) ∧
    ∀ {σ R : Type} [CommRing R] {s : Session σ R} {resource name : String},
      OnReference resource spec s name mode →
        ∀ blocks : List Nat, blocks.Perm (List.range shape.numBlock) →
          ScattersByBlock shape s name blocks := by
  refine ⟨hspec.eSize_eq hp, ?_, ?_⟩
  · intro σ α _ _ _ s resource name h
    obtain ⟨t, op, rfl, hop, hserves⟩ := h.serves_nodes hspec hp
    exact ⟨hserves.gathersByBlock hop, hserves.scattersByBlock hop⟩
  · intro σ R _ s resource name h blocks hperm
    obtain ⟨t, op, rfl, hop, hserves⟩ := h.serves_nodes hspec hp
    exact hserves.scattersByBlock_of_perm hop hperm

/-- Three elements in blocks of two, with signs: the second block is half empty, and the blocks may
be taken backwards. -/
theorem blocks_make_whole_orientedLine :
    let spec := Spec.orientedLine 2
    let s : Session Unit Int := single () false spec
    ∃ shape data, spec.plan = .ok (shape, data) ∧ OnReference stem spec s "r" .full ∧
      GathersByBlock shape s "r" ∧ ScattersByBlock shape s "r" [0, 1] ∧
      ScattersByBlock shape s "r" [1, 0] := by
  intro spec s
  have h : OnReference stem spec s "r" .full := onReference_single () false spec rfl rfl
  have hp : spec.plan = .ok (_, _) := rfl
  obtain ⟨-, hwhole, hperm⟩ := blocks_make_whole (.offsets _) hp .full
  have hparts := hwhole h
  exact ⟨_, _, hp, h, hparts.1, hparts.2, hperm h [1, 0] (by decide)⟩

end Session

end GatherScatter
