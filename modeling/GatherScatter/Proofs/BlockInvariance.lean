import GatherScatter.Proofs.Reference.Blocks
import GatherScatter.Proofs.Session.Reference

/-!
# Blocking is invisible up to layout

One request, created once without blocks and once with blocks of `B` elements, gives two
restrictions that do the same in two layouts of the E-vector: entry `(k * E + n) * B + j` of block
`b` of the one belongs to entry `k * E + n` of element `b * B + j` of the other. Lanes past the last
element repeat it in a forward apply and do not count in a transposed one.

* `BlockPair`: handles on two such restrictions.
* `blocks_invisible`: both directions through these handles.
-/
namespace GatherScatter

namespace Spec

/-- The request with blocks of `n` elements; one onto points has no blocks. -/
def withBlockSize : Spec → Nat → Spec
  | offsets s, n => .offsets { s with blockSize := n }
  | strided s, n => .strided { s with blockSize := n }
  | points s, _ => .points s

def numElem : Spec → Nat
  | offsets s => s.numElem
  | strided s => s.numElem
  | points s => s.numElem

/-- Nodes per element; those of a request onto points differ. -/
def elemSize : Spec → Nat
  | offsets s => s.elemSize
  | strided s => s.elemSize
  | points _ => 0

def numComp : Spec → Nat
  | offsets s => s.numComp
  | strided s => s.numComp
  | points s => s.numComp

def lSize : Spec → Nat
  | offsets s => s.lSize
  | strided s => s.lSize
  | points s => s.lSize

/-- A request for elements of nodes, by offsets or by strides. -/
inductive HasNodes : Spec → Prop
  | offsets (s : OffsetSpec) : HasNodes (.offsets s)
  | strided (s : StridedSpec) : HasNodes (.strided s)

end Spec

/-- A shape for the request `spec` with blocks of `B` elements. -/
structure Shape.Fits (shape : Shape) (spec : Spec) (B : Nat) : Prop where
  numElem : shape.numElem = spec.numElem
  elemSize : shape.elemSize = spec.elemSize
  numComp : shape.numComp = spec.numComp
  lSize : shape.lSize = spec.lSize
  blockSize : shape.blockSize = B

namespace Shape.Fits

open Reference

variable {shape : Shape} {spec : Spec} {B : Nat}

theorem place_eq (h : shape.Fits spec B) (b k n j : Nat) :
    Operator.place shape b ⟨k, n, j⟩ =
      b * B * spec.elemSize * spec.numComp + (k * spec.elemSize + n) * B + j := by
  simp only [Operator.place, Operator.position, Shape.blockLen, h.blockSize, h.elemSize, h.numComp]
  ring

theorem eSize_eq {op : Operator} {t : Stencil} (h : op.shape.Fits spec B) (hop : op.Realizes t) :
    op.shape.eSize = numBlocks spec.numElem B * B * spec.elemSize * spec.numComp := by
  rw [hop.eSize_eq, hop.numBlock_eq, Shape.blockLen, h.numElem, h.blockSize, h.elemSize, h.numComp]
  ring

/-! Without blocks, the elements follow each other in the E-vector. -/

theorem eSize_one {op : Operator} {t : Stencil} (h : op.shape.Fits spec 1) (hop : op.Realizes t) :
    op.shape.eSize = spec.numElem * spec.elemSize * spec.numComp := by
  rw [h.eSize_eq hop, numBlocks_one, Nat.mul_one]

theorem place_one (h : shape.Fits spec 1) (e k n : Nat) :
    Operator.place shape e ⟨k, n, 0⟩ =
      e * spec.elemSize * spec.numComp + k * spec.elemSize + n := by
  rw [h.place_eq, Nat.mul_one, Nat.mul_one, Nat.add_zero, ← Nat.add_assoc]

theorem getElem?_gather_one {α : Type} [Add α] [Mul α] [IntCast α] {op : Operator} {t : Stencil}
    (h : op.shape.Fits spec 1) (hop : op.Realizes t) (mode : Mode) {u v : Array α}
    (hv : op.shape.eSize ≤ v.size) {e k n : Nat} (he : e < spec.numElem) (hk : k < spec.numComp)
    (hn : n < spec.elemSize) :
    (Buffer.putAll v (Operator.puts op.shape t mode u))[e * spec.elemSize * spec.numComp +
      k * spec.elemSize + n]? = some (t.gathered spec.elemSize mode u e k n) := by
  rw [← h.numElem] at he
  rw [← h.place_one, hop.getElem?_gather mode hv _ (by rwa [h.numComp]) (by rwa [h.elemSize])
    (by rw [h.blockSize]; omega), Operator.elemAt_one h.blockSize he, h.elemSize]
  rw [hop.numBlock_one h.blockSize]
  exact he

end Shape.Fits

open Reference in
/-- Whatever the block size, operators for one request realize one stencil. -/
theorem Spec.HasNodes.exists_realizes {spec : Spec} (h : spec.HasNodes) :
    ∃ t : Stencil, ∀ B shape data (op : Operator),
      (spec.withBlockSize B).plan = .ok (shape, data) → op.Implements (spec.withBlockSize B) →
        shape.Fits spec B ∧ op.Realizes t := by
  cases h with
  | offsets s =>
    refine ⟨s.stencil, fun B shape data op hp himp => ⟨?_, himp⟩⟩
    rw [(OffsetSpec.planned_of_plan hp).shape_eq]
    exact ⟨rfl, rfl, rfl, rfl, rfl⟩
  | strided s =>
    refine ⟨s.stencil, fun B shape data op hp himp => ⟨?_, himp⟩⟩
    rw [(StridedSpec.planned_of_plan hp).shape_eq]
    exact ⟨rfl, rfl, rfl, rfl, rfl⟩

namespace Session

open GatherScatter.Reference Operator

/-- Handles in the same mode on restrictions of the reference backend that were made from one
request, without blocks and with blocks of `B` elements. -/
structure BlockPair {σ σ' α : Type} [Add α] [Mul α] [IntCast α] (spec : Spec) (B : Nat)
    (mode : Mode) (s : Session σ α) (name : String) (s' : Session σ' α) (name' : String) :
    Prop where
  nodes : spec.HasNodes
  unblocked : ∃ resource, OnReference resource (spec.withBlockSize 1) s name mode
  blocked : ∃ resource, OnReference resource (spec.withBlockSize B) s' name' mode

/-- Forward applies of one L-vector, with blocks through `name'` and without through `name`, put the
same value for lane `j` of block `b` and for its element: the last one, if the lane is padding. -/
def ForwardAgrees {σ σ' α : Type} (spec : Spec) (B : Nat) (s : Session σ α) (name : String)
    (s' : Session σ' α) (name' : String) : Prop :=
  ∀ x y y' : Array α, spec.lSize ≤ x.size →
    spec.numElem * spec.elemSize * spec.numComp ≤ y.size →
    numBlocks spec.numElem B * B * spec.elemSize * spec.numComp ≤ y'.size →
    ∃ z z', outcome (apply name .forward x y) s = (.ok z, s) ∧
      outcome (apply name' .forward x y') s' = (.ok z', s') ∧
      ∀ b < numBlocks spec.numElem B, ∀ k < spec.numComp, ∀ n < spec.elemSize, ∀ j < B,
        ∃ a, z'[b * B * spec.elemSize * spec.numComp + (k * spec.elemSize + n) * B + j]? = some a ∧
          z[min (b * B + j) (spec.numElem - 1) * spec.elemSize * spec.numComp +
            k * spec.elemSize + n]? = some a

/-- Transposed applies, with blocks through `name'` and without through `name`, do the same to every
L-vector if their inputs hold the same value for each node of each element. -/
def TransposeAgrees {σ σ' α : Type} (spec : Spec) (B : Nat) (s : Session σ α) (name : String)
    (s' : Session σ' α) (name' : String) : Prop :=
  ∀ w w' v : Array α, spec.numElem * spec.elemSize * spec.numComp ≤ w.size →
    numBlocks spec.numElem B * B * spec.elemSize * spec.numComp ≤ w'.size → spec.lSize ≤ v.size →
    (∀ e < spec.numElem, ∀ k < spec.numComp, ∀ n < spec.elemSize,
      w[e * spec.elemSize * spec.numComp + k * spec.elemSize + n]? =
        w'[e / B * B * spec.elemSize * spec.numComp + (k * spec.elemSize + n) * B + e % B]?) →
    ∃ v', outcome (apply name .transpose w v) s = (.ok v', s) ∧
      outcome (apply name' .transpose w' v) s' = (.ok v', s')

/-- Transposed applies with blocks do not depend on the padding lanes of their input. -/
def PaddingIgnored {σ α : Type} (spec : Spec) (B : Nat) (s : Session σ α) (name : String) : Prop :=
  ∀ w w' v : Array α, numBlocks spec.numElem B * B * spec.elemSize * spec.numComp ≤ w.size →
    numBlocks spec.numElem B * B * spec.elemSize * spec.numComp ≤ w'.size →
    spec.lSize ≤ v.size →
    (∀ b < numBlocks spec.numElem B, ∀ k < spec.numComp, ∀ n < spec.elemSize, ∀ j < B,
      b * B + j < spec.numElem →
        w[b * B * spec.elemSize * spec.numComp + (k * spec.elemSize + n) * B + j]? =
          w'[b * B * spec.elemSize * spec.numComp + (k * spec.elemSize + n) * B + j]?) →
    ∃ v', outcome (apply name .transpose w v) s = (.ok v', s) ∧
      outcome (apply name .transpose w' v) s = (.ok v', s)

section

variable {σ σ' α : Type} [Add α] [Mul α] [IntCast α] {spec : Spec} {B : Nat} {mode : Mode}
  {s : Session σ α} {s' : Session σ' α} {name name' : String}

theorem BlockPair.operators (h : BlockPair spec B mode s name s' name') :
    ∃ (t : Stencil) (op op' : Operator) (resource resource' : String),
      (op.shape.Fits spec 1 ∧ op.Realizes t ∧ s.Serves name resource op mode) ∧
      op'.shape.Fits spec B ∧ op'.Realizes t ∧ s'.Serves name' resource' op' mode := by
  obtain ⟨hnodes, ⟨resource, h₁⟩, resource', h₂⟩ := h
  obtain ⟨t, ht⟩ := hnodes.exists_realizes
  obtain ⟨shape, data, op, hp, -, hs, himp, hserves⟩ := h₁.serves
  obtain ⟨shape', data', op', hp', -, hs', himp', hserves'⟩ := h₂.serves
  obtain ⟨hfits, hop⟩ := ht 1 shape data op hp himp
  obtain ⟨hfits', hop'⟩ := ht B shape' data' op' hp' himp'
  exact ⟨t, op, op', resource, resource', ⟨hs ▸ hfits, hop, hserves⟩, hs' ▸ hfits', hop', hserves'⟩

theorem BlockPair.forwardAgrees (h : BlockPair spec B mode s name s' name') :
    ForwardAgrees spec B s name s' name' := by
  intro x y y' hx hy hy'
  obtain ⟨t, op, op', resource, resource', ⟨hfits, hop, hserves⟩, hfits', hop', hserves'⟩ :=
    h.operators
  have hlen := hfits.eSize_one hop
  have hlen' := hfits'.eSize_eq hop'
  rw [← hfits.lSize] at hx
  have hx' : op'.shape.lSize ≤ x.size := by rwa [hfits'.lSize, ← hfits.lSize]
  rw [← hlen] at hy
  rw [← hlen'] at hy'
  refine ⟨_, _, hserves.outcome_apply_ok (.nodes t hop) (d := .forward) hx hy
    (hop.apply_eq_ok mode (d := .forward) hx hy),
    hserves'.outcome_apply_ok (.nodes t hop') (d := .forward) hx' hy'
      (hop'.apply_eq_ok mode (d := .forward) hx' hy'), ?_⟩
  intro b hb k hk n hn j hj
  -- the element in this lane
  have hlane : elemAt op'.shape b j = min (b * B + j) (spec.numElem - 1) := by
    rw [elemAt, hfits'.numElem, hfits'.blockSize, Blocking.laneElem]
  rw [← hfits'.numElem, ← hfits'.blockSize, ← hop'.numBlock_eq] at hb
  have he := hop'.elemAt_lt hb j
  rw [hlane, hfits'.numElem] at he
  refine ⟨t.gathered spec.elemSize mode x (min (b * B + j) (spec.numElem - 1)) k n, ?_,
    hfits.getElem?_gather_one hop mode hy he hk hn⟩
  rw [← hfits'.place_eq, hop'.getElem?_gather mode hy' hb (by rwa [hfits'.numComp])
    (by rwa [hfits'.elemSize]) (by rwa [hfits'.blockSize]), hlane, hfits'.elemSize]

theorem BlockPair.paddingIgnored (h : BlockPair spec B mode s name s' name') :
    PaddingIgnored spec B s' name' := by
  intro w w' v hw hw' hv hagree
  obtain ⟨t, -, op', -, resource', -, hfits', hop', hserves'⟩ := h.operators
  have hlen' := hfits'.eSize_eq hop'
  rw [← hfits'.lSize] at hv
  rw [← hlen'] at hw hw'
  have hterms : terms op'.shape t mode w = terms op'.shape t mode w' := by
    refine hop'.terms_congr mode fun i hi hpad => ?_
    rw [hop'.eSize_eq, ← List.mem_range, ← visits_map_place] at hi
    obtain ⟨⟨b, k, n, j⟩, hx, rfl⟩ := List.mem_map.1 hi
    rw [isPadding_place hop'.notPoints hx, decide_eq_false_iff_not, hfits'.numElem,
      hfits'.blockSize] at hpad
    obtain ⟨hb, hk, hn, hj⟩ := mem_visits.1 hx
    dsimp only at hb hk hn hj hpad ⊢
    rw [hfits'.place_eq]
    rw [hop'.numBlock_eq, hfits'.numElem, hfits'.blockSize] at hb
    rw [hfits'.numComp] at hk
    rw [hfits'.elemSize] at hn
    rw [hfits'.blockSize] at hj
    exact hagree b hb k hk n hn j hj (Nat.lt_of_not_le hpad)
  refine ⟨_, hserves'.outcome_apply_ok (.nodes t hop') (d := .transpose) hw hv
    (hop'.apply_eq_ok mode (d := .transpose) hw hv),
    hserves'.outcome_apply_ok (.nodes t hop') (d := .transpose) hw' hv ?_⟩
  rw [hop'.apply_eq_ok mode (d := .transpose) hw' hv]
  dsimp only
  rw [hterms]

end

/-- The terms of an entry come in another order, so sums must not depend on it. -/
theorem BlockPair.transposeAgrees {σ σ' R : Type} [CommRing R] {spec : Spec} {B : Nat}
    {mode : Mode} {s : Session σ R} {s' : Session σ' R} {name name' : String}
    (h : BlockPair spec B mode s name s' name') : TransposeAgrees spec B s name s' name' := by
  intro w w' v hw hw' hv hagree
  obtain ⟨t, op, op', resource, resource', ⟨hfits, hop, hserves⟩, hfits', hop', hserves'⟩ :=
    h.operators
  have hlen := hfits.eSize_one hop
  have hlen' := hfits'.eSize_eq hop'
  rw [← hfits.lSize] at hv
  have hv' : op'.shape.lSize ≤ v.size := by rwa [hfits'.lSize, ← hfits.lSize]
  rw [← hlen] at hw
  rw [← hlen'] at hw'
  have hsame : Buffer.addAll v (terms op.shape t mode w) =
      Buffer.addAll v (terms op'.shape t mode w') := by
    refine hop'.addAll_terms_eq hop (by rw [hfits.numElem, hfits'.numElem])
      (by rw [hfits.numComp, hfits'.numComp]) (by rw [hfits.elemSize, hfits'.elemSize]) mode
      fun e he k hk n hn => ?_
    rw [hfits'.numElem] at he
    rw [hfits'.numComp] at hk
    rw [hfits'.elemSize] at hn
    rw [hfits.blockSize, hfits'.blockSize, Nat.div_one, Nat.mod_one, hfits.place_one,
      hfits'.place_eq]
    exact hagree e he k hk n hn
  refine ⟨_, hserves.outcome_apply_ok (.nodes t hop) (d := .transpose) hw hv
    (hop.apply_eq_ok mode (d := .transpose) hw hv),
    hserves'.outcome_apply_ok (.nodes t hop') (d := .transpose) hw' hv' ?_⟩
  rw [hop'.apply_eq_ok mode (d := .transpose) hw' hv']
  exact congrArg Except.ok hsame.symm

/-- Blocks change the layout of the E-vector and nothing else. A forward apply needs no law of the
scalars for that, since it computes every value as it would without blocks; a transposed apply needs
those of a commutative ring, since it adds in another order. -/
theorem blocks_invisible (spec : Spec) (B : Nat) (mode : Mode) :
    (∀ {σ σ' α : Type} [Add α] [Mul α] [IntCast α] {s : Session σ α} {s' : Session σ' α}
      {name name' : String}, BlockPair spec B mode s name s' name' →
        ForwardAgrees spec B s name s' name' ∧ PaddingIgnored spec B s' name') ∧
    ∀ {σ σ' R : Type} [CommRing R] {s : Session σ R} {s' : Session σ' R} {name name' : String},
      BlockPair spec B mode s name s' name' → TransposeAgrees spec B s name s' name' :=
  ⟨fun h => ⟨h.forwardAgrees, h.paddingIgnored⟩, fun h => h.transposeAgrees⟩

/-- Three elements in blocks of two, so the last block has one lane of padding. -/
theorem blocks_invisible_orientedLine :
    let spec := Spec.orientedLine 1
    let s : Session Unit Int := single () true (spec.withBlockSize 1)
    let s' : Session Unit Int := single () false (spec.withBlockSize 2)
    BlockPair spec 2 .full s "r" s' "r" ∧ ForwardAgrees spec 2 s "r" s' "r" ∧
      PaddingIgnored spec 2 s' "r" ∧ TransposeAgrees spec 2 s "r" s' "r" := by
  intro spec s s'
  have h : BlockPair spec 2 .full s "r" s' "r" :=
    ⟨.offsets _, ⟨stem, onReference_single () true (spec.withBlockSize 1) rfl rfl⟩,
      ⟨stem, onReference_single () false (spec.withBlockSize 2) rfl rfl⟩⟩
  have hall := blocks_invisible spec 2 .full
  exact ⟨h, (hall.1 h).1, (hall.1 h).2, hall.2 h⟩

end Session

end GatherScatter
