import GatherScatter.Proofs.BlockInvariance
import GatherScatter.Proofs.Creation.Offsets

/-!
# The values of a forward apply

What a restriction without blocks gathers is said by its request alone: the value of a node is the
L-vector entry behind its offset or its strides, with a sign, or a row of three weights applied to
the node and the nodes next to it. The definitions here follow the request, element by element, and
know nothing of blocks, of places in blocked arrays or of checks.

* `OffsetSpec.nodeValue`, `StridedSpec.nodeValue`: the value that a request defines for a node.
* `OffsetSpec.gathered_eq`: the loops over blocks compute it.
* `forward_values`: a forward apply puts these values, whatever was in their place, and nothing
  else.
-/
namespace GatherScatter

/-! ## What a request defines -/

/-- Weights with which a node and its neighbours enter the node. -/
structure CurlRow where
  sub : Int
  diag : Int
  super : Int

namespace CurlRow

/-- Row of node `n` of element `e`: three entries of an array with `3 * elemSize` entries for each
element. -/
def stored (rows : Array Int) (elemSize e n : Nat) : CurlRow :=
  let i := e * (3 * elemSize) + 3 * n
  ⟨rows.getD i 0, rows.getD (i + 1) 0, rows.getD (i + 2) 0⟩

/-- The row of absolute values. -/
def abs (r : CurlRow) : CurlRow := ⟨r.sub.natAbs, r.diag.natAbs, r.super.natAbs⟩

variable {α : Type} [Add α] [Mul α] [IntCast α]

/-- The row of node `n` applied to the values of `elemSize` nodes: first the node itself, then the
one before it and the one after it, if they are there. -/
def apply (r : CurlRow) (elemSize : Nat) (x : Nat → α) (n : Nat) : α :=
  let own := (r.diag : α) * x n
  let withSub := if 0 < n then own + (r.sub : α) * x (n - 1) else own
  if n + 1 < elemSize then withSub + (r.super : α) * x (n + 1) else withSub

end CurlRow

namespace OffsetSpec

/-- L-vector entry of component `k`, node `n` of element `e`. -/
def lEntry (s : OffsetSpec) (e k n : Nat) : Nat :=
  (s.offsets.entries.getD (e * s.elemSize + n) 0).toNat + k * s.compStride

/-- Sign of node `n` of element `e`: a flipped node counts negative, in full mode alone. -/
def sign (s : OffsetSpec) (mode : Mode) (e n : Nat) : Int :=
  match s.orientation, mode with
  | .signs flips, .full => if flips.entries.getD (e * s.elemSize + n) false then -1 else 1
  | _, _ => 1

/-- Row of node `n` of element `e`, if the orientation has rows and the mode uses them. -/
def row? (s : OffsetSpec) (mode : Mode) (e n : Nat) : Option CurlRow :=
  match s.orientation, mode with
  | .curl rows, .full => some (.stored rows.entries s.elemSize e n)
  | .curl rows, .unsigned => some (CurlRow.stored rows.entries s.elemSize e n).abs
  | _, _ => none

variable {α : Type} [Add α] [Mul α] [IntCast α]

/-- Value of component `k`, node `n` of element `e`, read from the L-vector `u`. -/
def nodeValue (s : OffsetSpec) (mode : Mode) (u : Array α) (e k n : Nat) : α :=
  let x (m : Nat) : α := Buffer.entry u (s.lEntry e k m)
  match s.row? mode e n with
  | some r => r.apply s.elemSize x n
  | none => (s.sign mode e n : α) * x n

end OffsetSpec

/-- Value of component `k`, node `n` of element `e`, read from the L-vector `u`. -/
def StridedSpec.nodeValue {α : Type} [Mul α] [IntCast α] (s : StridedSpec) (u : Array α)
    (e k n : Nat) : α :=
  ((1 : Int) : α) *
    Buffer.entry u (n * s.effective.node + k * s.effective.comp + e * s.effective.elem)

/-! ## What the loops compute -/

namespace OffsetSpec

variable {s : OffsetSpec} {mode : Mode} {e n : Nat}

/-- Where there are no rows, nodes stand for themselves and have their sign. -/
theorem stencil_of_no_row (h : s.row? mode e n = none) :
    s.stencil.coupled mode = false ∧ s.stencil.weight mode e n n = s.sign mode e n := by
  unfold row? at h
  unfold stencil sign
  cases ho : s.orientation with
  | plain => exact ⟨rfl, rfl⟩
  | signs flips => cases mode <;> exact ⟨rfl, rfl⟩
  | curl rows =>
    rw [ho] at h
    cases mode with
    | full => cases h
    | unsigned => cases h
    | unoriented => exact ⟨rfl, rfl⟩

/-- The weights of a row are those with which the nodes enter each other. -/
theorem stencil_of_row {r : CurlRow} (h : s.row? mode e n = some r) :
    s.stencil.coupled mode = true ∧ s.stencil.weight mode e n n = r.diag ∧
      (0 < n → s.stencil.weight mode e n (n - 1) = r.sub) ∧
      s.stencil.weight mode e n (n + 1) = r.super := by
  -- three entries for each node, the middle one for the node itself
  have hsub (hn : 0 < n) : 3 * n + (n - 1 + 1 - n) = 3 * n := by omega
  unfold row? at h
  unfold stencil
  cases ho : s.orientation with
  | plain => simp [ho] at h
  | signs flips => simp [ho] at h
  | curl rows =>
    rw [ho] at h
    cases mode with
    | full =>
      cases h
      refine ⟨rfl, ?_, fun hn => ?_, ?_⟩
      · simp [CurlRow.stored, Nat.add_assoc]
      · simp [CurlRow.stored, hsub hn]
      · simp [CurlRow.stored, Nat.add_assoc]
    | unsigned =>
      cases h
      refine ⟨rfl, ?_, fun hn => ?_, ?_⟩
      · simp [CurlRow.stored, CurlRow.abs, Nat.add_assoc]
      · simp [CurlRow.stored, CurlRow.abs, hsub hn]
      · simp [CurlRow.stored, CurlRow.abs, Nat.add_assoc]
    | unoriented => cases h

variable {α : Type} [Add α] [Mul α] [IntCast α]

/-- A node and its neighbours are added in the order of the row. -/
theorem gathered_eq (s : OffsetSpec) (mode : Mode) (u : Array α) (e k n : Nat) :
    s.stencil.gathered s.elemSize mode u e k n = s.nodeValue mode u e k n := by
  rw [Stencil.gathered, Stencil.weightedSum_neighbours]
  unfold nodeValue
  cases hr : s.row? mode e n with
  | none =>
    obtain ⟨hcoupled, hweight⟩ := stencil_of_no_row hr
    rw [hcoupled, hweight]
    rfl
  | some r =>
    obtain ⟨hcoupled, hdiag, hsub, hsuper⟩ := stencil_of_row hr
    rw [hcoupled, hdiag, if_pos rfl]
    have haddress (m : Nat) : s.stencil.address e k m = s.lEntry e k m := rfl
    unfold CurlRow.apply
    by_cases h0 : 0 < n <;> simp [h0, hsub, hsuper, haddress]

end OffsetSpec

namespace Session

open GatherScatter.Reference

variable {σ α : Type} [Add α] [Mul α] [IntCast α]

/-- A forward apply through `name`, on vectors that are long enough, leaves the length of its output
and the entries behind the E-vector alone, and puts `value u e k n` for component `k`, node `n` of
element `e`. -/
def GathersValues (spec : Spec) (value : Array α → Nat → Nat → Nat → α) (s : Session σ α)
    (name : String) : Prop :=
  ∀ u v : Array α, spec.lSize ≤ u.size → spec.numElem * spec.elemSize * spec.numComp ≤ v.size →
    ∃ y, outcome (apply name .forward u v) s = (.ok y, s) ∧ y.size = v.size ∧
      (∀ i, spec.numElem * spec.elemSize * spec.numComp ≤ i → y[i]? = v[i]?) ∧
      ∀ e < spec.numElem, ∀ k < spec.numComp, ∀ n < spec.elemSize,
        y[e * spec.elemSize * spec.numComp + k * spec.elemSize + n]? = some (value u e k n)

theorem Serves.gathersValues {s : Session σ α} {name resource : String} {op : Operator}
    {mode : Mode} (h : s.Serves name resource op mode) {spec : Spec} {t : Stencil}
    (hop : op.Realizes t) (hfits : op.shape.Fits spec 1) :
    GathersValues spec (t.gathered spec.elemSize mode) s name := by
  intro u v hu hv
  rw [← hfits.lSize] at hu
  rw [← hfits.eSize_one hop] at hv ⊢
  refine ⟨_, h.outcome_apply_ok (.nodes t hop) (d := .forward) hu hv
    (hop.apply_eq_ok mode (d := .forward) hu hv), Buffer.size_putAll _ _, ?_, ?_⟩
  · intro i hi
    exact hop.getElem?_gather_of_le mode u v hi
  · intro e he k hk n hn
    exact hfits.getElem?_gather_one hop mode hv he hk hn

/-- Without blocks, a forward apply in any mode puts for each node the value that the request
defines, whatever was in its place, and leaves everything behind the E-vector alone. By offsets and
by strides, the vectors that are long enough are those as long as the restriction says, and all
values are read inside of the L-vector and of the arrays of the request. -/
theorem forward_values {resource name : String} {s : Session σ α} {mode : Mode} :
    (∀ spec : OffsetSpec, spec.blockSize = 1 → OnReference resource (.offsets spec) s name mode →
      (∃ d, outcome (restriction name) s = (.ok d, s) ∧ d.shape.lSize = spec.lSize ∧
        d.shape.eSize = spec.numElem * spec.elemSize * spec.numComp) ∧
      spec.WellSized ∧ (∀ o ∈ spec.offsets.entries, spec.Addresses o) ∧
      GathersValues (.offsets spec) (spec.nodeValue mode) s name) ∧
    ∀ spec : StridedSpec, spec.blockSize = 1 → OnReference resource (.strided spec) s name mode →
      (∃ d, outcome (restriction name) s = (.ok d, s) ∧ d.shape.lSize = spec.lSize ∧
        d.shape.eSize = spec.numElem * spec.elemSize * spec.numComp) ∧
      (∀ n < spec.elemSize, ∀ k < spec.numComp, ∀ e < spec.numElem,
        n * spec.effective.node + k * spec.effective.comp + e * spec.effective.elem <
          spec.lSize) ∧
      GathersValues (.strided spec) spec.nodeValue s name := by
  constructor
  · intro spec hone h
    obtain ⟨shape, data, op, hp, hm, rfl, hop, hserves⟩ := h.serves
    have hfits : op.shape.Fits (.offsets spec) 1 := by
      rw [(OffsetSpec.planned_of_plan hp).shape_eq]
      exact ⟨rfl, rfl, rfl, rfl, hone⟩
    obtain ⟨d, hd, hshape⟩ := hserves.exists_restriction
    have hvalues := hserves.gathersValues hop hfits
    have hgathered : spec.stencil.gathered spec.elemSize mode =
        (spec.nodeValue mode : Array α → Nat → Nat → Nat → α) := by
      funext u e k n
      exact spec.gathered_eq mode u e k n
    refine ⟨⟨d, hd, by rw [hshape]; exact hfits.lSize, by rw [hshape]; exact hfits.eSize_one hop⟩,
      OffsetSpec.wellSized_of_plan hp, OffsetSpec.addresses_of_plan hm hp, ?_⟩
    rw [← hgathered]
    exact hvalues
  · intro spec hone h
    obtain ⟨shape, data, op, hp, -, rfl, hop, hserves⟩ := h.serves
    have hplanned := StridedSpec.planned_of_plan hp
    have hfits : op.shape.Fits (.strided spec) 1 := by
      rw [hplanned.shape_eq]
      exact ⟨rfl, rfl, rfl, rfl, hone⟩
    obtain ⟨d, hd, hshape⟩ := hserves.exists_restriction
    exact ⟨⟨d, hd, by rw [hshape]; exact hfits.lSize, by rw [hshape]; exact hfits.eSize_one hop⟩,
      hplanned.inside, hserves.gathersValues hop hfits⟩

/-- The middle node of the second element has neighbours on both sides, and the last entry of the
output lies behind the E-vector. Strides that overlap need no more of the L-vector than it has. -/
theorem forward_values_curlLine :
    let s : Session Unit Int := (single () true Spec.curlLine).after (.derive "r" .unsigned "u")
    let strided : StridedSpec :=
      { numElem := 2, elemSize := 2, numComp := 2, lSize := 8, strides := ⟨3, 1, 2⟩ }
    let s' : Session Unit Int := single () false (.strided strided)
    OnReference stem Spec.curlLine s "u" .unsigned ∧
      OnReference stem (.strided strided) s' "r" .full ∧
      (∃ y, outcome (apply "u" .forward #[1, 2, 3, 4, 5] #[9, 9, 9, 9, 9, 9, 8]) s = (.ok y, s) ∧
        y[4]? = some (1 * 4 + 1 * 3 + 1 * 5) ∧ y[6]? = some 8) ∧
      ∃ y, outcome (apply "r" .forward #[0, 1, 2, 3, 4, 5, 6, 7] (Array.replicate 8 9)) s' =
        (.ok y, s') ∧ y[7]? = some 6 := by
  intro s strided s'
  have h : OnReference stem Spec.curlLine s "u" .unsigned :=
    (onReference_single () true Spec.curlLine rfl rfl).derive .unsigned "u"
  have h' : OnReference stem (.strided strided) s' "r" .full :=
    onReference_single () false (.strided strided) (by decide) trivial
  obtain ⟨-, -, -, hvalues⟩ := forward_values.1 _ rfl h
  obtain ⟨-, -, hvalues'⟩ := forward_values.2 _ rfl h'
  obtain ⟨y, hy, -, htail, hnode⟩ :=
    hvalues #[1, 2, 3, 4, 5] #[9, 9, 9, 9, 9, 9, 8] (by decide) (by decide)
  obtain ⟨y', hy', -, -, hnode'⟩ :=
    hvalues' #[0, 1, 2, 3, 4, 5, 6, 7] (Array.replicate 8 9) (by decide) (by decide)
  refine ⟨h, h', ⟨y, hy, ?_, htail 6 (by decide)⟩, y', hy', ?_⟩
  · exact hnode 1 (by decide) 0 (by decide) 1 (by decide)
  · exact hnode' 1 (by decide) 1 (by decide) 1 (by decide)

end Session

end GatherScatter
