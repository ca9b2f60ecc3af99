import GatherScatter.Proofs.Reference.Apply

/-!
# Modes as requests

An apply in another mode is a full apply of another request: the same offsets and sizes with an
orientation that the mode leaves nothing to do with. Signs go, rows of weights become their absolute
values or go as well.

* `OffsetSpec.inMode`: that request.
* `OffsetSpec.exists_plan_inMode`: it is accepted whenever the original one is, with the same shape
  up to its kind.
* `Stencil.Agree`, `OffsetSpec.agree_inMode`: both have the same addresses and weights.
* `Realizes.apply_agree`, `Realizes.applyBlock_agree`: so their operators apply alike, with or
  without a transpose map.
-/
namespace GatherScatter

/-- What is left of an orientation in a mode: a full apply with it does what an apply in the mode
does with the orientation itself. Weights are integers of any size, so the absolute value of each
is one too. -/
def Orientation.inMode : Orientation → Mode → Orientation
  | o, .full => o
  | .curl rows, .unsigned => .curl ⟨rows.mode, rows.entries.map fun x => (x.natAbs : Int)⟩
  | _, _ => .plain

/-- The orientation stays, goes, or has its weights replaced by their absolute values. -/
theorem Orientation.inMode_cases (o : Orientation) (mode : Mode) :
    o.inMode mode = o ∨ o.inMode mode = .plain ∨ ∃ rows, o = .curl rows ∧
      o.inMode mode = .curl ⟨rows.mode, rows.entries.map fun x => (x.natAbs : Int)⟩ := by
  cases o <;> cases mode <;> simp [inMode]

/-- The request whose full applies are those of `s` in the mode. -/
def OffsetSpec.inMode (s : OffsetSpec) (mode : Mode) : OffsetSpec :=
  { s with orientation := s.orientation.inMode mode }

/-! ## Plans -/

theorem Shape.blocked_kind {kind : Kind}
    {numElem elemSize blockSize numComp compStride lSize : Nat} {strides : Option Strides}
    {shape : Shape}
    (h : Shape.blocked kind numElem elemSize blockSize numComp compStride lSize strides =
      .ok shape) (kind' : Kind) :
    Shape.blocked kind' numElem elemSize blockSize numComp compStride lSize strides =
      .ok { shape with kind := kind' } := by
  unfold Shape.blocked at h ⊢
  obtain ⟨eSize, heSize, h⟩ := Loop.bind_eq_ok.1 h
  cases h
  exact Loop.bind_eq_ok.2 ⟨eSize, heSize, rfl⟩

namespace OffsetSpec

variable {s : OffsetSpec} {shape : Shape} {data : IndexData}

/-- Arrays of the right lengths have a blocked form. -/
theorem exists_data (hB : 0 < s.blockSize) (hlen : s.checkLengths = .ok ()) :
    ∃ data, s.data = .ok data := by
  obtain ⟨hoffsets, hflips, hrows⟩ := checkLengths_eq_ok hlen
  unfold OffsetSpec.data
  split
  · obtain ⟨out, hout⟩ := Blocking.exists_permutePad "offsets" hB hoffsets
    have hor : ∃ o, s.blockedOrientation = .ok o := by
      unfold blockedOrientation
      cases ho : s.orientation with
      | plain => exact ⟨.plain, rfl⟩
      | signs flips =>
        obtain ⟨signs, hsigns⟩ := Blocking.exists_permutePad "orientation" hB (hflips flips ho)
        exact ⟨_, Loop.bind_eq_ok.2 ⟨signs, hsigns, rfl⟩⟩
      | curl rows =>
        obtain ⟨curl, hcurl⟩ :=
          Blocking.exists_permutePad "curl orientation" hB (hrows rows ho)
        exact ⟨_, Loop.bind_eq_ok.2 ⟨curl, hcurl, rfl⟩⟩
    obtain ⟨o, ho⟩ := hor
    exact ⟨_, Loop.bind_eq_ok.2 ⟨out, hout, Loop.bind_eq_ok.2 ⟨o, ho, rfl⟩⟩⟩
  · exact ⟨_, rfl⟩

theorem checkLengths_inMode (h : s.checkLengths = .ok ()) (mode : Mode) :
    (s.inMode mode).checkLengths = .ok () := by
  unfold checkLengths at h ⊢
  obtain ⟨n, hn, h⟩ := Loop.bind_eq_ok.1 h
  obtain ⟨_, hoffsets, h⟩ := Loop.bind_eq_ok.1 h
  refine Loop.bind_eq_ok.2 ⟨n, hn, Loop.bind_eq_ok.2 ⟨_, hoffsets, ?_⟩⟩
  have horientation : (s.inMode mode).orientation = s.orientation.inMode mode := rfl
  rw [horientation]
  obtain hor | hor | ⟨rows, ho, hor⟩ := s.orientation.inMode_cases mode
  · rw [hor]
    exact h
  · rw [hor]
    rfl
  · rw [ho] at h
    rw [hor]
    dsimp only [IndexArray.size] at h ⊢
    rw [Array.size_map]
    exact h

/-- The request in a mode passes all checks that the original one passed. -/
theorem exists_plan_inMode (h : s.plan = .ok (shape, data)) (mode : Mode) :
    ∃ data', (s.inMode mode).plan =
      .ok ({ shape with kind := (s.inMode mode).orientation.kind }, data') := by
  obtain ⟨hsizes, hlen, hinside, hshape, -⟩ := plan_eq_ok_iff.1 h
  have hlen' := checkLengths_inMode hlen mode
  obtain ⟨data', hdata'⟩ := exists_data
    (show 0 < (s.inMode mode).blockSize from (Creation.checkSizes_eq_ok_iff.1 hsizes).2.1) hlen'
  exact ⟨data', plan_eq_ok_iff.2 ⟨hsizes, hlen', hinside, Shape.blocked_kind hshape _, hdata'⟩⟩

end OffsetSpec

/-! ## Applies -/

/-- Two stencils, each in a mode of its own, have the same addresses and weights. -/
structure Stencil.Agree (t : Stencil) (mode : Mode) (t' : Stencil) (mode' : Mode) : Prop where
  address : t.address = t'.address
  coupled : t.coupled mode = t'.coupled mode'
  weight : t.weight mode = t'.weight mode'

/-- A request in a mode has the addresses and weights that the mode leaves of the original one. -/
theorem OffsetSpec.agree_inMode (s : OffsetSpec) (mode : Mode) :
    s.stencil.Agree mode (s.inMode mode).stencil .full where
  address := rfl
  coupled := by
    unfold stencil inMode
    cases s.orientation <;> cases mode <;> rfl
  weight := by
    unfold stencil inMode
    funext e n m
    cases s.orientation with
    | plain => cases mode <;> rfl
    | signs flips => cases mode <;> rfl
    | curl rows =>
      cases mode with
      | full => rfl
      | unoriented => rfl
      | unsigned =>
        simp only [Orientation.inMode, Array.getD_eq_getD_getElem?, Array.getElem?_map]
        cases rows.entries[e * (3 * s.elemSize) + (3 * n + (m + 1 - n))]? <;> rfl

namespace Stencil.Agree

open Reference Operator

variable {α : Type} [Add α] [Mul α] [IntCast α] {t t' : Stencil} {mode mode' : Mode}

theorem gathered (h : t.Agree mode t' mode') (elemSize : Nat) (u : Array α) (e k n : Nat) :
    t.gathered elemSize mode u e k n = t'.gathered elemSize mode' u e k n := by
  simp only [Stencil.gathered, neighbours, h.address, h.coupled, h.weight]

theorem scattered (h : t.Agree mode t' mode') (elemSize : Nat) (x : Nat → α) (e n : Nat) :
    t.scattered elemSize mode x e n = t'.scattered elemSize mode' x e n := by
  simp only [Stencil.scattered, neighbours, h.coupled, h.weight]

theorem blockPuts (h : t.Agree mode t' mode') (s : Shape) (u : Array α) (base b : Nat) :
    blockPuts s t mode u base b = blockPuts s t' mode' u base b := by
  simp only [Operator.blockPuts, h.gathered]

theorem blockTerms (h : t.Agree mode t' mode') (s : Shape) (w : Array α) (base b : Nat) :
    blockTerms s t mode w base b = blockTerms s t' mode' w base b := by
  simp only [Operator.blockTerms, h.address, h.scattered]

end Stencil.Agree

namespace Reference.Operator

variable {α : Type} [Add α] [Mul α] [IntCast α] {op op' : Operator} {t t' : Stencil}
  {mode mode' : Mode} {kind : Kind} {compStride : Nat} {strides : Option Strides}

/-- Operators with agreeing stencils and sizes apply alike. -/
theorem Realizes.apply_agree (h : op.Realizes t) (h' : op'.Realizes t')
    (hagree : t.Agree mode t' mode') (hshape : op'.shape = { op.shape with
      kind := kind, compStride := compStride, strides := strides })
    {d : Direction} {u v : Array α} (hu : (op.shape.sides d op.shape.eSize).2 ≤ u.size)
    (hv : (op.shape.sides d op.shape.eSize).1 ≤ v.size) :
    op'.apply mode' d u v = op.apply mode d u v := by
  have hu' : (op'.shape.sides d op'.shape.eSize).2 ≤ u.size := by rw [hshape]; exact hu
  have hv' : (op'.shape.sides d op'.shape.eSize).1 ≤ v.size := by rw [hshape]; exact hv
  rw [h.apply_eq_ok mode hu hv, h'.apply_eq_ok mode' hu' hv']
  cases d with
  | forward =>
    dsimp only
    rw [hshape, puts, puts]
    simp only [hagree.blockPuts]
    rfl
  | transpose =>
    dsimp only
    rw [hshape, terms, terms]
    simp only [hagree.blockTerms]
    rfl

/-- The same for applies to one block. -/
theorem Realizes.applyBlock_agree (h : op.Realizes t) (h' : op'.Realizes t')
    (hagree : t.Agree mode t' mode') (hshape : op'.shape = { op.shape with
      kind := kind, compStride := compStride, strides := strides })
    (resource resource' : String) {b : Nat} (hb : b < op.shape.numBlock) {d : Direction}
    {u v : Array α} (hu : (op.shape.sides d op.shape.blockLen).2 ≤ u.size)
    (hv : (op.shape.sides d op.shape.blockLen).1 ≤ v.size) :
    op'.applyBlock resource' b mode' d u v = op.applyBlock resource b mode d u v := by
  have hb' : b < op'.shape.numBlock := by rw [hshape]; exact hb
  have hu' : (op'.shape.sides d op'.shape.blockLen).2 ≤ u.size := by rw [hshape]; exact hu
  have hv' : (op'.shape.sides d op'.shape.blockLen).1 ≤ v.size := by rw [hshape]; exact hv
  rw [h.applyBlock_eq_ok resource mode hb hu hv, h'.applyBlock_eq_ok resource' mode' hb' hu' hv']
  cases d with
  | forward =>
    dsimp only
    rw [hshape, hagree.blockPuts]
    rfl
  | transpose =>
    dsimp only
    rw [hshape, hagree.blockTerms]
    rfl

end Reference.Operator

end GatherScatter
