import GatherScatter.Proofs.Reference.Points
import GatherScatter.Proofs.Reference.Transfer

/-!
# Applies of compiled operators

What is compiled from an accepted request is either a realized stencil or sorts points. In both
cases every apply with vectors of the right lengths succeeds.

* `Spec.exists_compile`: an accepted request in host memory can be compiled, and the operator
  implements it.
* `Realizes.apply_eq_ok`, `OntoPoints.apply_eq_ok`: the result of a full apply.
* `Realizes.applyBlock_eq_ok`, `OntoPoints.applyAtPoints_eq_ok`: the result of an apply to one
  block, or to the points of one element.
* `Sound.exists_apply`, `Sound.exists_applyBlock`, `OntoPoints.exists_applyAtPoints`: no apply fails
  on vectors of the right lengths.
-/
namespace GatherScatter

/-- Whether the index arrays of a request are in host memory. -/
def Spec.onHost : Spec → Prop
  | offsets s => s.mem = .host
  | strided _ => True
  | points s => s.mem = .host

/-- Number of points that a request lists for an element; none if it is not onto points. -/
def Spec.pointsOf : Spec → Nat → Nat
  | points s, elem => Reference.Points.count s.offsets.entries elem
  | _, _ => 0

namespace Reference.Operator

/-- An operator that sorts the points listed in `entries`. -/
structure OntoPoints (op : Operator) (entries : Array Int) : Prop where
  isPoints : op.shape.isPoints = true
  indexing_eq : op.indexing = .offsets entries
  eSize_eq : op.shape.eSize = op.shape.numPoints * op.shape.numComp
  ranges : PointRanges entries op.shape.numElem op.shape.numPoints op.shape.numComp op.shape.lSize

/-- An operator whose index data passed the checks of creation. -/
inductive Sound (op : Operator) : Prop where
  | nodes (t : Stencil) (h : op.Realizes t)
  | points (entries : Array Int) (h : op.OntoPoints entries)

variable {op : Operator} {t : Stencil} {entries : Array Int}

variable {α : Type} [Add α] [Mul α] [IntCast α]

/-- Both directions of a full apply, with or without a transpose map. -/
theorem Realizes.apply_eq_ok (h : op.Realizes t) (mode : Mode) {d : Direction} {u v : Array α}
    (hu : (op.shape.sides d op.shape.eSize).2 ≤ u.size)
    (hv : (op.shape.sides d op.shape.eSize).1 ≤ v.size) :
    op.apply mode d u v = .ok (match d with
      | .forward => Buffer.putAll v (puts op.shape t mode u)
      | .transpose => Buffer.addAll v (terms op.shape t mode u)) := by
  unfold apply
  rw [if_neg (by rw [h.notPoints]; exact Bool.false_ne_true)]
  cases d with
  | forward => exact h.gather_eq_ok mode hu hv
  | transpose =>
    cases hm : op.map with
    | none => exact h.scatter_eq_ok mode hu hv
    | some m => exact h.scatterMapped_eq_ok mode hm hu hv

/-- Both directions of an apply to one block. -/
theorem Realizes.applyBlock_eq_ok (h : op.Realizes t) (resource : String) (mode : Mode) {b : Nat}
    (hb : b < op.shape.numBlock) {d : Direction} {u v : Array α}
    (hu : (op.shape.sides d op.shape.blockLen).2 ≤ u.size)
    (hv : (op.shape.sides d op.shape.blockLen).1 ≤ v.size) :
    op.applyBlock resource b mode d u v = .ok (match d with
      | .forward => Buffer.putAll v (blockPuts op.shape t mode u 0 b)
      | .transpose => Buffer.addAll v (blockTerms op.shape t mode u 0 b)) := by
  unfold applyBlock
  rw [if_neg (by rw [h.notPoints]; exact Bool.false_ne_true)]
  cases d with
  | forward => exact h.gatherBlock_eq_ok mode hu (by simpa [Shape.sides] using hv) hb
  | transpose => exact h.scatterBlock_eq_ok mode (by simpa [Shape.sides] using hu) hv hb

omit [Mul α] in
/-- Both directions of an apply to the points of one element. -/
theorem OntoPoints.applyAtPoints_eq_ok (h : op.OntoPoints entries) (resource : String) {elem : Nat}
    (he : elem < op.shape.numElem) {d : Direction} {u v : Array α}
    (hu : (op.shape.sides d (Points.count entries elem * op.shape.numComp)).2 ≤ u.size)
    (hv : (op.shape.sides d (Points.count entries elem * op.shape.numComp)).1 ≤ v.size) :
    op.applyAtPoints resource elem d u v =
      .ok (Points.moveAll d u v (Points.elementLinks op.shape.numComp entries 0 elem)) := by
  rw [applyAtPoints, h.isPoints, if_pos rfl, offsets, h.indexing_eq, Loop.ok_bind,
    h.ranges.ofElement_eq_ok he, Loop.ok_bind, h.ranges.transferElement_eq_ok he]
  · rwa [Nat.zero_add]
  · rwa [Nat.zero_add]

theorem OntoPoints.apply_eq_ok (h : op.OntoPoints entries) (mode : Mode) {d : Direction}
    {u v : Array α} (hu : (op.shape.sides d op.shape.eSize).2 ≤ u.size)
    (hv : (op.shape.sides d op.shape.eSize).1 ≤ v.size) :
    op.apply mode d u v = .ok (Points.moveAll d u v
      (Points.links op.shape.numElem op.shape.numComp entries)) := by
  rw [h.eSize_eq] at hu hv
  unfold apply offsets
  rw [if_pos h.isPoints, h.indexing_eq]
  exact h.ranges.transfer_eq_ok hu hv

omit [Mul α] in
theorem OntoPoints.exists_applyAtPoints (h : op.OntoPoints entries) (resource : String) {elem : Nat}
    (he : elem < op.shape.numElem) {d : Direction} {u v : Array α}
    (hu : (op.shape.sides d (Points.count entries elem * op.shape.numComp)).2 ≤ u.size)
    (hv : (op.shape.sides d (Points.count entries elem * op.shape.numComp)).1 ≤ v.size) :
    ∃ v', op.applyAtPoints resource elem d u v = .ok v' :=
  ⟨_, h.applyAtPoints_eq_ok resource he hu hv⟩

namespace Sound

theorem exists_apply (h : op.Sound) (mode : Mode) {d : Direction} {u v : Array α}
    (hu : (op.shape.sides d op.shape.eSize).2 ≤ u.size)
    (hv : (op.shape.sides d op.shape.eSize).1 ≤ v.size) :
    ∃ v', op.apply mode d u v = .ok v' := by
  cases h with
  | nodes t h => exact ⟨_, h.apply_eq_ok mode hu hv⟩
  | points entries h => exact ⟨_, h.apply_eq_ok mode hu hv⟩

/-- Without elements an apply changes nothing. -/
theorem apply_of_noElem (h : op.Sound) (hN : op.shape.numElem = 0) (mode : Mode) {d : Direction}
    {u v : Array α} (hu : (op.shape.sides d op.shape.eSize).2 ≤ u.size)
    (hv : (op.shape.sides d op.shape.eSize).1 ≤ v.size) : op.apply mode d u v = .ok v := by
  cases h with
  | nodes t h =>
    have hblock : op.shape.numBlock = 0 := by
      by_contra hne
      have := h.elemAt_lt (Nat.pos_of_ne_zero hne) 0
      omega
    rw [h.apply_eq_ok mode hu hv, puts, terms, hblock]
    cases d <;> rfl
  | points entries h =>
    rw [h.apply_eq_ok mode hu hv, Points.links, hN]
    cases d <;> rfl

/-- Where there is an element, the length of its block is one that the unchecked products give. -/
theorem wrappedBlockLen_eq (h : op.Sound) (hp : op.shape.isPoints = false) {b : Nat}
    (hb : b * op.shape.blockSize < op.shape.numElem) :
    op.shape.wrappedBlockLen = op.shape.blockLen := by
  cases h with
  | points entries h => rw [h.isPoints] at hp; cases hp
  | nodes t h =>
    refine h.wrappedBlockLen_eq (b := b) ?_
    rw [h.numBlock_eq]
    exact (lt_numBlocks_iff h.blockSize_pos).2 hb

theorem exists_applyBlock (h : op.Sound) (hp : op.shape.isPoints = false) (resource : String)
    (mode : Mode) {b : Nat} (hb : b * op.shape.blockSize < op.shape.numElem) {d : Direction}
    {u v : Array α} (hu : (op.shape.sides d op.shape.blockLen).2 ≤ u.size)
    (hv : (op.shape.sides d op.shape.blockLen).1 ≤ v.size) :
    ∃ v', op.applyBlock resource b mode d u v = .ok v' := by
  cases h with
  | points entries h => rw [h.isPoints] at hp; cases hp
  | nodes t h =>
    have hb' : b < op.shape.numBlock := by
      rw [h.numBlock_eq]
      exact (lt_numBlocks_iff h.blockSize_pos).2 hb
    exact ⟨_, h.applyBlock_eq_ok resource mode hb' hu hv⟩

end Sound

end Reference.Operator

/-! ## From a request to its operator -/

namespace PointsSpec

open Reference

variable {s : PointsSpec} {shape : Shape} {data : IndexData}

/-- An accepted request onto points in host memory can be compiled. -/
theorem Planned.exists_compile (h : s.Planned shape data) (hm : s.mem = .host)
    (deterministic : Bool) :
    ∃ op, Operator.compile deterministic shape data = .ok op ∧ op.shape = shape ∧
      op.OntoPoints s.offsets.entries := by
  obtain ⟨maxPoints, hs⟩ := h.shape_eq
  have hd := h.data_eq
  have hr := h.ranges hm
  rw [hm] at hd
  subst hs hd
  refine ⟨⟨_, .offsets s.offsets.entries, .plain, none⟩, ?_, rfl, ⟨rfl, rfl, rfl, hr⟩⟩
  cases deterministic <;> rfl

end PointsSpec

/-- The operator applies what the request describes. -/
def Reference.Operator.Implements (op : Reference.Operator) : Spec → Prop
  | .offsets s => op.Realizes s.stencil
  | .strided s => op.Realizes s.stencil
  | .points s => op.OntoPoints s.offsets.entries

theorem Reference.Operator.Implements.sound {op : Reference.Operator} {spec : Spec}
    (h : op.Implements spec) : op.Sound := by
  cases spec with
  | offsets s => exact .nodes _ h
  | strided s => exact .nodes _ h
  | points s => exact .points _ h

namespace Spec

open Reference

variable {spec : Spec} {shape : Shape} {data : IndexData}

/-- An accepted request in host memory can be compiled into an operator that implements it. -/
theorem exists_compile (h : spec.plan = .ok (shape, data)) (hm : spec.onHost)
    (deterministic : Bool) :
    ∃ op, Operator.compile deterministic shape data = .ok op ∧ op.shape = shape ∧
      op.Implements spec := by
  cases spec with
  | offsets s => exact (OffsetSpec.planned_of_plan h).exists_compile hm deterministic
  | strided s => exact (StridedSpec.planned_of_plan h).exists_compile deterministic
  | points s => exact (PointsSpec.planned_of_plan h).exists_compile hm deterministic

/-- Only requests in host memory are compiled. -/
theorem onHost_of_compile {deterministic : Bool} {op : Operator}
    (h : spec.plan = .ok (shape, data))
    (hc : Operator.compile deterministic shape data = .ok op) : spec.onHost := by
  obtain ⟨_, hhost, -⟩ := Loop.bind_eq_ok.1 hc
  have hmem : data.mem = .host := by
    cases hd : data.mem with
    | host => rfl
    | device => rw [hd] at hhost; cases hhost
  cases spec with
  | offsets s => exact (OffsetSpec.planned_of_plan h).mem_eq.symm.trans hmem
  | strided s => trivial
  | points s =>
    have := (PointsSpec.planned_of_plan h).data_eq
    subst this
    exact hmem

theorem implements_of_compile {deterministic : Bool} {op : Operator}
    (h : spec.plan = .ok (shape, data))
    (hc : Operator.compile deterministic shape data = .ok op) :
    op.shape = shape ∧ op.Implements spec := by
  obtain ⟨op', hop, hs, himp⟩ := exists_compile h (onHost_of_compile h hc) deterministic
  rw [hc] at hop
  cases hop
  exact ⟨hs, himp⟩

end Spec

end GatherScatter
