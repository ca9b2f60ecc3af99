import GatherScatter.Proofs.Creation.Offsets
import GatherScatter.Proofs.Creation.Points
import GatherScatter.Proofs.Creation.Strides
import GatherScatter.Proofs.Session.Reference

/-!
# What creation accepts

A context that builds like the reference backend accepts a request exactly if its sizes, lengths and
index data fit together in exact arithmetic. Nothing is turned down because an intermediate result
was too large, and nothing gets through because one wrapped around. Where the index data alone are
wrong, the error names the first entry that is. Memory is not counted: arrays of any length can be
made.

* `offset_creation_exact`: offset-based requests.
* `strided_creation_exact`: strided requests.
* `points_creation_exact`: requests onto points, and how the points are shared out among the
  elements.
-/
namespace GatherScatter.Session

open Reference

variable {σ α : Type} [Add α] [Mul α] [IntCast α] {ctx target : Context σ α} {resource : String}

/-- A request whose offsets are in host memory is accepted exactly if sizes and lengths fit, every
offset addresses the L-vector in every component, and the E-vector has a size. If sizes and lengths
fit, and the last component is inside the L-vector, but some offset does not address it, then the
error names the first such offset by its element and its node. -/
theorem offset_creation_exact (spec : OffsetSpec)
    (hr : ctx.resolve (Spec.offsets spec).construction.capability = .ok target)
    (hb : target.Builds resource) (hm : spec.mem = .host) (hN : 1 ≤ spec.numElem)
    (hs : spec.Representable) (name : String) (s : Session σ α) :
    ((outcome (create ctx (.offsets spec) name) s).1.isOk ↔ spec.Acceptable) ∧
      (spec.WellSized → (spec.numComp = 1 ∨ (spec.numComp - 1) * spec.compStride < spec.lSize) →
        (∃ o ∈ spec.offsets.entries, ¬ spec.Addresses o) →
        ∃ i o, spec.FirstOutside i o ∧ (outcome (create ctx (.offsets spec) name) s).1 =
          .error (.error (.offsetOutOfRange (i / spec.elemSize) (i % spec.elemSize) o
            spec.lSize))) := by
  constructor
  · rw [create_isOk_iff hr hb hm]
    exact OffsetSpec.plan_isOk_iff hm hN hs
  · intro hw hcomp hout
    obtain ⟨i, o, hfirst, hplan⟩ := OffsetSpec.plan_eq_error hm hN hs hw hcomp hout
    refine ⟨i, o, hfirst, ?_⟩
    rw [create_fst hr hb hm, Spec.plan, hplan]
    rfl

/-- Blocks of two elements with two components that overlap. With an L-vector that is one entry
shorter, the last component of the first node of the last element is outside. -/
theorem offset_creation_exact_overlapping :
    let spec := OffsetSpec.overlapping 2
    let ctx : Context Unit Int := referenceContext true
    (outcome (create ctx (.offsets spec) "r") (start ⟨[]⟩ ())).1.isOk ∧
      (outcome (create ctx (.offsets { spec with lSize := 3 }) "r") (start ⟨[]⟩ ())).1 =
        .error (.error (.offsetOutOfRange 2 0 2 3)) := by
  intro spec ctx
  have hr : ctx.resolve .createBlocked = .ok ctx := resolve_referenceContext true .blocked
  have hb : ctx.Builds stem := rfl
  have hlong := offset_creation_exact spec hr hb rfl (by decide)
    ⟨by decide, by decide, by decide⟩ "r" (start ⟨[]⟩ ())
  have hshort := offset_creation_exact { spec with lSize := 3 } hr hb rfl (by decide)
    ⟨by decide, by decide, by decide⟩ "r" (start ⟨[]⟩ ())
  refine ⟨hlong.1.2 ⟨⟨by decide, by decide, by decide, by decide, by decide, by decide⟩,
    by decide, by decide⟩, ?_⟩
  obtain ⟨i, o, hfirst, herror⟩ := hshort.2
    ⟨by decide, by decide, by decide, by decide, by decide, by decide⟩ (by decide) (by decide)
  have hfifth : OffsetSpec.FirstOutside { spec with lSize := 3 } 4 2 := by
    refine ⟨by decide, rfl, by decide, fun j _ hj p hp => ?_⟩
    match j with
    | 0 | 1 | 2 | 3 => cases hp; decide
  obtain ⟨rfl, rfl⟩ := hfirst.unique hfifth
  calc (outcome (create ctx (.offsets { spec with lSize := 3 }) "r") (start ⟨[]⟩ ())).1
      = .error (.error (.offsetOutOfRange (4 / 2) (4 % 2) 2 3)) := herror
    _ = .error (.error (.offsetOutOfRange 2 0 2 3)) := rfl

/-- The point entries are shared out among the elements: each one is in the range of one element,
and ranges hold nothing else. Through the handle the elements tell how many points they have, which
adds up to the number of points, and the largest of these numbers, which is also the number of nodes
that the restriction gives its elements. -/
structure SharesPoints (spec : PointsSpec) (s : Session σ α) (name : String) : Prop where
  owner : ∀ i, spec.numElem < i → i < spec.offsets.size →
    ∃! e, Points.Owns spec.offsets.entries spec.numElem e i
  owned : ∀ e i, Points.Owns spec.offsets.entries spec.numElem e i →
    spec.numElem < i ∧ i < spec.offsets.size
  counts : ∀ e < spec.numElem, outcome (pointsInElement name e) s =
    (.ok (Points.count spec.offsets.entries e), s)
  total : ∑ e ∈ Finset.range spec.numElem, Points.count spec.offsets.entries e = spec.numPoints
  largest : outcome (maxPoints name) s =
    (.ok ((Finset.range spec.numElem).sup (Points.count spec.offsets.entries)), s)
  nodes : ∃ d, outcome (restriction name) s = (.ok d, s) ∧
    d.shape.elemSize = (Finset.range spec.numElem).sup (Points.count spec.offsets.entries)

theorem Descends.sharesPoints {spec : PointsSpec} {s : Session σ α} {name : String} {mode : Mode}
    (h : Descends (fun ctx => ctx.Builds resource) (.points spec) s name mode)
    (hl : spec.lSize < 2 ^ 64) (hlt : spec.offsets.size < 2 ^ 63) : SharesPoints spec s name := by
  obtain ⟨_, shape, data, op, -, hp, hc, hshape, hserves⟩ := h.serves fun _ hb => hb
  have hm : spec.mem = .host := Spec.onHost_of_compile hp hc
  have himp : op.OntoPoints spec.offsets.entries := (Spec.implements_of_compile hp hc).2
  have hplan : spec.plan = .ok (shape, data) := hp
  have hok := (PointsSpec.plan_isOk_iff hm hl hlt).1 (Loop.isOk_iff.2 ⟨_, hplan⟩)
  rw [PointsSpec.plan_eq_ok hm hl hlt hok] at hplan
  cases hplan
  have hnumElem : op.shape.numElem = spec.numElem := by rw [hshape]
  have hstarts := hok.starts
  refine ⟨?_, ?_, ?_, hstarts.sum_count, ?_, ?_⟩
  · intro i hi hlt
    obtain ⟨e, he⟩ := hstarts.exists_owner hi hlt
    exact ⟨e, he, fun e' he' => hstarts.owner_unique he he'⟩
  · intro e i he
    exact hstarts.owned_bounds he
  · intro e he
    exact hserves.outcome_pointsInElement himp (by omega)
  · rw [hserves.outcome_maxPoints himp, hnumElem, hstarts.largestPoints_eq_ok]
    rfl
  · obtain ⟨d, hd, hdshape⟩ := hserves.exists_restriction
    exact ⟨d, hd, by rw [hdshape, hshape]⟩

/-- A request onto points whose offsets are in host memory is accepted exactly if the L-vector has
room for all points, the range starts rise from the end of the starts to the end of the array, and
every point has its components in the L-vector. If everything but the last holds, then the error
names the first point that is outside by the one element that owns it and its place there. Behind
every handle on an accepted request, the points are shared out among the elements. -/
theorem points_creation_exact (spec : PointsSpec)
    (hr : ctx.resolve (Spec.points spec).construction.capability = .ok target)
    (hb : target.Builds resource) (hm : spec.mem = .host) (hl : spec.lSize < 2 ^ 64)
    (hlt : spec.offsets.size < 2 ^ 63) (name : String) (s : Session σ α) :
    ((outcome (create ctx (.points spec) name) s).1.isOk ↔ spec.Acceptable) ∧
      (spec.WellLaid →
        (∃ p ∈ spec.offsets.entries.toList.drop (spec.numElem + 1), ¬ spec.Addresses p) →
        ∃ i p e, spec.FirstOutside i p ∧
          (∀ e', Points.Owns spec.offsets.entries spec.numElem e' i ↔ e' = e) ∧
          (outcome (create ctx (.points spec) name) s).1 = .error (.error
            (.offsetOutOfRange e (i - Points.start spec.offsets.entries e) p spec.lSize))) ∧
      ∀ (s' : Session σ α) (handle : String) (mode : Mode),
        Descends (fun ctx => ctx.Builds resource) (.points spec) s' handle mode →
        SharesPoints spec s' handle := by
  refine ⟨?_, ?_, ?_⟩
  · rw [create_isOk_iff hr hb hm]
    exact PointsSpec.plan_isOk_iff hm hl hlt
  · intro hw hout
    obtain ⟨i, p, e, hfirst, he, hplan⟩ := PointsSpec.plan_eq_error hm hl hlt hw hout
    refine ⟨i, p, e, hfirst, fun e' => ⟨fun he' => hw.starts.owner_unique he he', ?_⟩, ?_⟩
    · intro heq
      rwa [heq]
    · rw [create_fst hr hb hm, Spec.plan, hplan]
      rfl
  · intro s' handle mode h
    exact h.sharesPoints hl hlt

/-- The first element has no points. A point that is not in the L-vector belongs to the second
one, although both ranges start at the same entry. -/
theorem points_creation_exact_emptyElement :
    let spec (p : Int) : PointsSpec :=
      { numElem := 3, numPoints := 3, numComp := 2, lSize := 7
        offsets := .owned #[4, 4, 6, 7, 0, p, 1] }
    let ctx : Context Unit Int := referenceContext false
    (outcome (create ctx (.points (spec 2)) "r") (start ⟨[]⟩ ())).1.isOk ∧
      (outcome (create ctx (.points (spec 3)) "r") (start ⟨[]⟩ ())).1 =
        .error (.error (.offsetOutOfRange 1 1 3 7)) ∧
      SharesPoints (spec 2) (single () false (.points (spec 2)) : Session Unit Int) "r" := by
  intro spec ctx
  have hr : ctx.resolve .createAtPoints = .ok ctx := resolve_referenceContext false .atPoints
  have hb : ctx.Builds stem := rfl
  have hexact (p : Int) := points_creation_exact (spec p) hr hb rfl
    (show 7 < 2 ^ 64 by decide) (show 7 < 2 ^ 63 by decide) "r" (start ⟨[]⟩ ())
  refine ⟨(hexact 2).1.2 ⟨⟨by decide, by decide, by decide, by decide, by decide, by decide⟩,
    by decide⟩, ?_, ?_⟩
  · obtain ⟨i, p, e, hfirst, howner, herror⟩ := (hexact 3).2.1
      ⟨by decide, by decide, by decide, by decide, by decide, by decide⟩ (by decide)
    have hthird : (spec 3).FirstOutside 5 3 := by
      refine ⟨by decide, by decide, by decide, fun j hj hlt q hq => ?_⟩
      have hj : 4 ≤ j := hj
      obtain rfl : j = 4 := by omega
      cases hq
      decide
    obtain ⟨rfl, rfl⟩ := hfirst.unique hthird
    obtain rfl := (howner 1).1 ⟨by decide, by decide, by decide⟩
    calc (outcome (create ctx (.points (spec 3)) "r") (start ⟨[]⟩ ())).1
        = .error (.error (.offsetOutOfRange 1 (5 - 4) 3 7)) := herror
      _ = .error (.error (.offsetOutOfRange 1 1 3 7)) := rfl
  · exact (hexact 2).2.2 _ "r" .full
      (descends_single () false (.points (spec 2)) hb (by decide) rfl)

end GatherScatter.Session
