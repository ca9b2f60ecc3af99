import GatherScatter.Proofs.Session.Reference

/-!
# Deterministic transposes equal default ones

A restriction without blocks that was created with a transpose map adds the readers of each L-vector
entry row by row; without one, a scatter adds them element by element. Each entry receives the same
terms in the same order from both, so no law of the scalars is needed for the results to be equal.

* `Realizes.apply_transpose_one`: a transposed apply without blocks, entry by entry.
* `deterministic_transpose_eq`: transposed applies through handles of both kinds.
-/
namespace GatherScatter

namespace Reference.Operator

variable {α : Type} [Add α] [Mul α] [IntCast α] {op : Operator} {t : Stencil}

/-- Without blocks, and with or without a transpose map, a transposed apply adds to each entry what
its readers contribute, in the order of the E-vector. -/
theorem Realizes.apply_transpose_one (h : op.Realizes t) (hone : op.shape.blockSize = 1)
    (mode : Mode) {u v : Array α} (hu : op.shape.eSize ≤ u.size) (hv : op.shape.lSize ≤ v.size) :
    ∃ v', op.apply mode .transpose u v = .ok v' ∧ ∀ l, v'[l]? =
      if l < op.shape.lSize then
        v[l]?.map fun old => ((readersAt op.shape t l).map
          (contribution op.shape t mode u)).foldl (· + ·) old
      else v[l]? := by
  have hN := h.numBlock_one hone
  refine ⟨_, h.apply_eq_ok mode (d := .transpose) hu hv, fun l => ?_⟩
  by_cases hl : l < op.shape.lSize
  · rw [if_pos hl, Buffer.getElem?_addAll, termsAt_terms t mode u hone hN]
  · rw [if_neg hl]
    apply Buffer.getElem?_addAll_of_notMem
    intro hmem
    obtain ⟨x, hx, rfl⟩ := List.mem_map.1 hmem
    exact hl (h.terms_inside hx)

end Reference.Operator

namespace Session

open GatherScatter.Reference Operator

variable {σ σ' α : Type} [Add α] [Mul α] [IntCast α]

/-- One request by offsets, without blocks, was accepted by a context with deterministic applies and
by one without. Through handles in the same mode, the one finds an operator with a transpose map and
the other one without. Transposed applies through the two give the same result on all vectors, and
on vectors that are long enough they succeed: every entry of the L-vector receives what its readers
contribute, in the order of the E-vector and starting from its old value, and the entries behind
the L-vector stay as they are. -/
theorem deterministic_transpose_eq {resource resource' name name' : String} {spec : OffsetSpec}
    {s : Session σ α} {s' : Session σ' α} {mode : Mode} (hone : spec.blockSize = 1)
    (h : OnReferenceWith true resource (.offsets spec) s name mode)
    (h' : OnReferenceWith false resource' (.offsets spec) s' name' mode) :
    ∃ shape data op op', (Spec.offsets spec).plan = .ok (shape, data) ∧
      s.Serves name resource op mode ∧ op.map.isSome ∧
      s'.Serves name' resource' op' mode ∧ op'.map = none ∧
      (∀ u v : Array α, (outcome (apply name .transpose u v) s).1 =
        (outcome (apply name' .transpose u v) s').1) ∧
      ∀ u v : Array α, shape.eSize ≤ u.size → shape.lSize ≤ v.size →
        ∃ v', outcome (apply name .transpose u v) s = (.ok v', s) ∧
          outcome (apply name' .transpose u v) s' = (.ok v', s') ∧
          ∀ l, v'[l]? =
            if l < shape.lSize then
              v[l]?.map fun old => ((readersAt shape spec.stencil l).map
                (contribution shape spec.stencil mode u)).foldl (· + ·) old
            else v[l]? := by
  obtain ⟨shape, data, op, hp, hc, hs, himp, hserves⟩ := h.serves
  obtain ⟨shape', data', op', hp', hc', hs', himp', hserves'⟩ := h'.serves
  rw [hp] at hp'
  cases hp'
  have hplanned := OffsetSpec.planned_of_plan hp
  have hmap := hplanned.isSome_map hone hc
  have hmap' := hplanned.isSome_map hone hc'
  have hblock : shape.blockSize = 1 := by rw [hplanned.shape_eq, hone]
  have hblock' : op'.shape.blockSize = 1 := by rw [hs', hblock]
  subst hs
  -- what both do on vectors that are long enough
  have hsame (u v : Array α) (hu : op.shape.eSize ≤ u.size) (hv : op.shape.lSize ≤ v.size) :
      ∃ v', op.apply mode .transpose u v = .ok v' ∧ op'.apply mode .transpose u v = .ok v' ∧
        ∀ l, v'[l]? =
          if l < op.shape.lSize then
            v[l]?.map fun old => ((readersAt op.shape spec.stencil l).map
              (contribution op.shape spec.stencil mode u)).foldl (· + ·) old
          else v[l]? := by
    obtain ⟨v', hv', hentry⟩ := Realizes.apply_transpose_one himp hblock mode hu hv
    obtain ⟨v'', hv'', hentry'⟩ := Realizes.apply_transpose_one himp' hblock' mode
      (u := u) (v := v) (by rwa [hs']) (by rwa [hs'])
    rw [hs'] at hentry'
    have heq : v'' = v' := Array.ext_getElem? fun l => (hentry' l).trans (hentry l).symm
    exact ⟨v', hv', heq ▸ hv'', hentry⟩
  refine ⟨op.shape, data, op, op', hp, hserves, hmap, hserves', by simpa using hmap',
    fun u v => ?_, fun u v hu hv => ?_⟩
  · rw [hserves.outcome_apply himp.sound, hserves'.outcome_apply himp'.sound, hs']
    by_cases hlen : checkAtLeast u.size v.size (op.shape.sides .transpose op.shape.eSize).1
        (op.shape.sides .transpose op.shape.eSize).2 = .ok ()
    · obtain ⟨hu, hv⟩ := checkAtLeast_eq_ok_iff.1 hlen
      obtain ⟨v', hv', hv'', -⟩ := hsame u v hu hv
      rw [hv', hv'']
    · cases hcheck : checkAtLeast u.size v.size (op.shape.sides .transpose op.shape.eSize).1
        (op.shape.sides .transpose op.shape.eSize).2 with
      | error e => rfl
      | ok _ => exact absurd hcheck hlen
  · obtain ⟨v', hv', hv'', hentry⟩ := hsame u v hu hv
    refine ⟨v', hserves.outcome_apply_ok himp.sound (d := .transpose) hu hv hv',
      hserves'.outcome_apply_ok himp'.sound (d := .transpose) ?_ ?_ hv'', hentry⟩
    · rwa [hs']
    · rwa [hs']

/-- Repeated offsets and overlapping components, through unsigned copies; one entry lies behind the
L-vector. -/
theorem deterministic_transpose_eq_overlapping :
    let spec := Spec.offsets (.overlapping 1)
    let s : Session Unit Int := (single () true spec).after (.derive "r" .unsigned "u")
    let s' : Session Unit Int := (single () false spec).after (.derive "r" .unsigned "u")
    let u : Array Int := #[1, -1, 2, 0, 3, 1, 4, 4, -2, 5, 1, 6]
    let v : Array Int := #[7, 7, 7, 7, 7]
    OnReferenceWith true stem spec s "u" .unsigned ∧
      OnReferenceWith false stem spec s' "u" .unsigned ∧
      ∃ v', outcome (apply "u" .transpose u v) s = (.ok v', s) ∧
        outcome (apply "u" .transpose u v) s' = (.ok v', s') ∧
        v' = #[13, 18, 13, 8, 7] := by
  intro spec s s' u v
  have h : OnReferenceWith true stem spec s "u" .unsigned :=
    (onReferenceWith_single () true spec rfl rfl).derive .unsigned "u"
  have h' : OnReferenceWith false stem spec s' "u" .unsigned :=
    (onReferenceWith_single () false spec rfl rfl).derive .unsigned "u"
  obtain ⟨shape, data, -, -, hp, -, -, -, -, -, hall⟩ := deterministic_transpose_eq rfl h h'
  cases hp
  obtain ⟨v', hv', hv'', hentry⟩ := hall u v (by decide) (by decide)
  refine ⟨h, h', v', hv', hv'', Array.ext_getElem? fun l => ?_⟩
  rw [hentry]
  match l with
  | 0 | 1 | 2 | 3 | 4 => decide
  | l + 5 => rfl

end Session

end GatherScatter
