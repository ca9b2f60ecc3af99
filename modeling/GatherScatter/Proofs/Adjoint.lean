import GatherScatter.Proofs.Reference.Adjoint
import GatherScatter.Proofs.Session.Reference

/-!
# Both directions of an apply are adjoint

Read over a commutative ring, the forward apply of any restriction of the reference backend is a
linear map from L-vectors to E-vectors, and the transposed apply adds the image under the adjoint
map to its output.

* `apply_adjoint`: the two directions through one handle.
-/
namespace GatherScatter.Session

variable {σ R : Type} [CommRing R]

/-- Through a live handle on a restriction of the reference backend, both directions succeed on
vectors that are long enough. What the transposed apply adds pairs with an L-vector as its own input
pairs with the forward apply of that L-vector, padding lanes aside, and entries behind the L-vector
stay as they are. -/
theorem apply_adjoint {resource name : String} {spec : Spec} {s : Session σ R} {mode : Mode}
    (h : OnReference resource spec s name mode) :
    ∃ shape data, spec.plan = .ok (shape, data) ∧
      ∀ u w v₀ y₀ : Array R, shape.lSize ≤ u.size → shape.eSize ≤ w.size →
        shape.lSize ≤ v₀.size → shape.eSize ≤ y₀.size →
        ∃ y v₁, outcome (apply name .forward u y₀) s = (.ok y, s) ∧
          outcome (apply name .transpose w v₀) s = (.ok v₁, s) ∧
          ∑ l ∈ Finset.range shape.lSize,
              Buffer.entry u l * (Buffer.entry v₁ l - Buffer.entry v₀ l) =
            ∑ i ∈ (Finset.range shape.eSize).filter fun i => !shape.isPadding i,
              Buffer.entry y i * Buffer.entry w i ∧
          ∀ l, shape.lSize ≤ l → v₁[l]? = v₀[l]? := by
  obtain ⟨shape, data, op, hp, -, hs, himp, hserves⟩ := h.serves
  have hsound := himp.sound
  subst hs
  refine ⟨op.shape, data, hp, fun u w v₀ y₀ hu hw hv hy => ?_⟩
  obtain ⟨y, hgather⟩ := hsound.exists_apply mode (d := .forward) hu hy
  obtain ⟨v₁, hscatter⟩ := hsound.exists_apply mode (d := .transpose) hw hv
  exact ⟨y, v₁, hserves.outcome_apply_ok hsound (d := .forward) hu hy hgather,
    hserves.outcome_apply_ok hsound (d := .transpose) hw hv hscatter,
    hsound.adjoint mode hu hw hv hy hgather hscatter,
    fun l hl => hsound.getElem?_scatter mode hw hv hscatter hl⟩

/-- The unsigned copy of tridiagonal elements, with a transpose map; one entry lies behind the
L-vector. -/
theorem apply_adjoint_curlLine :
    let s : Session Unit Int := (single () true .curlLine).after (.derive "r" .unsigned "u")
    let u : Array Int := #[1, 2, 3, 4, 5]
    let w : Array Int := #[1, -1, 2, 0, 3, 1]
    let v₀ : Array Int := #[7, 7, 7, 7, 7, 7]
    OnReference Reference.stem .curlLine s "u" .unsigned ∧
      ∃ y v₁, outcome (apply "u" .forward u #[0, 0, 0, 0, 0, 0]) s = (.ok y, s) ∧
        outcome (apply "u" .transpose w v₀) s = (.ok v₁, s) ∧
        ∑ l ∈ Finset.range 5, Buffer.entry u l * (Buffer.entry v₁ l - Buffer.entry v₀ l) =
          ∑ i ∈ Finset.range 6, Buffer.entry y i * Buffer.entry w i ∧
        v₁[5]? = some 7 := by
  intro s u w v₀
  have h : OnReference Reference.stem .curlLine s "u" .unsigned :=
    (onReference_single () true .curlLine rfl rfl).derive .unsigned "u"
  obtain ⟨shape, data, hp, hall⟩ := apply_adjoint h
  cases hp
  obtain ⟨y, v₁, hy, hv, hsum, hrest⟩ := hall u w v₀ #[0, 0, 0, 0, 0, 0] (by decide) (by decide)
    (by decide) (by decide)
  exact ⟨h, y, v₁, hy, hv, hsum, hrest 5 (by decide)⟩

end GatherScatter.Session
