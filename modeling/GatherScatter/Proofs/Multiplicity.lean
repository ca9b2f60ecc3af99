import GatherScatter.Proofs.Reference.RoundTrip
import GatherScatter.Proofs.Session.Reference

/-!
# Forward, then transposed

Over a commutative ring, a forward apply followed by a transposed apply of its result multiplies
every entry of an L-vector by the number of references to it in the request, unless rows of weights
mix the nodes of an element. What the E-vector held before does not matter, since the forward apply
overwrites all of it.

* `Serves.run_multiplicity`: counting readers is such a round trip, from ones into zeros.
* `roundTrip_counts_references`: round trips and counts through every live handle.
-/
namespace GatherScatter.Session

open GatherScatter.Reference

variable {σ R : Type} [CommRing R]

/-- The counts are a forward apply of ones into a new E-vector, and the transposed apply of the
result into zeros. -/
theorem Serves.run_multiplicity {s : Session σ R} {name resource : String} {op : Operator}
    {mode : Mode} (h : s.Serves name resource op mode) (hop : op.Sound) {v : Array R}
    (hv : op.shape.lSize ≤ v.size) :
    ∃ y₀ : Array R, y₀.size = op.shape.eSize ∧ ∀ y counts : Array R, y.size = y₀.size →
      op.apply mode .forward (Array.replicate v.size 1) y₀ = .ok y →
      op.apply mode .transpose y (Array.replicate v.size 0) = .ok counts →
        ((multiplicity name v).run s).run = ((counts, .ok ()), s) := by
  obtain ⟨id, d, r, hf, hshape, -⟩ := h.exists_finds
  have hones : Buffer.fill v ((1 : Int) : R) = Array.replicate v.size 1 := by
    rw [Buffer.fill, Int.cast_one]
  have hzeros : Buffer.fill v ((0 : Int) : R) = Array.replicate v.size 0 := by
    rw [Buffer.fill, Int.cast_zero]
  have hsize : d.eVector.size = op.shape.eSize := by
    rw [Descriptor.eVector, Context.vector, Array.size_replicate, hshape]
  refine ⟨d.eVector, hsize, fun y counts hy hforward htranspose => ?_⟩
  have hgathered := h.outcome_apply_ok hop (d := .forward) (by simpa [Shape.sides] using hv)
    (Nat.le_of_eq hsize.symm) hforward
  have hcounts := h.outcome_apply_ok hop (d := .transpose) (Nat.le_of_eq (hy.trans hsize).symm)
    (by simpa [Shape.sides] using hv) htranspose
  rw [hf.run_multiplicity, hones, hzeros, ← hf.outcome_apply, hgathered]
  dsimp only
  rw [← hf.outcome_apply, hcounts]

/-- Through a live handle on a restriction that was built like one of the reference backend, with
deterministic applies or without, in blocks or not, and for a context whose new vectors start out as
anything: a forward apply into any E-vector, and a transposed apply of the result into zeros, give
every entry of the L-vector times the number of references to it. Only handles that apply rows of
weights are left out. In particular, counting readers succeeds for every vector that is long enough
and gives these numbers, with zeros behind the L-vector. -/
theorem roundTrip_counts_references {deterministic : Bool} {resource name : String} {spec : Spec}
    {s : Session σ R} {mode : Mode} (hdiag : spec.isCurl = true → mode = .unoriented)
    (h : OnReferenceWith deterministic resource spec s name mode) :
    ∃ shape data, spec.plan = .ok (shape, data) ∧
      (∀ (x y₀ : Array R) (m : Nat), shape.lSize ≤ x.size → shape.eSize ≤ y₀.size →
        shape.lSize ≤ m →
        ∃ y v, outcome (apply name .forward x y₀) s = (.ok y, s) ∧
          outcome (apply name .transpose y (Array.replicate m 0)) s = (.ok v, s) ∧ v.size = m ∧
          (∀ l < shape.lSize, v[l]? = some ((spec.references.count l : R) * Buffer.entry x l)) ∧
          ∀ l, shape.lSize ≤ l → l < m → v[l]? = some 0) ∧
      ∀ mult : Array R, shape.lSize ≤ mult.size →
        ∃ counts, ((multiplicity name mult).run s).run = ((counts, .ok ()), s) ∧
          counts.size = mult.size ∧
          (∀ l < shape.lSize, counts[l]? = some (spec.references.count l : R)) ∧
          ∀ l, shape.lSize ≤ l → l < mult.size → counts[l]? = some 0 := by
  obtain ⟨shape, data, op, hp, -, hs, himp, hserves⟩ := h.serves
  subst hs
  have hbehind {l : Nat} (hl : op.shape.lSize ≤ l) : spec.references.count l = 0 :=
    List.count_eq_zero.2 fun hmem =>
      absurd (Spec.references_lt hp himp l hmem) (Nat.not_lt.2 hl)
  -- what a round trip into zeros leaves
  have hentries {m : Nat} {v x : Array R}
      (hv : ∀ l, v[l]? = (Array.replicate m (0 : R))[l]?.map
        (· + (spec.references.count l : R) * Buffer.entry x l)) :
      (∀ l < m, v[l]? = some ((spec.references.count l : R) * Buffer.entry x l)) ∧
        ∀ l, op.shape.lSize ≤ l → l < m → v[l]? = some 0 := by
    have hinside (l : Nat) (hl : l < m) :
        v[l]? = some ((spec.references.count l : R) * Buffer.entry x l) := by
      rw [hv, Array.getElem?_replicate, if_pos hl, Option.map_some, zero_add]
    refine ⟨hinside, fun l hl hlm => ?_⟩
    rw [hinside l hlm, hbehind hl, Nat.cast_zero, zero_mul]
  refine ⟨op.shape, data, hp, fun x y₀ m hx hy hm => ?_, fun mult hmult => ?_⟩
  · obtain ⟨y, v, hforward, hsize, htranspose, hm', hv⟩ := Spec.roundTrip hp himp hdiag hx hy
      (v := Array.replicate m (0 : R)) (by rwa [Array.size_replicate])
    rw [Array.size_replicate] at hm'
    obtain ⟨hin, hout⟩ := hentries hv
    exact ⟨y, v, hserves.outcome_apply_ok himp.sound (d := .forward) hx hy hforward,
      hserves.outcome_apply_ok himp.sound (d := .transpose) (hsize.symm ▸ hy)
        (by rwa [Array.size_replicate]) htranspose,
      hm', fun l hl => hin l (by omega), hout⟩
  · obtain ⟨y₀, hy₀, hrun⟩ := hserves.run_multiplicity himp.sound hmult
    obtain ⟨y, counts, hforward, hsize, htranspose, hm', hv⟩ := Spec.roundTrip hp himp hdiag
      (x := Array.replicate mult.size (1 : R)) (by rwa [Array.size_replicate])
      (Nat.le_of_eq hy₀.symm) (v := Array.replicate mult.size (0 : R))
      (by rwa [Array.size_replicate])
    rw [Array.size_replicate] at hm'
    obtain ⟨hin, hout⟩ := hentries hv
    refine ⟨counts, hrun y counts hsize hforward htranspose, hm', fun l hl => ?_, hout⟩
    have hl' : l < mult.size := by omega
    have hone : Buffer.entry (Array.replicate mult.size (1 : R)) l = 1 := by
      rw [Buffer.entry, Array.getD_eq_getD_getElem?, Array.getElem?_replicate, if_pos hl']
      rfl
    rw [hin l hl', hone, mul_one]

/-- Repeated offsets and overlapping components, in blocks of two with a padding lane, for a context
whose new vectors are filled with sevens. -/
theorem roundTrip_counts_references_overlapping :
    let spec := Spec.offsets (.overlapping 2)
    let ctx : Context Unit Int := ⟨⟨⟨{ resource := stem, deterministic := true },
      { Reference.backend stem with fill := 7 }⟩, []⟩, 0⟩
    let s : Session Unit Int := (start ⟨[]⟩ ()).after (.create ctx spec "r")
    OnReferenceWith true stem spec s "r" .full ∧ spec.isCurl = false ∧
      ((multiplicity "r" #[9, 9, 9, 9, 9]).run s).run = ((#[2, 5, 4, 1, 0], .ok ()), s) ∧
      ∃ y v, outcome (apply "r" .forward #[1, -2, 3, 5] (Array.replicate 16 9)) s = (.ok y, s) ∧
        outcome (apply "r" .transpose y (Array.replicate 4 0)) s = (.ok v, s) ∧
        v[1]? = some (-10) := by
  intro spec ctx s
  have hres : ctx.resolve spec.construction.capability = .ok ctx := rfl
  have h : OnReferenceWith true stem spec s "r" .full :=
    descends_create ⟨[]⟩ () [] hres ⟨rfl, rfl⟩ rfl rfl rfl "r"
  obtain ⟨shape, data, hp, htrip, hmult⟩ := roundTrip_counts_references (by decide) h
  cases hp
  obtain ⟨y, v, hy, hv, -, hinside, -⟩ := htrip #[1, -2, 3, 5] (Array.replicate 16 9) 4 (by decide)
    (by decide) (by decide)
  obtain ⟨counts, hrun, hsize, hin, hout⟩ := hmult #[9, 9, 9, 9, 9] (by decide)
  have hcounts : counts = #[2, 5, 4, 1, 0] := by
    apply Array.ext_getElem?
    intro l
    match l with
    | 0 | 1 | 2 | 3 => exact (hin _ (by decide)).trans (by decide)
    | 4 => exact hout 4 (by decide) (by decide)
    | l + 5 =>
      rw [Array.getElem?_eq_none (hsize ▸ Nat.le_add_left 5 l)]
      rfl
  exact ⟨h, rfl, hcounts ▸ hrun, y, v, hy, hv, (hinside 1 (by decide)).trans (by decide)⟩

end GatherScatter.Session
