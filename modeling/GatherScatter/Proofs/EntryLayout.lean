import GatherScatter.Proofs.BlockInvariance

/-!
# The reported layout of an E-vector

A restriction reports strides for the nodes, the components and the elements of its E-vector.
Without blocks they say where every value is. With blocks they do so in the first block alone: the
next block starts only when all nodes and components of this one are through, which no stride from
one element to the next can say.

* `Strides.reported`: the strides that are reported.
* `Strides.reported_address_eq_iff`: for which elements they lead to the place of their values.
* `layout_addresses_first_block`: what a forward apply puts there.
-/
namespace GatherScatter

/-- Place in the E-vector of node `n`, component `k` of element `e`, in blocks of `B` elements of
`E` nodes with `C` components. -/
def Blocking.entryPlace (B E C n k e : Nat) : Nat :=
  e / B * B * E * C + (k * E + n) * B + e % B

namespace Strides

/-- Strides that are reported for blocks of `B` elements of `E` nodes with `C` components. -/
def reported (B E C : Nat) : Strides := if B = 1 then packed E C else ⟨B, E * B, 1⟩

/-- The reported strides lead to the place of an element in the first block, and of every element if
there are no blocks or if elements have one entry each. They do not in any other case. -/
theorem reported_address_eq_iff {B E C : Nat} (hB : 0 < B) (n k e : Nat) :
    (reported B E C).address n k e = Blocking.entryPlace B E C n k e ↔
      B = 1 ∨ E * C = 1 ∨ e < B := by
  rw [Blocking.entryPlace, reported, Nat.mul_assoc (e / B * B)]
  by_cases h1 : B = 1
  · rw [if_pos h1, h1, Nat.div_one, Nat.mod_one, Nat.mul_one, Nat.mul_one, Nat.add_zero]
    dsimp only [packed, address]
    exact iff_of_true (by omega) (.inl rfl)
  · -- the elements of all blocks before this one
    have hsplit : e / B * B + e % B = e := by
      rw [Nat.mul_comm]
      exact Nat.div_add_mod e B
    have hwithin : n * B + k * (E * B) = (k * E + n) * B := by ring
    rw [if_neg h1]
    dsimp only [address]
    rw [Nat.mul_one, hwithin]
    by_cases he : e < B
    · rw [Nat.div_eq_of_lt he, Nat.mod_eq_of_lt he, Nat.zero_mul, Nat.zero_mul, Nat.zero_add]
      exact iff_of_true rfl (.inr (.inr he))
    · have hbefore : e / B * B ≠ 0 :=
        Nat.mul_ne_zero (Nat.div_pos (Nat.le_of_not_lt he) hB).ne' hB.ne'
      rw [or_iff_right h1, or_iff_left he, ← Nat.mul_eq_left hbefore]
      omega

end Strides

theorem Shape.Fits.eLayout_eq {spec : Spec} {B : Nat} {op : Reference.Operator}
    (h : op.shape.Fits spec B) (hnodes : op.shape.isPoints = false) :
    op.eLayout = some (.reported B spec.elemSize spec.numComp) := by
  unfold Reference.Operator.eLayout Strides.reported
  dsimp only
  rw [hnodes, h.blockSize, h.elemSize, h.numComp, if_neg Bool.false_ne_true]
  split <;> rfl

namespace Session

open GatherScatter.Reference

variable {σ σ' α : Type} [Add α] [Mul α] [IntCast α] {spec : Spec} {B : Nat} {mode : Mode}
  {s : Session σ α} {s' : Session σ' α} {name name' : String}

theorem BlockPair.blockSize_pos (h : BlockPair spec B mode s name s' name') : 0 < B := by
  obtain ⟨t, -, op, -, -, -, hfits, hop, -⟩ := h.operators
  exact hfits.blockSize ▸ hop.blockSize_pos

theorem BlockPair.exists_layout (h : BlockPair spec B mode s name s' name') :
    ∃ d, outcome (restriction name') s' = (.ok d, s') ∧
      d.layout = .ok (.reported B spec.elemSize spec.numComp) := by
  obtain ⟨hnodes, -, resource, hblocked⟩ := h
  obtain ⟨t, ht⟩ := hnodes.exists_realizes
  obtain ⟨d, shape, data, op, hd, hp, hshape, himp, hlayout⟩ := hblocked.exists_layout
  obtain ⟨hfits, hop⟩ := ht B shape data op hp himp
  rw [← hshape] at hfits
  refine ⟨d, hd, ?_⟩
  rw [Descriptor.layout, hlayout, hfits.eLayout_eq hop.notPoints]

/-- A forward apply puts the value of each node and component of each element into its place. -/
theorem BlockPair.getElem?_entryPlace (h : BlockPair spec B mode s name s' name') {x y y' : Array α}
    (hx : spec.lSize ≤ x.size) (hy : spec.numElem * spec.elemSize * spec.numComp ≤ y.size)
    (hy' : numBlocks spec.numElem B * B * spec.elemSize * spec.numComp ≤ y'.size) :
    ∃ z z', outcome (apply name .forward x y) s = (.ok z, s) ∧
      outcome (apply name' .forward x y') s' = (.ok z', s') ∧
      ∀ e < spec.numElem, ∀ k < spec.numComp, ∀ n < spec.elemSize, ∃ a,
        z[e * spec.elemSize * spec.numComp + k * spec.elemSize + n]? = some a ∧
        z'[Blocking.entryPlace B spec.elemSize spec.numComp n k e]? = some a := by
  obtain ⟨z, z', hz, hz', hplaces⟩ := h.forwardAgrees x y y' hx hy hy'
  refine ⟨z, z', hz, hz', fun e he k hk n hn => ?_⟩
  have hB := h.blockSize_pos
  obtain ⟨a, hplace, helem⟩ := hplaces (e / B) (div_lt_numBlocks hB he) k hk n hn (e % B)
    (Nat.mod_lt e hB)
  have hlane : min (e / B * B + e % B) (spec.numElem - 1) = e := by
    rw [Nat.mul_comm, Nat.div_add_mod]
    omega
  rw [hlane] at helem
  exact ⟨a, helem, hplace⟩

/-- With blocks of `B` elements, the value of node `n` and component `k` of element `e` is at its
place in the E-vector, and the strides that the restriction reports lead there if and only if the
element is in the first block, or there are no blocks, or elements have one entry each. This holds
in every mode, and whatever happened since the restrictions were made. -/
theorem layout_addresses_first_block (h : BlockPair spec B mode s name s' name') :
    ∃ d layout, outcome (restriction name') s' = (.ok d, s') ∧ d.layout = .ok layout ∧
      ∀ x y y' : Array α, spec.lSize ≤ x.size →
        spec.numElem * spec.elemSize * spec.numComp ≤ y.size →
        numBlocks spec.numElem B * B * spec.elemSize * spec.numComp ≤ y'.size →
        ∃ z z', outcome (apply name .forward x y) s = (.ok z, s) ∧
          outcome (apply name' .forward x y') s' = (.ok z', s') ∧
          ∀ e < spec.numElem, ∀ k < spec.numComp, ∀ n < spec.elemSize,
            let place := Blocking.entryPlace B spec.elemSize spec.numComp n k e
            (∃ a, z[e * spec.elemSize * spec.numComp + k * spec.elemSize + n]? = some a ∧
              z'[place]? = some a) ∧
            (layout.address n k e = place ↔
              B = 1 ∨ spec.elemSize * spec.numComp = 1 ∨ e < B) := by
  obtain ⟨d, hd, hlayout⟩ := h.exists_layout
  refine ⟨d, _, hd, hlayout, fun x y y' hx hy hy' => ?_⟩
  obtain ⟨z, z', hz, hz', hvalues⟩ := h.getElem?_entryPlace hx hy hy'
  refine ⟨z, z', hz, hz', fun e he k hk n hn => ?_⟩
  exact ⟨hvalues e he k hk n hn, Strides.reported_address_eq_iff h.blockSize_pos n k e⟩

/-- Three elements of two nodes in blocks of two: what the strides hold for of the third element is
the block of the first two. -/
def folded (blockSize : Nat) : Spec := .offsets
  { numElem := 3, elemSize := 2, blockSize := blockSize, numComp := 1, compStride := 1, lSize := 4
    offsets := .owned #[0, 1, 3, 2, 1, 2] }

theorem layout_addresses_first_block_folded :
    let s : Session Unit Int := single () false (folded 1)
    let s' : Session Unit Int := single () false (folded 2)
    BlockPair (folded 1) 2 .full s "r" s' "r" ∧
    ∃ d layout, outcome (restriction "r") s' = (.ok d, s') ∧ d.layout = .ok layout ∧
      ∃ z z', outcome (apply "r" .forward #[10, 11, 12, 13] (Array.replicate 6 0)) s =
          (.ok z, s) ∧
        outcome (apply "r" .forward #[10, 11, 12, 13] (Array.replicate 8 0)) s' = (.ok z', s') ∧
        layout.address 1 0 1 = Blocking.entryPlace 2 2 1 1 0 1 ∧
        layout.address 1 0 2 ≠ Blocking.entryPlace 2 2 1 1 0 2 := by
  intro s s'
  have h : BlockPair (folded 1) 2 .full s "r" s' "r" :=
    ⟨.offsets _, ⟨stem, onReference_single () false (folded 1) rfl rfl⟩,
      ⟨stem, onReference_single () false (folded 2) rfl rfl⟩⟩
  obtain ⟨d, layout, hd, hlayout, happlies⟩ := layout_addresses_first_block h
  obtain ⟨z, z', hz, hz', hall⟩ := happlies #[10, 11, 12, 13] (Array.replicate 6 0)
    (Array.replicate 8 0) (by decide) (by decide) (by decide)
  have hfirst := (hall 1 (by decide) 0 (by decide) 1 (by decide)).2
  have hlast := (hall 2 (by decide) 0 (by decide) 1 (by decide)).2
  exact ⟨h, d, layout, hd, hlayout, z, z', hz, hz', hfirst.2 (by decide),
    mt hlast.1 (by decide)⟩

/-- The strides lead from node 1 of the last element to the value of another node, which is not the
one that a restriction without blocks has for it. -/
theorem layout_misses_second_block :
    ∃ d layout,
      (outcome (restriction "r") (single () false (folded 2) : Session Unit Int)).1 = .ok d ∧
      d.layout = .ok layout ∧
      ∃ z z' : Array Int,
        (outcome (apply "r" .forward #[10, 11, 12, 13] (Array.replicate 6 0))
          (single () false (folded 1) : Session Unit Int)).1 = .ok z ∧
        (outcome (apply "r" .forward #[10, 11, 12, 13] (Array.replicate 8 0))
          (single () false (folded 2) : Session Unit Int)).1 = .ok z' ∧
        z[2 * 2 + 1]? = some 12 ∧ z'[layout.address 1 0 2]? = some 11 := by
  exact ⟨_, ⟨2, 4, 1⟩, rfl, rfl, #[10, 11, 13, 12, 11, 12], #[10, 13, 11, 12, 11, 11, 12, 12], rfl,
    rfl, rfl, rfl⟩

end Session

end GatherScatter
