import GatherScatter.Proofs.Blocking
import GatherScatter.Proofs.Creation.Exact

/-!
# The blocked form of an array

`permutePad` makes the array that an apply reads from one that is given row by row. It fails exactly
on a block size of zero and on an array of the wrong length. What it gives is known entry by entry,
and from there follows the rest: rows are read back from their lanes, nothing is added that was not
in the array, and the values do not matter for where they go.

* `Interleaved.unique`, `Interleaved.src_unique`: each of the two arrays determines the other.
* `permutePad_isOk_iff`: the arrays that have a blocked form.
* `permutePad_map`: changing the values commutes with blocking.
* `padding_permutation`: the blocked form as a whole.
-/
namespace GatherScatter.Blocking

variable {β γ : Type} {src src' out out' : Array β} {numElem width blockSize : Nat}

/-- A place of the blocked array is a lane of an entry of a block. -/
theorem exists_slot {i : Nat} (h : i < numBlocks numElem blockSize * width * blockSize) :
    ∃ b k j, b < numBlocks numElem blockSize ∧ k < width ∧ j < blockSize ∧
      (b * width + k) * blockSize + j = i := by
  rw [Nat.mul_comm] at h
  obtain ⟨q, j, hq, hj, rfl⟩ := exists_mul_add_of_lt h
  rw [Nat.mul_comm] at hq
  obtain ⟨b, k, hb, hk, rfl⟩ := exists_mul_add_of_lt hq
  exact ⟨b, k, j, hb, hk, hj, rfl⟩

namespace Interleaved

/-- Every lane is filled from an entry that is there. -/
theorem exists_entry (h : Interleaved src out numElem width blockSize) {b k j : Nat}
    (hb : b < numBlocks numElem blockSize) (hk : k < width) (hj : j < blockSize) :
    ∃ x, src[laneElem numElem blockSize b j * width + k]? = some x ∧
      out[(b * width + k) * blockSize + j]? = some x := by
  have hlane : laneElem numElem blockSize b j < numElem :=
    laneElem_lt ((lt_numBlocks_iff (by omega)).1 hb)
  have hlt : laneElem numElem blockSize b j * width + k < src.size :=
    h.size_src ▸ mul_add_lt hlane hk
  have hsrc := Array.getElem?_eq_getElem hlt
  exact ⟨_, hsrc, (h.entry b k j hb hk hj).trans hsrc⟩

/-- The row of an element is read back from its lane. -/
theorem exists_row (h : Interleaved src out numElem width blockSize) (hB : 1 ≤ blockSize)
    {e k : Nat} (he : e < numElem) (hk : k < width) :
    ∃ x, src[e * width + k]? = some x ∧
      out[(e / blockSize * width + k) * blockSize + e % blockSize]? = some x := by
  have hlane : laneElem numElem blockSize (e / blockSize) (e % blockSize) = e := by
    rw [laneElem, Nat.div_add_mod']
    omega
  have h := h.exists_entry (div_lt_numBlocks hB he) hk (Nat.mod_lt e hB)
  rwa [hlane] at h

theorem mem_src (h : Interleaved src out numElem width blockSize) {x : β} (hx : x ∈ out) :
    x ∈ src := by
  obtain ⟨i, hi, rfl⟩ := Array.mem_iff_getElem.1 hx
  obtain ⟨b, k, j, hb, hk, hj, hslot⟩ := exists_slot (h.size_out ▸ hi)
  obtain ⟨y, hsrc, hout⟩ := h.exists_entry hb hk hj
  rw [hslot, Array.getElem?_eq_getElem hi] at hout
  exact Option.some.inj hout ▸ Array.mem_of_getElem? hsrc

/-- An array has one blocked form. -/
theorem unique (h : Interleaved src out numElem width blockSize)
    (h' : Interleaved src out' numElem width blockSize) : out = out' := by
  apply Array.ext_getElem?
  intro i
  by_cases hi : i < out.size
  · obtain ⟨b, k, j, hb, hk, hj, rfl⟩ := exists_slot (h.size_out ▸ hi)
    rw [h.entry b k j hb hk hj, h'.entry b k j hb hk hj]
  · have hi' : ¬ i < out'.size := by rwa [h'.size_out, ← h.size_out]
    rw [Array.getElem?_eq_none (by omega), Array.getElem?_eq_none (by omega)]

/-- A blocked form belongs to one array. -/
theorem src_unique (h : Interleaved src out numElem width blockSize)
    (h' : Interleaved src' out numElem width blockSize) (hB : 1 ≤ blockSize) : src = src' := by
  have hsize : src.size = src'.size := h.size_src.trans h'.size_src.symm
  refine Array.ext hsize fun i hi hi' => ?_
  have hlt := h.size_src ▸ hi
  rw [Nat.mul_comm] at hlt
  obtain ⟨e, k, he, hk, rfl⟩ := exists_mul_add_of_lt hlt
  obtain ⟨x, hx, hout⟩ := h.exists_row hB he hk
  obtain ⟨y, hy, hout'⟩ := h'.exists_row hB he hk
  rw [Array.getElem?_eq_getElem hi, Option.some.injEq] at hx
  rw [Array.getElem?_eq_getElem hi', Option.some.injEq] at hy
  rw [hx, hy]
  exact Option.some.inj (hout.symm.trans hout')

theorem map (h : Interleaved src out numElem width blockSize) (f : β → γ) :
    Interleaved (src.map f) (out.map f) numElem width blockSize where
  size_src := by rw [Array.size_map, h.size_src]
  size_out := by rw [Array.size_map, h.size_out]
  entry b k j hb hk hj := by
    rw [Array.getElem?_map, Array.getElem?_map, h.entry b k j hb hk hj]

end Interleaved

theorem permutePad_isOk_iff {what : String} :
    (permutePad src numElem width blockSize what).isOk ↔
      1 ≤ blockSize ∧ src.size = numElem * width := by
  rw [Loop.isOk_iff]
  constructor
  · rintro ⟨out, h⟩
    refine ⟨Nat.pos_of_ne_zero ?_, (interleaved_permutePad h).size_src⟩
    rintro rfl
    cases h
  · rintro ⟨hB, hs⟩
    exact exists_permutePad what hB hs

/-- With blocks of one element, the blocked form is the array itself. -/
theorem permutePad_one {what : String} (hs : src.size = numElem * width) :
    permutePad src numElem width 1 what = .ok src := by
  obtain ⟨out, h⟩ : ∃ out, permutePad src numElem width 1 what = .ok out :=
    exists_permutePad what Nat.one_pos hs
  rw [h, (interleaved_permutePad h).unique (interleaved_self hs)]

/-- Blocking changes neither values nor, if there is no blocked form, the reason for it. -/
theorem permutePad_map (f : β → γ) (src : Array β) (numElem width blockSize : Nat)
    (what : String) :
    permutePad (src.map f) numElem width blockSize what =
      (permutePad src numElem width blockSize what).map (Array.map f) := by
  by_cases hB : blockSize = 0
  · simp [permutePad, hB, Except.map]
  by_cases hs : src.size = numElem * width
  · obtain ⟨out, h⟩ : ∃ out, permutePad src numElem width blockSize what = .ok out :=
      exists_permutePad what (by omega) hs
    obtain ⟨out', h'⟩ : ∃ out', permutePad (src.map f) numElem width blockSize what = .ok out' :=
      exists_permutePad what (by omega) (by rwa [Array.size_map])
    have heq : out' = out.map f :=
      (interleaved_permutePad h').unique ((interleaved_permutePad h).map f)
    rw [h, h', heq]
    rfl
  · simp [permutePad, hB, hs, Except.map]

/-- The blocked form of an array of `numElem` rows of `width` entries. It is there exactly if blocks
have a lane and the array has that many entries; then each lane holds the row of its element, the
last element being repeated, and the array can be read back from it. -/
theorem padding_permutation (src : Array β) (numElem width blockSize : Nat) (what : String) :
    ((permutePad src numElem width blockSize what).isOk ↔
      1 ≤ blockSize ∧ src.size = numElem * width) ∧
    (∀ out, permutePad src numElem width blockSize what = .ok out →
      out.size = numElem ⌈/⌉ blockSize * width * blockSize ∧
      (∀ b k j, b < numElem ⌈/⌉ blockSize → k < width → j < blockSize →
        ∃ x, src[min (b * blockSize + j) (numElem - 1) * width + k]? = some x ∧
          out[b * width * blockSize + k * blockSize + j]? = some x) ∧
      (∀ e k, e < numElem → k < width →
        ∃ x, src[e * width + k]? = some x ∧
          out[e / blockSize * width * blockSize + k * blockSize + e % blockSize]? = some x) ∧
      (∀ src', permutePad src' numElem width blockSize what = .ok out → src' = src) ∧
      (∀ x ∈ out, x ∈ src)) ∧
    (src.size = numElem * width → permutePad src numElem width 1 what = .ok src) ∧
    ∀ f : β → γ, permutePad (src.map f) numElem width blockSize what =
      (permutePad src numElem width blockSize what).map (Array.map f) := by
  refine ⟨permutePad_isOk_iff, fun out hout => ?_, permutePad_one,
    fun f => permutePad_map f src numElem width blockSize what⟩
  have h := interleaved_permutePad hout
  have hB : 1 ≤ blockSize := (permutePad_isOk_iff.1 (Loop.isOk_iff.2 ⟨out, hout⟩)).1
  simp only [← numBlocks_eq_ceilDiv hB, ← Nat.add_mul]
  refine ⟨h.size_out, fun b k j => h.exists_entry, fun e k => h.exists_row hB,
    fun src' h' => ?_, fun x => h.mem_src⟩
  exact (interleaved_permutePad h').src_unique h hB

/-- Two blocks of two for three elements: the last lane repeats the third row. -/
example : permutePad #[10, 11, 20, 21, 30, 31] 3 2 2 "offsets" =
    .ok #[10, 20, 11, 21, 30, 30, 31, 31] := by
  rfl

end GatherScatter.Blocking
