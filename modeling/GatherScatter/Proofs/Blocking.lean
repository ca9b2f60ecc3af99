import GatherScatter.Proofs.Loops
import GatherScatter.Proofs.Reference.Layout

/-!
# Blocked arrays, entry by entry

`Interleaved` says how the array that an apply reads comes from the raw one: entry `i` of lane `j`
of block `b` is entry `i` of the row of the element in that lane.

* `exists_permutePad`: an array of the right length has a blocked form.
* `interleaved_permutePad`: a blocked form is interleaved.
* `interleaved_self`: with blocks of one element, so is the raw array itself.
-/
namespace GatherScatter.Blocking

variable {β : Type} {numElem width blockSize : Nat}

/-- Every entry that is appended is there. -/
theorem source_lt {x : Nat × Nat × Nat}
    (hx : x ∈ Ranges.triples (numBlocks numElem blockSize) width blockSize) :
    laneElem numElem blockSize x.1 x.2.2 * width + x.2.1 < numElem * width := by
  obtain ⟨hb, hk, hj⟩ := Ranges.mem_triples.1 hx
  exact mul_add_lt (laneElem_lt ((lt_numBlocks_iff (by omega)).1 hb)) hk

/-- `out` holds the rows of `src`, those of a block lane by lane. -/
structure Interleaved (src out : Array β) (numElem width blockSize : Nat) : Prop where
  size_src : src.size = numElem * width
  size_out : out.size = numBlocks numElem blockSize * width * blockSize
  entry : ∀ b i j, b < numBlocks numElem blockSize → i < width → j < blockSize →
    out[(b * width + i) * blockSize + j]? = src[laneElem numElem blockSize b j * width + i]?

/-- What is appended, in one list. -/
theorem permutePad_eq {src : Array β} (what : String) (hB : 0 < blockSize)
    (hs : src.size = numElem * width) :
    permutePad src numElem width blockSize what = (do
      return (← (Ranges.triples (numBlocks numElem blockSize) width blockSize).mapM fun x =>
        Buffer.read src (laneElem numElem blockSize x.1 x.2.2 * width + x.2.1)).toArray) := by
  rw [permutePad, if_neg (by omega), if_neg (by omega), Loop.foldlM_push]
  simp only [Array.empty_append]

theorem exists_permutePad {src : Array β} (what : String) (hB : 0 < blockSize)
    (hs : src.size = numElem * width) :
    ∃ out, permutePad src numElem width blockSize what = .ok out := by
  obtain ⟨ys, hys, -⟩ := Loop.exists_mapM_eq_ok
    (f := fun x => Buffer.read src (laneElem numElem blockSize x.1 x.2.2 * width + x.2.1))
    (l := Ranges.triples (numBlocks numElem blockSize) width blockSize) fun x hx =>
      ⟨_, Buffer.read_eq_ok_iff.2 (Array.getElem?_eq_getElem (hs ▸ source_lt hx))⟩
  rw [permutePad_eq what hB hs, hys]
  exact ⟨_, rfl⟩

theorem interleaved_permutePad {src out : Array β} {what : String}
    (h : permutePad src numElem width blockSize what = .ok out) :
    Interleaved src out numElem width blockSize := by
  have hB : 0 < blockSize := Nat.pos_of_ne_zero (by rintro rfl; cases h)
  have hs : src.size = numElem * width := by
    by_contra hs
    rw [permutePad, if_neg (by omega), if_pos hs] at h
    cases h
  rw [permutePad_eq what hB hs] at h
  obtain ⟨ys, hys, h⟩ := Loop.bind_eq_ok.1 h
  cases h
  have hall := Loop.mapM_eq_ok_iff.1 hys
  have hlen := hall.length_eq
  rw [Ranges.length_triples] at hlen
  refine ⟨hs, hlen.symm, fun b i j hb hi hj => ?_⟩
  -- lane `j` of entry `i` of block `b` is appended at the number of this visit
  obtain ⟨hlt, hvisit⟩ := List.getElem?_eq_some_iff.1 (Ranges.getElem?_triples hb hi hj)
  have hread := hall.get hlt (by rwa [← hall.length_eq])
  rw [Buffer.read_eq_ok_iff, List.get_eq_getElem, hvisit] at hread
  rw [hread]
  simp

theorem interleaved_self {src : Array β} (hs : src.size = numElem * width) :
    Interleaved src src numElem width 1 := by
  refine ⟨hs, by simp [hs], fun b i j hb hi hj => ?_⟩
  rw [numBlocks_one] at hb
  rw [laneElem_of_active (by omega), show j = 0 by omega]
  simp

end GatherScatter.Blocking
