import GatherScatter.Proofs.Reference.IndexMap
import Mathlib.Data.List.Induction

/-!
# The transpose map is the inverse of the index map

The build is a counting sort of the links by their L-vector entry. `before ls l` is the number of
links to entries below `l`: where the row of `l` starts.

* `accumulate_counts`: the summed counts are the row starts.
* `Placed`, `placed_fold`: after a prefix of the links, every row holds the readers of that prefix
  in order, and the cursors stand behind them.
* `exists_build`: links into the L-vector always have a map, and the map sorts them.
* `exists_links_of_build`: no other links have one.
* `Sorts.inverts`: the rows of the map are the readers of each entry, in the order of the links.
-/
namespace GatherScatter.Reference.TransposeMap

/-- Links to entry `l`, in order. -/
def row (ls : List Link) (l : Nat) : List Link := ls.filter fun x => x.source = l

/-- Number of links to entries below `l`. -/
def before (ls : List Link) (l : Nat) : Nat := ls.countP fun x => x.source < l

theorem before_succ (ls : List Link) (l : Nat) :
    before ls (l + 1) = before ls l + (row ls l).length := by
  induction ls with
  | nil => rfl
  | cons x ls ih =>
    simp only [before, row, List.countP_cons, List.filter_cons] at ih ⊢
    rcases Nat.lt_trichotomy x.source l with h | h | h
    · have h1 : x.source < l + 1 := by omega
      have h2 : x.source ≠ l := by omega
      simp only [h, h1, h2, decide_true, decide_false, if_true, Bool.false_eq_true, if_false]
      omega
    · simp only [h, Nat.lt_irrefl, Nat.lt_add_one, decide_true, decide_false, if_true,
        Bool.false_eq_true, if_false, List.length_cons]
      omega
    · have h1 : ¬ x.source < l + 1 := by omega
      have h2 : x.source ≠ l := by omega
      have h3 : ¬ x.source < l := by omega
      simp only [h1, h2, h3, decide_false, Bool.false_eq_true, if_false]
      omega

theorem before_mono (ls : List Link) {l l' : Nat} (h : l ≤ l') : before ls l ≤ before ls l' := by
  apply List.countP_mono_left
  intro x _ hx
  simp only [decide_eq_true_eq] at hx ⊢
  omega

theorem before_le_length (ls : List Link) (l : Nat) : before ls l ≤ ls.length :=
  List.countP_le_length

/-- Rows do not overlap. -/
theorem before_add_inj {ls : List Link} {l l' r r' : Nat} (hr : r < (row ls l).length)
    (hr' : r' < (row ls l').length) (h : before ls l + r = before ls l' + r') :
    l = l' ∧ r = r' := by
  have hend := before_succ ls l
  have hend' := before_succ ls l'
  rcases Nat.lt_trichotomy l l' with hlt | rfl | hgt
  · have := before_mono ls (show l + 1 ≤ l' by omega)
    omega
  · exact ⟨rfl, by omega⟩
  · have := before_mono ls (show l' + 1 ≤ l by omega)
    omega

/-! ## Row starts -/

theorem counts_eq_ok {lSize : Nat} {ls : List Link} (h : ∀ x ∈ ls, x.source < lSize) :
    ∃ ns, counts lSize ls = .ok ns ∧ ns.size = lSize + 1 ∧ ns[0]? = some 0 ∧
      ∀ i < lSize, ns[i + 1]? = some (row ls i).length := by
  have hfold := Loop.foldlM_eq_foldl (fun c : Array Nat => c.size = lSize + 1)
    (f := fun c x => do
      let n ← Buffer.read c (x.source + 1)
      Buffer.write c (x.source + 1) (n + 1))
    (g := fun c x => c.modify (x.source + 1) (· + 1)) (l := ls) (fun x hx c hc => by
      have := h x hx
      exact ⟨Buffer.read_write_add (by omega) 1, by simpa using hc⟩)
    (b := Array.replicate (lSize + 1) 0) (by simp)
  have hadd : ls.foldl (fun c x => c.modify (x.source + 1) (· + 1)) (Array.replicate (lSize + 1) 0)
      = Buffer.addAll (Array.replicate (lSize + 1) 0) (ls.map fun x => (x.source + 1, 1)) := by
    rw [Buffer.addAll, List.foldl_map]
  rw [hadd] at hfold
  have hterms (i : Nat) : (Buffer.termsAt (i + 1) (ls.map fun x => (x.source + 1, 1))).foldl
      (· + ·) 0 = (row ls i).length := by
    have hone : Buffer.termsAt (i + 1) (ls.map fun x => (x.source + 1, 1)) =
        List.replicate (row ls i).length 1 := by
      simp [Buffer.termsAt, row, List.filter_map, Function.comp_def, List.map_const']
    rw [hone, ← List.sum_eq_foldl, List.sum_replicate_nat, Nat.mul_one]
  refine ⟨_, hfold.1, hfold.2, ?_, fun i hi => ?_⟩
  · rw [Buffer.getElem?_addAll_of_notMem (by simp)]
    simp
  · rw [Buffer.getElem?_addAll, Array.getElem?_replicate, if_pos (by omega), Option.map_some,
      hterms]

/-- Counting fails at a link to an entry that is not there. -/
theorem inside_of_counts {lSize : Nat} {ls : List Link} {ns : Array Nat}
    (h : counts lSize ls = .ok ns) : ∀ x ∈ ls, x.source < lSize := by
  refine Loop.forall_of_foldlM_eq_ok (fun c : Array Nat => c.size = lSize + 1)
    (fun c x c' hc hstep => ?_) Array.size_replicate h
  obtain ⟨n, -, hwrite⟩ := Loop.bind_eq_ok.1 hstep
  obtain ⟨hlt, rfl⟩ := Buffer.write_eq_ok_iff.1 hwrite
  exact ⟨by omega, by rw [Array.size_set, hc]⟩

/-- After `k` steps the first entries are row starts, the others still counts. -/
theorem accumulate_prefix {lSize : Nat} {ls : List Link} {ns : Array Nat} (hs : ns.size = lSize + 1)
    (h0 : ns[0]? = some 0) (hn : ∀ i < lSize, ns[i + 1]? = some (row ls i).length) (k : Nat)
    (hk : k ≤ lSize) :
    ∃ ns', accumulate k ns = .ok ns' ∧ ns'.size = lSize + 1 ∧
      (∀ i ≤ k, ns'[i]? = some (before ls i)) ∧
      ∀ i, k ≤ i → i < lSize → ns'[i + 1]? = some (row ls i).length := by
  induction k with
  | zero =>
    refine ⟨ns, rfl, hs, fun i hi => ?_, fun i _ hi => hn i hi⟩
    rw [show i = 0 by omega, h0]
    simp [before]
  | succ k ih =>
    obtain ⟨ns', hns', hsize, hstart, hcount⟩ := ih (by omega)
    have hk1 := hcount k (Nat.le_refl k) (by omega)
    have ha : Buffer.read ns' k = .ok (before ls k) :=
      Buffer.read_eq_ok_iff.2 (hstart k (Nat.le_refl k))
    have hb : Buffer.read ns' (k + 1) = .ok (row ls k).length := Buffer.read_eq_ok_iff.2 hk1
    refine ⟨ns'.setIfInBounds (k + 1) (before ls (k + 1)), ?_, by simpa using hsize, ?_, ?_⟩
    · unfold accumulate at hns' ⊢
      rw [List.range_succ, List.foldlM_append, hns', Loop.ok_bind, List.foldlM_cons, ha,
        Loop.ok_bind, hb, Loop.ok_bind, Buffer.write_eq_ok (by omega), before_succ,
        Nat.add_comm (before ls k)]
      rfl
    · intro i hi
      rw [Array.getElem?_setIfInBounds]
      by_cases h : k + 1 = i
      · rw [if_pos h, if_pos (by omega), h]
      · rw [if_neg h, hstart i (by omega)]
    · intro i hi hlt
      rw [Array.getElem?_setIfInBounds, if_neg (by omega)]
      exact hcount i (by omega) hlt

theorem accumulate_counts {lSize : Nat} {ls : List Link} (h : ∀ x ∈ ls, x.source < lSize) :
    ∃ starts, (counts lSize ls >>= accumulate lSize) = .ok starts ∧ starts.size = lSize + 1 ∧
      ∀ i ≤ lSize, starts[i]? = some (before ls i) := by
  obtain ⟨ns, hns, hsize, h0, hn⟩ := counts_eq_ok h
  obtain ⟨starts, hs, hsize', hstart, -⟩ := accumulate_prefix hsize h0 hn lSize (Nat.le_refl _)
  exact ⟨starts, by rw [hns, Loop.ok_bind, hs], hsize', hstart⟩

/-! ## Filing the readers -/

/-- State of the last loop after the links `done` of all links `ls`. -/
structure Placed (lSize : Nat) (ls done : List Link) (st : Array Nat × Array Nat) : Prop where
  size_cursor : st.1.size = lSize + 1
  size_indices : st.2.size = ls.length
  cursor : ∀ l < lSize, st.1[l]? = some (before ls l + (row done l).length)
  indices : ∀ l < lSize, ∀ r x, (row done l)[r]? = some x →
    st.2[before ls l + r]? = some x.reader

theorem row_append (ls ls' : List Link) (l : Nat) : row (ls ++ ls') l = row ls l ++ row ls' l :=
  List.filter_append ..

theorem row_singleton (x : Link) (l : Nat) : row [x] l = if x.source = l then [x] else [] := by
  by_cases h : x.source = l <;> simp [row, h]

theorem placed_step {lSize : Nat} {ls done rest : List Link} {x : Link} {st : Array Nat × Array Nat}
    (hls : ls = done ++ x :: rest) (hx : x.source < lSize) (h : Placed lSize ls done st) :
    ∃ st', (do
        let i ← Buffer.read st.1 x.source
        let indices ← Buffer.write st.2 i x.reader
        let cursor ← Buffer.write st.1 x.source (i + 1)
        return (cursor, indices)) = .ok st' ∧ Placed lSize ls (done ++ [x]) st' := by
  have hrow : (row done x.source).length < (row ls x.source).length := by
    rw [hls, row_append, List.length_append]
    simp [row]
  have hend := before_succ ls x.source
  have htot := before_le_length ls (x.source + 1)
  have hcur := h.cursor x.source hx
  have hi : before ls x.source + (row done x.source).length < st.2.size := by
    rw [h.size_indices]; omega
  refine ⟨(st.1.setIfInBounds x.source (before ls x.source + (row done x.source).length + 1),
    st.2.setIfInBounds (before ls x.source + (row done x.source).length) x.reader), ?_,
    by simpa using h.size_cursor, by simpa using h.size_indices, ?_, ?_⟩
  · rw [Buffer.read_eq_ok_iff.2 hcur, Loop.ok_bind, Buffer.write_eq_ok hi, Loop.ok_bind,
      Buffer.write_eq_ok (by rw [h.size_cursor]; omega), Loop.ok_bind]
    rfl
  · intro l hl
    rw [Array.getElem?_setIfInBounds, row_append, row_singleton]
    by_cases hxl : x.source = l
    · subst hxl
      rw [if_pos rfl, if_pos (by rw [h.size_cursor]; omega), if_pos rfl, List.length_append]
      rfl
    · rw [if_neg hxl, if_neg hxl, List.append_nil]
      exact h.cursor l hl
  · intro l hl r y hy
    rw [row_append, row_singleton] at hy
    rw [Array.getElem?_setIfInBounds]
    by_cases hold : r < (row done l).length
    · -- an entry of an earlier link: the new one goes to another place
      have hy' : (row done l)[r]? = some y := by
        rwa [List.getElem?_append_left hold] at hy
      have hlen : (row done l).length ≤ (row ls l).length := by
        rw [hls, row_append, List.length_append]; omega
      have hne : before ls x.source + (row done x.source).length ≠ before ls l + r := by
        intro heq
        obtain ⟨rfl, hlast⟩ := before_add_inj hrow (Nat.lt_of_lt_of_le hold hlen) heq
        omega
      rw [if_neg hne]
      exact h.indices l hl r y hy'
    · by_cases hxl : x.source = l
      · subst hxl
        rw [if_pos rfl, List.getElem?_append_right (by omega), List.getElem?_singleton] at hy
        split at hy
        · cases hy
          rw [if_pos (by omega), if_pos hi]
        · cases hy
      · rw [if_neg hxl, List.append_nil, List.getElem?_eq_none (by omega)] at hy
        cases hy

theorem placed_fold {lSize : Nat} {ls : List Link} {starts : Array Nat}
    (h : ∀ x ∈ ls, x.source < lSize) (hsize : starts.size = lSize + 1)
    (hstart : ∀ i ≤ lSize, starts[i]? = some (before ls i)) (done : List Link) :
    ∀ rest, ls = done ++ rest →
      ∃ st, done.foldlM (fun (cursor, indices) x => do
        let i ← Buffer.read cursor x.source
        let indices ← Buffer.write indices i x.reader
        let cursor ← Buffer.write cursor x.source (i + 1)
        return (cursor, indices))
        (starts, Array.replicate ls.length 0) = .ok st ∧ Placed lSize ls done st := by
  induction done using List.reverseRecOn with
  | nil =>
    intro rest _
    refine ⟨_, rfl, hsize, by simp, fun l hl => ?_, fun l _ r x hx => ?_⟩
    · rw [hstart l (by omega)]; rfl
    · simp [row] at hx
  | append_singleton done x ih =>
    intro rest hls
    rw [List.append_assoc] at hls
    obtain ⟨st, hst, hp⟩ := ih _ hls
    obtain ⟨st', hst', hp'⟩ := placed_step hls (h x (by simp [hls])) hp
    refine ⟨st', ?_, hp'⟩
    rw [List.foldlM_append, hst, Loop.ok_bind, List.foldlM_cons]
    exact Loop.bind_eq_ok.2 ⟨st', hst', rfl⟩

/-! ## The map -/

/-- The readers of every entry, in the order of the links. -/
def Inverts (m : TransposeMap) (lSize : Nat) (ls : List Link) : Prop :=
  ∀ l < lSize, m.readersOf l = .ok ((row ls l).map Link.reader).toArray

/-- Every row starts behind the rows of smaller entries and holds its readers in the order of the
links. -/
structure Sorts (m : TransposeMap) (lSize : Nat) (ls : List Link) : Prop where
  size_starts : m.starts.size = lSize + 1
  size_indices : m.indices.size = ls.length
  starts : ∀ l ≤ lSize, m.starts[l]? = some (before ls l)
  indices : ∀ l < lSize, ∀ r x, (row ls l)[r]? = some x →
    m.indices[before ls l + r]? = some x.reader

theorem exists_build {s : Shape} {offsets : Array Int} {ls : List Link}
    (hls : links s offsets = .ok ls) (h : ∀ x ∈ ls, x.source < s.lSize) :
    ∃ m, build s offsets = .ok m ∧ m.Sorts s.lSize ls := by
  obtain ⟨starts, hs, hsize, hstart⟩ := accumulate_counts h
  obtain ⟨c, hc, hacc⟩ := Loop.bind_eq_ok.1 hs
  obtain ⟨st, hst, hp⟩ := placed_fold h hsize hstart ls [] (List.append_nil ls).symm
  refine ⟨⟨starts, st.2⟩, ?_, hsize, hp.size_indices, hstart, hp.indices⟩
  rw [build, hls, Loop.ok_bind, hc, Loop.ok_bind, hacc, Loop.ok_bind, place,
    ← length_links hls, hst]
  rfl

/-- Only links into the L-vector are sorted. -/
theorem exists_links_of_build {s : Shape} {offsets : Array Int} {m : TransposeMap}
    (h : build s offsets = .ok m) :
    ∃ ls, links s offsets = .ok ls ∧ ∀ x ∈ ls, x.source < s.lSize := by
  obtain ⟨ls, hls, h⟩ := Loop.bind_eq_ok.1 h
  obtain ⟨ns, hns, -⟩ := Loop.bind_eq_ok.1 h
  exact ⟨ls, hls, inside_of_counts hns⟩

theorem Sorts.inverts {m : TransposeMap} {lSize : Nat} {ls : List Link} (h : m.Sorts lSize ls) :
    m.Inverts lSize ls := by
  intro l hl
  have hend := before_succ ls l
  have htot := before_le_length ls (l + 1)
  rw [readersOf, Buffer.read_eq_ok_iff.2 (h.starts l (by omega)), Loop.ok_bind,
    Buffer.read_eq_ok_iff.2 (h.starts (l + 1) (by omega)), Loop.ok_bind, Buffer.slice,
    if_pos ⟨by omega, by rw [h.size_indices]; omega⟩]
  congr 1
  apply Array.ext_getElem?
  intro r
  rw [Array.getElem?_extract]
  by_cases hr : r < (row ls l).length
  · have hx := List.getElem?_eq_getElem hr
    rw [if_pos (by rw [h.size_indices]; omega), h.indices l hl r _ hx]
    simp [hx]
  · rw [if_neg (by omega)]
    simp [List.getElem?_eq_none (Nat.le_of_not_lt hr)]

end GatherScatter.Reference.TransposeMap
