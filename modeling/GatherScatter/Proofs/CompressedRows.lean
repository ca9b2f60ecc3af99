import GatherScatter.Proofs.Session.Reference

/-!
# Transpose maps invert the index map

Every entry of the E-vector reads one entry of the L-vector: its node has an offset, and its
component moves it. A transpose map goes the other way. `Transposes` says what that means for its
two arrays: the rows lie one behind the other, together they hold every entry of the E-vector once,
and each of them lists the readers of its entry in increasing order.

* `build_isOk_iff`: a map is built exactly if all nodes address the L-vector in all components. An
  access outside an array makes the build fail, so no step of a build that succeeds is one.
* `transposes_of_build`: whatever is built is such a map.
* `index_map_inverted`: an accepted request without blocks has one, and its operator holds it.
-/
namespace GatherScatter.Reference.TransposeMap

variable {s : Shape} {offsets : Array Int} {m : TransposeMap} {ls : List Link}

/-! ## Readers -/

/-- Entry `i` of the E-vector belongs to a node that addresses `l` in the entry's component. -/
def Reads (s : Shape) (offsets : Array Int) (l i : Nat) : Prop :=
  ∃ e k n, e < s.numElem ∧ k < s.numComp ∧ n < s.elemSize ∧
    i = e * s.elemSize * s.numComp + k * s.elemSize + n ∧ Addresses s offsets e k n l

/-- The readers of `l` among the links are its readers in the E-vector. -/
theorem mem_row_iff (h : links s offsets = .ok ls) {l i : Nat} :
    i ∈ (row ls l).map Link.reader ↔ Reads s offsets l i := by
  simp only [List.mem_map, row, List.mem_filter, decide_eq_true_eq]
  constructor
  · rintro ⟨x, ⟨hx, rfl⟩, rfl⟩
    obtain ⟨e, k, n, he, hk, hn, hlink⟩ := (mem_links_iff h).1 hx
    obtain ⟨haddr, hreader⟩ := link_eq_ok_iff.1 hlink
    exact ⟨e, k, n, he, hk, hn, hreader, haddr⟩
  · rintro ⟨e, k, n, he, hk, hn, hi, haddr⟩
    exact ⟨⟨l, i⟩, ⟨(mem_links_iff h).2 ⟨e, k, n, he, hk, hn, link_eq_ok_iff.2 ⟨haddr, hi⟩⟩, rfl⟩,
      rfl⟩

/-- A row is part of the E-vector, so its readers increase. -/
theorem row_increasing (h : links s offsets = .ok ls) (l : Nat) :
    ((row ls l).map Link.reader).Pairwise (· < ·) := by
  have hsub : ((row ls l).map Link.reader).Sublist (ls.map Link.reader) :=
    List.filter_sublist.map _
  rw [links_map_reader h] at hsub
  exact List.pairwise_lt_range.sublist hsub

/-! ## When a map is built -/

/-- A map is built exactly if every node addresses the L-vector in every component. -/
theorem build_isOk_iff : (build s offsets).isOk ↔
    ∀ e k n, e < s.numElem → k < s.numComp → n < s.elemSize →
      ∃ l < s.lSize, Addresses s offsets e k n l := by
  rw [Loop.isOk_iff]
  constructor
  · rintro ⟨m, h⟩ e k n he hk hn
    obtain ⟨ls, hls, hin⟩ := exists_links_of_build h
    obtain ⟨x, hx, hlink⟩ := exists_link hls he hk hn
    exact ⟨x.source, hin x hx, (link_eq_ok_iff.1 hlink).1⟩
  · intro h
    obtain ⟨ls, hls, -⟩ := Loop.exists_mapM_eq_ok
      (f := fun t => link s offsets t.1 t.2.1 t.2.2) (l := triples s) (by
        rintro ⟨e, k, n⟩ ht
        obtain ⟨he, hk, hn⟩ := mem_triples.1 ht
        obtain ⟨l, -, hl⟩ := h e k n he hk hn
        exact ⟨⟨l, _⟩, link_eq_ok_iff.2 ⟨hl, rfl⟩⟩)
    have hin : ∀ x ∈ ls, x.source < s.lSize := by
      intro x hx
      obtain ⟨e, k, n, he, hk, hn, hlink⟩ := (mem_links_iff hls).1 hx
      obtain ⟨⟨p, hp, hsource⟩, -⟩ := link_eq_ok_iff.1 hlink
      obtain ⟨l, hl, q, hq, hql⟩ := h e k n he hk hn
      rw [hp] at hq
      cases hq
      omega
    obtain ⟨m, hm, -⟩ := exists_build hls hin
    exact ⟨m, hm⟩

/-! ## What is built -/

theorem before_zero (ls : List Link) : before ls 0 = 0 := by simp [before]

theorem before_eq_length {lSize : Nat} (h : ∀ x ∈ ls, x.source < lSize) :
    before ls lSize = ls.length := by
  rw [before, List.countP_eq_length]
  simpa using h

theorem Sorts.starts_sorted {lSize : Nat} (h : m.Sorts lSize ls) :
    m.starts.toList.Pairwise (· ≤ ·) := by
  have hentry (i : Nat) (hi : i < m.starts.size) : m.starts[i] = before ls i := by
    have hstart := h.starts i (by rw [h.size_starts] at hi; omega)
    rwa [Array.getElem?_eq_getElem hi, Option.some.injEq] at hstart
  rw [List.pairwise_iff_getElem]
  intro i j hi hj hij
  rw [Array.length_toList] at hi hj
  rw [Array.getElem_toList, Array.getElem_toList, hentry i hi, hentry j hj]
  exact before_mono ls hij.le

/-- Every reader is in the row of its entry, and there is no room for another one. -/
theorem Sorts.indices_perm {lSize : Nat} (h : m.Sorts lSize ls)
    (hin : ∀ x ∈ ls, x.source < lSize) (hd : (ls.map Link.reader).Nodup) :
    m.indices.toList.Perm (ls.map Link.reader) := by
  have hsub : ls.map Link.reader ⊆ m.indices.toList := by
    intro i hi
    obtain ⟨x, hx, rfl⟩ := List.mem_map.1 hi
    have hrow : x ∈ row ls x.source := List.mem_filter.2 ⟨hx, decide_eq_true rfl⟩
    obtain ⟨r, hr⟩ := List.mem_iff_getElem?.1 hrow
    exact Array.mem_toList_iff.2 (Array.mem_of_getElem? (h.indices _ (hin x hx) r x hr))
  refine ((hd.subperm hsub).perm_of_length_le ?_).symm
  rw [Array.length_toList, h.size_indices, List.length_map]

/-- The map goes from each entry of the L-vector to the entries of the E-vector that read it. -/
structure Transposes (m : TransposeMap) (s : Shape) (offsets : Array Int) : Prop where
  size_starts : m.starts.size = s.lSize + 1
  starts_sorted : m.starts.toList.Pairwise (· ≤ ·)
  starts_first : m.starts[0]? = some 0
  starts_last : m.starts[s.lSize]? = some (s.numElem * s.elemSize * s.numComp)
  /-- Every entry of the E-vector is in one row, and there once. -/
  indices_perm : m.indices.toList.Perm (List.range (s.numElem * s.elemSize * s.numComp))
  /-- Row `l` lists the readers of `l` in increasing order. -/
  readers : ∀ l < s.lSize, ∃ rs, m.readersOf l = .ok rs ∧ rs.toList.Pairwise (· < ·) ∧
    ∀ i, i ∈ rs ↔ Reads s offsets l i

theorem transposes_of_build (h : build s offsets = .ok m) : m.Transposes s offsets := by
  obtain ⟨ls, hls, hin⟩ := exists_links_of_build h
  have hlen := length_links hls
  have hreaders := links_map_reader hls
  obtain ⟨m', hm', hsorts⟩ := exists_build hls hin
  rw [h] at hm'
  cases hm'
  exact {
    size_starts := hsorts.size_starts
    starts_sorted := hsorts.starts_sorted
    starts_first := by rw [hsorts.starts 0 (Nat.zero_le _), before_zero]
    starts_last := by rw [hsorts.starts s.lSize (Nat.le_refl _), before_eq_length hin, hlen]
    indices_perm := hreaders ▸ hsorts.indices_perm hin (hreaders ▸ List.nodup_range)
    readers := fun l hl => ⟨_, hsorts.inverts l hl, row_increasing hls l, fun i => by
      rw [List.mem_toArray, mem_row_iff hls]⟩ }

/-! ## Accepted requests -/

/-- An accepted request without blocks whose offsets are in host memory has a transpose map. The
build makes it, so none of its steps reads or writes outside an array; memory is not counted. It is
the map of the operator that is compiled for a context with deterministic applies, and it goes from
each entry of the L-vector to the entries of the E-vector that read it, whatever components and
strides there are and however often offsets repeat. -/
theorem index_map_inverted {spec : OffsetSpec} {shape : Shape} {data : IndexData}
    (hone : spec.blockSize = 1) (hm : spec.mem = .host) (hp : spec.plan = .ok (shape, data)) :
    ∃ m, build shape spec.offsets.entries = .ok m ∧
      Operator.compile true shape data =
        .ok ⟨shape, .offsets spec.offsets.entries, spec.orientation, some m⟩ ∧
      m.Transposes shape spec.offsets.entries := by
  have hplanned := OffsetSpec.planned_of_plan hp
  have hblock : shape.blockSize = 1 := by rw [hplanned.shape_eq, hone]
  obtain ⟨-, -, -, -, hdata⟩ := OffsetSpec.plan_eq_ok_iff.1 hp
  rw [OffsetSpec.data_unblocked (by omega)] at hdata
  cases hdata
  have hlinks := hplanned.links_eq hm rfl hblock
  -- creation has checked all that the build can trip over
  obtain ⟨m, hbuild⟩ := Loop.isOk_iff.1 (build_isOk_iff.2 fun e k n he hk hn => by
    obtain ⟨x, hx, hlink⟩ := exists_link hlinks he hk hn
    exact ⟨x.source, hplanned.links_inside hm x hx, (link_eq_ok_iff.1 hlink).1⟩)
  refine ⟨m, hbuild, ?_, transposes_of_build hbuild⟩
  rw [Operator.compile, hm, hblock, hplanned.notPoints]
  dsimp only
  rw [hbuild]
  rfl

/-- Repeated offsets and overlapping components: entry 1 has readers in all elements. -/
theorem index_map_inverted_overlapping :
    let spec := OffsetSpec.overlapping 1
    let rows : TransposeMap := ⟨#[0, 2, 7, 11, 12], #[0, 9, 1, 2, 4, 5, 11, 3, 6, 7, 8, 10]⟩
    ∃ shape data, spec.plan = .ok (shape, data) ∧ build shape spec.offsets.entries = .ok rows ∧
      rows.Transposes shape spec.offsets.entries ∧
      ∀ i, i ∈ #[1, 2, 4, 5, 11] ↔ Reads shape spec.offsets.entries 1 i := by
  intro spec rows
  have hp : (OffsetSpec.overlapping 1).plan = .ok (⟨.oriented, 3, 2, 2, 1, 4, 12, 1, 3, 0, none⟩,
    ⟨.host, some (OffsetSpec.overlapping 1).offsets, (OffsetSpec.overlapping 1).orientation⟩) := by
    decide
  obtain ⟨m, hbuild, -, htransposes⟩ := index_map_inverted rfl rfl hp
  have hm : m = rows := Except.ok.inj (hbuild.symm.trans (by decide))
  subst hm
  obtain ⟨rs, hrs, -, hmem⟩ := htransposes.readers 1 (by decide)
  have hrow : rs = #[1, 2, 4, 5, 11] := Except.ok.inj (hrs.symm.trans (by decide))
  subst hrow
  exact ⟨_, _, hp, hbuild, htransposes, hmem⟩

end GatherScatter.Reference.TransposeMap
