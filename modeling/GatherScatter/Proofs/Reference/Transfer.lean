import GatherScatter.Proofs.Reference.Stencil

/-!
# What the loops over blocks leave behind

On vectors that are long enough, no step of a gather or a scatter can fail, and what they do to
the output is a list of values to put, or of terms to add.

* `Realizes.gathered_eq_ok`, `Realizes.scattered_eq_ok`: the value that one entry gets or adds.
* `Realizes.gather_eq_ok`, `Realizes.scatter_eq_ok`: the two applies over all blocks.
* `Realizes.gatherBlock_eq_ok`, `Realizes.scatterBlock_eq_ok`: the same for one block.
* `Realizes.getElem?_gather`, `Realizes.terms_inside`: where the values come from and go to.
* `Realizes.gather_overwrites`: what the E-vector held before does not matter.
* `Realizes.scatterMapped_eq_ok`: a scatter through a transpose map adds the same terms to every
  entry, in the same order.
-/
namespace GatherScatter

namespace Stencil

/-- Nodes other than `n` that are coupled to node `n`. -/
def neighbours (t : Stencil) (elemSize : Nat) (mode : Mode) (n : Nat) : List Nat :=
  if t.coupled mode then
    (if 0 < n then [n - 1] else []) ++ (if n + 1 < elemSize then [n + 1] else [])
  else []

theorem mem_neighbours {t : Stencil} {elemSize : Nat} {mode : Mode} {n m : Nat} :
    m ∈ t.neighbours elemSize mode n ↔
      t.coupled mode ∧ (m + 1 = n ∨ m = n + 1 ∧ m < elemSize) := by
  unfold neighbours
  by_cases hc : t.coupled mode
  · rw [if_pos hc, List.mem_append]
    by_cases h0 : 0 < n <;> by_cases h1 : n + 1 < elemSize <;> simp [h0, h1, hc] <;> omega
  · simp [hc]

/-- A node and its neighbours are nodes. -/
theorem lt_of_mem_neighbours {t : Stencil} {elemSize : Nat} {mode : Mode} {n m : Nat}
    (hn : n < elemSize) (hm : m ∈ n :: t.neighbours elemSize mode n) : m < elemSize := by
  rcases List.mem_cons.1 hm with rfl | hm
  · exact hn
  · have := (mem_neighbours.1 hm).2
    omega

variable {α : Type} [Add α] [Mul α] [IntCast α]

/-- Sum of the weighted values of node `n` and its neighbours, in this order. -/
def weightedSum (w : Nat → Int) (x : Nat → α) (n : Nat) (rest : List Nat) : α :=
  rest.foldl (fun acc m => acc + (w m : α) * x m) ((w n : α) * x n)

/-- The sum over a node and its neighbours, spelled out. -/
theorem weightedSum_neighbours (t : Stencil) (elemSize : Nat) (mode : Mode) (w : Nat → Int)
    (x : Nat → α) (n : Nat) :
    weightedSum w x n (t.neighbours elemSize mode n) =
      if t.coupled mode then
        let own := (w n : α) * x n
        let withBefore := if 0 < n then own + (w (n - 1) : α) * x (n - 1) else own
        if n + 1 < elemSize then withBefore + (w (n + 1) : α) * x (n + 1) else withBefore
      else (w n : α) * x n := by
  unfold weightedSum neighbours
  by_cases hc : t.coupled mode
  · by_cases h0 : 0 < n <;> by_cases h1 : n + 1 < elemSize <;> simp [hc, h0, h1]
  · simp [hc]

/-- What a gather of `u` puts at component `k`, node `n` of element `e`. -/
def gathered (t : Stencil) (elemSize : Nat) (mode : Mode) (u : Array α) (e k n : Nat) : α :=
  weightedSum (t.weight mode e n) (fun m => Buffer.entry u (t.address e k m)) n
    (t.neighbours elemSize mode n)

/-- What a scatter adds for node `n` of element `e`, where `x m` is the value of node `m`. -/
def scattered (t : Stencil) (elemSize : Nat) (mode : Mode) (x : Nat → α) (e n : Nat) : α :=
  weightedSum (fun m => t.weight mode e m n) x n (t.neighbours elemSize mode n)

end Stencil

namespace Reference.Operator

open Stencil

variable {α : Type} [Add α] [Mul α] [IntCast α]

/-- Values that a gather of block `b` puts into the E-vector, which the block enters at `base`. -/
def blockPuts (s : Shape) (t : Stencil) (mode : Mode) (u : Array α) (base b : Nat) :
    List (Nat × α) :=
  (cells s s.blockSize).map fun c =>
    (base + position s c.comp c.node c.lane,
      t.gathered s.elemSize mode u (elemAt s b c.lane) c.comp c.node)

/-- Terms that a scatter of block `b` adds to the L-vector. -/
def blockTerms (s : Shape) (t : Stencil) (mode : Mode) (w : Array α) (base b : Nat) :
    List (Nat × α) :=
  (cells s (s.activeLanes b)).map fun c =>
    (t.address (elemAt s b c.lane) c.comp c.node,
      t.scattered s.elemSize mode (fun m => Buffer.entry w (base + position s c.comp m c.lane))
        (elemAt s b c.lane) c.node)

/-- Values that a gather puts into the E-vector, in order. -/
def puts (s : Shape) (t : Stencil) (mode : Mode) (u : Array α) : List (Nat × α) :=
  (List.range s.numBlock).flatMap fun b => blockPuts s t mode u (b * s.blockLen) b

/-- Terms that a scatter adds to the L-vector, in order. -/
def terms (s : Shape) (t : Stencil) (mode : Mode) (w : Array α) : List (Nat × α) :=
  (List.range s.numBlock).flatMap fun b => blockTerms s t mode w (b * s.blockLen) b

theorem puts_eq (s : Shape) (t : Stencil) (mode : Mode) (u : Array α) :
    puts s t mode u = (visits s fun _ => s.blockSize).map fun x =>
      (place s x.1 x.2,
        t.gathered s.elemSize mode u (elemAt s x.1 x.2.lane) x.2.comp x.2.node) := by
  simp only [puts, visits, blockPuts, List.map_flatMap, List.map_map]
  rfl

theorem terms_eq (s : Shape) (t : Stencil) (mode : Mode) (w : Array α) :
    terms s t mode w = (visits s s.activeLanes).map fun x =>
      (t.address (elemAt s x.1 x.2.lane) x.2.comp x.2.node,
        t.scattered s.elemSize mode (fun m => Buffer.entry w (place s x.1 { x.2 with node := m }))
          (elemAt s x.1 x.2.lane) x.2.node) := by
  simp only [terms, visits, blockTerms, List.map_flatMap, List.map_map]
  rfl

namespace Realizes

variable {op : Operator} {t : Stencil}

theorem elemAt_lt (h : op.Realizes t) {b : Nat} (hb : b < op.shape.numBlock) (j : Nat) :
    elemAt op.shape b j < op.shape.numElem := by
  rw [h.numBlock_eq] at hb
  exact Blocking.laneElem_lt ((lt_numBlocks_iff h.blockSize_pos).1 hb)

/-- Only the addresses of elements and nodes that are there matter. -/
theorem congr (h : op.Realizes t) {t' : Stencil}
    (haddress : ∀ e < op.shape.numElem, ∀ k, ∀ n < op.shape.elemSize,
      t'.address e k n = t.address e k n)
    (hcoupled : t'.coupled = t.coupled) (hweight : t'.weight = t.weight) : op.Realizes t' where
  notPoints := h.notPoints
  blockSize_pos := h.blockSize_pos
  numBlock_eq := h.numBlock_eq
  eSize_eq := h.eSize_eq
  eSize_lt := h.eSize_lt
  inside e k n he hk hn := haddress e he k n hn ▸ h.inside e k n he hk hn
  address_eq b k n j hb hn hj := by
    rw [haddress _ (h.elemAt_lt hb j) k n hn]
    exact h.address_eq b k n j hb hn hj
  isCoupled_eq := hcoupled ▸ h.isCoupled_eq
  weight_eq := hweight ▸ h.weight_eq
  map_inverts m hm := by
    have hlinks : stencilLinks op.shape t' = stencilLinks op.shape t := by
      refine List.map_congr_left fun ⟨e, k, n⟩ hx => ?_
      obtain ⟨he, -, hn⟩ := TransposeMap.mem_triples.1 hx
      rw [haddress e he k n hn]
    exact hlinks ▸ h.map_inverts m hm

/-- Where there is a block, its length is one that the unchecked products give. -/
theorem wrappedBlockLen_eq (h : op.Realizes t) {b : Nat} (hb : b < op.shape.numBlock) :
    op.shape.wrappedBlockLen = op.shape.blockLen :=
  Shape.wrappedBlockLen_of_lt
    (Shape.blockLen_lt_of_eSize h.eSize_eq h.eSize_lt (Nat.zero_lt_of_lt hb))

/-- Without blocks, every element is a block of its own. -/
theorem numBlock_one (h : op.Realizes t) (hB : op.shape.blockSize = 1) :
    op.shape.numBlock = op.shape.numElem := by
  rw [h.numBlock_eq, hB, numBlocks_one]

theorem gathered_eq_ok (h : op.Realizes t) (mode : Mode) {u : Array α}
    (hu : op.shape.lSize ≤ u.size) {b : Nat} (hb : b < op.shape.numBlock) {c : Cell}
    (hc : c ∈ cells op.shape op.shape.blockSize) :
    op.gathered mode u b c = .ok (t.gathered op.shape.elemSize mode u (elemAt op.shape b c.lane)
      c.comp c.node) := by
  obtain ⟨hk, hn, hj⟩ := mem_cells.1 hc
  have hvalue {m : Nat} (hm : m < op.shape.elemSize) :
      (op.address b c.comp m c.lane >>= Buffer.read u) =
        .ok (Buffer.entry u (t.address (elemAt op.shape b c.lane) c.comp m)) := by
    have hin := h.inside _ _ _ (h.elemAt_lt hb c.lane) hk hm
    rw [h.address_eq b c.comp m c.lane hb hm hj, Loop.ok_bind,
      Buffer.read_eq_entry (show _ < u.size from Nat.lt_of_lt_of_le hin hu)]
  rw [Operator.gathered_eq, Stencil.gathered, weightedSum_neighbours, ← h.isCoupled_eq]
  dsimp only
  by_cases hcoupled : op.isCoupled mode
  · -- entries 1, 0 and 2 of the row of the node
    have hown := h.curl_eq_ok (α := α) hcoupled hb hn hj
      (show c.node + 1 = c.node + 1 by rfl) (by omega)
    have hafter := h.curl_eq_ok (α := α) hcoupled hb hn hj
      (show c.node + 1 + 1 = c.node + 2 by rfl) (by omega)
    have hbefore (h0 : 0 < c.node) := h.curl_eq_ok (α := α) hcoupled hb hn hj
      (show c.node - 1 + 1 = c.node + 0 by omega) (by omega)
    have hprev : c.node - 1 < op.shape.elemSize := by omega
    rw [if_pos hcoupled, if_pos hcoupled, hown, Loop.ok_bind, hvalue hn, Loop.ok_bind]
    by_cases h0 : 0 < c.node <;> by_cases h1 : c.node + 1 < op.shape.elemSize <;>
      simp only [h0, h1, if_true, if_false, hafter, hbefore, hprev, hvalue, Loop.ok_bind] <;> rfl
  · rw [if_neg hcoupled, if_neg hcoupled, h.sign_eq_ok hcoupled hb hn hj, Loop.ok_bind, hvalue hn]
    rfl

theorem scattered_eq_ok (h : op.Realizes t) (mode : Mode) {w : Array α} {base : Nat}
    (hw : base + op.shape.blockLen ≤ w.size) {b : Nat} (hb : b < op.shape.numBlock) {c : Cell}
    (hc : c ∈ cells op.shape op.shape.blockSize) :
    op.scattered mode w base b c = .ok (t.scattered op.shape.elemSize mode
      (fun m => Buffer.entry w (base + position op.shape c.comp m c.lane))
      (elemAt op.shape b c.lane) c.node) := by
  obtain ⟨hk, hn, hj⟩ := mem_cells.1 hc
  have hvalue {m : Nat} (hm : m < op.shape.elemSize) :
      Buffer.read w (base + position op.shape c.comp m c.lane) =
        .ok (Buffer.entry w (base + position op.shape c.comp m c.lane)) := by
    have hlt := position_lt hk hm hj
    exact Buffer.read_eq_entry (show _ < w.size by omega)
  rw [Operator.scattered_eq, Stencil.scattered, weightedSum_neighbours, ← h.isCoupled_eq]
  dsimp only
  by_cases hcoupled : op.isCoupled mode
  · -- entry 1 of its row, entry 2 of the row before and entry 0 of the row after
    have hown := h.curl_eq_ok (α := α) hcoupled hb hn hj rfl (show 1 ≤ 2 by omega)
    have hafter (h1 : c.node + 1 < op.shape.elemSize) := h.curl_eq_ok (α := α) hcoupled hb h1 hj
      (show c.node + 1 = c.node + 1 + 0 by omega) (by omega)
    have hbefore (h0 : 0 < c.node) := h.curl_eq_ok (α := α) hcoupled hb
      (show c.node - 1 < op.shape.elemSize by omega) hj
      (show c.node + 1 = c.node - 1 + 2 by omega) (by omega)
    have hprev : c.node - 1 < op.shape.elemSize := by omega
    rw [if_pos hcoupled, if_pos hcoupled, hown, Loop.ok_bind, hvalue hn, Loop.ok_bind]
    by_cases h0 : 0 < c.node <;> by_cases h1 : c.node + 1 < op.shape.elemSize <;>
      simp only [h0, h1, if_true, if_false, hafter, hbefore, hprev, hvalue, Loop.ok_bind] <;> rfl
  · rw [if_neg hcoupled, if_neg hcoupled, h.sign_eq_ok hcoupled hb hn hj, Loop.ok_bind, hvalue hn]
    rfl

theorem gatherBlock_eq_ok (h : op.Realizes t) (mode : Mode) {u v : Array α} {base : Nat}
    (hu : op.shape.lSize ≤ u.size) (hv : base + op.shape.blockLen ≤ v.size) {b : Nat}
    (hb : b < op.shape.numBlock) :
    op.gatherBlock mode b u base v =
      .ok (Buffer.putAll v (blockPuts op.shape t mode u base b)) := by
  rw [Buffer.putAll, blockPuts, List.foldl_map, gatherBlock]
  refine (Loop.foldlM_eq_foldl (fun v' => v'.size = v.size) (fun c hc v' hv' => ?_) rfl).1
  obtain ⟨hk, hn, hj⟩ := mem_cells.1 hc
  have hlt := position_lt hk hn hj
  rw [h.gathered_eq_ok mode hu hb hc, Loop.ok_bind, Buffer.write_eq_ok (by omega)]
  exact ⟨rfl, by simpa using hv'⟩

theorem scatterBlock_eq_ok (h : op.Realizes t) (mode : Mode) {w v : Array α} {base : Nat}
    (hw : base + op.shape.blockLen ≤ w.size) (hv : op.shape.lSize ≤ v.size) {b : Nat}
    (hb : b < op.shape.numBlock) :
    op.scatterBlock mode b w base v =
      .ok (Buffer.addAll v (blockTerms op.shape t mode w base b)) := by
  rw [Buffer.addAll, blockTerms, List.foldl_map, scatterBlock]
  refine (Loop.foldlM_eq_foldl (fun v' => v'.size = v.size) (fun c hc v' hv' => ?_) rfl).1
  obtain ⟨hk, hn, hj⟩ := mem_cells.1 hc
  have hj' : c.lane < op.shape.blockSize := Nat.lt_of_lt_of_le hj (op.shape.activeLanes_le b)
  have hin := h.inside _ _ _ (h.elemAt_lt hb c.lane) hk hn
  rw [h.address_eq b c.comp c.node c.lane hb hn hj', Loop.ok_bind,
    h.scattered_eq_ok mode hw hb (mem_cells.2 ⟨hk, hn, hj'⟩), Loop.ok_bind]
  exact ⟨Buffer.read_write_add (show _ < v'.size from by rw [hv']; exact Nat.lt_of_lt_of_le hin hv)
    _, by simpa using hv'⟩

/-- Block `b` ends inside a vector that is as long as the E-vector. -/
theorem block_end_le (h : op.Realizes t) {b len : Nat} (hb : b < op.shape.numBlock)
    (hlen : op.shape.eSize ≤ len) : b * op.shape.blockLen + op.shape.blockLen ≤ len := by
  have := Nat.mul_le_mul_right op.shape.blockLen hb
  rw [Nat.succ_mul, ← h.eSize_eq] at this
  omega

theorem place_lt (h : op.Realizes t) {x : Nat × Cell}
    (hx : x ∈ visits op.shape fun _ => op.shape.blockSize) :
    place op.shape x.1 x.2 < op.shape.eSize := by
  rw [h.eSize_eq, ← List.mem_range, ← visits_map_place]
  exact List.mem_map.2 ⟨x, hx, rfl⟩

theorem gather_eq_ok (h : op.Realizes t) (mode : Mode) {u v : Array α}
    (hu : op.shape.lSize ≤ u.size) (hv : op.shape.eSize ≤ v.size) :
    op.gather mode u v = .ok (Buffer.putAll v (puts op.shape t mode u)) := by
  rw [Buffer.putAll, puts, List.foldl_flatMap, gather]
  refine (Loop.foldlM_eq_foldl (fun v' => v'.size = v.size) (fun b hb v' hv' => ?_) rfl).1
  rw [List.mem_range] at hb
  exact ⟨h.gatherBlock_eq_ok mode hu (by rw [hv']; exact h.block_end_le hb hv) hb,
    (Buffer.size_putAll v' _).trans hv'⟩

theorem scatter_eq_ok (h : op.Realizes t) (mode : Mode) {w v : Array α}
    (hw : op.shape.eSize ≤ w.size) (hv : op.shape.lSize ≤ v.size) :
    op.scatter mode w v = .ok (Buffer.addAll v (terms op.shape t mode w)) := by
  rw [Buffer.addAll, terms, List.foldl_flatMap, scatter]
  refine (Loop.foldlM_eq_foldl (fun v' => v'.size = v.size) (fun b hb v' hv' => ?_) rfl).1
  rw [List.mem_range] at hb
  exact ⟨h.scatterBlock_eq_ok mode (h.block_end_le hb hw) (by omega) hb,
    (Buffer.size_addAll v' _).trans hv'⟩

/-- What a gather puts at a place depends on the element there alone. -/
theorem getElem?_gather (h : op.Realizes t) (mode : Mode) {u v : Array α}
    (hv : op.shape.eSize ≤ v.size) {b k n j : Nat} (hb : b < op.shape.numBlock)
    (hk : k < op.shape.numComp) (hn : n < op.shape.elemSize) (hj : j < op.shape.blockSize) :
    (Buffer.putAll v (puts op.shape t mode u))[place op.shape b ⟨k, n, j⟩]? =
      some (t.gathered op.shape.elemSize mode u (elemAt op.shape b j) k n) := by
  have hx : (b, ⟨k, n, j⟩) ∈ visits op.shape fun _ => op.shape.blockSize :=
    mem_visits.2 ⟨hb, hk, hn, hj⟩
  rw [puts_eq]
  apply Buffer.getElem?_putAll_of_mem
  · rw [List.map_map]
    exact visits_map_place op.shape ▸ List.nodup_range
  · exact List.mem_map.2 ⟨_, hx, rfl⟩
  · exact Nat.lt_of_lt_of_le (h.place_lt hx) hv

/-- A gather leaves the entries behind the E-vector alone. -/
theorem getElem?_gather_of_le (h : op.Realizes t) (mode : Mode) (u v : Array α) {i : Nat}
    (hi : op.shape.eSize ≤ i) :
    (Buffer.putAll v (puts op.shape t mode u))[i]? = v[i]? := by
  rw [puts_eq]
  apply Buffer.getElem?_putAll_of_notMem
  rw [List.map_map]
  intro hmem
  obtain ⟨x, hx, rfl⟩ := List.mem_map.1 hmem
  exact Nat.not_lt.2 hi (h.place_lt hx)

/-- A gather overwrites all of an E-vector, so nothing of what was there before is left. -/
theorem gather_overwrites (h : op.Realizes t) (mode : Mode) (u : Array α) {v v' : Array α}
    (hv : v.size = op.shape.eSize) (hv' : v'.size = op.shape.eSize) :
    Buffer.putAll v (puts op.shape t mode u) = Buffer.putAll v' (puts op.shape t mode u) := by
  apply Array.ext_getElem?
  intro i
  by_cases hi : i < op.shape.eSize
  · rw [h.eSize_eq, ← List.mem_range, ← visits_map_place] at hi
    obtain ⟨⟨b, k, n, j⟩, hx, rfl⟩ := List.mem_map.1 hi
    obtain ⟨hb, hk, hn, hj⟩ := mem_visits.1 hx
    rw [h.getElem?_gather mode hv.ge hb hk hn hj, h.getElem?_gather mode hv'.ge hb hk hn hj]
  · have hle := Nat.le_of_not_lt hi
    rw [h.getElem?_gather_of_le mode u v hle, h.getElem?_gather_of_le mode u v' hle,
      Array.getElem?_eq_none (hv ▸ hle), Array.getElem?_eq_none (hv' ▸ hle)]

/-- A scatter adds inside the L-vector. -/
theorem terms_inside (h : op.Realizes t) {mode : Mode} {w : Array α} {x : Nat × α}
    (hx : x ∈ terms op.shape t mode w) : x.1 < op.shape.lSize := by
  rw [terms_eq] at hx
  obtain ⟨y, hy, rfl⟩ := List.mem_map.1 hx
  obtain ⟨hb, hk, hn, -⟩ := mem_visits.1 hy
  exact h.inside _ _ _ (h.elemAt_lt hb _) hk hn

end Realizes

/-! ## Through a transpose map -/

/-- With blocks of one element, the visits are the nodes of the elements. -/
theorem visits_one {s : Shape} (hB : s.blockSize = 1) (hN : s.numBlock = s.numElem) :
    visits s s.activeLanes = (TransposeMap.triples s).map fun (e, k, n) => (e, ⟨k, n, 0⟩) := by
  rw [visits, hN, TransposeMap.triples, List.map_flatMap]
  apply List.flatMap_congr
  intro e he
  rw [List.mem_range] at he
  have hl : s.activeLanes e = 1 := by
    rw [Shape.activeLanes, hB]; omega
  simp only [hl, cells, List.map_flatMap, List.map_map, List.range_one, List.map_cons, List.map_nil,
    ← List.map_eq_flatMap]
  rfl

/-- What node `n`, component `k` of element `e` adds, with blocks of one element. -/
def contribution (s : Shape) (t : Stencil) (mode : Mode) (w : Array α) :
    Nat × Nat × Nat → α := fun (e, k, n) =>
  t.scattered s.elemSize mode
    (fun m => Buffer.entry w (e * (s.elemSize * s.numComp) + position s k m 0)) e n

theorem terms_one {s : Shape} (t : Stencil) (mode : Mode) (w : Array α) (hB : s.blockSize = 1)
    (hN : s.numBlock = s.numElem) :
    terms s t mode w = (TransposeMap.triples s).map fun x =>
      (t.address x.1 x.2.1 x.2.2, contribution s t mode w x) := by
  rw [terms_eq, visits_one hB hN, List.map_map]
  apply List.map_congr_left
  rintro ⟨e, k, n⟩ hx
  obtain ⟨he, -, -⟩ := TransposeMap.mem_triples.1 hx
  simp only [Function.comp_apply, elemAt_one hB he, contribution, place, Shape.blockLen, hB,
    Nat.one_mul]

/-- Nodes that read L-vector entry `l`, in the order of the E-vector. -/
def readersAt (s : Shape) (t : Stencil) (l : Nat) : List (Nat × Nat × Nat) :=
  (TransposeMap.triples s).filter fun x => t.address x.1 x.2.1 x.2.2 = l

theorem row_stencilLinks (s : Shape) (t : Stencil) (l : Nat) :
    (TransposeMap.row (stencilLinks s t) l).map TransposeMap.Link.reader =
      (readersAt s t l).map fun x =>
        x.1 * s.elemSize * s.numComp + x.2.1 * s.elemSize + x.2.2 := by
  rw [TransposeMap.row, stencilLinks, List.filter_map, List.map_map]
  rfl

theorem termsAt_terms (t : Stencil) {s : Shape} (mode : Mode) (w : Array α) (hB : s.blockSize = 1)
    (hN : s.numBlock = s.numElem) (l : Nat) :
    Buffer.termsAt l (terms s t mode w) =
      (readersAt s t l).map (contribution s t mode w) := by
  rw [terms_one t mode w hB hN, Buffer.termsAt, List.filter_map, List.map_map]
  rfl

/-- The contribution of a node is filed under its number among all nodes. -/
theorem read_contributions {β : Type} {s : Shape} {x : Nat × Nat × Nat}
    (hx : x ∈ TransposeMap.triples s) (f : Nat × Nat × Nat → β) :
    Buffer.read ((TransposeMap.triples s).map f).toArray
      (x.1 * s.elemSize * s.numComp + x.2.1 * s.elemSize + x.2.2) = .ok (f x) := by
  obtain ⟨i, hi, rfl⟩ := List.getElem_of_mem hx
  have hidx := congrArg (·[i]?) (TransposeMap.triples_map_reader s)
  have hlt : i < s.numElem * s.elemSize * s.numComp := TransposeMap.length_triples s ▸ hi
  rw [List.getElem?_map, List.getElem?_eq_getElem hi, Option.map_some, List.getElem?_range hlt,
    Option.some.injEq] at hidx
  rw [Buffer.read_eq_ok_iff, hidx, List.getElem?_toArray, List.getElem?_map,
    List.getElem?_eq_getElem hi, Option.map_some]

/-- Adding up the contributions of the readers of `l` adds the terms of `l`. -/
theorem sum_readers_eq_ok {s : Shape} {t : Stencil} (mode : Mode) (w : Array α)
    (hB : s.blockSize = 1) (hN : s.numBlock = s.numElem) (l : Nat) (old : α) :
    ((TransposeMap.row (stencilLinks s t) l).map TransposeMap.Link.reader).foldlM
      (fun acc i => do
        return acc + (← Buffer.read
          ((TransposeMap.triples s).map (contribution s t mode w)).toArray i)) old =
      .ok ((Buffer.termsAt l (terms s t mode w)).foldl (· + ·) old) := by
  rw [row_stencilLinks, List.foldlM_map, termsAt_terms t mode w hB hN, List.foldl_map]
  refine (Loop.foldlM_eq_foldl (fun _ => True) (fun x hx acc _ => ⟨?_, trivial⟩) trivial).1
  rw [read_contributions (List.mem_of_mem_filter hx), Loop.ok_bind]
  rfl

namespace Realizes

variable {op : Operator} {t : Stencil}

theorem contributions_eq_ok (h : op.Realizes t) (mode : Mode) {w : Array α}
    (hB : op.shape.blockSize = 1) (hw : op.shape.eSize ≤ w.size) :
    op.contributions mode w =
      .ok ((TransposeMap.triples op.shape).map (contribution op.shape t mode w)).toArray := by
  have hN := h.numBlock_one hB
  have hlen : op.shape.blockLen = op.shape.elemSize * op.shape.numComp := by
    rw [Shape.blockLen, hB, Nat.one_mul]
  rw [contributions, Loop.mapM_eq_map (g := contribution op.shape t mode w)]
  · rfl
  · rintro ⟨e, k, n⟩ hx
    obtain ⟨he, hk, hn⟩ := TransposeMap.mem_triples.1 hx
    have hend := h.block_end_le (b := e) (by omega) hw
    have := h.scattered_eq_ok mode hend (b := e) (by omega) (c := ⟨k, n, 0⟩)
      (mem_cells.2 ⟨hk, hn, h.blockSize_pos⟩)
    rw [elemAt_one hB he, hlen] at this
    exact this

/-- A scatter through a transpose map adds to every entry what a scatter by blocks adds to it. -/
theorem scatterMapped_eq_ok (h : op.Realizes t) (mode : Mode) {m : TransposeMap}
    (hm : op.map = some m) {w v : Array α} (hw : op.shape.eSize ≤ w.size)
    (hv : op.shape.lSize ≤ v.size) :
    op.scatterMapped m mode w v = .ok (Buffer.addAll v (terms op.shape t mode w)) := by
  obtain ⟨hB, hinv⟩ := h.map_inverts m hm
  have hN := h.numBlock_one hB
  let sums (l : Nat) (old : α) : α :=
    (Buffer.termsAt l (terms op.shape t mode w)).foldl (· + ·) old
  have hfold : op.scatterMapped m mode w v =
      .ok ((List.range op.shape.lSize).foldl (fun v l => v.modify l (sums l)) v) := by
    rw [scatterMapped, h.contributions_eq_ok mode hB hw, Loop.ok_bind]
    refine (Loop.foldlM_eq_foldl (fun v' => v'.size = v.size) (fun l hl v' hv' => ?_) rfl).1
    rw [List.mem_range] at hl
    have hlt : l < v'.size := by omega
    rw [hinv l hl, Loop.ok_bind, Buffer.read_eq_ok hlt v'[l], Loop.ok_bind,
      sum_readers_eq_ok mode w hB hN, Loop.ok_bind, Buffer.write_eq_ok hlt]
    exact ⟨congrArg Except.ok (Buffer.setIfInBounds_eq_modify hlt _ (sums l)), by simpa using hv'⟩
  rw [hfold]
  congr 1
  apply Array.ext_getElem?
  intro l
  rw [Buffer.getElem?_foldl_modify_range]
  split
  · rw [Buffer.getElem?_addAll]
  · rename_i hl
    rw [Buffer.getElem?_addAll_of_notMem]
    intro hmem
    obtain ⟨x, hx, rfl⟩ := List.mem_map.1 hmem
    exact hl (h.terms_inside hx)

end Realizes

end Reference.Operator

end GatherScatter
