import GatherScatter.Reference.Backend
import GatherScatter.Proofs.Creation
import GatherScatter.Proofs.Reference.TransposeMap

/-!
# Stencils

A stencil is what a request says about each element, before blocking: which L-vector entry a node
has in each component and with what weight nodes enter each other. An operator realizes a stencil
if it finds the same addresses and weights behind its blocked arrays, and its transpose map, if it
has one, inverts the addresses.

* `OffsetSpec.stencil`, `StridedSpec.stencil`: the stencils of the two kinds of requests.
* `realizes_of_compile`: what is compiled from an accepted request realizes its stencil.
* `exists_compile`: an accepted request in host memory can always be compiled.
-/
namespace GatherScatter

/-- Addresses and weights of the nodes of each element. -/
structure Stencil where
  /-- L-vector entry of component `k`, node `n` of element `e`. -/
  address (e k n : Nat) : Nat
  /-- Whether nodes enter their neighbours. -/
  coupled (mode : Mode) : Bool
  /-- Factor with which node `m` of element `e` enters node `n`. -/
  weight (mode : Mode) (e n m : Nat) : Int

/-- Each node has the address behind its offset, and its sign or its row of weights. -/
def OffsetSpec.stencil (s : OffsetSpec) : Stencil where
  address e k n := (s.offsets.entries.getD (e * s.elemSize + n) 0).toNat + k * s.compStride
  coupled mode :=
    match s.orientation with
    | .curl _ => mode != .unoriented
    | _ => false
  weight mode e n m :=
    match s.orientation, mode with
    | .signs flips, .full => if flips.entries.getD (e * s.elemSize + n) false then -1 else 1
    | .curl rows, .full => rows.entries.getD (e * (3 * s.elemSize) + (3 * n + (m + 1 - n))) 0
    | .curl rows, .unsigned =>
      ((rows.entries.getD (e * (3 * s.elemSize) + (3 * n + (m + 1 - n))) 0).natAbs : Int)
    | _, _ => 1

/-- Strides that a request stands for: unset ones are packed. -/
def StridedSpec.effective (s : StridedSpec) : Strides :=
  if s.strides = .unset then .packed s.elemSize s.numComp else s.strides

/-- All addresses by strides, all weights one. -/
def StridedSpec.stencil (s : StridedSpec) : Stencil where
  address e k n := s.effective.address n k e
  coupled _ := false
  weight _ _ _ _ := 1

namespace Reference.Operator

/-- Element in lane `j` of block `b`. -/
def elemAt (s : Shape) (b j : Nat) : Nat := Blocking.laneElem s.numElem s.blockSize b j

theorem elemAt_of_active {s : Shape} {b j : Nat} (h : b * s.blockSize + j < s.numElem) :
    elemAt s b j = b * s.blockSize + j := Blocking.laneElem_of_active h

theorem elemAt_one {s : Shape} (hB : s.blockSize = 1) {e : Nat} (he : e < s.numElem) :
    elemAt s e 0 = e := by
  rw [elemAt_of_active] <;> rw [hB] <;> omega

/-- The links of an unblocked restriction whose addresses are those of `t`. -/
def stencilLinks (s : Shape) (t : Stencil) : List TransposeMap.Link :=
  (TransposeMap.triples s).map fun x =>
    ⟨t.address x.1 x.2.1 x.2.2, x.1 * s.elemSize * s.numComp + x.2.1 * s.elemSize + x.2.2⟩

/-- An operator finds the addresses and weights of a stencil. -/
structure Realizes (op : Operator) (t : Stencil) : Prop where
  notPoints : op.shape.isPoints = false
  blockSize_pos : 0 < op.shape.blockSize
  numBlock_eq : op.shape.numBlock = numBlocks op.shape.numElem op.shape.blockSize
  eSize_eq : op.shape.eSize = op.shape.numBlock * op.shape.blockLen
  eSize_lt : op.shape.eSize < 2 ^ 64
  inside : ∀ e k n, e < op.shape.numElem → k < op.shape.numComp → n < op.shape.elemSize →
    t.address e k n < op.shape.lSize
  address_eq : ∀ b k n j, b < op.shape.numBlock → n < op.shape.elemSize →
    j < op.shape.blockSize → op.address b k n j =
      .ok (t.address (elemAt op.shape b j) k n)
  isCoupled_eq : ∀ mode, op.isCoupled mode = t.coupled mode
  weight_eq : ∀ mode b n m j, b < op.shape.numBlock → n < op.shape.elemSize → m ≤ n + 1 →
    j < op.shape.blockSize → op.weight mode b n m j =
      .ok (t.weight mode (elemAt op.shape b j) n m)
  map_inverts : ∀ m, op.map = some m → op.shape.blockSize = 1 ∧
    m.Inverts op.shape.lSize (stencilLinks op.shape t)

section Scalars

variable {α : Type} [IntCast α] {op : Operator} {mode : Mode} {b n m j t : Nat} {z : Int}

theorem sign_cast (h : op.sign mode b n j = .ok z) :
    op.sign mode b n j = .ok ((z : Int) : α) := by
  unfold sign at h ⊢
  split at h
  · obtain ⟨flip, hflip, h⟩ := Loop.bind_eq_ok.1 h
    cases h
    rw [hflip, Loop.ok_bind]
    cases flip <;> rfl
  · cases h
    rfl

theorem curl_cast (h : op.curl mode b n j t = .ok z) :
    op.curl mode b n j t = .ok ((z : Int) : α) := by
  -- what a node without a row has for one
  have hown : (if t = 1 then ((1 : Int) : α) else ((0 : Int) : α)) =
      ((if t = 1 then (1 : Int) else (0 : Int) : Int) : α) := by
    split <;> rfl
  unfold curl at h ⊢
  dsimp only at h ⊢
  split at h
  · obtain ⟨w, hw, h⟩ := Loop.bind_eq_ok.1 h
    rw [hw, Loop.ok_bind]
    cases mode with
    | full => cases h; rfl
    | unsigned => cases h; rfl
    | unoriented => cases h; exact congrArg Except.ok hown
  · cases h
    exact congrArg Except.ok hown

/-- Weights are integers, read in any type of scalars. -/
theorem weight_cast (h : op.weight mode b n m j = .ok z) :
    op.weight mode b n m j = .ok ((z : Int) : α) := by
  by_cases hc : op.isCoupled mode
  · rw [weight_of_coupled hc] at h ⊢
    exact curl_cast h
  · rw [weight_of_not_coupled hc] at h ⊢
    exact sign_cast h

variable {s : Stencil}

theorem Realizes.sign_eq_ok (h : op.Realizes s) (hc : ¬ op.isCoupled mode = true)
    (hb : b < op.shape.numBlock) (hn : n < op.shape.elemSize) (hj : j < op.shape.blockSize) :
    op.sign mode b n j = .ok ((s.weight mode (elemAt op.shape b j) n n : Int) : α) := by
  rw [← weight_of_not_coupled hc]
  exact weight_cast (h.weight_eq mode b n n j hb hn (Nat.le_succ n) hj)

theorem Realizes.curl_eq_ok (h : op.Realizes s) (hc : op.isCoupled mode = true)
    (hb : b < op.shape.numBlock) (hn : n < op.shape.elemSize) (hj : j < op.shape.blockSize)
    (hm : m + 1 = n + t) (ht : t ≤ 2) :
    op.curl mode b n j t = .ok ((s.weight mode (elemAt op.shape b j) n m : Int) : α) := by
  rw [show t = m + 1 - n by omega, ← weight_of_coupled hc]
  exact weight_cast (h.weight_eq mode b n m j hb hn (by omega) hj)

end Scalars

/-- An entry of an interleaved array, read where an apply reads it. -/
theorem read_slot {β : Type} {s : Shape} {src out : Array β} {width b i j : Nat}
    (h : Blocking.Interleaved src out s.numElem width s.blockSize)
    (hB : 0 < s.blockSize) (hb : b < numBlocks s.numElem s.blockSize) (hi : i < width)
    (hj : j < s.blockSize) (d : β) :
    Buffer.read out (slot s width b i j) =
      .ok (src.getD (elemAt s b j * width + i) d) := by
  have he := Blocking.laneElem_lt (j := j) ((lt_numBlocks_iff hB).1 hb)
  have hlt : elemAt s b j * width + i < src.size := by
    rw [h.size_src]; exact mul_add_lt he hi
  rw [Buffer.read_eq_ok_iff, slot, h.entry b i j hb hi hj, ← elemAt, Array.getElem?_eq_getElem hlt,
    Array.getD, dif_pos hlt]
  rfl

theorem offsetAddress_of_nonneg {s : Shape} {e n k : Nat} {o : Int} (h : 0 ≤ o) :
    offsetAddress s e n o k = .ok (o.toNat + k * s.compStride) := by
  obtain ⟨m, rfl⟩ := Int.eq_ofNat_of_zero_le h
  rfl

end Reference.Operator

/-! ## From a request to its stencil -/

namespace OffsetSpec

open Reference

variable {s : OffsetSpec} {shape : Shape} {data : IndexData}

theorem Planned.notPoints (h : s.Planned shape data) : shape.isPoints = false := by
  rw [h.shape_eq, Shape.isPoints]
  cases s.orientation <;> rfl

/-- Offsets are read inside the L-vector. -/
theorem Planned.offset_inside (h : s.Planned shape data) (hm : s.mem = .host) {i : Nat}
    (hi : i < s.numElem * s.elemSize) :
    0 ≤ s.offsets.entries.getD i 0 ∧
      (s.offsets.entries.getD i 0).toNat + (s.numComp - 1) * s.compStride < s.lSize := by
  obtain ⟨out, -, hout⟩ := h.offsets
  have hlt : i < s.offsets.entries.size := by rw [hout.size_src]; exact hi
  rw [Array.getD, dif_pos hlt]
  exact h.inside hm _ (Array.getElem_mem hlt)

theorem Planned.stencil_inside (h : s.Planned shape data) (hm : s.mem = .host) {e k n : Nat}
    (he : e < s.numElem) (hk : k < s.numComp) (hn : n < s.elemSize) :
    s.stencil.address e k n < s.lSize := by
  have hin := (h.offset_inside hm (mul_add_lt he hn)).2
  have := Nat.mul_le_mul_right s.compStride (show k ≤ s.numComp - 1 by omega)
  dsimp only [stencil]
  omega

/-- Node `n` of lane `j` of block `b` has the address that the request gives its element. -/
theorem Planned.address_eq (h : s.Planned shape data) (hm : s.mem = .host)
    {out : IndexArray Int} (hout : data.offsets = some out) (map : Option TransposeMap)
    {b k n j : Nat} (hb : b < shape.numBlock) (hn : n < shape.elemSize) (hj : j < shape.blockSize) :
    Operator.address ⟨shape, .offsets out.entries, data.orientation, map⟩ b k n j =
      .ok (s.stencil.address (Operator.elemAt shape b j) k n) := by
  obtain ⟨out', hout', hint⟩ := h.offsets
  rw [hout] at hout'
  cases hout'
  have hs := h.shape_eq
  subst hs
  have hB := h.blockSize_pos
  have he := Blocking.laneElem_lt (j := j) ((lt_numBlocks_iff hB).1 hb)
  have hin := h.offset_inside hm (mul_add_lt he hn)
  dsimp only [Operator.address]
  rw [Operator.read_slot hint hB hb hn hj 0, Loop.ok_bind]
  exact Operator.offsetAddress_of_nonneg hin.1

theorem Planned.isCoupled_eq (h : s.Planned shape data) (indexing : Indexing)
    (map : Option TransposeMap) (mode : Mode) :
    Operator.isCoupled ⟨shape, indexing, data.orientation, map⟩ mode = s.stencil.coupled mode := by
  have ho := h.oriented
  unfold Operator.isCoupled
  dsimp only [stencil]
  cases hd : data.orientation with
  | plain =>
    rw [hd] at ho
    rw [show s.orientation = .plain from ho]
  | signs out =>
    rw [hd] at ho
    obtain ⟨flips, hf, -⟩ := ho
    rw [hf]
  | curl out =>
    rw [hd] at ho
    obtain ⟨rows, hr, -⟩ := ho
    rw [hr]

theorem Planned.weight_eq (h : s.Planned shape data) (indexing : Indexing)
    (map : Option TransposeMap) (mode : Mode) {b n m j : Nat} (hb : b < shape.numBlock)
    (hn : n < shape.elemSize) (hnm : m ≤ n + 1) (hj : j < shape.blockSize) :
    Operator.weight ⟨shape, indexing, data.orientation, map⟩ mode b n m j =
      .ok (s.stencil.weight mode (Operator.elemAt shape b j) n m) := by
  have ho := h.oriented
  have hs := h.shape_eq
  subst hs
  have hB := h.blockSize_pos
  dsimp only [stencil] at hb hn hj ⊢
  cases hd : data.orientation with
  | plain =>
    rw [hd] at ho
    rw [show s.orientation = .plain from ho]
    rfl
  | signs out =>
    rw [hd] at ho
    obtain ⟨flips, hf, hint⟩ := ho
    rw [hf]
    cases mode with
    | full =>
      rw [Operator.weight_of_not_coupled (by exact Bool.false_ne_true)]
      unfold Operator.sign
      dsimp only
      rw [Operator.read_slot hint hB hb hn hj false, Loop.ok_bind]
      rfl
    | unsigned => rfl
    | unoriented => rfl
  | curl out =>
    rw [hd] at ho
    obtain ⟨rows, hr, hint⟩ := ho
    rw [hr]
    have hi : 3 * n + (m + 1 - n) < 3 * s.elemSize := by omega
    cases mode with
    | full =>
      rw [Operator.weight_of_coupled rfl]
      unfold Operator.curl
      dsimp only
      rw [Operator.read_slot hint hB hb hi hj 0]
      rfl
    | unsigned =>
      rw [Operator.weight_of_coupled rfl]
      unfold Operator.curl
      dsimp only
      rw [Operator.read_slot hint hB hb hi hj 0]
      rfl
    | unoriented => rfl

/-- The links of an unblocked request are those of its stencil. -/
theorem Planned.links_eq (h : s.Planned shape data) (hm : s.mem = .host) {out : IndexArray Int}
    (hout : data.offsets = some out) (hone : shape.blockSize = 1) :
    TransposeMap.links shape out.entries = .ok (Operator.stencilLinks shape s.stencil) := by
  apply Loop.mapM_eq_map
  rintro ⟨e, k, n⟩ ht
  obtain ⟨he, -, hn⟩ := TransposeMap.mem_triples.1 ht
  have hb : e < shape.numBlock := by
    have := h.shape_eq
    subst this
    dsimp only at hone he ⊢
    rwa [hone, numBlocks_one]
  have haddr := h.address_eq hm hout none (k := k) hb hn (show 0 < shape.blockSize by omega)
  rw [Operator.elemAt_of_active (by rw [hone]; omega)] at haddr
  unfold Operator.address at haddr
  obtain ⟨o, ho, haddr⟩ := Loop.bind_eq_ok.1 haddr
  dsimp only [Operator.slot] at ho haddr
  rw [Blocking.laneElem_of_active (by rw [hone]; omega)] at haddr
  simp only [hone, Nat.mul_one, Nat.add_zero] at ho haddr
  dsimp only [TransposeMap.link]
  rw [ho, Loop.ok_bind, haddr]
  rfl

/-- The links of a stencil stay inside the L-vector. -/
theorem Planned.links_inside (h : s.Planned shape data) (hm : s.mem = .host) :
    ∀ x ∈ Operator.stencilLinks shape s.stencil, x.source < shape.lSize := by
  intro x hx
  obtain ⟨⟨e, k, n⟩, ht, rfl⟩ := List.mem_map.1 hx
  obtain ⟨he, hk, hn⟩ := TransposeMap.mem_triples.1 ht
  rw [h.shape_eq] at he hk hn ⊢
  exact h.stencil_inside hm he hk hn

theorem Planned.realizes (h : s.Planned shape data) (hm : s.mem = .host)
    {out : IndexArray Int} (hout : data.offsets = some out) {map : Option TransposeMap}
    (hmap : ∀ m, map = some m →
      shape.blockSize = 1 ∧ m.Inverts shape.lSize (Operator.stencilLinks shape s.stencil)) :
    Operator.Realizes ⟨shape, .offsets out.entries, data.orientation, map⟩ s.stencil where
  notPoints := h.notPoints
  blockSize_pos := by rw [h.shape_eq]; exact h.blockSize_pos
  numBlock_eq := by rw [h.shape_eq]
  eSize_eq := by rw [h.shape_eq]; simp only [Shape.blockLen]; ring
  eSize_lt := h.eSize_lt
  inside := by
    intro e k n he hk hn
    rw [h.shape_eq] at he hk hn ⊢
    exact h.stencil_inside hm he hk hn
  address_eq _ _ _ _ hb hn hj := h.address_eq hm hout map hb hn hj
  isCoupled_eq := h.isCoupled_eq _ _
  weight_eq mode _ _ _ _ hb hn hnm hj := h.weight_eq _ _ mode hb hn hnm hj
  map_inverts := hmap

/-- An accepted request in host memory can be compiled, with and without a transpose map. -/
theorem Planned.exists_compile (h : s.Planned shape data) (hm : s.mem = .host)
    (deterministic : Bool) :
    ∃ op, Operator.compile deterministic shape data = .ok op ∧ op.shape = shape ∧
      op.Realizes s.stencil := by
  obtain ⟨out, hout, -⟩ := h.offsets
  have hhost : data.mem.requireHost = .ok () := by rw [h.mem_eq, hm]; rfl
  rw [Operator.compile, hhost, Loop.ok_bind, hout]
  dsimp only
  split
  · rename_i hdet
    have hone : shape.blockSize = 1 := by
      simp only [Bool.and_eq_true, beq_iff_eq] at hdet
      exact hdet.1.2
    obtain ⟨m, hbuild, hsorts⟩ := TransposeMap.exists_build (h.links_eq hm hout hone)
      (h.links_inside hm)
    rw [hbuild]
    exact ⟨_, rfl, rfl, h.realizes hm hout fun m' hm' => by
      cases hm'
      exact ⟨hone, hsorts.inverts⟩⟩
  · exact ⟨_, rfl, rfl, h.realizes hm hout nofun⟩

/-- Without blocks, there is a transpose map exactly if one was asked for. -/
theorem Planned.isSome_map (h : s.Planned shape data) (hone : s.blockSize = 1)
    {deterministic : Bool} {op : Operator}
    (hc : Operator.compile deterministic shape data = .ok op) :
    op.map.isSome = deterministic := by
  obtain ⟨out, hout, -⟩ := h.offsets
  have hpoints := h.notPoints
  have hblock : shape.blockSize = 1 := by rw [h.shape_eq, hone]
  rw [Operator.compile, hout] at hc
  obtain ⟨_, -, hc⟩ := Loop.bind_eq_ok.1 hc
  rw [hpoints, hblock] at hc
  cases deterministic with
  | true =>
    obtain ⟨map, hmap, hc⟩ := Loop.bind_eq_ok.1 hc
    cases hc
    obtain ⟨m, hm⟩ : ∃ m, map = some m := by
      cases hbuild : TransposeMap.build shape out.entries with
      | error e => rw [hbuild] at hmap; cases hmap
      | ok m => rw [hbuild] at hmap; cases hmap; exact ⟨m, rfl⟩
    rw [hm]
    rfl
  | false =>
    cases hc
    rfl

end OffsetSpec

namespace StridedSpec

open Reference

variable {s : StridedSpec} {shape : Shape} {data : IndexData}

/-- An accepted strided request can be compiled; it never has a transpose map. -/
theorem Planned.exists_compile (h : s.Planned shape data) (deterministic : Bool) :
    ∃ op, Operator.compile deterministic shape data = .ok op ∧ op.shape = shape ∧
      op.Realizes s.stencil := by
  have hs := h.shape_eq
  have hd := h.data_eq
  subst hs hd
  refine ⟨⟨_, .strided s.effective, .plain, none⟩, rfl, rfl, ?_⟩
  exact {
    notPoints := rfl
    blockSize_pos := h.blockSize_pos
    numBlock_eq := rfl
    eSize_eq := by simp only [Shape.blockLen]; ring
    eSize_lt := h.eSize_lt
    inside := fun e k n he hk hn => h.inside n hn k hk e he
    address_eq := fun _ _ _ _ _ _ _ => rfl
    isCoupled_eq := fun _ => rfl
    weight_eq := fun _ _ _ _ _ _ _ _ _ => rfl
    map_inverts := nofun }

end StridedSpec

end GatherScatter
