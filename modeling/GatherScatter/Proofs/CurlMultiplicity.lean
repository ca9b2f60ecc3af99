import GatherScatter.Proofs.ForwardValues
import GatherScatter.Proofs.Multiplicity

/-!
# Counting readers through rows of weights

Counting readers is a forward apply of ones and a transposed apply of the result. Let `A` be the
tridiagonal matrix of an element, with the row of each node. Then a node gets its entry of
`Aᵀ (A 1)` back, and the counts are sums of these entries over the references. Where nodes stand for
themselves up to their signs, the entries are one, and the sums are numbers of references.

* `OffsetSpec.row`, `OffsetSpec.column`: rows and columns of the matrix.
* `OffsetSpec.share`: what a node gets back for ones.
* `OffsetSpec.nodeValue_eq`, `OffsetSpec.scattered_eq`: an apply is an apply of rows or columns.
* `multiplicity_adds_shares`: the counts through every live handle on an offset-based restriction.
-/
namespace GatherScatter

namespace CurlRow

/-- Only the values of nodes that are there matter. -/
theorem apply_congr {α : Type} [Add α] [Mul α] [IntCast α] (r : CurlRow) {elemSize n : Nat}
    (hn : n < elemSize) {x y : Nat → α} (h : ∀ m < elemSize, x m = y m) :
    r.apply elemSize x n = r.apply elemSize y n := by
  unfold apply
  by_cases h1 : n + 1 < elemSize
  · simp only [h n hn, h (n - 1) (by omega), h (n + 1) h1]
  · simp only [h n hn, h (n - 1) (by omega), h1, if_false]

theorem apply_cast {R : Type} [CommRing R] (r : CurlRow) (elemSize : Nat) (x : Nat → Int)
    (n : Nat) : r.apply elemSize (fun m => (x m : R)) n = (r.apply elemSize x n : Int) := by
  unfold apply
  by_cases h0 : 0 < n <;> by_cases h1 : n + 1 < elemSize <;> simp [h0, h1]

/-- A row of a node that stands for itself. -/
theorem apply_diagonal {R : Type} [CommRing R] (w : Int) (elemSize : Nat) (x : Nat → R) (n : Nat) :
    apply ⟨0, w, 0⟩ elemSize x n = (w : R) * x n := by
  simp [apply]

end CurlRow

namespace OffsetSpec

/-! ## Rows and columns -/

/-- Row of node `n` of element `e`. Where there are no rows, a node stands for itself. -/
def row (s : OffsetSpec) (mode : Mode) (e n : Nat) : CurlRow :=
  (s.row? mode e n).getD ⟨0, s.sign mode e n, 0⟩

/-- Weights with which node `n` of element `e` enters its neighbours and itself. -/
def column (s : OffsetSpec) (mode : Mode) (e n : Nat) : CurlRow :=
  ⟨(s.row mode e (n - 1)).super, (s.row mode e n).diag, (s.row mode e (n + 1)).sub⟩

/-- What node `n` of element `e` gets back for ones: its column applied to the sums of the rows. -/
def share (s : OffsetSpec) (mode : Mode) (e n : Nat) : Int :=
  (s.column mode e n).apply s.elemSize
    (fun m => (s.row mode e m).apply s.elemSize (fun _ => (1 : Int)) m) n

/-- Shares of all references to L-vector entry `l`. -/
def sharesAt (s : OffsetSpec) (mode : Mode) (l : Nat) : Int :=
  ∑ e ∈ Finset.range s.numElem, ∑ k ∈ Finset.range s.numComp, ∑ n ∈ Finset.range s.elemSize,
    if s.lEntry e k n = l then s.share mode e n else 0

variable {s : OffsetSpec} {mode : Mode} {e n : Nat}

/-- Either no node has a row or all have one. -/
theorem row?_eq_none_iff (n m : Nat) : s.row? mode e n = none ↔ s.row? mode e m = none := by
  unfold row?
  split <;> simp

/-- Without rows, neighbours do not enter. -/
theorem row_eq_of_none (h : s.row? mode e n = none) (m : Nat) :
    s.row mode e m = ⟨0, s.sign mode e m, 0⟩ := by
  rw [row, (row?_eq_none_iff n m).1 h]
  rfl

/-- With rows, their weights are those of the nodes. -/
theorem stencil_weight_of_some {r : CurlRow} (h : s.row? mode e n = some r) (m : Nat) :
    s.stencil.weight mode e m m = (s.row mode e m).diag ∧
      (0 < m → s.stencil.weight mode e m (m - 1) = (s.row mode e m).sub) ∧
      s.stencil.weight mode e m (m + 1) = (s.row mode e m).super := by
  cases hm : s.row? mode e m with
  | none =>
    rw [row?_eq_none_iff m n, h] at hm
    cases hm
  | some r' =>
    rw [row, hm]
    exact (stencil_of_row hm).2

theorem share_of_none (h : s.row? mode e n = none) : s.share mode e n = 1 := by
  have hsign : s.sign mode e n * s.sign mode e n = 1 := by
    unfold sign
    split
    · split <;> rfl
    · rfl
  simp only [share, column, row_eq_of_none h, CurlRow.apply_diagonal]
  simp [hsign]

theorem count_eq_sum (xs : List Nat) (l : Nat) :
    (xs.count l : Int) = (xs.map fun a => if a = l then 1 else 0).sum := by
  induction xs with
  | nil => rfl
  | cons x xs ih =>
    rw [List.count_cons, List.map_cons, List.sum_cons, ← ih]
    by_cases hx : x = l <;> simp [hx, add_comm]

/-- Where every reference counts one, the shares are numbers of references. -/
theorem sharesAt_eq_count
    (hone : ∀ e < s.numElem, ∀ n < s.elemSize, s.share mode e n = 1) (l : Nat) :
    s.sharesAt mode l = (Spec.offsets s).references.count l := by
  rw [count_eq_sum, Spec.references, references]
  simp only [sum_map_flatMap, List.map_map, Function.comp_def, sum_map_range]
  refine Finset.sum_congr rfl fun e he => Finset.sum_congr rfl fun k _ =>
    Finset.sum_congr rfl fun n hn => ?_
  rw [hone e (Finset.mem_range.1 he) n (Finset.mem_range.1 hn)]
  rfl

/-! ## What the loops compute -/

variable {R : Type} [CommRing R]

theorem nodeValue_eq (s : OffsetSpec) (mode : Mode) (u : Array R) (e k n : Nat) :
    s.nodeValue mode u e k n =
      (s.row mode e n).apply s.elemSize (fun m => Buffer.entry u (s.lEntry e k m)) n := by
  unfold nodeValue
  cases h : s.row? mode e n with
  | some r => rw [row, h]; rfl
  | none => rw [row_eq_of_none h, CurlRow.apply_diagonal]

theorem scattered_eq (s : OffsetSpec) (mode : Mode) (x : Nat → R) (e n : Nat) :
    s.stencil.scattered s.elemSize mode x e n = (s.column mode e n).apply s.elemSize x n := by
  rw [Stencil.scattered, Stencil.weightedSum_neighbours]
  cases h : s.row? mode e n with
  | none =>
    obtain ⟨hcoupled, hweight⟩ := stencil_of_no_row h
    simp only [column, row_eq_of_none h, CurlRow.apply_diagonal, hcoupled, hweight]
    rfl
  | some r =>
    obtain ⟨hcoupled, -⟩ := stencil_of_row h
    have hdiag := (stencil_weight_of_some h n).1
    have hsub : s.stencil.weight mode e (n + 1) n = (s.row mode e (n + 1)).sub :=
      (stencil_weight_of_some h (n + 1)).2.1 (Nat.succ_pos n)
    have hsuper (hn : 0 < n) : s.stencil.weight mode e (n - 1) n =
        (s.row mode e (n - 1)).super := by
      have := (stencil_weight_of_some h (n - 1)).2.2
      rwa [Nat.sub_add_cancel hn] at this
    rw [hcoupled, if_pos rfl]
    unfold CurlRow.apply column
    by_cases h0 : 0 < n <;> simp [h0, hdiag, hsub, hsuper]

/-- Ones become the sums of the rows. -/
theorem gathered_ones {x : Array R} {k : Nat}
    (hx : ∀ m < s.elemSize, Buffer.entry x (s.lEntry e k m) = 1) (hn : n < s.elemSize) :
    s.stencil.gathered s.elemSize mode x e k n =
      ((s.row mode e n).apply s.elemSize (fun _ => (1 : Int)) n : Int) := by
  rw [gathered_eq, nodeValue_eq, CurlRow.apply_congr _ hn hx, ← CurlRow.apply_cast]
  simp only [Int.cast_one]

/-- And these become the shares. -/
theorem scattered_gathered_ones {x : Array R} {k : Nat}
    (hx : ∀ m < s.elemSize, Buffer.entry x (s.lEntry e k m) = 1) (hn : n < s.elemSize) :
    s.stencil.scattered s.elemSize mode (s.stencil.gathered s.elemSize mode x e k) e n =
      (s.share mode e n : R) := by
  rw [scattered_eq, CurlRow.apply_congr _ hn fun m hm => gathered_ones hx hm, CurlRow.apply_cast,
    share]

end OffsetSpec

theorem Buffer.sum_termsAt_map {R ι : Type} [CommRing R] (ys : List ι) (pos : ι → Nat)
    (val : ι → R) (l : Nat) : (termsAt l (ys.map fun y => (pos y, val y))).sum =
      (ys.map fun y => if pos y = l then val y else 0).sum := by
  induction ys with
  | nil => rfl
  | cons y ys ih =>
    rw [List.map_cons, List.map_cons, List.sum_cons, termsAt_cons, ← ih]
    split <;> simp

namespace Session

open GatherScatter.Reference Operator

variable {σ R : Type} [CommRing R]

/-- Sums over all nodes, element after element and component after component. -/
theorem sum_triples (shape : Shape) (f : Nat → Nat → Nat → R) :
    ((TransposeMap.triples shape).map fun y => f y.1 y.2.1 y.2.2).sum =
      ∑ e ∈ Finset.range shape.numElem, ∑ k ∈ Finset.range shape.numComp,
        ∑ n ∈ Finset.range shape.elemSize, f e k n := by
  simp only [TransposeMap.triples, sum_map_flatMap, List.map_map, Function.comp_def, sum_map_range]

/-- A gather of ones and a scatter of the result add the shares of the references. -/
theorem roundTrip_ones {spec : OffsetSpec} {op : Operator} {data : IndexData}
    (hp : spec.plan = .ok (op.shape, data)) (hop : op.Realizes spec.stencil) (mode : Mode)
    {x y₀ v : Array R} (hx : op.shape.lSize ≤ x.size)
    (hones : ∀ l < op.shape.lSize, Buffer.entry x l = 1) (hy : op.shape.eSize ≤ y₀.size)
    (hv : op.shape.lSize ≤ v.size) :
    ∃ y v', op.apply mode .forward x y₀ = .ok y ∧ y.size = y₀.size ∧
      op.apply mode .transpose y v = .ok v' ∧ v'.size = v.size ∧
      ∀ l, v'[l]? = v[l]?.map (· + (spec.sharesAt mode l : R)) := by
  have hsize := Buffer.size_putAll y₀ (puts op.shape spec.stencil mode x)
  refine ⟨_, _, hop.apply_eq_ok mode (d := .forward) hx hy, hsize,
    hop.apply_eq_ok mode (d := .transpose) (hsize.symm ▸ hy) hv, Buffer.size_addAll v _,
    fun l => ?_⟩
  have hsizes : op.shape.numElem = spec.numElem ∧ op.shape.numComp = spec.numComp ∧
      op.shape.elemSize = spec.elemSize :=
    (OffsetSpec.planned_of_plan hp).shape_eq ▸ ⟨rfl, rfl, rfl⟩
  obtain ⟨hN, hC, hE⟩ := hsizes
  have hshare (e : Nat) (he : e < spec.numElem) (k : Nat) (hk : k < spec.numComp) (n : Nat)
      (hn : n < spec.elemSize) : spec.stencil.scattered spec.elemSize mode
        (spec.stencil.gathered spec.elemSize mode x e k) e n = (spec.share mode e n : R) :=
    OffsetSpec.scattered_gathered_ones
      (fun m hm => hones _ (hop.inside e k m (hN ▸ he) (hC ▸ hk) (hE ▸ hm))) hn
  rw [Buffer.getElem?_addAll_of_perm (hop.terms_after_gather_perm mode hy), Buffer.sum_termsAt_map,
    sum_triples op.shape fun e k n => if spec.stencil.address e k n = l then
      spec.stencil.scattered op.shape.elemSize mode
        (spec.stencil.gathered op.shape.elemSize mode x e k) e n else 0, hN, hC, hE]
  simp only [OffsetSpec.sharesAt, Int.cast_sum, Int.cast_ite, Int.cast_zero]
  refine congrArg (fun total : R => v[l]?.map (· + total)) ?_
  refine Finset.sum_congr rfl fun e he => Finset.sum_congr rfl fun k hk =>
    Finset.sum_congr rfl fun n hn => ?_
  rw [hshare e (Finset.mem_range.1 he) k (Finset.mem_range.1 hk) n (Finset.mem_range.1 hn)]
  rfl

/-- Through a live handle on an offset-based restriction that was built like one of the reference
backend, with rows of weights or without, with deterministic applies or without, in blocks or not:
counting readers succeeds for every vector that is long enough, and stores at every entry of the
L-vector the shares of the references to it, with zeros behind the L-vector. Nodes that stand for
themselves have shares of one; where all shares are one, these are the numbers of references. -/
theorem multiplicity_adds_shares {deterministic : Bool} {resource name : String}
    {spec : OffsetSpec} {s : Session σ R} {mode : Mode}
    (h : OnReferenceWith deterministic resource (.offsets spec) s name mode) (mult : Array R)
    (hmult : spec.lSize ≤ mult.size) :
    (∃ counts, ((multiplicity name mult).run s).run = ((counts, .ok ()), s) ∧
      counts.size = mult.size ∧
      (∀ l < spec.lSize, counts[l]? = some (spec.sharesAt mode l : R)) ∧
      ∀ l, spec.lSize ≤ l → l < mult.size → counts[l]? = some 0) ∧
    (∀ e n, spec.row? mode e n = none → spec.share mode e n = 1) ∧
    ((∀ e < spec.numElem, ∀ n < spec.elemSize, spec.share mode e n = 1) →
      ∀ l, spec.sharesAt mode l = (Spec.offsets spec).references.count l) := by
  obtain ⟨shape, data, op, hp, -, hs, hop, hserves⟩ := h.serves
  subst hs
  have hshape := (OffsetSpec.planned_of_plan hp).shape_eq
  have hl : op.shape.lSize = spec.lSize := hshape ▸ rfl
  refine ⟨?_, fun e n => OffsetSpec.share_of_none, OffsetSpec.sharesAt_eq_count⟩
  obtain ⟨y₀, hy₀, hrun⟩ := hserves.run_multiplicity (.nodes _ hop) (v := mult) (by rwa [hl])
  have hones (l : Nat) (hlt : l < op.shape.lSize) :
      Buffer.entry (Array.replicate mult.size (1 : R)) l = 1 := by
    rw [Buffer.entry, Array.getD_eq_getD_getElem?, Array.getElem?_replicate, if_pos (by omega)]
    rfl
  obtain ⟨y, counts, hforward, hsize, htranspose, hcounts, hentry⟩ :=
    roundTrip_ones hp hop mode (by rw [Array.size_replicate]; omega) hones
      (Nat.le_of_eq hy₀.symm) (v := Array.replicate mult.size (0 : R))
      (by rw [Array.size_replicate]; omega)
  rw [Array.size_replicate] at hcounts
  refine ⟨counts, hrun y counts hsize hforward htranspose, hcounts, fun l hlt => ?_,
    fun l hle hlt => ?_⟩
  · rw [hentry, Array.getElem?_replicate, if_pos (by omega), Option.map_some, zero_add]
  · have hnone : spec.sharesAt mode l = 0 := by
      refine Finset.sum_eq_zero fun e he => Finset.sum_eq_zero fun k hk =>
        Finset.sum_eq_zero fun n hn => if_neg fun heq => ?_
      have hin := hop.inside e k n (by rw [hshape]; exact Finset.mem_range.1 he)
        (by rw [hshape]; exact Finset.mem_range.1 hk) (by rw [hshape]; exact Finset.mem_range.1 hn)
      have haddress : spec.stencil.address e k n = l := heq
      omega
    rw [hentry, Array.getElem?_replicate, if_pos hlt, Option.map_some, zero_add, hnone,
      Int.cast_zero]

/-- Through the unsigned copy, every row has the absolute values of its weights. The entry that both
elements refer to gets a share from each. -/
theorem multiplicity_adds_shares_curlLine :
    let s : Session Unit Int := (single () true .curlLine).after (.derive "r" .unsigned "u")
    OnReferenceWith true stem .curlLine s "u" .unsigned ∧
      ((multiplicity "u" #[9, 9, 9, 9, 9, 9]).run s).run =
        ((#[11, 12, 12, 11, 5, 0], .ok ()), s) := by
  intro s
  have h : OnReferenceWith true stem .curlLine s "u" .unsigned :=
    (onReferenceWith_single () true .curlLine rfl rfl).derive .unsigned "u"
  obtain ⟨⟨counts, hrun, hsize, hin, hout⟩, -⟩ :=
    multiplicity_adds_shares h #[9, 9, 9, 9, 9, 9] (by decide)
  have hcounts : counts = #[11, 12, 12, 11, 5, 0] := by
    apply Array.ext_getElem?
    intro l
    match l with
    | 0 | 1 | 2 | 3 | 4 => exact (hin _ (by decide)).trans (by decide)
    | 5 => exact hout 5 (by decide) (by decide)
    | l + 6 =>
      rw [Array.getElem?_eq_none (hsize ▸ Nat.le_add_left 6 l)]
      rfl
  exact ⟨h, hcounts ▸ hrun⟩

/-- One node whose row is a two. -/
def doubled : OffsetSpec where
  numElem := 1
  elemSize := 1
  numComp := 1
  compStride := 1
  lSize := 1
  offsets := .owned #[0]
  orientation := .curl (.owned #[0, 2, 0])

/-- It is referred to once and counted four times. -/
theorem doubled_counts_four :
    let s : Session Unit Int :=
      (single () false (.offsets doubled)).after (.derive "r" .unsigned "u")
    (Spec.offsets doubled).references.count 0 = 1 ∧
      ((multiplicity "r" #[0]).run s).run.1 = (#[4], .ok ()) ∧
      ((multiplicity "u" #[0]).run s).run.1 = (#[4], .ok ()) :=
  ⟨rfl, rfl, rfl⟩

end Session

end GatherScatter
