import GatherScatter.Creation.Spec
import GatherScatter.Proofs.Loops
import Mathlib.Algebra.Order.BigOperators.GroupWithZero.List
import Mathlib.Algebra.Order.Floor.Div
import Mathlib.Algebra.Order.Ring.Nat
import Mathlib.Data.Finset.Lattice.Fold
import Mathlib.Order.Lattice.Nat

/-!
# Checked sizes in exact arithmetic

Sizes are multiplied and added step by step, and each step must stay in the index range. With
positive factors no intermediate product is larger than the result, so a chain of steps succeeds
exactly when the result, computed in exact arithmetic, is in the range. The first factor may be
zero: then all products are.

* `Size.product_eq_ok_iff`, `Size.sum_eq_ok_iff`: chains of products, and sums.
* `Creation.checkSizes_eq_ok_iff`, `Creation.checkLength_eq_ok_iff`: what the plain checks ask for.
* `Creation.lastAddress?_eq_some_iff`: when strides have a last address.
* `Creation.largestStep_eq_ok_iff`: when a list has a largest step.
* `Shape.exists_blocked_iff`: when the E-vector has a size.
-/
namespace GatherScatter

theorem indexLimit_eq : indexLimit = 2 ^ 64 := rfl

namespace Size

theorem mul?_eq_some_iff {a b p : Nat} : mul? a b = some p ↔ p = a * b ∧ p < indexLimit := by
  unfold mul?
  split <;> simp only [Option.some.injEq, reduceCtorEq, false_iff] <;> omega

theorem add?_eq_some_iff {a b p : Nat} : add? a b = some p ↔ p = a + b ∧ p < indexLimit := by
  unfold add?
  split <;> simp only [Option.some.injEq, reduceCtorEq, false_iff] <;> omega

/-- With positive factors, the last product is the largest one. -/
theorem foldlM_mul?_eq_some_iff {fs : List Nat} {a p : Nat} (ha : a < indexLimit)
    (hpos : a = 0 ∨ ∀ f ∈ fs, 0 < f) :
    fs.foldlM mul? a = some p ↔ p = a * fs.prod ∧ p < indexLimit := by
  induction fs generalizing a with
  | nil => simp only [List.foldlM_nil, Option.pure_def, Option.some.injEq, List.prod_nil]; omega
  | cons f fs ih =>
    have hrest : a * f = 0 ∨ ∀ g ∈ fs, 0 < g := by
      rcases hpos with rfl | hpos
      · exact .inl (Nat.zero_mul f)
      · exact .inr fun g hg => hpos g (List.mem_cons_of_mem f hg)
    rw [List.foldlM_cons, List.prod_cons, ← Nat.mul_assoc]
    by_cases hf : a * f < indexLimit
    · rw [mul?_eq_some_iff.2 ⟨rfl, hf⟩]
      exact ih hf hrest
    · have hnone : mul? a f = none := if_neg hf
      have hle : a * f ≤ a * f * fs.prod := by
        rcases hrest with h0 | hpos
        · rw [h0, Nat.zero_mul]
        · exact Nat.le_mul_of_pos_right _ (List.prod_pos hpos)
      rw [hnone]
      simp only [Option.bind_eq_bind, Option.bind_none, reduceCtorEq, false_iff]
      omega

/-- A product of sizes is there exactly if, in exact arithmetic, it is a size. -/
theorem product_eq_ok_iff {what : String} {f p : Nat} {fs : List Nat}
    (hpos : f = 0 ∨ ∀ g ∈ fs, 0 < g) :
    product what (f :: fs) = .ok p ↔ p = f * fs.prod ∧ p < indexLimit := by
  have hok : product what (f :: fs) = .ok p ↔ (f :: fs).foldlM mul? 1 = some p := by
    unfold product
    split <;> simp [*]
  rw [hok, List.foldlM_cons]
  by_cases hf : f < indexLimit
  · rw [mul?_eq_some_iff.2 ⟨(Nat.one_mul f).symm, hf⟩]
    exact foldlM_mul?_eq_some_iff hf hpos
  · have hnone : mul? 1 f = none := if_neg (by omega)
    have hle : f ≤ f * fs.prod := by
      rcases hpos with h0 | hpos
      · omega
      · exact Nat.le_mul_of_pos_right _ (List.prod_pos hpos)
    rw [hnone]
    simp only [Option.bind_eq_bind, Option.bind_none, reduceCtorEq, false_iff]
    omega

theorem product_pair_eq_ok_iff {what : String} {a b p : Nat} (hpos : a = 0 ∨ 0 < b) :
    product what [a, b] = .ok p ↔ p = a * b ∧ p < indexLimit := by
  rw [product_eq_ok_iff (by simpa using hpos), List.prod_singleton]

theorem product_triple_eq_ok_iff {what : String} {a b c p : Nat} (hb : 0 < b) (hc : 0 < c) :
    product what [a, b, c] = .ok p ↔ p = a * b * c ∧ p < indexLimit := by
  rw [product_eq_ok_iff (.inr (by simp [hb, hc]))]
  simp only [List.prod_cons, List.prod_nil, Nat.mul_one, Nat.mul_assoc]

theorem sum_eq_ok_iff {what : String} {a b p : Nat} :
    sum what a b = .ok p ↔ p = a + b ∧ p < indexLimit := by
  rw [← add?_eq_some_iff]
  unfold sum
  split <;> simp [*]

end Size

namespace Creation

theorem checkSizes_eq_ok_iff {elemSize blockSize numComp compStride : Nat} :
    checkSizes elemSize blockSize numComp compStride = .ok () ↔
      1 ≤ elemSize ∧ 1 ≤ blockSize ∧ 1 ≤ numComp ∧ (1 ≤ compStride ∨ numComp = 1) := by
  unfold checkSizes
  split_ifs <;> simp only [false_iff, true_iff] <;> omega

theorem checkLength_eq_ok_iff {what : String} {found expected : Nat} :
    checkLength what found expected = .ok () ↔ found = expected := by
  unfold checkLength
  split <;> simp [*]

theorem outside_eq_false_iff {lSize shift : Nat} {offset : Int} :
    outside lSize shift offset = false ↔ 0 ≤ offset ∧ offset.toNat + shift < lSize := by
  cases offset with
  | ofNat o =>
    simp only [outside, decide_eq_false_iff_not, Int.ofNat_eq_natCast, Int.toNat_natCast]
    omega
  | negSucc n =>
    simp only [outside, reduceCtorEq, false_iff, not_and]
    omega

/-- The corner is found exactly if its address is a size: no step to it is larger than the whole. -/
theorem lastAddress?_eq_some_iff {numElem elemSize numComp last : Nat} {t : Strides} :
    lastAddress? numElem elemSize numComp t = some last ↔
      last = t.address (elemSize - 1) (numComp - 1) (numElem - 1) ∧ last < indexLimit := by
  unfold lastAddress? Strides.address
  simp only [Option.bind_eq_bind, Option.bind_eq_some_iff, Size.mul?_eq_some_iff,
    Size.add?_eq_some_iff]
  constructor
  · rintro ⟨_, ⟨rfl, -⟩, _, ⟨rfl, -⟩, _, ⟨rfl, -⟩, _, ⟨rfl, -⟩, rfl, hlt⟩
    exact ⟨rfl, hlt⟩
  · rintro ⟨rfl, hlt⟩
    exact ⟨_, ⟨rfl, by omega⟩, _, ⟨rfl, by omega⟩, _, ⟨rfl, by omega⟩, _, ⟨rfl, by omega⟩, rfl, hlt⟩

/-- A list that never falls has a largest step; the search for it starts with `best`. -/
theorem largestStep_eq_ok_iff {l : List Int} {elem best m : Nat} :
    largestStep l elem best = .ok m ↔
      (∀ i, i + 1 < l.length → l[i]?.getD 0 ≤ l[i + 1]?.getD 0) ∧
      m = max best ((Finset.range (l.length - 1)).sup fun i =>
        (l[i + 1]?.getD 0 - l[i]?.getD 0).toNat) := by
  fun_induction largestStep l elem best with
  | case1 a b rest elem best hab =>
    simp only [reduceCtorEq, false_iff]
    intro ⟨h, _⟩
    have := h 0 (by simp)
    simp at this
    omega
  | case2 a b rest elem best hab ih =>
    have hrising : (∀ i, i + 1 < (a :: b :: rest).length →
        (a :: b :: rest)[i]?.getD 0 ≤ (a :: b :: rest)[i + 1]?.getD 0) ↔
        ∀ i, i + 1 < (b :: rest).length →
          (b :: rest)[i]?.getD 0 ≤ (b :: rest)[i + 1]?.getD 0 := by
      constructor
      · intro h i hi
        simpa using h (i + 1) (by simpa using hi)
      · intro h i hi
        cases i with
        | zero => simpa using hab
        | succ i => simpa using h i (by simpa using hi)
    have hsup : (Finset.range ((a :: b :: rest).length - 1)).sup (fun i =>
        ((a :: b :: rest)[i + 1]?.getD 0 - (a :: b :: rest)[i]?.getD 0).toNat) =
        max (b - a).toNat ((Finset.range ((b :: rest).length - 1)).sup fun i =>
          ((b :: rest)[i + 1]?.getD 0 - (b :: rest)[i]?.getD 0).toNat) := by
      simp only [List.length_cons, Nat.add_sub_cancel, Finset.range_add_one' rest.length,
        Finset.sup_insert, Finset.sup_map]
      rfl
    rw [ih, hrising, hsup, max_assoc]
  | case3 l elem best hl =>
    match l, hl with
    | [], _ => simp [eq_comm]
    | [a], _ => simp [eq_comm]
    | a :: b :: rest, hl => exact absurd rfl (hl a b rest)

end Creation

theorem numBlocks_eq_ceilDiv {numElem blockSize : Nat} (hB : 1 ≤ blockSize) :
    numBlocks numElem blockSize = numElem ⌈/⌉ blockSize := by
  rw [numBlocks, Nat.ceilDiv_eq_add_pred_div, Nat.max_eq_left hB, Nat.add_sub_assoc hB]

/-- There is a shape exactly if the E-vector has a size. -/
theorem Shape.exists_blocked_iff {kind : Kind}
    {numElem elemSize blockSize numComp compStride lSize : Nat} {strides : Option Strides}
    (hE : 1 ≤ elemSize) (hB : 1 ≤ blockSize) (hC : 1 ≤ numComp) :
    (∃ shape, Shape.blocked kind numElem elemSize blockSize numComp compStride lSize strides =
      .ok shape) ↔ numElem ⌈/⌉ blockSize * blockSize * elemSize * numComp < 2 ^ 64 := by
  have hsize (p : Nat) : Size.product "E-vector size"
      [numBlocks numElem blockSize, blockSize, elemSize, numComp] = .ok p ↔
        p = numElem ⌈/⌉ blockSize * blockSize * elemSize * numComp ∧ p < indexLimit := by
    rw [Size.product_eq_ok_iff (.inr (by simp; omega)), numBlocks_eq_ceilDiv hB]
    simp only [List.prod_cons, List.prod_nil, Nat.mul_one, Nat.mul_assoc]
  unfold Shape.blocked
  constructor
  · intro ⟨shape, h⟩
    obtain ⟨eSize, heSize, -⟩ := Loop.bind_eq_ok.1 h
    obtain ⟨rfl, hlt⟩ := (hsize eSize).1 heSize
    exact hlt
  · intro h
    exact ⟨_, Loop.bind_eq_ok.2 ⟨_, (hsize _).2 ⟨rfl, h⟩, rfl⟩⟩

end GatherScatter
