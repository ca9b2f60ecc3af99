import GatherScatter.Error

/-!
# Sizes

Sizes and indices are natural numbers. Where a size is computed from others and the computation is
checked, the result and every intermediate result must stay below `indexLimit`; where it is not
checked, what leaves the index range is cut off.

* `product`, `sum`: the checked ones.
* `wrapMul`: the unchecked one.
-/
namespace GatherScatter

/-- Sizes and indices are smaller than this, the number of values of 64 bits. -/
def indexLimit : Nat := 0x10000000000000000

namespace Size

/-- Product of two sizes, if it is a size. -/
def mul? (a b : Nat) : Option Nat := if a * b < indexLimit then some (a * b) else none

/-- Sum of two sizes, if it is a size. -/
def add? (a b : Nat) : Option Nat := if a + b < indexLimit then some (a + b) else none

/-- Product of two sizes where nothing checks it. -/
def wrapMul (a b : Nat) : Nat := a * b % indexLimit

/-- To cut after each step is to cut the result. -/
theorem wrapMul_wrapMul (a b c : Nat) : wrapMul (wrapMul a b) c = a * b * c % indexLimit := by
  simp [wrapMul]

/-- Product of sizes from left to right; fails, naming `what`, once it leaves the index range.
Mirrors `checked_product`. -/
def product (what : String) (factors : List Nat) : Except Error Nat :=
  match factors.foldlM mul? 1 with
  | some p => .ok p
  | none => .error (.invalidParameter (.overflow what))

/-- Sum of two sizes; fails, naming `what`, outside the index range. -/
def sum (what : String) (a b : Nat) : Except Error Nat :=
  match add? a b with
  | some s => .ok s
  | none => .error (.invalidParameter (.overflow what))

end Size

end GatherScatter
