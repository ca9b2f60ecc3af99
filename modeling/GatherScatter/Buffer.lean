import GatherScatter.Memory

/-!
# Buffers

Vectors are arrays whose entries are read and written one by one or by ranges; an access outside
the array is an error, never a default value.

* `read_eq_ok_iff`, `write_eq_ok_iff`: an access succeeds exactly inside the array.
-/
namespace GatherScatter.Buffer

variable {β : Type}

/-- Entry `i`. -/
def read (xs : Array β) (i : Nat) : Except Error β :=
  match xs[i]? with
  | some x => .ok x
  | none => .error (.rangeOutOfBounds i 1 xs.size)

/-- Replaces entry `i`. -/
def write (xs : Array β) (i : Nat) (x : β) : Except Error (Array β) :=
  if h : i < xs.size then .ok (xs.set i x h) else .error (.rangeOutOfBounds i 1 xs.size)

/-- Entries `first, …, last - 1`. -/
def slice (xs : Array β) (first last : Nat) : Except Error (Array β) :=
  if first ≤ last ∧ last ≤ xs.size then .ok (xs.extract first last)
  else .error (.rangeOutOfBounds first (last - first) xs.size)

/-- Overwrites every entry. Mirrors `fill` of `VecStorage`. -/
def fill (xs : Array β) (x : β) : Array β := Array.replicate xs.size x

/-- Copies `src` over the entries from `offset` on. Mirrors `write_at`. -/
def writeAt (xs : Array β) (offset : Nat) (src : Array β) : Except Error (Array β) :=
  if offset + src.size ≤ xs.size then
    .ok (xs.extract 0 offset ++ src ++ xs.extract (offset + src.size) xs.size)
  else .error (.rangeOutOfBounds offset src.size xs.size)

/-- Copies all entries of a vector of the same length. Mirrors `set_array`. -/
def setAll (xs values : Array β) : Except Error (Array β) :=
  if values.size = xs.size then writeAt xs 0 values
  else .error (.arrayLength "vector" xs.size values.size)

/-- Entries as seen from memory `mem`. Mirrors `read_array` and `write_array`. -/
def access (xs : Array β) (mem : MemKind) : Except Error (Array β) := do
  mem.requireHost
  return xs

/-- Short description of a storage buffer. -/
def describe (xs : Array β) : String := "VecStorage \x7b len: " ++ toString xs.size ++ " \x7d"

theorem read_eq_ok_iff {xs : Array β} {i : Nat} {x : β} : read xs i = .ok x ↔ xs[i]? = some x := by
  unfold read; split <;> simp_all

theorem write_eq_ok_iff {xs ys : Array β} {i : Nat} {x : β} :
    write xs i x = .ok ys ↔ ∃ h : i < xs.size, ys = xs.set i x h := by
  by_cases h : i < xs.size <;> simp [write, h, eq_comm]

end GatherScatter.Buffer
