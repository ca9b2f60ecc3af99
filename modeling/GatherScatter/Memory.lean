import GatherScatter.Error

/-!
# Memory

Where an array lives, and how a restriction takes hold of an index array that it is given.
-/
namespace GatherScatter

/-- Where an array lives. Mirrors `MemType`. -/
inductive MemKind where
  | host
  | device
  deriving DecidableEq

/-- How a restriction takes hold of an array. Mirrors `CopyMode`. -/
inductive CopyMode where
  /-- The entries are duplicated at once. -/
  | copyValues
  /-- The array stays shared with its owner. -/
  | usePointer
  /-- The array is taken over. -/
  | ownPointer
  deriving DecidableEq

namespace MemKind

def all : List MemKind := [host, device]

/-- Name in plain form. -/
def name : MemKind → String
  | host => "Host"
  | device => "Device"

/-- Refuses every memory but the host's. Mirrors `host_only`. -/
def requireHost : MemKind → Except Error Unit
  | host => .ok ()
  | device => .error (.backend .hostOnly)

end MemKind

namespace CopyMode

def all : List CopyMode := [copyValues, usePointer, ownPointer]

/-- Name in plain form. -/
def name : CopyMode → String
  | copyValues => "CopyValues"
  | usePointer => "UsePointer"
  | ownPointer => "OwnPointer"

end CopyMode

/-- An index array together with how it is held. Mirrors `HostArray` and `ArrayStore`. -/
structure IndexArray (β : Type) where
  mode : CopyMode
  entries : Array β
  deriving DecidableEq

namespace IndexArray

variable {β : Type}

def size (a : IndexArray β) : Nat := a.entries.size

def isEmpty (a : IndexArray β) : Bool := a.entries.isEmpty

/-- An array made by the library itself, held outright. -/
def owned (entries : Array β) : IndexArray β := ⟨.ownPointer, entries⟩

end IndexArray

end GatherScatter
