import GatherScatter.Session.Basic

/-!
# Array views

* Every array view is one reader of the root whose data it shows.
* A view keeps its entries, also when the data of its root is released.
* Filling a view slot gives back the view that was in it.
-/
namespace GatherScatter

/-- Which index array of a restriction. -/
inductive Part where
  | offsets
  | orientations
  | curlOrientations
  deriving DecidableEq

namespace Part

def capability : Part → Capability
  | offsets => .getOffsets
  | orientations => .getOrientations
  | curlOrientations => .getCurlOrientations

/-- The hook that gives the array. -/
def fetch {σ α : Type} (part : Part) (mem : MemKind) (c : Compiled σ α) : Effect σ ArrayContent :=
  match part with
  | offsets => ArrayContent.offsets <$> c.offsets mem
  | orientations => ArrayContent.orientations <$> c.orientations mem
  | curlOrientations => ArrayContent.curlOrientations <$> c.curlOrientations mem

end Part

namespace Session

variable {σ α β : Type}

/-- Runs the hook of an array of the restriction at `id` and counts a reader; gives the root that
counts it and the array. Mirrors `checkout`. -/
def takeArray (id : Nat) (cap : Capability) (fetch : Compiled σ α → Effect σ β) :
    Act σ α (Nat × β) := do
  let entries ← withCapability id cap fetch
  let root := (← descriptor id).root id
  modifyDescriptor root fun d => { d with readers := d.readers + 1 }
  return (root, entries)

/-- One reader less at a root. -/
def giveBack (root : Nat) : Act σ α Unit :=
  modifyDescriptor root fun d => { d with readers := d.readers - 1 }

/-- Checks out an index array of the restriction `name` as the view `viewName`. -/
def checkout (name : String) (part : Part) (mem : MemKind) (viewName : String) :
    Act σ α ArrayView := do
  let (root, content) ← takeArray (← held name) part.capability (part.fetch mem)
  let old := (← get).views.get? viewName
  modify fun s => { s with views := s.views.put viewName ⟨root, content⟩ }
  match old with
  | some oldView => giveBack oldView.root
  | none => pure ()
  return ⟨root, content⟩

/-- The array view in a slot. -/
def view (viewName : String) : Act σ α ArrayView := do
  match (← get).views.get? viewName with
  | some v => pure v
  | none => throw .emptySlot

/-- Gives back the array view in a slot. Mirrors `restore`. -/
def restore (viewName : String) : Act σ α Unit := do
  let v ← view viewName
  modify fun s => { s with views := s.views.erase viewName }
  giveBack v.root

end Session

end GatherScatter
