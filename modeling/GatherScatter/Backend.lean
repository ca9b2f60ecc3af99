import GatherScatter.Config
import GatherScatter.IndexData
import GatherScatter.Shape

/-!
# Backends

A backend has two tables of hooks: `Backend` builds restrictions for a context, `Compiled` holds
the index data of one restriction and applies it. Every hook but the required ones has a default
that fails with `unsupported`. Hooks may read and change a state `σ` that belongs to the backends.
-/
namespace GatherScatter

/-- A computation of a backend: may change the backends' state and may fail. -/
abbrev Effect (σ β : Type) := ExceptT Error (StateM σ) β

namespace Effect

variable {σ β : Type}

/-- A computation that leaves the state alone. -/
def ofExcept (r : Except Error β) : Effect σ β := ExceptT.mk (pure r)

/-- The failure of a hook that `resource` does not have. Mirrors `unsupported`. -/
def unsupported (c : Capability) (resource : String) : Effect σ β :=
  throw (.unsupported c.hook resource)

end Effect

/-- The hooks of one restriction. Lengths, element and block numbers are checked before a hook runs;
a transposed apply adds to the output; an apply that fails leaves the output alone. Mirrors
`RestrictionImpl`. -/
structure Compiled (σ α : Type) where
  /-- Resource of the backend that built it. -/
  resource : String
  supports : Capability → Bool
  /-- Node, component and element strides of the E-vector, if they are fixed. -/
  eLayout : Option Strides := none
  /-- Full apply: mode, direction, input, output. -/
  apply : Mode → Direction → Array α → Array α → Effect σ (Array α)
  /-- Apply to one block. -/
  applyBlock : Nat → Mode → Direction → Array α → Array α → Effect σ (Array α) :=
    fun _ _ _ _ _ => .unsupported .applyBlock resource
  /-- Apply to the points of one element. -/
  applyAtPoints : Nat → Direction → Array α → Array α → Effect σ (Array α) :=
    fun _ _ _ _ => .unsupported .applyAtPointsInElement resource
  offsets : MemKind → Effect σ (Array Int) := fun _ => .unsupported .getOffsets resource
  orientations : MemKind → Effect σ (Array Bool) :=
    fun _ => .unsupported .getOrientations resource
  curlOrientations : MemKind → Effect σ (Array Int) :=
    fun _ => .unsupported .getCurlOrientations resource
  /-- Releases the resources; called at most once, and only if supported. -/
  destroy : Effect σ Unit := pure ()

/-- The hooks of one context. Mirrors `Backend`. -/
structure Backend (σ α : Type) where
  /-- Resource with which the backend was initialised. -/
  resource : String
  supports : Capability → Bool
  /-- Resource of the context to fall back on. -/
  delegate : Option String := none
  /-- Entry of new vectors. -/
  fill : α
  /-- Builds a restriction for the context with the given settings. -/
  create : Construction → Config → Shape → IndexData → Effect σ (Compiled σ α) :=
    fun c _ _ _ => .unsupported c.capability resource

end GatherScatter
