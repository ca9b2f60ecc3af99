import GatherScatter.Memcheck
import GatherScatter.Reference.Backend

/-!
# Registry of backends

Backends are registered under a stem, a leading part of resources, with a priority. A resource
selects the entry that shares the longest leading part with it; one of the two must be a leading
part of the other, so a short resource finds entries with longer stems. Ties go to the smaller
priority number, then to the entry that was registered last.
-/
namespace GatherScatter

/-- A registered backend. Mirrors `BackendEntry`. -/
structure Entry (σ α : Type) where
  stem : String
  priority : Nat
  /-- Initialises the backend for a resource. -/
  init : String → Effect σ (Backend σ α)

/-- Registered backends, in order of registration. -/
structure Registry (σ α : Type) where
  entries : List (Entry σ α)

namespace Registry

variable {σ α : Type}

/-- Bytes that a resource and a stem share, if one is a leading part of the other. Mirrors
`match_len`. -/
def matchLength (resource stem : String) : Option Nat :=
  if stem.toList.isPrefixOf resource.toList || resource.toList.isPrefixOf stem.toList then
    let n := min resource.utf8ByteSize stem.utf8ByteSize
    if 0 < n then some n else none
  else none

/-- Adds a backend; its stem must be new. Mirrors `register_backend`. -/
def register (r : Registry σ α) (e : Entry σ α) : Except Error (Registry σ α) :=
  if r.entries.any (·.stem == e.stem) then
    .error (.invalidParameter (.alreadyRegistered e.stem))
  else .ok ⟨r.entries ++ [e]⟩

def stems (r : Registry σ α) : List String := r.entries.map (·.stem)

/-- Whether a match of length `n` under priority `p` is at least as good as one of length `n'`
under `p'`. -/
def atLeast (n p n' p' : Nat) : Bool := n' < n || (n == n' && p ≤ p')

/-- Best match so far, after the entry `e`. -/
def better (resource : String) (best : Option (Nat × Entry σ α)) (e : Entry σ α) :
    Option (Nat × Entry σ α) :=
  match matchLength resource e.stem, best with
  | none, _ => best
  | some n, none => some (n, e)
  | some n, some (n', e') =>
    if atLeast n e.priority n' e'.priority then some (n, e) else some (n', e')

/-- The entry that serves a resource. Mirrors `lookup`. -/
def lookup (r : Registry σ α) (resource : String) : Except Error (Entry σ α) :=
  match r.entries.foldl (better resource) none with
  | some (_, e) => .ok e
  | none => .error (.unknownResource resource)

/-- The two backends of this library; `poison` fills new vectors under memory checking. -/
def builtin [Add α] [Mul α] [IntCast α] (poison : α) : Registry σ α :=
  ⟨[⟨Reference.stem, 50, fun resource => pure (Reference.backend resource)⟩,
    ⟨Memcheck.stem, 100, fun resource => pure (Memcheck.backend poison resource)⟩]⟩

end Registry

end GatherScatter
