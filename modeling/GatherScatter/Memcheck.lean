import GatherScatter.Backend

/-!
# The memory-checking backend

Has no capability of its own: every restriction is built by its delegate. Its vectors start out as
a value that shows up in results, so that reads of entries that nobody wrote are seen.
-/
namespace GatherScatter.Memcheck

/-- Resource stem of the memory-checking backend. -/
def stem : String := "/cpu/self/memcheck"

/-- Resource that builds its restrictions. -/
def delegate : String := "/cpu/self/ref/serial"

/-- The memory-checking backend for `resource`, with `poison` in new vectors. Mirrors
`MemcheckBackend`. -/
def backend {σ α : Type} (poison : α) (resource : String) : Backend σ α where
  resource := resource
  supports _ := false
  delegate := some delegate
  fill := poison

end GatherScatter.Memcheck
