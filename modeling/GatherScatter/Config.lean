/-!
# Settings of a context
-/
namespace GatherScatter

/-- Settings of a context. Mirrors `CeedConfig`. -/
structure Config where
  /-- Names the backend. -/
  resource : String := "/cpu/self/ref/serial"
  /-- Asks for transposed applies whose sums have one fixed order. -/
  deterministic : Bool := false
  deriving DecidableEq

end GatherScatter
