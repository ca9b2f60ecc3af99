import GatherScatter.Strides

/-!
# Errors

Every operation that can fail says why with one value of `Error`. A cause that the library itself
finds is a constructor; `other` carries the wording of a backend that is not part of it.

* `Error.kind`: the class of an error.
* `Error.message`: its text.
-/
namespace GatherScatter

/-- Class of an error. Mirrors `ErrorKind`. -/
inductive ErrorKind where
  /-- Bad sizes or index data. -/
  | validation
  /-- No context on the delegate chain has the capability. -/
  | unsupported
  /-- Misuse of handles, such as destroying under a reader. -/
  | access
  /-- A query that does not apply to this kind of restriction. -/
  | incompatible
  /-- Vector lengths, element or block numbers that do not fit the shape. -/
  | dimension
  /-- Data that was never set. -/
  | minor
  /-- Failure inside a backend. -/
  | backend
  deriving DecidableEq

/-- What is wrong with a parameter. -/
inductive BadParameter where
  | noNodes
  | noLanes
  | noComponents
  | noCompStride
  | overflow (what : String)
  | componentOutside (compStride comp lSize : Nat)
  | lSizeBelow (lSize : Nat) (product : String) (needed : Nat)
  | stridesOutside (strides : Strides) (last lSize : Nat)
  | pointSpan (head size : Nat) (first last : Int)
  | decreasingRange (elem : Nat)
  | alreadyRegistered (stem : String)
  | eSizeMismatch (found expected : Nat)
  | blocksShort (numBlock blockSize numElem : Nat)
  | stridesMisplaced
  | other (text : String)
  deriving DecidableEq

/-- How a handle was misused. -/
inductive Misuse where
  | dataReleased
  | readersAttached
  | noReferences
  | other (text : String)
  deriving DecidableEq

/-- Why a query does not apply. -/
inductive Mismatch where
  /-- The action needs a restriction onto points. -/
  | notPoints (action : String)
  | other (text : String)
  deriving DecidableEq

/-- What failed inside a backend. -/
inductive BackendFault where
  | hostOnly
  | selfDelegate (resource : String)
  | other (text : String)
  deriving DecidableEq

/-- Why an operation failed. Mirrors `CeedError`. -/
inductive Error where
  | invalidParameter (cause : BadParameter)
  /-- An offset addresses memory outside the L-vector. -/
  | offsetOutOfRange (elem node : Nat) (offset : Int) (lSize : Nat)
  /-- An array does not have the length that the sizes imply. -/
  | arrayLength (what : String) (expected found : Nat)
  /-- Entries `offset, …, offset + len - 1` do not all exist. -/
  | rangeOutOfBounds (offset len total : Nat)
  | unsupported (hook backend : String)
  | access (cause : Misuse)
  | incompatible (cause : Mismatch)
  /-- A vector does not fit a restriction onto `m` entries from `n`. -/
  | vectorLength (role : String) (found m n : Nat)
  | elementOutOfRange (elem numElem : Nat)
  | blockOutOfRange (block blockSize numElem : Nat)
  | missingData (what : String)
  | backend (cause : BackendFault)
  | unknownResource (resource : String)
  deriving DecidableEq

def BadParameter.message : BadParameter → String
  | .noNodes => "element size must be at least 1"
  | .noLanes => "block size must be at least 1"
  | .noComponents => "restriction must have at least 1 component"
  | .noCompStride => "component stride must be at least 1"
  | .overflow what => s!"{what} overflows the index range"
  | .componentOutside compStride comp lSize =>
    s!"component stride {compStride} puts component {comp} outside L-vector of size {lSize}"
  | .lSizeBelow lSize product needed =>
    s!"L-vector size {lSize} must be at least {product} = {needed}"
  | .stridesOutside strides last lSize =>
    s!"strides {strides.text} address index {last}, outside L-vector of size {lSize}"
  | .pointSpan head size first last =>
    s!"point ranges must span [{head}, {size}), found [{first}, {last})"
  | .decreasingRange elem => s!"point range of element {elem} is decreasing"
  | .alreadyRegistered stem => s!"backend `{stem}` is already registered"
  | .eSizeMismatch found expected => s!"e_size {found} does not match computed size {expected}"
  | .blocksShort numBlock blockSize numElem =>
    s!"{numBlock} blocks of {blockSize} do not cover {numElem} elements"
  | .stridesMisplaced => "strides must be present exactly for strided restrictions"
  | .other text => text

def Misuse.message : Misuse → String
  | .dataReleased => "restriction data has been released"
  | .readersAttached =>
    "cannot destroy restriction, a process has read access to the offset data"
  | .noReferences => "live handle with zero references"
  | .other text => text

def Mismatch.message : Mismatch → String
  | .notPoints action => s!"cannot {action} for a restriction that does not use points"
  | .other text => text

def BackendFault.message : BackendFault → String
  | .hostOnly => "can only provide HOST memory"
  | .selfDelegate resource => s!"backend `{resource}` names itself as delegate"
  | .other text => text

namespace Error

/-- Class to which an error belongs. -/
def kind : Error → ErrorKind
  | invalidParameter _ | offsetOutOfRange .. | arrayLength .. | unknownResource _ => .validation
  | unsupported .. => .unsupported
  | access _ => .access
  | incompatible _ => .incompatible
  | vectorLength .. | elementOutOfRange .. | blockOutOfRange .. | rangeOutOfBounds .. => .dimension
  | missingData _ => .minor
  | backend _ => .backend

/-- Text of an error. -/
def message : Error → String
  | invalidParameter cause => s!"invalid parameter: {cause.message}"
  | offsetOutOfRange elem node offset lSize =>
    s!"offset {offset} for element {elem}, node {node} addresses outside the L-vector of size " ++
      toString lSize
  | arrayLength what expected found => s!"{what} array has length {found}, expected {expected}"
  | rangeOutOfBounds offset len total =>
    s!"range [{offset}, {offset} + {len}) is out of bounds for storage of length {total}"
  | unsupported hook resource => s!"backend `{resource}` does not implement {hook}"
  | access cause => s!"access error: {cause.message}"
  | incompatible cause => s!"incompatible restriction: {cause.message}"
  | vectorLength role found m n =>
    s!"{role} vector size {found} not compatible with element restriction ({m}, {n})"
  | elementOutOfRange elem numElem =>
    s!"cannot retrieve element {elem}, restriction has {numElem} elements"
  | blockOutOfRange block blockSize numElem =>
    s!"cannot retrieve block {block} of size {blockSize}, restriction has {numElem} elements"
  | missingData what => s!"restriction has no {what} data"
  | backend cause => s!"backend error: {cause.message}"
  | unknownResource resource => s!"no backend registered for resource `{resource}`"

end Error

end GatherScatter
