/-!
# Capabilities

What a backend, or a restriction that it built, may be able to do. Each capability is one hook
and can be missing.
-/
namespace GatherScatter

/-- An optional hook. Mirrors `Capability`. -/
inductive Capability where
  | createStandard
  | createBlocked
  | createAtPoints
  | apply
  | applyUnsigned
  | applyUnoriented
  | applyAtPointsInElement
  | applyBlock
  | destroy
  | getOffsets
  | getOrientations
  | getCurlOrientations
  deriving DecidableEq

namespace Capability

def all : List Capability :=
  [createStandard, createBlocked, createAtPoints, apply, applyUnsigned, applyUnoriented,
    applyAtPointsInElement, applyBlock, destroy, getOffsets, getOrientations, getCurlOrientations]

def name : Capability → String
  | createStandard => "CreateStandard"
  | createBlocked => "CreateBlocked"
  | createAtPoints => "CreateAtPoints"
  | apply => "Apply"
  | applyUnsigned => "ApplyUnsigned"
  | applyUnoriented => "ApplyUnoriented"
  | applyAtPointsInElement => "ApplyAtPointsInElement"
  | applyBlock => "ApplyBlock"
  | destroy => "Destroy"
  | getOffsets => "GetOffsets"
  | getOrientations => "GetOrientations"
  | getCurlOrientations => "GetCurlOrientations"

/-- Name of the hook in error messages. -/
def hook : Capability → String
  | createStandard => "ElemRestrictionCreate"
  | c => "ElemRestriction" ++ c.name

end Capability

/-- Which hook of a context builds a restriction. -/
inductive Construction where
  | standard
  | blocked
  | atPoints
  deriving DecidableEq

def Construction.capability : Construction → Capability
  | standard => .createStandard
  | blocked => .createBlocked
  | atPoints => .createAtPoints

/-- How an apply treats orientation. Mirrors `ApplyMode`. -/
inductive Mode where
  /-- Signs and curl rows as stored. -/
  | full
  /-- Signs dropped, curl rows by absolute value. -/
  | unsigned
  /-- Orientation ignored. -/
  | unoriented
  deriving DecidableEq

namespace Mode

def all : List Mode := [full, unsigned, unoriented]

def name : Mode → String
  | full => "Full"
  | unsigned => "Unsigned"
  | unoriented => "Unoriented"

/-- What an apply in this mode needs. -/
def capability : Mode → Capability
  | full => .apply
  | unsigned => .applyUnsigned
  | unoriented => .applyUnoriented

end Mode

/-- Direction of an apply. Mirrors `TransposeMode`. -/
inductive Direction where
  /-- From the L-vector to the E-vector: gather. -/
  | forward
  /-- From the E-vector to the L-vector: scatter and add. -/
  | transpose
  deriving DecidableEq

namespace Direction

def all : List Direction := [forward, transpose]

/-- Name in plain form. -/
def name : Direction → String
  | forward => "NoTranspose"
  | transpose => "Transpose"

end Direction

end GatherScatter
