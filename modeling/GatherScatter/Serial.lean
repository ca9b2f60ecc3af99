import GatherScatter.Config
import GatherScatter.Shape

/-!
# Plain form of settings and shapes

Settings, shapes and the names of choices are written to and read from trees of plain values. A
record may also be given as the list of its fields in order, and a choice as a record with its name
as the only field. Reading is strict: a value of another type is refused, never converted.

* `Config.ofTree_toTree`, `Shape.ofTree_toTree`: what is written reads back.
-/
namespace GatherScatter

/-- Plain values. -/
inductive Tree where
  | null
  | bool (b : Bool)
  /-- A whole number that is a size. -/
  | size (n : Nat)
  /-- Any other number. -/
  | number
  | text (s : String)
  | list (items : List Tree)
  | record (fields : List (String × Tree))
  deriving Inhabited

namespace Tree

def bool? : Tree → Option Bool
  | bool b => some b
  | _ => none

def size? : Tree → Option Nat
  | size n => some n
  | _ => none

def text? : Tree → Option String
  | text s => some s
  | _ => none

/-- Field of a record. -/
def field? (fields : List (String × Tree)) (name : String) : Option Tree := fields.lookup name

/-- The choice among `all` that a name stands for. -/
def choice? {β : Type} (all : List β) (name : β → String) : Tree → Option β
  | text s => all.find? fun b => name b == s
  | record [(s, null)] => all.find? fun b => name b == s
  | _ => none

end Tree

namespace Config

/-- Missing fields take their default. -/
def ofFields (resource deterministic : Option Tree) : Option Config := do
  let r ← match resource with
    | none => some ({} : Config).resource
    | some t => t.text?
  let d ← match deterministic with
    | none => some ({} : Config).deterministic
    | some t => t.bool?
  return ⟨r, d⟩

def ofTree : Tree → Option Config
  | .record fields =>
    ofFields (Tree.field? fields "resource") (Tree.field? fields "deterministic")
  | .list [] => ofFields none none
  | .list [r] => ofFields (some r) none
  | .list [r, d] => ofFields (some r) (some d)
  | _ => none

def toTree (c : Config) : Tree :=
  .record [("resource", .text c.resource), ("deterministic", .bool c.deterministic)]

theorem ofTree_toTree (c : Config) : ofTree c.toTree = some c := rfl

end Config

namespace Strides

/-- Three sizes, no fewer and no more. -/
def ofTree : Tree → Option Strides
  | .list [a, b, c] => do return ⟨← a.size?, ← b.size?, ← c.size?⟩
  | _ => none

def toTree (s : Strides) : Tree := .list [.size s.node, .size s.comp, .size s.elem]

/-- Strides or their absence. -/
def ofOptionTree : Tree → Option (Option Strides)
  | .null => some none
  | t => some <$> ofTree t

end Strides

namespace Shape

def fieldNames : List String :=
  ["rstr_type", "num_elem", "elem_size", "num_comp", "comp_stride", "l_size", "e_size",
    "block_size", "num_block", "num_points", "strides"]

/-- The fields in order. -/
def ofList : List Tree → Option Shape
  | [kind, numElem, elemSize, numComp, compStride, lSize, eSize, blockSize, numBlock, numPoints,
      strides] => do
    return {
      kind := ← kind.choice? Kind.all Kind.name
      numElem := ← numElem.size?
      elemSize := ← elemSize.size?
      numComp := ← numComp.size?
      compStride := ← compStride.size?
      lSize := ← lSize.size?
      eSize := ← eSize.size?
      blockSize := ← blockSize.size?
      numBlock := ← numBlock.size?
      numPoints := ← numPoints.size?
      strides := ← Strides.ofOptionTree strides }
  | _ => none

/-- Only the strides of a record may be missing. -/
def ofTree : Tree → Option Shape
  | .list items => ofList items
  | .record fields => do
    let field (name : String) : Option Tree :=
      match Tree.field? fields name with
      | some t => some t
      | none => if name = "strides" then some .null else none
    ofList (← fieldNames.mapM field)
  | _ => none

def toTree (s : Shape) : Tree :=
  .record (fieldNames.zip
    [.text s.kind.name, .size s.numElem, .size s.elemSize, .size s.numComp, .size s.compStride,
      .size s.lSize, .size s.eSize, .size s.blockSize, .size s.numBlock, .size s.numPoints,
      match s.strides with
      | none => .null
      | some t => t.toTree])

theorem ofTree_toTree (s : Shape) : ofTree s.toTree = some s := by
  obtain ⟨kind, _, _, _, _, _, _, _, _, _, strides⟩ := s
  cases kind <;> cases strides <;> rfl

end Shape

end GatherScatter
