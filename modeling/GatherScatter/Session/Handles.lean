import GatherScatter.Session.Basic

/-!
# Handles and derived restrictions

* Every handle on a descriptor and every descriptor derived from it is one reference to it.
* The data of a root is released when its last reference goes, which `destroy` refuses while the
  root has readers. Dropping a handle releases the data in any case, and its failures are silent.
* Filling a handle slot drops the handle that was in it.
-/
namespace GatherScatter.Session

variable {σ α : Type}

/-- Adds a reference. -/
def retain (id : Nat) : Act σ α Unit :=
  modifyDescriptor id fun d => { d with refCount := d.refCount + 1 }

/-- Gives up the data of the descriptor at `id`, if it has some. -/
def releaseData (id : Nat) : Act σ α Unit := do
  match (← descriptor id).data with
  | none => return
  | some c =>
    modifyDescriptor id fun d => { d with data := none }
    if c.supports .destroy then effect c.destroy

/-- Takes a reference from the first descriptor of a chain from a descriptor to its root. With its
last reference, a root gives up its data and a derived descriptor its reference to the next. Mirrors
`release`. -/
def release : List Nat → Act σ α Unit
  | [] => return
  | id :: ancestors => do
    modifyDescriptor id fun d => { d with refCount := d.refCount - 1 }
    if (← descriptor id).refCount = 0 then
      releaseData id
      release ancestors

/-- Whether taking a reference from the first descriptor of the chain would release data that still
has readers. Mirrors `blocked_by_readers`. -/
def blockedByReaders : List Nat → Act σ α Bool
  | [] => return false
  | [root] => do
    let d ← descriptor root
    return d.refCount ≤ 1 && 0 < d.readers
  | id :: ancestors => do
    let d ← descriptor id
    if 1 < d.refCount then return false else blockedByReaders ancestors

/-- Drops a reference to the descriptor at `id`. -/
def dropReference (id : Nat) : Act σ α Unit := silently do
  let d ← descriptor id
  release (id :: d.ancestors)

/-- Puts a handle into a slot; the handle that was in it is dropped. -/
def assign (name : String) (id : Nat) : Act σ α Unit := do
  let old := (← get).handles.get? name
  modify fun s => { s with handles := s.handles.put name id }
  match old with
  | some oldId => dropReference oldId
  | none => return

/-- Creates a restriction under the name `name`. -/
def create (ctx : Context σ α) (spec : Spec) (name : String) : Act σ α Nat := do
  let (context, shape, compiled) ← effect (ctx.create spec)
  let id ← addDescriptor
    ⟨context, shape, compiled.eLayout, .full, [], 1, 0, some compiled⟩
  assign name id
  return id

/-- A further handle on the restriction `name`. Mirrors `reference`. -/
def reference (name newName : String) : Act σ α Unit := do
  let id ← held name
  retain id
  assign newName id

/-- A restriction that uses the data of `name` and applies it in the given mode. Mirrors
`derived_copy`. -/
def derive (name : String) (mode : Mode) (newName : String) : Act σ α Unit := do
  let id ← held name
  withCapability id mode.capability fun _ => pure ()
  let d ← descriptor id
  let newId ← addDescriptor
    { d with
      mode := mode, ancestors := id :: d.ancestors, refCount := 1, readers := 0, data := none }
  retain id
  assign newName newId

/-- Gives up the handle `name`, if there is one. Refused, and nothing changed, if that would release
data with readers; after any other failure the slot is empty. Mirrors `destroy`. -/
def destroy (name : String) : Act σ α Unit := do
  match (← get).handles.get? name with
  | none => return
  | some id => do
    let chain := id :: (← descriptor id).ancestors
    if ← blockedByReaders chain then fail (.access .readersAttached)
    modify fun s => { s with handles := s.handles.erase name }
    release chain

/-- Makes `dst` a handle on what `src` is a handle on, after destroying `dst`; no `src`, or an empty
one, stands for no restriction. Mirrors `reference_copy`. -/
def referenceCopy (src : Option String) (dst : String) : Act σ α Unit := do
  let s ← get
  match src.bind s.handles.get? with
  | none => destroy dst
  | some id =>
    retain id
    try destroy dst
    catch failure =>
      dropReference id
      throw failure
    modify fun s => { s with handles := s.handles.put dst id }

/-- Drops the handle `name`. Mirrors `drop`. -/
def drop (name : String) : Act σ α Unit := do
  let id ← held name
  modify fun s => { s with handles := s.handles.erase name }
  dropReference id

end GatherScatter.Session
