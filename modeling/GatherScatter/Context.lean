import GatherScatter.Registry
import GatherScatter.Text.Quoted

/-!
# Contexts

A context is a backend with settings, and the chain of contexts on which it falls back. Its serial
number tells it from other contexts with the same settings; along a chain the numbers count up, so
the contexts of a chain are known by theirs.
-/
namespace GatherScatter

/-- One context of a chain. -/
structure Provider (σ α : Type) where
  config : Config
  backend : Backend σ α

/-- A non-empty chain of contexts, each the delegate of the one before it. -/
structure Chain (σ α : Type) where
  head : Provider σ α
  fallbacks : List (Provider σ α)

/-- A context with its delegates. Mirrors `Ceed`. -/
structure Context (σ α : Type) extends Chain σ α where
  serial : Nat

namespace Chain

variable {σ α : Type}

def toList (c : Chain σ α) : List (Provider σ α) := c.head :: c.fallbacks

def cons (p : Provider σ α) (c : Chain σ α) : Chain σ α := ⟨p, c.toList⟩

end Chain

/-- Initialises the context for `config` and then its delegates, `limit` contexts at most; `none` if
the chain of delegates goes on. A backend may not name its own resource as delegate. Mirrors
`with_config`. -/
def Registry.openWithin {σ α : Type} (r : Registry σ α) :
    Nat → Config → Effect σ (Option (Chain σ α))
  | 0, _ => pure none
  | limit + 1, config => do
    let entry ← Effect.ofExcept (r.lookup config.resource)
    let backend ← entry.init config.resource
    match backend.delegate with
    | none => return some ⟨⟨config, backend⟩, []⟩
    | some resource =>
      if resource = config.resource then throw (.backend (.selfDelegate resource))
      else
        let rest ← r.openWithin limit { config with resource := resource }
        return rest.map (.cons ⟨config, backend⟩)

namespace Context

variable {σ α : Type}

def config (c : Context σ α) : Config := c.head.config

def resource (c : Context σ α) : String := c.head.config.resource

/-- Context on which `c` falls back. Mirrors `delegate`. -/
def delegate? (c : Context σ α) : Option (Context σ α) :=
  match c.fallbacks with
  | [] => none
  | p :: rest => some ⟨⟨p, rest⟩, c.serial + 1⟩

/-- Whether two contexts are the same one. Mirrors `ptr_eq`. -/
def same (c c' : Context σ α) : Bool := c.serial == c'.serial

/-- First context with the capability among `p` and the `rest` of its chain. -/
def resolveFrom (c : Capability) (serial : Nat) (p : Provider σ α) :
    List (Provider σ α) → Except Error (Context σ α)
  | [] =>
    if p.backend.supports c then .ok ⟨⟨p, []⟩, serial⟩
    else .error (.unsupported c.hook p.config.resource)
  | q :: rest =>
    if p.backend.supports c then .ok ⟨⟨p, q :: rest⟩, serial⟩
    else resolveFrom c (serial + 1) q rest

/-- First context along the chain whose backend has the capability. Mirrors `resolve_for`. -/
def resolve (ctx : Context σ α) (c : Capability) : Except Error (Context σ α) :=
  resolveFrom c ctx.serial ctx.head ctx.fallbacks

/-- A new vector, filled as the backend wants. Mirrors `vector`. -/
def vector (c : Context σ α) (len : Nat) : Array α := Array.replicate len c.head.backend.fill

/-- One line for people, from `p` on. -/
def describeFrom (p : Provider σ α) (rest : List (Provider σ α)) : String :=
  "Ceed \x7b resource: " ++ Text.quoted p.config.resource ++ ", deterministic: " ++
    toString p.config.deterministic ++ ", delegate: " ++
    (match rest with
    | [] => "None"
    | q :: rest => "Some(" ++ describeFrom q rest ++ ")") ++ " \x7d"

def describe (c : Context σ α) : String := describeFrom c.head c.fallbacks

end Context

end GatherScatter
