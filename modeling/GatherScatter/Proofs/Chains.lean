import GatherScatter.Creation.Spec

/-!
# Chains of contexts

* `Context.chain`: a context, the one on which it falls back, and so on.
* `Context.resolve_eq`: what `resolve` gives is the first context of the chain with the capability;
  if there is none, the last context of the chain is named.
* `Context.create_eq`: the context that was found for a request finds itself when it builds.
-/
namespace GatherScatter.Context

variable {σ α : Type}

/-- `p` and the `rest` of its chain, each as a context with the delegates that it has. -/
def chainFrom (serial : Nat) (p : Provider σ α) : List (Provider σ α) → List (Context σ α)
  | [] => [⟨⟨p, []⟩, serial⟩]
  | q :: rest => ⟨⟨p, q :: rest⟩, serial⟩ :: chainFrom (serial + 1) q rest

/-- The contexts that are asked in turn for a capability. -/
def chain (c : Context σ α) : List (Context σ α) := chainFrom c.serial c.head c.fallbacks

/-- After a context its delegate is asked. -/
theorem chain_eq (c : Context σ α) : c.chain = c :: c.delegate?.elim [] chain := by
  obtain ⟨⟨p, rest⟩, serial⟩ := c
  cases rest <;> rfl

theorem chain_ne_nil (c : Context σ α) : c.chain ≠ [] := by
  rw [chain_eq]
  exact List.cons_ne_nil _ _

/-- The end of the chain. -/
def last (c : Context σ α) : Context σ α := c.chain.getLast c.chain_ne_nil

/-- First context of the chain whose backend has the capability. -/
def firstWith? (c : Context σ α) (cap : Capability) : Option (Context σ α) :=
  c.chain.find? fun t => t.head.backend.supports cap

theorem resolve_eq (c : Context σ α) (cap : Capability) :
    c.resolve cap =
      match c.firstWith? cap with
      | some target => .ok target
      | none => .error (.unsupported cap.hook c.last.resource) := by
  obtain ⟨⟨p, rest⟩, serial⟩ := c
  rw [resolve]
  dsimp only
  induction rest generalizing p serial with
  | nil =>
    rw [resolveFrom, firstWith?, chain, chainFrom, List.find?_singleton]
    dsimp only
    split <;> rfl
  | cons q rest ih =>
    have hchain : chain ⟨⟨p, q :: rest⟩, serial⟩ =
        ⟨⟨p, q :: rest⟩, serial⟩ :: chain ⟨⟨q, rest⟩, serial + 1⟩ := rfl
    have hlast : last ⟨⟨p, q :: rest⟩, serial⟩ = last ⟨⟨q, rest⟩, serial + 1⟩ :=
      List.getLast_cons (chain_ne_nil ⟨⟨q, rest⟩, serial + 1⟩)
    rw [resolveFrom, firstWith?, hchain, List.find?_cons, hlast, ih (serial + 1) q]
    dsimp only
    cases p.backend.supports cap <;> rfl

/-- The context that was found has the capability, and so it finds itself. -/
theorem resolve_self {c target : Context σ α} {cap : Capability}
    (h : c.resolve cap = .ok target) : target.resolve cap = .ok target := by
  have hfirst : c.firstWith? cap = some target := by
    rw [resolve_eq] at h
    split at h
    · cases h
      assumption
    · cases h
  have hsupports : target.head.backend.supports cap :=
    List.find?_some (p := fun t : Context σ α => t.head.backend.supports cap) hfirst
  rw [resolve_eq, firstWith?, chain_eq, List.find?_cons, hsupports]

/-- Creation once the context is found: looking for it again finds no other one. -/
theorem create_eq {c target : Context σ α} {spec : Spec}
    (h : c.resolve spec.construction.capability = .ok target) :
    c.create spec = (do
      let (shape, data) ← Effect.ofExcept spec.plan
      let compiled ← target.head.backend.create spec.construction target.config shape data
      return (target, shape, compiled)) := by
  have hbuild (shape : Shape) (data : IndexData) :
      target.build spec.construction shape data = (do
        let compiled ← target.head.backend.create spec.construction target.config shape data
        return (target, shape, compiled)) := by
    rw [build, resolve_self h]
    rfl
  rw [create, h]
  cases spec.plan with
  | error e => rfl
  | ok planned => exact hbuild planned.1 planned.2

end GatherScatter.Context
