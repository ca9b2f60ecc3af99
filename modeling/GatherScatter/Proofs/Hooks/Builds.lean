import GatherScatter.Proofs.Hooks.Journal

/-!
# A log of the create hooks

A context whose create hooks, its own and those of its delegates, write down each call before they
do what they did before tells which hooks a creation calls, in which order and with which arguments.
The log stands beside the state of the backends.

* `Context.logged`: a context with such hooks.
* `Context.Calls`: the calls that a creation makes; writing them down changes nothing else.
* `Context.calls_of_missing`, `Context.calls_of_refused`, `Context.calls_of_plan`: there is at most
  one, of the hook of the first context of the chain that has it.
-/
namespace GatherScatter

variable {σ α β τ : Type}

/-- A call of a create hook. -/
structure Build (σ α : Type) where
  /-- The context whose backend has the hook. -/
  context : Context σ α
  construction : Construction
  config : Config
  shape : Shape
  data : IndexData

namespace Effect

/-- A computation that leaves what stands beside the state alone. -/
def beside (x : Effect σ β) : Effect (σ × τ) β := do
  let (world, t) ← get
  let (r, world') := x.run.run world
  set (world', t)
  ofExcept r

theorem run_beside (x : Effect σ β) (world : σ) (t : τ) :
    x.beside.run.run (world, t) = ((x.run.run world).1, (x.run.run world).2, t) := rfl

end Effect

/-- The same data, whose hooks leave what stands beside the state alone. -/
def Compiled.beside (c : Compiled σ α) : Compiled (σ × τ) α where
  resource := c.resource
  supports := c.supports
  eLayout := c.eLayout
  apply mode d u v := (c.apply mode d u v).beside
  applyBlock block mode d u v := (c.applyBlock block mode d u v).beside
  applyAtPoints elem d u v := (c.applyAtPoints elem d u v).beside
  offsets mem := (c.offsets mem).beside
  orientations mem := (c.orientations mem).beside
  curlOrientations mem := (c.curlOrientations mem).beside
  destroy := c.destroy.beside

namespace Context

/-- The first provider of the chain of `c`, whose create hook logs its calls. -/
def loggedHead (c : Context σ α) : Provider (σ × List (Build σ α)) α where
  config := c.config
  backend :=
    { resource := c.head.backend.resource
      supports := c.head.backend.supports
      delegate := c.head.backend.delegate
      fill := c.head.backend.fill
      create := fun construction config shape data => do
        modify fun (world, log) => (world, log ++ [⟨c, construction, config, shape, data⟩])
        Compiled.beside <$> (c.head.backend.create construction config shape data).beside }

/-- The call is logged, and then the hook does what it did before. -/
theorem run_loggedHead (c : Context σ α) (construction : Construction) (config : Config)
    (shape : Shape) (data : IndexData) (world : σ) (log : List (Build σ α)) :
    (c.loggedHead.backend.create construction config shape data).run.run (world, log) =
      (((c.head.backend.create construction config shape data).run.run world).1.map
          Compiled.beside,
        ((c.head.backend.create construction config shape data).run.run world).2,
        log ++ [⟨c, construction, config, shape, data⟩]) := by
  change (Compiled.beside <$> (c.head.backend.create construction config shape data).beside :
    Effect (σ × List (Build σ α)) _).run.run
      (world, log ++ [⟨c, construction, config, shape, data⟩]) = _
  rw [map_eq_pure_bind, Effect.run_bind, Effect.run_beside]
  cases ((c.head.backend.create construction config shape data).run.run world).1 <;> rfl

/-- The same context, where all create hooks of the chain log their calls. -/
def logged (c : Context σ α) : Context (σ × List (Build σ α)) α :=
  ⟨⟨c.loggedHead, c.chain.tail.map loggedHead⟩, c.serial⟩

theorem chain_logged (c : Context σ α) : c.logged.chain = c.chain.map logged := by
  obtain ⟨⟨p, rest⟩, serial⟩ := c
  induction rest generalizing serial p with
  | nil => rfl
  | cons q rest ih =>
    have hchain : chain ⟨⟨p, q :: rest⟩, serial⟩ =
        ⟨⟨p, q :: rest⟩, serial⟩ :: chain ⟨⟨q, rest⟩, serial + 1⟩ := rfl
    have hdelegate : (logged ⟨⟨p, q :: rest⟩, serial⟩).delegate? =
        some (logged ⟨⟨q, rest⟩, serial + 1⟩) := by
      rw [logged, logged, hchain, List.tail_cons, chain_eq ⟨⟨q, rest⟩, serial + 1⟩]
      rfl
    rw [chain_eq (logged _), hdelegate, Option.elim_some, ih, hchain, List.map_cons]

theorem firstWith?_logged (c : Context σ α) (cap : Capability) :
    c.logged.firstWith? cap = (c.firstWith? cap).map logged := by
  rw [firstWith?, chain_logged, List.find?_map]
  rfl

theorem last_logged (c : Context σ α) : c.logged.last = c.last.logged := by
  simp only [last, chain_logged, List.getLast_map]

theorem resolve_logged (c : Context σ α) (cap : Capability) :
    c.logged.resolve cap = (c.resolve cap).map logged := by
  rw [resolve_eq, resolve_eq, firstWith?_logged, last_logged]
  cases c.firstWith? cap <;> rfl

/-- In the state `world` of the backends, a creation calls the create hooks `calls`, one after the
other; logging them changes nothing else. -/
def Calls (c : Context σ α) (spec : Spec) (world : σ) (calls : List (Build σ α)) : Prop :=
  ∀ log, (c.logged.create spec).run.run (world, log) =
    (((c.create spec).run.run world).1.map fun (target, shape, compiled) =>
        (target.logged, shape, compiled.beside),
      ((c.create spec).run.run world).2, log ++ calls)

section

variable {c target : Context σ α} {spec : Spec}

theorem resolve_logged_of_firstWith? (h : c.firstWith? spec.construction.capability = some target) :
    c.resolve spec.construction.capability = .ok target ∧
      c.logged.resolve spec.construction.capability = .ok target.logged := by
  have hresolve : c.resolve spec.construction.capability = .ok target := by rw [resolve_eq, h]
  rw [resolve_logged, hresolve]
  exact ⟨rfl, rfl⟩

/-- Where no context has the hook, none is called. -/
theorem calls_of_missing (h : c.firstWith? spec.construction.capability = none) (world : σ) :
    c.Calls spec world [] := by
  intro log
  rw [create, create, resolve_logged, resolve_eq, h, List.append_nil]
  rfl

/-- For a request that does not pass its checks no hook is called. -/
theorem calls_of_refused {e : Error} (h : c.firstWith? spec.construction.capability = some target)
    (hp : spec.plan = .error e) (world : σ) : c.Calls spec world [] := by
  obtain ⟨hresolve, hlogged⟩ := resolve_logged_of_firstWith? h
  intro log
  rw [create_eq hresolve, create_eq hlogged, hp, List.append_nil]
  rfl

/-- For any other request the hook of the first context that has it is called, once. -/
theorem calls_of_plan {shape : Shape} {data : IndexData}
    (h : c.firstWith? spec.construction.capability = some target)
    (hp : spec.plan = .ok (shape, data)) (world : σ) :
    c.Calls spec world [⟨target, spec.construction, target.config, shape, data⟩] := by
  obtain ⟨hresolve, hlogged⟩ := resolve_logged_of_firstWith? h
  intro log
  have hhook := target.run_loggedHead spec.construction target.config shape data world log
  have hcreate := run_create hlogged hp (world, log)
  rw [show target.logged.head = target.loggedHead from rfl,
    show target.logged.config = target.config from rfl, hhook] at hcreate
  rw [run_create hresolve hp, hcreate]
  rcases (target.head.backend.create spec.construction target.config shape data).run.run world
    with ⟨r, world'⟩
  cases r <;> rfl

end

end Context

end GatherScatter
