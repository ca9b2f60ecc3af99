import GatherScatter.Proofs.Chains
import GatherScatter.Proofs.Session.Dispatch

/-!
# A journal of the hooks that run

A backend whose data write every hook that runs on them into a journal, and otherwise do what the
data of another backend do, tells what the sessions ask of that backend. The journal is a part of
the state of the backends, which the library never looks at.

* `Site.Allows`: the contract of a hook.
* `Backend.journaled`: a backend that keeps a journal; likewise `Registry.journaled`,
  `Context.journaled` and `Call.journaled`.
* `Session.journaled`: a session whose backends keep a journal.
-/
namespace GatherScatter

variable {σ α β : Type}

/-- A hook with its arguments. -/
inductive HookCall (α : Type) where
  | apply (mode : Mode) (d : Direction) (u v : Array α)
  | applyBlock (block : Nat) (mode : Mode) (d : Direction) (u v : Array α)
  | applyAtPoints (elem : Nat) (d : Direction) (u v : Array α)
  | get (part : Part) (mem : MemKind)
  | destroy

/-- Data of a backend, with the shape and the index data that they were built from. -/
structure Site (σ α : Type) where
  shape : Shape
  data : IndexData
  compiled : Compiled σ α

namespace Site

/-- Where the offsets are given at all, they are those that the data were built from. -/
def Honest (site : Site σ α) : Prop :=
  ∀ (world world' : σ) (offsets : Array Int),
    (site.compiled.offsets .host).run.run world = (.ok offsets, world') →
      ∃ given, site.data.offsets = some given ∧ offsets = given.entries

/-- What a hook of the data relies on. -/
def Allows (site : Site σ α) : HookCall α → Prop
  | .apply mode d u v =>
    site.compiled.supports mode.capability ∧ 0 < site.shape.numElem ∧
      (site.shape.sides d site.shape.eSize).2 ≤ u.size ∧
      (site.shape.sides d site.shape.eSize).1 ≤ v.size
  | .applyBlock block _ d u v =>
    site.compiled.supports .applyBlock ∧ block * site.shape.blockSize < site.shape.numElem ∧
      u.size = (site.shape.sides d site.shape.blockLen).2 ∧
      v.size = (site.shape.sides d site.shape.blockLen).1
  | .applyAtPoints elem d u v =>
    site.compiled.supports .applyAtPointsInElement ∧ site.shape.isPoints ∧
      elem < site.shape.numElem ∧
      (site.Honest → ∃ given points, site.data.offsets = some given ∧
        pointsBetween given.entries elem = .ok points ∧
        (site.shape.sides d (points * site.shape.numComp)).2 ≤ u.size ∧
        (site.shape.sides d (points * site.shape.numComp)).1 ≤ v.size)
  | .get part _ => site.compiled.supports part.capability
  | .destroy => site.compiled.supports .destroy

end Site

/-- A hook that ran on the data that were built as number `number`. -/
structure HookEvent (σ α : Type) where
  number : Nat
  site : Site σ α
  hook : HookCall α

/-- State of backends that keep a journal: their own state, how often data were built, and what ran
on them since, the latest hook last. -/
structure Journal (σ α : Type) where
  world : σ
  made : Nat := 0
  events : List (HookEvent σ α) := []

namespace Effect

/-- A computation that leaves the journal alone. -/
def inJournal (x : Effect σ β) : Effect (Journal σ α) β := do
  let j ← get
  let (r, world) := x.run.run j.world
  set { j with world := world }
  ofExcept r

/-- A computation that is written into the journal. -/
def noted (e : HookEvent σ α) (x : Effect σ β) : Effect (Journal σ α) β := do
  modify fun j => { j with events := j.events ++ [e] }
  x.inJournal

end Effect

/-! ## Backends that keep a journal -/

/-- The data, which were built as number `n`. -/
def Site.journaled (site : Site σ α) (n : Nat) : Compiled (Journal σ α) α where
  resource := site.compiled.resource
  supports := site.compiled.supports
  eLayout := site.compiled.eLayout
  apply mode d u v := (site.compiled.apply mode d u v).noted ⟨n, site, .apply mode d u v⟩
  applyBlock block mode d u v :=
    (site.compiled.applyBlock block mode d u v).noted ⟨n, site, .applyBlock block mode d u v⟩
  applyAtPoints elem d u v :=
    (site.compiled.applyAtPoints elem d u v).noted ⟨n, site, .applyAtPoints elem d u v⟩
  offsets mem := (site.compiled.offsets mem).noted ⟨n, site, .get .offsets mem⟩
  orientations mem := (site.compiled.orientations mem).noted ⟨n, site, .get .orientations mem⟩
  curlOrientations mem :=
    (site.compiled.curlOrientations mem).noted ⟨n, site, .get .curlOrientations mem⟩
  destroy := site.compiled.destroy.noted ⟨n, site, .destroy⟩

def Backend.journaled (b : Backend σ α) : Backend (Journal σ α) α where
  resource := b.resource
  supports := b.supports
  delegate := b.delegate
  fill := b.fill
  create construction config shape data := do
    let compiled ← (b.create construction config shape data).inJournal
    let j ← get
    set { j with made := j.made + 1 }
    return Site.journaled ⟨shape, data, compiled⟩ j.made

def Entry.journaled (e : Entry σ α) : Entry (Journal σ α) α where
  stem := e.stem
  priority := e.priority
  init resource := Backend.journaled <$> (e.init resource).inJournal

def Registry.journaled (r : Registry σ α) : Registry (Journal σ α) α :=
  ⟨r.entries.map Entry.journaled⟩

def Provider.journaled (p : Provider σ α) : Provider (Journal σ α) α :=
  ⟨p.config, p.backend.journaled⟩

def Chain.journaled (c : Chain σ α) : Chain (Journal σ α) α :=
  ⟨c.head.journaled, c.fallbacks.map Provider.journaled⟩

def Context.journaled (c : Context σ α) : Context (Journal σ α) α :=
  { c.toChain.journaled with serial := c.serial }

/-- The same call, in a session whose backends keep a journal. -/
def Call.journaled : Call σ α → Call (Journal σ α) α
  | .register e => .register e.journaled
  | .openContext limit config => .openContext limit config
  | .create ctx spec name => .create ctx.journaled spec name
  | .reference name newName => .reference name newName
  | .referenceCopy src dst => .referenceCopy src dst
  | .derive name mode newName => .derive name mode newName
  | .destroy name => .destroy name
  | .drop name => .drop name
  | .checkout name part mem viewName => .checkout name part mem viewName
  | .restore viewName => .restore viewName
  | .pointsInElement name elem => .pointsInElement name elem
  | .maxPoints name => .maxPoints name
  | .apply name d u v => .apply name d u v
  | .applyBlock name block d u v => .applyBlock name block d u v
  | .applyAtPoints name elem d u v => .applyAtPoints name elem d u v
  | .multiplicity name v => .multiplicity name v

/-- As which number, and from which index data, the data of a root were built. -/
structure Tag where
  number : Nat
  data : IndexData

/-- Data of the root `r` with their tag. -/
def Tag.site (tag : Tag) (r : Descriptor σ α) (c : Compiled σ α) : Site σ α :=
  ⟨r.shape, tag.data, c⟩

/-- A hook of the data of the root `r`. -/
def Tag.event (tag : Tag) (r : Descriptor σ α) (c : Compiled σ α) (hook : HookCall α) :
    HookEvent σ α := ⟨tag.number, tag.site r c, hook⟩

def Descriptor.journaled (d : Descriptor σ α) (tag : Tag) : Descriptor (Journal σ α) α where
  context := d.context.journaled
  shape := d.shape
  eLayout := d.eLayout
  mode := d.mode
  ancestors := d.ancestors
  refCount := d.refCount
  readers := d.readers
  data := d.data.map fun c => (tag.site d c).journaled tag.number

theorem Descriptor.data_journaled {d : Descriptor σ α} {c : Compiled σ α} (h : d.data = some c)
    (tag : Tag) : (d.journaled tag).data = some ((tag.site d c).journaled tag.number) := by
  rw [journaled, h, Option.map_some]

theorem Descriptor.data_journaled_none {d : Descriptor σ α} (h : d.data = none) (tag : Tag) :
    (d.journaled tag).data = none := by
  rw [journaled, h, Option.map_none]

/-- The session `s` with a journal; `tags` are the tags of its roots. -/
def Session.journaled (s : Session σ α) (tags : Nat → Tag) (made : Nat)
    (events : List (HookEvent σ α)) : Session (Journal σ α) α where
  registry := s.registry.journaled
  world := ⟨s.world, made, events⟩
  nextSerial := s.nextSerial
  table := s.table.mapIdx fun id d => d.journaled (tags id)
  handles := s.handles
  views := s.views

/-! ## What a journal does not change -/

namespace Effect

variable {γ γ' : Type}

theorem run_inJournal (x : Effect σ β) (j : Journal σ α) :
    x.inJournal.run.run j = ((x.run.run j.world).1, { j with world := (x.run.run j.world).2 }) :=
  rfl

/-- `y` does what `x` does, with results seen through `f`, and leaves the journal alone. -/
def Mutes (x : Effect σ β) (f : β → γ) (y : Effect (Journal σ α) γ) : Prop :=
  ∀ j, y.run.run j = ((x.run.run j.world).1.map f, { j with world := (x.run.run j.world).2 })

/-- `y` does what `x` does, and `e` is written into the journal. -/
def Notes (x : Effect σ β) (e : HookEvent σ α) (y : Effect (Journal σ α) β) : Prop :=
  ∀ j, y.run.run j = ((x.run.run j.world).1,
    { j with world := (x.run.run j.world).2, events := j.events ++ [e] })

theorem notes_noted (x : Effect σ β) (e : HookEvent σ α) : x.Notes e (x.noted e) := fun _ => rfl

theorem Notes.map {x : Effect σ β} {e : HookEvent σ α} {y : Effect (Journal σ α) β}
    (h : x.Notes e y) (f : β → γ) : (f <$> x).Notes e (f <$> y) := by
  intro j
  rw [map_eq_pure_bind, map_eq_pure_bind, run_bind, run_bind, h j]
  rcases x.run.run j.world with ⟨r, world⟩
  cases r <;> rfl

namespace Mutes

theorem inJournal (x : Effect σ β) (f : β → γ) :
    x.Mutes f (f <$> x.inJournal : Effect (Journal σ α) γ) := by
  intro j
  rw [map_eq_pure_bind, run_bind, run_inJournal]
  cases (x.run.run j.world).1 <;> rfl

theorem ofExcept {r : Except Error β} {f : β → γ} {r' : Except Error γ} (h : r' = r.map f) :
    (Effect.ofExcept r : Effect σ β).Mutes f (Effect.ofExcept r' : Effect (Journal σ α) γ) := by
  subst h
  exact fun _ => rfl

theorem bind {x : Effect σ β} {f : β → γ} {y : Effect (Journal σ α) γ} {β' : Type}
    {k : β → Effect σ β'} {g : β' → γ'} {k' : γ → Effect (Journal σ α) γ'} (hx : x.Mutes f y)
    (hk : ∀ b, (k b).Mutes g (k' (f b))) : (x >>= k).Mutes g (y >>= k') := by
  intro j
  rw [run_bind, run_bind, hx j]
  rcases x.run.run j.world with ⟨r, world⟩
  cases r with
  | error e => rfl
  | ok b => exact hk b { j with world := world }

end Mutes

end Effect

/-- The hook that gives an array is written into the journal. -/
theorem Part.fetch_notes (part : Part) (mem : MemKind) (site : Site σ α) (n : Nat) :
    (part.fetch mem site.compiled).Notes ⟨n, site, .get part mem⟩
      (part.fetch mem (site.journaled n)) := by
  cases part <;> exact (Effect.notes_noted _ _).map _

/-- The data are built as number `made`. -/
theorem Backend.run_create_journaled (b : Backend σ α) (construction : Construction)
    (config : Config) (shape : Shape) (data : IndexData) (world : σ) (made : Nat)
    (events : List (HookEvent σ α)) :
    (b.journaled.create construction config shape data).run.run ⟨world, made, events⟩ =
      match (b.create construction config shape data).run.run world with
      | (.ok c, world') =>
        (.ok (Site.journaled ⟨shape, data, c⟩ made), ⟨world', made + 1, events⟩)
      | (.error e, world') => (.error e, ⟨world', made, events⟩) := by
  change ((b.create construction config shape data).inJournal >>= _).run.run _ = _
  rw [Effect.run_bind, Effect.run_inJournal]
  dsimp only
  rcases (b.create construction config shape data).run.run world with ⟨r, world'⟩
  cases r <;> rfl

namespace Registry

theorem register_journaled (r : Registry σ α) (e : Entry σ α) :
    r.journaled.register e.journaled = (r.register e).map Registry.journaled := by
  have hany : r.journaled.entries.any (·.stem == e.stem) = r.entries.any (·.stem == e.stem) := by
    rw [journaled, List.any_map]
    rfl
  rw [register, register]
  change (if r.journaled.entries.any (·.stem == e.stem) then _ else _) = _
  rw [hany]
  split
  · rfl
  · rw [Except.map, journaled, journaled, List.map_append]
    rfl

theorem better_journaled (resource : String) (best : Option (Nat × Entry σ α)) (e : Entry σ α) :
    better resource (best.map (Prod.map id Entry.journaled)) e.journaled =
      (better resource best e).map (Prod.map id Entry.journaled) := by
  have hstem : e.journaled.stem = e.stem := rfl
  unfold better
  rw [hstem]
  cases matchLength resource e.stem with
  | none => rfl
  | some n =>
    rcases best with _ | ⟨n', e'⟩
    · rfl
    · change (if atLeast n e.priority n' e'.priority then some (n, e.journaled)
        else some (n', e'.journaled)) =
          (if atLeast n e.priority n' e'.priority then some (n, e) else some (n', e')).map _
      split <;> rfl

theorem foldl_better_journaled (resource : String) (es : List (Entry σ α))
    (best : Option (Nat × Entry σ α)) :
    (es.map Entry.journaled).foldl (better resource) (best.map (Prod.map id Entry.journaled)) =
      (es.foldl (better resource) best).map (Prod.map id Entry.journaled) := by
  induction es generalizing best with
  | nil => rfl
  | cons e es ih => rw [List.map_cons, List.foldl_cons, List.foldl_cons, better_journaled, ih]

theorem lookup_journaled (r : Registry σ α) (resource : String) :
    r.journaled.lookup resource = (r.lookup resource).map Entry.journaled := by
  have hfold : r.journaled.entries.foldl (better resource) none =
      (r.entries.foldl (better resource) none).map (Prod.map id Entry.journaled) :=
    foldl_better_journaled resource r.entries none
  rw [lookup, lookup, hfold]
  rcases r.entries.foldl (better resource) none with _ | ⟨n, e⟩ <;> rfl

/-- Opening a chain of contexts, by induction on how long it may be. -/
theorem openWithin_mutes (r : Registry σ α) (limit : Nat) (config : Config) :
    (r.openWithin limit config).Mutes (Option.map Chain.journaled)
      (r.journaled.openWithin limit config) := by
  induction limit generalizing config with
  | zero => exact .ofExcept rfl
  | succ limit ih =>
    refine .bind (.ofExcept (r.lookup_journaled config.resource)) fun entry => ?_
    refine .bind (.inJournal _ Backend.journaled) fun backend => ?_
    have hdelegate : backend.journaled.delegate = backend.delegate := rfl
    rw [hdelegate]
    cases backend.delegate with
    | none => exact .ofExcept rfl
    | some resource =>
      dsimp only
      split
      · exact fun _ => rfl
      · refine .bind (ih _) fun rest => .ofExcept (congrArg Except.ok ?_)
        cases rest <;> rfl

end Registry

namespace Context

theorem resolveFrom_journaled (c : Capability) (serial : Nat) (p : Provider σ α)
    (rest : List (Provider σ α)) :
    resolveFrom c serial p.journaled (rest.map Provider.journaled) =
      (resolveFrom c serial p rest).map Context.journaled := by
  induction rest generalizing serial p with
  | nil =>
    rw [List.map_nil, resolveFrom, resolveFrom]
    change (if p.backend.supports c then _ else _) = _
    split <;> rfl
  | cons q rest ih =>
    rw [List.map_cons, resolveFrom, resolveFrom, ih]
    change (if p.backend.supports c then _ else _) = _
    split <;> rfl

/-- Once the context is found and the request is planned, creation is up to the backend. -/
theorem run_create {ctx target : Context σ α} {spec : Spec} {shape : Shape} {data : IndexData}
    (hr : ctx.resolve spec.construction.capability = .ok target)
    (hp : spec.plan = .ok (shape, data)) (world : σ) :
    (ctx.create spec).run.run world =
      match (target.head.backend.create spec.construction target.config shape data).run.run
        world with
      | (.ok c, world') => (.ok (target, shape, c), world')
      | (.error e, world') => (.error e, world') := by
  rw [create_eq hr, hp]
  change (target.head.backend.create spec.construction target.config shape data >>=
    fun c => pure (target, shape, c) : Effect σ _).run.run world = _
  rw [Effect.run_bind]
  rcases (target.head.backend.create spec.construction target.config shape data).run.run world
    with ⟨r, world'⟩
  cases r <;> rfl

/-- Creation, where the next data to be built have the number `made`. -/
theorem run_create_journaled (ctx : Context σ α) (spec : Spec) (world : σ) (made : Nat)
    (events : List (HookEvent σ α)) :
    match (ctx.create spec).run.run world with
    | (.ok (target, shape, c), world') => ∃ data, spec.plan = .ok (shape, data) ∧
        (ctx.journaled.create spec).run.run ⟨world, made, events⟩ =
          (.ok (target.journaled, shape, Site.journaled ⟨shape, data, c⟩ made),
            ⟨world', made + 1, events⟩)
    | (.error e, world') => (ctx.journaled.create spec).run.run ⟨world, made, events⟩ =
        (.error e, ⟨world', made, events⟩) := by
  have hres : ctx.journaled.resolve spec.construction.capability =
      (ctx.resolve spec.construction.capability).map journaled :=
    resolveFrom_journaled _ _ _ _
  cases hr : ctx.resolve spec.construction.capability with
  | error e =>
    rw [hr] at hres
    rw [create, create, hr, hres]
    rfl
  | ok target =>
    rw [hr] at hres
    cases hp : spec.plan with
    | error e =>
      rw [create, create, hr, hres, hp]
      rfl
    | ok planned =>
      obtain ⟨shape, data⟩ := planned
      have hbuild := target.head.backend.run_create_journaled spec.construction target.config shape
        data world made events
      have hjournaled := run_create hres hp ⟨world, made, events⟩
      have hbackend : target.journaled.head.backend = target.head.backend.journaled := rfl
      have hconfig : target.journaled.config = target.config := rfl
      rw [hbackend, hconfig, hbuild] at hjournaled
      rw [run_create hr hp, hjournaled]
      rcases (target.head.backend.create spec.construction target.config shape data).run.run world
        with ⟨r, world'⟩
      cases r with
      | error e => rfl
      | ok c => exact ⟨data, rfl, rfl⟩

end Context

end GatherScatter
