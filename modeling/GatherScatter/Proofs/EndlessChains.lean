import GatherScatter.Proofs.Chains
import GatherScatter.Proofs.Lookup
import Mathlib.Data.Finset.Card

/-!
# Chains of delegates that never end

Opening a context opens its delegate, and so on. A backend that names its own resource is refused;
nothing else keeps the chain from going on. `Registry.openWithin` opens so many contexts at most, so
a chain that never ends is one that goes on whatever this limit is.

* `Registry.first_eq`, `Registry.run_openWithin_succ`: opening one context, and going on.
* `Registry.reached`: with which settings, and in which state of the backends, the contexts of a
  chain are opened, one after the other.
* `Registry.Endless`: there is always a next one.
* `Registry.openWithin_of_reached`, `Registry.exists_settled`: a chain that goes on at the limit,
  and one that ends before.
* `opening_ends_iff`: opening a context comes to an end exactly if its chain is not endless.
* `Registry.endless_of_repeat`: coming back to where one was is one way to be endless.
* `Registry.Fixed.endless_iff`, `ends_iff_of_fixed`: if the entries alone say which delegates are
  named, it is the only one, and as many contexts as there are entries, and one more, tell.
-/
namespace GatherScatter

namespace Registry

variable {σ α : Type} (r : Registry σ α)

/-- Opens one context without its delegate, which is only named. -/
def openFirst (config : Config) : Effect σ (Provider σ α × Option String) := do
  let entry ← Effect.ofExcept (r.lookup config.resource)
  let backend ← entry.init config.resource
  if backend.delegate = some config.resource then throw (.backend (.selfDelegate config.resource))
  else return (⟨config, backend⟩, backend.delegate)

/-- What opening one context gives, and the state that it leaves. -/
def first (config : Config) (world : σ) : Except Error (Provider σ α × Option String) × σ :=
  (r.openFirst config).run.run world

/-- Settings and state for the next context of the chain, if a delegate is named. -/
def next (config : Config) (world : σ) : Option (Config × σ) :=
  match r.first config world with
  | (.ok (_, some resource), world') => some ({ config with resource := resource }, world')
  | _ => none

/-- Settings and state for context `n` of the chain, if it is as long as that. -/
def reached (config : Config) (world : σ) : Nat → Option (Config × σ)
  | 0 => some (config, world)
  | n + 1 => (r.next config world).bind fun x => reached x.1 x.2 n

/-- Every context of the chain names a further one. -/
def Endless (config : Config) (world : σ) : Prop := ∀ n, (r.reached config world n).isSome

variable {r} {config : Config} {world : σ}

theorem first_eq_error {e : Error} (h : r.lookup config.resource = .error e) :
    r.first config world = (.error e, world) := by
  rw [first, openFirst, h]
  rfl

/-- What the backend of the entry that was found leaves, unless it names itself. -/
theorem first_eq {entry : Entry σ α} (h : r.lookup config.resource = .ok entry) :
    r.first config world =
      match (entry.init config.resource).run.run world with
      | (.error e, world') => (.error e, world')
      | (.ok backend, world') =>
        if backend.delegate = some config.resource then
          (.error (.backend (.selfDelegate config.resource)), world')
        else (.ok (⟨config, backend⟩, backend.delegate), world') := by
  rw [first, openFirst, h, Effect.run_bind, Effect.run_ofExcept]
  dsimp only
  rw [Effect.run_bind]
  rcases (entry.init config.resource).run.run world with ⟨e | backend, world'⟩
  · rfl
  · dsimp only
    split <;> rfl

/-- Opening a chain is opening its first context and then the chain of the delegate. -/
theorem run_openWithin_succ (limit : Nat) :
    (r.openWithin (limit + 1) config).run.run world =
      match r.first config world with
      | (.error e, world') => (.error e, world')
      | (.ok (p, none), world') => (.ok (some ⟨p, []⟩), world')
      | (.ok (p, some resource), world') =>
        match (r.openWithin limit { config with resource := resource }).run.run world' with
        | (.error e, world'') => (.error e, world'')
        | (.ok rest, world'') => (.ok (rest.map (.cons p)), world'') := by
  rw [openWithin]
  cases hlookup : r.lookup config.resource with
  | error e =>
    rw [first_eq_error hlookup]
    rfl
  | ok entry =>
    rw [first_eq hlookup, Effect.run_bind, Effect.run_ofExcept]
    dsimp only
    rw [Effect.run_bind]
    rcases (entry.init config.resource).run.run world with ⟨e | backend, world'⟩
    · rfl
    · dsimp only
      rcases backend.delegate with _ | resource
      · rfl
      · dsimp only
        by_cases hself : resource = config.resource
        · rw [if_pos hself, if_pos (congrArg some hself), hself]
          rfl
        · rw [if_neg hself, if_neg (mt Option.some.inj hself), Effect.run_bind]
          dsimp only
          rcases (r.openWithin limit { config with resource := resource }).run.run world' with
            ⟨e | rest, world''⟩ <;> rfl

theorem exists_first_of_next {x : Config × σ} (h : r.next config world = some x) :
    ∃ p resource, r.first config world = (.ok (p, some resource), x.2) ∧
      x.1 = { config with resource := resource } := by
  rw [next] at h
  split at h
  · rename_i p resource world' hfirst
    cases h
    exact ⟨p, resource, hfirst, rfl⟩
  · cases h

/-- A chain that goes on at the limit gives no context. -/
theorem openWithin_of_reached {limit : Nat} {x : Config × σ}
    (h : r.reached config world limit = some x) :
    (r.openWithin limit config).run.run world = (.ok none, x.2) := by
  induction limit generalizing config world with
  | zero =>
    cases h
    rfl
  | succ limit ih =>
    obtain ⟨y, hnext, h⟩ := Option.bind_eq_some_iff.1 h
    obtain ⟨p, resource, hfirst, hy⟩ := exists_first_of_next hnext
    rw [run_openWithin_succ, hfirst]
    dsimp only
    rw [← hy, ih h]
    rfl

variable (r config world) in
/-- From a limit of `n` contexts on, opening a chain gives `result`, and this is a chain of `n`
contexts or an error. -/
structure Settled (n : Nat) (result : Except Error (Chain σ α)) (world' : σ) : Prop where
  run_eq : ∀ limit, n ≤ limit →
    (r.openWithin limit config).run.run world = (result.map some, world')
  length_eq : ∀ chain, result = .ok chain → chain.toList.length = n

/-- A chain that ends gives its contexts or an error, by induction on its length. -/
theorem exists_settled {n : Nat} (hn : (r.reached config world n).isSome)
    (hend : r.reached config world (n + 1) = none) :
    ∃ result world', r.Settled config world (n + 1) result world' := by
  induction n generalizing config world with
  | zero =>
    rw [reached] at hend
    rcases hfirst : r.first config world with ⟨result, world'⟩
    rcases result with e | ⟨p, delegate⟩
    · refine ⟨.error e, world', fun limit hlimit => ?_, nofun⟩
      obtain ⟨m, rfl⟩ := Nat.exists_eq_add_of_le' hlimit
      rw [run_openWithin_succ, hfirst]
      rfl
    · rcases delegate with _ | resource
      · refine ⟨.ok ⟨p, []⟩, world', fun limit hlimit => ?_, ?_⟩
        · obtain ⟨m, rfl⟩ := Nat.exists_eq_add_of_le' hlimit
          rw [run_openWithin_succ, hfirst]
          rfl
        · rintro chain ⟨⟩
          rfl
      · rw [next, hfirst] at hend
        cases hend
  | succ n ih =>
    rw [reached] at hn hend
    cases hnext : r.next config world with
    | none =>
      rw [hnext] at hn
      cases hn
    | some x =>
      rw [hnext] at hn hend
      obtain ⟨result, world', hrest⟩ := ih hn hend
      obtain ⟨p, resource, hfirst, hx⟩ := exists_first_of_next hnext
      refine ⟨result.map (.cons p), world', fun limit hlimit => ?_, ?_⟩
      · obtain ⟨m, rfl⟩ := Nat.exists_eq_add_of_le' hlimit
        have hm : n + 1 ≤ m + (n + 1) := Nat.le_add_left _ _
        rw [← Nat.add_assoc, run_openWithin_succ, hfirst]
        dsimp only
        rw [← hx, hrest.run_eq _ hm]
        cases result <;> rfl
      · intro chain hchain
        cases result with
        | error e => cases hchain
        | ok rest =>
          cases hchain
          exact congrArg Nat.succ (hrest.length_eq rest rfl)

/-- The same for a chain of which no more is known than that it is shorter than `m` contexts. -/
theorem exists_settled_le {m : Nat} (h : r.reached config world m = none) :
    ∃ n ≤ m, ∃ result world', r.Settled config world n result world' := by
  induction m with
  | zero => cases h
  | succ m ih =>
    cases hprev : r.reached config world m with
    | none =>
      obtain ⟨n, hn, hsettled⟩ := ih hprev
      exact ⟨n, Nat.le_succ_of_le hn, hsettled⟩
    | some x => exact ⟨m + 1, Nat.le_refl _, exists_settled (hprev ▸ rfl) h⟩

/-! ## Coming back to where one was -/

theorem reached_add (n m : Nat) :
    r.reached config world (n + m) =
      (r.reached config world n).bind fun x => r.reached x.1 x.2 m := by
  induction n generalizing config world with
  | zero => rw [Nat.zero_add, reached, Option.bind_some]
  | succ n ih =>
    rw [Nat.add_right_comm, reached, reached, Option.bind_assoc]
    simp only [ih]

theorem reached_of_le {n m : Nat} (hle : n ≤ m) (h : (r.reached config world m).isSome) :
    (r.reached config world n).isSome := by
  obtain ⟨k, rfl⟩ := Nat.exists_eq_add_of_le hle
  rw [reached_add] at h
  cases hn : r.reached config world n with
  | none =>
    rw [hn] at h
    cases h
  | some x => rfl

/-- A chain that comes back to settings and a state in which it was never ends. -/
theorem endless_of_repeat {n k : Nat} {x : Config × σ} (hk : 0 < k)
    (hn : r.reached config world n = some x) (hnk : r.reached config world (n + k) = some x) :
    r.Endless config world := by
  have hround : r.reached x.1 x.2 k = some x := by
    rwa [reached_add, hn, Option.bind_some] at hnk
  -- any number of rounds
  have hrounds (m : Nat) : r.reached x.1 x.2 (k * m) = some x := by
    induction m with
    | zero => rfl
    | succ m ih => rw [Nat.mul_succ, reached_add, ih, Option.bind_some, hround]
  intro m
  have hm : (r.reached config world (n + k * m)).isSome := by
    rw [reached_add, hn, Option.bind_some, hrounds]
    rfl
  exact reached_of_le (Nat.le_add_left_of_le (Nat.le_mul_of_pos_left m hk)) hm

/-! ## Fixed delegates -/

/-- Opening a context leaves the state of the backends alone, and the delegate that is named depends
on the entry alone. -/
def Fixed (r : Registry σ α) (delegate : Entry σ α → Option String) : Prop :=
  ∀ e ∈ r.entries, ∀ resource world backend world',
    (e.init resource).run.run world = (.ok backend, world') →
      backend.delegate = delegate e ∧ world' = world

namespace Fixed

variable {delegate : Entry σ α → Option String}

theorem exists_name_of_next (h : r.Fixed delegate) {x : Config × σ}
    (hnext : r.next config world = some x) :
    ∃ resource ∈ r.entries.filterMap delegate,
      x = ({ config with resource := resource }, world) := by
  obtain ⟨p, resource, hfirst, hx⟩ := exists_first_of_next hnext
  have hspec := r.lookup_spec config.resource
  cases hlookup : r.lookup config.resource with
  | error e =>
    rw [first_eq_error hlookup] at hfirst
    cases hfirst
  | ok entry =>
    rw [hlookup] at hspec
    rw [first_eq hlookup] at hfirst
    rcases hinit : (entry.init config.resource).run.run world with ⟨e | backend, world'⟩
    · rw [hinit] at hfirst
      cases hfirst
    · obtain ⟨hdelegate, rfl⟩ := h entry hspec.mem _ _ _ _ hinit
      rw [hinit] at hfirst
      dsimp only at hfirst
      split at hfirst
      · cases hfirst
      · obtain ⟨hok, hworld⟩ := Prod.mk.inj hfirst
        obtain ⟨-, hnamed⟩ := Prod.mk.inj (Except.ok.inj hok)
        refine ⟨resource, List.mem_filterMap.2 ⟨entry, hspec.mem, hdelegate ▸ hnamed⟩, ?_⟩
        exact Prod.ext hx hworld.symm

theorem exists_name_of_reached (h : r.Fixed delegate) {n : Nat} {x : Config × σ}
    (hn : r.reached config world (n + 1) = some x) :
    ∃ resource ∈ r.entries.filterMap delegate,
      x = ({ config with resource := resource }, world) := by
  induction n generalizing config with
  | zero =>
    obtain ⟨y, hnext, hy⟩ := Option.bind_eq_some_iff.1 hn
    cases hy
    exact h.exists_name_of_next hnext
  | succ n ih =>
    obtain ⟨y, hnext, hy⟩ := Option.bind_eq_some_iff.1 hn
    obtain ⟨resource, -, rfl⟩ := h.exists_name_of_next hnext
    exact @ih { config with resource := resource } hy

/-- Fixed delegates are endless if one context more is opened than there are entries: then one of
their names has come twice. -/
theorem endless_iff (h : r.Fixed delegate) :
    r.Endless config world ↔ (r.reached config world (r.entries.length + 1)).isSome := by
  classical
  refine ⟨fun hendless => hendless _, fun hlast => ?_⟩
  set names := r.entries.filterMap delegate
  let named (resource : String) : Option (Config × σ) :=
    some ({ config with resource := resource }, world)
  -- more contexts than names
  have hcard : ((names.map named).toFinset).card < (Finset.range (r.entries.length + 1)).card := by
    rw [Finset.card_range, Nat.lt_succ_iff]
    calc ((names.map named).toFinset).card ≤ (names.map named).length := List.toFinset_card_le _
      _ = names.length := List.length_map _
      _ ≤ r.entries.length := List.length_filterMap_le _ _
  have hmaps : ∀ n ∈ Finset.range (r.entries.length + 1),
      r.reached config world (n + 1) ∈ (names.map named).toFinset := by
    intro n hn
    rw [Finset.mem_range] at hn
    obtain ⟨x, hx⟩ := Option.isSome_iff_exists.1 (reached_of_le (Nat.succ_le_of_lt hn) hlast)
    obtain ⟨resource, hmem, rfl⟩ := h.exists_name_of_reached hx
    rw [hx, List.mem_toFinset]
    exact List.mem_map_of_mem hmem
  have hcycle : ∀ n m, n < m → n < r.entries.length + 1 →
      r.reached config world (n + 1) = r.reached config world (m + 1) →
        r.Endless config world := by
    intro n m hlt hn heq
    obtain ⟨x, hx⟩ := Option.isSome_iff_exists.1 (reached_of_le (Nat.succ_le_of_lt hn) hlast)
    obtain ⟨k, rfl⟩ := Nat.exists_eq_add_of_lt hlt
    refine endless_of_repeat k.succ_pos hx ?_
    rw [← hx, heq]
    congr 1
    omega
  obtain ⟨n, hn, m, hm, hne, heq⟩ := Finset.exists_ne_map_eq_of_card_lt_of_maps_to hcard hmaps
  rw [Finset.mem_range] at hn hm
  rcases Nat.lt_or_gt_of_ne hne with hlt | hlt
  · exact hcycle n m hlt hn heq
  · exact hcycle m n hlt hm heq.symm

end Fixed

end Registry

namespace Session

variable {σ α : Type}

theorem outcome_openContext_eq (limit : Nat) (config : Config) (s : Session σ α) :
    outcome (openContext limit config) s =
      match (s.registry.openWithin limit config).run.run s.world with
      | (.error e, world) => (.error (.error e), { s with world := world })
      | (.ok none, world) => (.ok none, { s with world := world })
      | (.ok (some chain), world) => (.ok (some ⟨chain, s.nextSerial⟩), { s with
          world := world
          nextSerial := s.nextSerial + chain.toList.length }) := by
  rw [openContext, outcome_bind_ok (outcome_get s), outcome_bind, outcome_effect]
  rcases (s.registry.openWithin limit config).run.run s.world with ⟨r, world⟩
  rcases r with e | _ | chain <;> rfl

theorem length_chainFrom (serial : Nat) (p : Provider σ α) (rest : List (Provider σ α)) :
    (Context.chainFrom serial p rest).length = rest.length + 1 := by
  induction rest generalizing serial p with
  | nil => rfl
  | cons q rest ih => rw [Context.chainFrom, List.length_cons, ih, List.length_cons]

/-- From a limit of `n` contexts on, opening a context always gives the same: an error, or a context
with a chain of `n` contexts. -/
def EndsWithin (s : Session σ α) (config : Config) (n : Nat) : Prop :=
  ∃ (result : Except Error (Context σ α)) (s' : Session σ α),
    (∀ ctx, result = .ok ctx → ctx.chain.length = n) ∧
    ∀ limit, n ≤ limit → outcome (openContext limit config) s = (lift (result.map some), s')

/-- Opening a context comes to an end. -/
def Ends (s : Session σ α) (config : Config) : Prop := ∃ n, s.EndsWithin config n

variable {s : Session σ α} {config : Config}

theorem openContext_of_endless (h : s.registry.Endless config s.world) (limit : Nat) :
    (outcome (openContext limit config) s).1 = .ok none := by
  obtain ⟨x, hx⟩ := Option.isSome_iff_exists.1 (h limit)
  rw [outcome_openContext_eq, Registry.openWithin_of_reached hx]

/-- A chain that is shorter than `m` contexts is opened with a limit of `m`. -/
theorem endsWithin_of_reached {m : Nat} (h : s.registry.reached config s.world m = none) :
    ∃ n ≤ m, s.EndsWithin config n := by
  obtain ⟨n, hn, result, world, hsettled⟩ := Registry.exists_settled_le h
  refine ⟨n, hn, ?_⟩
  cases result with
  | error e =>
    refine ⟨.error e, { s with world := world }, nofun, fun limit hlimit => ?_⟩
    rw [outcome_openContext_eq, hsettled.run_eq limit hlimit]
    rfl
  | ok chain =>
    refine ⟨.ok ⟨chain, s.nextSerial⟩, { s with
      world := world
      nextSerial := s.nextSerial + chain.toList.length }, ?_, fun limit hlimit => ?_⟩
    · rintro ctx ⟨⟩
      exact (length_chainFrom _ _ _).trans (hsettled.length_eq chain rfl)
    · rw [outcome_openContext_eq, hsettled.run_eq limit hlimit]
      rfl

theorem EndsWithin.openContext_ne {n : Nat} (h : s.EndsWithin config n) {limit : Nat}
    (hlimit : n ≤ limit) : (outcome (openContext limit config) s).1 ≠ .ok none := by
  obtain ⟨result, s', -, hall⟩ := h
  rw [hall limit hlimit]
  cases result <;> exact nofun

theorem ends_iff : s.Ends config ↔ ¬ s.registry.Endless config s.world := by
  constructor
  · rintro ⟨n, hn⟩ hendless
    exact hn.openContext_ne (Nat.le_refl n) (openContext_of_endless hendless n)
  · intro h
    obtain ⟨m, hm⟩ := Classical.not_forall.1 h
    obtain ⟨n, -, hn⟩ := endsWithin_of_reached (Option.not_isSome_iff_eq_none.1 hm)
    exact ⟨n, hn⟩

/-- If all delegates are fixed, one limit is enough to tell whether opening a context ends. -/
theorem ends_iff_of_fixed {delegate : Entry σ α → Option String} (h : s.registry.Fixed delegate) :
    s.Ends config ↔
      (outcome (openContext (s.registry.entries.length + 1) config) s).1 ≠ .ok none := by
  rw [ends_iff, h.endless_iff, Option.not_isSome_iff_eq_none]
  refine ⟨fun hnone => ?_, fun hne => ?_⟩
  · obtain ⟨n, hle, hn⟩ := endsWithin_of_reached hnone
    exact hn.openContext_ne hle
  · by_contra hsome
    rw [← Option.not_isSome_iff_eq_none, not_not, ← h.endless_iff] at hsome
    exact hne (openContext_of_endless hsome _)

/-- Opening a context comes to an end, with a context or an error after finitely many contexts, if
and only if its chain of delegates does; otherwise every limit is passed. Every registry and all
backends are allowed for, so a delegate may depend on the resource that its backend was asked for
and on what happened before. -/
theorem opening_ends_iff (s : Session σ α) (config : Config) :
    (s.Ends config ↔ ¬ s.registry.Endless config s.world) ∧
    (s.registry.Endless config s.world ↔
      ∀ limit, (outcome (openContext limit config) s).1 = .ok none) := by
  refine ⟨ends_iff, openContext_of_endless, fun h => ?_⟩
  by_contra hnot
  obtain ⟨n, hn⟩ := ends_iff.2 hnot
  exact hn.openContext_ne (Nat.le_refl n) (h n)

/-- Two backends that name each other are registered, and neither names itself: a context of one of
them is never opened, and no error is given. -/
theorem mutual_delegates_never_end :
    let relay (stem delegate : String) : Entry Unit Int :=
      ⟨stem, 10, fun resource =>
        pure { Memcheck.backend 0 resource with delegate := some delegate }⟩
    let s : Session Unit Int := (start (Registry.builtin 0) ()).run
      [.register (relay "/test/a" "/test/b"), .register (relay "/test/b" "/test/a")]
    ¬ s.Ends { resource := "/test/a" } := by
  intro relay s hends
  have hback : s.registry.reached { resource := "/test/a" } () 2 =
      some ({ resource := "/test/a" }, ()) := by decide +kernel
  exact ends_iff.1 hends (Registry.endless_of_repeat (n := 0) Nat.two_pos rfl hback)

end Session

end GatherScatter
