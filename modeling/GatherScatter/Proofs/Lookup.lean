import GatherScatter.Proofs.Session.Run
import Mathlib.Data.List.Induction
import Mathlib.Data.List.Nodup

/-!
# Which backend serves a resource

Only registrations change the registry, and a refused one does not, so the stems stay distinct. A
lookup goes through the entries in the order in which they were registered and keeps the best match.

* `Entry.Matches`, `Entry.AtLeast`, `Entry.Above`: what a match is, and which of two is better.
* `Registry.Chosen`: the entry that a resource should get.
* `Registry.lookup_spec`: the one that it gets, by induction on the entries.
* `lookup_finds_best`: the registry of every reachable session.
-/
namespace GatherScatter

namespace Entry

variable {σ α : Type}

/-- Neither the resource nor the stem is empty, and one of them is a leading part of the other. -/
def Matches (e : Entry σ α) (resource : String) : Prop :=
  resource ≠ "" ∧ e.stem ≠ "" ∧
    (e.stem.toList <+: resource.toList ∨ resource.toList <+: e.stem.toList)

/-- Bytes of the shorter one of the stem and the resource. -/
def shared (e : Entry σ α) (resource : String) : Nat :=
  min e.stem.utf8ByteSize resource.utf8ByteSize

/-- `e` shares more with the resource than `e'`, or as much under a priority number that is not
larger. -/
def AtLeast (resource : String) (e e' : Entry σ α) : Prop :=
  e'.shared resource < e.shared resource ∨
    e'.shared resource = e.shared resource ∧ e.priority ≤ e'.priority

/-- `e` shares more with the resource than `e'`, or as much under a smaller priority number. -/
def Above (resource : String) (e e' : Entry σ α) : Prop :=
  e'.shared resource < e.shared resource ∨
    e'.shared resource = e.shared resource ∧ e.priority < e'.priority

variable {resource : String} {e e' e'' : Entry σ α}

theorem AtLeast.refl (resource : String) (e : Entry σ α) : AtLeast resource e e :=
  .inr ⟨rfl, Nat.le_refl _⟩

theorem AtLeast.trans (h : AtLeast resource e e') (h' : AtLeast resource e' e'') :
    AtLeast resource e e'' := by
  unfold AtLeast at *
  omega

theorem Above.atLeast (h : Above resource e e') : AtLeast resource e e' := by
  unfold Above AtLeast at *
  omega

theorem above_of_not_atLeast (h : ¬ AtLeast resource e e') : Above resource e' e := by
  unfold Above AtLeast at *
  omega

end Entry

namespace Registry

variable {σ α : Type} {resource : String} {es : List (Entry σ α)} {e x : Entry σ α}

theorem matchLength_eq_some_iff {n : Nat} :
    matchLength resource e.stem = some n ↔ e.Matches resource ∧ n = e.shared resource := by
  have hpos : 0 < e.shared resource ↔ resource ≠ "" ∧ e.stem ≠ "" := by
    rw [Entry.shared, Nat.lt_min, Nat.pos_iff_ne_zero, Nat.pos_iff_ne_zero, ne_eq, ne_eq,
      String.utf8ByteSize_eq_zero_iff, String.utf8ByteSize_eq_zero_iff]
    exact and_comm
  have hlead : (e.stem.toList.isPrefixOf resource.toList ||
      resource.toList.isPrefixOf e.stem.toList) = true ↔
        e.stem.toList <+: resource.toList ∨ resource.toList <+: e.stem.toList := by
    rw [Bool.or_eq_true, List.isPrefixOf_iff_prefix, List.isPrefixOf_iff_prefix]
  have hlen : min resource.utf8ByteSize e.stem.utf8ByteSize = e.shared resource := Nat.min_comm _ _
  rw [matchLength, hlen, Entry.Matches, ← and_assoc, ← hpos]
  dsimp only
  split
  · rename_i hp
    split
    · rename_i hn
      rw [Option.some.injEq, eq_comm]
      exact ⟨fun h => ⟨⟨hn, hlead.1 hp⟩, h⟩, And.right⟩
    · rename_i hn
      exact ⟨nofun, fun h => absurd h.1.1 hn⟩
  · rename_i hp
    exact ⟨nofun, fun h => absurd (hlead.2 h.1.2) hp⟩

theorem matchLength_eq_none_iff :
    matchLength resource e.stem = none ↔ ¬ e.Matches resource := by
  rw [Option.eq_none_iff_forall_ne_some]
  exact ⟨fun h hm => h _ (matchLength_eq_some_iff.2 ⟨hm, rfl⟩),
    fun h n hn => h (matchLength_eq_some_iff.1 hn).1⟩

theorem atLeast_iff {e' : Entry σ α} :
    atLeast (e.shared resource) e.priority (e'.shared resource) e'.priority = true ↔
      e.AtLeast resource e' := by
  rw [atLeast, Entry.AtLeast, Bool.or_eq_true, Bool.and_eq_true, decide_eq_true_eq, beq_iff_eq,
    decide_eq_true_eq, eq_comm (a := e.shared resource)]

/-- The entry `e` matches, no other match is better, and of those that are as good it is the last
one. -/
def Chosen (resource : String) (es : List (Entry σ α)) (e : Entry σ α) : Prop :=
  e.Matches resource ∧ ∃ earlier later, es = earlier ++ e :: later ∧
    (∀ e' ∈ earlier, e'.Matches resource → e.AtLeast resource e') ∧
    ∀ e' ∈ later, e'.Matches resource → e.Above resource e'

namespace Chosen

theorem mem (h : Chosen resource es e) : e ∈ es := by
  obtain ⟨-, earlier, later, rfl, -, -⟩ := h
  exact List.mem_append_right _ List.mem_cons_self

theorem atLeast (h : Chosen resource es e) (hx : x ∈ es) (hm : x.Matches resource) :
    e.AtLeast resource x := by
  obtain ⟨-, earlier, later, rfl, hearlier, hlater⟩ := h
  rcases List.mem_append.1 hx with hx | hx
  · exact hearlier x hx hm
  · rcases List.mem_cons.1 hx with rfl | hx
    · exact .refl resource x
    · exact (hlater x hx hm).atLeast

/-- A further entry that is no match, or is not as good, changes nothing. -/
theorem concat (h : Chosen resource es e) (hx : x.Matches resource → ¬ x.AtLeast resource e) :
    Chosen resource (es ++ [x]) e := by
  obtain ⟨hm, earlier, later, rfl, hearlier, hlater⟩ := h
  refine ⟨hm, earlier, later ++ [x], by rw [List.append_assoc, List.cons_append], hearlier, ?_⟩
  intro e' he' hm'
  rcases List.mem_append.1 he' with he' | he'
  · exact hlater e' he' hm'
  · rw [List.mem_singleton] at he'
    subst he'
    exact Entry.above_of_not_atLeast (hx hm')

/-- A further match that is at least as good as all others takes over. -/
theorem last (hm : x.Matches resource)
    (h : ∀ e' ∈ es, e'.Matches resource → x.AtLeast resource e') :
    Chosen resource (es ++ [x]) x :=
  ⟨hm, es, [], rfl, h, nofun⟩

end Chosen

/-- What is known of the best match among the entries seen so far. -/
def BestSoFar (resource : String) (es : List (Entry σ α)) : Option (Nat × Entry σ α) → Prop
  | none => ∀ e ∈ es, ¬ e.Matches resource
  | some (n, e) => Chosen resource es e ∧ n = e.shared resource

theorem BestSoFar.better {best : Option (Nat × Entry σ α)} (h : BestSoFar resource es best)
    (x : Entry σ α) : BestSoFar resource (es ++ [x]) (better resource best x) := by
  unfold Registry.better
  cases hlen : matchLength resource x.stem with
  | none =>
    have hx := matchLength_eq_none_iff.1 hlen
    rcases best with _ | ⟨n, e⟩
    · intro e he
      rcases List.mem_append.1 he with he | he
      · exact h e he
      · rw [List.mem_singleton] at he
        exact he ▸ hx
    · exact ⟨h.1.concat fun hm => absurd hm hx, h.2⟩
  | some n =>
    obtain ⟨hx, rfl⟩ := matchLength_eq_some_iff.1 hlen
    rcases best with _ | ⟨n', e⟩
    · exact ⟨.last hx fun e he hm => absurd hm (h e he), rfl⟩
    · obtain ⟨he, rfl⟩ := h
      dsimp only
      split
      · rename_i hat
        rw [atLeast_iff] at hat
        exact ⟨.last hx fun e' he' hm => hat.trans (he.atLeast he' hm), rfl⟩
      · rename_i hat
        rw [atLeast_iff] at hat
        exact ⟨he.concat fun _ => hat, rfl⟩

theorem bestSoFar_foldl (resource : String) (es : List (Entry σ α)) :
    BestSoFar resource es (es.foldl (better resource) none) := by
  induction es using List.reverseRecOn with
  | nil => exact nofun
  | append_singleton es x ih =>
    rw [List.foldl_append]
    exact ih.better x

/-- A lookup fails, naming the resource, if nothing matches; otherwise it finds the best match. -/
theorem lookup_spec (r : Registry σ α) (resource : String) :
    match r.lookup resource with
    | .ok e => Chosen resource r.entries e
    | .error err => err = .unknownResource resource ∧ ∀ e ∈ r.entries, ¬ e.Matches resource := by
  have h := bestSoFar_foldl resource r.entries
  rw [lookup]
  rcases hbest : r.entries.foldl (better resource) none with _ | ⟨n, e⟩
  · rw [hbest] at h
    exact ⟨rfl, h⟩
  · rw [hbest] at h
    exact h.1

theorem register_eq (r : Registry σ α) (e : Entry σ α) :
    r.register e = if e.stem ∈ r.stems then .error (.invalidParameter (.alreadyRegistered e.stem))
      else .ok ⟨r.entries ++ [e]⟩ := by
  have hany : r.entries.any (·.stem == e.stem) = true ↔ e.stem ∈ r.stems := by
    rw [List.any_eq_true, stems, List.mem_map]
    simp only [beq_iff_eq]
  rw [register]
  by_cases h : e.stem ∈ r.stems
  · rw [if_pos (hany.2 h), if_pos h]
  · rw [if_neg (mt hany.1 h), if_neg h]

end Registry

namespace Session

variable {σ α : Type}

/-- A registration fails if the stem is taken, and then nothing has changed; otherwise it adds its
entry at the end. -/
theorem outcome_register_eq (e : Entry σ α) (s : Session σ α) :
    outcome (register e) s =
      if e.stem ∈ s.registry.stems then
        (.error (.error (.invalidParameter (.alreadyRegistered e.stem))), s)
      else (.ok (), { s with registry := ⟨s.registry.entries ++ [e]⟩ }) := by
  rw [register, outcome_bind_ok (outcome_get s), outcome_bind, outcome_ofExcept,
    Registry.register_eq]
  by_cases h : e.stem ∈ s.registry.stems
  · rw [if_pos h, if_pos h]
    rfl
  · rw [if_neg h, if_neg h]
    rfl

/-! ## What else leaves the registry alone -/

theorem registry_takeArray {β : Type} (id : Nat) (cap : Capability)
    (fetch : Compiled σ α → Effect σ β) : Keeps Session.registry (takeArray id cap fetch) :=
  (Keeps.quiet beside_registry.apart (Quiet.withCapability id cap fetch)).bind fun _ =>
    (Keeps.reads (Reads.descriptor id)).bind fun _ =>
      (Keeps.modifyDescriptor beside_registry.apart _ _).bind fun _ => Keeps.pure _

theorem registry_giveBack (root : Nat) : Keeps Session.registry (giveBack root : Act σ α Unit) :=
  Keeps.modifyDescriptor beside_registry.apart root _

theorem registry_checkout (name : String) (part : Part) (mem : MemKind) (viewName : String) :
    Keeps Session.registry (checkout name part mem viewName : Act σ α ArrayView) := by
  refine (Keeps.reads (Reads.held name)).bind fun id => ?_
  refine (registry_takeArray id _ _).bind fun taken => Keeps.get.bind fun s => ?_
  refine Keeps.bind (fun _ => rfl) fun _ => ?_
  split
  · exact (registry_giveBack _).bind fun _ => Keeps.pure _
  · exact Keeps.pure _

theorem registry_restore (viewName : String) :
    Keeps Session.registry (restore viewName : Act σ α Unit) := by
  have hview : Reads (view viewName : Act σ α ArrayView) := by
    intro s
    rw [view, outcome_bind_ok (outcome_get s)]
    cases s.views.get? viewName <;> exact ⟨_, rfl⟩
  exact (Keeps.reads hview).bind fun v => Keeps.bind (fun _ => rfl) fun _ => registry_giveBack _

variable [IntCast α]

/-- Registrations change the registry, and nothing else does. -/
theorem registry_after (s : Session σ α) (c : Call σ α) :
    (s.after c).registry = s.registry ∨
      ∃ e, e.stem ∉ s.registry.stems ∧ (s.after c).registry = ⟨s.registry.entries ++ [e]⟩ := by
  cases c with
  | register e =>
    rw [after, outcome_register_eq]
    by_cases h : e.stem ∈ s.registry.stems
    · rw [if_pos h]
      exact .inl rfl
    · rw [if_neg h]
      exact .inr ⟨e, h, rfl⟩
  | openContext limit config =>
    obtain ⟨r, world, serial, hr⟩ := outcome_openContext limit config s
    rw [after, hr]
    exact .inl rfl
  | create ctx spec name => exact .inl (Keeps.create beside_registry ctx spec name s)
  | reference name newName => exact .inl (Keeps.reference beside_registry name newName s)
  | referenceCopy src dst => exact .inl (Keeps.referenceCopy beside_registry src dst s)
  | derive name mode newName => exact .inl (Keeps.derive beside_registry name mode newName s)
  | destroy name => exact .inl (Keeps.destroy beside_registry name s)
  | drop name => exact .inl (Keeps.drop beside_registry name s)
  | checkout name part mem viewName => exact .inl (registry_checkout name part mem viewName s)
  | restore viewName => exact .inl (registry_restore viewName s)
  | pointsInElement name elem =>
    exact .inl (Keeps.quiet beside_registry.apart (.pointsInElement name elem) s)
  | maxPoints name => exact .inl (Keeps.quiet beside_registry.apart (.maxPoints name) s)
  | apply name d u v => exact .inl (Keeps.quiet beside_registry.apart (.apply name d u v) s)
  | applyBlock name block d u v =>
    exact .inl (Keeps.quiet beside_registry.apart (.applyBlock name block d u v) s)
  | applyAtPoints name elem d u v =>
    exact .inl (Keeps.quiet beside_registry.apart (.applyAtPoints name elem d u v) s)
  | multiplicity name v =>
    obtain ⟨world, hw⟩ := quiet_multiplicity name v s
    rw [after, hw]
    exact .inl rfl

/-- Distinct stems stay distinct, whatever is registered and whatever else happens. -/
theorem nodup_stems_after (s : Session σ α) (h : s.registry.stems.Nodup) (c : Call σ α) :
    (s.after c).registry.stems.Nodup := by
  obtain hsame | ⟨e, hnew, hadded⟩ := s.registry_after c
  · rw [hsame]
    exact h
  · rw [hadded, Registry.stems, List.map_append]
    refine List.nodup_append.2 ⟨h, List.nodup_singleton _, fun stem hstem stem' hstem' => ?_⟩
    have hstem' : stem' = e.stem := List.mem_singleton.1 hstem'
    rintro rfl
    exact hnew (hstem' ▸ hstem)

theorem nodup_stems_run (s : Session σ α) (h : s.registry.stems.Nodup) (calls : List (Call σ α)) :
    (s.run calls).registry.stems.Nodup := by
  induction calls generalizing s with
  | nil => exact h
  | cons c calls ih => exact ih (s.after c) (s.nodup_stems_after h c)

/-- Starting with the two backends of the library, whatever was registered since and whatever else
happened: all stems are distinct; a registration is refused exactly if its stem is taken, and
changes nothing then, and is added behind all others if not; and every resource that has a match
gets the best one, while the others are unknown. -/
theorem lookup_finds_best [Add α] [Mul α] (poison : α) (world : σ) (calls : List (Call σ α)) :
    let s := (start (Registry.builtin poison) world).run calls
    s.registry.stems.Nodup ∧
    (∀ e, outcome (register e) s =
      if e.stem ∈ s.registry.stems then
        (.error (.error (.invalidParameter (.alreadyRegistered e.stem))), s)
      else (.ok (), { s with registry := ⟨s.registry.entries ++ [e]⟩ })) ∧
    ∀ resource,
      (s.registry.lookup resource = .error (.unknownResource resource) ↔
        ∀ e ∈ s.registry.entries, ¬ e.Matches resource) ∧
      ((∃ e ∈ s.registry.entries, e.Matches resource) ↔
        ∃ e, s.registry.lookup resource = .ok e ∧
          Registry.Chosen resource s.registry.entries e) := by
  intro s
  have hstart : [Reference.stem, Memcheck.stem].Nodup := by decide
  have hnodup : s.registry.stems.Nodup := nodup_stems_run (start (.builtin poison) world) hstart calls
  refine ⟨hnodup, fun e => outcome_register_eq e s, fun resource => ?_⟩
  have hspec := s.registry.lookup_spec resource
  cases hlookup : s.registry.lookup resource with
  | ok e =>
    rw [hlookup] at hspec
    have hfound : ∃ e ∈ s.registry.entries, e.Matches resource := ⟨e, hspec.mem, hspec.1⟩
    refine ⟨⟨nofun, fun hnone => ?_⟩, fun _ => ⟨e, rfl, hspec⟩, fun _ => hfound⟩
    obtain ⟨e', he', hm⟩ := hfound
    exact absurd hm (hnone e' he')
  | error err =>
    rw [hlookup] at hspec
    obtain ⟨rfl, hnone⟩ := hspec
    refine ⟨⟨fun _ => hnone, fun _ => rfl⟩, fun ⟨e, he, hm⟩ => absurd hm (hnone e he), ?_⟩
    rintro ⟨e, he, -⟩
    cases he

-- both stems start with the resource, so the priority decides
example : ((Registry.builtin (0 : Int) : Registry Unit Int).lookup "/cpu/self").map (·.stem) =
    .ok Reference.stem := by decide

end Session

end GatherScatter
