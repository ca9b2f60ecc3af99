import GatherScatter.Proofs.Creation.Coherent
import GatherScatter.Proofs.Hooks.Handles

/-!
# Applies, queries and the journal

An operation that finds data through a handle runs one of their hooks at most, and a second one only
where it asks the offsets first. What it checked before is what the hook relies on.

* `Ledger.withCapability`: a hook that runs under a capability.
* `Ledger.applyAt`, `Ledger.applyBlock`, `Ledger.applyAtPoints`, `Ledger.withOffsets`,
  `Ledger.checkout`, `Ledger.multiplicity`: one for each place where hooks are run.
-/
namespace GatherScatter.Session

variable {σ α β γ : Type}

/-- What is left of the offsets where an operation asked them. -/
theorem Finds.withOffsets_eq_ok {s s' : Session σ α} {name : String} {id : Nat}
    {d r : Descriptor σ α} {c : Compiled σ α} (hf : s.Finds name id d r c)
    {f : Array Int → Except Error β} {b : β} (h : outcome (withOffsets id f) s = (.ok b, s')) :
    ∃ offsets world, (c.offsets .host).run.run s.world = (.ok offsets, world) ∧
      f offsets = .ok b ∧ s' = { s with world := world } := by
  rw [hf.outcome_withOffsets, hf.outcome_withCapability] at h
  split at h
  · rename_i offsets s₁ hx
    split at hx
    · rw [outcome_effect] at hx
      rcases hrun : (c.offsets .host).run.run s.world with ⟨r, world⟩
      rw [hrun] at hx
      cases r with
      | error e => cases hx
      | ok offsets =>
        cases hx
        cases hb : f offsets with
        | error e => rw [hb] at h; cases h
        | ok b' =>
          rw [hb] at h
          cases h
          exact ⟨offsets, world, rfl, hb, rfl⟩
    · cases hx
  · cases h

/-- The lengths that follow from the offsets are those of the contract, if the offsets are the ones
that the data were built from. -/
theorem allows_applyAtPoints {r : Descriptor σ α} {c : Compiled σ α} {elem points : Nat}
    {d : Direction} {u v : Array α} {offsets : Array Int} {world world' : σ} (tag : Tag)
    (hp : r.shape.isPoints) (he : ¬ r.shape.numElem ≤ elem)
    (hrun : (c.offsets .host).run.run world = (.ok offsets, world'))
    (hpoints : pointsBetween offsets elem = .ok points)
    (hlen : (r.shape.sides d (points * r.shape.numComp)).2 ≤ u.size ∧
      (r.shape.sides d (points * r.shape.numComp)).1 ≤ v.size)
    (hc : c.supports .applyAtPointsInElement) :
    (tag.site r c).Allows (.applyAtPoints elem d u v) := by
  refine ⟨hc, hp, Nat.lt_of_not_le he, fun hhonest => ?_⟩
  obtain ⟨given, hgiven, heq⟩ := hhonest world world' offsets hrun
  exact ⟨given, points, hgiven, by rw [← heq]; exact hpoints, hlen⟩

namespace Ledger

variable {P : HookEvent σ α → Prop} {tags : Nat → Tag} {s : Session σ α} {made : Nat}
  {events : List (HookEvent σ α)} {name : String} {id : Nat} {d r : Descriptor σ α}
  {c : Compiled σ α}

/-- A hook of data that are there. -/
theorem effect (h : Ledger tags s made events) (hf : s.Finds name id d r c) {hook : HookCall α}
    {x : Effect σ β} {y : Effect (Journal σ α) β}
    (hn : x.Notes ((tags (d.root id)).event r c hook) y)
    (hallows : ((tags (d.root id)).site r c).Allows hook) (hne : hook ≠ .destroy)
    (hP : P ((tags (d.root id)).event r c hook)) :
    Records P tags made events (outcome (effect x) s)
      (outcome (Session.effect y) (s.journaled tags made events)) := by
  refine ⟨_, List.forall_mem_singleton.2 hP, ?_, outcome_effect_notes hn tags s made events⟩
  rw [outcome_effect]
  exact (h.note hf.root hf.data hallows hne).congr rfl

/-- A hook that runs if the data have a capability. -/
theorem withCapability (h : Ledger tags s made events) (hf : s.Finds name id d r c)
    {cap : Capability} {hook : HookCall α} {f : Compiled σ α → Effect σ β}
    {f' : Compiled (Journal σ α) α → Effect (Journal σ α) β}
    (hn : (f c).Notes ((tags (d.root id)).event r c hook)
      (f' (((tags (d.root id)).site r c).journaled (tags (d.root id)).number)))
    (hallows : c.supports cap → ((tags (d.root id)).site r c).Allows hook) (hne : hook ≠ .destroy)
    (hP : P ((tags (d.root id)).event r c hook)) :
    Records P tags made events (outcome (withCapability id cap f) s)
      (outcome (Session.withCapability id cap f') (s.journaled tags made events)) := by
  have hsupports : (((tags (d.root id)).site r c).journaled
      (tags (d.root id)).number).supports cap = c.supports cap := rfl
  rw [hf.outcome_withCapability, hf.journaled.outcome_withCapability, hsupports]
  by_cases hc : c.supports cap
  · rw [if_pos hc, if_pos hc]
    exact h.effect hf hn (hallows hc) hne hP
  · rw [if_neg hc, if_neg hc]
    exact .same h rfl

theorem applyAt (h : Ledger tags s made events) (hf : s.Finds name id d r c)
    (hshape : r.shape = d.shape) (dir : Direction) (u v : Array α)
    (hP : P ((tags (d.root id)).event r c (.apply d.mode dir u v))) :
    Records P tags made events (outcome (applyAt id dir u v) s)
      (outcome (Session.applyAt id dir u v) (s.journaled tags made events)) := by
  have hshape' : (d.journaled (tags id)).shape = d.shape := rfl
  rw [hf.outcome_applyAt, hf.journaled.outcome_applyAt, hshape']
  cases hcheck : checkAtLeast u.size v.size (d.shape.sides dir d.shape.eSize).1
    (d.shape.sides dir d.shape.eSize).2 with
  | error e => exact .same h rfl
  | ok _ =>
    dsimp only
    by_cases hN : d.shape.numElem = 0
    · rw [if_pos hN, if_pos hN]
      exact .same h rfl
    · rw [if_neg hN, if_neg hN]
      refine h.withCapability hf (Effect.notes_noted _ _) (fun hc => ?_) nofun hP
      obtain ⟨hu, hv⟩ := checkAtLeast_eq_ok_iff.1 hcheck
      rw [← hshape] at hN hu hv
      exact ⟨hc, Nat.pos_of_ne_zero hN, hu, hv⟩

theorem apply (h : Ledger tags s made events) (hf : s.Finds name id d r c)
    (hshape : r.shape = d.shape) (dir : Direction) (u v : Array α)
    (hP : P ((tags (d.root id)).event r c (.apply d.mode dir u v))) :
    Records P tags made events (outcome (apply name dir u v) s)
      (outcome (Session.apply name dir u v) (s.journaled tags made events)) := by
  rw [hf.outcome_apply, hf.journaled.outcome_apply]
  exact h.applyAt hf hshape dir u v hP

theorem applyBlock (h : Ledger tags s made events) (hf : s.Finds name id d r c)
    (hshape : r.shape = d.shape) (block : Nat) (dir : Direction) (u v : Array α)
    (hP : P ((tags (d.root id)).event r c (.applyBlock block d.mode dir u v))) :
    Records P tags made events (outcome (applyBlock name block dir u v) s)
      (outcome (Session.applyBlock name block dir u v) (s.journaled tags made events)) := by
  have hshape' : (d.journaled (tags id)).shape = d.shape := rfl
  have hsupports : (((tags (d.root id)).site r c).journaled
      (tags (d.root id)).number).supports .applyBlock = c.supports .applyBlock := rfl
  rw [hf.outcome_applyBlock, hf.journaled.outcome_applyBlock, hshape', hsupports]
  by_cases hc : c.supports .applyBlock
  · rw [if_pos hc, if_pos hc]
    cases hcheck : checkExact u.size v.size (d.shape.sides dir d.shape.wrappedBlockLen).1
      (d.shape.sides dir d.shape.wrappedBlockLen).2 with
    | error e => exact .same h rfl
    | ok _ =>
      dsimp only
      by_cases hblock : d.shape.numElem ≤ block * d.shape.blockSize
      · rw [if_pos hblock, if_pos hblock]
        exact .same h rfl
      · rw [if_neg hblock, if_neg hblock]
        obtain ⟨hu, hv⟩ := checkExact_eq_ok_iff.1 hcheck
        rw [← hshape] at hblock hu hv
        -- the block exists, so its length was not cut
        obtain ⟨-, ⟨spec, hplan⟩, -⟩ := h.root _ _ hf.root (by rw [hf.data]; rfl)
        rw [Shape.wrappedBlockLen_of_lt (spec.blockLen_lt_of_plan hplan (by omega))] at hu hv
        exact h.effect hf (Effect.notes_noted _ _) ⟨hc, Nat.lt_of_not_le hblock, hu, hv⟩ nofun hP
  · rw [if_neg hc, if_neg hc]
    exact .same h rfl

/-- An array is taken if the data have its capability. -/
theorem takeArray (h : Ledger tags s made events) (hf : s.Finds name id d r c)
    {cap : Capability} {hook : HookCall α} {f : Compiled σ α → Effect σ β}
    {f' : Compiled (Journal σ α) α → Effect (Journal σ α) β}
    (hn : (f c).Notes ((tags (d.root id)).event r c hook)
      (f' (((tags (d.root id)).site r c).journaled (tags (d.root id)).number)))
    (hallows : c.supports cap → ((tags (d.root id)).site r c).Allows hook) (hne : hook ≠ .destroy)
    (hP : P ((tags (d.root id)).event r c hook)) :
    Records P tags made events (outcome (takeArray id cap f) s)
      (outcome (Session.takeArray id cap f') (s.journaled tags made events)) := by
  refine (h.withCapability hf hn hallows hne hP).bind fun b s' events' _ h' => ?_
  refine Follows.descriptor_bind (fun d' _ => ?_) id tags s' made events' h'
  exact .bind (.modifyDescriptor (fun _ _ => by rfl) (fun _ h => by exact ⟨h, rfl⟩) _) fun _ =>
    .pure (d'.root id, b)

theorem withOffsets (h : Ledger tags s made events) (hf : s.Finds name id d r c)
    (f : Array Int → Except Error β)
    (hP : P ((tags (d.root id)).event r c (.get .offsets .host))) :
    Records P tags made events (outcome (withOffsets id f) s)
      (outcome (Session.withOffsets id f) (s.journaled tags made events)) := by
  have htake : Records P tags made events
      (outcome (Session.takeArray id .getOffsets fun c => c.offsets .host) s)
      (outcome (Session.takeArray id .getOffsets fun c => c.offsets .host)
        (s.journaled tags made events)) :=
    h.takeArray hf (Effect.notes_noted _ _) (fun hc => hc) nofun hP
  refine htake.bind fun taken s' events' _ h' => ?_
  exact ((Follows.giveBack taken.1).bind fun _ => .ofExcept (f taken.2)) tags s' made events' h'

theorem pointsInElement (h : Ledger tags s made events) (hf : s.Finds name id d r c) (elem : Nat)
    (hP : P ((tags (d.root id)).event r c (.get .offsets .host))) :
    Records P tags made events (outcome (pointsInElement name elem) s)
      (outcome (Session.pointsInElement name elem) (s.journaled tags made events)) := by
  have hshape : (d.journaled (tags id)).shape = d.shape := rfl
  rw [hf.outcome_pointsInElement, hf.journaled.outcome_pointsInElement,
    hf.outcome_pointsInElementAt, hf.journaled.outcome_pointsInElementAt, hshape]
  by_cases hp : d.shape.isPoints
  · rw [if_pos hp, if_pos hp]
    by_cases he : d.shape.numElem ≤ elem
    · rw [if_pos he, if_pos he]
      exact .same h rfl
    · rw [if_neg he, if_neg he]
      exact h.withOffsets hf _ hP
  · rw [if_neg hp, if_neg hp]
    exact .same h rfl

theorem maxPoints (h : Ledger tags s made events) (hf : s.Finds name id d r c)
    (hP : P ((tags (d.root id)).event r c (.get .offsets .host))) :
    Records P tags made events (outcome (maxPoints name) s)
      (outcome (Session.maxPoints name) (s.journaled tags made events)) := by
  have hshape : (d.journaled (tags id)).shape = d.shape := rfl
  rw [hf.outcome_maxPoints, hf.journaled.outcome_maxPoints, hshape]
  by_cases hp : d.shape.isPoints
  · rw [if_pos hp, if_pos hp]
    exact h.withOffsets hf _ hP
  · rw [if_neg hp, if_neg hp]
    exact .same h rfl

/-- The offsets are asked first; how long the vectors must be follows from them. -/
theorem applyAtPoints (h : Ledger tags s made events) (hf : s.Finds name id d r c)
    (hshape : r.shape = d.shape) (elem : Nat) (dir : Direction) (u v : Array α)
    (hP : P ((tags (d.root id)).event r c (.get .offsets .host)))
    (hP' : P ((tags (d.root id)).event r c (.applyAtPoints elem dir u v))) :
    Records P tags made events (outcome (applyAtPoints name elem dir u v) s)
      (outcome (Session.applyAtPoints name elem dir u v) (s.journaled tags made events)) := by
  have hshape' : (d.journaled (tags id)).shape = d.shape := rfl
  rw [hf.outcome_applyAtPoints, hf.journaled.outcome_applyAtPoints, hshape']
  by_cases hp : d.shape.isPoints
  case neg =>
    rw [if_neg hp, if_neg hp]
    exact .same h rfl
  by_cases he : d.shape.numElem ≤ elem
  case pos =>
    rw [if_pos hp, if_pos hp, if_pos he, if_pos he]
    exact .same h rfl
  rw [if_pos hp, if_pos hp, if_neg he, if_neg he]
  obtain ⟨added, hadded, hledger, hy⟩ :=
    h.withOffsets hf (fun offsets => pointsBetween offsets elem) hP
  rw [hy]
  rcases hs : outcome (Session.withOffsets id fun offsets => pointsBetween offsets elem) s
    with ⟨x, s'⟩
  rw [hs] at hledger
  cases x with
  | error e => exact ⟨added, hadded, hledger, rfl⟩
  | ok points =>
    obtain ⟨offsets, world, hrun, hpoints, hs'⟩ := hf.withOffsets_eq_ok hs
    dsimp only
    cases hcheck : checkAtLeast u.size v.size
      (d.shape.sides dir (points * d.shape.numComp)).1
      (d.shape.sides dir (points * d.shape.numComp)).2 with
    | error e => exact ⟨added, hadded, hledger, rfl⟩
    | ok _ =>
      dsimp only
      have hf' : s'.Finds name id d r c := by
        rw [hs']
        exact hf.setWorld world
      rw [← hshape] at hp he hcheck
      have hallows := allows_applyAtPoints (tags (d.root id)) hp he hrun hpoints
        (checkAtLeast_eq_ok_iff.1 hcheck)
      exact .after hadded
        (hledger.withCapability hf' (Effect.notes_noted _ _) hallows nofun hP')

theorem checkout (h : Ledger tags s made events) (hf : s.Finds name id d r c) (part : Part)
    (mem : MemKind) (viewName : String)
    (hP : P ((tags (d.root id)).event r c (.get part mem))) :
    Records P tags made events (outcome (checkout name part mem viewName) s)
      (outcome (Session.checkout name part mem viewName) (s.journaled tags made events)) := by
  rw [Session.checkout, Session.checkout, outcome_bind_ok (outcome_held hf.handle),
    outcome_bind_ok (outcome_held hf.journaled.handle)]
  refine (h.takeArray hf (part.fetch_notes mem _ _) (fun hc => hc) (by simp) hP).bind
    fun taken s' events' _ h' => ?_
  refine Follows.get_bind (fun tags s made events => ?_) tags s' made events' h'
  refine .bind (.setViews fun _ _ _ _ => rfl) fun _ => ?_
  have hviews : (s.journaled tags made events).views = s.views := rfl
  rw [hviews]
  cases s.views.get? viewName with
  | none => exact .pure _
  | some old => exact (Follows.giveBack old.root).bind fun _ => .pure _

/-- Two applies. -/
theorem multiplicity [IntCast α] (h : Ledger tags s made events) (hf : s.Finds name id d r c)
    (hshape : r.shape = d.shape) (v : Array α)
    (hP : ∀ dir u w, P ((tags (d.root id)).event r c (.apply d.mode dir u w))) :
    Records P tags made events ((multiplicity name v).run s).run
      ((Session.multiplicity name v).run (s.journaled tags made events)).run := by
  have hvector : (d.journaled (tags id)).eVector = d.eVector := rfl
  rw [hf.run_multiplicity, hf.journaled.run_multiplicity, hvector]
  obtain ⟨added, hadded, hledger, hy⟩ :=
    h.applyAt hf hshape .forward (Buffer.fill v ((1 : Int) : α)) d.eVector (hP _ _ _)
  obtain ⟨x, world, hs⟩ :=
    Quiet.applyAt id .forward (Buffer.fill v ((1 : Int) : α)) d.eVector s
  rw [hy]
  rw [hs] at hledger ⊢
  cases x with
  | error e => exact ⟨added, hadded, hledger, rfl⟩
  | ok y =>
    obtain ⟨added', hadded', hledger', hy'⟩ :=
      hledger.applyAt (hf.setWorld world) hshape .transpose y (Buffer.fill v ((0 : Int) : α))
        (hP _ _ _)
    refine .after hadded ⟨added', hadded', ?_⟩
    dsimp only
    rw [hy']
    rcases hs' : outcome (Session.applyAt id .transpose y (Buffer.fill v ((0 : Int) : α)))
      { s with world := world } with ⟨x, s''⟩
    rw [hs'] at hledger'
    cases x <;> exact ⟨hledger', rfl⟩

end Ledger

end GatherScatter.Session
