import GatherScatter.Proofs.Session.Run

/-!
# What stands between a handle and the hooks

Through a live handle every operation finds the data of its root. Whether it then runs a hook, and
which one, depends on its own checks of lengths, numbers and capabilities, in an order of its own.

* `Finds`, `Books.exists_finds`: what a live handle finds.
* `Books.exists_finds_of_root`: whatever happened, these are the data that its root had before.
* `Finds.outcome_withCapability`, `Finds.outcome_applyAt`, `Finds.outcome_applyBlock` and so on:
  each operation as its checks, followed by the hook.
-/
namespace GatherScatter.Session

variable {σ α β γ : Type}

theorem checkAtLeast_eq_ok_iff {inLen outLen m n : Nat} :
    checkAtLeast inLen outLen m n = .ok () ↔ n ≤ inLen ∧ m ≤ outLen := by
  unfold checkAtLeast
  by_cases hn : inLen < n
  · rw [if_pos hn]
    exact ⟨nofun, fun h => absurd h.1 (by omega)⟩
  · by_cases hm : outLen < m
    · rw [if_neg hn, if_pos hm]
      exact ⟨nofun, fun h => absurd h.2 (by omega)⟩
    · rw [if_neg hn, if_neg hm]
      exact ⟨fun _ => ⟨by omega, by omega⟩, fun _ => rfl⟩

theorem checkExact_eq_ok_iff {inLen outLen m n : Nat} :
    checkExact inLen outLen m n = .ok () ↔ inLen = n ∧ outLen = m := by
  unfold checkExact
  by_cases hn : inLen = n
  · by_cases hm : outLen = m
    · simp [hn, hm]
    · simp [hn, hm]
  · simp [hn]

/-- The handle `name` is on the descriptor `d` at `id`, whose root `r` has the data `c`. -/
structure Finds (s : Session σ α) (name : String) (id : Nat) (d r : Descriptor σ α)
    (c : Compiled σ α) : Prop where
  handle : s.handles.get? name = some id
  entry : s.table[id]? = some d
  root : s.table[d.root id]? = some r
  data : r.data = some c

theorem Books.exists_finds {base s : Session σ α} {refs reads : List Nat}
    (h : Books base refs reads s) {name : String} {id : Nat}
    (hn : s.handles.get? name = some id) : ∃ d r c, s.Finds name id d r c ∧ r.shape = d.shape := by
  obtain ⟨d, hd⟩ := exists_getElem? (h.lt_of_handle hn)
  obtain ⟨r, hr, hroot, hsame, hpos⟩ := h.exists_root hd
  obtain ⟨c, hc⟩ := Option.isSome_iff_exists.1
    ((h.data _ r hr).2 ⟨hroot, hpos (h.refCount_pos_of_handle hn hd)⟩)
  exact ⟨d, r, c, ⟨hn, hd, hr, hc⟩, hsame.shape.symm⟩

/-- The root of a live handle still has the data that it had. -/
theorem Books.exists_finds_of_root {base s : Session σ α} (h : Books base [] [] s) {name : String}
    {id j : Nat} {d r : Descriptor σ α} {c : Compiled σ α}
    (hn : s.handles.get? name = some id) (hd : s.table[id]? = some d) (hroot : d.root id = j)
    (hr : base.table[j]? = some r) (hc : r.data = some c) :
    ∃ r', s.Finds name id d r' c ∧ d.Inherits r := by
  obtain ⟨r', hr', hcont⟩ := h.grows j r hr
  obtain ⟨r'', hr'', hanc, hsame, hpos⟩ := h.exists_root hd
  rw [hroot, hr'] at hr''
  cases hr''
  have hsome := (h.data j r' hr').2 ⟨hanc, hpos (h.refCount_pos_of_handle hn hd)⟩
  refine ⟨r', ⟨hn, hd, hroot ▸ hr', ?_⟩, hsame.trans hcont.inherits.2⟩
  rcases hcont.data with hdata | hdata
  · rw [hdata, hc]
  · rw [hdata] at hsome
    cases hsome

namespace Finds

variable {s : Session σ α} {name : String} {id : Nat} {d r : Descriptor σ α} {c : Compiled σ α}

/-- Hooks may change the state of the backends, not what a handle finds. -/
theorem setWorld (h : s.Finds name id d r c) (world : σ) :
    Finds { s with world := world } name id d r c :=
  ⟨h.handle, h.entry, h.root, h.data⟩

theorem outcome_withData (h : s.Finds name id d r c) (f : Compiled σ α → Effect σ β) :
    outcome (withData id f) s = outcome (effect (f c)) s :=
  Session.outcome_withData h.entry h.root h.data f

theorem outcome_withCapability (h : s.Finds name id d r c) (cap : Capability)
    (f : Compiled σ α → Effect σ β) :
    outcome (withCapability id cap f) s =
      if c.supports cap then outcome (effect (f c)) s
      else (.error (.error (.unsupported cap.hook c.resource)), s) := by
  rw [withCapability, h.outcome_withData]
  split <;> rfl

theorem outcome_applyAt (h : s.Finds name id d r c) (dir : Direction) (u v : Array α) :
    outcome (applyAt id dir u v) s =
      match checkAtLeast u.size v.size (d.shape.sides dir d.shape.eSize).1
        (d.shape.sides dir d.shape.eSize).2 with
      | .error e => (.error (.error e), s)
      | .ok _ =>
        if d.shape.numElem = 0 then (.ok v, s)
        else outcome (withCapability id d.mode.capability fun c => c.apply d.mode dir u v) s := by
  rw [applyAt, outcome_bind_ok (outcome_descriptor h.entry)]
  dsimp only
  rw [outcome_bind, outcome_ofExcept]
  cases checkAtLeast u.size v.size (d.shape.sides dir d.shape.eSize).1
    (d.shape.sides dir d.shape.eSize).2 with
  | error e => rfl
  | ok _ =>
    dsimp only [lift]
    split <;> rfl

theorem outcome_apply (h : s.Finds name id d r c) (dir : Direction) (u v : Array α) :
    outcome (apply name dir u v) s = outcome (applyAt id dir u v) s := by
  rw [apply, outcome_bind_ok (outcome_held h.handle)]

theorem outcome_applyBlock (h : s.Finds name id d r c) (block : Nat) (dir : Direction)
    (u v : Array α) :
    outcome (applyBlock name block dir u v) s =
      if c.supports .applyBlock then
        match checkExact u.size v.size (d.shape.sides dir d.shape.wrappedBlockLen).1
          (d.shape.sides dir d.shape.wrappedBlockLen).2 with
        | .error e => (.error (.error e), s)
        | .ok _ =>
          if d.shape.numElem ≤ block * d.shape.blockSize then
            (.error (.error (.blockOutOfRange block d.shape.blockSize d.shape.numElem)), s)
          else outcome (effect (c.applyBlock block d.mode dir u v)) s
      else (.error (.error (.unsupported Capability.applyBlock.hook c.resource)), s) := by
  rw [applyBlock, outcome_bind_ok (outcome_held h.handle), outcome_bind, h.outcome_withCapability]
  by_cases hcap : c.supports .applyBlock
  · rw [if_pos hcap, if_pos hcap]
    change outcome (descriptor id >>= _) s = _
    rw [outcome_bind_ok (outcome_descriptor h.entry)]
    dsimp only
    rw [outcome_bind, outcome_ofExcept]
    cases checkExact u.size v.size (d.shape.sides dir d.shape.wrappedBlockLen).1
      (d.shape.sides dir d.shape.wrappedBlockLen).2 with
    | error e => rfl
    | ok _ =>
      dsimp only [lift]
      split
      · rfl
      · exact h.outcome_withData _
  · rw [if_neg hcap, if_neg hcap]

/-- The offsets are asked for, and what is asked of them does not reach the backend. -/
theorem outcome_withOffsets (h : s.Finds name id d r c) (f : Array Int → Except Error β) :
    outcome (withOffsets id f) s =
      match outcome (withCapability id .getOffsets fun c => c.offsets .host) s with
      | (.ok offsets, s') => (lift (f offsets), s')
      | (.error e, s') => (.error e, s') := by
  obtain ⟨x, world, hx⟩ :=
    Quiet.withCapability id .getOffsets (fun c : Compiled σ α => c.offsets .host) s
  rw [hx]
  cases x with
  | error e => exact outcome_bind_error (outcome_takeArray_error hx)
  | ok offsets => exact Session.outcome_withOffsets hx h.entry f

/-- A checkout gives the array under the root of the handle, or fails as its hook does. -/
theorem checkout_fst (h : s.Finds name id d r c) {part : Part} {mem : MemKind}
    {x : Except Failure ArrayContent} {s' : Session σ α}
    (hx : outcome (withCapability id part.capability (part.fetch mem)) s = (x, s'))
    (hs' : s'.table = s.table) (viewName : String) :
    (outcome (checkout name part mem viewName) s).1 =
      x.map fun content => ⟨d.root id, content⟩ := by
  rw [checkout, outcome_bind_ok (outcome_held h.handle)]
  cases x with
  | error e =>
    rw [outcome_bind_error (outcome_takeArray_error hx)]
    rfl
  | ok content =>
    rw [outcome_bind_ok (outcome_takeArray hx (hs' ▸ h.entry))]
    dsimp only
    rw [outcome_bind_ok (outcome_get _), outcome_bind_ok (outcome_modify _ _)]
    dsimp only
    cases s'.views.get? viewName <;> rfl

theorem outcome_requirePoints (d : Descriptor σ α) (action : String) (s : Session σ α) :
    outcome (ofExcept (d.shape.requirePoints action) : Act σ α Unit) s =
      if d.shape.isPoints then (.ok (), s)
      else (.error (.error (.incompatible (.notPoints action))), s) := by
  rw [Shape.requirePoints]
  split <;> rfl

theorem outcome_pointsInElementAt (h : s.Finds name id d r c) (elem : Nat) :
    outcome (pointsInElementAt id elem) s =
      if d.shape.isPoints then
        if d.shape.numElem ≤ elem then
          (.error (.error (.elementOutOfRange elem d.shape.numElem)), s)
        else outcome (withOffsets id fun offsets => pointsBetween offsets elem) s
      else (.error (.error (.incompatible (.notPoints "get the number of points in an element"))),
        s) := by
  rw [pointsInElementAt, outcome_bind_ok (outcome_descriptor h.entry), outcome_bind,
    outcome_requirePoints]
  by_cases hp : d.shape.isPoints
  · rw [if_pos hp, if_pos hp]
    dsimp only
    split <;> rfl
  · rw [if_neg hp, if_neg hp]

theorem outcome_pointsInElement (h : s.Finds name id d r c) (elem : Nat) :
    outcome (pointsInElement name elem) s = outcome (pointsInElementAt id elem) s := by
  rw [pointsInElement, outcome_bind_ok (outcome_held h.handle)]

theorem outcome_maxPoints (h : s.Finds name id d r c) :
    outcome (maxPoints name) s =
      if d.shape.isPoints then
        outcome (withOffsets id fun offsets => largestPoints offsets d.shape.numElem) s
      else (.error (.error (.incompatible (.notPoints "compute max points"))), s) := by
  rw [maxPoints, outcome_bind_ok (outcome_held h.handle),
    outcome_bind_ok (outcome_descriptor h.entry), outcome_bind, outcome_requirePoints]
  by_cases hp : d.shape.isPoints
  · rw [if_pos hp, if_pos hp]
  · rw [if_neg hp, if_neg hp]

theorem outcome_applyAtPoints (h : s.Finds name id d r c) (elem : Nat) (dir : Direction)
    (u v : Array α) :
    outcome (applyAtPoints name elem dir u v) s =
      if d.shape.isPoints then
        if d.shape.numElem ≤ elem then
          (.error (.error (.elementOutOfRange elem d.shape.numElem)), s)
        else
          match outcome (withOffsets id fun offsets => pointsBetween offsets elem) s with
          | (.error e, s') => (.error e, s')
          | (.ok points, s') =>
            match checkAtLeast u.size v.size (d.shape.sides dir (points * d.shape.numComp)).1
              (d.shape.sides dir (points * d.shape.numComp)).2 with
            | .error e => (.error (.error e), s')
            | .ok _ => outcome (withCapability id .applyAtPointsInElement fun c =>
                c.applyAtPoints elem dir u v) s'
      else (.error (.error (.incompatible (.notPoints "apply at points"))), s) := by
  rw [applyAtPoints, outcome_bind_ok (outcome_held h.handle),
    outcome_bind_ok (outcome_descriptor h.entry), outcome_bind, outcome_requirePoints]
  by_cases hp : d.shape.isPoints
  · rw [if_pos hp, if_pos hp]
    dsimp only
    by_cases he : d.shape.numElem ≤ elem
    · rw [if_pos he, if_pos he]
      rfl
    · rw [if_neg he, if_neg he, outcome_bind, h.outcome_pointsInElementAt, if_pos hp, if_neg he]
      rcases outcome (withOffsets id fun offsets => pointsBetween offsets elem) s with ⟨x, s'⟩
      cases x with
      | error e => rfl
      | ok points =>
        dsimp only
        rw [outcome_bind, outcome_ofExcept]
        cases checkAtLeast u.size v.size (d.shape.sides dir (points * d.shape.numComp)).1
          (d.shape.sides dir (points * d.shape.numComp)).2 <;> rfl
  · rw [if_neg hp, if_neg hp]

/-- Two applies, the second one from where the first one left the backends. -/
theorem run_multiplicity [IntCast α] (h : s.Finds name id d r c) (v : Array α) :
    ((multiplicity name v).run s).run =
      match outcome (applyAt id .forward (Buffer.fill v ((1 : Int) : α)) d.eVector) s with
      | (.error e, s') => ((Buffer.fill v ((1 : Int) : α), .error e), s')
      | (.ok y, s') =>
        match outcome (applyAt id .transpose y (Buffer.fill v ((0 : Int) : α))) s' with
        | (.error e, s'') => ((Buffer.fill v ((0 : Int) : α), .error e), s'')
        | (.ok counts, s'') => ((counts, .ok ()), s'') := by
  have hforward : outcome (descriptor id >>= fun r =>
      applyAt id .forward (Buffer.fill v ((1 : Int) : α)) r.eVector) s =
      outcome (applyAt id .forward (Buffer.fill v ((1 : Int) : α)) d.eVector) s := by
    rw [outcome_bind_ok (outcome_descriptor h.entry)]
  rw [multiplicity, run_bind_outcome (outcome_held h.handle)]
  dsimp only
  rcases hx : outcome (applyAt id .forward (Buffer.fill v ((1 : Int) : α)) d.eVector) s
    with ⟨x, s'⟩
  rw [hx] at hforward
  rw [run_bind_outcome hforward]
  cases x with
  | error e => rfl
  | ok y =>
    dsimp only
    rcases hy : outcome (applyAt id .transpose y (Buffer.fill v ((0 : Int) : α))) s' with ⟨x, s''⟩
    rw [run_bind_outcome hy]
    cases x <;> rfl

end Finds

end GatherScatter.Session
