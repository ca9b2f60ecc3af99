import GatherScatter.Proofs.Session.Run

/-!
# The guard of the readers

`destroy` looks ahead: it refuses to run if giving up the handle would release data that still has
readers. A release goes on along a chain of descriptors as long as each of them has no other
reference, so it reaches the data of the root exactly if all of them are the last.

* `Books.outcome_blockedByReaders`: what the look ahead answers.
* `Books.refused_destroy_iff`, `Books.refused_referenceCopy_iff`: who is refused; a refusal changes
  nothing at all.
* `Books.keepsData_release`: a release gives up data only at the end of a chain of last references.
-/
namespace GatherScatter.Session

variable {σ α β : Type}

/-- Each descriptor of the chain has a single reference. -/
def Sole (s : Session σ α) (chain : List Nat) : Prop :=
  ∀ j ∈ chain, ∃ d : Descriptor σ α, s.table[j]? = some d ∧ d.refCount = 1

/-- The only references along the chain from the descriptor `d` at `id` to its root are those of the
chain, and the root has readers. -/
def Blocked (s : Session σ α) (id : Nat) (d : Descriptor σ α) : Prop :=
  s.Sole (id :: d.ancestors) ∧ ∃ r, s.table[d.root id]? = some r ∧ 0 < r.readers

/-- Refused because of readers. Nothing is changed by that, not even the state of the backends. -/
def Refused (x : Act σ α β) (s : Session σ α) : Prop :=
  outcome x s = (.error (.error (.access .readersAttached)), s)

theorem Sole.tail {s : Session σ α} {id : Nat} {chain : List Nat} (h : s.Sole (id :: chain)) :
    s.Sole chain := fun j hj => h j (List.mem_cons_of_mem id hj)

theorem Sole.cons {s : Session σ α} {id : Nat} {d : Descriptor σ α} {chain : List Nat}
    (hd : s.table[id]? = some d) (hone : d.refCount = 1) (h : s.Sole chain) :
    s.Sole (id :: chain) := by
  intro j hj
  rcases List.mem_cons.1 hj with rfl | hj
  · exact ⟨d, hd, hone⟩
  · exact h j hj

theorem Sole.head {s : Session σ α} {id : Nat} {d : Descriptor σ α} {chain : List Nat}
    (h : s.Sole (id :: chain)) (hd : s.table[id]? = some d) : d.refCount = 1 := by
  obtain ⟨d', hd', hone⟩ := h id List.mem_cons_self
  rw [hd] at hd'
  cases hd'
  exact hone

namespace Books

variable {base s : Session σ α} {refs reads : List Nat} {id : Nat} {d : Descriptor σ α}

/-- A live descriptor keeps the one alive that it is derived from. -/
theorem refCount_pos_of_child (h : Books base refs reads s) (hd : s.table[id]? = some d)
    (hpos : 0 < d.refCount) {p : Nat} {rest : List Nat} (hanc : d.ancestors = p :: rest)
    {dp : Descriptor σ α} (hp : s.table[p]? = some dp) : 0 < dp.refCount := by
  have hchild : 0 < s.childrenOf p := childrenOf_pos hd hpos hanc
  rw [h.refCount p dp hp]
  omega

/-- The look ahead of `destroy`, by induction on the chain. -/
theorem outcome_blockedByReaders (h : Books base refs reads s) (hd : s.table[id]? = some d)
    (hpos : 0 < d.refCount) :
    ∃ blocked, outcome (blockedByReaders (id :: d.ancestors)) s = (.ok blocked, s) ∧
      (blocked = true ↔ s.Blocked id d) := by
  unfold Blocked Descriptor.root
  generalize hanc : d.ancestors = chain
  induction chain generalizing id d with
  | nil =>
    refine ⟨_, by rw [blockedByReaders, outcome_bind_ok (outcome_descriptor hd), outcome_pure], ?_⟩
    simp only [List.getLastD_nil, Bool.and_eq_true, decide_eq_true_eq]
    constructor
    · rintro ⟨hle, hreaders⟩
      exact ⟨.cons hd (by omega) nofun, d, hd, hreaders⟩
    · rintro ⟨hsole, r, hr, hreaders⟩
      have := hsole.head hd
      rw [hd] at hr
      cases hr
      exact ⟨by omega, hreaders⟩
  | cons p rest ih =>
    obtain ⟨-, dp, hp, hrest, -⟩ := h.parent id d p rest hd hanc
    have hask : outcome (blockedByReaders (id :: p :: rest)) s =
        outcome (if 1 < d.refCount then pure false else blockedByReaders (p :: rest)) s := by
      rw [blockedByReaders, outcome_bind_ok (outcome_descriptor hd)]
      nofun
    rw [hask]
    by_cases hlt : 1 < d.refCount
    · rw [if_pos hlt]
      refine ⟨false, rfl, nofun, fun hblocked => ?_⟩
      have := hblocked.1.head hd
      omega
    · rw [if_neg hlt]
      obtain ⟨blocked, hr, hiff⟩ := ih hp (h.refCount_pos_of_child hd hpos hanc hp) hrest
      refine ⟨blocked, hr, hiff.trans ?_⟩
      rw [List.getLastD_cons]
      constructor
      · rintro ⟨hsole, hreaders⟩
        exact ⟨.cons hd (by omega) hsole, hreaders⟩
      · rintro ⟨hsole, hreaders⟩
        exact ⟨hsole.tail, hreaders⟩

/-! ## Refusals -/

theorem outcome_destroy_of_blocked (h : Books base refs reads s) {name : String}
    (hn : s.handles.get? name = some id) (hd : s.table[id]? = some d) (hb : s.Blocked id d) :
    outcome (destroy name) s = (.error (.error (.access .readersAttached)), s) := by
  obtain ⟨blocked, hr, hiff⟩ := h.outcome_blockedByReaders hd (h.refCount_pos_of_handle hn hd)
  rw [hiff.2 hb] at hr
  rw [destroy, outcome_bind_ok (outcome_get s), hn]
  dsimp only
  rw [outcome_bind_ok (outcome_descriptor hd), outcome_bind_ok hr]
  rfl

theorem outcome_destroy_of_not_blocked (h : Books base refs reads s) {name : String}
    (hn : s.handles.get? name = some id) (hd : s.table[id]? = some d) (hb : ¬ s.Blocked id d) :
    outcome (destroy name) s = outcome (release (id :: d.ancestors))
      { s with handles := s.handles.erase name } := by
  obtain ⟨blocked, hr, hiff⟩ := h.outcome_blockedByReaders hd (h.refCount_pos_of_handle hn hd)
  rw [Bool.eq_false_iff.2 (mt hiff.1 hb)] at hr
  rw [destroy, outcome_bind_ok (outcome_get s), hn]
  dsimp only
  rw [outcome_bind_ok (outcome_descriptor hd), outcome_bind_ok hr]
  rfl

/-- Where it is not refused, `destroy` empties the slot, also if giving up the data fails. -/
theorem handles_destroy (h : Books base refs reads s) {name : String}
    (hb : ∀ id d, s.handles.get? name = some id → s.table[id]? = some d → ¬ s.Blocked id d) :
    (outcome (destroy name) s).2.handles = s.handles.erase name := by
  cases hn : s.handles.get? name with
  | none =>
    rw [destroy, outcome_bind_ok (outcome_get s), hn]
    exact (Slots.erase_eq_self hn).symm
  | some id =>
    obtain ⟨d, hd⟩ := exists_getElem? (h.lt_of_handle hn)
    rw [h.outcome_destroy_of_not_blocked hn hd (hb id d hn hd)]
    exact Keeps.release apart_handles (id :: d.ancestors) { s with handles := s.handles.erase name }

/-- Whether it is refused or not, `destroy` leaves the other slots alone. -/
theorem get?_destroy_of_ne (h : Books base refs reads s) {name other : String}
    (hne : other ≠ name) :
    (outcome (destroy name) s).2.handles.get? other = s.handles.get? other := by
  by_cases hb : ∃ id d, s.handles.get? name = some id ∧ s.table[id]? = some d ∧ s.Blocked id d
  · obtain ⟨id, d, hn, hd, hb⟩ := hb
    rw [h.outcome_destroy_of_blocked hn hd hb]
  · rw [h.handles_destroy fun id d hn hd hblocked => hb ⟨id, d, hn, hd, hblocked⟩,
      Slots.get?_erase, if_neg hne]

/-- A handle that is not the last one on its restriction can always be destroyed. -/
theorem outcome_destroy_of_shared (h : Books base refs reads s) {name : String}
    (hn : s.handles.get? name = some id) (hd : s.table[id]? = some d) (hlt : 1 < d.refCount) :
    (outcome (destroy name) s).1 = .ok () := by
  rw [h.outcome_destroy_of_not_blocked hn hd fun hb => ?_,
    outcome_release_of_shared (s := { s with handles := s.handles.erase name }) hd hlt]
  have := hb.1.head hd
  omega

/-- Whether the handle in a slot is the last one on data that have readers. -/
theorem refused_destroy_iff (h : Books base refs reads s) {name : String} :
    Refused (destroy name) s ↔
      ∃ id d, s.handles.get? name = some id ∧ s.table[id]? = some d ∧ s.Blocked id d := by
  constructor
  · intro hrefused
    by_contra hnone
    have hslots : (outcome (destroy name) s).2.handles = s.handles.erase name :=
      h.handles_destroy fun id d hn hd hb => hnone ⟨id, d, hn, hd, hb⟩
    rw [Refused] at hrefused
    rw [hrefused] at hslots
    cases hn : s.handles.get? name with
    | none =>
      rw [destroy, outcome_bind_ok (outcome_get s), hn] at hrefused
      cases hrefused
    | some id =>
      dsimp only at hslots
      rw [hslots, Slots.get?_erase, if_pos rfl] at hn
      cases hn
  · rintro ⟨id, d, hn, hd, hb⟩
    exact h.outcome_destroy_of_blocked hn hd hb

/-- Every descriptor that a live one is derived from has a live descriptor derived from it. -/
theorem childrenOf_pos_of_mem (h : Books base refs reads s) (hd : s.table[id]? = some d)
    (hpos : 0 < d.refCount) {j : Nat} (hj : j ∈ d.ancestors) : 0 < s.childrenOf j := by
  generalize hanc : d.ancestors = chain at hj
  induction chain generalizing id d with
  | nil => cases hj
  | cons p rest ih =>
    obtain ⟨-, dp, hp, hrest, -⟩ := h.parent id d p rest hd hanc
    rcases List.mem_cons.1 hj with rfl | hj
    · exact childrenOf_pos hd hpos hanc
    · exact ih hp (h.refCount_pos_of_child hd hpos hanc hp) hrest hj

/-- A chain of single references has no handle but the one on its first descriptor. -/
theorem notMem_of_sole (h : Books base refs reads s) {name name' : String}
    (hn : s.handles.get? name = some id) (hd : s.table[id]? = some d)
    (hsole : s.Sole (id :: d.ancestors)) (hne : name' ≠ name) {j : Nat}
    (hn' : s.handles.get? name' = some j) : j ∉ id :: d.ancestors := by
  intro hj
  obtain ⟨dj, hdj, hone⟩ := hsole j hj
  have hrefs := h.refCount j dj hdj
  rw [handlesOn] at hrefs
  rcases List.mem_cons.1 hj with rfl | hj
  · have := Slots.two_le_count (p := fun h => decide (h = j)) hn hn' hne (by simp) (by simp)
    omega
  · have := h.childrenOf_pos_of_mem hd (h.refCount_pos_of_handle hn hd) hj
    have := Slots.count_pos (p := fun h => decide (h = j)) hn' (by simp)
    omega

end Books

theorem replace_self {s : Session σ α} {id : Nat} {d : Descriptor σ α}
    (hd : s.table[id]? = some d) : s.replace id d = s := by
  have hself : s.table.setIfInBounds id d = s.table := by
    apply Array.ext_getElem?
    intro j
    rw [Array.getElem?_setIfInBounds]
    by_cases hj : id = j
    · subst hj
      rw [if_pos rfl, if_pos (lt_size_of_getElem? hd), hd]
    · rw [if_neg hj]
  rw [replace, hself]

/-- What copying a live handle comes down to: `destroy` with a reference to the source held. -/
theorem outcome_referenceCopy {s : Session σ α} {name : String} {id : Nat} {d : Descriptor σ α}
    (hn : s.handles.get? name = some id) (hd : s.table[id]? = some d) (dst : String) :
    outcome (referenceCopy (some name) dst) s =
      match outcome (destroy dst) (s.replace id { d with refCount := d.refCount + 1 }) with
      | (.ok _, s') => (.ok (), { s' with handles := s'.handles.put dst id })
      | (.error e, s') => (.error e, (outcome (dropReference id) s').2) := by
  rw [referenceCopy, outcome_bind_ok (outcome_get s), Option.bind_some, hn]
  dsimp only
  rw [outcome_bind_ok (outcome_retain hd), outcome_bind, outcome_tryCatch]
  rcases outcome (destroy dst) (s.replace id { d with refCount := d.refCount + 1 }) with ⟨r, s'⟩
  cases r with
  | ok _ => rfl
  | error e =>
    dsimp only
    rw [outcome_bind, dropReference, outcome_silently]
    rfl

theorem blocked_congr {s : Session σ α} {id : Nat} {d d' : Descriptor σ α}
    (h : d.ancestors = d'.ancestors) : s.Blocked id d ↔ s.Blocked id d' := by
  rw [Blocked, Blocked, Descriptor.root, Descriptor.root, h]

/-- One reference more takes a descriptor out of all chains of single references. -/
theorem blocked_retain_iff {s : Session σ α} {j : Nat} {dj : Descriptor σ α}
    (hj : s.table[j]? = some dj) (hpos : 0 < dj.refCount) (id : Nat) (d : Descriptor σ α) :
    (s.replace j { dj with refCount := dj.refCount + 1 }).Blocked id d ↔
      s.Blocked id d ∧ j ∉ id :: d.ancestors := by
  have hget := getElem?_replace hj { dj with refCount := dj.refCount + 1 }
  constructor
  · rintro ⟨hsole, r, hr, hreaders⟩
    have hne : ∀ k ∈ id :: d.ancestors, k ≠ j := by
      rintro k hk rfl
      obtain ⟨dk, hdk, hone⟩ := hsole k hk
      rw [hget, if_pos rfl] at hdk
      cases hdk
      dsimp only at hone
      omega
    refine ⟨⟨fun k hk => ?_, ?_⟩, fun hmem => hne j hmem rfl⟩
    · obtain ⟨dk, hdk, hone⟩ := hsole k hk
      rw [hget, if_neg (hne k hk)] at hdk
      exact ⟨dk, hdk, hone⟩
    · rw [hget] at hr
      split at hr
      · rename_i hroot
        cases hr
        exact ⟨dj, by rw [hroot, hj], hreaders⟩
      · exact ⟨r, hr, hreaders⟩
  · rintro ⟨⟨hsole, r, hr, hreaders⟩, hnot⟩
    refine ⟨fun k hk => ?_, ?_⟩
    · obtain ⟨dk, hdk, hone⟩ := hsole k hk
      have hne : k ≠ j := by
        rintro rfl
        exact hnot hk
      exact ⟨dk, by rw [hget, if_neg hne, hdk], hone⟩
    · by_cases hroot : d.root id = j
      · rw [hroot, hj] at hr
        cases hr
        exact ⟨{ dj with refCount := dj.refCount + 1 }, by rw [hget, if_pos hroot], hreaders⟩
      · exact ⟨r, by rw [hget, if_neg hroot, hr], hreaders⟩

namespace Books

variable {base s : Session σ α} {refs reads : List Nat} {id : Nat} {d : Descriptor σ α}

/-- Copying onto another handle is refused where destroying that one is, and the reference to the
source is given back. -/
theorem refused_referenceCopy_of_blocked (h : Books base refs reads s) {name dst : String}
    (hn : s.handles.get? name = some id) (hd : s.table[id]? = some d) {id' : Nat}
    {d' : Descriptor σ α} (hn' : s.handles.get? dst = some id') (hd' : s.table[id']? = some d')
    (hb : s.Blocked id' d') (hne : name ≠ dst) : Refused (referenceCopy (some name) dst) s := by
  have hpos := h.refCount_pos_of_handle hn hd
  have hnot : id ∉ id' :: d'.ancestors := h.notMem_of_sole hn' hd' hb.1 hne hn
  have hd'' := getElem?_replace hd { d with refCount := d.refCount + 1 } id'
  rw [if_neg fun heq => hnot (List.mem_cons.2 (.inl (Eq.symm heq))), hd'] at hd''
  have hdestroy := (h.retain hd hpos).outcome_destroy_of_blocked hn' hd''
    ((blocked_retain_iff hd hpos id' d').2 ⟨hb, hnot⟩)
  have hget := getElem?_replace_self hd { d with refCount := d.refCount + 1 }
  rw [Refused, outcome_referenceCopy hn hd, hdestroy]
  dsimp only
  rw [dropReference, outcome_silently, outcome_bind_ok (outcome_descriptor hget),
    outcome_release_of_shared hget (by dsimp only; omega), replace_replace]
  exact congrArg (Prod.mk _) (replace_self hd)

/-- With the reference to the source held, the source cannot be what is in the way. -/
theorem exists_blocked_of_retained (h : Books base refs reads s) {name dst : String}
    (hn : s.handles.get? name = some id) (hd : s.table[id]? = some d) {id' : Nat}
    {d' : Descriptor σ α} (hn' : s.handles.get? dst = some id')
    (hd' : (s.replace id { d with refCount := d.refCount + 1 }).table[id']? = some d')
    (hb : (s.replace id { d with refCount := d.refCount + 1 }).Blocked id' d') :
    (∃ d', s.table[id']? = some d' ∧ s.Blocked id' d') ∧ name ≠ dst := by
  obtain ⟨d₀, hd₀, hc⟩ : ∃ d₀, s.table[id']? = some d₀ ∧ d'.ancestors = d₀.ancestors := by
    rcases cases_replace hd hd' with ⟨rfl, rfl⟩ | ⟨-, hd'⟩
    · exact ⟨d, hd, rfl⟩
    · exact ⟨d', hd', rfl⟩
  rw [blocked_congr hc, blocked_retain_iff hd (h.refCount_pos_of_handle hn hd)] at hb
  refine ⟨⟨d₀, hd₀, hb.1⟩, ?_⟩
  rintro rfl
  rw [hn] at hn'
  cases hn'
  exact hb.2 List.mem_cons_self

/-- A refused copy leaves the slot filled, so something was in the way of emptying it. -/
theorem exists_blocked_of_refused_referenceCopy (h : Books base refs reads s) {name dst : String}
    (hn : s.handles.get? name = some id) (hd : s.table[id]? = some d)
    (hrefused : Refused (referenceCopy (some name) dst) s) :
    (∃ id' d', s.handles.get? dst = some id' ∧ s.table[id']? = some d' ∧ s.Blocked id' d') ∧
      name ≠ dst := by
  by_contra hnot
  have hslots := (h.retain hd (h.refCount_pos_of_handle hn hd)).handles_destroy
    fun id' d' hn' hd' hb => by
      obtain ⟨⟨d₀, hd₀, hb₀⟩, hne⟩ := h.exists_blocked_of_retained hn hd hn' hd' hb
      exact hnot ⟨⟨id', d₀, hn', hd₀, hb₀⟩, hne⟩
  rw [Refused, outcome_referenceCopy hn hd] at hrefused
  rcases hr : outcome (destroy dst) (s.replace id { d with refCount := d.refCount + 1 })
    with ⟨r, s'⟩
  rw [hr] at hrefused hslots
  cases r with
  | ok _ => cases hrefused
  | error e =>
    -- the slot is empty now, so it was before; but then there was nothing to destroy
    have hs : (outcome (dropReference id) s').2 = s := congrArg Prod.snd hrefused
    have hkeeps := Keeps.dropReference apart_handles id s'
    rw [hs, hslots] at hkeeps
    have hempty : s.handles.get? dst = none := by
      rw [hkeeps, Slots.get?_erase, if_pos rfl]
    rw [destroy, outcome_bind_ok (outcome_get _)] at hr
    rw [show (s.replace id { d with refCount := d.refCount + 1 }).handles.get? dst = none
      from hempty] at hr
    cases hr

/-- Copying onto a handle is refused where destroying it is. A handle may always be copied onto
itself. -/
theorem refused_referenceCopy_iff (h : Books base refs reads s) {src : Option String}
    {dst : String} :
    Refused (referenceCopy src dst) s ↔
      (∃ id d, s.handles.get? dst = some id ∧ s.table[id]? = some d ∧ s.Blocked id d) ∧
        src ≠ some dst := by
  cases hsrc : src.bind s.handles.get? with
  | none =>
    have hsame : outcome (referenceCopy src dst) s = outcome (destroy dst) s := by
      rw [referenceCopy, outcome_bind_ok (outcome_get s), hsrc]
    rw [Refused, hsame, ← Refused, h.refused_destroy_iff]
    refine ⟨fun hb => ⟨hb, ?_⟩, fun hb => hb.1⟩
    rintro rfl
    obtain ⟨id, d, hn, -⟩ := hb
    rw [Option.bind_some, hn] at hsrc
    cases hsrc
  | some id =>
    obtain ⟨name, rfl, hn⟩ := Option.bind_eq_some_iff.1 hsrc
    obtain ⟨d, hd⟩ := exists_getElem? (h.lt_of_handle hn)
    constructor
    · intro hrefused
      obtain ⟨hb, hne⟩ := h.exists_blocked_of_refused_referenceCopy hn hd hrefused
      exact ⟨hb, fun heq => hne (Option.some.inj heq)⟩
    · rintro ⟨⟨id', d', hn', hd', hb⟩, hne⟩
      exact h.refused_referenceCopy_of_blocked hn hd hn' hd' hb fun heq => hne (congrArg some heq)

end Books

end GatherScatter.Session
