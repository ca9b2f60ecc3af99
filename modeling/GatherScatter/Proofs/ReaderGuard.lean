import GatherScatter.Proofs.Session.Reference
import GatherScatter.Proofs.Session.Retention

/-!
# The reader guard

A handle is guarded while giving it up would release data that someone still reads: all references
from its descriptor on to the root are the last ones, and views of the root are checked out. Exactly
then `destroy` and `referenceCopy` refuse to give it up, and a refusal leaves no trace.

* `Guarded`: a guarded handle, in terms of counts of references and of views.
* `reader_guard_exact`: who is refused in the states that can be reached, when this ends, and what
  it is good for.
-/
namespace GatherScatter.Session

variable {σ α : Type}

/-- Every descriptor on the chain from that of the handle to its root has a single reference, and
views are checked out that come from this root. -/
def Guarded (s : Session σ α) (origins : Slots Nat) (name : String) : Prop :=
  ∃ (id : Nat) (d : Descriptor σ α), s.handles.get? name = some id ∧ s.table[id]? = some d ∧
    (∀ j ∈ id :: d.ancestors, ∃ dj : Descriptor σ α, s.table[j]? = some dj ∧ dj.refCount = 1) ∧
    0 < s.viewsFrom origins (d.root id)

theorem guarded_iff {s : Session σ α} {origins : Slots Nat} (hb : Books s [] [] s)
    (ht : s.Tracked origins) {name : String} :
    s.Guarded origins name ↔
      ∃ id d, s.handles.get? name = some id ∧ s.table[id]? = some d ∧ s.Blocked id d := by
  have hreaders {root : Nat} {r : Descriptor σ α} (hr : s.table[root]? = some r) :
      r.readers = s.viewsFrom origins root := by
    rw [hb.readers root r hr, ht.viewsFrom_eq]
    rfl
  constructor
  · rintro ⟨id, d, hn, hd, hsole, hviews⟩
    obtain ⟨r, hr, -⟩ := hb.exists_root hd
    exact ⟨id, d, hn, hd, hsole, r, hr, by rw [hreaders hr]; exact hviews⟩
  · rintro ⟨id, d, hn, hd, hsole, r, hr, hpos⟩
    exact ⟨id, d, hn, hd, hsole, by rw [← hreaders hr]; exact hpos⟩

theorem handles_restore (s : Session σ α) (viewName : String) :
    (outcome (restore viewName) s).2.handles = s.handles := by
  rw [restore, view]
  cases hv : s.views.get? viewName with
  | none =>
    rw [outcome_bind_error (by rw [outcome_bind_ok (outcome_get s), hv, outcome_throw])]
  | some v =>
    rw [outcome_bind_ok (by rw [outcome_bind_ok (outcome_get s), hv, outcome_pure]),
      outcome_bind_ok (outcome_modify _ s)]
    rfl

variable [IntCast α]

/-- Restores leave the handles alone, and the views of the other slots. -/
theorem run_restores (s : Session σ α) (slots : List String) :
    (s.run (slots.map .restore)).handles = s.handles ∧
      ∀ e ∈ (s.run (slots.map .restore)).views.entries, e.1 ∉ slots ∧ e ∈ s.views.entries := by
  induction slots generalizing s with
  | nil => exact ⟨rfl, fun e he => ⟨List.not_mem_nil, he⟩⟩
  | cons slot slots ih =>
    obtain ⟨hhandles, hviews⟩ := ih (s.after (.restore slot))
    refine ⟨hhandles.trans (handles_restore s slot), fun e he => ?_⟩
    obtain ⟨hnot, he⟩ := hviews e he
    obtain ⟨hne, he⟩ := views_restore s slot e he
    exact ⟨fun hmem => (List.mem_cons.1 hmem).elim hne hnot, he⟩

/-- Once the views that come from the root of a handle are given back, no reader is in its way. -/
theorem not_blocked_of_restores {s : Session σ α} {origins : Slots Nat} (hb : Books s [] [] s)
    (ht : s.Tracked origins) {name : String} {id : Nat} {d : Descriptor σ α} {slots : List String}
    (hn : s.handles.get? name = some id) (hd : s.table[id]? = some d)
    (hslots : ∀ e ∈ s.views.entries, s.originRoot origins e.1 = some (d.root id) → e.1 ∈ slots)
    {id' : Nat} {d' : Descriptor σ α}
    (hn' : (s.run (slots.map .restore)).handles.get? name = some id')
    (hd' : (s.run (slots.map .restore)).table[id']? = some d') :
    ¬ (s.run (slots.map .restore)).Blocked id' d' := by
  rintro ⟨-, r, hr, hreaders⟩
  have hb' := hb.after_run (slots.map .restore)
  obtain ⟨hhandles, hviews⟩ := s.run_restores slots
  rw [hhandles, hn] at hn'
  cases hn'
  obtain ⟨d₁, hd₁, hc⟩ := hb'.grows id d hd
  rw [hd'] at hd₁
  cases hd₁
  rw [hb'.readers _ r hr, Descriptor.root, hc.ancestors, ← Descriptor.root] at hreaders
  obtain ⟨e, he, hroot⟩ := List.countP_pos_iff.1 hreaders
  obtain ⟨hnot, he⟩ := hviews e he
  refine hnot (hslots e he ?_)
  rw [ht e he, of_decide_eq_true hroot]

/-- However a session got where it is:

* `destroy` refuses exactly the guarded handles, with nothing changed, and empties the slot of every
  other one;
* so does `referenceCopy` with its destination, unless that is the source as well;
* once the views that come from the root of a handle are given back, in whatever order and with
  whatever other ones, the handle can be destroyed;
* if handles were only ever given up by these two operations, a root without data has no views. -/
theorem reader_guard_exact (registry : Registry σ α) (world : σ) (calls : List (Call σ α)) :
    let s := (start registry world).run calls
    let origins := (start registry world).viewOrigins {} calls
    (∀ name, (Refused (destroy name) s ↔ s.Guarded origins name) ∧
      (¬ s.Guarded origins name →
        (outcome (destroy name) s).2.handles = s.handles.erase name)) ∧
    (∀ src dst, Refused (referenceCopy src dst) s ↔ s.Guarded origins dst ∧ src ≠ some dst) ∧
    (∀ (name : String) (id : Nat) (d : Descriptor σ α) (slots : List String),
      s.handles.get? name = some id → s.table[id]? = some d →
      (∀ e ∈ s.views.entries, s.originRoot origins e.1 = some (d.root id) → e.1 ∈ slots) →
        ¬ Refused (destroy name) (s.run (slots.map .restore)) ∧
        (outcome (destroy name) (s.run (slots.map .restore))).2.handles = s.handles.erase name) ∧
    (ExplicitRun (start registry world) calls →
      ∀ (root : Nat) (r : Descriptor σ α), s.table[root]? = some r → r.ancestors = [] →
        r.data = none → s.viewsFrom origins root = 0) := by
  intro s origins
  have hb : Books s [] [] s := ((books_start registry world).after_run calls).rebase
  have ht : s.Tracked origins :=
    Tracked.after_run (s := start registry world) nofun (books_start registry world) calls
  refine ⟨fun name => ⟨?_, fun hg => ?_⟩, fun src dst => ?_, fun name id d slots hn hd hslots => ?_,
    fun hexplicit root r hr hroot hnone => ?_⟩
  · rw [hb.refused_destroy_iff, guarded_iff hb ht]
  · rw [guarded_iff hb ht] at hg
    exact hb.handles_destroy fun id d hn hd hblocked => hg ⟨id, d, hn, hd, hblocked⟩
  · rw [hb.refused_referenceCopy_iff, guarded_iff hb ht]
  · have hb' := (hb.after_run (slots.map .restore)).rebase
    have hslots' := hb'.handles_destroy fun id' d' hn' hd' =>
      not_blocked_of_restores hb ht hn hd hslots hn' hd'
    refine ⟨fun hrefused => ?_, by rw [hslots', (s.run_restores slots).1]⟩
    obtain ⟨id', d', hn', hd', hblocked⟩ := hb'.refused_destroy_iff.1 hrefused
    exact not_blocked_of_restores hb ht hn hd hslots hn' hd' hblocked
  · have hbacked : s.Backed :=
      Backed.after_run (s := start registry world) nofun (books_start registry world) hexplicit
    rw [ht.viewsFrom_eq]
    by_contra hpos
    obtain ⟨e, he, hview⟩ := List.countP_pos_iff.1 (Nat.pos_of_ne_zero hpos)
    obtain ⟨r', c, hr', hc⟩ := hbacked e he
    rw [of_decide_eq_true hview, hr] at hr'
    cases hr'
    rw [hnone] at hc
    cases hc

/-- Offsets are checked out through a derived restriction, and then the handle on its root is
destroyed: the derived handle is guarded, until the view is given back. -/
theorem reader_guard_exact_derived :
    let calls : List (Call Unit Int) := [.create (referenceContext false) (.orientedLine 1) "r",
      .derive "r" .unsigned "u", .checkout "u" .offsets .host "v", .destroy "r"]
    let s : Session Unit Int := (start ⟨[]⟩ ()).run calls
    Refused (destroy "u") s ∧ Refused (referenceCopy none "u") s ∧
      ¬ Refused (referenceCopy (some "u") "u") s ∧ ¬ Refused (destroy "u") (s.run [.restore "v"]) ∧
      ExplicitRun (start ⟨[]⟩ ()) calls ∧ ∃ r, s.table[0]? = some r ∧ r.data.isSome := by
  intro calls s
  obtain ⟨hdestroy, hcopy, hrestored, hkept⟩ := reader_guard_exact ⟨[]⟩ () calls
  have hguarded : s.Guarded ((start ⟨[]⟩ ()).viewOrigins {} calls) "u" := by
    refine ⟨1, _, rfl, rfl, fun j hj => ?_, by decide⟩
    rcases List.mem_cons.1 hj with rfl | hj
    · exact ⟨_, rfl, rfl⟩
    · cases List.mem_singleton.1 hj
      exact ⟨_, rfl, rfl⟩
  have hexplicit : ExplicitRun (start ⟨[]⟩ ()) calls := by
    refine ⟨nofun, fun name id hn => ?_, fun name id hn => hn, trivial, trivial⟩
    have hnew : ((start ⟨[]⟩ ()).run (calls.take 2)).handles =
        ((start ⟨[]⟩ ()).run (calls.take 1)).handles.put "u" 1 := rfl
    change ((start ⟨[]⟩ ()).run (calls.take 2)).handles.get? name = some id
    rw [hnew, Slots.get?_put, if_neg]
    · exact hn
    · rintro rfl
      cases hn
  have hview : s.viewsFrom ((start ⟨[]⟩ ()).viewOrigins {} calls) 0 = 1 := rfl
  refine ⟨(hdestroy "u").1.2 hguarded, (hcopy none "u").2 ⟨hguarded, nofun⟩,
    fun h => ((hcopy (some "u") "u").1 h).2 rfl, (hrestored "u" 1 _ ["v"] rfl rfl ?_).1, hexplicit,
    _, rfl, ?_⟩
  · intro e he _
    cases List.mem_singleton.1 he
    exact List.mem_singleton_self "v"
  · rw [Option.isSome_iff_ne_none]
    intro hnone
    have := hkept hexplicit 0 _ rfl rfl hnone
    rw [hview] at this
    cases this

end GatherScatter.Session
