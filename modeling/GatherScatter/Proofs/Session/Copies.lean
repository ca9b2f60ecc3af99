import GatherScatter.Proofs.Session.Dispatch

/-!
# Copies of a restriction

A copy is derived from a restriction in a mode of its own, or from another copy of it, and uses the
data of the root. `Copy` says how a handle on one came about; what happened in between is arbitrary,
and in particular the handles on the way may be gone.

* `Copy.exists_finds`: whatever the backend, a handle on a copy finds the data that the restriction
  had, and its own mode is the one that was asked for last.
-/
namespace GatherScatter.Session

variable {σ α : Type} [IntCast α]

/-- From the restriction that `r` was a handle on in the session `s₀`, derivations in `modes`, the
last one first, led to the one that `name` is a handle on in the session `s`. -/
inductive Copy (s₀ : Session σ α) (r : String) : Session σ α → String → List Mode → Prop
  /-- Nothing is derived yet. -/
  | self : Copy s₀ r s₀ r []
  /-- One derivation more. -/
  | derive {s : Session σ α} {name : String} {modes : List Mode} (h : Copy s₀ r s name modes)
      (mode : Mode) (newName : String)
      (hok : (outcome (Session.derive name mode newName) s).1 = .ok ()) :
      Copy s₀ r (s.after (.derive name mode newName)) newName (mode :: modes)
  /-- Any call, after which `newName` is a handle on what `name` was a handle on. -/
  | follow {s : Session σ α} {name : String} {modes : List Mode} (h : Copy s₀ r s name modes)
      (call : Call σ α) (newName : String)
      (hsame : (s.after call).handles.get? newName = s.handles.get? name) :
      Copy s₀ r (s.after call) newName modes

namespace Copy

variable {s₀ s : Session σ α} {r name : String} {modes : List Mode}

/-- What happened since are calls. -/
theorem exists_run (h : Copy s₀ r s name modes) : ∃ calls, s = s₀.run calls := by
  induction h with
  | self => exact ⟨[], rfl⟩
  | derive _ mode newName _ ih =>
    obtain ⟨calls, rfl⟩ := ih
    exact ⟨_, (run_concat s₀ calls _).symm⟩
  | follow _ call _ _ ih =>
    obtain ⟨calls, rfl⟩ := ih
    exact ⟨_, (run_concat s₀ calls _).symm⟩

/-- A handle on a copy finds the data of the restriction, and its descriptor differs from that of
the restriction in the mode and in whom it keeps alive. By induction on the chain; the books of each
session say that what was there before still is. -/
theorem exists_finds (h : Copy s₀ r s name modes) (hb : Books s₀ [] [] s₀) {id₀ : Nat}
    {d₀ root₀ : Descriptor σ α} {c : Compiled σ α} (hf : s₀.Finds r id₀ d₀ root₀ c) :
    ∃ id d root, s.Finds name id d root c ∧ d.root id = d₀.root id₀ ∧ d.shape = d₀.shape ∧
      d.eLayout = d₀.eLayout ∧ d.mode = modes.headD d₀.mode := by
  induction h with
  | self => exact ⟨id₀, d₀, root₀, hf, rfl, rfl, rfl, rfl⟩
  | @derive s name modes h mode newName hok ih =>
    obtain ⟨id, d, root, hfs, hroot, hshape, hlayout, -⟩ := ih
    obtain ⟨calls, rfl⟩ := h.exists_run
    have hbs := hb.after_run calls
    have hcap : outcome (withCapability id mode.capability fun _ => pure ()) (s₀.run calls) =
        (.ok (), s₀.run calls) := by
      have hrun := hfs.outcome_withCapability mode.capability fun _ => (pure () : Effect σ Unit)
      by_cases hc : c.supports mode.capability
      · rw [hrun, if_pos hc]
        rfl
      · rw [if_neg hc] at hrun
        rw [Session.derive, outcome_bind_ok (outcome_held hfs.handle),
          outcome_bind_error hrun] at hok
        cases hok
    have hderive := outcome_derive hfs.handle hcap hfs.entry newName
    obtain ⟨d', hn', hd', hcont⟩ := (hbs.push_derived hfs.handle hfs.entry mode).exists_assigned
      (getElem?_withDerived _ id d mode) newName
    have hbs' := hbs.after_call (.derive name mode newName)
    rw [after, hderive] at hbs' ⊢
    have hroot' : d'.root (s₀.run calls).table.size = d₀.root id₀ := by
      rw [Descriptor.root, hcont.ancestors, ← hroot, Descriptor.root, List.getLastD_cons]
    obtain ⟨root', hfs', -⟩ := hbs'.exists_finds_of_root hn' hd' hroot' hf.root hf.data
    exact ⟨_, d', root', hfs', hroot', hcont.shape.trans hshape, hcont.eLayout.trans hlayout,
      hcont.mode⟩
  | @follow s name modes h call newName hsame ih =>
    obtain ⟨id, d, root, hfs, hroot, hshape, hlayout, hmode⟩ := ih
    obtain ⟨calls, rfl⟩ := h.exists_run
    have hbs := hb.after_run calls
    obtain ⟨d', hd', hcont⟩ := (hbs.rebase.after_call call).grows id d hfs.entry
    have hroot' : d'.root id = d₀.root id₀ := by
      rw [Descriptor.root, hcont.ancestors, ← Descriptor.root, hroot]
    obtain ⟨root', hfs', -⟩ := (hbs.after_call call).exists_finds_of_root (hsame.trans hfs.handle)
      hd' hroot' hf.root hf.data
    exact ⟨id, d', root', hfs', hroot', hcont.shape.trans hshape, hcont.eLayout.trans hlayout,
      hcont.mode.trans hmode⟩

end Copy

end GatherScatter.Session
