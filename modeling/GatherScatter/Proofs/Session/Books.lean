import GatherScatter.Proofs.Loops
import GatherScatter.Proofs.Session.Outcome
import GatherScatter.Proofs.Slots

/-!
# The books of a session

A reference to a descriptor is held by a handle, by a descriptor derived from it, or by the
operation that is under way; a reader of a root likewise by a view or by the operation. `Books`
says that all counts are exact, where `refs` and `reads` list what the operation holds, that data
are there exactly while they are referenced, and that nothing of the session `base`, from which the
operation started, got lost.

* `Books.retain`, `Books.decrement`, `Books.close`: taking and giving up a reference.
* `Books.push`: a new descriptor.
* `Books.lend`, `Books.giveBack`: one reader more, or less, at a root.
* `Books.putHandle`, `Books.eraseHandle`, `Books.putView`, `Books.eraseView`: what the operation
  holds passes to a slot, and back.
-/
namespace GatherScatter

variable {σ α : Type}

namespace Descriptor

/-- `d'` is `d` at a later time: only the counts can differ, and the data may be gone. -/
structure Continues (d d' : Descriptor σ α) : Prop where
  context : d'.context = d.context
  shape : d'.shape = d.shape
  eLayout : d'.eLayout = d.eLayout
  mode : d'.mode = d.mode
  ancestors : d'.ancestors = d.ancestors
  data : d'.data = d.data ∨ d'.data = none

theorem Continues.refl (d : Descriptor σ α) : d.Continues d := ⟨rfl, rfl, rfl, rfl, rfl, .inl rfl⟩

theorem Continues.trans {d d' d'' : Descriptor σ α} (h : d.Continues d') (h' : d'.Continues d'') :
    d.Continues d'' where
  context := h'.context.trans h.context
  shape := h'.shape.trans h.shape
  eLayout := h'.eLayout.trans h.eLayout
  mode := h'.mode.trans h.mode
  ancestors := h'.ancestors.trans h.ancestors
  data := by
    rcases h'.data with h' | h'
    · rw [h']; exact h.data
    · exact .inr h'

/-- What `d` takes over from the descriptor that it is derived from. -/
structure Inherits (d d' : Descriptor σ α) : Prop where
  shape : d.shape = d'.shape
  eLayout : d.eLayout = d'.eLayout

theorem Inherits.refl (d : Descriptor σ α) : d.Inherits d := ⟨rfl, rfl⟩

theorem Inherits.trans {d d' d'' : Descriptor σ α} (h : d.Inherits d') (h' : d'.Inherits d'') :
    d.Inherits d'' := ⟨h.shape.trans h'.shape, h.eLayout.trans h'.eLayout⟩

/-- Time changes none of it. -/
theorem Continues.inherits {d d' : Descriptor σ α} (h : d.Continues d') :
    d.Inherits d' ∧ d'.Inherits d :=
  ⟨⟨h.shape.symm, h.eLayout.symm⟩, ⟨h.shape, h.eLayout⟩⟩

/-- Whether `d` is derived from the descriptor at `id` and keeps it alive. -/
def isChildOf (d : Descriptor σ α) (id : Nat) : Bool :=
  decide (d.ancestors.head? = some id ∧ 0 < d.refCount)

/-- A descriptor with references holds one to the one that it is derived from. -/
theorem isChildOf_eq_count {d : Descriptor σ α} (h : 0 < d.refCount) (id : Nat) :
    (if d.isChildOf id then 1 else 0) = d.ancestors.head?.toList.count id := by
  unfold isChildOf
  cases d.ancestors with
  | nil => simp
  | cons p rest => by_cases hp : p = id <;> simp [h, hp]

end Descriptor

namespace Session

/-- Number of handles on the descriptor at `id`. -/
def handlesOn (s : Session σ α) (id : Nat) : Nat := s.handles.count fun h => h = id

/-- Number of descriptors derived directly from the one at `id` that have references. -/
def childrenOf (s : Session σ α) (id : Nat) : Nat := s.table.countP (·.isChildOf id)

/-- Number of array views that show the data of the root at `root`. -/
def viewsOn (s : Session σ α) (root : Nat) : Nat := s.views.count fun v => v.root = root

/-- Whether there is a root at `id`. -/
def IsRoot (s : Session σ α) (id : Nat) : Prop := ∃ d, s.table[id]? = some d ∧ d.ancestors = []

/-- All counts are exact, with `refs` and `reads` held by the operation that started from `base`. -/
structure Books (base : Session σ α) (refs reads : List Nat) (s : Session σ α) : Prop where
  grows : ∀ (id : Nat) (d : Descriptor σ α), base.table[id]? = some d →
    ∃ d' : Descriptor σ α, s.table[id]? = some d' ∧ d.Continues d'
  handle : ∀ e ∈ s.handles.entries, e.2 < s.table.size
  pending : ∀ id ∈ refs, id < s.table.size
  view : ∀ e ∈ s.views.entries, s.IsRoot e.2.root
  reading : ∀ id ∈ reads, s.IsRoot id
  parent : ∀ (id : Nat) (d : Descriptor σ α) (p : Nat) (rest : List Nat), s.table[id]? = some d →
    d.ancestors = p :: rest →
      p < id ∧ ∃ d' : Descriptor σ α, s.table[p]? = some d' ∧ d'.ancestors = rest ∧
        d.Inherits d'
  refCount : ∀ (id : Nat) (d : Descriptor σ α), s.table[id]? = some d →
    d.refCount = s.handlesOn id + s.childrenOf id + refs.count id
  readers : ∀ (id : Nat) (d : Descriptor σ α), s.table[id]? = some d →
    d.readers = s.viewsOn id + reads.count id
  data : ∀ (id : Nat) (d : Descriptor σ α), s.table[id]? = some d →
    (d.data.isSome ↔ d.ancestors = [] ∧ 0 < d.refCount)

/-- Session `s` with the descriptor `d` at `id`. -/
def replace (s : Session σ α) (id : Nat) (d : Descriptor σ α) : Session σ α :=
  { s with table := s.table.setIfInBounds id d }

theorem lt_size_of_getElem? {s : Session σ α} {id : Nat} {d : Descriptor σ α}
    (h : s.table[id]? = some d) : id < s.table.size := (Array.getElem?_eq_some_iff.1 h).1

theorem exists_getElem? {s : Session σ α} {id : Nat} (h : id < s.table.size) :
    ∃ d, s.table[id]? = some d := ⟨_, Array.getElem?_eq_getElem h⟩

theorem getElem?_push {s : Session σ α} {id : Nat} {d : Descriptor σ α}
    (hd : s.table[id]? = some d) (d' : Descriptor σ α) :
    (Session.table { s with table := s.table.push d' })[id]? = some d := by
  rw [Array.getElem?_push_lt (lt_size_of_getElem? hd), ← hd,
    Array.getElem?_eq_getElem (lt_size_of_getElem? hd)]

theorem modify_eq_replace {s : Session σ α} {id : Nat} {d : Descriptor σ α}
    (h : s.table[id]? = some d) (f : Descriptor σ α → Descriptor σ α) :
    { s with table := s.table.modify id f } = s.replace id (f d) := by
  obtain ⟨hlt, hget⟩ := Array.getElem?_eq_some_iff.1 h
  have hset := Buffer.setIfInBounds_eq_modify hlt d f
  rw [Array.getD_eq_getD_getElem?, h, Option.getD_some] at hset
  rw [replace, hset]

theorem getElem?_replace {s : Session σ α} {id : Nat} {d : Descriptor σ α}
    (h : s.table[id]? = some d) (d' : Descriptor σ α) (j : Nat) :
    (s.replace id d').table[j]? = if j = id then some d' else s.table[j]? := by
  rw [replace, Array.getElem?_setIfInBounds]
  by_cases hj : id = j
  · rw [if_pos hj, if_pos (lt_size_of_getElem? h), if_pos hj.symm]
  · rw [if_neg hj, if_neg fun e => hj e.symm]

/-- What is in the table after a replacement. -/
theorem cases_replace {s : Session σ α} {id j : Nat} {d d' dj : Descriptor σ α}
    (h : s.table[id]? = some d) (hj : (s.replace id d').table[j]? = some dj) :
    j = id ∧ dj = d' ∨ j ≠ id ∧ s.table[j]? = some dj := by
  rw [getElem?_replace h] at hj
  by_cases heq : j = id
  · rw [if_pos heq] at hj
    exact .inl ⟨heq, (Option.some.inj hj).symm⟩
  · rw [if_neg heq] at hj
    exact .inr ⟨heq, hj⟩

/-- Nothing gets lost by a replacement that only changes counts or drops data. -/
theorem exists_replace {s : Session σ α} {id j : Nat} {d d' dj : Descriptor σ α}
    (h : s.table[id]? = some d) (hc : d.Continues d') (hj : s.table[j]? = some dj) :
    ∃ dj', (s.replace id d').table[j]? = some dj' ∧ dj.Continues dj' := by
  rw [getElem?_replace h]
  by_cases heq : j = id
  · subst heq
    rw [h] at hj
    cases hj
    exact ⟨d', if_pos rfl, hc⟩
  · exact ⟨dj, by rw [if_neg heq, hj], .refl dj⟩

theorem childrenOf_replace {s : Session σ α} {id : Nat} {d : Descriptor σ α}
    (h : s.table[id]? = some d) (d' : Descriptor σ α) (j : Nat) :
    (s.replace id d').childrenOf j + (if d.isChildOf j then 1 else 0) =
      s.childrenOf j + if d'.isChildOf j then 1 else 0 := by
  obtain ⟨hlt, rfl⟩ := Array.getElem?_eq_some_iff.1 h
  have hle : (if s.table[id].isChildOf j then 1 else 0) ≤ s.table.countP (·.isChildOf j) := by
    split
    · exact Array.countP_pos_iff.2 ⟨s.table[id], Array.getElem_mem hlt, by assumption⟩
    · exact Nat.zero_le _
  rw [childrenOf, childrenOf, replace, Array.setIfInBounds, dif_pos hlt, Array.countP_set]
  omega

theorem childrenOf_pos {s : Session σ α} {id p : Nat} {rest : List Nat} {d : Descriptor σ α}
    (hd : s.table[id]? = some d) (hpos : 0 < d.refCount) (hanc : d.ancestors = p :: rest) :
    0 < s.childrenOf p := by
  refine Array.countP_pos_iff.2 ⟨d, Array.mem_of_getElem? hd, ?_⟩
  simp [Descriptor.isChildOf, hanc, hpos]

namespace Books

variable {base s : Session σ α} {refs reads : List Nat} {id : Nat} {d : Descriptor σ α}

/-- The books only look at the table and the slots. -/
theorem congr {s' : Session σ α} (h : Books base refs reads s) (ht : s'.table = s.table)
    (hh : s'.handles = s.handles) (hv : s'.views = s.views) : Books base refs reads s' := by
  obtain ⟨registry, world, serial, table, handles, views⟩ := s
  obtain ⟨registry', world', serial', table', handles', views'⟩ := s'
  cases ht
  cases hh
  cases hv
  exact ⟨h.grows, h.handle, h.pending, h.view, h.reading, h.parent, h.refCount, h.readers, h.data⟩

/-- The session itself can stand for the one that the operation started from. -/
theorem rebase (h : Books base refs reads s) : Books s refs reads s :=
  ⟨fun _ d hd => ⟨d, hd, .refl d⟩, h.handle, h.pending, h.view, h.reading, h.parent, h.refCount,
    h.readers, h.data⟩

theorem lt_of_handle (h : Books base refs reads s) {name : String}
    (hn : s.handles.get? name = some id) : id < s.table.size :=
  h.handle _ (Slots.get?_eq_some_iff.1 hn)

/-- What has a handle has a reference. -/
theorem refCount_pos_of_handle (h : Books base refs reads s) {name : String}
    (hn : s.handles.get? name = some id) (hd : s.table[id]? = some d) : 0 < d.refCount := by
  have := Slots.count_pos (p := fun h => h = id) hn (by simp)
  rw [h.refCount id d hd, handlesOn]
  omega

theorem refCount_pos_of_pending (h : Books base (id :: refs) reads s)
    (hd : s.table[id]? = some d) : 0 < d.refCount := by
  rw [h.refCount id d hd, List.count_cons_self]
  omega

/-- No descriptor is derived from one that comes later. -/
theorem not_isChildOf {d' : Descriptor σ α} (h : Books base refs reads s) {j k : Nat}
    (hj : s.table[j]? = some d) (hc : d.Continues d') (hk : j ≤ k) : d'.isChildOf k = false := by
  rw [Descriptor.isChildOf, decide_eq_false_iff_not, hc.ancestors]
  rintro ⟨hhead, -⟩
  obtain ⟨rest, hrest⟩ := List.head?_eq_some_iff.1 hhead
  have := (h.parent j d k rest hj hrest).1
  omega

theorem isRoot_replace {d' : Descriptor σ α} (hd : s.table[id]? = some d) (hc : d.Continues d')
    {j : Nat} (hj : s.IsRoot j) : (s.replace id d').IsRoot j := by
  obtain ⟨dj, hj, hanc⟩ := hj
  obtain ⟨dj', hj', hcj⟩ := exists_replace hd hc hj
  exact ⟨dj', hj', hcj.ancestors.trans hanc⟩

/-- What replacing a descriptor needs. -/
theorem replace {d' : Descriptor σ α} {refs' reads' : List Nat} (h : Books base refs reads s)
    (hd : s.table[id]? = some d) (hc : d.Continues d')
    (hpending : ∀ j ∈ refs', j < s.table.size) (hreading : ∀ j ∈ reads', s.IsRoot j)
    (hself : d'.refCount + refs.count id = d.refCount + refs'.count id)
    (hothers : ∀ j ≠ id, (s.replace id d').childrenOf j + refs'.count j =
      s.childrenOf j + refs.count j)
    (hreaders : d'.readers + reads.count id = d.readers + reads'.count id)
    (hreads : ∀ j ≠ id, reads'.count j = reads.count j)
    (hdata : d'.data.isSome ↔ d'.ancestors = [] ∧ 0 < d'.refCount) :
    Books base refs' reads' (s.replace id d') where
  grows j dj hj := by
    obtain ⟨dj₁, hj₁, hc₁⟩ := h.grows j dj hj
    obtain ⟨dj₂, hj₂, hc₂⟩ := exists_replace hd hc hj₁
    exact ⟨dj₂, hj₂, hc₁.trans hc₂⟩
  handle e he := by
    rw [Session.replace, Array.size_setIfInBounds]
    exact h.handle e he
  pending j hj := by
    rw [Session.replace, Array.size_setIfInBounds]
    exact hpending j hj
  view e he := isRoot_replace hd hc (h.view e he)
  reading j hj := isRoot_replace hd hc (hreading j hj)
  parent j dj p rest hj hanc := by
    have hbefore : ∃ dj₀, s.table[j]? = some dj₀ ∧ dj₀.ancestors = p :: rest ∧
        dj.Inherits dj₀ := by
      rcases cases_replace hd hj with ⟨rfl, rfl⟩ | ⟨-, hj⟩
      · exact ⟨d, hd, hc.ancestors ▸ hanc, hc.inherits.2⟩
      · exact ⟨dj, hj, hanc, .refl dj⟩
    obtain ⟨dj₀, hj₀, hanc₀, hsame⟩ := hbefore
    obtain ⟨hlt, dp, hp, hrest, hps⟩ := h.parent j dj₀ p rest hj₀ hanc₀
    obtain ⟨dp', hp', hcp⟩ := exists_replace hd hc hp
    exact ⟨hlt, dp', hp', hcp.ancestors.trans hrest, hsame.trans (hps.trans hcp.inherits.1)⟩
  refCount j dj hj := by
    change dj.refCount = s.handlesOn j + _ + _
    rcases cases_replace hd hj with ⟨rfl, rfl⟩ | ⟨hne, hj⟩
    · have hkids := childrenOf_replace hd dj j
      rw [h.not_isChildOf hd (.refl d) (Nat.le_refl j),
        h.not_isChildOf hd hc (Nat.le_refl j)] at hkids
      simp only [Bool.false_eq_true, if_false] at hkids
      have := h.refCount j d hd
      omega
    · have := h.refCount j dj hj
      have := hothers j hne
      omega
  readers j dj hj := by
    change dj.readers = s.viewsOn j + _
    rcases cases_replace hd hj with ⟨rfl, rfl⟩ | ⟨hne, hj⟩
    · have := h.readers j d hd
      omega
    · rw [h.readers j dj hj, hreads j hne]
  data j dj hj := by
    rcases cases_replace hd hj with ⟨rfl, rfl⟩ | ⟨-, hj⟩
    · exact hdata
    · exact h.data j dj hj

/-! ## References -/

theorem childrenOf_replace_of_pos {d' : Descriptor σ α} (hd : s.table[id]? = some d)
    (hc : d.Continues d') (hpos : 0 < d'.refCount ↔ 0 < d.refCount) (j : Nat) :
    (s.replace id d').childrenOf j = s.childrenOf j := by
  have hkids := childrenOf_replace hd d' j
  have hsame : d'.isChildOf j = d.isChildOf j := by
    simp only [Descriptor.isChildOf, hc.ancestors, hpos]
  rw [hsame] at hkids
  omega

/-- Taking a reference to what already has one. -/
theorem retain (h : Books base refs reads s) (hd : s.table[id]? = some d)
    (hpos : 0 < d.refCount) :
    Books base (id :: refs) reads (s.replace id { d with refCount := d.refCount + 1 }) := by
  have hc : d.Continues { d with refCount := d.refCount + 1 } := ⟨rfl, rfl, rfl, rfl, rfl, .inl rfl⟩
  refine h.replace hd hc (fun j hj => ?_) h.reading ?_ (fun j hj => ?_) rfl (fun _ _ => rfl) ?_
  · rcases List.mem_cons.1 hj with rfl | hj
    · exact lt_size_of_getElem? hd
    · exact h.pending j hj
  · rw [List.count_cons_self]
    dsimp only
    omega
  · rw [childrenOf_replace_of_pos hd hc (by dsimp only; omega), List.count_cons_of_ne (Ne.symm hj)]
  · rw [h.data id d hd]
    dsimp only
    exact and_congr_right fun _ => by omega

/-- Giving up a reference that is not the last. -/
theorem decrement (h : Books base (id :: refs) reads s) (hd : s.table[id]? = some d)
    (hlt : 1 < d.refCount) :
    Books base refs reads (s.replace id { d with refCount := d.refCount - 1 }) := by
  have hc : d.Continues { d with refCount := d.refCount - 1 } := ⟨rfl, rfl, rfl, rfl, rfl, .inl rfl⟩
  refine h.replace hd hc (fun j hj => h.pending j (List.mem_cons_of_mem id hj)) h.reading ?_
    (fun j hj => ?_) rfl (fun _ _ => rfl) ?_
  · rw [List.count_cons_self]
    dsimp only
    omega
  · rw [childrenOf_replace_of_pos hd hc (by dsimp only; omega), List.count_cons_of_ne (Ne.symm hj)]
  · rw [h.data id d hd]
    dsimp only
    exact and_congr_right fun _ => by omega

/-- Giving up the last reference, and with it the data of a root, or a reference to the parent. -/
theorem close (h : Books base (id :: refs) reads s) (hd : s.table[id]? = some d)
    (hone : d.refCount = 1) :
    Books base (d.ancestors.head?.toList ++ refs) reads
      (s.replace id { d with refCount := 0, data := none }) := by
  have hc : d.Continues { d with refCount := 0, data := none } :=
    ⟨rfl, rfl, rfl, rfl, rfl, .inr rfl⟩
  have hparent := d.isChildOf_eq_count (by omega)
  refine h.replace hd hc (fun j hj => ?_) h.reading ?_ (fun j hj => ?_) rfl (fun _ _ => rfl) ?_
  · rcases List.mem_append.1 hj with hj | hj
    · rw [Option.mem_toList, List.head?_eq_some_iff] at hj
      obtain ⟨rest, hrest⟩ := hj
      obtain ⟨hlt, -⟩ := h.parent id d j rest hd hrest
      exact Nat.lt_trans hlt (lt_size_of_getElem? hd)
    · exact h.pending j (List.mem_cons_of_mem id hj)
  · have := hparent id
    rw [h.not_isChildOf hd (.refl d) (Nat.le_refl id)] at this
    rw [List.count_cons_self, List.count_append, ← this]
    simp only [Bool.false_eq_true, if_false]
    omega
  · have hkids := childrenOf_replace hd { d with refCount := 0, data := none } j
    have hclosed : Descriptor.isChildOf { d with refCount := 0, data := none } j = false := by
      simp [Descriptor.isChildOf]
    rw [hclosed, hparent j] at hkids
    rw [List.count_append, List.count_cons_of_ne (Ne.symm hj)]
    simp only [Bool.false_eq_true, if_false] at hkids
    omega
  · simp

/-- Nothing refers to the place of the next descriptor. -/
theorem fresh (h : Books base refs reads s) :
    s.handlesOn s.table.size = 0 ∧ s.childrenOf s.table.size = 0 ∧ refs.count s.table.size = 0 ∧
      s.viewsOn s.table.size = 0 ∧ reads.count s.table.size = 0 := by
  have hnoRoot : ¬ s.IsRoot s.table.size := by
    rintro ⟨d, hd, -⟩
    exact Nat.lt_irrefl _ (lt_size_of_getElem? hd)
  refine ⟨?_, ?_, ?_, ?_, ?_⟩
  · rw [handlesOn, Slots.count, List.countP_eq_zero]
    intro e he heq
    have := h.handle e he
    simp only [decide_eq_true_eq] at heq
    omega
  · rw [childrenOf, Array.countP_eq_zero]
    intro d hd hchild
    obtain ⟨j, hj, rfl⟩ := Array.mem_iff_getElem.1 hd
    rw [h.not_isChildOf (Array.getElem?_eq_getElem hj) (.refl _) (Nat.le_of_lt hj)] at hchild
    cases hchild
  · rw [List.count_eq_zero]
    exact fun hmem => Nat.lt_irrefl _ (h.pending _ hmem)
  · rw [viewsOn, Slots.count, List.countP_eq_zero]
    intro e he heq
    simp only [decide_eq_true_eq] at heq
    exact hnoRoot (heq ▸ h.view e he)
  · rw [List.count_eq_zero]
    exact fun hmem => hnoRoot (h.reading _ hmem)

/-- A new descriptor; its parent, if it has one, was referenced for it. -/
theorem push {d : Descriptor σ α} (h : Books base (d.ancestors.head?.toList ++ refs) reads s)
    (hparent : ∀ p rest, d.ancestors = p :: rest →
      ∃ d' : Descriptor σ α, s.table[p]? = some d' ∧ d'.ancestors = rest ∧ d.Inherits d')
    (hrefs : d.refCount = 1) (hreaders : d.readers = 0) (hdata : d.data.isSome ↔ d.ancestors = []) :
    Books base (s.table.size :: refs) reads { s with table := s.table.push d } := by
  have hold : ∀ {j : Nat} {dj : Descriptor σ α}, s.table[j]? = some dj →
      (s.table.push d)[j]? = some dj := fun hj => getElem?_push hj d
  have hnew : ∀ {j : Nat} {dj : Descriptor σ α}, (s.table.push d)[j]? = some dj →
      j = s.table.size ∧ dj = d ∨ j ≠ s.table.size ∧ s.table[j]? = some dj := by
    intro j dj hj
    rw [Array.getElem?_push] at hj
    split at hj
    · cases hj
      exact .inl ⟨by assumption, rfl⟩
    · exact .inr ⟨by assumption, hj⟩
  have hroot : ∀ {j : Nat}, s.IsRoot j → IsRoot { s with table := s.table.push d } j :=
    fun ⟨dj, hj, hanc⟩ => ⟨dj, hold hj, hanc⟩
  -- the new descriptor takes over the reference to its parent
  have hkids : ∀ j, childrenOf { s with table := s.table.push d } j + refs.count j =
      s.childrenOf j + (d.ancestors.head?.toList ++ refs).count j := by
    intro j
    rw [List.count_append, ← d.isChildOf_eq_count (by omega), childrenOf, Array.countP_push,
      childrenOf]
    omega
  obtain ⟨hf1, hf2, hf3, hf4, hf5⟩ := h.fresh
  exact {
    grows := fun j dj hj => by
      obtain ⟨dj', hj', hcj⟩ := h.grows j dj hj
      exact ⟨dj', hold hj', hcj⟩
    handle := fun e he => by
      have := h.handle e he
      rw [Array.size_push]
      omega
    pending := fun j hj => by
      rw [Array.size_push]
      rcases List.mem_cons.1 hj with rfl | hj
      · omega
      · have := h.pending j (List.mem_append_right _ hj)
        omega
    view := fun e he => hroot (h.view e he)
    reading := fun j hj => hroot (h.reading j hj)
    parent := fun j dj p rest hj hanc => by
      rcases hnew hj with ⟨rfl, rfl⟩ | ⟨-, hj⟩
      · obtain ⟨dp, hp, hprest⟩ := hparent p rest hanc
        exact ⟨lt_size_of_getElem? hp, dp, hold hp, hprest⟩
      · obtain ⟨hlt, dp, hp, hprest⟩ := h.parent j dj p rest hj hanc
        exact ⟨hlt, dp, hold hp, hprest⟩
    refCount := fun j dj hj => by
      have hkj := hkids j
      change dj.refCount = s.handlesOn j + _ + _
      rcases hnew hj with ⟨rfl, rfl⟩ | ⟨hne, hj⟩
      · rw [List.count_cons_self]
        omega
      · rw [h.refCount j dj hj, List.count_cons_of_ne (Ne.symm hne)]
        omega
    readers := fun j dj hj => by
      change dj.readers = s.viewsOn j + _
      rcases hnew hj with ⟨rfl, rfl⟩ | ⟨hne, hj⟩
      · omega
      · exact h.readers j dj hj
    data := fun j dj hj => by
      rcases hnew hj with ⟨rfl, rfl⟩ | ⟨hne, hj⟩
      · rw [hdata, hrefs]
        simp
      · exact h.data j dj hj }

/-! ## Readers -/

/-- One reader more at a root. -/
theorem lend (h : Books base refs reads s) (hd : s.table[id]? = some d) (hroot : d.ancestors = []) :
    Books base refs (id :: reads) (s.replace id { d with readers := d.readers + 1 }) := by
  have hc : d.Continues { d with readers := d.readers + 1 } := ⟨rfl, rfl, rfl, rfl, rfl, .inl rfl⟩
  refine h.replace hd hc h.pending (fun j hj => ?_) rfl (fun j hj => ?_) ?_
    (fun j hj => List.count_cons_of_ne (Ne.symm hj)) (h.data id d hd)
  · rcases List.mem_cons.1 hj with rfl | hj
    · exact ⟨d, hd, hroot⟩
    · exact h.reading j hj
  · rw [childrenOf_replace_of_pos hd hc Iff.rfl]
  · rw [List.count_cons_self]
    dsimp only
    omega

/-- One reader less at a root. -/
theorem giveBack (h : Books base refs (id :: reads) s) (hd : s.table[id]? = some d) :
    Books base refs reads (s.replace id { d with readers := d.readers - 1 }) := by
  have hc : d.Continues { d with readers := d.readers - 1 } := ⟨rfl, rfl, rfl, rfl, rfl, .inl rfl⟩
  have hpos := h.readers id d hd
  rw [List.count_cons_self] at hpos
  refine h.replace hd hc h.pending (fun j hj => h.reading j (List.mem_cons_of_mem id hj)) rfl
    (fun j hj => ?_) ?_ (fun j hj => (List.count_cons_of_ne (Ne.symm hj)).symm) (h.data id d hd)
  · rw [childrenOf_replace_of_pos hd hc Iff.rfl]
  · rw [List.count_cons_self]
    dsimp only
    omega

/-! ## Slots -/

theorem countP_toList (o : Option Nat) (j : Nat) :
    o.toList.countP (fun i => i = j) = o.toList.count j := by
  rw [List.count]
  rfl

/-- A reference passes to a handle; what the handle referenced is left over. -/
theorem putHandle (h : Books base (id :: refs) reads s) (name : String) :
    Books base ((s.handles.get? name).toList ++ refs) reads
      { s with handles := s.handles.put name id } where
  grows := h.grows
  handle e he := by
    rcases Slots.mem_entries_put.1 he with rfl | ⟨-, he⟩
    · exact h.pending id List.mem_cons_self
    · exact h.handle e he
  pending j hj := by
    rcases List.mem_append.1 hj with hj | hj
    · exact h.lt_of_handle (Option.mem_toList.1 hj)
    · exact h.pending j (List.mem_cons_of_mem id hj)
  view := h.view
  reading := h.reading
  parent := h.parent
  refCount j d hd := by
    have hput := s.handles.count_put name id fun h => h = j
    have hold := h.refCount j d hd
    have hid : (id :: refs).count j = refs.count j + if id = j then 1 else 0 := by
      simp [List.count_cons]
    rw [countP_toList] at hput
    rw [hid] at hold
    rw [List.count_append]
    change d.refCount = (s.handles.put name id).count _ + s.childrenOf j + _
    rw [handlesOn] at hold
    simp only [decide_eq_true_eq] at hput
    omega
  readers := h.readers
  data := h.data

/-- The reference of a handle is left over when its slot is emptied. -/
theorem eraseHandle (h : Books base refs reads s) (name : String) :
    Books base ((s.handles.get? name).toList ++ refs) reads
      { s with handles := s.handles.erase name } where
  grows := h.grows
  handle e he := h.handle e (Slots.mem_entries_erase.1 he).2
  pending j hj := by
    rcases List.mem_append.1 hj with hj | hj
    · exact h.lt_of_handle (Option.mem_toList.1 hj)
    · exact h.pending j hj
  view := h.view
  reading := h.reading
  parent := h.parent
  refCount j d hd := by
    have herase := s.handles.count_erase name fun h => h = j
    have hold := h.refCount j d hd
    rw [countP_toList] at herase
    rw [List.count_append]
    change d.refCount = (s.handles.erase name).count _ + s.childrenOf j + _
    rw [handlesOn] at hold
    omega
  readers := h.readers
  data := h.data

theorem countP_root (o : Option ArrayView) (j : Nat) :
    o.toList.countP (fun v => v.root = j) = (o.toList.map (·.root)).count j := by
  rw [List.count, List.countP_map]
  rfl

theorem reading_of_view (h : Books base refs reads s) (name : String) :
    ∀ j ∈ (s.views.get? name).toList.map (·.root), s.IsRoot j := by
  intro j hj
  obtain ⟨v, hv, rfl⟩ := List.mem_map.1 hj
  exact h.view (name, v) (Slots.get?_eq_some_iff.1 (Option.mem_toList.1 hv))

/-- A reader passes to a view; the reader of the view that was in the slot is left over. -/
theorem putView {v : ArrayView} (h : Books base refs (v.root :: reads) s) (name : String) :
    Books base refs ((s.views.get? name).toList.map (·.root) ++ reads)
      { s with views := s.views.put name v } where
  grows := h.grows
  handle := h.handle
  pending := h.pending
  view e he := by
    rcases Slots.mem_entries_put.1 he with rfl | ⟨-, he⟩
    · exact h.reading v.root List.mem_cons_self
    · exact h.view e he
  reading j hj := by
    rcases List.mem_append.1 hj with hj | hj
    · exact h.reading_of_view name j hj
    · exact h.reading j (List.mem_cons_of_mem _ hj)
  parent := h.parent
  refCount := h.refCount
  readers j d hd := by
    have hput := s.views.count_put name v fun v => v.root = j
    have hold := h.readers j d hd
    have hid : (v.root :: reads).count j = reads.count j + if v.root = j then 1 else 0 := by
      simp [List.count_cons]
    rw [countP_root] at hput
    rw [hid] at hold
    rw [List.count_append]
    change d.readers = (s.views.put name v).count _ + _
    rw [viewsOn] at hold
    simp only [decide_eq_true_eq] at hput
    omega
  data := h.data

/-- The reader of a view is left over when its slot is emptied. -/
theorem eraseView (h : Books base refs reads s) (name : String) :
    Books base refs ((s.views.get? name).toList.map (·.root) ++ reads)
      { s with views := s.views.erase name } where
  grows := h.grows
  handle := h.handle
  pending := h.pending
  view e he := h.view e (Slots.mem_entries_erase.1 he).2
  reading j hj := by
    rcases List.mem_append.1 hj with hj | hj
    · exact h.reading_of_view name j hj
    · exact h.reading j hj
  parent := h.parent
  refCount := h.refCount
  readers j d hd := by
    have herase := s.views.count_erase name fun v => v.root = j
    have hold := h.readers j d hd
    rw [countP_root] at herase
    rw [List.count_append]
    change d.readers = (s.views.erase name).count _ + _
    rw [viewsOn] at hold
    omega
  data := h.data

end Books

end Session

end GatherScatter
