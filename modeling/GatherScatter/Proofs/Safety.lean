import GatherScatter.Proofs.Creation.Coherent
import GatherScatter.Proofs.Session.Reference

/-!
# Creation makes applies safe

The checks of creation are made once, on the raw request. They are enough for every later apply: on
a restriction of the reference backend, whether an apply succeeds depends on the lengths of its
vectors and on its element or block number alone, and no index that it computes misses a buffer.

* `SafeIff`: an operation that succeeds under a condition and never accesses a missing entry.
* `Serves.safeIff_apply`, `Serves.safeIff_applyBlock`, `Serves.safeIff_applyAtPoints`: the
  conditions of the three kinds of applies.
* `pointsOf_mul_lt_of_plan`: nothing is lost in the length of the vector of an element.
* `applies_safe`: all of them, through every handle that is still live.
-/
namespace GatherScatter.Session

open GatherScatter.Reference

/-- Succeeds exactly under `p`, and never fails with an access outside of a buffer. -/
def SafeIff {β : Type} (r : Except Failure β) (p : Prop) : Prop :=
  (r.isOk ↔ p) ∧ ∀ offset count len, r ≠ .error (.error (.rangeOutOfBounds offset count len))

namespace SafeIff

variable {β : Type} {r : Except Failure β} {p : Prop}

theorem of_ok (hp : p) (h : ∃ b, r = .ok b) : SafeIff r p := by
  obtain ⟨b, rfl⟩ := h
  exact ⟨⟨fun _ => hp, fun _ => rfl⟩, nofun⟩

theorem of_error {e : Error} (hp : ¬ p) (h : r = .error (.error e))
    (he : ∀ offset count len, e ≠ .rangeOutOfBounds offset count len) : SafeIff r p := by
  subst h
  exact ⟨⟨nofun, fun h => absurd h hp⟩, fun o c l heq => he o c l (by cases heq; rfl)⟩

theorem and_left {q : Prop} (hq : q) (h : SafeIff r p) : SafeIff r (q ∧ p) :=
  ⟨h.1.trans ⟨fun hp => ⟨hq, hp⟩, fun hp => hp.2⟩, h.2⟩

theorem congr {q : Prop} (h : SafeIff r p) (hpq : p ↔ q) : SafeIff r q := ⟨h.1.trans hpq, h.2⟩

end SafeIff

variable {σ α : Type}

/-- A check of lengths in front of a computation. -/
theorem safeIff_checkAtLeast {β : Type} {inLen outLen m n : Nat} {x : Except Error β}
    (h : n ≤ inLen → m ≤ outLen → ∃ b, x = .ok b) :
    SafeIff (lift (do checkAtLeast inLen outLen m n; x)) (n ≤ inLen ∧ m ≤ outLen) := by
  by_cases hok : checkAtLeast inLen outLen m n = .ok ()
  · obtain ⟨hn, hm⟩ := checkAtLeast_eq_ok_iff.1 hok
    obtain ⟨b, rfl⟩ := h hn hm
    rw [hok]
    exact .of_ok ⟨hn, hm⟩ ⟨b, rfl⟩
  · have hnot := mt checkAtLeast_eq_ok_iff.2 hok
    unfold checkAtLeast
    split
    · exact .of_error hnot rfl nofun
    · rw [if_pos (by omega)]
      exact .of_error hnot rfl nofun

theorem safeIff_checkExact {β : Type} {inLen outLen m n : Nat} {p : Prop} {x : Except Error β}
    (h : inLen = n → outLen = m → SafeIff (lift x) p) :
    SafeIff (lift (do checkExact inLen outLen m n; x)) (inLen = n ∧ outLen = m ∧ p) := by
  by_cases hok : checkExact inLen outLen m n = .ok ()
  · obtain ⟨hn, hm⟩ := checkExact_eq_ok_iff.1 hok
    rw [hok]
    exact ((h hn hm).and_left hm).and_left hn
  · have hnot : ¬ (inLen = n ∧ outLen = m ∧ p) := fun hp =>
      hok (checkExact_eq_ok_iff.2 ⟨hp.1, hp.2.1⟩)
    unfold checkExact
    split
    · exact .of_error hnot rfl nofun
    · rename_i hn
      rw [if_pos fun hm => hok (checkExact_eq_ok_iff.2 ⟨not_not.1 hn, hm⟩)]
      exact .of_error hnot rfl nofun

variable [Add α] [Mul α] [IntCast α]

namespace Serves

variable {s : Session σ α} {name resource : String} {op : Operator} {mode : Mode}

theorem safeIff_apply (h : s.Serves name resource op mode) (hop : op.Sound) (d : Direction)
    (u v : Array α) :
    SafeIff (outcome (apply name d u v) s).1
      ((op.shape.sides d op.shape.eSize).2 ≤ u.size ∧
        (op.shape.sides d op.shape.eSize).1 ≤ v.size) := by
  rw [h.outcome_apply hop]
  exact safeIff_checkAtLeast fun hu hv => hop.exists_apply mode hu hv

theorem safeIff_applyBlock (h : s.Serves name resource op mode) (hop : op.Sound) (block : Nat)
    (d : Direction) (u v : Array α) :
    SafeIff (outcome (applyBlock name block d u v) s).1
      (op.shape.isPoints = false ∧ u.size = (op.shape.sides d op.shape.blockLen).2 ∧
        v.size = (op.shape.sides d op.shape.blockLen).1 ∧
        block * op.shape.blockSize < op.shape.numElem) := by
  rw [h.outcome_applyBlock]
  cases hpoints : op.shape.isPoints with
  | true => exact .of_error (fun hp => Bool.noConfusion hp.1) rfl nofun
  | false =>
    rw [if_neg Bool.false_ne_true]
    by_cases hb : op.shape.numElem ≤ block * op.shape.blockSize
    · -- without such a block it does not matter what its length is cut to
      rw [if_pos hb]
      refine (safeIff_checkExact (p := False) fun _ _ => ?_).congr ?_
      · exact .of_error not_false rfl nofun
      · exact ⟨fun h => h.2.2.elim, fun h => absurd h.2.2.2 (Nat.not_lt.2 hb)⟩
    · have hlt := Nat.lt_of_not_le hb
      rw [if_neg hb, hop.wrappedBlockLen_eq hpoints hlt]
      refine (safeIff_checkExact fun hu hv => ?_).and_left rfl
      obtain ⟨v', hv'⟩ := hop.exists_applyBlock hpoints resource mode hlt (Nat.le_of_eq hu.symm)
        (Nat.le_of_eq hv.symm)
      rw [hv']
      exact .of_ok hlt ⟨v', rfl⟩

theorem safeIff_applyAtPoints {spec : Spec} (h : s.Serves name resource op mode)
    (hop : op.Implements spec) (elem : Nat) (d : Direction) (u v : Array α) :
    SafeIff (outcome (applyAtPoints name elem d u v) s).1
      (op.shape.isPoints = true ∧ elem < op.shape.numElem ∧
        (op.shape.sides d (spec.pointsOf elem * op.shape.numComp)).2 ≤ u.size ∧
        (op.shape.sides d (spec.pointsOf elem * op.shape.numComp)).1 ≤ v.size) := by
  cases hpoints : op.shape.isPoints with
  | false =>
    rw [h.outcome_applyAtPoints_of_nodes hpoints]
    exact .of_error (fun hp => Bool.noConfusion hp.1) rfl nofun
  | true =>
    cases spec with
    | offsets _ => exact absurd hpoints (by rw [hop.notPoints]; exact Bool.false_ne_true)
    | strided _ => exact absurd hpoints (by rw [hop.notPoints]; exact Bool.false_ne_true)
    | points p =>
      rw [h.outcome_applyAtPoints hop]
      by_cases he : op.shape.numElem ≤ elem
      · rw [if_pos he]
        exact .of_error (by omega) rfl nofun
      · have hlt : elem < op.shape.numElem := Nat.lt_of_not_le he
        have hcheck := safeIff_checkAtLeast fun hu hv =>
          hop.exists_applyAtPoints resource hlt (d := d) (u := u) (v := v) hu hv
        rw [if_neg he]
        exact (hcheck.and_left hlt).and_left rfl

end Serves

/-- The values of one element are among those of the E-vector, and so is their number. -/
theorem pointsOf_mul_lt_of_plan {spec : Spec} {shape : Shape} {data : IndexData}
    (h : spec.plan = .ok (shape, data)) (hhost : spec.onHost) :
    ∀ elem < shape.numElem, spec.pointsOf elem * shape.numComp < 2 ^ 64 := by
  intro elem he
  cases spec with
  | offsets _ => simp [Spec.pointsOf]
  | strided _ => simp [Spec.pointsOf]
  | points s =>
    have hplan := PointsSpec.planned_of_plan h
    have hlt := (PointsSpec.lt_of_plan h).2
    obtain ⟨maxPoints, rfl⟩ := hplan.shape_eq
    have hle := (hplan.ranges hhost).toPointStarts.count_le he
    exact Nat.lt_of_le_of_lt (Nat.mul_le_mul_right s.numComp hle) hlt

/-- On a restriction of the reference backend, index data that passed the checks of creation can be
compiled, with and without a transpose map. After that, through every handle that is still live, a
full apply succeeds exactly on vectors that are long enough, an apply to a block exactly on vectors
of the right lengths and an existing block, and an apply at points exactly on an existing element
and vectors that are long enough for its points. None of them accesses an entry that is not
there.

Nothing checks the products that give the lengths of a block and of the points of an element. They
are sizes for every block and every element that there is. Without elements the length of a block
may be too large for one and is then cut to the index range, or stops a program that traps
overflows; but then there is no block that an apply could succeed on. -/
theorem applies_safe {resource name : String} {spec : Spec} {s : Session σ α} {mode : Mode}
    (h : OnReference resource spec s name mode) :
    ∃ shape data, spec.plan = .ok (shape, data) ∧
      (∃ dd, outcome (restriction name) s = (.ok dd, s) ∧ dd.shape = shape) ∧
      (∀ deterministic, ∃ op, Operator.compile deterministic shape data = .ok op) ∧
      (0 < shape.numElem → shape.blockLen < 2 ^ 64) ∧
      (∀ elem < shape.numElem, spec.pointsOf elem * shape.numComp < 2 ^ 64) ∧
      (∀ (d : Direction) (u v : Array α), SafeIff (outcome (apply name d u v) s).1
        ((shape.sides d shape.eSize).2 ≤ u.size ∧ (shape.sides d shape.eSize).1 ≤ v.size)) ∧
      (∀ (block : Nat) (d : Direction) (u v : Array α),
        SafeIff (outcome (applyBlock name block d u v) s).1
          (shape.isPoints = false ∧ u.size = (shape.sides d shape.blockLen).2 ∧
            v.size = (shape.sides d shape.blockLen).1 ∧
            block * shape.blockSize < shape.numElem)) ∧
      ∀ (elem : Nat) (d : Direction) (u v : Array α),
        SafeIff (outcome (applyAtPoints name elem d u v) s).1
          (shape.isPoints = true ∧ elem < shape.numElem ∧
            (shape.sides d (spec.pointsOf elem * shape.numComp)).2 ≤ u.size ∧
            (shape.sides d (spec.pointsOf elem * shape.numComp)).1 ≤ v.size) := by
  obtain ⟨shape, data, op, hp, hhost, hs, himp, hserves⟩ := h.serves
  have hsound := himp.sound
  subst hs
  refine ⟨op.shape, data, hp, hserves.exists_restriction, fun deterministic => ?_,
    Spec.blockLen_lt_of_plan hp, pointsOf_mul_lt_of_plan hp hhost, hserves.safeIff_apply hsound,
    hserves.safeIff_applyBlock hsound, hserves.safeIff_applyAtPoints himp⟩
  obtain ⟨op', hop', -⟩ := Spec.exists_compile hp hhost deterministic
  exact ⟨op', hop'⟩

/-- A derived handle on blocks of two elements, the last of which is half empty: vectors for the
whole, for an existing block, for a block behind the last one, and for points. -/
theorem applies_safe_orientedLine :
    let spec := Spec.orientedLine 2
    let s : Session Unit Int := (single () false spec).after (.derive "r" .unoriented "u")
    OnReference Reference.stem spec s "u" .unoriented ∧
      SafeIff (outcome (apply "u" .transpose #[1, 2, 3, 4, 5, 6, 7, 8] #[0, 0, 0, 0]) s).1 True ∧
      SafeIff (outcome (applyBlock "u" 1 .forward #[1, 2, 3, 4] #[0, 0, 0, 0]) s).1 True ∧
      SafeIff (outcome (applyBlock "u" 2 .forward #[1, 2, 3, 4] #[0, 0, 0, 0]) s).1 False ∧
      SafeIff (outcome (applyAtPoints "u" 0 .forward #[1, 2, 3, 4] #[0, 0]) s).1 False := by
  intro spec s
  have h : OnReference Reference.stem spec s "u" .unoriented :=
    (onReference_single () false spec rfl rfl).derive .unoriented "u"
  obtain ⟨shape, data, hp, -, -, -, -, hfull, hblock, hpoints⟩ := applies_safe h
  cases hp
  exact ⟨h, (hfull .transpose _ _).congr (by decide), (hblock 1 .forward _ _).congr (by decide),
    (hblock 2 .forward _ _).congr (by decide), (hpoints 0 .forward _ _).congr (by decide)⟩

-- the length of a block is cut to nothing, but without elements there is no block of this length
example :
    let spec := Spec.strided
      { numElem := 0, elemSize := 2 ^ 32, blockSize := 4, numComp := 2 ^ 31, lSize := 0
        strides := ⟨1, 1, 1⟩ }
    (outcome (applyBlock "r" 0 .forward #[] #[]) (single () false spec : Session Unit Int)).1 =
      .error (.error (.blockOutOfRange 0 4 0)) := rfl

end GatherScatter.Session
