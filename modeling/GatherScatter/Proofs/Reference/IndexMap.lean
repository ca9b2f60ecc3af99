import GatherScatter.Reference.TransposeMap
import GatherScatter.Proofs.Loops
import GatherScatter.Proofs.Reference.Layout

/-!
# The index map

The links of a restriction without blocks, seen through its offsets: there is one for each node and
component, from the entry of the L-vector that the node's offset addresses in this component, and
they come in the order of the E-vector.

* `link_eq_ok_iff`, `mem_links_iff`: what is linked.
* `links_map_reader`: in which order.
-/
namespace GatherScatter.Reference.TransposeMap

variable {s : Shape} {offsets : Array Int} {ls : List Link}

theorem triples_eq (s : Shape) : triples s = Ranges.triples s.numElem s.numComp s.elemSize := by
  rw [triples, Ranges.triples_eq_flatMap]

theorem mem_triples {s : Shape} {e k n : Nat} :
    (e, k, n) ∈ triples s ↔ e < s.numElem ∧ k < s.numComp ∧ n < s.elemSize := by
  rw [triples_eq, Ranges.mem_triples]

/-- The loops over elements visit the E-vector of an unblocked restriction one after the other. -/
theorem triples_map_reader (s : Shape) :
    (triples s).map (fun x =>
      x.1 * s.elemSize * s.numComp + x.2.1 * s.elemSize + x.2.2) =
      List.range (s.numElem * s.elemSize * s.numComp) := by
  rw [Nat.mul_right_comm, triples_eq, ← Ranges.map_triples]
  apply List.map_congr_left
  intro x _
  ring

theorem length_triples (s : Shape) :
    (triples s).length = s.numElem * s.elemSize * s.numComp := by
  rw [triples_eq, Ranges.length_triples, Nat.mul_right_comm]

/-- The offset of node `n` of element `e`, moved to component `k`, is `l`. -/
def Addresses (s : Shape) (offsets : Array Int) (e k n l : Nat) : Prop :=
  ∃ o : Nat, offsets[e * s.elemSize + n]? = some (o : Int) ∧ o + k * s.compStride = l

theorem offsetAddress_eq_ok_iff {e n k l : Nat} {o : Int} :
    offsetAddress s e n o k = .ok l ↔ ∃ p : Nat, o = p ∧ p + k * s.compStride = l := by
  cases o with
  | ofNat p => simp [offsetAddress]
  | negSucc p => simp [offsetAddress]

theorem link_eq_ok_iff {e k n : Nat} {x : Link} :
    link s offsets e k n = .ok x ↔ Addresses s offsets e k n x.source ∧
      x.reader = e * s.elemSize * s.numComp + k * s.elemSize + n := by
  rw [link, Loop.bind_eq_ok]
  constructor
  · rintro ⟨o, ho, h⟩
    obtain ⟨l, hl, h⟩ := Loop.bind_eq_ok.1 h
    obtain ⟨p, rfl, rfl⟩ := offsetAddress_eq_ok_iff.1 hl
    cases h
    exact ⟨⟨p, Buffer.read_eq_ok_iff.1 ho, rfl⟩, rfl⟩
  · rintro ⟨⟨p, hread, hp⟩, hreader⟩
    refine ⟨p, Buffer.read_eq_ok_iff.2 hread, Loop.bind_eq_ok.2 ⟨x.source, ?_, ?_⟩⟩
    · exact offsetAddress_eq_ok_iff.2 ⟨p, rfl, hp⟩
    · rw [← hreader]
      rfl

/-- Every node has a link in every component. -/
theorem exists_link (h : links s offsets = .ok ls) {e k n : Nat} (he : e < s.numElem)
    (hk : k < s.numComp) (hn : n < s.elemSize) :
    ∃ x ∈ ls, link s offsets e k n = .ok x := by
  have ht := List.mem_map_of_mem (f := fun t => link s offsets t.1 t.2.1 t.2.2)
    (mem_triples.2 ⟨he, hk, hn⟩)
  rw [Loop.mapM_eq_ok_iff_map.1 h] at ht
  obtain ⟨x, hx, hlink⟩ := List.mem_map.1 ht
  exact ⟨x, hx, hlink.symm⟩

theorem mem_links_iff (h : links s offsets = .ok ls) {x : Link} :
    x ∈ ls ↔ ∃ e k n, e < s.numElem ∧ k < s.numComp ∧ n < s.elemSize ∧
      link s offsets e k n = .ok x := by
  have hmem : x ∈ ls ↔ (.ok x : Except Error Link) ∈ ls.map .ok := by simp
  rw [hmem, ← Loop.mapM_eq_ok_iff_map.1 h, List.mem_map]
  constructor
  · rintro ⟨⟨e, k, n⟩, ht, hx⟩
    obtain ⟨he, hk, hn⟩ := mem_triples.1 ht
    exact ⟨e, k, n, he, hk, hn, hx⟩
  · rintro ⟨e, k, n, he, hk, hn, hx⟩
    exact ⟨(e, k, n), mem_triples.2 ⟨he, hk, hn⟩, hx⟩

/-- The links come in the order of the E-vector. -/
theorem links_map_reader (h : links s offsets = .ok ls) :
    ls.map Link.reader = List.range (s.numElem * s.elemSize * s.numComp) := by
  rw [← triples_map_reader, ← List.forall₂_eq_eq_eq, List.forall₂_map_left_iff,
    List.forall₂_map_right_iff]
  refine (Loop.mapM_eq_ok_iff.1 h).flip.imp fun x t hx => ?_
  exact (link_eq_ok_iff.1 hx).2

theorem length_links (h : links s offsets = .ok ls) :
    ls.length = s.numElem * s.elemSize * s.numComp := by
  rw [← (Loop.mapM_eq_ok_iff.1 h).length_eq, length_triples]

end GatherScatter.Reference.TransposeMap
