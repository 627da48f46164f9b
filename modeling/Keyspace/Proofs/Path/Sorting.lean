import Keyspace.Collection
import Keyspace.Session.Basic
import Keyspace.Proofs.Address.Order
import Keyspace.Proofs.Sorting.Merging

/-! # Sorting paths

    Whether one path is less than another always has an answer, and the answers
    are those of the order of the texts. So a list of paths can be sorted
    (`sort_paths`). The order is strict on addresses, so nothing is left to
    choose: however the paths were arranged before, the same addresses come out
    at the same places (`sorted_unique`).
-/

namespace Keyspace.Collection

/-! ## Section 1: The order of path values -/

/-- The value is a path. -/
def IsPath (v : Value) : Prop := ∃ p, v = .path p

/-- The text that a value is ordered by, if it is a path. -/
def orderText : Value → String
  | .path p => p.text
  | _ => ""

/-- Whether a value does not come after another one by its text. -/
def textsInOrder (v w : Value) : Bool := decide (orderText v ≤ orderText w)

theorem textsInOrder_isOrder : Sorting.IsOrder textsInOrder := by
  constructor
  · intro u v w huv hvw
    exact decide_eq_true (String.le_trans (of_decide_eq_true huv) (of_decide_eq_true hvw))
  · intro v w
    exact (String.le_total (orderText v) (orderText w)).imp decide_eq_true decide_eq_true

theorem less_path (p q : StorePath) : less (.path p) (.path q) = .ok (p.less q.toAddress) := by
  simp only [less, Value.ordered, OrderOp.onScalars, OrderOp.onAddresses]

theorem textsInOrder_path (p q : StorePath) :
    textsInOrder (.path p) (.path q) = !q.less p.toAddress := by
  cases h : q.less p.toAddress with
  | true => exact decide_eq_false (String.not_le.mpr (Address.less_iff.mp h))
  | false => exact decide_eq_true (Address.less_eq_false_iff.mp h)

theorem less_asksFor : Sorting.AsksFor IsPath textsInOrder less := by
  rintro _ _ ⟨p, rfl⟩ ⟨q, rfl⟩
  rw [less_path, textsInOrder_path, Bool.not_not]

/-- Values that are paths come from a list of paths. -/
theorem exists_map_path {vs : List Value} (h : ∀ v ∈ vs, IsPath v) :
    ∃ ps : List StorePath, vs = ps.map .path := by
  induction vs with
  | nil => exact ⟨[], rfl⟩
  | cons v vs ih =>
    obtain ⟨⟨p, rfl⟩, hvs⟩ := List.forall_mem_cons.mp h
    obtain ⟨ps, rfl⟩ := ih hvs
    exact ⟨p :: ps, rfl⟩

theorem filterMap_asPath (ps : List StorePath) :
    (ps.map Value.path).filterMap Session.asPath = ps := by
  rw [List.filterMap_map]
  exact List.filterMap_some

/-! ## Section 2: Sorted paths -/

/-- Whether an address may stand before another one in a sorted list: the other
    one is not less or, if the order is reversed, this one is not. -/
def mayPrecede (reverse : Bool) (a b : Address) : Bool :=
  if reverse then a.greaterEq b else b.greaterEq a

/-- Each address may stand before all that come later. -/
def Sorted (reverse : Bool) (addresses : List Address) : Prop :=
  addresses.Pairwise fun a b => mayPrecede reverse a b = true

theorem ascending_paths (ps : List StorePath) :
    ∃ out : List StorePath, ascending (ps.map .path) = .ok (out.map .path) ∧
      out.Perm ps ∧ Sorted false (out.map Path.toAddress) := by
  have hpaths : ∀ v ∈ ps.map Value.path, IsPath v := by
    intro v hv
    obtain ⟨p, -, rfl⟩ := List.mem_map.mp hv
    exact ⟨p, rfl⟩
  obtain ⟨vs, hvs, hsorted⟩ := Sorting.sort_yields textsInOrder_isOrder less_asksFor hpaths
  obtain ⟨out, rfl⟩ := exists_map_path hsorted.all
  have hperm := (Sorting.sort_perm hvs).filterMap Session.asPath
  rw [filterMap_asPath, filterMap_asPath] at hperm
  refine ⟨out, hvs, hperm, List.pairwise_map.mpr ?_⟩
  refine (List.pairwise_map.mp hsorted.pairwise).imp fun h => ?_
  rwa [textsInOrder_path] at h

/-- **Paths can be sorted**, in either direction. -/
theorem sort_paths (reverse : Bool) (ps : List StorePath) :
    ∃ out : List StorePath, sort reverse (ps.map .path) = .ok (out.map .path) ∧
      out.Perm ps ∧ Sorted reverse (out.map Path.toAddress) := by
  cases reverse with
  | false => exact ascending_paths ps
  | true =>
    obtain ⟨out, hout, hperm, hsorted⟩ := ascending_paths ps.reverse
    refine ⟨out.reverse, ?_, ?_, ?_⟩
    · rw [sort, if_pos rfl, ← List.map_reverse, hout, List.map_reverse]
      rfl
    · exact (List.reverse_perm out).trans (hperm.trans (List.reverse_perm ps))
    · rw [List.map_reverse]
      exact List.pairwise_reverse.mpr hsorted

/-- There is only one way to sort well-formed addresses. -/
theorem sorted_unique {reverse : Bool} {as bs : List Address} (has : ∀ a ∈ as, a.WellFormed)
    (hperm : as.Perm bs) (ha : Sorted reverse as) (hb : Sorted reverse bs) : as = bs := by
  refine List.Perm.eq_of_pairwise ?_ ha hb hperm
  intro a b ha hb hab hba
  have hwfa : a.WellFormed := has a ha
  have hwfb : b.WellFormed := has b (hperm.mem_iff.mpr hb)
  -- neither of the two is less
  cases reverse with
  | false => exact Address.eq_of_greaterEq hwfa hwfb hba hab
  | true => exact Address.eq_of_greaterEq hwfa hwfb hab hba

end Keyspace.Collection
