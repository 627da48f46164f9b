import Keyspace.Report
import Keyspace.Proofs.Path.Sorting
import Keyspace.Proofs.Session.Written

/-! # Comparing reachable paths

    Paths answer the questions of a comparison in three ways: by structure
    (`==`), by text (`<` and the three-way comparison), or by both. On the
    paths that sessions reach these are one total order
    (`comparisons_total_order`), since those are well-formed. Sorting by it
    forgets how the paths were arranged.
-/

namespace Keyspace.Session

variable {op : OrderOp} {p q r : StorePath}

/-! ## Section 1: Questions -/

/-- A question about the order of two paths is answered with yes. -/
def Holds (op : OrderOp) (p q : StorePath) : Prop :=
  (Value.path p).ordered op (.path q) = .ok true

/-- The question whether two paths are equal is answered with yes. -/
def Same (p q : StorePath) : Prop := (Value.path p).same (.path q) = .ok true

/-- The question whether two paths differ is answered with yes. -/
def Differ (p q : StorePath) : Prop := ((Value.path p).same (.path q)).map not = .ok true

/-- The three-way comparison of two paths is answered with a number. -/
def ComparesTo (p q : StorePath) (n : Int) : Prop :=
  (p.compareAny (.path q)).map signOf = .ok n

theorem ordered_path (op : OrderOp) (p q : StorePath) :
    (Value.path p).ordered op (.path q) = .ok (op.onAddresses p.toAddress q.toAddress) := by
  simp only [Value.ordered, OrderOp.onScalars]

theorem same_path (p q : StorePath) : (Value.path p).same (.path q) = .ok (p == q) := rfl

theorem holds_iff : Holds op p q ↔ op.onAddresses p.toAddress q.toAddress = true := by
  rw [Holds, ordered_path, Except.ok.injEq]

theorem same_iff : Same p q ↔ p.toAddress = q.toAddress := by
  rw [Same, same_path, Except.ok.injEq, Path.beq_iff]

theorem differ_iff : Differ p q ↔ ¬Same p q := by
  rw [Differ, Same, same_path, Except.map, Except.ok.injEq, Except.ok.injEq, Bool.not_eq_true',
    Bool.not_eq_true]

theorem less_iff : Holds .less p q ↔ p.less q.toAddress = true := holds_iff

theorem comparesTo_iff {n : Int} :
    ComparesTo p q n ↔ signOf (p.toAddress.compare q.toAddress) = n := by
  show Except.ok (signOf (p.toAddress.compare q.toAddress)) = .ok n ↔ _
  rw [Except.ok.injEq]

/-! ## Section 2: One order -/

/-- Exactly one of three statements holds. -/
def ExactlyOne (a b c : Prop) : Prop := (a ∨ b ∨ c) ∧ ¬(a ∧ b) ∧ ¬(b ∧ c) ∧ ¬(a ∧ c)

/-- Of two different paths exactly one comes first. -/
theorem exactlyOne_less_same_less (hp : Reachable p) (hq : Reachable q) :
    ExactlyOne (Holds .less p q) (Same p q) (Holds .less q p) := by
  rw [less_iff, less_iff, same_iff]
  refine ⟨?_, ?_, ?_, ?_⟩
  · by_cases hpq : p.less q.toAddress = true
    · exact .inl hpq
    · by_cases hqp : q.less p.toAddress = true
      · exact .inr (.inr hqp)
      · rw [Bool.not_eq_true] at hpq hqp
        exact .inr (.inl (Address.eq_of_not_less hp.wellFormed hq.wellFormed hpq hqp))
  · rintro ⟨hpq, heq⟩
    rw [heq, Address.less_irrefl] at hpq
    exact Bool.false_ne_true hpq
  · rintro ⟨heq, hqp⟩
    rw [heq, Address.less_irrefl] at hqp
    exact Bool.false_ne_true hqp
  · rintro ⟨hpq, hqp⟩
    rw [Address.less_asymm hpq] at hqp
    exact Bool.false_ne_true hqp

theorem lessEq_iff : Holds .lessEq p q ↔ Holds .less p q ∨ Same p q := by
  rw [less_iff, same_iff, holds_iff]
  exact Address.lessEq_iff

theorem greater_iff (hp : Reachable p) (hq : Reachable q) :
    Holds .greater p q ↔ Holds .less q p := by
  rw [less_iff, holds_iff]
  exact Address.greater_iff hp.wellFormed hq.wellFormed

theorem greaterEq_iff (hp : Reachable p) (hq : Reachable q) :
    Holds .greaterEq p q ↔ Holds .lessEq q p := by
  rw [holds_iff, holds_iff]
  exact Address.greaterEq_iff hp.wellFormed hq.wellFormed

/-- The number that a comparison gives is the sign of the order. -/
theorem exists_comparesTo (hp : Reachable p) (hq : Reachable q) :
    ∃ n, ComparesTo p q n ∧ ComparesTo q p (-n) ∧ (n = -1 ↔ Holds .less p q) ∧
      (n = 0 ↔ Same p q) ∧ (n = 1 ↔ Holds .less q p) := by
  refine ⟨signOf (p.toAddress.compare q.toAddress), rfl, ?_, ?_, ?_, ?_⟩
  · rw [comparesTo_iff, Address.compare_swap]
    cases p.toAddress.compare q.toAddress <;> rfl
  · rw [less_iff, ← Address.compare_lt_iff]
    cases p.toAddress.compare q.toAddress <;> decide
  · rw [same_iff, ← Address.text_inj hp.wellFormed hq.wellFormed, ← Address.compare_eq_iff]
    cases p.toAddress.compare q.toAddress <;> decide
  · rw [less_iff, ← Address.compare_gt_iff]
    cases p.toAddress.compare q.toAddress <;> decide

/-! ## Section 3: Sorting -/

/-- The first of two paths may stand before the second in a sorted list. -/
def InOrder (reverse : Bool) (p q : StorePath) : Prop :=
  Holds (if reverse then .greaterEq else .lessEq) p q

theorem inOrder_of_mayPrecede {reverse : Bool} (hp : Reachable p) (hq : Reachable q)
    (h : Collection.mayPrecede reverse p.toAddress q.toAddress = true) :
    InOrder reverse p q := by
  cases reverse with
  | false => exact (greaterEq_iff hq hp).mp (holds_iff.mpr h)
  | true => exact holds_iff.mpr h

/-- Paths with the same addresses are equal, place by place. -/
theorem same_of_map_eq {ps qs : List StorePath} (h : ps.map Path.toAddress = qs.map Path.toAddress)
    {i : Nat} (hp : ps[i]? = some p) (hq : qs[i]? = some q) : Same p q := by
  have hget : (ps.map Path.toAddress)[i]? = (qs.map Path.toAddress)[i]? := by rw [h]
  rw [List.getElem?_map, List.getElem?_map, hp, hq] at hget
  exact same_iff.mpr (Option.some.inj hget)

/-- Paths that tie have the same bucket and the same segments. -/
theorem eq_of_tied (hp : Reachable p) (hq : Reachable q) (hpq : ¬Holds .less p q)
    (hqp : ¬Holds .less q p) : p.bucket = q.bucket ∧ p.segments = q.segments := by
  obtain ⟨hone, -⟩ := exactlyOne_less_same_less hp hq
  have hsame : Same p q := (hone.resolve_left hpq).resolve_right hqp
  rwa [same_iff, Address.mk.injEq] at hsame

/-- Sorting two lists of paths succeeds. Each list comes out rearranged and in
    order, equal paths are at the same places of both, and neighbours that tie
    have the same bucket and the same segments. -/
def SortAlike (reverse : Bool) (ps qs : List StorePath) : Prop :=
  ∃ out out' : List StorePath,
    Collection.sort reverse (ps.map .path) = .ok (out.map .path) ∧
    Collection.sort reverse (qs.map .path) = .ok (out'.map .path) ∧
    out.Perm ps ∧ out'.Perm qs ∧ out.Pairwise (InOrder reverse) ∧
    (∀ (i : Nat) p q, out[i]? = some p → out'[i]? = some q → Same p q) ∧
    ∀ (i : Nat) p q, out[i]? = some p → out[i + 1]? = some q → ¬Holds .less p q →
      ¬Holds .less q p → p.bucket = q.bucket ∧ p.segments = q.segments

/-- However reachable paths are arranged, they are sorted alike. -/
theorem sortAlike_of_perm (reverse : Bool) {ps qs : List StorePath}
    (hps : ∀ p ∈ ps, Reachable p) (hperm : ps.Perm qs) : SortAlike reverse ps qs := by
  obtain ⟨out, hsort, hout, hsorted⟩ := Collection.sort_paths reverse ps
  obtain ⟨out', hsort', hout', hsorted'⟩ := Collection.sort_paths reverse qs
  have hreach : ∀ p ∈ out, Reachable p := fun p hp => hps p (hout.mem_iff.mp hp)
  refine ⟨out, out', hsort, hsort', hout, hout', ?_, ?_, ?_⟩
  · refine (List.pairwise_map.mp hsorted).imp_of_mem fun hp hq => ?_
    exact inOrder_of_mayPrecede (hreach _ hp) (hreach _ hq)
  · -- both are the one way to sort the same addresses
    have hwf : ∀ a ∈ out.map Path.toAddress, a.WellFormed := by
      intro a ha
      obtain ⟨p, hp, rfl⟩ := List.mem_map.mp ha
      exact (hreach p hp).wellFormed
    have haddresses := (hout.trans (hperm.trans hout'.symm)).map Path.toAddress
    intro i p q hp hq
    exact same_of_map_eq (Collection.sorted_unique hwf haddresses hsorted hsorted') hp hq
  · intro i p q hp hq
    exact eq_of_tied (hreach p (List.mem_of_getElem? hp)) (hreach q (List.mem_of_getElem? hq))

/-! ## Section 4: The whole order -/

/-- **Comparisons are one total order.** Every question about two reachable
    paths has an answer, and all answers are put together from those of one
    strict order, in which paths tie exactly if they are equal. Lists of
    reachable paths are sorted by it, with equal results however they were
    arranged. -/
theorem comparisons_total_order (hp : Reachable p) (hq : Reachable q) :
    (∀ op, ∃ b, (Value.path p).ordered op (.path q) = .ok b) ∧
      (∃ b, (Value.path p).same (.path q) = .ok b) ∧
      ExactlyOne (Holds .less p q) (Same p q) (Holds .less q p) ∧
      (Holds .less p q → Holds .less q r → Holds .less p r) ∧
      (Holds .lessEq p q ↔ Holds .less p q ∨ Same p q) ∧
      (Holds .greater p q ↔ Holds .less q p) ∧
      (Holds .greaterEq p q ↔ Holds .lessEq q p) ∧
      (Differ p q ↔ ¬Same p q) ∧
      (∃ n, ComparesTo p q n ∧ ComparesTo q p (-n) ∧ (n = -1 ↔ Holds .less p q) ∧
        (n = 0 ↔ Same p q) ∧ (n = 1 ↔ Holds .less q p)) ∧
      ∀ (reverse : Bool) (ps qs : List StorePath), (∀ p ∈ ps, Reachable p) → ps.Perm qs →
        SortAlike reverse ps qs := by
  refine ⟨fun op => ⟨_, ordered_path op p q⟩, ⟨_, same_path p q⟩,
    exactlyOne_less_same_less hp hq, ?_, lessEq_iff, greater_iff hp hq, greaterEq_iff hp hq,
    differ_iff, exists_comparesTo hp hq, fun reverse ps qs => sortAlike_of_perm reverse⟩
  intro hpq hqr
  rw [less_iff] at hpq hqr ⊢
  exact Address.less_trans hpq hqr

/-- Texts decide the order of absolute and relative paths alike, and a list in
    which one path stands twice has more than one arrangement. -/
theorem comparisons_total_order_mixed :
    let host : Host Value := .fileSystem (.ofHost 0 (.config .default))
    let p : StorePath := ⟨⟨some "b", ["x"]⟩, host⟩
    let q : StorePath := ⟨⟨none, ["b", "x"]⟩, host⟩
    let r : StorePath := ⟨⟨none, ["é"]⟩, host⟩
    Reachable p ∧ Reachable q ∧ Reachable r ∧ Holds .less p q ∧ Holds .less q r ∧
      Holds .less p r ∧ ¬Same p q ∧ [q, p, q].Perm [p, q, q] ∧
      SortAlike true [q, p, q] [p, q, q] := by
  intro host p q r
  have hparse : Address.parse? "/b/x" = some p.toAddress := by decide +kernel
  have hparse' : Address.parse? "b/x" = some q.toAddress := by decide +kernel
  have hparse'' : Address.parse? "é" = some r.toAddress := by decide +kernel
  have hp : Reachable p := reachable_of_parse? hparse
  have hq : Reachable q := reachable_of_parse? hparse'
  have hr : Reachable r := reachable_of_parse? hparse''
  have hpq : Holds .less p q := less_iff.mpr (by decide +kernel)
  have hqr : Holds .less q r := less_iff.mpr (by decide +kernel)
  have hreach : ∀ p' ∈ [q, p, q], Reachable p' := by
    intro p' hp'
    simp only [List.mem_cons, List.not_mem_nil, or_false] at hp'
    rcases hp' with rfl | rfl | rfl
    · exact hq
    · exact hp
    · exact hq
  obtain ⟨-, -, ⟨-, hne, -⟩, htrans, -, -, -, -, -, hsort⟩ :=
    comparisons_total_order hp hq (r := r)
  have hperm : [q, p, q].Perm [p, q, q] := List.Perm.swap p q [q]
  exact ⟨hp, hq, hr, hpq, hqr, htrans hpq hqr, fun hsame => hne ⟨hpq, hsame⟩, hperm,
    hsort true _ _ hreach hperm⟩

end Keyspace.Session
