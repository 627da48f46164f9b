import Keyspace.Proofs.Sorting.Permutation
import Keyspace.Proofs.Sorting.Search

/-! # Runs are ascending

    A question asks for an order when it tells whether an item comes strictly
    before another one (`AsksFor`). The order is only assumed to be total and
    transitive: different items may tie. It may cover more values than have
    answers, so a predicate `P` tells which items may be asked about.

    If the question asks for an order, the next run of a list is found without
    failure, and its items are in ascending order (`nextRun_yields`). A run
    that descends does so strictly, so turning it round is enough.
-/

namespace Keyspace.Sorting

variable {α ε : Type} {P : α → Prop} {le : α → α → Bool} {less : α → α → Except ε Bool}

/-! ## Section 1: Orders -/

/-- Any two items are in order one way or the other, and order is transitive. -/
structure IsOrder (le : α → α → Bool) : Prop where
  trans : ∀ {x y z}, le x y = true → le y z = true → le x z = true
  total : ∀ x y, le x y = true ∨ le y x = true

/-- The reversed order. -/
def reversed (le : α → α → Bool) (x y : α) : Bool := le y x

theorem IsOrder.reversed (h : IsOrder le) : IsOrder (reversed le) :=
  ⟨fun hxy hyz => h.trans hyz hxy, fun x y => h.total y x⟩

theorem IsOrder.le_of_not (h : IsOrder le) {x y : α} (hxy : le x y = false) : le y x = true :=
  (h.total x y).resolve_left (by rw [hxy]; exact Bool.false_ne_true)

/-- Being in order is transitive, and so is not being in order. -/
theorem IsOrder.trans_eq (h : IsOrder le) {b : Bool} {x y z : α} (hxy : le x y = b)
    (hyz : le y z = b) : le x z = b := by
  cases b with
  | true => exact h.trans hxy hyz
  | false =>
    by_cases hxz : le x z = true
    · -- then `z` would be between `x` and `y`
      have hzy : le z y = true := h.le_of_not hyz
      rw [h.trans hxz hzy] at hxy
      exact absurd hxy.symm Bool.false_ne_true
    · exact Bool.eq_false_iff.mpr hxz

/-- The question whether one item is less than another is answered for all items
    that satisfy `P`: it is when the other is not in order before it. -/
def AsksFor (P : α → Prop) (le : α → α → Bool) (less : α → α → Except ε Bool) : Prop :=
  ∀ x y, P x → P y → less x y = .ok (!le y x)

/-- Items that may be asked about, in ascending order. -/
structure Ascending (P : α → Prop) (le : α → α → Bool) (items : List α) : Prop where
  pairwise : items.Pairwise fun x y => le x y = true
  all : ∀ x ∈ items, P x

namespace Ascending

variable {xs ys : List α}

theorem nil : Ascending P le ([] : List α) := ⟨.nil, by simp⟩

theorem append (hx : Ascending P le xs) (hy : Ascending P le ys)
    (h : ∀ x ∈ xs, ∀ y ∈ ys, le x y = true) : Ascending P le (xs ++ ys) :=
  ⟨List.pairwise_append.mpr ⟨hx.pairwise, hy.pairwise, h⟩,
    List.forall_mem_append.mpr ⟨hx.all, hy.all⟩⟩

theorem sublist (h : Ascending P le xs) (hsub : ys.Sublist xs) : Ascending P le ys :=
  ⟨h.pairwise.sublist hsub, fun x hx => h.all x (hsub.subset hx)⟩

theorem take (h : Ascending P le xs) (n : Nat) : Ascending P le (xs.take n) :=
  h.sublist (List.take_sublist n xs)

theorem drop (h : Ascending P le xs) (n : Nat) : Ascending P le (xs.drop n) :=
  h.sublist (List.drop_sublist n xs)

theorem reverse (h : Ascending P le xs) : Ascending P (reversed le) xs.reverse :=
  ⟨List.pairwise_reverse.mpr h.pairwise, fun x hx => h.all x (List.mem_reverse.mp hx)⟩

theorem cons {x : α} (hx : P x) (h : Ascending P le xs) (hle : ∀ y ∈ xs, le x y = true) :
    Ascending P le (x :: xs) :=
  ⟨List.pairwise_cons.mpr ⟨hle, h.pairwise⟩, List.forall_mem_cons.mpr ⟨hx, h.all⟩⟩

/-- What is before a place is in order before what is behind it. -/
theorem le_of_take_of_drop (h : Ascending P le xs) {n : Nat} {x y : α} (hx : x ∈ xs.take n)
    (hy : y ∈ xs.drop n) : le x y = true := by
  have hsplit := h.pairwise
  rw [← List.take_append_drop n xs] at hsplit
  exact (List.pairwise_append.mp hsplit).2.2 x hx y hy

/-- The items up to some item form a cut. -/
theorem exists_cut_le (ho : IsOrder le) (h : Ascending P le xs) (x : α) :
    ∃ k, IsCut (fun z => le z x) xs k :=
  exists_isCut (h.pairwise.imp fun hyz hzx => ho.trans hyz hzx)

/-- The items strictly before some item form a cut. -/
theorem exists_cut_lt (ho : IsOrder le) (h : Ascending P le xs) (x : α) :
    ∃ k, IsCut (fun z => !le x z) xs k := by
  refine exists_isCut (h.pairwise.imp fun {y z} hyz hxz => ?_)
  -- if `x` is before `y`, it is before `z`
  rw [Bool.not_eq_true'] at hxz ⊢
  by_cases hxy : le x y = true
  · rw [ho.trans hxy hyz] at hxz
    exact absurd hxz.symm Bool.false_ne_true
  · exact Bool.eq_false_iff.mpr hxy

/-- The first item is before all others. -/
theorem le_of_head? (ho : IsOrder le) (h : Ascending P le xs) {x y : α}
    (hx : xs.head? = some x) (hy : y ∈ xs) : le x y = true := by
  cases xs with
  | nil => simp at hx
  | cons z zs =>
    obtain rfl := Option.some.inj hx
    rcases List.mem_cons.mp hy with rfl | hy
    · exact (ho.total y y).elim id id
    · exact (List.pairwise_cons.mp h.pairwise).1 y hy

/-- All items are before the last one. -/
theorem le_of_getLast? (ho : IsOrder le) (h : Ascending P le xs) {x y : α}
    (hx : xs.getLast? = some x) (hy : y ∈ xs) : le y x = true :=
  h.reverse.le_of_head? ho.reversed (by rw [List.head?_reverse, hx]) (List.mem_reverse.mpr hy)

end Ascending

/-- The opposite question is whether one item is in order before the other. -/
theorem AsksFor.opposite_eq (hask : AsksFor P le less) {x : α} {items : List α} (hx : P x)
    (h : Ascending P le items) : ∀ z ∈ items, opposite (less x) z = .ok (le z x) := by
  intro z hz
  rw [opposite, hask x z hx (h.all z hz), Except.map, Bool.not_not]

/-! ## Section 2: The next run -/

section

variable (ho : IsOrder le) (hask : AsksFor P le less)

include ho hask

/-- A run goes on as long as each item is in order behind the last one, or, if
    it descends, as long as none is. -/
theorem continueRun_yields (descending : Bool) {last : α} {items : List α} (hlast : P last)
    (hitems : ∀ x ∈ items, P x) :
    Yields (continueRun less descending last items) fun run =>
      (last :: run).Pairwise fun x y => le x y = !descending := by
  induction items generalizing last with
  | nil => exact Yields.ok (List.pairwise_singleton _ _)
  | cons x xs ih =>
    obtain ⟨hx, hxs⟩ := List.forall_mem_cons.mp hitems
    rw [continueRun, hask x last hx hlast]
    by_cases hnext : (!le last x) = descending
    · have hle : le last x = !descending := by rw [← hnext, Bool.not_not]
      simp only [Except.bind, hnext, if_true]
      refine (ih hx hxs).map fun run hrun => List.pairwise_cons.mpr ⟨?_, hrun⟩
      -- what is behind `x` is behind `last`, too
      refine List.forall_mem_cons.mpr ⟨hle, fun y hy => ?_⟩
      exact ho.trans_eq hle ((List.pairwise_cons.mp hrun).1 y hy)
    · simp only [Except.bind, hnext, if_false]
      exact Yields.ok (List.pairwise_singleton _ _)

theorem leadingRun_yields {items : List α} (hitems : ∀ x ∈ items, P x) :
    Yields (leadingRun less items) (Ascending P le) := by
  have hall : ∀ run, leadingRun less items = .ok run → ∀ x ∈ run, P x := fun run hrun x hx =>
    hitems x (List.mem_of_mem_take ((leadingRun_perm hrun).mem_iff.mp hx))
  suffices hpairwise : Yields (leadingRun less items) fun run =>
      run.Pairwise fun x y => le x y = true by
    obtain ⟨run, hrun, h, hall⟩ := hpairwise.and hall
    exact ⟨run, hrun, h, hall⟩
  match items with
  | [] => exact Yields.ok .nil
  | [x] => exact Yields.ok (List.pairwise_singleton _ _)
  | x :: y :: rest =>
    obtain ⟨hx, hrest⟩ := List.forall_mem_cons.mp hitems
    obtain ⟨hy, hrest⟩ := List.forall_mem_cons.mp hrest
    have hrun := continueRun_yields ho hask (!le x y) hy hrest
    rw [leadingRun, hask y x hy hx]
    refine hrun.map fun run hrun => ?_
    rw [Bool.not_not] at hrun
    -- the first two items are as all neighbours in the run are
    have hwhole : (x :: y :: run).Pairwise fun v w => le v w = le x y := by
      refine List.pairwise_cons.mpr ⟨List.forall_mem_cons.mpr ⟨rfl, fun z hz => ?_⟩, hrun⟩
      exact ho.trans_eq rfl ((List.pairwise_cons.mp hrun).1 z hz)
    cases hxy : le x y with
    | true =>
      rw [hxy] at hwhole
      exact hwhole
    | false =>
      rw [hxy] at hwhole
      exact List.pairwise_reverse.mpr (hwhole.imp fun h => ho.le_of_not h)

/-- Insertion puts each item behind those that it is not less than. -/
theorem insertAll_yields {run items : List α} (hrun : Ascending P le run)
    (hitems : ∀ x ∈ items, P x) : Yields (insertAll less run items) (Ascending P le) := by
  induction items generalizing run with
  | nil => exact Yields.ok hrun
  | cons x xs ih =>
    obtain ⟨hx, hxs⟩ := List.forall_mem_cons.mp hitems
    obtain ⟨k, hk⟩ := hrun.exists_cut_le ho x
    rw [insertAll, bisect_of_isCut (hask.opposite_eq hx hrun) hk]
    refine ih ?_ hxs
    -- the items up to `x`, then `x`, then those behind it
    refine (hrun.take k).append ((hrun.drop k).cons hx fun y hy => ?_) fun y hy => ?_
    · exact ho.le_of_not (hk.after y hy)
    · exact List.forall_mem_cons.mpr ⟨hk.before y hy, fun z hz => hrun.le_of_take_of_drop hy hz⟩

theorem nextRun_yields (least : Nat) {items : List α} (hitems : ∀ x ∈ items, P x) :
    Yields (nextRun less least items) (Ascending P le) := by
  refine (leadingRun_yields ho hask hitems).bind fun run hrun => ?_
  refine insertAll_yields ho hask hrun fun x hx => ?_
  exact hitems x (List.mem_of_mem_take (List.mem_of_mem_drop hx))

end

end Keyspace.Sorting
