import Keyspace.Sorting.Merge
import Keyspace.Proofs.Except

/-! # Searches find boundaries

    A condition on indices has the boundary `k` when it holds exactly at the
    indices below `k`. Whatever the hint, and from whichever end of a list the
    search starts, the boundary is what it finds (`boundary_eq`,
    `leading_of_isCut`).

    On the items of a list such a condition is a cut: it holds for the first
    items and for none of the others. Every condition that passes from an item
    to all items before it is a cut (`exists_isCut`).
-/

namespace Keyspace.Sorting

variable {α ε : Type}

/-! ## Section 1: Boundaries -/

/-- The leaps end around the boundary. -/
theorem leap_eq {holds : Nat → Except ε Bool} {k limit : Nat}
    (h : ∀ d, d < limit → holds d = .ok (decide (d < k))) (hk : k ≤ limit) (last next : Nat)
    (hlast : last < k) :
    ∃ i j, leap holds limit last next = .ok (i, j) ∧ i < k ∧ k ≤ j ∧ j ≤ limit := by
  fun_induction leap holds limit last next with
  | case1 last next hnext ih =>
    rw [h next hnext]
    by_cases hlt : next < k
    · simpa [Except.bind, hlt] using ih hlt
    · exact ⟨last, next, by simp [Except.bind, hlt], hlast, by omega, by omega⟩
  | case2 last next hnext => exact ⟨last, limit, rfl, hlast, hk, Nat.le_refl _⟩

/-- The search finds the boundary, wherever it starts. -/
theorem boundary_eq {holds : Nat → Except ε Bool} {k size : Nat}
    (h : ∀ i, holds i = .ok (decide (i < k))) (hk : k ≤ size) (hint : Nat) :
    boundary holds size hint = .ok k := by
  rw [boundary, h hint]
  by_cases hhint : hint < k
  · -- the boundary lies behind the hint
    have hahead : ∀ d, d < size - hint →
        holds (hint + d) = .ok (decide (d < k - hint)) := fun d _ => by
      have hiff : hint + d < k ↔ d < k - hint := by omega
      rw [h, decide_eq_decide.mpr hiff]
    obtain ⟨i, j, hleap, hi, hj, hlimit⟩ := leap_eq hahead (by omega) 0 1 (by omega)
    simp only [Except.bind, hhint, decide_true, if_true, hleap]
    exact bisect_eq (fun i _ _ => h i) (by omega) (by omega)
  · -- the boundary lies at the hint or before it, and the distances count backwards
    have hback : ∀ d, d < hint + 1 →
        opposite (fun d => holds (hint - d)) d = .ok (decide (d < hint + 1 - k)) := fun d hd => by
      have hiff : ¬hint - d < k ↔ d < hint + 1 - k := by omega
      rw [opposite, h, Except.map, ← decide_not, decide_eq_decide.mpr hiff]
    obtain ⟨i, j, hleap, hi, hj, hlimit⟩ := leap_eq hback (by omega) 0 1 (by omega)
    simp only [Except.bind, hhint, decide_false, Bool.false_eq_true, if_false, hleap]
    exact bisect_eq (fun i _ _ => h i) (by omega) (by omega)

/-! ## Section 2: Cuts -/

/-- A condition holds for the first `k` items and for none of the others. -/
structure IsCut (holds : α → Bool) (items : List α) (k : Nat) : Prop where
  le : k ≤ items.length
  before : ∀ x ∈ items.take k, holds x = true
  after : ∀ x ∈ items.drop k, holds x = false

/-- A condition that passes from each item to those before it is a cut. -/
theorem exists_isCut {holds : α → Bool} {items : List α}
    (h : items.Pairwise fun x y => holds y = true → holds x = true) :
    ∃ k, IsCut holds items k := by
  induction items with
  | nil => exact ⟨0, by simp, by simp, by simp⟩
  | cons x xs ih =>
    obtain ⟨hx, hxs⟩ := List.pairwise_cons.mp h
    cases hholds : holds x with
    | true =>
      obtain ⟨k, hle, hbefore, hafter⟩ := ih hxs
      refine ⟨k + 1, by simpa using hle, ?_, by simpa using hafter⟩
      rw [List.take_succ_cons]
      exact List.forall_mem_cons.mpr ⟨hholds, hbefore⟩
    | false =>
      -- it holds for no item behind `x`, or it would hold for `x`
      refine ⟨0, Nat.zero_le _, by simp, ?_⟩
      refine List.forall_mem_cons.mpr ⟨hholds, fun y hy => ?_⟩
      cases hy' : holds y with
      | true => exact absurd (hx y hy hy') (by rw [hholds]; exact Bool.false_ne_true)
      | false => rfl

theorem IsCut.reverse {holds : α → Bool} {items : List α} {k : Nat}
    (h : IsCut holds items k) :
    IsCut (fun x => !holds x) items.reverse (items.length - k) := by
  have hle := h.le
  refine ⟨by simp, fun x hx => ?_, fun x hx => ?_⟩
  · rw [List.take_reverse, Nat.sub_sub_self hle, List.mem_reverse] at hx
    rw [h.after x hx, Bool.not_false]
  · rw [List.drop_reverse, Nat.sub_sub_self hle, List.mem_reverse] at hx
    rw [h.before x hx, Bool.not_true]

section Asked

variable {ask : α → Except ε Bool} {holds : α → Bool} {items : List α} {k : Nat}

/-- At the indices of a list, a cut is a boundary. -/
theorem askAt_of_isCut (hask : ∀ x ∈ items, ask x = .ok (holds x)) (h : IsCut holds items k)
    (i : Nat) : askAt ask items i = .ok (decide (i < k)) := by
  have hle := h.le
  unfold askAt
  split
  · next x hx =>
    rw [hask x (List.mem_of_getElem? hx)]
    by_cases hi : i < k
    · have hmem : x ∈ items.take k := List.mem_of_getElem? (by rwa [List.getElem?_take_of_lt hi])
      rw [h.before x hmem, decide_eq_true hi]
    · have hmem : x ∈ items.drop k :=
        List.mem_of_getElem? (i := i - k) (by rwa [List.getElem?_drop, Nat.add_sub_cancel' (by omega)])
      rw [h.after x hmem, decide_eq_false hi]
  · next hnone =>
    have hlength := List.getElem?_eq_none_iff.mp hnone
    rw [decide_eq_false (by omega)]

theorem bisect_of_isCut (hask : ∀ x ∈ items, ask x = .ok (holds x)) (h : IsCut holds items k) :
    bisect (askAt ask items) 0 items.length = .ok k :=
  bisect_eq (fun i _ _ => askAt_of_isCut hask h i) (Nat.zero_le _) h.le

theorem boundary_of_isCut (hask : ∀ x ∈ items, ask x = .ok (holds x)) (h : IsCut holds items k)
    (hint : Nat) : boundary (askAt ask items) items.length hint = .ok k :=
  boundary_eq (askAt_of_isCut hask h) h.le hint

theorem opposite_eq (hask : ∀ x ∈ items, ask x = .ok (holds x)) :
    ∀ x ∈ items, opposite ask x = .ok (!holds x) := by
  intro x hx
  rw [opposite, hask x hx]
  rfl

/-- A leap takes as many items as satisfy the condition, from either end. -/
theorem Merge.leading_of_isCut (side : Side) (hask : ∀ x ∈ items, ask x = .ok (holds x))
    (h : IsCut holds items k) : leading side ask items = .ok k := by
  cases side with
  | front => exact boundary_of_isCut hask h 0
  | back =>
    have hreversed : ∀ x ∈ items.reverse, opposite ask x = .ok (!holds x) := fun x hx =>
      opposite_eq hask x (List.mem_reverse.mp hx)
    have hboundary := boundary_of_isCut hreversed h.reverse (items.length - 1)
    rw [List.length_reverse] at hboundary
    rw [leading, hboundary, Except.map, Nat.sub_sub_self h.le]

end Asked

end Keyspace.Sorting
