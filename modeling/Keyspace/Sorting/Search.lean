/-! # Searching for a boundary

    A condition that holds at the first indices and at none after them has a
    boundary: the number of indices at which it holds. A condition is asked
    index by index, and an answer may be a failure, which ends the search. So
    the order of the questions is part of what a search does.

    `bisect` halves an interval. `boundary` starts near a hint, leaps away from
    it in growing steps until the boundary is behind, and bisects what the last
    leap passed over.
-/

namespace Keyspace.Sorting

variable {α ε : Type}

/-! ## Section 1: Conditions -/

/-- A condition on items as one on the indices of a list. -/
def askAt (holds : α → Except ε Bool) (items : List α) (i : Nat) : Except ε Bool :=
  match items[i]? with
  | some x => holds x
  | none => .ok false

/-- The opposite of a condition. -/
def opposite {β : Type} (holds : β → Except ε Bool) (x : β) : Except ε Bool :=
  (holds x).map not

/-! ## Section 2: Searches -/

/-- The boundary of a condition, which lies from `low` up to `high`. -/
def bisect (holds : Nat → Except ε Bool) (low high : Nat) : Except ε Nat :=
  if low < high then
    let middle := low + (high - low) / 2
    (holds middle).bind fun h =>
      if h then bisect holds (middle + 1) high else bisect holds low middle
  else .ok low
termination_by high - low

/-- Leaps to the distances `next`, `2 · next + 1` and so on while a condition
    holds there. The result is the last distance at which it held, `last` if
    there is none, and the one after it, which is at most `limit`. -/
def leap (holds : Nat → Except ε Bool) (limit last next : Nat) : Except ε (Nat × Nat) :=
  if next < limit then
    (holds next).bind fun h =>
      if h then leap holds limit next (2 * next + 1) else .ok (last, next)
  else .ok (last, limit)
termination_by limit - next

/-- The boundary of a condition on the indices below `size`, searched for from
    the index `hint` on. -/
def boundary (holds : Nat → Except ε Bool) (size hint : Nat) : Except ε Nat :=
  (holds hint).bind fun h =>
    if h then
      (leap (fun d => holds (hint + d)) (size - hint) 0 1).bind fun (last, next) =>
        bisect holds (hint + last + 1) (hint + next)
    else
      (leap (opposite fun d => holds (hint - d)) (hint + 1) 0 1).bind fun (last, next) =>
        bisect holds (hint + 1 - next) (hint - last)

/-! ## Section 3: What the searches find -/

/-- Bisection finds the boundary. -/
theorem bisect_eq {holds : Nat → Except ε Bool} {k low high : Nat}
    (h : ∀ i, low ≤ i → i < high → holds i = .ok (decide (i < k)))
    (hlow : low ≤ k) (hhigh : k ≤ high) : bisect holds low high = .ok k := by
  fun_induction bisect holds low high with
  | case1 low high hlt middle ihUpper ihLower =>
    have hm : low ≤ middle ∧ middle < high := by omega
    rw [h middle hm.1 hm.2]
    by_cases hk : middle < k
    · simpa [Except.bind, hk] using
        ihUpper (fun i hi => h i (by omega)) (by omega) hhigh
    · simpa [Except.bind, hk] using
        ihLower (fun i hi hi' => h i hi (by omega)) hlow (by omega)
  | case2 low high hle =>
    obtain rfl : low = k := by omega
    rfl

end Keyspace.Sorting
