import Keyspace.Sorting.Run

/-! # Merging two runs

    Two neighbouring runs are merged from the front if the first one is the
    shorter, and from the back otherwise. The shorter run is put aside, and the
    next item is taken from either run, whichever comes first seen from that
    end.

    While the items come from both runs in turn they are taken one at a time.
    When one run has given several in a row, a search tells how many more come
    from it; such leaps go on as long as they are long. The number of items in
    a row that leads to leaping, the patience, is handed on from one merge to
    the next. It shrinks while leaping pays off and grows when it does not.
-/

namespace Keyspace.Sorting

variable {α ε : Type}

/-! ## Section 1: The state of a merge -/

/-- The end from which runs are merged. -/
inductive Side where
  | front
  | back
deriving DecidableEq

/-- A merge under way. From the back, all lists are in reverse. -/
structure Merge (α : Type) where
  /-- The items merged so far, the latest first. -/
  merged : List α
  /-- What is left of the run that was put aside. -/
  aside : List α
  /-- What is left of the other run. -/
  other : List α

namespace Merge

/-- Takes items from the run that was put aside. -/
def takeAside (m : Merge α) (n : Nat) : Merge α :=
  ⟨(m.aside.take n).reverse ++ m.merged, m.aside.drop n, m.other⟩

/-- Takes items from the other run. -/
def takeOther (m : Merge α) (n : Nat) : Merge α :=
  ⟨(m.other.take n).reverse ++ m.merged, m.aside, m.other.drop n⟩

/-- The last item of the run that was put aside comes last, so nothing is left
    to ask when it is the only one, or when the other run is used up. -/
def isOver (m : Merge α) : Bool := m.aside.length ≤ 1 || m.other.isEmpty

/-- All items, for a merge that is over. -/
def items (m : Merge α) : List α := m.merged.reverse ++ m.other ++ m.aside

/-! ## Section 2: Leaps -/

/-- Whether an item of the other run comes before one of the run aside. Of
    equal items the one from the first run comes before the other. -/
def otherFirst (side : Side) (less : α → α → Except ε Bool) (aside other : α) :
    Except ε Bool :=
  match side with
  | .front => less other aside
  | .back => less aside other

/-- How many leading items satisfy a condition that none satisfies after them.
    The search starts at the leading item, which from the back has the last
    index. -/
def leading (side : Side) (holds : α → Except ε Bool) (items : List α) : Except ε Nat :=
  match side with
  | .front => boundary (askAt holds items) items.length 0
  | .back =>
    (boundary (askAt (opposite holds) items.reverse) items.length (items.length - 1)).map
      fun i => items.length - i

/-- Takes the items aside that come before the next one of the other run, and
    then that one. Also tells how many the former were. -/
def leapAside (side : Side) (less : α → α → Except ε Bool) (m : Merge α) :
    Except ε (Merge α × Nat) :=
  match m.isOver, m.other with
  | false, y :: _ =>
    (leading side (opposite fun x => otherFirst side less x y) m.aside).map fun n =>
      ((m.takeAside n).takeOther 1, n)
  | _, _ => .ok (m, 0)

/-- Takes the items of the other run that come before the next one aside, and
    then that one. Also tells how many the former were. -/
def leapOther (side : Side) (less : α → α → Except ε Bool) (m : Merge α) :
    Except ε (Merge α × Nat) :=
  match m.isOver, m.aside with
  | false, x :: _ =>
    (leading side (otherFirst side less x) m.other).map fun n =>
      ((m.takeOther n).takeAside 1, n)
  | _, _ => .ok (m, 0)

/-- A leap in either run, first in the one that comes first in the list. The
    longer of the two is told. -/
def leapBoth (side : Side) (less : α → α → Except ε Bool) (m : Merge α) :
    Except ε (Merge α × Nat) :=
  let (first, second) := match side with
    | .front => (leapAside side less, leapOther side less)
    | .back => (leapOther side less, leapAside side less)
  (first m).bind fun (m, n) => (second m).map fun (m, k) => (m, max n k)

/-! ## Section 3: Merging -/

/-- How the next items are taken: one at a time, each run having given so many
    in a row, or by leaps. -/
inductive Pace where
  | single (aside other : Nat)
  | leaping

/-- Leaping goes on after a leap of at least this many items, which is also the
    patience at the start. -/
def longLeap : Nat := 7

/-- Merges on, with a bound on the number of steps. Each step takes an item at
    least. -/
def finish (side : Side) (less : α → α → Except ε Bool) :
    Nat → Nat → Pace → Merge α → Except ε (List α × Nat)
  | 0, patience, _, m => .ok (m.items, patience)
  | steps + 1, patience, pace, m =>
    match m.isOver, m.aside, m.other, pace with
    | false, x :: _, y :: _, .single asideWins otherWins =>
      (otherFirst side less x y).bind fun isOther =>
        let wins := if isOther then otherWins + 1 else asideWins + 1
        let m := if isOther then m.takeOther 1 else m.takeAside 1
        let pace :=
          if patience ≤ wins then .leaping
          else if isOther then .single 0 wins
          else .single wins 0
        finish side less steps patience pace m
    | false, _ :: _, _ :: _, .leaping =>
      (leapBoth side less m).bind fun (m, n) =>
        if m.isOver then .ok (m.items, patience)
        else if longLeap ≤ n then finish side less steps (max 1 (patience - 1)) .leaping m
        else finish side less steps (patience + 1) (.single 0 0) m
    | _, _, _, _ => .ok (m.items, patience)

end Merge

/-- Merges two runs of which the first item of the second comes first and the
    last item of the first comes last. -/
def mergeOverlapping (less : α → α → Except ε Bool) (patience : Nat) (first second : List α) :
    Except ε (List α × Nat) :=
  let steps := first.length + second.length
  if first.length ≤ second.length then
    Merge.finish .front less steps patience (.single 0 0)
      (Merge.takeOther ⟨[], first, second⟩ 1)
  else
    (Merge.finish .back less steps patience (.single 0 0)
      (Merge.takeOther ⟨[], second.reverse, first.reverse⟩ 1)).map fun (items, patience) =>
        (items.reverse, patience)

/-- Merges two neighbouring runs. The items that are in their places already,
    at the start of the first run and at the end of the second, stay there. -/
def mergeRuns (less : α → α → Except ε Bool) (patience : Nat) (first second : List α) :
    Except ε (List α × Nat) :=
  match second with
  | [] => .ok (first, patience)
  | y :: _ =>
    (boundary (askAt (opposite (less y)) first) first.length 0).bind fun i =>
      match (first.drop i).getLast? with
      | none => .ok (first ++ second, patience)
      | some x =>
        (boundary (askAt (fun z => less z x) second) second.length
            (second.length - 1)).bind fun j =>
          if j = 0 then .ok (first ++ second, patience)
          else
            (mergeOverlapping less patience (first.drop i) (second.take j)).map
              fun (items, patience) => (first.take i ++ items ++ second.drop j, patience)

end Keyspace.Sorting
