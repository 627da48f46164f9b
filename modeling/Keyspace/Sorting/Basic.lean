import Keyspace.Sorting.Merge

/-! # Sorting

    A list is sorted by merging its runs. The question is always whether one
    item is less than another. A question may fail, and its answers may be
    inconsistent; the result is then that of the questions asked in order, so
    their order is fixed here.

    Which runs are merged first depends on where they lie: the boundary between
    two runs has a depth in the tree that halves the list again and again, and
    deeper boundaries go first.
-/

namespace Keyspace.Sorting

variable {α ε : Type}

/-! ## Section 1: Pending runs -/

/-- A run that waits for its merges. -/
structure Run (α : Type) where
  /-- The index of its first item in the list. -/
  start : Nat
  items : List α
  /-- The depth of the boundary before it. -/
  depth : Nat

/-- The depth of the boundary between a run and the next one: the number of
    leading binary digits that the midpoints of the two share, as fractions of
    the whole list. -/
def depthBetween (total start firstLength secondLength : Nat) : Nat :=
  let first := 2 * start + firstLength
  let second := first + firstLength + secondLength
  ((List.range (total.log2 + 1)).find? fun k =>
    first <<< k / total != second <<< k / total).getD (total.log2 + 1)

/-- The pending runs, the latest first, and the patience of the next merge. -/
structure Pending (α : Type) where
  runs : List (Run α)
  patience : Nat

/-- Merges two neighbouring runs into one. -/
def joinRuns (less : α → α → Except ε Bool) (patience : Nat) (first second : Run α) :
    Except ε (Run α × Nat) :=
  (mergeRuns less patience first.items second.items).map fun (items, patience) =>
    ({ first with items }, patience)

/-! ## Section 2: Which runs are merged -/

/-- Merges the latest runs as long as the boundary between them is deeper than
    the new one after them. -/
def settle (less : α → α → Except ε Bool) (depth : Nat) (patience : Nat) :
    List (Run α) → Except ε (Pending α)
  | second :: first :: rest =>
    if depth < second.depth then
      (joinRuns less patience first second).bind fun (run, patience) =>
        settle less depth patience (run :: rest)
    else .ok ⟨second :: first :: rest, patience⟩
  | runs => .ok ⟨runs, patience⟩
termination_by runs => runs.length

/-- Merges all runs, of three the middle one with the shorter of its
    neighbours. -/
def mergeAll (less : α → α → Except ε Bool) (patience : Nat) :
    List (Run α) → Except ε (List α)
  | [] => .ok []
  | [run] => .ok run.items
  | [second, first] =>
    (joinRuns less patience first second).map fun (run, _) => run.items
  | third :: second :: first :: rest =>
    if first.items.length < third.items.length then
      (joinRuns less patience first second).bind fun (run, patience) =>
        mergeAll less patience (third :: run :: rest)
    else
      (joinRuns less patience second third).bind fun (run, patience) =>
        mergeAll less patience (run :: first :: rest)
termination_by runs => runs.length

/-- Cuts the items from an index on into runs, and merges them where that is
    due. -/
def collect (less : α → α → Except ε Bool) (total least start : Nat) (pending : Pending α) :
    List α → Except ε (Pending α)
  | [] => .ok pending
  | x :: xs =>
    (nextRun less least (x :: xs)).bind fun items =>
      let depth := match pending.runs with
        | [] => 0
        | last :: _ => depthBetween total last.start last.items.length items.length
      (settle less depth pending.patience pending.runs).bind fun settled =>
        collect less total least (start + items.length)
          { settled with runs := ⟨start, items, depth⟩ :: settled.runs }
          (xs.drop (items.length - 1))
termination_by items => items.length

/-- The items in ascending order. -/
def sort (less : α → α → Except ε Bool) (items : List α) : Except ε (List α) :=
  let total := items.length
  (collect less total (leastLength total 0) 0 ⟨[], Merge.longLeap⟩ items).bind fun pending =>
    mergeAll less pending.patience pending.runs

end Keyspace.Sorting
