import Keyspace.Sorting.Search

/-! # Runs

    A run is a stretch of items that is already in order. A list is cut into
    runs from its start. A run that descends is turned round, and one that is
    too short is made longer by inserting the items that follow it.
-/

namespace Keyspace.Sorting

variable {α ε : Type}

/-! ## Section 1: The leading run -/

/-- The items that continue a run after `last`. In a descending run each item
    is less than the one before it, in an ascending run none is. -/
def continueRun (less : α → α → Except ε Bool) (descending : Bool) (last : α) :
    List α → Except ε (List α)
  | [] => .ok []
  | x :: xs =>
    (less x last).bind fun isLess =>
      if isLess = descending then
        (continueRun less descending x xs).map fun run => x :: run
      else .ok []

/-- The leading run of a list in ascending order. -/
def leadingRun (less : α → α → Except ε Bool) : List α → Except ε (List α)
  | [] => .ok []
  | [x] => .ok [x]
  | x :: y :: rest =>
    (less y x).bind fun descending =>
      (continueRun less descending y rest).map fun run =>
        if descending then (x :: y :: run).reverse else x :: y :: run

/-! ## Section 2: Insertion -/

/-- Inserts items one after the other into a run. Each goes after all items
    that it is not less than. -/
def insertAll (less : α → α → Except ε Bool) (run : List α) : List α → Except ε (List α)
  | [] => .ok run
  | x :: xs =>
    (bisect (askAt (opposite (less x)) run) 0 run.length).bind fun i =>
      insertAll less (run.take i ++ x :: run.drop i) xs

/-! ## Section 3: The next run -/

/-- No run is made longer than this by inserting. -/
def insertionLimit : Nat := 64

/-- The least length of the runs of a list of `size` items: the leading bits of
    `size` that stay below the limit, and one more if any bit left out is set.
    `rest` is one if one was left out before. -/
def leastLength (size rest : Nat) : Nat :=
  if size < insertionLimit then size + rest
  else leastLength (size / 2) (max rest (size % 2))
termination_by size
decreasing_by
  simp only [insertionLimit] at *
  omega

/-- The leading run of a list, made longer if it has fewer than `least` items. -/
def nextRun (less : α → α → Except ε Bool) (least : Nat) (items : List α) :
    Except ε (List α) :=
  (leadingRun less items).bind fun run =>
    insertAll less run ((items.take least).drop run.length)

end Keyspace.Sorting
