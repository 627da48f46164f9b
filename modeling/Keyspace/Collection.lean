import Keyspace.Value.Order
import Keyspace.Value.Hash
import Keyspace.Sorting.Basic

/-! # Collections of values

    Lists of values are sorted by asking which of two values is less, and the
    least and the greatest value are found so, too. The first question that is
    a misuse counts. Repetitions are told by hash and equality.
-/

namespace Keyspace.Collection

/-! ## Section 1: Sorting -/

/-- Whether one value is less than another. -/
def less (v w : Value) : Except Misuse Bool := v.ordered .less w

/-- The values in ascending order. -/
def ascending (items : List Value) : Except Misuse (List Value) := Sorting.sort less items

/-- The values in ascending or descending order; equal values keep the order
    in which they came either way. -/
def sort (reverse : Bool) (items : List Value) : Except Misuse (List Value) :=
  if reverse then (ascending items.reverse).map List.reverse else ascending items

/-! ## Section 2: Choosing -/

/-- The question that decides whether an item is more extreme than another. -/
def question : Extreme → OrderOp
  | .least => .less
  | .greatest => .greater

/-- The most extreme of a value and further items; the first of equals. -/
def extremeFrom (e : Extreme) (best : Value) : List Value → Except Misuse Value
  | [] => .ok best
  | v :: vs =>
    (v.ordered (question e) best).bind fun better =>
      extremeFrom e (if better then v else best) vs

/-- The first least or first greatest item. -/
def extreme (e : Extreme) : List Value → Except Misuse Value
  | [] => .error (.emptyList e)
  | v :: vs => extremeFrom e v vs

/-- Whether a value with a hash is alike one of the values seen. Values are
    told apart by hash first. -/
def isAmong (h : HashKey) (v : Value) : List (HashKey × Value) → Except Misuse Bool
  | [] => .ok false
  | (k, w) :: rest =>
    if k = h then (w.alike v).bind fun same => if same then .ok true else isAmong h v rest
    else isAmong h v rest

/-- The items that are not alike one of `seen` or an earlier one. Each must
    have a hash. -/
def distinctFrom (seen : List (HashKey × Value)) : List Value → Except Misuse (List Value)
  | [] => .ok []
  | v :: vs =>
    v.hashKey.bind fun h =>
      (isAmong h v seen).bind fun known =>
        if known then distinctFrom seen vs
        else (distinctFrom (seen ++ [(h, v)]) vs).map fun rest => v :: rest

/-- The items without those alike an earlier one. -/
def distinct (items : List Value) : Except Misuse (List Value) := distinctFrom [] items

end Keyspace.Collection
