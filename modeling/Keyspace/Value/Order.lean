import Keyspace.Value.Equality
import Keyspace.Misuse

/-! # Order of values

    Numbers are ordered by the numbers they denote, texts and paths by their
    characters, and lists by the first items that differ, or by length if none
    do. No other two values are ordered, and to ask is a misuse.
-/

namespace Keyspace

/-! ## Section 1: Answers to ordering questions -/

/-- The answer that a comparison gives. -/
def OrderOp.holds : OrderOp → Ordering → Bool
  | less, o => o == .lt
  | lessEq, o => o != .gt
  | greater, o => o == .gt
  | greaterEq, o => o != .lt

/-- The answer for two numbers; an undefined number stands in no order. -/
def OrderOp.onNumbers (op : OrderOp) (a b : Extended) : Bool :=
  match a.compare? b with
  | none => false
  | some o => op.holds o

/-- The answer for two texts. -/
def OrderOp.onTexts (op : OrderOp) (s t : String) : Bool :=
  op.holds (if s < t then .lt else if s = t then .eq else .gt)

/-- The answer for two addresses. -/
def OrderOp.onAddresses : OrderOp → Address → Address → Bool
  | less, a, b => a.less b
  | lessEq, a, b => a.lessEq b
  | greater, a, b => a.greater b
  | greaterEq, a, b => a.greaterEq b

/-- The answer for two values that are not lists. -/
def OrderOp.onScalars (op : OrderOp) : Value → Value → Except Misuse Bool
  | .text s, .text t => .ok (op.onTexts s t)
  | .path ⟨a, _⟩, .path ⟨b, _⟩ => .ok (op.onAddresses a b)
  | v, w =>
    match v.number?, w.number? with
    | some a, some b => .ok (op.onNumbers a b)
    | _, _ => .error (.unordered op v.typeName w.typeName)

/-! ## Section 2: Values -/

mutual

/-- The answer for two values. -/
def Value.ordered (op : OrderOp) : Value → Value → Except Misuse Bool
  | .list _ xs, .list _ ys => orderedItems op xs ys
  | .pair a b, .pair c d =>
    (a.alike c).bind fun same => if same then b.ordered op d else a.ordered op c
  | v, w => op.onScalars v w

/-- The answer for two lists: that for the first items that differ, or for the
    lengths. -/
def Value.orderedItems (op : OrderOp) : List Value → List Value → Except Misuse Bool
  | v :: vs, w :: ws =>
    (v.alike w).bind fun same => if same then orderedItems op vs ws else v.ordered op w
  | [], [] => .ok (op.holds .eq)
  | [], _ :: _ => .ok (op.holds .lt)
  | _ :: _, [] => .ok (op.holds .gt)

end

end Keyspace
