import Keyspace.Value.Shared
import Keyspace.Misuse

/-! # Equality of values

    Numbers are equal when they denote the same number, whatever their types;
    lists item by item; dictionaries when they have the same keys with equal
    values, in any order. Paths are equal by address, file systems by what they
    are made from, configurations and locations by content, and an error is
    equal to itself alone. Values of different types, numbers apart, differ.

    An undefined number equals nothing, not even itself. Inside other values it
    is enough to be alike (`Value.alike`), which it is to itself. Two different
    values that contain themselves may be compared without end, which is a
    misuse; a difference that is found before ends the comparison.
-/

namespace Keyspace

/-- Whether two numbers are the same; an undefined one is the same as none. -/
def Extended.same (a b : Extended) : Bool := a.compare? b == some .eq

/-- Whether two values denote the same number. -/
def Value.sameNumber (v w : Value) : Bool :=
  match v.number?, w.number? with
  | some a, some b => a.same b
  | _, _ => false

/-- The first answer if it is negative or none, and else the second. -/
@[macro_inline] def both (a b : Except Misuse Bool) : Except Misuse Bool :=
  match a with
  | .ok true => b
  | r => r

mutual

/-- Whether two values are equal or one and the same. Two dictionaries of which
    one is within itself are left to `within`, unless they are the same. -/
def Value.alikeWith (within : Value → Value → Except Misuse Bool) :
    Value → Value → Except Misuse Bool
  | .null, .null => .ok true
  | .text s, .text t => .ok (s == t)
  | .float i .nan, .float j .nan => .ok (i == j)
  | .list _ xs, .list _ ys =>
    if xs.length = ys.length then itemsAlike within xs ys else .ok false
  | .pair a b, .pair c d => both (a.alikeWith within c) (b.alikeWith within d)
  | .dict _ xs, .dict _ ys =>
    if xs.length = ys.length then entriesAlike within xs ys else .ok false
  | .enclosing i, .enclosing j =>
    if i = j then .ok true else within (.enclosing i) (.enclosing j)
  | .enclosing i, .dict l ys =>
    if l = some i then .ok true else within (.enclosing i) (.dict l ys)
  | .dict l xs, .enclosing j =>
    if l = some j then .ok true else within (.dict l xs) (.enclosing j)
  | .path ⟨a, _⟩, .path ⟨b, _⟩ => .ok (a == b)
  | .fileSystem ⟨⟨e, o, _⟩, _, ls⟩, .fileSystem ⟨⟨e', o', _⟩, _, ls'⟩ =>
    if ls.length = ls'.length then both (e.alikeWith within e') (o.alikeWith within o')
    else .ok false
  | .config ⟨e, o, _⟩, .config ⟨e', o', _⟩ =>
    both (e.alikeWith within e') (o.alikeWith within o')
  | .location _ ⟨b, k⟩, .location _ ⟨b', k'⟩ =>
    both (b.alikeWith within b') (.ok (k == k'))
  | .error i _, .error j _ => .ok (i == j)
  | v, w => .ok (v.sameNumber w)

/-- Whether two lists have items that are alike. -/
def Value.itemsAlike (within : Value → Value → Except Misuse Bool) :
    List Value → List Value → Except Misuse Bool
  | v :: vs, w :: ws => both (v.alikeWith within w) (itemsAlike within vs ws)
  | [], [] => .ok true
  | _, _ => .ok false

/-- Whether the values of the first dictionary are alike those in the second
    that have the same keys. -/
def Value.entriesAlike (within : Value → Value → Except Misuse Bool) :
    List (String × Value) → List (String × Value) → Except Misuse Bool
  | [], _ => .ok true
  | (k, v) :: rest, ys =>
    match Entries.get? ys k with
    | none => .ok false
    | some w => both (v.alikeWith within w) (entriesAlike within rest ys)

end

/-- Whether two values are alike. A dictionary within itself is unfolded as
    often as the last argument says; then the comparison is given up. -/
def Value.alikeUpTo (ds : Dictionaries) : Nat → Value → Value → Except Misuse Bool
  | 0 => alikeWith fun _ _ => .error (.endless .comparing)
  | n + 1 => alikeWith fun v w => alikeUpTo ds n (v.unfolded ds) (w.unfolded ds)

/-- A comparison that unfolds more dictionaries than this, one within the
    other, has no end. -/
def unfoldingLimit : Nat := 1000

namespace Value

/-- Whether two values are equal or one and the same. Values inside others are
    compared so. -/
def alike (v w : Value) : Except Misuse Bool :=
  alikeUpTo (v.dictionaries ++ w.dictionaries) unfoldingLimit v w

/-- Whether two values are equal. -/
def same (v w : Value) : Except Misuse Bool :=
  match v.number?, w.number? with
  | some a, some b => .ok (a.same b)
  | _, _ => v.alike w

end Value

end Keyspace
