import Keyspace.Path.Operand

/-! # Quotients

    Two values stand on the sides of a division sign. A path resolves a path or
    a text, and a number is divided by a number; no other two values have a
    quotient. The quotient of numbers is a floating-point number, the one
    nearest to the exact quotient.
-/

namespace Keyspace

/-! ## Section 1: Floating-point numbers -/

namespace Binary64

/-- The number nearest to an integer, infinite if the integer is too large. -/
def ofInt (i : Int) : Binary64 := ofQuotient (i < 0) i.natAbs 1

/-- A numerator and a denominator of `significand · 2^exponent`. -/
def ratio (significand : Nat) (exponent : Int) : Nat × Nat :=
  (significand * twoTo exponent.toNat, twoTo (-exponent).toNat)

/-- The quotient of two numbers, of which the second is not zero. -/
def divide : Binary64 → Binary64 → Binary64
  | nan, _ | _, nan => nan
  | infinite _, infinite _ => nan
  | infinite s, finite t _ _ => infinite (s ^^ t)
  | finite s _ _, infinite t => zero (s ^^ t)
  | finite s m e, finite t n f =>
    let (a, b) := ratio m e
    let (c, d) := ratio n f
    ofQuotient (s ^^ t) (a * d) (b * c)

/-- Whether a number is a zero of either sign. -/
def isZero : Binary64 → Bool
  | finite _ 0 _ => true
  | _ => false

/-- Whether a number is finite. -/
def isFinite : Binary64 → Bool
  | finite _ _ _ => true
  | _ => false

end Binary64

namespace Value

/-! ## Section 2: Numbers -/

/-- The quotient of two integers. -/
def quotientOfInts (i j : Int) : Except Misuse Binary64 :=
  if j = 0 then .error .divisionByZero
  else
    let q := Binary64.ofQuotient ((i < 0) ^^ (j < 0)) i.natAbs j.natAbs
    if q.isFinite then .ok q else .error .quotientTooLarge

/-- A number as a floating-point number. An integer must not be too large. -/
def float? : Value → Option (Except Misuse Binary64)
  | .float _ x => some (.ok x)
  | v => v.integer?.map fun i =>
    if (Binary64.ofInt i).isFinite then .ok (Binary64.ofInt i) else .error .integerTooLarge

/-- The quotient of two numbers; none if one of the values is no number. -/
def quotientOfNumbers? (v w : Value) : Option (Except Misuse Binary64) :=
  match v.integer?, w.integer? with
  | some i, some j => some (quotientOfInts i j)
  | _, _ =>
    match v.float?, w.float? with
    | some x, some y =>
      some (x.bind fun a => y.bind fun b =>
        if b.isZero then .error .divisionByFloatZero else .ok (a.divide b))
    | _, _ => none

/-! ## Section 3: Values -/

/-- The quotient of two values; one of numbers gets a label. -/
def quotient (label : Nat) : Value → Value → Except Fault Value
  | .path p, .path q => .ok (.path (p.resolve q))
  | .path p, .text s => (p.resolveAny (.text s)).map .path
  | v, w =>
    match v.quotientOfNumbers? w with
    | some x => (misused x).map fun a => .float label a
    | none => .error (.misuse (.indivisible v.typeName w.typeName))

end Value

end Keyspace
