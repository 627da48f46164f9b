import Keyspace.Number.Binary64

/-! # Exact values of numbers

    Integers, truth values and floating-point numbers are compared by the
    number they denote, without rounding. `Extended` is the line of rationals
    with both infinities and one element that is comparable to nothing.

    Equal numbers have equal residues: a residue is a function of the value
    alone.
-/

namespace Keyspace

/-- A rational, an infinity, or nothing comparable. -/
inductive Extended where
  | undefined
  | infinite (negative : Bool)
  | finite (q : Rat)
deriving DecidableEq

namespace Extended

/-! ## Section 1: Comparison -/

/-- How two numbers compare; none if one of them is undefined. -/
def compare? : Extended → Extended → Option Ordering
  | .undefined, _ | _, .undefined => none
  | .infinite a, .infinite b =>
    some (if a = b then .eq else if a then .lt else .gt)
  | .infinite a, .finite _ => some (if a then .lt else .gt)
  | .finite _, .infinite b => some (if b then .gt else .lt)
  | .finite p, .finite q => some (if p < q then .lt else if q < p then .gt else .eq)

/-! ## Section 2: Residues -/

/-- Residues are taken modulo this prime. -/
def modulus : Nat := twoTo 61 - 1

/-- The residue of a rational whose denominator is a power of two: numerator
    times the inverse of the denominator, with the numerator's sign. Since
    `2^61` is one modulo the prime, the inverse of `2^k` is `2^(60·k)`. The
    residue -1 is not used; -2 stands for it. -/
def rationalResidue (q : Rat) : Int :=
  let inverse := twoTo (60 * q.den.log2 % 61)
  let r := Int.ofNat (q.num.natAbs * inverse % modulus)
  let signed := if q.num < 0 then -r else r
  if signed = -1 then -2 else signed

/-- The residue of a number; that of an infinity is fixed. -/
def residue? : Extended → Option Int
  | .undefined => none
  | .infinite negative => some (if negative then -314159 else 314159)
  | .finite q => some (rationalResidue q)

end Extended

/-- The value of a floating-point number. -/
def Binary64.exact : Binary64 → Extended
  | .nan => .undefined
  | .infinite negative => .infinite negative
  | .finite negative significand exponent =>
    let magnitude : Rat :=
      mkRat (Int.ofNat (significand * twoTo exponent.toNat)) (twoTo (-exponent).toNat)
    .finite (if negative then -magnitude else magnitude)

end Keyspace
