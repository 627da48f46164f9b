import Keyspace.Number.Binary64

/-! # The shortest decimal that reads back

    Every finite number is nearest to a whole interval of reals. Of the
    decimals in that interval those with the fewest digits are the shortest,
    and of these the one nearest to the number is written. `shortest` finds it
    by trying 1, 2, … 17 digits: on the grid of decimals with that many digits
    only the two neighbours of the number need a look.

    `Layout` then decides where the point stands and when an exponent is
    written.
-/

namespace Keyspace.Binary64

/-! ## Section 1: Decimal digits -/

/-- How many decimal digits a positive number has. -/
def digitCount (n : Nat) : Nat := (Nat.toDigits 10 n).length

/-- The decimal exponent `p` of the positive quotient `num / den`:
    `10^p ≤ num / den < 10^(p + 1)`. -/
def decimalExponent (num den : Nat) : Int :=
  if den ≤ num then Int.ofNat (digitCount (num / den)) - 1
  else -Int.ofNat (digitCount ((den - 1) / num))

/-- A decimal `digits · 10^scale`. -/
structure Decimal where
  digits : Nat
  scale : Int
deriving DecidableEq

/-- The same decimal with trailing zeros of its digits, at most `fuel` of them,
    moved into the scale. -/
def cutZeros (fuel : Nat) (d : Decimal) : Decimal :=
  match fuel with
  | 0 => d
  | fuel + 1 =>
    if d.digits % 10 = 0 ∧ d.digits ≠ 0 then cutZeros fuel ⟨d.digits / 10, d.scale + 1⟩ else d

/-! ## Section 2: The interval of a number -/

/-- The reals that round to a number, in units of a quarter of its last place:
    `low ≤ x ≤ high`, the ends excluded unless `closed`. -/
structure Interval where
  low : Nat
  high : Nat
  closed : Bool

/-- The interval of `significand · 2^exponent`. Below a power of two the
    neighbour is only half as far away, except at the least exponent. The ends
    round to the number when its significand is even. -/
def interval (significand : Nat) (exponent : Int) : Interval :=
  { low := 4 * significand -
      if significand = twoTo (precision - 1) ∧ leastExponent < exponent then 1 else 2
    high := 4 * significand + 2
    closed := significand % 2 = 0 }

/-- Whether the quotient `num / den` lies in the interval. -/
def Interval.contains (i : Interval) (num den : Nat) : Bool :=
  if i.closed then i.low * den ≤ num && num ≤ i.high * den
  else i.low * den < num && num < i.high * den

/-! ## Section 3: The search -/

/-- The candidate `digits · 10^scale` in quarters of the last place at
    `exponent`, as a quotient. -/
def inQuarters (digits : Nat) (scale exponent : Int) : Nat × Nat :=
  (4 * digits * tenTo scale.toNat * twoTo (-exponent).toNat,
    tenTo (-scale).toNat * twoTo exponent.toNat)

/-- The better of the two neighbours of a number on the grid of decimals with
    the given scale, if one of them reads back. Of two, the nearer wins, and
    at equal distance the one with the even last digit. -/
def onGrid? (significand : Nat) (exponent scale : Int) : Option Decimal :=
  let num := significand * twoTo exponent.toNat * tenTo (-scale).toNat
  let den := twoTo (-exponent).toNat * tenTo scale.toNat
  let below := num / den
  let i := interval significand exponent
  let reads (d : Nat) : Bool :=
    let (n, m) := inQuarters d scale exponent
    d != 0 && i.contains n m
  match reads below, reads (below + 1) with
  | false, false => none
  | true, false => some ⟨below, scale⟩
  | false, true => some ⟨below + 1, scale⟩
  | true, true => some ⟨roundDiv num den, scale⟩

/-- The first grid of at least `count` digits on which the number has a
    decimal that reads back; the search ends after `fuel` grids. -/
def search (significand : Nat) (exponent top : Int) (count fuel : Nat) : Option Decimal :=
  match fuel with
  | 0 => none
  | fuel + 1 =>
    match onGrid? significand exponent (top + 1 - Int.ofNat count) with
    | some d => some d
    | none => search significand exponent top (count + 1) fuel

/-- The shortest decimal that reads back as `significand · 2^exponent`, and
    the nearest of these; it has at most 17 digits. -/
def shortest (significand : Nat) (exponent : Int) : Decimal :=
  let top := decimalExponent (significand * twoTo exponent.toNat) (twoTo (-exponent).toNat)
  match search significand exponent top 1 17 with
  | some d => cutZeros 17 d
  | none => ⟨0, 0⟩

/-! ## Section 4: The layout -/

/-- How a decimal is written. -/
structure Layout where
  /-- The least decimal exponent without exponent notation. -/
  leastPositional : Int
  /-- The greatest decimal exponent without exponent notation. -/
  greatestPositional : Int
  /-- The least number of digits of a written exponent. -/
  exponentDigits : Nat

/-- Decimal exponents from -4 to 15 are written positionally, and exponents
    with a sign and at least two digits. -/
def layout : Layout := ⟨-4, 15, 2⟩

/-- An exponent: its sign and its digits. -/
def Layout.exponentText (l : Layout) (e : Int) : String :=
  let digits := (Nat.toDigits 10 e.natAbs)
  let zeros := List.replicate (l.exponentDigits - digits.length) '0'
  (if e < 0 then "e-" else "e+") ++ String.ofList (zeros ++ digits)

/-- Digits with a point after `whole` of them, which may be negative or beyond
    the last; an integer keeps one zero after the point. -/
def positional (digits : List Char) (whole : Int) : String :=
  if whole ≤ 0 then
    "0." ++ String.ofList (List.replicate (-whole).toNat '0' ++ digits)
  else if Int.ofNat digits.length ≤ whole then
    String.ofList (digits ++ List.replicate (whole.toNat - digits.length) '0') ++ ".0"
  else
    String.ofList (digits.take whole.toNat) ++ "." ++ String.ofList (digits.drop whole.toNat)

/-- A decimal in a layout. -/
def Layout.write (l : Layout) (d : Decimal) : String :=
  if d.digits = 0 then "0.0"
  else
    let digits := Nat.toDigits 10 d.digits
    let e := Int.ofNat digits.length + d.scale - 1
    if l.leastPositional ≤ e ∧ e ≤ l.greatestPositional then positional digits (e + 1)
    else
      let fraction := digits.drop 1
      String.ofList (digits.take 1) ++
        (if fraction.isEmpty then "" else "." ++ String.ofList fraction) ++ l.exponentText e

/-- A number as text. -/
def write : Binary64 → String
  | .nan => "nan"
  | .infinite negative => if negative then "-inf" else "inf"
  | .finite negative significand exponent =>
    (if negative then "-" else "") ++
      if significand = 0 then "0.0" else layout.write (shortest significand exponent)

example : (read? "0.1").map write = some "0.1" := by decide +kernel
example : (read? "-0.0").map write = some "-0.0" := by decide +kernel
example : (read? "5e-324").map write = some "5e-324" := by decide +kernel
example : (read? "0.00001").map write = some "1e-05" := by decide +kernel
example : (read? "0.0001").map write = some "0.0001" := by decide +kernel
example : (read? "9999999999999998").map write = some "9999999999999998.0" := by decide +kernel
example : (read? "1e16").map write = some "1e+16" := by decide +kernel

end Keyspace.Binary64
