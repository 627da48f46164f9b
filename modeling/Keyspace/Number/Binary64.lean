import Keyspace.Text.Numeral

/-! # Binary floating-point numbers of 64 bits

    A finite number is a sign, a significand below `2^53` and an exponent of
    two not below `-1074`; its exponent is the least one possible, so zero has
    exponent `-1074` and every number has one form for each sign. Numbers are
    read, written, compared and hashed, and divided in one place, so the type
    carries no other arithmetic.

    Reading a decimal rounds it to the nearest number, a tie to the even
    significand, in exact arithmetic on natural numbers.
-/

namespace Keyspace

/-- A power of two. -/
def twoTo (n : Nat) : Nat := Nat.pow 2 n

/-- A power of ten. -/
def tenTo (n : Nat) : Nat := Nat.pow 10 n

/-- A 64-bit floating-point number. -/
inductive Binary64 where
  /-- The datum that is not a number. -/
  | nan
  /-- An infinity of either sign. -/
  | infinite (negative : Bool)
  /-- A finite number `± significand · 2^exponent`. -/
  | finite (negative : Bool) (significand : Nat) (exponent : Int)
deriving DecidableEq

namespace Binary64

/-! ## Section 1: The format -/

/-- Significands have at most this many bits. -/
def precision : Nat := 53

/-- The least exponent of a finite number. -/
def leastExponent : Int := -1074

/-- The greatest exponent of a finite number. -/
def greatestExponent : Int := 971

/-- The zero of either sign. -/
def zero (negative : Bool) : Binary64 := .finite negative 0 leastExponent

/-! ## Section 2: Rounding a quotient -/

/-- The natural number nearest to `num / den`, a tie going to the even one. -/
def roundDiv (num den : Nat) : Nat :=
  let q := num / den
  let twice := 2 * (num % den)
  if twice < den then q
  else if den < twice then q + 1
  else q + q % 2

/-- The quotient `num / (den · 2^e)` as a pair of natural numbers. -/
def scaled (num den : Nat) (e : Int) : Nat × Nat :=
  (num * twoTo (-e).toNat, den * twoTo e.toNat)

/-- The exponent at which `num / den` has as many bits as the format holds.
    The bit lengths of the two numbers leave two candidates. -/
def exponentFor (num den : Nat) : Int :=
  let e := max (Int.ofNat num.log2 - Int.ofNat den.log2 - precision) leastExponent
  let (n, d) := scaled num den e
  if n / d < twoTo precision then e else e + 1

/-- The number nearest to `± num / den`, for positive `den`. -/
def ofQuotient (negative : Bool) (num den : Nat) : Binary64 :=
  if num = 0 then zero negative
  else
    let e := exponentFor num den
    let (n, d) := scaled num den e
    let m := roundDiv n d
    let (m, e) := if m = twoTo precision then (m / 2, e + 1) else (m, e)
    if greatestExponent < e then .infinite negative else .finite negative m e

/-! ## Section 3: Reading -/

/-- The number nearest to `± digits · 10^scale`. A number of more than 310
    digits before the point, or of more than 330 zeros after it, is settled
    without computing the power. -/
def ofDecimal (negative : Bool) (digits : Nat) (scale : Int) : Binary64 :=
  let size := Int.ofNat (Nat.toDigits 10 digits).length + scale
  if digits = 0 ∨ size < -330 then zero negative
  else if 310 < size then .infinite negative
  else ofQuotient negative (digits * tenTo scale.toNat) (tenTo (-scale).toNat)

/-- The value of a sequence of decimal digits. -/
def digitsValue (cs : List Char) : Nat :=
  cs.foldl (fun n c => 10 * n + (c.toNat - 0x30)) 0

/-- A sign, if there is one, and the rest of a text. -/
def readSign : List Char → Bool × List Char
  | '-' :: cs => (true, cs)
  | '+' :: cs => (false, cs)
  | cs => (false, cs)

/-- The exponent part of a decimal: nothing, or `e` and an integer. -/
def readExponent? : List Char → Option Int
  | [] => some 0
  | c :: cs =>
    let (negative, ds) := readSign cs
    if (c = 'e' ∨ c = 'E') ∧ ds ≠ [] ∧ ds.all Char.isDigit then
      some (if negative then -Int.ofNat (digitsValue ds) else Int.ofNat (digitsValue ds))
    else none

/-- Digits, a fraction after a point, and an exponent; of digits and fraction
    at least one digit is there. -/
def readDecimal? (negative : Bool) (cs : List Char) : Option Binary64 :=
  let whole := cs.takeWhile Char.isDigit
  let rest := cs.dropWhile Char.isDigit
  let (fraction, rest) := match rest with
    | '.' :: ds => (ds.takeWhile Char.isDigit, ds.dropWhile Char.isDigit)
    | _ => ([], rest)
  if whole ++ fraction = [] then none
  else (readExponent? rest).map fun e =>
    ofDecimal negative (digitsValue (whole ++ fraction)) (e - Int.ofNat fraction.length)

/-- The number that the plain form of a numeral denotes: `inf`, `infinity` or
    `nan` in any case, or a decimal, each after an optional sign. -/
def readPlain? (numeral : List Char) : Option Binary64 :=
  let (negative, cs) := readSign numeral
  let word := String.ofList (cs.map Char.toLower)
  if word = "inf" ∨ word = "infinity" then some (.infinite negative)
  else if word = "nan" then some .nan
  else readDecimal? negative cs

/-- The number that a text denotes as a numeral. -/
def read? (s : String) : Option Binary64 := (Text.plainNumeral? s).bind readPlain?

end Binary64

end Keyspace
