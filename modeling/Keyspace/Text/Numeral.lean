/-! # Characters of numerals

    A numeral may be written with the decimal digits of any script, in groups
    that underscores separate, and with blanks around it. The tables are those
    of Unicode 14. `plainNumeral?` brings a numeral into its plain form, which
    has none of this.
-/

namespace Keyspace.Text

/-! ## Section 1: Blanks -/

/-- The code points of blanks, as closed ranges. -/
def blankRanges : List (Nat × Nat) :=
  [(0x9, 0xd), (0x20, 0x20), (0x85, 0x85), (0xa0, 0xa0), (0x1680, 0x1680), (0x2000, 0x200a),
    (0x2028, 0x2029), (0x202f, 0x202f), (0x205f, 0x205f), (0x3000, 0x3000)]

/-- A character that may stand around a numeral. -/
def isBlank (c : Char) : Bool :=
  blankRanges.any fun (first, last) => first ≤ c.toNat && c.toNat ≤ last

/-- A text without the blanks at both ends. -/
def trimmed (cs : List Char) : List Char :=
  ((cs.dropWhile isBlank).reverse.dropWhile isBlank).reverse

/-! ## Section 2: Digits -/

/-- The code points of the digit zero. The other nine digits of a script follow
    its zero. -/
def zeros : List Nat :=
  [
    0x30, 0x660, 0x6f0, 0x7c0, 0x966, 0x9e6, 0xa66, 0xae6, 0xb66, 0xbe6, 0xc66, 0xce6, 0xd66,
    0xde6, 0xe50, 0xed0, 0xf20, 0x1040, 0x1090, 0x17e0, 0x1810, 0x1946, 0x19d0, 0x1a80, 0x1a90,
    0x1b50, 0x1bb0, 0x1c40, 0x1c50, 0xa620, 0xa8d0, 0xa900, 0xa9d0, 0xa9f0, 0xaa50, 0xabf0,
    0xff10, 0x104a0, 0x10d30, 0x11066, 0x110f0, 0x11136, 0x111d0, 0x112f0, 0x11450, 0x114d0,
    0x11650, 0x116c0, 0x11730, 0x118e0, 0x11950, 0x11c50, 0x11d50, 0x11da0, 0x16a60, 0x16ac0,
    0x16b50, 0x1d7ce, 0x1d7d8, 0x1d7e2, 0x1d7ec, 0x1d7f6, 0x1e140, 0x1e2f0, 0x1e950, 0x1fbf0 ]

/-- A digit of any script as one from `0` to `9`, and any other character as it
    is. -/
def plainDigit (c : Char) : Char :=
  match zeros.find? fun z => z ≤ c.toNat && c.toNat < z + 10 with
  | some z => Char.ofNat (0x30 + (c.toNat - z))
  | none => c

/-! ## Section 3: Groups -/

/-- Leaves out the underscores, of which each must stand between two digits. -/
def ungrouped? (afterDigit : Bool) : List Char → Option (List Char)
  | [] => some []
  | ['_'] => none
  | '_' :: c :: cs =>
    if afterDigit && c.isDigit then (ungrouped? true cs).map fun ds => c :: ds else none
  | c :: cs => (ungrouped? c.isDigit cs).map fun ds => c :: ds

/-- A numeral in its plain form, if its underscores are in their places. -/
def plainNumeral? (s : String) : Option (List Char) :=
  ungrouped? false ((trimmed s.toList).map plainDigit)

example : plainNumeral? " 1_0.5\n" = some ['1', '0', '.', '5'] := by decide +kernel
example : plainNumeral? "1_.5" = none := by decide +kernel
example : plainNumeral? "\u0661\u0662" = some ['1', '2'] := by decide +kernel

end Keyspace.Text
