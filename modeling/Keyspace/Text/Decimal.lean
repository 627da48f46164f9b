/-! # Integers in decimal

    An integer is written in decimal digits, with a sign before them if it is
    negative. How many digits an integer is written with is limited; one that
    has more is not written at all.
-/

namespace Keyspace.Text

/-- How many decimal digits an integer has. -/
def digitCount (i : Int) : Nat := (Nat.toDigits 10 i.natAbs).length

/-- The most digits that an integer is written with. -/
def digitLimit : Nat := 4300

/-- Whether an integer is written. -/
def isShort (i : Int) : Bool := digitCount i ≤ digitLimit

end Keyspace.Text
