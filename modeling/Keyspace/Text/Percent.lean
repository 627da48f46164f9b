/-! # Percent-encoding

    A text is percent-encoded as its UTF-8 bytes. ASCII letters, digits and
    `_ . - ~` stand for themselves, as do the bytes of a chosen set; every
    other byte is a percent sign and two upper-case hexadecimal digits.
-/

namespace Keyspace.Text.Percent

/-! ## Section 1: Bytes -/

/-- Whether a byte is an ASCII letter, a digit or one of `_ . - ~`. -/
def isUnreserved (b : UInt8) : Bool :=
  (0x41 ≤ b && b ≤ 0x5a) || (0x61 ≤ b && b ≤ 0x7a) || (0x30 ≤ b && b ≤ 0x39) ||
    b == 0x5f || b == 0x2e || b == 0x2d || b == 0x7e

/-- A hexadecimal digit in upper case. -/
def hexDigit (n : Nat) : Char :=
  if n < 10 then Char.ofNat (0x30 + n) else Char.ofNat (0x37 + n)

/-- A byte as it is written: itself if it is unreserved or in `keep`, else
    its two hexadecimal digits after a percent sign. -/
def encodeByte (keep : List UInt8) (b : UInt8) : List Char :=
  if isUnreserved b || keep.contains b then [Char.ofNat b.toNat]
  else ['%', hexDigit (b.toNat / 16), hexDigit (b.toNat % 16)]

/-! ## Section 2: Texts -/

/-- The percent-encoding of a text. The bytes of `keep`, which are ASCII,
    stand for themselves. -/
def encode (keep : List UInt8) (s : String) : String :=
  String.ofList (s.toUTF8.data.toList.flatMap (encodeByte keep))

example : encode [] "a b/é" = "a%20b%2F%C3%A9" := by decide +kernel

end Keyspace.Text.Percent
