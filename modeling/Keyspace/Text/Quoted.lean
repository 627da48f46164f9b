import Keyspace.Text.Printable

/-! # Quoted text

    A quoted text is written between two equal quotes and holds printable
    characters only. The apostrophe is the quote, unless the text has an
    apostrophe and no double quote; then it is the double quote. The quote in
    use and the backslash are written after a backslash, tab, line feed and
    carriage return as `\t`, `\n` and `\r`, and every other unprintable
    character by its code point in two, four or eight hexadecimal digits, the
    fewest that hold it.
-/

namespace Keyspace.Text

/-! ## Section 1: Hexadecimal digits -/

/-- A hexadecimal digit in lower case. -/
def hexDigit (n : Nat) : Char :=
  if n < 10 then Char.ofNat (0x30 + n) else Char.ofNat (0x57 + n)

/-- The last `width` hexadecimal digits of a number, leading zeros included. -/
def hexDigits (width n : Nat) : List Char :=
  match width with
  | 0 => []
  | w + 1 => hexDigits w (n / 16) ++ [hexDigit (n % 16)]

/-! ## Section 2: Quoting -/

/-- The apostrophe. -/
def apostrophe : Char := Char.ofNat 0x27

/-- The double quote. -/
def doubleQuote : Char := Char.ofNat 0x22

/-- The quote that encloses a text. -/
def quoteFor (cs : List Char) : Char :=
  if cs.contains apostrophe && !cs.contains doubleQuote then doubleQuote else apostrophe

/-- A character as it is written between two `quote`s. -/
def escape (quote c : Char) : List Char :=
  if c = quote ∨ c = '\\' then ['\\', c]
  else if c = '\t' then ['\\', 't']
  else if c = '\n' then ['\\', 'n']
  else if c = '\r' then ['\\', 'r']
  else if isPrintable c then [c]
  else if c.toNat < 0x100 then '\\' :: 'x' :: hexDigits 2 c.toNat
  else if c.toNat < 0x10000 then '\\' :: 'u' :: hexDigits 4 c.toNat
  else '\\' :: 'U' :: hexDigits 8 c.toNat

/-- A text between quotes. -/
def quoteChars (cs : List Char) : List Char :=
  let quote := quoteFor cs
  quote :: cs.flatMap (escape quote) ++ [quote]

/-- A text between quotes. -/
def quote (s : String) : String :=
  String.ofList (quoteChars s.toList)

example : quote "it's" = "\x22it's\x22" := by decide +kernel
example : quote "a\n\\" = "'a\\n\\\\'" := by decide +kernel

end Keyspace.Text
