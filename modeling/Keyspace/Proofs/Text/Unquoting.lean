import Keyspace.Text.Quoted
import Keyspace.Proofs.Text.Decoding
import Keyspace.Proofs.Text.Delimited

/-! # Reading quoted texts

    A character between quotes has one of four forms (`Escaped`), and the first
    characters of a form tell which one it is and how long. So a reader can take
    the characters off a quoted text one by one (`readChar?_escape`). No form
    begins with the quote, which therefore ends the text.

    Hence quoted texts are delimited (`delimited_quoteChars`): where one stands
    before any other text, both can be told, whatever characters are in them.
-/

namespace Keyspace.Text

/-! ## Section 1: Hexadecimal digits -/

/-- The number that hexadecimal digits denote. -/
def hexNumber? (digits : List Char) : Option Nat :=
  digits.foldlM (fun n c => (Percent.hexValue? c).map fun d => 16 * n + d) 0

/-- How many numbers some hexadecimal digits can denote. -/
def hexCount (width : Nat) : Nat := Nat.pow 16 width

theorem hexCount_succ (width : Nat) : hexCount (width + 1) = 16 * hexCount width :=
  Nat.pow_succ'

theorem hexValue?_hexDigit : ∀ n < 16, Percent.hexValue? (hexDigit n) = some n := by decide

theorem length_hexDigits (width n : Nat) : (hexDigits width n).length = width := by
  induction width generalizing n with
  | zero => rfl
  | succ w ih => rw [hexDigits, List.length_append, ih, List.length_singleton]

/-- As many digits as a number needs denote it. -/
theorem hexNumber?_hexDigits {width n : Nat} (h : n < hexCount width) :
    hexNumber? (hexDigits width n) = some n := by
  induction width generalizing n with
  | zero =>
    obtain rfl : n = 0 := Nat.lt_one_iff.mp h
    rfl
  | succ w ih =>
    have hfirst : n / 16 < hexCount w := by
      rw [hexCount_succ] at h
      exact Nat.div_lt_of_lt_mul h
    have hlast := hexValue?_hexDigit (n % 16) (Nat.mod_lt n (by decide))
    have hdigits := ih hfirst
    rw [hexNumber?] at hdigits ⊢
    rw [hexDigits, List.foldlM_append, hdigits]
    simp [hlast, Nat.div_add_mod]

/-! ## Section 2: One character -/

/-- How a character is written between two `quote`s. -/
inductive Escaped (quote c : Char) : List Char → Prop where
  /-- The quote or the backslash, behind a backslash. -/
  | marked : c = quote ∨ c = '\\' → Escaped quote c ['\\', c]
  /-- A character with a letter of its own. -/
  | named {letter : Char} :
    (c, letter) ∈ [('\t', 't'), ('\n', 'n'), ('\r', 'r')] → Escaped quote c ['\\', letter]
  /-- A character that stands for itself. -/
  | plain : c ≠ quote → c ≠ '\\' → isPrintable c = true → Escaped quote c [c]
  /-- The code point in as many digits as the letter says. -/
  | coded {letter : Char} {width : Nat} :
    (letter, width) ∈ [('x', 2), ('u', 4), ('U', 8)] → c.toNat < hexCount width →
    Escaped quote c ('\\' :: letter :: hexDigits width c.toNat)

theorem escaped_escape (quote c : Char) : Escaped quote c (escape quote c) := by
  unfold escape
  split
  · next h => exact .marked h
  · next h =>
    obtain ⟨hquote, hbackslash⟩ := not_or.mp h
    split
    · next htab => exact .named (by simp [htab])
    split
    · next hfeed => exact .named (by simp [hfeed])
    split
    · next hreturn => exact .named (by simp [hreturn])
    split
    · next hprintable => exact .plain hquote hbackslash hprintable
    -- the others are written by their code points
    split
    · next hlt => exact .coded (by simp) hlt
    split
    · next hlt => exact .coded (by simp) hlt
    · exact .coded (by simp) c.val.toNat_lt

/-- The character whose code point is written in some digits at the beginning
    of a text, and the rest. -/
def readCode? (width : Nat) (cs : List Char) : Option (Char × List Char) :=
  (hexNumber? (cs.take width)).map fun n => (Char.ofNat n, cs.drop width)

/-- The character that a letter behind a backslash stands for, and the rest. -/
def readMarked? (letter : Char) (rest : List Char) : Option (Char × List Char) :=
  match letter with
  | 't' => some ('\t', rest)
  | 'n' => some ('\n', rest)
  | 'r' => some ('\r', rest)
  | 'x' => readCode? 2 rest
  | 'u' => readCode? 4 rest
  | 'U' => readCode? 8 rest
  | c => some (c, rest)

/-- The first character of a text between quotes, and the rest. -/
def readChar? : List Char → Option (Char × List Char)
  | [] => none
  | c :: rest =>
    if c = '\\' then rest.head?.bind fun letter => readMarked? letter rest.tail
    else some (c, rest)

theorem readCode?_hexDigits {width : Nat} {c : Char} (h : c.toNat < hexCount width)
    (rest : List Char) :
    readCode? width (hexDigits width c.toNat ++ rest) = some (c, rest) := by
  have hlength := length_hexDigits width c.toNat
  rw [readCode?, List.take_left' hlength, List.drop_left' hlength, hexNumber?_hexDigits h,
    Option.map_some, Char.ofNat_toNat]

/-- The quotes that enclose texts. -/
def IsQuote (c : Char) : Prop := c = apostrophe ∨ c = doubleQuote

theorem isQuote_quoteFor (cs : List Char) : IsQuote (quoteFor cs) := by
  unfold quoteFor
  split
  · exact .inr rfl
  · exact .inl rfl

/-- A character is read as it was written, whatever follows it. -/
theorem readChar?_escape {quote : Char} (hquote : IsQuote quote) (c : Char) (rest : List Char) :
    readChar? (escape quote c ++ rest) = some (c, rest) := by
  have hescaped := escaped_escape quote c
  generalize escape quote c = written at hescaped
  cases hescaped with
  | marked h =>
    -- neither quote nor backslash is one of the letters
    obtain rfl | rfl := h
    · obtain rfl | rfl := hquote <;> rfl
    · rfl
  | named h =>
    simp only [List.mem_cons, Prod.mk.injEq, List.not_mem_nil, or_false] at h
    obtain ⟨rfl, rfl⟩ | ⟨rfl, rfl⟩ | ⟨rfl, rfl⟩ := h <;> rfl
  | plain _ hbackslash _ => exact if_neg hbackslash
  | coded h hlt =>
    simp only [List.mem_cons, Prod.mk.injEq, List.not_mem_nil, or_false] at h
    obtain ⟨rfl, rfl⟩ | ⟨rfl, rfl⟩ | ⟨rfl, rfl⟩ := h <;> exact readCode?_hexDigits hlt rest

theorem delimited_escape {quote : Char} (hquote : IsQuote quote) :
    Delimited (fun _ => True) (fun _ => True) (escape quote) :=
  delimited_of_reader fun c _ rest _ => readChar?_escape hquote c rest

/-- What is written for a character does not begin with the quote. -/
theorem escape_begins {quote : Char} (hquote : IsQuote quote) (c : Char) :
    ∃ first rest, escape quote c = first :: rest ∧ first ≠ quote := by
  have hbackslash : '\\' ≠ quote := by
    obtain rfl | rfl := hquote <;> decide
  have hescaped := escaped_escape quote c
  generalize escape quote c = written at hescaped
  cases hescaped with
  | marked _ => exact ⟨_, _, rfl, hbackslash⟩
  | named _ => exact ⟨_, _, rfl, hbackslash⟩
  | plain hne _ _ => exact ⟨_, _, rfl, hne⟩
  | coded _ _ => exact ⟨_, _, rfl, hbackslash⟩

/-! ## Section 3: Quoted texts -/

theorem quoteChars_eq (cs : List Char) :
    quoteChars cs = quoteFor cs :: writeUpTo (quoteFor cs) (escape (quoteFor cs)) cs := rfl

/-- **Quoted texts are delimited.** -/
theorem delimited_quoteChars : Delimited (fun _ => True) (fun _ => True) quoteChars := by
  intro cs ds _ _ r s _ _ heq
  rw [quoteChars_eq, quoteChars_eq, List.cons_append, List.cons_append, List.cons.injEq] at heq
  obtain ⟨hquote, hbody⟩ := heq
  rw [← hquote] at hbody
  -- both are enclosed by the same quote, so they are sequences of the same kind
  have hsequence := (delimited_escape (isQuote_quoteFor cs)).sequence
    (fun c _ => escape_begins (isQuote_quoteFor cs) c) (fun _ _ _ => trivial) fun _ => trivial
  exact hsequence (fun _ _ => trivial) (fun _ _ => trivial) trivial trivial hbody

theorem toList_quote (s : String) : (quote s).toList = quoteChars s.toList :=
  String.toList_ofList

/-- Different texts are quoted differently. -/
theorem quote_inj {s t : String} : quote s = quote t ↔ s = t := by
  refine ⟨fun h => ?_, congrArg quote⟩
  have hchars : quoteChars s.toList ++ [] = quoteChars t.toList ++ [] := by
    rw [← toList_quote, ← toList_quote, h]
  exact String.toList_inj.mp (delimited_quoteChars.eq trivial trivial trivial hchars)

end Keyspace.Text
