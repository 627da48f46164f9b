import Keyspace.Text.Percent

/-! # Percent-decoding

    The inverse of percent-encoding reads a percent sign with two hexadecimal
    digits as a byte, any other ASCII character as the byte it is, and the
    bytes as UTF-8. It refuses everything else: a percent sign without digits,
    a character beyond ASCII, bytes that are not UTF-8.

    An encoded text decodes to the text it was made from, and does so with any
    other text behind it (`decodeBytes?_encode_append`), so texts that were
    encoded with different bytes kept can stand side by side. What an encoded
    text looks like is the grammar `Encoded`; the characters outside of the
    grammar are missing from the text (`Encoded.not_mem`).
-/

namespace Keyspace.Text.Percent

/-! ## Section 1: The decoder -/

/-- The value of a hexadecimal digit in upper or lower case. -/
def hexValue? (c : Char) : Option Nat :=
  if '0' ≤ c ∧ c ≤ '9' then some (c.toNat - 0x30)
  else if 'A' ≤ c ∧ c ≤ 'F' then some (c.toNat - 0x37)
  else if 'a' ≤ c ∧ c ≤ 'f' then some (c.toNat - 0x57)
  else none

/-- The bytes that an encoded text stands for. -/
def decodeBytes? : List Char → Option (List UInt8)
  | [] => some []
  | '%' :: high :: low :: rest =>
    match hexValue? high, hexValue? low with
    | some x, some y => (decodeBytes? rest).map fun bytes => UInt8.ofNat (16 * x + y) :: bytes
    | _, _ => none
  | c :: cs =>
    if c = '%' ∨ 128 ≤ c.toNat then none
    else (decodeBytes? cs).map fun bytes => UInt8.ofNat c.toNat :: bytes

/-- The text that an encoded text stands for. -/
def decode? (s : String) : Option String :=
  (decodeBytes? s.toList).bind fun bytes => String.fromUTF8? ⟨bytes.toArray⟩

example : decode? "a%20b%2F%c3%A9" = some "a b/é" := by decide +kernel
example : decode? "a%2" = none := by decide +kernel

/-! ## Section 2: Decoding after encoding -/

/-- The bytes of a set may stand for themselves when they are ASCII and none
    is a percent sign. -/
def Readable (keep : List UInt8) : Prop := ∀ b ∈ keep, b.toNat < 128 ∧ b.toNat ≠ 0x25

theorem readable_of_isUnreserved {b : UInt8} (h : isUnreserved b = true) :
    b.toNat < 128 ∧ b.toNat ≠ 0x25 := by
  simp only [isUnreserved, Bool.or_eq_true, Bool.and_eq_true, decide_eq_true_eq, beq_iff_eq,
    UInt8.le_iff_toNat_le, ← UInt8.toNat_inj, UInt8.toNat_ofNat] at h
  omega

theorem hexValue?_hexDigit : ∀ n < 16, hexValue? (hexDigit n) = some n := by decide

theorem toNat_ofNat_of_ascii {n : Nat} (h : n < 128) : (Char.ofNat n).toNat = n := by
  have hvalid : n.isValidChar := Or.inl (by omega)
  rw [Char.ofNat, dif_pos hvalid]
  rfl

/-- A byte that is written as itself is read as itself. -/
theorem decodeBytes?_literal {b : UInt8} (hb : b.toNat < 128 ∧ b.toNat ≠ 0x25) (cs : List Char) :
    decodeBytes? (Char.ofNat b.toNat :: cs) = (decodeBytes? cs).map (b :: ·) := by
  have hchar := toNat_ofNat_of_ascii hb.1
  -- the character is not the sign that two digits would have to follow
  have hne : Char.ofNat b.toNat ≠ '%' := by
    intro h
    rw [h] at hchar
    exact hb.2 hchar.symm
  have hplain : ¬(Char.ofNat b.toNat = '%' ∨ 128 ≤ (Char.ofNat b.toNat).toNat) := by
    rw [hchar]
    exact not_or.mpr ⟨hne, by omega⟩
  rw [decodeBytes?, if_neg hplain, hchar, UInt8.ofNat_toNat]
  intro high low rest h _
  exact hne h

/-- A byte that is written as two digits is read from them. -/
theorem decodeBytes?_escape (b : UInt8) (cs : List Char) :
    decodeBytes? ('%' :: hexDigit (b.toNat / 16) :: hexDigit (b.toNat % 16) :: cs) =
      (decodeBytes? cs).map (b :: ·) := by
  have hlt := b.toNat_lt
  have hhigh := hexValue?_hexDigit (b.toNat / 16) (by omega)
  have hlow := hexValue?_hexDigit (b.toNat % 16) (by omega)
  have hbyte : 16 * (b.toNat / 16) + b.toNat % 16 = b.toNat := Nat.div_add_mod _ _
  simp only [decodeBytes?, hhigh, hlow, hbyte, UInt8.ofNat_toNat]

theorem decodeBytes?_encodeByte_append {keep : List UInt8} (hkeep : Readable keep) (b : UInt8)
    (cs : List Char) :
    decodeBytes? (encodeByte keep b ++ cs) = (decodeBytes? cs).map (b :: ·) := by
  unfold encodeByte
  split
  · next h =>
    rw [Bool.or_eq_true] at h
    have hb : b.toNat < 128 ∧ b.toNat ≠ 0x25 :=
      h.elim readable_of_isUnreserved fun h => hkeep b (List.contains_iff_mem.mp h)
    exact decodeBytes?_literal hb cs
  · exact decodeBytes?_escape b cs

/-- Encoded bytes are read back, whatever follows them. -/
theorem decodeBytes?_flatMap_append {keep : List UInt8} (hkeep : Readable keep)
    (bytes : List UInt8) (cs : List Char) :
    decodeBytes? (bytes.flatMap (encodeByte keep) ++ cs) = (decodeBytes? cs).map (bytes ++ ·) := by
  induction bytes with
  | nil => simp
  | cons b bytes ih =>
    -- the other bytes and the rest are what follows the first byte
    rw [List.flatMap_cons, List.append_assoc, decodeBytes?_encodeByte_append hkeep, ih,
      Option.map_map]
    rfl

/-- The UTF-8 bytes of a text. -/
def bytes (s : String) : List UInt8 := s.toUTF8.data.toList

theorem bytes_append (s t : String) : bytes (s ++ t) = bytes s ++ bytes t := by
  show (s ++ t).toByteArray.data.toList = s.toByteArray.data.toList ++ t.toByteArray.data.toList
  rw [String.toByteArray_append, ByteArray.toList_data_append]

/-- An encoded text is read back as its bytes, whatever follows it. -/
theorem decodeBytes?_encode_append {keep : List UInt8} (hkeep : Readable keep) (s : String)
    (cs : List Char) :
    decodeBytes? ((encode keep s).toList ++ cs) = (decodeBytes? cs).map (bytes s ++ ·) := by
  rw [encode, String.toList_ofList]
  exact decodeBytes?_flatMap_append hkeep (bytes s) cs

theorem decodeBytes?_encode {keep : List UInt8} (hkeep : Readable keep) (s : String) :
    decodeBytes? (encode keep s).toList = some (bytes s) := by
  have h := decodeBytes?_encode_append hkeep s []
  rw [List.append_nil, decodeBytes?, Option.map_some, List.append_nil] at h
  exact h

theorem decode?_of_decodeBytes? {s t : String} (h : decodeBytes? s.toList = some (bytes t)) :
    decode? s = some t := by
  rw [decode?, h, Option.bind_some]
  -- the bytes of a text are valid UTF-8, and they are those of that text
  exact dif_pos t.isValidUTF8

/-- **Decoding undoes encoding.** -/
theorem decode?_encode {keep : List UInt8} (hkeep : Readable keep) (s : String) :
    decode? (encode keep s) = some s :=
  decode?_of_decodeBytes? (decodeBytes?_encode hkeep s)

/-! ## Section 3: The characters of encoded texts -/

/-- An ASCII letter, a digit or one of `_ . - ~`. -/
def IsUnreserved (c : Char) : Prop := c.isAlphanum = true ∨ c ∈ ['_', '.', '-', '~']

instance (c : Char) : Decidable (IsUnreserved c) := inferInstanceAs (Decidable (_ ∨ _))

/-- A sequence of plain characters and of percent signs, each with two
    hexadecimal digits. -/
inductive Encoded (plain : Char → Prop) : List Char → Prop where
  | nil : Encoded plain []
  | literal {c : Char} {cs : List Char} : plain c → Encoded plain cs → Encoded plain (c :: cs)
  | escape {high low : Char} {cs : List Char} :
    (hexValue? high).isSome → (hexValue? low).isSome → Encoded plain cs →
      Encoded plain ('%' :: high :: low :: cs)

variable {plain : Char → Prop}

theorem Encoded.append {cs ds : List Char} (hcs : Encoded plain cs) (hds : Encoded plain ds) :
    Encoded plain (cs ++ ds) := by
  induction hcs with
  | nil => exact hds
  | literal hc _ ih => exact .literal hc ih
  | escape hhigh hlow _ ih => exact .escape hhigh hlow ih

theorem Encoded.mono {other : Char → Prop} {cs : List Char} (h : ∀ c, plain c → other c)
    (hcs : Encoded plain cs) : Encoded other cs := by
  induction hcs with
  | nil => exact .nil
  | literal hc _ ih => exact .literal (h _ hc) ih
  | escape hhigh hlow _ ih => exact .escape hhigh hlow ih

/-- A character that is not plain, no percent sign and no digit does not
    occur. -/
theorem Encoded.not_mem {cs : List Char} {d : Char} (hcs : Encoded plain cs) (hd : ¬plain d)
    (hsign : d ≠ '%') (hdigit : hexValue? d = none) : d ∉ cs := by
  have hne {c : Char} (hc : (hexValue? c).isSome) : d ≠ c := by
    rintro rfl
    rw [hdigit] at hc
    exact absurd hc (by simp)
  induction hcs with
  | nil => exact List.not_mem_nil
  | literal hc _ ih =>
    have hdc : d ≠ _ := fun heq => hd (heq ▸ hc)
    exact List.not_mem_cons_of_ne_of_not_mem hdc ih
  | escape hhigh hlow _ ih =>
    apply List.not_mem_cons_of_ne_of_not_mem hsign
    apply List.not_mem_cons_of_ne_of_not_mem (hne hhigh)
    exact List.not_mem_cons_of_ne_of_not_mem (hne hlow) ih

theorem isUnreserved_ofNat {b : UInt8} (h : isUnreserved b = true) :
    IsUnreserved (Char.ofNat b.toNat) := by
  -- there are 256 bytes to check
  have hall : ∀ n < 256, isUnreserved (UInt8.ofNat n) = true → IsUnreserved (Char.ofNat n) := by
    decide +kernel
  exact hall b.toNat b.toNat_lt (by rwa [UInt8.ofNat_toNat])

theorem encoded_encodeByte {keep : List UInt8} (hunreserved : ∀ c, IsUnreserved c → plain c)
    (hkeep : ∀ b ∈ keep, plain (Char.ofNat b.toNat)) (b : UInt8) :
    Encoded plain (encodeByte keep b) := by
  unfold encodeByte
  split
  · next h =>
    rcases Bool.or_eq_true_iff.mp h with h | h
    · exact .literal (hunreserved _ (isUnreserved_ofNat h)) .nil
    · exact .literal (hkeep b (List.contains_iff_mem.mp h)) .nil
  · have hlt := b.toNat_lt
    have hdigit (n : Nat) (hn : n < 16) : (hexValue? (hexDigit n)).isSome := by
      rw [hexValue?_hexDigit n hn]
      rfl
    exact .escape (hdigit _ (by omega)) (hdigit _ (by omega)) .nil

/-- An encoded text consists of unreserved characters, kept ones and escaped
    bytes. -/
theorem encoded_encode {keep : List UInt8} (hunreserved : ∀ c, IsUnreserved c → plain c)
    (hkeep : ∀ b ∈ keep, plain (Char.ofNat b.toNat)) (s : String) :
    Encoded plain (encode keep s).toList := by
  rw [encode, String.toList_ofList]
  induction s.toUTF8.data.toList with
  | nil => exact .nil
  | cons b bytes ih =>
    rw [List.flatMap_cons]
    exact (encoded_encodeByte hunreserved hkeep b).append ih

end Keyspace.Text.Percent
