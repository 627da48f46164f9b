import Keyspace.Proofs.Text.Integers
import Keyspace.Proofs.Text.Unquoting

/-! # Printable texts

    A text is printable when all of its characters are: it shows on one line,
    and nothing in it controls how the rest is shown. Quoted texts are printable
    whatever is quoted (`printable_quote`), and so are integers. Texts that are
    put together are printable if their parts are.
-/

namespace Keyspace.Text

/-! ## Section 1: Characters -/

/-- All ASCII characters but the control characters are printable. -/
theorem isPrintable_of_ascii {c : Char} (hfirst : 0x20 ≤ c.toNat) (hlast : c.toNat < 0x7f) :
    isPrintable c = true := by
  have hranges : ∀ n < 0x7f, 0x20 ≤ n → inRanges unprintableRanges n = false := by
    decide +kernel
  rw [isPrintable, hranges c.toNat hlast hfirst]
  rfl

theorem isPrintable_of_isDigit {c : Char} (h : c.isDigit = true) : isPrintable c = true := by
  have hrange : 48 ≤ c.toNat ∧ c.toNat ≤ 57 := by
    simpa [Char.isDigit, UInt32.le_iff_toNat_le] using h
  exact isPrintable_of_ascii (by omega) (by omega)

theorem isPrintable_of_isNumeral {c : Char} (h : isNumeral c = true) : isPrintable c = true := by
  rcases Bool.or_eq_true _ _ ▸ h with h | h
  · exact isPrintable_of_isDigit h
  · rw [beq_iff_eq.mp h]
    decide

theorem isPrintable_hexDigit : ∀ n < 16, isPrintable (hexDigit n) = true := by decide

theorem isPrintable_of_mem_hexDigits {width n : Nat} {c : Char} (h : c ∈ hexDigits width n) :
    isPrintable c = true := by
  induction width generalizing n with
  | zero => cases h
  | succ w ih =>
    rcases List.mem_append.mp h with h | h
    · exact ih h
    · obtain rfl := List.mem_singleton.mp h
      exact isPrintable_hexDigit _ (Nat.mod_lt n (by decide))

theorem isPrintable_of_isQuote {c : Char} (h : IsQuote c) : isPrintable c = true := by
  rcases h with rfl | rfl <;> decide

/-- Whatever a character is, what is written for it is printable. -/
theorem Escaped.printable {quote c : Char} {written : List Char} (hquote : IsQuote quote)
    (h : Escaped quote c written) : ∀ d ∈ written, isPrintable d = true := by
  have hbackslash : isPrintable '\\' = true := by decide
  cases h with
  | marked hmarked =>
    have hc : isPrintable c = true := by
      rcases hmarked with rfl | rfl
      · exact isPrintable_of_isQuote hquote
      · exact hbackslash
    exact List.forall_mem_cons.mpr ⟨hbackslash, List.forall_mem_singleton.mpr hc⟩
  | named hnamed =>
    have hletters : ∀ p ∈ [('\t', 't'), ('\n', 'n'), ('\r', 'r')], isPrintable p.2 = true := by
      decide
    exact List.forall_mem_cons.mpr
      ⟨hbackslash, List.forall_mem_singleton.mpr (hletters _ hnamed)⟩
  | plain _ _ hc => exact List.forall_mem_singleton.mpr hc
  | coded hcoded _ =>
    have hletters : ∀ p ∈ [('x', 2), ('u', 4), ('U', 8)], isPrintable p.1 = true := by decide
    exact List.forall_mem_cons.mpr ⟨hbackslash,
      List.forall_mem_cons.mpr ⟨hletters _ hcoded, fun _ => isPrintable_of_mem_hexDigits⟩⟩

/-! ## Section 2: Texts -/

/-- All characters of the text are printable. -/
def Printable (s : String) : Prop := ∀ c ∈ s.toList, isPrintable c = true

instance (s : String) : Decidable (Printable s) :=
  decidable_of_iff (s.toList.all isPrintable = true) List.all_eq_true

variable {s t sep : String} {cs : List Char} {parts : List String}

theorem printable_ofList (h : ∀ c ∈ cs, isPrintable c = true) : Printable (String.ofList cs) := by
  rwa [Printable, String.toList_ofList]

/-- For fixed texts, whose characters can be run through the check. -/
theorem printable_of_all (h : cs.all isPrintable = true) : Printable (String.ofList cs) :=
  printable_ofList (List.all_eq_true.mp h)

theorem Printable.append (hs : Printable s) (ht : Printable t) : Printable (s ++ t) := by
  rw [Printable, String.toList_append]
  exact List.forall_mem_append.mpr ⟨hs, ht⟩

theorem Printable.intercalate (hsep : Printable sep) (h : ∀ s ∈ parts, Printable s) :
    Printable (sep.intercalate parts) := by
  induction parts with
  | nil => exact nofun
  | cons s rest ih =>
    obtain ⟨hs, hrest⟩ := List.forall_mem_cons.mp h
    cases rest with
    | nil => rwa [String.intercalate_singleton]
    | cons t rest =>
      rw [String.intercalate_cons_cons]
      exact (hs.append hsep).append (ih hrest)

theorem printable_int (i : Int) : Printable (toString i) :=
  fun _ hc => isPrintable_of_isNumeral (isNumeral_of_mem_toString hc)

theorem printable_nat (n : Nat) : Printable (toString n) := printable_int n

/-- **Quoted texts are printable.** -/
theorem printable_quote (s : String) : Printable (quote s) := by
  have hquote := isQuote_quoteFor s.toList
  have hends := isPrintable_of_isQuote hquote
  intro c hc
  rw [toList_quote, quoteChars] at hc
  rcases List.mem_append.mp hc with hc | hc
  · rcases List.mem_cons.mp hc with rfl | hc
    · exact hends
    · obtain ⟨d, -, hc⟩ := List.mem_flatMap.mp hc
      exact (escaped_escape _ d).printable hquote c hc
  · rwa [List.mem_singleton.mp hc]

end Keyspace.Text
