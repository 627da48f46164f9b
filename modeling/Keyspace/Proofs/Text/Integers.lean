import Keyspace.Text.Decimal

/-! # Integers as texts

    An integer is written in decimal digits, with a sign before them if it is
    negative. Different integers are written differently
    (`toList_toString_inj`), and an integer has at most `k` digits if it is
    below the power of ten with exponent `k` (`digitCount_le_iff`).
-/

namespace Keyspace.Text

/-- The digits, and the sign of a negative integer. -/
def isNumeral (c : Char) : Bool := c.isDigit || c == '-'

theorem isNumeral_of_mem_toDigits {n : Nat} {c : Char} (h : c ∈ Nat.toDigits 10 n) :
    isNumeral c = true := by
  simp [isNumeral, Nat.isDigit_of_mem_toDigits (by decide) (by decide) h]

theorem toDigits_inj {m n : Nat} (h : Nat.toDigits 10 m = Nat.toDigits 10 n) : m = n := by
  have hvalue : Nat.ofDigitChars 10 (Nat.toDigits 10 m) 0 =
      Nat.ofDigitChars 10 (Nat.toDigits 10 n) 0 := by
    rw [h]
  rwa [Nat.ofDigitChars_ten_toDigits, Nat.ofDigitChars_ten_toDigits] at hvalue

/-- An integer is written as its digits, with the sign before them if it is
    negative. -/
theorem toList_toString (i : Int) :
    (toString i).toList =
      if 0 ≤ i then Nat.toDigits 10 i.toNat else '-' :: Nat.toDigits 10 (-i).toNat := by
  rw [Int.toString_eq_repr, Int.repr_eq_if]
  split
  · rw [Nat.repr_eq_ofList_toDigits, String.toList_ofList]
  · simp [Nat.repr_eq_ofList_toDigits]

theorem isNumeral_of_mem_toString {i : Int} {c : Char} (h : c ∈ (toString i).toList) :
    isNumeral c = true := by
  rw [toList_toString] at h
  split at h
  · exact isNumeral_of_mem_toDigits h
  · rcases List.mem_cons.mp h with rfl | h
    · rfl
    · exact isNumeral_of_mem_toDigits h

theorem toList_toString_ne_nil (i : Int) : (toString i).toList ≠ [] := by
  rw [toList_toString]
  split
  · exact Nat.toDigits_ne_nil
  · exact List.cons_ne_nil _ _

/-- Different integers are written differently. -/
theorem toList_toString_inj {i j : Int} (h : (toString i).toList = (toString j).toList) :
    i = j := by
  -- no digit is the sign
  have hsign : ∀ {m n : Nat}, Nat.toDigits 10 m ≠ '-' :: Nat.toDigits 10 n := by
    intro m n heq
    have hdigit : ('-' : Char).isDigit = true := by
      refine Nat.isDigit_of_mem_toDigits (b := 10) (n := m) (by decide) (by decide) ?_
      rw [heq]
      exact List.mem_cons_self
    exact absurd hdigit (by decide)
  rw [toList_toString, toList_toString] at h
  split at h
  · split at h
    · have hdigits := toDigits_inj h
      omega
    · exact absurd h hsign
  · split at h
    · exact absurd h.symm hsign
    · have hdigits := toDigits_inj (List.cons.inj h).2
      omega

theorem digitCount_le_iff {i : Int} {k : Nat} (hk : 0 < k) :
    digitCount i ≤ k ↔ i.natAbs < Nat.pow 10 k :=
  Nat.length_toDigits_le_iff (by decide) hk

/-- The powers of ten from the limit on have too many digits. -/
theorem not_isShort_pow {k : Nat} (hk : digitLimit ≤ k) :
    isShort (Int.ofNat (Nat.pow 10 k)) = false := by
  have hpos : 0 < k := Nat.lt_of_lt_of_le (by decide) hk
  have hcount : k < digitCount (Int.ofNat (Nat.pow 10 k)) := by
    rw [← Nat.not_le, digitCount_le_iff hpos]
    exact Nat.lt_irrefl _
  exact decide_eq_false (Nat.not_le.mpr (Nat.lt_of_le_of_lt hk hcount))

end Keyspace.Text
