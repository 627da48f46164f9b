import Keyspace.Proofs.Address.Text

/-! # The order of addresses

    Equality looks at bucket and segments, the order at texts, and the
    questions `lessEq`, `greater` and `greaterEq` are put together from both.
    They fit together because no two well-formed addresses share a text: of two
    of them exactly one comes first, unless they are one and the same
    (`eq_of_not_less`).
-/

namespace Keyspace.Address

variable {a b c : Address}

/-! ## Section 1: Strict order -/

theorem less_iff : a.less b = true ↔ a.text < b.text := decide_eq_true_iff

theorem less_eq_false_iff : a.less b = false ↔ b.text ≤ a.text := by
  rw [← Bool.not_eq_true, less_iff, String.not_lt]

theorem less_irrefl (a : Address) : a.less a = false :=
  less_eq_false_iff.mpr (String.not_lt.mp (String.lt_irrefl a.text))

theorem less_trans (hab : a.less b = true) (hbc : b.less c = true) : a.less c = true := by
  rw [less_iff] at hab hbc ⊢
  exact String.lt_trans hab hbc

theorem less_asymm (h : a.less b = true) : b.less a = false := by
  by_cases hba : b.less a = true
  · have haa := less_trans h hba
    rw [less_irrefl] at haa
    exact absurd haa Bool.false_ne_true
  · exact Bool.eq_false_iff.mpr hba

/-- Of two different addresses one comes first. -/
theorem eq_of_not_less (ha : a.WellFormed) (hb : b.WellFormed) (hab : a.less b = false)
    (hba : b.less a = false) : a = b := by
  rw [less_eq_false_iff] at hab hba
  exact (text_inj ha hb).mp (String.le_antisymm hba hab)

/-! ## Section 2: The other questions -/

theorem lessEq_iff : a.lessEq b = true ↔ a.less b = true ∨ a = b := by
  rw [lessEq, Bool.or_eq_true_iff, beq_iff_eq]

theorem greater_iff (ha : a.WellFormed) (hb : b.WellFormed) :
    a.greater b = true ↔ b.less a = true := by
  rw [greater, Bool.and_eq_true_iff, Bool.not_eq_true', bne_iff_ne]
  constructor
  · rintro ⟨hab, hne⟩
    by_cases hba : b.less a = true
    · exact hba
    · exact absurd (eq_of_not_less ha hb hab (Bool.eq_false_iff.mpr hba)) hne
  · intro hba
    refine ⟨less_asymm hba, ?_⟩
    rintro rfl
    rw [less_irrefl] at hba
    exact Bool.false_ne_true hba

theorem greaterEq_iff (ha : a.WellFormed) (hb : b.WellFormed) :
    a.greaterEq b = true ↔ b.lessEq a = true := by
  rw [greaterEq, Bool.not_eq_true', lessEq_iff]
  constructor
  · intro hab
    by_cases hba : b.less a = true
    · exact .inl hba
    · exact .inr (eq_of_not_less hb ha (Bool.eq_false_iff.mpr hba) hab)
  · rintro (hba | rfl)
    · exact less_asymm hba
    · exact less_irrefl b

theorem eq_of_greaterEq (ha : a.WellFormed) (hb : b.WellFormed) (hab : a.greaterEq b = true)
    (hba : b.greaterEq a = true) : a = b := by
  rw [greaterEq, Bool.not_eq_true'] at hab hba
  exact eq_of_not_less ha hb hab hba

/-! ## Section 3: Three-way comparison -/

theorem compare_lt_iff : a.compare b = .lt ↔ a.less b = true := by
  rw [less_iff, compare]
  by_cases hgt : b.text < a.text
  · have hlt : ¬a.text < b.text := fun hlt => String.lt_irrefl _ (String.lt_trans hlt hgt)
    simp [hgt, hlt]
  · simp [hgt]

theorem compare_gt_iff : a.compare b = .gt ↔ b.less a = true := by
  rw [less_iff, compare]
  by_cases hgt : b.text < a.text
  · simp [hgt]
  · by_cases hlt : a.text < b.text
    · simp [hgt, hlt]
    · simp [hgt, hlt]

/-- Comparing the other way round gives the opposite. -/
theorem compare_swap (a b : Address) : b.compare a = (a.compare b).swap := by
  cases h : a.compare b with
  | lt => exact compare_gt_iff.mpr (compare_lt_iff.mp h)
  | eq => exact compare_eq_iff.mpr (compare_eq_iff.mp h).symm
  | gt => exact compare_lt_iff.mpr (compare_gt_iff.mp h)

/-- The comparison is put together from the two questions which comes first. -/
theorem compare_congr {d : Address} (h : a.less b = c.less d) (h' : b.less a = d.less c) :
    a.compare b = c.compare d := by
  rw [Bool.eq_iff_iff, less_iff, less_iff] at h h'
  simp only [compare, h, h']

end Keyspace.Address
