/-! # Separated text

    A path text is a sequence of names with separators between and around
    them. `pieces` cuts a text at every separator and keeps the empty pieces;
    `runs` keeps only the non-empty ones, which are the maximal stretches
    without a separator. `without` erases the separators instead.

    The laws say that every run is a name (`isName_of_mem_runs`) and that
    cutting loses nothing but separators (`flatten_runs`).
-/

namespace Keyspace.Text

/-! ## Section 1: Cutting a text -/

/-- The pieces of a text between separators, in order. A separator at either
    end, or next to another one, delimits an empty piece, so there is always
    at least one piece. -/
def pieces (sep : Char) : List Char → List (List Char)
  | [] => [[]]
  | c :: cs =>
    if c = sep then [] :: pieces sep cs
    else match pieces sep cs with
      | [] => [[c]]
      | p :: ps => (c :: p) :: ps

/-- The non-empty pieces: the maximal stretches without a separator. -/
def runs (sep : Char) (cs : List Char) : List (List Char) :=
  (pieces sep cs).filter fun p => !p.isEmpty

/-- The text with every separator erased. -/
def without (sep : Char) (cs : List Char) : List Char :=
  cs.filter fun c => c != sep

/-- A name is a non-empty text without separators. -/
def IsName (sep : Char) (cs : List Char) : Prop :=
  cs ≠ [] ∧ sep ∉ cs

instance (sep : Char) (cs : List Char) : Decidable (IsName sep cs) :=
  inferInstanceAs (Decidable (_ ∧ _))

/-! ## Section 2: Laws of `pieces` -/

@[simp] theorem pieces_nil (sep : Char) : pieces sep [] = [[]] := rfl

@[simp] theorem pieces_sep (sep : Char) (cs : List Char) :
    pieces sep (sep :: cs) = [] :: pieces sep cs := by
  simp [pieces]

theorem pieces_ne_nil (sep : Char) (cs : List Char) : pieces sep cs ≠ [] := by
  induction cs with
  | nil => simp
  | cons c cs ih =>
    unfold pieces
    split
    · simp
    · split <;> simp

theorem not_mem_of_mem_pieces {sep : Char} {cs p : List Char}
    (h : p ∈ pieces sep cs) : sep ∉ p := by
  induction cs generalizing p with
  | nil => simp_all
  | cons c cs ih =>
    unfold pieces at h
    split at h
    · rcases List.mem_cons.mp h with rfl | h
      · simp
      · exact ih h
    · next hc =>
      split at h
      · next hn => exact absurd hn (pieces_ne_nil sep cs)
      · next q qs hq =>
        rcases List.mem_cons.mp h with rfl | h
        · have hq' : sep ∉ q := ih (hq ▸ List.mem_cons_self)
          simp [hq', Ne.symm hc]
        · exact ih (hq ▸ List.mem_cons_of_mem _ h)

theorem flatten_pieces (sep : Char) (cs : List Char) :
    (pieces sep cs).flatten = without sep cs := by
  induction cs with
  | nil => rfl
  | cons c cs ih =>
    unfold pieces
    split
    · next hc => subst hc; simpa [without] using ih
    · next hc =>
      split
      · next hn => exact absurd hn (pieces_ne_nil sep cs)
      · next q qs hq =>
        rw [hq] at ih
        simp only [List.flatten_cons] at ih
        simp [without, hc] at ih ⊢
        exact ih

/-! ## Section 3: Laws of `runs` -/

/-- Every run is a name. -/
theorem isName_of_mem_runs {sep : Char} {cs r : List Char}
    (h : r ∈ runs sep cs) : IsName sep r := by
  simp only [runs, List.mem_filter] at h
  exact ⟨by simpa using h.2, not_mem_of_mem_pieces h.1⟩

theorem flatten_filter_nonempty (ps : List (List Char)) :
    (ps.filter fun p => !p.isEmpty).flatten = ps.flatten := by
  induction ps with
  | nil => rfl
  | cons p ps ih => cases p <;> simp [ih]

/-- The runs, put together, are the text without its separators. -/
theorem flatten_runs (sep : Char) (cs : List Char) :
    (runs sep cs).flatten = without sep cs := by
  rw [runs, flatten_filter_nonempty, flatten_pieces]

end Keyspace.Text
