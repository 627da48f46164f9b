import Keyspace.Proofs.Text.Runs

/-! # Joined texts

    A text is joined when it comes about by joining names with separators. A
    joined text can be told from its characters: no separator begins or ends
    it, and no two of them meet. Exactly these texts come out again when their
    runs are joined (`intercalate_runs_iff`).

    The proof takes a text apart at its first separator. Neither side of it may
    be empty, and the second side must be joined (`isJoined_append_sep`).
-/

namespace Keyspace.Text

variable {sep : Char} {cs ds : List Char}

/-- Separators stand between other characters only, one at a time. -/
def IsJoined (sep : Char) (cs : List Char) : Prop :=
  cs.head? ≠ some sep ∧ cs.getLast? ≠ some sep ∧ ¬[sep, sep] <:+: cs

/-! ## Section 1: Taking a text apart -/

/-- Two separators meet behind the first separator of a text, or not at all. -/
theorem pair_infix_append_sep (h : sep ∉ cs) :
    [sep, sep] <:+: cs ++ sep :: ds ↔ ds.head? = some sep ∨ [sep, sep] <:+: ds := by
  induction cs with
  | nil =>
    -- the text begins with the separator, so the next character decides
    rw [List.nil_append, List.infix_cons_iff]
    refine or_congr_left ?_
    cases ds with
    | nil => simp
    | cons d ds => simp [eq_comm]
  | cons c cs ih =>
    have hc : c ≠ sep := fun hc => h (hc ▸ List.mem_cons_self)
    have hcs : sep ∉ cs := fun hcs => h (List.mem_cons_of_mem _ hcs)
    have hprefix : ¬[sep, sep] <+: c :: (cs ++ sep :: ds) := by
      intro hprefix
      exact hc (List.cons_prefix_cons.mp hprefix).1.symm
    rw [List.cons_append, List.infix_cons_iff, or_iff_right hprefix, ih hcs]

theorem isJoined_of_not_mem (h : sep ∉ cs) : IsJoined sep cs := by
  refine ⟨fun hhead => ?_, fun hlast => h (List.mem_of_getLast? hlast), fun hpair => ?_⟩
  · exact h (List.mem_of_mem_head? hhead)
  · exact h (hpair.subset List.mem_cons_self)

/-- The first separator of a joined text has other characters on both sides,
    and what follows it is joined. -/
theorem isJoined_append_sep (h : sep ∉ cs) :
    IsJoined sep (cs ++ sep :: ds) ↔ cs ≠ [] ∧ ds ≠ [] ∧ IsJoined sep ds := by
  have hhead : (cs ++ sep :: ds).head? ≠ some sep ↔ cs ≠ [] := by
    cases cs with
    | nil => simp
    | cons c cs =>
      have hc : c ≠ sep := fun hc => h (hc ▸ List.mem_cons_self)
      simpa using hc
  have hlast : (cs ++ sep :: ds).getLast? ≠ some sep ↔ ds ≠ [] ∧ ds.getLast? ≠ some sep := by
    cases ds with
    | nil => simp
    | cons d ds => simp [List.getLast?_append, List.getLast?_cons]
  rw [IsJoined, IsJoined, hhead, hlast, pair_infix_append_sep h, not_or]
  constructor
  · rintro ⟨hcs, ⟨hds, hlast⟩, hhead, hpair⟩
    exact ⟨hcs, hds, hhead, hlast, hpair⟩
  · rintro ⟨hcs, hds, hhead, hlast, hpair⟩
    exact ⟨hcs, ⟨hds, hlast⟩, hhead, hpair⟩

/-! ## Section 2: Joining the runs -/

/-- The runs of a text make the text again exactly if it is joined. -/
theorem intercalate_runs_iff : [sep].intercalate (runs sep cs) = cs ↔ IsJoined sep cs := by
  induction cs using separated_induction sep with
  | free cs h =>
    refine iff_of_true ?_ (isJoined_of_not_mem h)
    rw [runs_of_not_mem h]
    split
    · next hnil => rw [hnil]; rfl
    · exact List.intercalate_singleton
  | parted cs ds h ih =>
    rw [isJoined_append_sep h, runs_append_sep, runs_of_not_mem h, ← ih]
    by_cases hcs : cs = []
    · -- runs that are joined do not begin with a separator
      have hne : [sep].intercalate (runs sep ds) ≠ sep :: ds := by
        intro heq
        have hnames : ∀ n ∈ runs sep ds, IsName sep n := fun n hn => isName_of_mem_runs hn
        refine head?_intercalate_ne hnames ?_
        rw [heq, List.head?_cons]
      simp [hcs, hne]
    · rw [if_neg hcs, List.singleton_append]
      cases hruns : runs sep ds with
      | nil =>
        -- nothing is left to make the separator
        simp [hcs]
      | cons r rs =>
        have hds : ds ≠ [] := by
          rintro rfl
          simp at hruns
        rw [List.intercalate_cons_cons]
        simp [hcs, hds]

theorem isJoined_intercalate {names : List (List Char)} (h : ∀ n ∈ names, IsName sep n) :
    IsJoined sep ([sep].intercalate names) := by
  rw [← intercalate_runs_iff, runs_intercalate h]

end Keyspace.Text
