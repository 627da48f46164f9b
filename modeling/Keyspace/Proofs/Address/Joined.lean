import Keyspace.Proofs.Address.Text

/-! # Addresses of joined texts

    Texts are joined with separators and the result is parsed. Its names are
    those of all the texts, one text after the other (`namesIn_joined`): the
    separators that a text begins or ends with, and those that come in between,
    only add to each other. Whether there is a bucket depends on the first text
    (`head?_joined`), which must not be empty, since then the separator behind
    it would be the first character.

    So joining a text with others behind it extends its address by the names of
    the others (`parse?_joined`), and their own leading separators do not
    matter (`parse?_withoutLeading`).
-/

namespace Keyspace.Address

variable {s t first : String} {texts : List String} {a : Address}

/-! ## Section 1: Names and beginning -/

theorem namesIn_joined (texts : List String) :
    namesIn (separatorText.intercalate texts) = texts.flatMap namesIn := by
  rw [namesIn, toList_joined, Text.runs_intercalate_flatMap, List.map_flatMap, List.flatMap_map]
  rfl

theorem head?_joined (h : first ≠ "") (rest : List String) :
    (separatorText.intercalate (first :: rest)).toList.head? = first.toList.head? := by
  rw [toList_joined, List.map_cons, Text.head?_intercalate]
  intro hnil
  exact h (String.toList_eq_nil_iff.mp hnil)

/-- There is a first text, and it begins with a separator. -/
def BeginsAbsolute (texts : List String) : Prop :=
  ∃ t, texts.head? = some t ∧ t.toList.head? = some '/'

theorem head?_joined_iff (h : ∀ t ∈ texts, t ≠ "") :
    (separatorText.intercalate texts).toList.head? = some separator ↔ BeginsAbsolute texts := by
  cases texts with
  | nil =>
    constructor
    · intro hhead
      cases hhead
    · rintro ⟨t, ht, -⟩
      cases ht
  | cons first rest =>
    rw [head?_joined (h first List.mem_cons_self)]
    constructor
    · intro hhead
      exact ⟨first, rfl, hhead⟩
    · rintro ⟨t, ht, hhead⟩
      obtain rfl := Option.some.inj ht
      exact hhead

/-! ## Section 2: Parsing -/

/-- Joined texts denote nothing if the first one begins with a separator and
    there is no other character in any of them. -/
theorem parse?_joined_eq_none_iff (h : ∀ t ∈ texts, t ≠ "") :
    parse? (separatorText.intercalate texts) = none ↔
      BeginsAbsolute texts ∧ ∀ t ∈ texts, ∀ c ∈ t.toList, c = '/' := by
  rw [parse?_eq_none_iff_namesIn, head?_joined_iff h, namesIn_joined, List.flatMap_eq_nil_iff]
  simp only [namesIn_eq_nil_iff]
  exact Iff.rfl

/-- A text that begins like another one, and has further names, denotes an
    address with further segments. -/
theorem parse?_of_namesIn_append {rest : List String} (h : parse? s = some a)
    (hhead : t.toList.head? = s.toList.head?) (hnames : namesIn t = namesIn s ++ rest) :
    parse? t = some ⟨a.bucket, a.segments ++ rest⟩ := by
  unfold parse? at h ⊢
  rw [hhead, hnames]
  by_cases hsep : s.toList.head? = some separator
  · rw [if_pos hsep] at h ⊢
    -- the bucket is the first name of both
    cases hs : namesIn s with
    | nil =>
      rw [hs] at h
      cases h
    | cons b names =>
      rw [hs] at h
      obtain rfl := Option.some.inj h
      rfl
  · rw [if_neg hsep] at h ⊢
    obtain rfl := Option.some.inj h
    rfl

/-- Joining other texts to one that denotes an address adds their names. -/
theorem parse?_joined (hfirst : first ≠ "") (h : parse? first = some a) (more : List String) :
    parse? (separatorText.intercalate (first :: more)) =
      some ⟨a.bucket, a.segments ++ more.flatMap namesIn⟩ := by
  apply parse?_of_namesIn_append h
  · exact head?_joined hfirst more
  · rw [namesIn_joined, List.flatMap_cons]

/-- Empty texts have no names to add. -/
theorem flatMap_namesIn_filter (texts : List String) :
    (texts.filter fun t => t != "").flatMap namesIn = texts.flatMap namesIn := by
  induction texts with
  | nil => rfl
  | cons t texts ih =>
    by_cases ht : t = ""
    · subst ht
      rw [List.filter_cons_of_neg (by simp), ih, List.flatMap_cons]
      rfl
    · rw [List.filter_cons_of_pos (by simpa using ht), List.flatMap_cons, List.flatMap_cons, ih]

/-! ## Section 3: Leading separators -/

/-- The text without the separators that it begins with. -/
def withoutLeading (s : String) : String := String.ofList (s.toList.dropWhile (· == '/'))

theorem namesIn_withoutLeading (s : String) : namesIn (withoutLeading s) = namesIn s := by
  have hruns : Text.runs separator (s.toList.dropWhile (· == separator)) =
      Text.runs separator s.toList := Text.runs_dropWhile s.toList
  rw [namesIn, withoutLeading, String.toList_ofList, namesIn, ← hruns]
  rfl

/-- Without them, every text denotes a relative address. -/
theorem parse?_withoutLeading (s : String) :
    parse? (withoutLeading s) = some ⟨none, namesIn s⟩ := by
  have hhead : (withoutLeading s).toList.head? ≠ some separator := by
    intro hhead
    have hnot := List.head?_dropWhile_not (· == '/') s.toList
    rw [withoutLeading, String.toList_ofList] at hhead
    rw [hhead] at hnot
    exact absurd hnot (by decide)
  rw [parse?, if_neg hhead, namesIn_withoutLeading]

end Keyspace.Address
