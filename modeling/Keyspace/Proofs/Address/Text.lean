import Keyspace.Proofs.Text.Runs
import Keyspace.Proofs.Value.Paths

/-! # Addresses and their texts

    The names of an address are its bucket, if it has one, and its segments.
    Parsing a text yields the runs of the text as names (`names_of_parse?`),
    and whether the address has a bucket depends on the first character alone
    (`isAbsolute_of_parse?`). So two texts with the same runs and the same
    beginning denote the same address (`parse?_congr`).

    A well-formed address is what its own text denotes (`parse?_text`): its
    names are the runs of the text, since no name is empty and none contains a
    separator. Hence texts tell well-formed addresses apart, and the order of
    the texts is one of the addresses.
-/

namespace Keyspace.Address

/-! ## Section 1: Parsing -/

/-- The bucket, if there is one, and the segments. -/
def names (a : Address) : List String := a.bucket.toList ++ a.segments

theorem namesIn_eq_nil_iff {s : String} : namesIn s = [] ↔ ∀ c ∈ s.toList, c = separator := by
  rw [namesIn, List.map_eq_nil_iff, Text.runs_eq_nil_iff]

/-- A text denotes nothing if it begins with a separator and has no names. -/
theorem parse?_eq_none_iff_namesIn {s : String} :
    parse? s = none ↔ s.toList.head? = some separator ∧ namesIn s = [] := by
  unfold parse?
  by_cases hhead : s.toList.head? = some separator
  · rw [if_pos hhead]
    cases hnames : namesIn s with
    | nil => simp [hhead]
    | cons b rest => simp
  · rw [if_neg hhead]
    simp [hhead]

/-- A text denotes nothing if it is not empty and all its characters are
    separators. -/
theorem parse?_eq_none_iff {s : String} :
    parse? s = none ↔ s ≠ "" ∧ ∀ c ∈ s.toList, c = separator := by
  rw [parse?_eq_none_iff_namesIn, namesIn_eq_nil_iff, ne_eq, ← String.toList_eq_nil_iff]
  apply and_congr_left
  intro hall
  cases hs : s.toList with
  | nil => simp
  | cons c cs =>
    -- the first character is a separator, as all of them are
    have hc : c = separator := hall c (by rw [hs]; exact List.mem_cons_self)
    simp [hc]

theorem names_of_parse? {s : String} {a : Address} (h : parse? s = some a) :
    a.names = namesIn s := by
  unfold parse? at h
  split at h
  · split at h
    · simp at h
    · next hnames =>
      obtain rfl := Option.some.inj h
      exact hnames.symm
  · obtain rfl := Option.some.inj h
    rfl

theorem toList_names_of_parse? {s : String} {a : Address} (h : parse? s = some a) :
    a.names.map String.toList = Text.runs separator s.toList := by
  rw [names_of_parse? h, namesIn, List.map_map]
  simp

theorem isAbsolute_of_parse? {s : String} {a : Address} (h : parse? s = some a) :
    a.isAbsolute = true ↔ s.toList.head? = some separator := by
  unfold parse? at h
  split at h
  · next hhead =>
    split at h
    · simp at h
    · obtain rfl := Option.some.inj h
      simp [isAbsolute, hhead]
  · next hhead =>
    obtain rfl := Option.some.inj h
    simp [isAbsolute, hhead]

/-- Texts with the same names and the same kind of beginning denote the same
    address, or both denote nothing. -/
theorem parse?_congr {s t : String} (hnames : namesIn s = namesIn t)
    (hhead : s.toList.head? = some separator ↔ t.toList.head? = some separator) :
    parse? s = parse? t := by
  unfold parse?
  rw [hnames]
  by_cases h : s.toList.head? = some separator
  · rw [if_pos h, if_pos (hhead.mp h)]
  · rw [if_neg h, if_neg fun ht => h (hhead.mpr ht)]

/-- A second separator between two texts changes nothing. -/
theorem parse?_doubled (u v : String) :
    parse? (u ++ "//" ++ v) = parse? (u ++ "/" ++ v) := by
  have htwo : (u ++ "//" ++ v).toList = u.toList ++ separator :: separator :: v.toList := by
    simp [separator]
  have hone : (u ++ "/" ++ v).toList = u.toList ++ separator :: v.toList := by
    simp [separator]
  apply parse?_congr
  · rw [namesIn, namesIn, htwo, hone, Text.runs_append_sep, Text.runs_append_sep,
      Text.runs_sep_cons]
  · -- both begin like `u`, or with the separator if `u` is empty
    rw [htwo, hone]
    cases u.toList <;> simp

/-- A separator behind a text that is not empty changes nothing. -/
theorem parse?_trailing {u : String} (hu : u ≠ "") :
    parse? (u ++ "/") = parse? u := by
  have htrail : (u ++ "/").toList = u.toList ++ [separator] := by
    simp [separator]
  apply parse?_congr
  · rw [namesIn, namesIn, htrail, Text.runs_append_singleton_sep]
  · have hne : u.toList ≠ [] := fun h => hu (String.toList_eq_nil_iff.mp h)
    obtain ⟨c, cs, hcs⟩ := List.exists_cons_of_ne_nil hne
    rw [htrail, hcs, List.cons_append, List.head?_cons, List.head?_cons]

/-! ## Section 2: The text of a well-formed address -/

/-- Segments of a well-formed address make a well-formed relative address. -/
theorem wellFormed_of_subset {a : Address} {segments : List String} (ha : a.WellFormed)
    (h : segments ⊆ a.segments) : WellFormed ⟨none, segments⟩ :=
  ⟨by simp, fun s hs => ha.2 s (h hs)⟩

theorem wellFormed_of_append {a : Address} {segments rest : List String} (ha : a.WellFormed)
    (h : a.segments = segments ++ rest) : WellFormed ⟨none, rest⟩ := by
  apply wellFormed_of_subset ha
  rw [h]
  exact List.subset_append_right segments rest

theorem toList_joined (texts : List String) :
    (separatorText.intercalate texts).toList =
      [separator].intercalate (texts.map String.toList) := by
  rw [String.toList_intercalate, separatorText, String.toList_ofList]

theorem toList_key (a : Address) :
    a.key.toList = [separator].intercalate (a.segments.map String.toList) :=
  toList_joined a.segments

theorem isName_toList {segments : List String} (h : ∀ s ∈ segments, IsName s) :
    ∀ n ∈ segments.map String.toList, Text.IsName separator n :=
  List.forall_mem_map.mpr h

/-- The names in the key of a well-formed address are its segments. -/
theorem runs_key {a : Address} (h : a.WellFormed) :
    Text.runs separator a.key.toList = a.segments.map String.toList := by
  rw [toList_key, Text.runs_intercalate (isName_toList h.2)]

theorem head?_key_ne {a : Address} (h : a.WellFormed) :
    a.key.toList.head? ≠ some separator := by
  rw [toList_key]
  exact Text.head?_intercalate_ne (isName_toList h.2)

theorem toList_text_of_bucket {a : Address} {b : String} (hb : a.bucket = some b) :
    a.text.toList = separator :: (b.toList ++ separator :: a.key.toList) := by
  simp [text, hb, separatorText]

theorem text_of_relative {a : Address} (hb : a.bucket = none) : a.text = a.key := by
  rw [text, hb]

theorem namesIn_text {a : Address} (h : a.WellFormed) : namesIn a.text = a.names := by
  have hruns : Text.runs separator a.text.toList = a.names.map String.toList := by
    rw [names, List.map_append]
    cases hb : a.bucket with
    | none =>
      rw [text_of_relative hb, runs_key h]
      rfl
    | some b =>
      have hname : Text.IsName separator b.toList := h.1 b hb
      rw [toList_text_of_bucket hb, Text.runs_sep_cons, Text.runs_append_sep,
        Text.runs_of_isName hname, runs_key h]
      rfl
  rw [namesIn, hruns, List.map_map]
  simp

/-- **Texts are faithful.** A well-formed address is what its text denotes. -/
theorem parse?_text {a : Address} (h : a.WellFormed) : parse? a.text = some a := by
  unfold parse?
  rw [namesIn_text h, names]
  obtain ⟨bucket, segments⟩ := a
  cases bucket with
  | none =>
    -- a key never begins with a separator, so it is read as relative
    rw [text_of_relative rfl, if_neg (head?_key_ne h)]
    rfl
  | some b =>
    -- the names are the bucket and then the segments
    rw [toList_text_of_bucket rfl, if_pos (List.head?_cons ..)]
    rfl

theorem text_inj {a b : Address} (ha : a.WellFormed) (hb : b.WellFormed) :
    a.text = b.text ↔ a = b := by
  constructor
  · intro h
    have hparse : some a = some b := by rw [← parse?_text ha, ← parse?_text hb, h]
    exact Option.some.inj hparse
  · intro h
    rw [h]

/-! ## Section 3: The order of the texts -/

/-- Two addresses compare as equal when neither text precedes the other. -/
theorem compare_eq_iff {a b : Address} : a.compare b = .eq ↔ a.text = b.text := by
  unfold compare
  by_cases hgt : b.text < a.text
  · rw [if_pos hgt]
    refine ⟨nofun, fun h => ?_⟩
    rw [h] at hgt
    exact absurd hgt (String.lt_irrefl _)
  · rw [if_neg hgt]
    by_cases hlt : a.text < b.text
    · rw [if_pos hlt]
      refine ⟨nofun, fun h => ?_⟩
      rw [h] at hlt
      exact absurd hlt (String.lt_irrefl _)
    · -- neither text precedes the other
      rw [if_neg hlt]
      exact ⟨fun _ => String.le_antisymm hgt hlt, fun _ => rfl⟩

end Keyspace.Address
