import Keyspace.Proofs.Address.Order
import Keyspace.Proofs.Path.Containment

/-! # Subtrees in the order of texts

    Addresses are ordered by the characters of their texts, and some
    characters, like `-`, come before the separator. So what lies below an
    address need not follow it at once: `x-y` stands between `x` and `x/y`.
    But all that lies below an address stands together.

    The texts below an address share a stem, which ends with a separator
    (`text_of_append`), and no other address has a text that goes on from the
    stem (`isBelow_iff_stem`). In the order of texts, those with a common
    beginning are an interval (`Text.exists_append_of_between`).

    Within a subtree the stem does not matter: addresses compare as the
    segments behind its root do (`Extends.compare_eq`).
-/

namespace Keyspace

/-! ## Section 1: Texts with a common beginning -/

namespace Text

/-- What stands between two lists that begin alike begins like them, and its
    rest stands between their rests. -/
theorem exists_append_of_between_lists {s k k' x : List Char} (hlow : ¬x < s ++ k)
    (hhigh : ¬s ++ k' < x) : ∃ t, x = s ++ t ∧ ¬t < k ∧ ¬k' < t := by
  induction s generalizing x with
  | nil => exact ⟨x, rfl, hlow, hhigh⟩
  | cons c s ih =>
    cases x with
    | nil => exact absurd (List.nil_lt_cons c (s ++ k)) hlow
    | cons d x =>
      rw [List.cons_append, List.cons_lt_cons_iff, not_or] at hlow hhigh
      -- the first characters are the same: neither precedes the other
      have hsame : c = d := Char.le_antisymm (Char.not_lt.mp hlow.1) (Char.not_lt.mp hhigh.1)
      subst hsame
      have hlow' : ¬x < s ++ k := fun h => hlow.2 ⟨rfl, h⟩
      have hhigh' : ¬s ++ k' < x := fun h => hhigh.2 ⟨rfl, h⟩
      obtain ⟨t, rfl, hk, hk'⟩ := ih hlow' hhigh'
      exact ⟨t, rfl, hk, hk'⟩

/-- Lists that begin alike are ordered by what follows. -/
theorem append_lt_append_iff_lists (s t u : List Char) : s ++ t < s ++ u ↔ t < u := by
  induction s with
  | nil => exact Iff.rfl
  | cons c s ih =>
    rw [List.cons_append, List.cons_append, List.cons_lt_cons_iff, ih]
    constructor
    · rintro (hlt | ⟨-, h⟩)
      · exact absurd hlt (Char.lt_irrefl c)
      · exact h
    · intro h
      exact .inr ⟨rfl, h⟩

theorem append_lt_append_iff (s t u : String) : s ++ t < s ++ u ↔ t < u := by
  show (s ++ t).toList < (s ++ u).toList ↔ t.toList < u.toList
  rw [String.toList_append, String.toList_append, append_lt_append_iff_lists]

theorem exists_append_of_between {s k k' x : String} (hlow : s ++ k ≤ x) (hhigh : x ≤ s ++ k') :
    ∃ t, x = s ++ t ∧ k ≤ t ∧ t ≤ k' := by
  have hlow' : ¬x.toList < s.toList ++ k.toList := by
    rw [← String.toList_append]
    exact String.not_lt.mpr hlow
  have hhigh' : ¬s.toList ++ k'.toList < x.toList := by
    rw [← String.toList_append]
    exact String.not_lt.mpr hhigh
  obtain ⟨t, hx, hk, hk'⟩ := exists_append_of_between_lists hlow' hhigh'
  have htext : x = s ++ String.ofList t := by
    rw [← String.toList_inj, hx, String.toList_append, String.toList_ofList]
  refine ⟨String.ofList t, htext, String.not_lt.mp ?_, String.not_lt.mp ?_⟩
  · show ¬(String.ofList t).toList < k.toList
    rw [String.toList_ofList]
    exact hk
  · show ¬k'.toList < (String.ofList t).toList
    rw [String.toList_ofList]
    exact hk'

end Text

namespace Address

variable {a b c : Address}

/-! ## Section 2: Stems -/

/-- The address `b` lies below `a`: in the same bucket, with further segments
    behind those of `a`. -/
def IsBelow (a b : Address) : Prop :=
  ∃ rest, rest ≠ [] ∧ b.bucket = a.bucket ∧ b.segments = a.segments ++ rest

/-- What the texts below an address begin with: its own text and a separator,
    unless there are no segments. -/
def stem (a : Address) : String :=
  if a.segments = [] then a.text else a.text ++ separatorText

theorem stem_of_nil (hnil : a.segments = []) : a.stem = a.text := if_pos hnil

theorem stem_of_ne_nil (hne : a.segments ≠ []) : a.stem = a.text ++ separatorText := if_neg hne

/-- What a key is extended by, the text is extended by. -/
theorem text_of_key {t : String} (hbucket : b.bucket = a.bucket) (hkey : b.key = a.key ++ t) :
    b.text = a.text ++ t := by
  rw [text, text, hbucket, hkey]
  cases a.bucket with
  | none => rfl
  | some n => exact (String.append_assoc ..).symm

/-- Further segments are written behind the stem. -/
theorem text_of_append {rest : List String} (hbucket : b.bucket = a.bucket)
    (hsegments : b.segments = a.segments ++ rest) (hrest : rest ≠ []) :
    b.text = a.stem ++ separatorText.intercalate rest := by
  by_cases hnil : a.segments = []
  · have hkey : b.key = a.key ++ separatorText.intercalate rest := by
      rw [key, key, hsegments, hnil, List.nil_append]
      exact String.empty_append.symm
    rw [stem_of_nil hnil, text_of_key hbucket hkey]
  · have hkey : b.key = a.key ++ (separatorText ++ separatorText.intercalate rest) := by
      rw [key, key, hsegments, String.intercalate_append_of_ne_nil hnil hrest, String.append_assoc]
    rw [stem_of_ne_nil hnil, text_of_key hbucket hkey, String.append_assoc]

/-! ## Section 3: Texts behind a stem -/

/-- Only the relative address without segments has an empty text. -/
theorem text_ne_empty (ha : a.WellFormed) (hne : a ≠ ⟨none, []⟩) : a.text ≠ "" := by
  intro hempty
  have hparse : parse? "" = some a := by rw [← hempty, parse?_text ha]
  have hnone : parse? "" = some ⟨none, []⟩ := by decide +kernel
  rw [hnone] at hparse
  exact hne (Option.some.inj hparse).symm

/-- A separator ends the stem, so the names behind it are further ones. -/
theorem namesIn_stem_append (ha : a.WellFormed) (hne : a ≠ ⟨none, []⟩) (t : String) :
    namesIn (a.stem ++ t) = a.names ++ namesIn t := by
  -- in both cases the separator stands behind a text with the names of the address
  have hends : ∃ s, a.stem = s ++ separatorText ∧ namesIn s = a.names := by
    by_cases hnil : a.segments = []
    · rw [stem_of_nil hnil]
      cases hb : a.bucket with
      | none => exact absurd (eq_iff.mpr ⟨hb, hnil⟩) hne
      | some n =>
        have hkey : a.key = "" := (key_eq_empty_iff ha).mpr hnil
        have htext : a.text = separatorText ++ n ++ separatorText := by
          rw [text, hb, hkey]
          exact String.append_empty
        have hname : Text.IsName separator n.toList := ha.1 n hb
        refine ⟨separatorText ++ n, htext, ?_⟩
        rw [namesIn, String.toList_append, separatorText, String.toList_ofList,
          List.singleton_append, Text.runs_sep_cons, Text.runs_of_isName hname, names, hb, hnil]
        simp
    · exact ⟨a.text, stem_of_ne_nil hnil, namesIn_text ha⟩
  obtain ⟨s, hstem, hnames⟩ := hends
  rw [hstem, ← hnames, namesIn, namesIn, namesIn, String.toList_append, String.toList_append,
    separatorText, String.toList_ofList, List.append_assoc, List.singleton_append,
    Text.runs_append_sep, List.map_append]

theorem isAbsolute_iff_head? (ha : a.WellFormed) :
    a.isAbsolute = true ↔ a.text.toList.head? = some separator :=
  isAbsolute_of_parse? (parse?_text ha)

/-- A text behind a stem begins like the address of the stem. -/
theorem isAbsolute_of_stem {t : String} (ha : a.WellFormed) (hb : b.WellFormed)
    (hne : a ≠ ⟨none, []⟩) (htext : b.text = a.stem ++ t) : b.isAbsolute = a.isAbsolute := by
  have hbegins : ∃ u, b.text = a.text ++ u := by
    by_cases hnil : a.segments = []
    · exact ⟨t, by rw [htext, stem_of_nil hnil]⟩
    · exact ⟨separatorText ++ t, by rw [htext, stem_of_ne_nil hnil, String.append_assoc]⟩
  obtain ⟨u, hu⟩ := hbegins
  have hfull : a.text.toList ≠ [] := fun h => text_ne_empty ha hne (String.toList_eq_nil_iff.mp h)
  have hhead : b.text.toList.head? = a.text.toList.head? := by
    obtain ⟨ch, chs, hcons⟩ := List.exists_cons_of_ne_nil hfull
    rw [hu, String.toList_append, hcons, List.cons_append, List.head?_cons, List.head?_cons]
  rw [Bool.eq_iff_iff, isAbsolute_iff_head? ha, isAbsolute_iff_head? hb, hhead]

/-- Of two addresses with a bucket, or of two without one, the names tell
    bucket and segments. -/
theorem bucket_and_segments_of_names {rest : List String} (habs : b.isAbsolute = a.isAbsolute)
    (hnames : b.names = a.names ++ rest) :
    b.bucket = a.bucket ∧ b.segments = a.segments ++ rest := by
  obtain ⟨bucket, segments⟩ := a
  obtain ⟨bucket', segments'⟩ := b
  cases bucket with
  | none =>
    cases bucket' with
    | none => exact ⟨rfl, hnames⟩
    | some n => exact absurd habs (by simp [isAbsolute])
  | some m =>
    cases bucket' with
    | none => exact absurd habs (by simp [isAbsolute])
    | some n =>
      obtain ⟨rfl, hsegments⟩ := List.cons.inj hnames
      exact ⟨rfl, hsegments⟩

/-- Names that are joined make a text, unless there are none. -/
theorem intercalate_ne_empty {rest : List String} (hwf : WellFormed ⟨none, rest⟩)
    (hrest : rest ≠ []) : separatorText.intercalate rest ≠ "" := by
  intro hempty
  exact hrest ((key_eq_empty_iff hwf).mp hempty)

/-- **Stems.** One address lies below another one exactly if its text goes on
    from the stem of the other. -/
theorem isBelow_iff_stem (ha : a.WellFormed) (hb : b.WellFormed) (hne : a ≠ ⟨none, []⟩) :
    IsBelow a b ↔ ∃ t, t ≠ "" ∧ b.text = a.stem ++ t := by
  constructor
  · rintro ⟨rest, hrest, hbucket, hsegments⟩
    refine ⟨separatorText.intercalate rest, ?_, text_of_append hbucket hsegments hrest⟩
    exact intercalate_ne_empty (wellFormed_of_append hb hsegments) hrest
  · rintro ⟨t, ht, htext⟩
    have hnames : b.names = a.names ++ namesIn t := by
      rw [← namesIn_text hb, htext, namesIn_stem_append ha hne]
    obtain ⟨hbucket, hsegments⟩ :=
      bucket_and_segments_of_names (isAbsolute_of_stem ha hb hne htext) hnames
    refine ⟨namesIn t, fun hnil => ?_, hbucket, hsegments⟩
    -- without further names both would have one text, but one is longer
    rw [hnil, List.append_nil] at hsegments
    have hsame : a.text = a.stem ++ t := by
      rw [← htext, eq_iff.mpr ⟨hbucket, hsegments⟩]
    have hlength := congrArg String.length hsame
    have hpos : 0 < t.length := by
      rw [Nat.pos_iff_ne_zero]
      exact fun h => ht (String.length_eq_zero_iff.mp h)
    by_cases hroot : a.segments = []
    · rw [stem_of_nil hroot, String.length_append] at hlength
      omega
    · rw [stem_of_ne_nil hroot, String.length_append, String.length_append] at hlength
      omega

/-! ## Section 4: Intervals -/

theorem text_le_of_lessEq (h : a.lessEq b = true) : a.text ≤ b.text := by
  rcases lessEq_iff.mp h with hless | rfl
  · exact less_eq_false_iff.mp (less_asymm hless)
  · exact String.le_refl _

/-- What stands between two addresses below a third one lies below it, too. -/
theorem isBelow_of_between {x : Address} (ha : a.WellFormed) (hb : b.WellFormed)
    (hc : c.WellFormed) (hx : x.WellFormed) (hne : a ≠ ⟨none, []⟩) (hab : IsBelow a b)
    (hac : IsBelow a c) (hbx : b.lessEq x = true) (hxc : x.lessEq c = true) : IsBelow a x := by
  obtain ⟨k, hk, hbtext⟩ := (isBelow_iff_stem ha hb hne).mp hab
  obtain ⟨k', -, hctext⟩ := (isBelow_iff_stem ha hc hne).mp hac
  have hlow : a.stem ++ k ≤ x.text := hbtext ▸ text_le_of_lessEq hbx
  have hhigh : x.text ≤ a.stem ++ k' := hctext ▸ text_le_of_lessEq hxc
  obtain ⟨t, htext, hkt, -⟩ := Text.exists_append_of_between hlow hhigh
  refine (isBelow_iff_stem ha hx hne).mpr ⟨t, ?_, htext⟩
  -- nothing but the empty text stands before the empty text
  rintro rfl
  exact hk (String.le_antisymm hkt (String.not_lt.mp (List.not_lt_nil k.toList)))

/-! ## Section 5: The order below an address -/

/-- The address `b` has the segments `rest` behind those of `a`. -/
structure Extends (a : Address) (rest : List String) (b : Address) : Prop where
  bucket : b.bucket = a.bucket
  segments : b.segments = a.segments ++ rest

section Extended

variable {rest rest' : List String}

theorem extends_relative (rest : List String) : Extends ⟨none, []⟩ rest ⟨none, rest⟩ :=
  ⟨rfl, rfl⟩

theorem Extends.eq_of_nil (h : Extends a [] b) : b = a := by
  rw [eq_iff, h.bucket, h.segments, List.append_nil]
  exact ⟨rfl, rfl⟩

/-- An address precedes those that have further segments. -/
theorem Extends.less (h : Extends a rest b) (hrest : rest ≠ []) (hwf : WellFormed ⟨none, rest⟩) :
    a.less b = true := by
  have htext := text_of_append h.bucket h.segments hrest
  have hkey := intercalate_ne_empty hwf hrest
  -- with the separator of the stem or without it, something is added
  have hlonger : ∃ u, u ≠ "" ∧ b.text = a.text ++ u := by
    by_cases hnil : a.segments = []
    · rw [stem_of_nil hnil] at htext
      exact ⟨_, hkey, htext⟩
    · rw [stem_of_ne_nil hnil, String.append_assoc] at htext
      refine ⟨_, ?_, htext⟩
      intro hempty
      exact hkey (String.append_eq_empty_iff.mp hempty).2
  obtain ⟨u, hu, hb⟩ := hlonger
  have hpositive : "" < u := by
    apply String.not_le.mp
    intro hle
    exact hu (String.le_antisymm hle (String.not_lt.mp (List.not_lt_nil u.toList)))
  have hlt : a.text ++ "" < a.text ++ u := (Text.append_lt_append_iff a.text "" u).mpr hpositive
  rw [String.append_empty] at hlt
  rw [less_iff, hb]
  exact hlt

/-- Of two addresses that extend a third one, the segments behind decide which
    comes first, whatever the third one is. -/
theorem Extends.less_eq (h : Extends a rest b) (h' : Extends a rest' c)
    (hwf : WellFormed ⟨none, rest⟩) (hwf' : WellFormed ⟨none, rest'⟩) :
    b.less c = Address.less ⟨none, rest⟩ ⟨none, rest'⟩ := by
  by_cases hrest : rest = []
  · subst hrest
    rw [h.eq_of_nil]
    by_cases hrest' : rest' = []
    · subst hrest'
      rw [h'.eq_of_nil, less_irrefl, less_irrefl]
    · -- the address itself comes before those with further segments
      rw [h'.less hrest' hwf', (extends_relative rest').less hrest' hwf']
  · by_cases hrest' : rest' = []
    · subst hrest'
      have hless := h.less hrest hwf
      have hless' := (extends_relative rest).less hrest hwf
      rw [h'.eq_of_nil, less_asymm hless, less_asymm hless']
    · -- both texts go on from the stem
      rw [Bool.eq_iff_iff, less_iff, less_iff, text_of_append h.bucket h.segments hrest,
        text_of_append h'.bucket h'.segments hrest', Text.append_lt_append_iff]
      exact Iff.rfl

theorem Extends.compare_eq (h : Extends a rest b) (h' : Extends a rest' c)
    (hwf : WellFormed ⟨none, rest⟩) (hwf' : WellFormed ⟨none, rest'⟩) :
    b.compare c = Address.compare ⟨none, rest⟩ ⟨none, rest'⟩ := by
  apply compare_congr
  · exact h.less_eq h' hwf hwf'
  · exact h'.less_eq h hwf' hwf

end Extended

end Address

end Keyspace
