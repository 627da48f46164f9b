import Keyspace.Proofs.Address.Text

/-! # Spellings of an address

    An address can be written in many ways. Its names come one after the other,
    with at least one separator between any two of them; there may be more, and
    any number behind the last name. In front of the names there is at least
    one separator if the address has a bucket, and none otherwise. An address
    without names has no place for separators, so it is written as the empty
    text alone.

    All of these texts denote the address, and no other text does
    (`parse?_eq_some_iff_spelling`). The proof reads a spelling as names, since
    separators only part them (`Spells.namesIn_eq`), and takes any text apart
    at its separators to find out what it spells (`spells_of_text`).
-/

namespace Keyspace.Address

/-- That many separators. -/
def separators (count : Nat) : String := String.ofList (List.replicate count separator)

/-- The text has these names, in this order. There is one separator or more
    between any two of them, and any number of separators behind the last. -/
inductive Spells : List String → String → Prop where
  | last (name : String) (count : Nat) : Spells [name] (name ++ separators count)
  | cons (name : String) (count : Nat) {next text : String} {rest : List String} :
    Spells (next :: rest) text →
      Spells (name :: next :: rest) (name ++ separators (count + 1) ++ text)

/-- The text is a spelling of the address. -/
inductive Spelling : Address → String → Prop where
  /-- No names, and no separators either. -/
  | empty : Spelling ⟨none, []⟩ ""
  | relative {segments : List String} {text : String} :
    Spells segments text → Spelling ⟨none, segments⟩ text
  | absolute {bucket text : String} {segments : List String} (count : Nat) :
    Spells (bucket :: segments) text →
      Spelling ⟨some bucket, segments⟩ (separators (count + 1) ++ text)

variable {s t text name : String} {names : List String} {a : Address}

/-! ## Section 1: Separators in a text -/

theorem toList_separators (count : Nat) :
    (separators count).toList = List.replicate count separator := by
  rw [separators, String.toList_ofList]

theorem separators_zero : separators 0 = "" := rfl

theorem separators_succ (count : Nat) :
    separators (count + 1) = separatorText ++ separators count := by
  rw [separators, List.replicate_succ, separatorText, separators, ← String.ofList_append,
    List.singleton_append]

theorem namesIn_separators_append (count : Nat) (t : String) :
    namesIn (separators count ++ t) = namesIn t := by
  rw [namesIn, String.toList_append, toList_separators]
  induction count with
  | zero => rfl
  | succ count ih => rw [List.replicate_succ, List.cons_append, Text.runs_sep_cons, ih]

/-- Separators part the names before them from those behind them. -/
theorem namesIn_append_separators (s : String) (count : Nat) (t : String) :
    namesIn (s ++ separators (count + 1) ++ t) = namesIn s ++ namesIn t := by
  have hlist : (s ++ separators (count + 1) ++ t).toList =
      s.toList ++ separator :: (separators count ++ t).toList := by
    simp only [String.toList_append, toList_separators, List.replicate_succ, List.append_assoc,
      List.cons_append]
  have hrest := namesIn_separators_append count t
  rw [namesIn] at hrest
  rw [namesIn, hlist, Text.runs_append_sep, List.map_append, hrest]
  rfl

theorem namesIn_trailing (s : String) (count : Nat) :
    namesIn (s ++ separators count) = namesIn s := by
  cases count with
  | zero => rw [separators_zero, String.append_empty]
  | succ count =>
    have happend := namesIn_append_separators s count ""
    rw [String.append_empty] at happend
    rw [happend]
    exact List.append_nil _

theorem isName_ofList {cs : List Char} (hne : cs ≠ []) (hfree : separator ∉ cs) :
    IsName (String.ofList cs) := by
  rw [IsName, String.toList_ofList]
  exact ⟨hne, hfree⟩

/-- A name is the one name in it. -/
theorem namesIn_of_isName (h : IsName name) : namesIn name = [name] := by
  rw [namesIn, Text.runs_of_isName h, List.map_singleton, String.ofList_toList]

/-- A text that begins with separators does so. -/
theorem head?_separators_append (count : Nat) (t : String) :
    (separators (count + 1) ++ t).toList.head? = some separator := by
  rw [String.toList_append, toList_separators, List.replicate_succ, List.cons_append,
    List.head?_cons]

/-- A text that begins with a name does not begin with a separator. -/
theorem head?_append_ne (h : IsName s) (t : String) :
    (s ++ t).toList.head? ≠ some separator := by
  obtain ⟨c, cs, hcons⟩ := List.exists_cons_of_ne_nil h.1
  have hc : c ∈ s.toList := by
    rw [hcons]
    exact List.mem_cons_self
  rw [String.toList_append, hcons, List.cons_append, List.head?_cons]
  intro hhead
  obtain rfl := Option.some.inj hhead
  exact h.2 hc

/-! ## Section 2: Spellings are read as the address -/

/-- The names that a text spells are the names in it. -/
theorem Spells.namesIn_eq (h : Spells names text) (hnames : ∀ n ∈ names, IsName n) :
    namesIn text = names := by
  induction h with
  | last name count =>
    have hname : IsName name := hnames name List.mem_cons_self
    rw [namesIn_trailing, namesIn_of_isName hname]
  | cons name count _ ih =>
    obtain ⟨hname, hrest⟩ := List.forall_mem_cons.mp hnames
    rw [namesIn_append_separators, namesIn_of_isName hname, ih hrest, List.singleton_append]

/-- What spells names does not begin with a separator. -/
theorem Spells.head?_ne (h : Spells names text) (hnames : ∀ n ∈ names, IsName n) :
    text.toList.head? ≠ some separator := by
  cases h with
  | last name count => exact head?_append_ne (hnames name List.mem_cons_self) _
  | cons name count _ =>
    rw [String.append_assoc]
    exact head?_append_ne (hnames name List.mem_cons_self) _

/-- A spelling denotes its address. -/
theorem Spelling.parse?_eq (h : a.Spelling text) (ha : a.WellFormed) :
    parse? text = some a := by
  cases h with
  | empty => rfl
  | relative hspells =>
    have hsegments : ∀ s ∈ _, IsName s := ha.2
    rw [parse?, if_neg (hspells.head?_ne hsegments), hspells.namesIn_eq hsegments]
  | absolute count hspells =>
    have hall : ∀ n ∈ _ :: _, IsName n := List.forall_mem_cons.mpr ⟨ha.1 _ rfl, ha.2⟩
    rw [parse?, if_pos (head?_separators_append count _), namesIn_separators_append,
      hspells.namesIn_eq hall]

/-! ## Section 3: There are no other spellings -/

theorem Spells.append_left (h : Spells names text) (name : String) (count : Nat) :
    Spells (name :: names) (name ++ separators (count + 1) ++ text) := by
  cases h with
  | last next _ => exact .cons name count (.last next _)
  | cons next _ hrest => exact .cons name count (.cons next _ hrest)

/-- A text consists of separators and, behind them, of nothing or of what
    spells the names in it. -/
theorem spells_of_text (s : String) :
    ∃ count t, s = separators count ++ t ∧ (t = "" ∨ Spells (namesIn t) t) := by
  obtain ⟨cs, rfl⟩ : ∃ cs, s = String.ofList cs := ⟨s.toList, String.ofList_toList.symm⟩
  -- the text is taken apart at its first separator
  induction cs using Text.separated_induction separator with
  | free cs h =>
    refine ⟨0, String.ofList cs, String.empty_append.symm, ?_⟩
    by_cases hnil : cs = []
    · left
      rw [hnil, String.ofList_nil]
    · right
      have hlast := Spells.last (String.ofList cs) 0
      rw [separators_zero, String.append_empty] at hlast
      rwa [namesIn_of_isName (isName_ofList hnil h)]
  | parted cs ds h ih =>
    obtain ⟨count, t, hds, ht⟩ := ih
    -- the separator in between joins those that the second part begins with
    have hwhole : String.ofList (cs ++ separator :: ds) =
        String.ofList cs ++ separators (count + 1) ++ t := by
      rw [String.append_assoc, separators_succ, String.append_assoc, ← hds, separatorText,
        ← String.ofList_append, ← String.ofList_append]
      rfl
    rw [hwhole]
    by_cases hnil : cs = []
    · refine ⟨count + 1, t, ?_, ht⟩
      rw [hnil, String.ofList_nil, String.empty_append]
    · refine ⟨0, _, String.empty_append.symm, .inr ?_⟩
      rw [namesIn_append_separators, namesIn_of_isName (isName_ofList hnil h),
        List.singleton_append]
      rcases ht with rfl | hspells
      · rw [String.append_empty]
        exact .last _ (count + 1)
      · exact hspells.append_left _ count

/-- **Parsing accepts spellings only.** A text denotes an address exactly if it
    is a spelling of it, and the address is well-formed. -/
theorem parse?_eq_some_iff_spelling {s : String} :
    parse? s = some a ↔ a.WellFormed ∧ a.Spelling s := by
  constructor
  · intro hparse
    refine ⟨wellFormed_of_parse? hparse, ?_⟩
    obtain ⟨count, t, rfl, ht⟩ := spells_of_text s
    have hnames : ∀ n ∈ namesIn t, IsName n := fun n hn => isName_of_mem_namesIn hn
    cases count with
    | zero =>
      rw [separators_zero, String.empty_append] at hparse ⊢
      rcases ht with rfl | hspells
      · obtain rfl := Option.some.inj hparse
        exact .empty
      · rw [parse?, if_neg (hspells.head?_ne hnames)] at hparse
        obtain rfl := Option.some.inj hparse
        exact .relative hspells
    | succ count =>
      -- the first name is the bucket, so there has to be one
      rw [parse?, if_pos (head?_separators_append count t), namesIn_separators_append] at hparse
      cases hall : namesIn t with
      | nil =>
        rw [hall] at hparse
        cases hparse
      | cons bucket segments =>
        rw [hall] at hparse
        obtain rfl := Option.some.inj hparse
        rcases ht with rfl | hspells
        · cases hall
        · rw [hall] at hspells
          exact .absolute count hspells
  · rintro ⟨ha, hspelling⟩
    exact hspelling.parse?_eq ha

end Keyspace.Address
