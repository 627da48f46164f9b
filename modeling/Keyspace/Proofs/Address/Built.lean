import Mathlib.Logic.Relation
import Keyspace.FileSystem.Operand
import Keyspace.Proofs.Address.Text

/-! # Addresses of explicit names

    An address can be built of a bucket and segments that are given one by one.
    Separators in them are erased, and segments that are empty then are left
    out. So building changes nothing about names (`ofNames?_of_wellFormed`), and
    it does not notice separators: they may be put into the bucket and the
    segments at any place, taken out again, and further segments may consist of
    them (`ofNames?_of_insertions`).

    Only a bucket of which nothing is left is refused (`ofNames?_eq_none_iff`).
-/

namespace Keyspace.Address

variable {bucket : Option String} {names names' : List String} {s name : String} {a : Address}

/-! ## Section 1: Erasing separators -/

theorem toList_stripped (s : String) : (stripped s).toList = Text.without separator s.toList := by
  rw [stripped, String.toList_ofList]

/-- Nothing is left of a text if it has no characters but separators. -/
theorem stripped_eq_empty_iff : stripped s = "" ↔ ∀ c ∈ s.toList, c = separator := by
  rw [← String.toList_eq_nil_iff, toList_stripped, Text.without, List.filter_eq_nil_iff]
  simp only [bne_iff_ne, ne_eq, Classical.not_not]

/-- In a name there is nothing to erase. -/
theorem stripped_of_isName (h : IsName name) : stripped name = name := by
  rw [← String.toList_inj, toList_stripped, Text.without, List.filter_eq_self]
  intro c hc
  rw [bne_iff_ne]
  rintro rfl
  exact h.2 hc

/-- A separator that was put in is erased. -/
theorem stripped_insert (u v : String) : stripped (u ++ "/" ++ v) = stripped (u ++ v) := by
  have herased : Text.without separator "/".toList = [] := by decide +kernel
  rw [← String.toList_inj, toList_stripped, toList_stripped]
  simp only [Text.without, String.toList_append, List.filter_append] at herased ⊢
  rw [herased, List.append_nil]

/-! ## Section 2: Segments -/

theorem segmentsOf_append (names names' : List String) :
    segmentsOf (names ++ names') = segmentsOf names ++ segmentsOf names' := by
  rw [segmentsOf, List.map_append, List.filter_append]
  rfl

theorem segmentsOf_cons (name : String) (names : List String) :
    segmentsOf (name :: names) = segmentsOf [name] ++ segmentsOf names :=
  segmentsOf_append [name] names

/-- Each text makes one segment of what is left of it, if anything is. -/
theorem segmentsOf_singleton (name : String) :
    segmentsOf [name] = if stripped name = "" then [] else [stripped name] := by
  by_cases h : stripped name = "" <;> simp [segmentsOf, h]

/-- Names are segments as they are. -/
theorem segmentsOf_of_isName (h : ∀ n ∈ names, IsName n) : segmentsOf names = names := by
  induction names with
  | nil => rfl
  | cons name names ih =>
    obtain ⟨hname, hnames⟩ := List.forall_mem_cons.mp h
    have hstripped : stripped name = name := stripped_of_isName hname
    have hne : name ≠ "" := (isName_iff.mp hname).1
    rw [segmentsOf_cons, segmentsOf_singleton, hstripped, if_neg hne, ih hnames,
      List.singleton_append]

/-! ## Section 3: Building -/

/-- A well-formed address is what its bucket and its segments make. -/
theorem ofNames?_of_wellFormed (h : a.WellFormed) : ofNames? a.bucket a.segments = some a := by
  obtain ⟨bucket, segments⟩ := a
  have hsegments : segmentsOf segments = segments := segmentsOf_of_isName h.2
  cases bucket with
  | none => rw [ofNames?, hsegments]
  | some b =>
    have hname : IsName b := h.1 b rfl
    have hne : b ≠ "" := (isName_iff.mp hname).1
    rw [ofNames?, stripped_of_isName hname, if_neg hne, hsegments]

/-- The bucket is a text without characters but separators. -/
def NamesNothing (bucket : Option String) : Prop := ∃ b, bucket = some b ∧ ∀ c ∈ b.toList, c = '/'

theorem ofNames?_eq_none_iff : ofNames? bucket names = none ↔ NamesNothing bucket := by
  cases bucket with
  | none =>
    constructor
    · intro hnone
      cases hnone
    · rintro ⟨b, hb, -⟩
      cases hb
  | some b =>
    have hiff : ofNames? (some b) names = none ↔ stripped b = "" := by
      rw [ofNames?]
      by_cases hempty : stripped b = "" <;> simp [hempty]
    rw [hiff, stripped_eq_empty_iff]
    constructor
    · intro hall
      exact ⟨b, rfl, hall⟩
    · rintro ⟨_, ⟨rfl⟩, hall⟩
      exact hall

/-! ## Section 4: Separators that are put in -/

/-- A separator is put into the bucket or into a segment, or a segment of
    separators alone is put between the others. -/
inductive Insertion : Option String × List String → Option String × List String → Prop where
  | bucket (u v : String) (names : List String) :
    Insertion (some (u ++ v), names) (some (u ++ "/" ++ v), names)
  | segment (bucket : Option String) (before after : List String) (u v : String) :
    Insertion (bucket, before ++ (u ++ v) :: after) (bucket, before ++ (u ++ "/" ++ v) :: after)
  | further (bucket : Option String) (before after : List String) {s : String} :
    (∀ c ∈ s.toList, c = '/') → Insertion (bucket, before ++ after) (bucket, before ++ s :: after)

variable {x y : Option String × List String}

theorem ofNames?_of_segmentsOf (h : segmentsOf names = segmentsOf names') :
    ofNames? bucket names = ofNames? bucket names' := by
  unfold ofNames?
  rw [h]

/-- One insertion makes no difference. -/
theorem Insertion.ofNames?_eq (h : Insertion x y) : ofNames? x.1 x.2 = ofNames? y.1 y.2 := by
  cases h with
  | bucket u v names =>
    show ofNames? (some (u ++ v)) names = ofNames? (some (u ++ "/" ++ v)) names
    rw [ofNames?, ofNames?, stripped_insert]
  | segment bucket before after u v =>
    apply ofNames?_of_segmentsOf
    rw [segmentsOf_append, segmentsOf_append, segmentsOf_cons (u ++ v),
      segmentsOf_cons (u ++ "/" ++ v), segmentsOf_singleton, segmentsOf_singleton, stripped_insert]
  | further bucket before after hall =>
    apply ofNames?_of_segmentsOf
    rw [segmentsOf_append, segmentsOf_append, segmentsOf_cons _ after, segmentsOf_singleton,
      if_pos (stripped_eq_empty_iff.mpr hall), List.nil_append]

/-- However many separators are put in or taken out, and in whatever order, the
    same address is built. -/
theorem ofNames?_of_insertions (h : Relation.EqvGen Insertion x y) :
    ofNames? x.1 x.2 = ofNames? y.1 y.2 := by
  induction h with
  | rel x y hinsertion => exact hinsertion.ofNames?_eq
  | refl x => rfl
  | symm x y _ ih => exact ih.symm
  | trans x y z _ _ hxy hyz => exact hxy.trans hyz

/-! ## Section 5: Texts as values -/

theorem bucketOf_ofText? (bucket : Option String) : bucketOf (.ofText? bucket) = .ok bucket := by
  cases bucket <;> rfl

theorem namesOf_texts (names : List String) : namesOf (names.map .text) = .ok names := by
  induction names with
  | nil => rfl
  | cons name names ih =>
    rw [List.map_cons, namesOf, ih]
    rfl

/-- Of texts an address is built, or they are refused because of the bucket. -/
theorem ofNamesAny_texts (bucket : Option String) (names : List String) :
    ofNamesAny (.ofText? bucket) (names.map .text) =
      match ofNames? bucket names with
      | some a => .ok a
      | none => .error (.failure .bucketEmpty) := by
  have hempty : ofNames? bucket [] = none ↔ ofNames? bucket names = none := by
    rw [ofNames?_eq_none_iff, ofNames?_eq_none_iff]
  rw [ofNamesAny, bucketOf_ofText?, namesOf_texts]
  simp only [misused, Except.bind, Option.isNone_iff_eq_none, hempty]
  cases ofNames? bucket names with
  | none => rfl
  | some a => rfl

end Keyspace.Address
