import Keyspace.Text.Split
import Keyspace.Text.Percent

/-! # Addresses

    An address names a place in the key namespace of an object store: a
    sequence of segments, inside a bucket (absolute) or not yet inside one
    (relative). Its text is `/bucket/key` or `key`, where the key is the
    segments joined by separators.

    There are two ways to an address. `parse?` cuts a text at its separators,
    and `ofNames?` takes the names apart from each other and erases separators
    inside them. Both produce well-formed addresses only
    (`wellFormed_of_parse?`, `wellFormed_of_ofNames?`).
-/

namespace Keyspace

/-- The character between the names of an address. -/
def separator : Char := '/'

/-- The separator as a text. -/
def separatorText : String := String.ofList [separator]

/-- The scheme of the URIs of addresses and file systems. -/
def scheme : String := "s3"

/-- What precedes the authority in a URI. -/
def uriStart : String := scheme ++ "://"

/-- A bucket, or none for a relative address, and a sequence of segments. -/
structure Address where
  bucket : Option String
  segments : List String
deriving DecidableEq

namespace Address

/-! ## Section 1: Names -/

/-- The names in a text: its maximal stretches without a separator. -/
def namesIn (s : String) : List String :=
  (Text.runs separator s.toList).map String.ofList

/-- A text with its separators erased. -/
def stripped (s : String) : String :=
  String.ofList (Text.without separator s.toList)

/-- A non-empty text without separators. -/
def IsName (s : String) : Prop := Text.IsName separator s.toList

instance (s : String) : Decidable (IsName s) :=
  inferInstanceAs (Decidable (Text.IsName _ _))

/-- An address is well-formed when its bucket and its segments are names. -/
def WellFormed (a : Address) : Prop :=
  (∀ b ∈ a.bucket, IsName b) ∧ ∀ s ∈ a.segments, IsName s

/-! ## Section 2: Views -/

/-- An address is absolute when it has a bucket. -/
def isAbsolute (a : Address) : Bool := a.bucket.isSome

/-- The segments joined by separators; it never ends with one. -/
def key (a : Address) : String := separatorText.intercalate a.segments

/-- The text of an address: `/bucket/key`, or `key` without a bucket. -/
def text (a : Address) : String :=
  match a.bucket with
  | none => a.key
  | some b => separatorText ++ b ++ separatorText ++ a.key

/-- The number of segments. -/
def nameCount (a : Address) : Nat := a.segments.length

/-- The URI of an absolute address. Bucket and key are percent-encoded, the
    separators of the key excepted. -/
def uri? (a : Address) : Option String :=
  a.bucket.map fun b =>
    uriStart ++ Text.Percent.encode [] b ++ separatorText ++
      Text.Percent.encode [separator.toUInt8] a.key

/-! ## Section 3: Making addresses -/

/-- The address a text denotes. A leading separator makes it absolute, and
    then the first name is the bucket; a text of separators alone has no
    bucket to name and denotes nothing. -/
def parse? (s : String) : Option Address :=
  if s.toList.head? = some separator then
    match namesIn s with
    | [] => none
    | b :: rest => some ⟨some b, rest⟩
  else some ⟨none, namesIn s⟩

/-- The segments that explicit names make: separators are erased, and names
    that are empty then are left out. -/
def segmentsOf (names : List String) : List String :=
  (names.map stripped).filter fun s => s ≠ ""

/-- The address of an explicit bucket and explicit segments. Separators in
    them are erased, not cut at. A bucket of separators alone names nothing. -/
def ofNames? (bucket : Option String) (names : List String) : Option Address :=
  match bucket with
  | none => some ⟨none, segmentsOf names⟩
  | some b => if stripped b = "" then none else some ⟨some (stripped b), segmentsOf names⟩

example : parse? "/b//x/" = some ⟨some "b", ["x"]⟩ := by decide +kernel
example : parse? "x//y" = some ⟨none, ["x", "y"]⟩ := by decide +kernel
example : parse? "//" = none := by decide +kernel
example : ofNames? (some "b/") ["x/y", "/"] = some ⟨some "b", ["xy"]⟩ := by decide +kernel

/-! ## Section 4: Order -/

/-- Addresses are ordered by their texts, character by character. -/
def less (a b : Address) : Bool := a.text < b.text

/-- Less or equal. -/
def lessEq (a b : Address) : Bool := a.less b || a == b

/-- Neither less nor equal. -/
def greater (a b : Address) : Bool := !a.less b && a != b

/-- Not less. -/
def greaterEq (a b : Address) : Bool := !a.less b

/-- The three-way comparison of the texts. -/
def compare (a b : Address) : Ordering :=
  if b.text < a.text then .gt else if a.text < b.text then .lt else .eq

/-! ## Section 5: Well-formedness of what is made -/

theorem isName_of_mem_namesIn {s n : String} (h : n ∈ namesIn s) : IsName n := by
  obtain ⟨r, hr, rfl⟩ := List.mem_map.mp h
  simpa [IsName] using Text.isName_of_mem_runs hr

theorem isName_stripped {s : String} (h : stripped s ≠ "") : IsName (stripped s) := by
  refine ⟨?_, ?_⟩
  · intro h'
    exact h (String.toList_inj.mp (by simpa using h'))
  · simp [stripped, Text.without]

theorem isName_of_mem_segmentsOf {names : List String} {s : String}
    (h : s ∈ segmentsOf names) : IsName s := by
  simp only [segmentsOf, List.mem_filter, List.mem_map, decide_eq_true_eq] at h
  obtain ⟨⟨n, _, rfl⟩, hne⟩ := h
  exact isName_stripped hne

/-- Parsing produces well-formed addresses. -/
theorem wellFormed_of_parse? {s : String} {a : Address} (h : parse? s = some a) :
    a.WellFormed := by
  unfold parse? at h
  have names {n : String} : n ∈ namesIn s → IsName n := isName_of_mem_namesIn
  split at h
  · split at h
    · simp at h
    · next b rest hn =>
      obtain rfl := Option.some.inj h
      rw [hn] at names
      refine ⟨?_, fun n hmem => names (List.mem_cons_of_mem _ hmem)⟩
      rintro n ⟨rfl⟩
      exact names List.mem_cons_self
  · obtain rfl := Option.some.inj h
    exact ⟨by simp, fun n hmem => names hmem⟩

/-- Explicit names produce well-formed addresses. -/
theorem wellFormed_of_ofNames? {bucket : Option String} {names : List String} {a : Address}
    (h : ofNames? bucket names = some a) : a.WellFormed := by
  unfold ofNames? at h
  split at h
  · obtain rfl := Option.some.inj h
    exact ⟨by simp, fun n hmem => isName_of_mem_segmentsOf hmem⟩
  · split at h
    · simp at h
    · next b hb =>
      obtain rfl := Option.some.inj h
      refine ⟨?_, fun n hmem => isName_of_mem_segmentsOf hmem⟩
      rintro n ⟨rfl⟩
      exact isName_stripped hb

end Address

end Keyspace
