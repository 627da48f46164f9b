import Keyspace.Value.Basic

/-! # Shared dictionaries

    What a shared dictionary contains is found by its label. `Value.current`
    brings the shared dictionaries of a value up to date: each is put where its
    label is, unless that place lies within the dictionary itself. In the
    other direction, `Value.dictionaries` collects what a value contains, so
    that parts of it can be taken out and made whole (`Value.entries?`).
-/

namespace Keyspace

/-! ## Section 1: Dictionaries by label -/

/-- Dictionaries with their labels, the latest first. -/
abbrev Dictionaries : Type := List (Option Nat × List (String × Value))

namespace Dictionaries

/-- The entries of the dictionary with a label. -/
def entries (ds : Dictionaries) (label : Nat) : List (String × Value) :=
  ((ds.find? fun d => d.1 == some label).map (·.2)).getD []

/-- The dictionaries after a key of one of them was set. -/
def set (ds : Dictionaries) (label : Nat) (key : String) (v : Value) : Dictionaries :=
  (some label, Entries.insert (ds.entries label) key v) :: ds.filter fun d => d.1 != some label

/-- A key that is set has its value, and all other entries stay. -/
theorem get?_entries_set (ds : Dictionaries) (label : Nat) (key j : String) (v : Value) :
    Entries.get? ((ds.set label key v).entries label) j =
      if key = j then some v else Entries.get? (ds.entries label) j := by
  simp [entries, set, Entries.get?_insert]

end Dictionaries

/-! ## Section 2: Bringing up to date -/

mutual

/-- The value with other values in place of its shared dictionaries. -/
def Value.withShared (f : Nat → Value) : Value → Value
  | .list l items => .list l (itemsWithShared f items)
  | .pair a b => .pair (a.withShared f) (b.withShared f)
  | .dict none entries => .dict none (entriesWithShared f entries)
  | .dict (some l) _ => f l
  | .enclosing l => f l
  | .path ⟨a, .config ⟨e, o, l⟩⟩ =>
    .path ⟨a, .config ⟨e.withShared f, o.withShared f, l⟩⟩
  | .path ⟨a, .fileSystem ⟨⟨e, o, l⟩, n, ls⟩⟩ =>
    .path ⟨a, .fileSystem ⟨⟨e.withShared f, o.withShared f, l⟩, n, ls⟩⟩
  | .fileSystem ⟨⟨e, o, l⟩, n, ls⟩ =>
    .fileSystem ⟨⟨e.withShared f, o.withShared f, l⟩, n, ls⟩
  | .config ⟨e, o, l⟩ => .config ⟨e.withShared f, o.withShared f, l⟩
  | .location l ⟨b, k⟩ => .location l ⟨b.withShared f, k⟩
  | .error l ⟨d, m, p, b⟩ =>
    .error l ⟨detailWithShared f d, m.withShared f, p.withShared f, b.withShared f⟩
  | v => v

/-- The items of a list with other shared dictionaries. -/
def Value.itemsWithShared (f : Nat → Value) : List Value → List Value
  | [] => []
  | v :: rest => v.withShared f :: itemsWithShared f rest

/-- The entries of a dictionary with other shared dictionaries in them. -/
def Value.entriesWithShared (f : Nat → Value) : List (String × Value) → List (String × Value)
  | [] => []
  | (k, v) :: rest => (k, v.withShared f) :: entriesWithShared f rest

/-- The detail of an error with other shared dictionaries. -/
def Value.detailWithShared (f : Nat → Value) : ErrorDetail Value → ErrorDetail Value
  | .indexOutOfRange i => .indexOutOfRange (i.withShared f)
  | .incompatible o r => .incompatible (o.withShared f) (r.withShared f)
  | .unsupported o => .unsupported (o.withShared f)
  | d => d

end

/-- The dictionary with a label in a place that lies within some others. The
    first argument bounds how many dictionaries are put one into the other;
    since each is put into itself nowhere, their number is enough. -/
def Dictionaries.unfold (ds : Dictionaries) : Nat → List Nat → Nat → Value
  | 0, _, l => .enclosing l
  | n + 1, around, l =>
    if around.contains l then .enclosing l
    else .dict (some l) (Value.entriesWithShared (ds.unfold n (l :: around)) (ds.entries l))

/-- The value with its shared dictionaries as they stand. -/
def Value.current (ds : Dictionaries) (v : Value) : Value :=
  v.withShared (ds.unfold (ds.length + 1) [])

/-! ## Section 3: Parts of a value -/

mutual

/-- The dictionaries that a value contains. -/
def Value.dictionaries : Value → Dictionaries
  | .list _ items => itemDictionaries items
  | .pair a b => a.dictionaries ++ b.dictionaries
  | .dict l entries => (l, entries) :: entryDictionaries entries
  | .path ⟨_, .config ⟨e, o, _⟩⟩ => e.dictionaries ++ o.dictionaries
  | .path ⟨_, .fileSystem ⟨⟨e, o, _⟩, _, _⟩⟩ => e.dictionaries ++ o.dictionaries
  | .fileSystem ⟨⟨e, o, _⟩, _, _⟩ => e.dictionaries ++ o.dictionaries
  | .config ⟨e, o, _⟩ => e.dictionaries ++ o.dictionaries
  | .location _ ⟨b, _⟩ => b.dictionaries
  | .error _ ⟨d, m, p, b⟩ =>
    m.dictionaries ++ p.dictionaries ++ b.dictionaries ++ detailDictionaries d
  | _ => []

/-- The dictionaries in the items of a list. -/
def Value.itemDictionaries : List Value → Dictionaries
  | [] => []
  | v :: rest => v.dictionaries ++ itemDictionaries rest

/-- The dictionaries in the entries of a dictionary. -/
def Value.entryDictionaries : List (String × Value) → Dictionaries
  | [] => []
  | (_, v) :: rest => v.dictionaries ++ entryDictionaries rest

/-- The dictionaries in the detail of an error. -/
def Value.detailDictionaries : ErrorDetail Value → Dictionaries
  | .indexOutOfRange i => i.dictionaries
  | .incompatible o r => o.dictionaries ++ r.dictionaries
  | .unsupported o => o.dictionaries
  | _ => []

end

/-- The entries of a dictionary. Taken out of it, each value contains whatever
    it lay within before. -/
def Value.entries? : Value → Option (List (String × Value))
  | .dict l entries =>
    some (entries.map fun (k, v) => (k, v.current (Value.dict l entries).dictionaries))
  | _ => none

/-- Of a dictionary within itself, its entries; any other value as it is. -/
def Value.unfolded (ds : Dictionaries) : Value → Value
  | .enclosing l => .dict (some l) (ds.entries l)
  | v => v

end Keyspace
