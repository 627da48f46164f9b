import Keyspace.FileSystem.Basic
import Keyspace.Location
import Keyspace.PathError.Basic
import Keyspace.Number.Exact

/-! # Values

    Whatever an operation may be given: plain data, and the library's own
    paths, file systems, configurations, locations and errors. A dictionary
    keeps the order in which its keys came. It can be changed in place by
    those who share it, so a shared dictionary carries a label.

    A change can put a dictionary into itself. Values are finite all the same:
    where a dictionary would occur within itself, only its label does. What
    lies between is then within itself, too, and its text tells so; for that,
    lists, configurations and locations carry labels as well. An error is equal
    only to itself and carries a label for that; so does a floating-point
    number, because an undefined one equals no other but is the same as itself.
-/

namespace Keyspace

/-- A value of any kind. -/
inductive Value where
  | null
  | bool (b : Bool)
  | int (i : Int)
  | float (label : Nat) (x : Binary64)
  | text (s : String)
  | list (label : Option Nat) (items : List Value)
  /-- Two bounds. -/
  | pair (first second : Value)
  /-- Entries in the order of their keys' arrival; no label if nobody shares
      the dictionary. -/
  | dict (label : Option Nat) (entries : List (String × Value))
  /-- The dictionary around this place that has the label. -/
  | enclosing (label : Nat)
  | path (p : Path (Host Value))
  | fileSystem (f : FileSystem Value)
  | config (c : Config Value)
  | location (label : Option Nat) (l : Location Value)
  | error (label : Nat) (e : PathError Value)

/-- A file system with a configuration of values. -/
abbrev Store : Type := FileSystem Value

/-- A path that belongs to a host of values. -/
abbrev StorePath : Type := Path (Host Value)

namespace Value

/-! ## Section 1: Types and truth -/

/-- The name of a value's type. -/
def typeName : Value → String
  | null => "NoneType"
  | bool _ => "bool"
  | int _ => "int"
  | float _ _ => "float"
  | text _ => "str"
  | list _ _ => "list"
  | pair _ _ => "tuple"
  | dict _ _ | enclosing _ => "dict"
  | path _ => "S3Path"
  | fileSystem _ => "S3FileSystem"
  | config _ => "FileSystemConfig"
  | location _ _ => "ObjectLocation"
  | error _ e => e.kind.name

/-- The number that a value denotes, truth values being 0 and 1. -/
def number? : Value → Option Extended
  | bool b => some (.finite (if b then 1 else 0))
  | int i => some (.finite i)
  | float _ x => some x.exact
  | _ => none

/-- The integer that a value stands for as an index. -/
def integer? : Value → Option Int
  | bool b => some (if b then 1 else 0)
  | int i => some i
  | _ => none

/-- Whether a value counts as true: all but null, false, zero and what is
    empty. -/
def truthy : Value → Bool
  | null => false
  | bool b => b
  | int i => i != 0
  | float _ x => x.exact != .finite 0
  | text s => s != ""
  | list _ items => !items.isEmpty
  | dict _ entries => !entries.isEmpty
  | _ => true

/-- An optional text as a value. -/
def ofText? : Option String → Value
  | none => null
  | some s => text s

/-- The empty dictionary that nobody shares. -/
def emptyDict : Value := dict none []

/-- A host as a value. -/
def ofHost : Host Value → Value
  | .config c => config c
  | .fileSystem f => fileSystem f

/-- The host that a value is. -/
def host? : Value → Option (Host Value)
  | config c => some (.config c)
  | fileSystem f => some (.fileSystem f)
  | _ => none

end Value

/-- The configuration that is used where none is given. -/
def Config.default : Config Value := { endpoint := .text "", options := .emptyDict }

/-! ## Section 2: Dictionaries -/

namespace Entries

/-- The value at a key. -/
def get? : List (String × Value) → String → Option Value
  | [], _ => none
  | (k, v) :: rest, key => if k = key then some v else get? rest key

/-- The entries with a value at a key. A key that is there keeps its place,
    a new one comes last. -/
def insert : List (String × Value) → String → Value → List (String × Value)
  | [], key, v => [(key, v)]
  | (k, w) :: rest, key, v =>
    if k = key then (k, v) :: rest else (k, w) :: insert rest key v

/-- Only the key that is set changes. -/
theorem get?_insert (entries : List (String × Value)) (key j : String) (v : Value) :
    get? (insert entries key v) j = if key = j then some v else get? entries j := by
  induction entries with
  | nil => simp [get?, insert]
  | cons e rest ih =>
    obtain ⟨k, w⟩ := e
    by_cases hk : k = key
    · -- the key is there: its value is replaced
      subst hk
      by_cases h : k = j <;> simp [insert, get?, h]
    · by_cases h : k = j
      · subst h
        simp [insert, get?, hk, Ne.symm hk]
      · simp [insert, get?, hk, h, ih]

/-- The entries of a sequence of keys and values, the last value of a key
    counting. -/
def ofList (pairs : List (String × Value)) : List (String × Value) :=
  pairs.foldl (fun entries (k, v) => insert entries k v) []

end Entries

end Keyspace
