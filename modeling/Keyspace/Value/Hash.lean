import Keyspace.Value.Basic
import Keyspace.Misuse

/-! # Hashes of values

    Only whether two hashes are equal can be observed, so a hash is a key that
    stands for it. Equal numbers have equal keys; the empty text shares the
    key of zero. A pair is hashed as the sequence of its two values, a
    configuration and a location as the sequence of their two fields, a path
    as its bucket followed by the sequence of its segments, and a file system
    as the endpoint of the configuration it is made from. Sequences of equal
    keys have equal keys, whatever they were made from. Lists, dictionaries
    and file systems made from others have no hash.
-/

namespace Keyspace

/-! ## Section 1: Mixing numbers -/

namespace Mixing

/-- The state before the first number. -/
def seed : UInt64 := 2870177450012600261

/-- The state after one more number, which enters modulo `2^64`. -/
def absorb (state : UInt64) (number : Int) : UInt64 :=
  let sum := state + (Int64.ofInt number).toUInt64 * 14029467366897019727
  (sum <<< 31 ||| sum >>> 33) * 11400714785074694791

/-- One number for a sequence of them: they are absorbed in turn, then their
    count is added. The result -1 is not used; a fixed number stands for it. -/
def mix (numbers : List Int) : Int :=
  let count := UInt64.ofNat numbers.length ^^^ (seed ^^^ 3527539)
  let mixed := (numbers.foldl absorb seed + count).toInt64.toInt
  if mixed = -1 then 1546275796 else mixed

end Mixing

/-! ## Section 2: Keys -/

/-- What a hash depends on. The hash of a text, of null or of an identity is
    unknown, and so is that of a sequence with such an item: it is a chain of
    its items, of which `empty` is the end. -/
inductive HashKey where
  | null
  | number (residue : Int)
  | text (s : String)
  | empty
  | chain (first rest : HashKey)
  | identity (label : Nat)
deriving DecidableEq

namespace HashKey

/-- The number that a key is known to be. -/
def number? : HashKey → Option Int
  | number r => some r
  | _ => none

/-- The key of a sequence: a number if all its items are known. -/
def sequence (items : List HashKey) : HashKey :=
  match items.mapM number? with
  | some numbers => number (Mixing.mix numbers)
  | none => items.foldr chain empty

/-- The key of a text. -/
def ofText (s : String) : HashKey := if s = "" then number 0 else text s

/-- The key of a floating-point number; an undefined one has its own. -/
def ofFloat (label : Nat) (x : Binary64) : HashKey :=
  match x.exact.residue? with
  | none => identity label
  | some r => number r

/-- The key of an address. -/
def ofAddress (a : Address) : HashKey :=
  sequence [a.bucket.elim null ofText, sequence (a.segments.map ofText)]

end HashKey

/-! ## Section 3: Values -/

/-- The key of a value's hash. Of a pair, the first value without a hash
    counts. -/
def Value.hashKey : Value → Except Misuse HashKey
  | .null => .ok .null
  | .text s => .ok (.ofText s)
  | .list l items => .error (.unhashable (Value.list l items).typeName)
  | .dict l entries => .error (.unhashable (Value.dict l entries).typeName)
  | .enclosing l => .error (.unhashable (Value.enclosing l).typeName)
  | .pair a b => a.hashKey.bind fun h => b.hashKey.map fun k => .sequence [h, k]
  | .path ⟨a, _⟩ => .ok (.ofAddress a)
  | .fileSystem ⟨⟨e, _, _⟩, _, []⟩ => e.hashKey
  | .fileSystem ⟨c, _, l :: ls⟩ =>
    .error (.noAttribute (Value.fileSystem ⟨c, l, ls⟩).typeName "endpoint")
  | .config ⟨e, o, _⟩ => e.hashKey.bind fun h => o.hashKey.map fun k => .sequence [h, k]
  | .location _ ⟨b, k⟩ => b.hashKey.map fun h => .sequence [h, .ofText k]
  | .error label _ => .ok (.identity label)
  | .bool b => .ok (.number (Extended.rationalResidue (if b then 1 else 0)))
  | .int i => .ok (.number (Extended.rationalResidue i))
  | .float label x => .ok (.ofFloat label x)

end Keyspace
