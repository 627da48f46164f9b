import Keyspace.Address.Operand

/-! # Paths of a file system from any values

    A file system hands out paths in two ways: it joins texts with separators
    and parses the result, or it takes a bucket and segments apart from each
    other.
-/

namespace Keyspace.FileSystem

/-- The texts of values, counted from a position; the first value that is no
    text counts. -/
def textsFrom (position : Nat) : List Value → Except Misuse (List String)
  | [] => .ok []
  | .text s :: vs => (textsFrom (position + 1) vs).map fun ss => s :: ss
  | v :: _ => .error (.notJoinable position v.typeName)

/-- The path of joined arguments, of which there must be one. Arguments that
    count as false are left out; the others must be texts. -/
def getPath (f : Store) (arguments : List Value) : Except Fault StorePath :=
  if arguments.isEmpty then
    .error (.misuse (.missingArgument "S3FileSystem.get_path" "first"))
  else
    (misused (textsFrom 0 (arguments.filter Value.truthy))).bind fun texts =>
      (Address.parseAny (.text (separatorText.intercalate texts))).map fun a =>
        { a with fileSystem := .fileSystem f }

/-- The path of an explicit bucket and explicit segments. -/
def pathFromParts (f : Store) (bucket : Value) (segments : List Value) :
    Except Fault StorePath :=
  (Address.ofNamesAny bucket segments).map fun a => { a with fileSystem := .fileSystem f }

end Keyspace.FileSystem
