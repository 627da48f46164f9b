import Keyspace.Value.Basic
import Keyspace.Misuse

/-! # Building path errors

    A path error is built from arguments by position and by name. Only the
    message can be given by position; path, bucket and what the kind adds can
    only be named. Named arguments are checked first, in order, and then the
    number of those by position.
-/

namespace Keyspace.PathError

/-! ## Section 1: Checking arguments -/

/-- The arguments that a kind adds. -/
def detailArguments : ErrorKind → List String
  | .indexOutOfRange => ["index"]
  | .incompatible => ["other", "reason"]
  | .unsupported => ["operation"]
  | _ => []

/-- The arguments that can only be named. -/
def namedArguments (kind : ErrorKind) : List String :=
  ["path", "bucket"] ++ detailArguments kind

/-- The function that builds errors of a kind. -/
def builder (kind : ErrorKind) : String := kind.signature.name ++ ".__init__"

/-- Checks the name of one named argument. The error itself is the first
    argument by position, and the message the second, if there is one. -/
def checkName (kind : ErrorKind) (messageGiven : Bool) (name : String) : Except Misuse Unit :=
  if name = "self" ∨ (name = "message" ∧ messageGiven) then
    .error (.repeatedArgument (builder kind) name)
  else if name = "message" ∨ name ∈ namedArguments kind then .ok ()
  else .error (.unexpectedArgument (builder kind) name)

/-- Checks the names of all named arguments, in order. -/
def checkNames (kind : ErrorKind) (messageGiven : Bool) : List String → Except Misuse Unit
  | [] => .ok ()
  | n :: ns => (checkName kind messageGiven n).bind fun _ => checkNames kind messageGiven ns

/-! ## Section 2: Building -/

/-- A named argument, or what stands for it. -/
def argument (named : List (String × Value)) (name : String) (absent : Value) : Value :=
  (Entries.get? named name).getD absent

/-- The detail of a kind from named arguments. -/
def detailOf (kind : ErrorKind) (named : List (String × Value)) : ErrorDetail Value :=
  match kind with
  | .general => .general
  | .invalidPath => .invalidPath
  | .notAbsolute => .notAbsolute
  | .foreign => .foreign
  | .indexOutOfRange => .indexOutOfRange (argument named "index" .null)
  | .incompatible =>
    .incompatible (argument named "other" .null) (argument named "reason" (.text ""))
  | .unsupported => .unsupported (argument named "operation" (.text ""))

/-- The error of a kind that arguments build. -/
def build (kind : ErrorKind) (positional : List Value) (named : List (String × Value)) :
    Except Misuse (PathError Value) :=
  (checkNames kind (!positional.isEmpty) (named.map (·.1))).bind fun _ =>
    if 1 < positional.length then
      .error (.tooManyArguments (builder kind) (positional.length + 1) named.length)
    else
      .ok {
        detail := detailOf kind named
        message := positional.head?.getD (argument named "message" (.text ""))
        path := argument named "path" .null
        bucket := argument named "bucket" .null }

end Keyspace.PathError
