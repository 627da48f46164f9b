import Keyspace.Value.Basic
import Keyspace.Misuse

/-! # Commands

    A session is driven by commands. Their operands are written down: literal
    values, or references to registers, in which a session keeps results.
-/

namespace Keyspace

/-! ## Section 1: Operands -/

/-- A value as it is written in a command. -/
inductive Operand where
  | null
  | bool (b : Bool)
  | int (i : Int)
  /-- A floating-point number by its numeral. -/
  | float (numeral : String)
  | text (s : String)
  | list (items : List Operand)
  | dict (entries : List (String × Operand))
  /-- The content of a register. -/
  | register (name : String)
deriving Inhabited

/-! ## Section 2: Commands to one receiver -/

/-- What is asked of a path. -/
inductive PathCommand where
  | info
  | root
  | fileName
  | parent
  | fileSystem
  | normalize
  | absolute
  | components
  | uri
  | location
  | nameAt (index : Operand)
  | subpath (first last : Operand)
  | resolve (other : Operand)
  | resolveSibling (other : Operand)
  | relativize (other : Operand)
  | endsWith (other : Operand)
  | compareTo (other : Operand)
  | contains (item : Operand)
  | startsWith (other : Operand)
  | realPath
  | toFile
  | watch (watcher : Operand) (events : List Operand)

/-- What is asked of a file system. -/
inductive FileSystemCommand where
  | info
  | getPath (arguments : List Operand)
  | pathFromParts (bucket : Operand) (segments : List Operand)

/-! ## Section 3: All commands -/

/-- A command. -/
inductive Command where
  /-- The path of a text, in a file system or the default one. -/
  | path (text fileSystem : Operand)
  /-- The path of a bucket and segments. -/
  | pathFromParts (bucket : Operand) (segments : List Operand) (fileSystem : Operand)
  /-- The default file system. -/
  | defaultFileSystem
  /-- A new file system. -/
  | newFileSystem (config : Operand)
  /-- A configuration of any values. -/
  | config (endpoint options : Option Operand)
  /-- A configuration described by a dictionary. -/
  | configFrom (data : Operand)
  /-- A location of any values. -/
  | location (bucket key : Option Operand)
  /-- A path error built from arguments by position, and from those that a
      dictionary names. -/
  | makeError (kind : ErrorKind) (positional : List Operand) (named : Operand)
  /-- The operand itself. -/
  | value (v : Operand)
  /-- Sets a key of the dictionary in a register. -/
  | setEntry (register key : String) (v : Operand)
  /-- The plain form of a value. -/
  | plain (v : Operand)
  /-- The literal form of a value. -/
  | literal (v : Operand)
  /-- Whether a value counts as true. -/
  | truth (v : Operand)
  /-- Asks the file system in a register. -/
  | toFileSystem (register : String) (command : FileSystemCommand)
  /-- Asks the path in a register. -/
  | toPath (register : String) (command : PathCommand)
  /-- Sets a field of the path or record in a register. -/
  | setField (register field : String) (v : Operand)
  /-- Deletes a field of the path or record in a register. -/
  | deleteField (register field : String)
  /-- Resolves by the division sign. -/
  | divide (a b : Operand)
  /-- Asks all comparison questions. -/
  | compare (a b : Operand)
  /-- Whether a value has a hash. -/
  | hash (v : Operand)
  /-- Whether two values have equal hashes. -/
  | sameHash (a b : Operand)
  /-- The items in order. -/
  | sort (reverse : Bool) (items : List Operand)
  /-- The least or the greatest item. -/
  | extreme (e : Extreme) (items : List Operand)
  /-- The items without repetitions. -/
  | distinct (items : List Operand)

/-- A command, and the register for its result, if it has one. -/
structure Step where
  command : Command
  target? : Option String

end Keyspace
