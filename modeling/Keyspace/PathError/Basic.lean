/-! # Path errors

    Seven kinds of error, one of them the general kind. An error carries a
    message, the path and the bucket it is about, and what its kind adds. The
    type of these contents is left open: an error that an operation raises
    carries texts, but a caller may build one from any values.
-/

namespace Keyspace

/-! ## Section 1: Kinds -/

/-- The kinds of path error. -/
inductive ErrorKind where
  /-- Any path error. -/
  | general
  /-- A text or a bucket name that makes no path. -/
  | invalidPath
  /-- A relative path where a bucket is needed. -/
  | notAbsolute
  /-- An index or a range outside the segments. -/
  | indexOutOfRange
  /-- Two paths without a relative path between them. -/
  | incompatible
  /-- An operation that an object store has no meaning for. -/
  | unsupported
  /-- A value that is no path where one is needed. -/
  | foreign
deriving DecidableEq

namespace ErrorKind

/-- The name of a kind. -/
def name : ErrorKind → String
  | general => "S3PathError"
  | invalidPath => "InvalidPath"
  | notAbsolute => "NotAbsolute"
  | indexOutOfRange => "PathIndexOutOfRange"
  | incompatible => "IncompatiblePaths"
  | unsupported => "OperationNotSupported"
  | foreign => "ForeignPath"

/-- The general categories of failure that a kind belongs to besides the
    general kind of path error, the narrowest first. -/
def categories : ErrorKind → List String
  | general | notAbsolute => []
  | invalidPath | incompatible => ["ValueError"]
  | indexOutOfRange => ["IndexError", "LookupError"]
  | unsupported => ["NotImplementedError", "RuntimeError"]
  | foreign => ["TypeError"]

/-- All names that a kind goes by, the narrowest first. -/
def lineage (k : ErrorKind) : List String :=
  (if k = general then [] else [k.name]) ++ [general.name] ++ k.categories ++
    ["Exception", "BaseException", "object"]

/-- The kind whose arguments a kind takes: its own, or those of the general
    kind if it adds none. -/
def signature : ErrorKind → ErrorKind
  | indexOutOfRange => indexOutOfRange
  | incompatible => incompatible
  | unsupported => unsupported
  | _ => general

end ErrorKind

/-! ## Section 2: Errors -/

/-- What a kind adds to the contents of an error. -/
inductive ErrorDetail (V : Type) where
  /-- A kind that adds nothing. -/
  | general
  | invalidPath
  | notAbsolute
  | foreign
  /-- The index, or the two bounds of the range. -/
  | indexOutOfRange (index : V)
  /-- The other path, and which condition failed. -/
  | incompatible (other reason : V)
  /-- The name of the operation. -/
  | unsupported (operation : V)

/-- The kind to which a detail belongs. -/
def ErrorDetail.kind {V : Type} : ErrorDetail V → ErrorKind
  | general => .general
  | invalidPath => .invalidPath
  | notAbsolute => .notAbsolute
  | foreign => .foreign
  | indexOutOfRange _ => .indexOutOfRange
  | incompatible _ _ => .incompatible
  | unsupported _ => .unsupported

/-- A path error. -/
structure PathError (V : Type) where
  detail : ErrorDetail V
  message : V
  path : V
  bucket : V

/-- The kind of an error. -/
def PathError.kind {V : Type} (e : PathError V) : ErrorKind := e.detail.kind

end Keyspace
