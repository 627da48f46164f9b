import Keyspace.Path.Combination
import Keyspace.Value.Written
import Keyspace.Misuse

/-! # Faults

    An operation fails with a path error or with a misuse. A `Failure` is the
    cause of a path error: which operation was asked of which path, and what
    about it was wrong. `Failure.error` words it, with the path and the other
    parts of the context as attributes. The wording of an index or a range
    shows its bounds, so a path error is raised about those only that can be
    written.
-/

namespace Keyspace

/-! ## Section 1: Causes -/

/-- What a relative path has none of. -/
inductive Need where
  | uri
  | absolutePath
  | location
deriving DecidableEq

/-- The operations without meaning for an object store. -/
inductive Unsupported where
  | startsWith
  | realPath
  | toFile
  | watch
deriving DecidableEq

/-- Why a path operation fails. -/
inductive Failure where
  /-- A text of separators alone. -/
  | bucketMissing (text : String)
  /-- A bucket name of separators alone. -/
  | bucketEmpty
  /-- A value that is no text where one is parsed. -/
  | notText (typeName : String)
  /-- An operand of `path` that is neither a path nor a text. -/
  | foreignOperand (path : Address) (typeName : String)
  /-- A value compared with `path` that is no path. -/
  | foreignComparand (path : Address) (typeName : String)
  /-- A relative path where a bucket is needed. -/
  | notAbsolute (path : Address) (need : Need)
  /-- An index outside the segments. -/
  | indexOutOfRange (path : Address) (index : Value) (writable : index.isWritable = true)
  /-- A range that is empty or not inside the segments. -/
  | invalidRange (path : Address) (first last : Value)
    (writable : first.isWritable = true ∧ last.isWritable = true)
  /-- Two paths without a relative path between them. -/
  | incompatible (path other : Address) (mismatch : Mismatch)
  /-- An operation that is never supported. -/
  | unsupported (path : Address) (operation : Unsupported)

/-- Why an operation fails. -/
inductive Fault where
  | failure (f : Failure)
  | misuse (m : Misuse)

/-- A misuse as a fault. -/
def misused {α : Type} : Except Misuse α → Except Fault α
  | .ok a => .ok a
  | .error m => .error (.misuse m)

/-! ## Section 2: Wording -/

/-- The message for a missing bucket. -/
def Need.message : Need → String
  | uri => "Relative path has no URI"
  | absolutePath => "Relative path cannot be made absolute"
  | location => "Relative path has no object location"

/-- The name of an operation that is not supported. -/
def Unsupported.name : Unsupported → String
  | startsWith => "starts_with"
  | realPath => "real_path"
  | toFile => "to_file"
  | watch => "watch"

/-- The condition that two paths fail. -/
def Mismatch.reason : Mismatch → String
  | thisRelative => "this is relative"
  | otherRelative => "other is relative"
  | bucketMismatch => "bucket mismatch"

/-- The message for two paths that fail a condition. -/
def Mismatch.message : Mismatch → String
  | thisRelative => "Path is already relative"
  | otherRelative => "Cannot relativize against a relative path"
  | bucketMismatch => "Cannot relativize paths with different buckets"

/-- How many segments a path has, in words. -/
def Address.segmentCount (a : Address) : String := toString a.nameCount ++ " segment(s)"

namespace Failure

/-- An error about a path. -/
def about (path : Address) (detail : ErrorDetail Value) (message : String) : PathError Value :=
  ⟨detail, .text message, .text path.text, .null⟩

/-- The error that words a cause. -/
def error : Failure → PathError Value
  | bucketMissing s =>
    ⟨.invalidPath, .text "Absolute path must start with a bucket name", .text s, .null⟩
  | bucketEmpty =>
    ⟨.invalidPath, .text "Bucket name must not be empty", .text separatorText, .null⟩
  | notText t => ⟨.foreign, .text ("Expected a path string, got " ++ t), .null, .null⟩
  | foreignOperand p t =>
    { about p .foreign ("Expected an S3Path or str, got " ++ t) with bucket := .ofText? p.bucket }
  | foreignComparand p t => about p .foreign ("Expected an S3Path, got " ++ t)
  | notAbsolute p need => about p .notAbsolute need.message
  | indexOutOfRange p i _ =>
    about p (.indexOutOfRange i)
      ("Index " ++ i.spelled .plain ++ " out of range for " ++ p.segmentCount)
  | invalidRange p b e _ =>
    about p (.indexOutOfRange (.pair b e))
      ("Invalid range [" ++ b.spelled .plain ++ ", " ++ e.spelled .plain ++ ") for " ++
        p.segmentCount)
  | incompatible p q m =>
    { about p (.incompatible (.text q.text) (.text m.reason)) m.message with
      bucket := .ofText? p.bucket }
  | unsupported p op =>
    about p (.unsupported (.text op.name))
      ("Operation '" ++ op.name ++ "' is not supported by S3 paths")

end Failure

end Keyspace
