import Keyspace.Value.Tagged
import Keyspace.Value.Order
import Keyspace.FileSystem.Operand

/-! # Reports

    A report tells several things at once: all about a path, all about a file
    system, or how two values compare. It is a dictionary of plain data, with a
    key for each thing.
-/

namespace Keyspace

/-- All about a path. -/
def Path.report (p : StorePath) : List (String × Value) :=
  [("bucket", .ofText? p.bucket),
    ("key", .text p.key),
    ("parts", .texts p.segments),
    ("name_count", .int (Int.ofNat p.nameCount)),
    ("is_absolute", .bool p.isAbsolute),
    ("str", .text p.text),
    ("repr", .text ((Value.path p).spelled .literal))]

/-- All about a file system, if it can be written and its configuration can be
    told. -/
def FileSystem.report (f : Store) : Except Misuse (List (String × Value)) :=
  f.uri.bind fun uri => (Value.fileSystem f).literal.bind fun literal =>
    (Value.ofHost f.host).told.map fun config =>
      [("uri", .text uri),
        ("scheme", .text scheme),
        ("separator", .text separatorText),
        ("repr", .text literal),
        ("config", config)]

/-- The answer to a question, or why there is none. -/
def Value.answerReport : Except Misuse Bool → Value
  | .ok b => .bool b
  | .error m => .record m.described

/-- How two values compare. -/
def Value.comparisonReport (v w : Value) : List (String × Value) :=
  [("eq", answerReport (v.same w)),
    ("ne", answerReport ((v.same w).map not)),
    ("lt", answerReport (v.ordered .less w)),
    ("le", answerReport (v.ordered .lessEq w)),
    ("gt", answerReport (v.ordered .greater w)),
    ("ge", answerReport (v.ordered .greaterEq w))]

end Keyspace
