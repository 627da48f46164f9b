import Keyspace.Fault
import Keyspace.Value.Order
import Keyspace.Value.Record

/-! # Path operations on any values

    Operations on paths are asked with values of any type. An operand may be a
    path, or a text, which is parsed in the file system of the path it is
    given to. Indices are integers or truth values; a floating-point number is
    compared with the bounds like any other number and refused only if it lies
    within them. An index outside the bounds makes a path error, unless it has
    so many digits that the message of the error cannot be written.
-/

namespace Keyspace.Path

/-! ## Section 1: Operands -/

/-- The path that a value stands for beside `p`. -/
def operand (p : StorePath) : Value → Except Fault StorePath
  | .path q => .ok q
  | .text s =>
    match Path.parse? p.fileSystem s with
    | some q => .ok q
    | none => .error (.failure (.bucketMissing s))
  | v => .error (.failure (.foreignOperand p.toAddress v.typeName))

/-- Resolves any value. -/
def resolveAny (p : StorePath) (v : Value) : Except Fault StorePath :=
  (p.operand v).map fun q => p.resolve q

/-- Resolves any value in place of the last segment. -/
def resolveSiblingAny (p : StorePath) (v : Value) : Except Fault StorePath :=
  (p.operand v).map fun q => p.resolveSibling q

/-- Relativizes any value. -/
def relativizeAny (p : StorePath) (v : Value) : Except Fault StorePath :=
  (p.operand v).bind fun q =>
    match p.relativize q with
    | .ok r => .ok r
    | .error m => .error (.failure (.incompatible p.toAddress q.toAddress m))

/-- Whether a path ends with any value. -/
def endsWithAny (p : StorePath) (v : Value) : Except Fault Bool :=
  (p.operand v).map fun q => p.endsWith q

/-- Compares a path with any value; only paths compare. -/
def compareAny (p : StorePath) : Value → Except Fault Ordering
  | .path q => .ok (p.toAddress.compare q.toAddress)
  | v => .error (.failure (.foreignComparand p.toAddress v.typeName))

/-- Whether any value is one of the components of a path. -/
def containsAny (p : StorePath) : Value → Bool
  | .path q => p.hasComponent q
  | _ => false

/-! ## Section 2: Indices -/

/-- The number of segments as a number to compare with. -/
def count (p : StorePath) : Extended := .finite (Int.ofNat p.nameCount)

/-- What comes of an index outside the segments. -/
def indexFault (p : StorePath) (index : Value) : Fault :=
  if h : index.isWritable = true then .failure (.indexOutOfRange p.toAddress index h)
  else .misuse .tooManyDigits

/-- What comes of a range that is empty or not inside the segments. -/
def rangeFault (p : StorePath) (first last : Value) : Fault :=
  if h : first.isWritable = true ∧ last.isWritable = true then
    .failure (.invalidRange p.toAddress first last h)
  else .misuse .tooManyDigits

/-- The segment at any index. -/
def nameAtAny (p : StorePath) (index : Value) : Except Fault StorePath :=
  let outside : Except Fault StorePath := .error (p.indexFault index)
  match index.integer? with
  | some i =>
    match p.nameAt? i with
    | some q => .ok q
    | none => outside
  | none =>
    match index.number? with
    | none =>
      .error (.misuse (.unordered .lessEq (Value.int 0).typeName index.typeName))
    | some x =>
      if OrderOp.lessEq.onNumbers (.finite 0) x && OrderOp.less.onNumbers x p.count then
        .error (.misuse .notAnIndex)
      else outside

/-- The segments between any two bounds. The bounds are checked one after the
    other, so the second one is not looked at if the first is negative. -/
def subpathAny (p : StorePath) (first last : Value) : Except Fault StorePath :=
  let outside : Except Fault StorePath := .error (p.rangeFault first last)
  match first.integer?, last.integer? with
  | some i, some j =>
    match p.subpath? i j with
    | some q => .ok q
    | none => outside
  | _, _ =>
    match first.number? with
    | none => .error (.misuse (.unordered .less first.typeName (Value.int 0).typeName))
    | some x =>
      if OrderOp.less.onNumbers x (.finite 0) then outside
      else
        match last.number? with
        | none => .error (.misuse (.unordered .greater last.typeName (Value.int 0).typeName))
        | some y =>
          if OrderOp.greater.onNumbers y p.count || OrderOp.greaterEq.onNumbers x y then outside
          else .error (.misuse .notABound)

/-! ## Section 3: Conversions -/

/-- The URI of a path. -/
def uri (p : StorePath) : Except Fault String :=
  match p.uri? with
  | some u => .ok u
  | none => .error (.failure (.notAbsolute p.toAddress .uri))

/-- The path itself if it is absolute. -/
def absolute (p : StorePath) : Except Fault StorePath :=
  match p.absolute? with
  | some q => .ok q
  | none => .error (.failure (.notAbsolute p.toAddress .absolutePath))

/-- The location of a path. -/
def location (p : StorePath) : Except Fault (Location Value) :=
  match p.location? with
  | some l => .ok (.ofTexts l)
  | none => .error (.failure (.notAbsolute p.toAddress .location))

/-- An operation that no path supports. -/
def refuse (p : StorePath) (operation : Unsupported) : Fault :=
  .failure (.unsupported p.toAddress operation)

end Keyspace.Path
