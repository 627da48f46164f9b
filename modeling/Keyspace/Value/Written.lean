import Keyspace.Value.Basic
import Keyspace.Misuse
import Keyspace.Number.Shortest
import Keyspace.Text.Quoted

/-! # Values as text

    A value has a plain form and a literal form. They differ only for texts,
    which the literal form quotes, for paths, which it wraps in a call, and
    for errors. Inside another value every value has its literal form; only
    the endpoint of a URI is plain. Where a list, a dictionary, a configuration
    or a location lies within itself, dots stand for it.

    A value cannot be written if its text would show an integer of too many
    digits (`Value.isWritableIn`); to write it all the same is a misuse.
-/

namespace Keyspace

/-! ## Section 1: Parts of a form -/

/-- The two ways to write a value. -/
inductive Form where
  | plain
  | literal
deriving DecidableEq

namespace Form

/-- Parts between an opening and a closing text, separated by commas. -/
def enclosed (opening closing : String) (parts : List String) : String :=
  opening ++ ", ".intercalate parts ++ closing

/-- A call of a constructor with written arguments. -/
def call (name : String) (arguments : List String) : String :=
  enclosed (name ++ "(") ")" arguments

/-- A named argument. -/
def named (name written : String) : String := name ++ "=" ++ written

/-- A named argument that is left out when it is not wanted. -/
def namedIf (wanted : Bool) (name written : String) : List String :=
  if wanted then [named name written] else []

end Form

/-- Whether a place lies within what has the label. -/
def Form.isWithin (around : List Nat) (label : Option Nat) : Bool :=
  label.any fun l => around.contains l

/-- What a place lies within that is in what has the label. -/
def Form.inside (around : List Nat) (label : Option Nat) : List Nat := label.toList ++ around

/-- Whether a value is null. -/
def Value.isNull : Value → Bool
  | .null => true
  | _ => false

/-! ## Section 2: The two forms -/

open Form

mutual

/-- The text of a value in one of its forms, in a place that lies within what
    has the labels. It is written only if all integers in it are short. -/
def Value.writtenIn (around : List Nat) (form : Form) : Value → String
  | .null => "None"
  | .bool b => if b then "True" else "False"
  | .int i => toString i
  | .float _ x => x.write
  | .text s => match form with
    | .plain => s
    | .literal => Text.quote s
  | .list l items =>
    if isWithin around l then "[...]"
    else enclosed "[" "]" (writtenItems (inside around l) items)
  | .pair a b => enclosed "(" ")" [a.writtenIn around .literal, b.writtenIn around .literal]
  | .dict l entries =>
    if isWithin around l then "\x7b...\x7d"
    else enclosed "\x7b" "\x7d" (writtenEntries (inside around l) entries)
  | .enclosing _ => "\x7b...\x7d"
  | .path ⟨a, _⟩ => match form with
    | .plain => a.text
    | .literal => call "S3Path" [Text.quote a.text]
  | .fileSystem ⟨⟨e, _, _⟩, _, _⟩ =>
    call "S3FileSystem" [named "uri" (Text.quote (fileSystemUri (e.writtenIn around .plain)))]
  | .config ⟨e, o, l⟩ =>
    if isWithin around l then "..."
    else
      call "FileSystemConfig"
        [named "endpoint" (e.writtenIn (inside around l) .literal),
          named "options" (o.writtenIn (inside around l) .literal)]
  | .location l ⟨b, k⟩ =>
    if isWithin around l then "..."
    else
      call "ObjectLocation"
        [named "bucket" (b.writtenIn (inside around l) .literal), named "key" (Text.quote k)]
  | .error _ ⟨d, m, p, b⟩ =>
    let context :=
      namedIf (!p.isNull) "path" (p.writtenIn around .literal) ++
        namedIf (!b.isNull) "bucket" (b.writtenIn around .literal) ++ writtenDetail around d
    match form with
    | .plain =>
      let message := m.writtenIn around .plain
      " | ".intercalate (if message = "" then context else message :: context)
    | .literal => call d.kind.name (m.writtenIn around .literal :: context)

/-- The items of a list in literal form. -/
def Value.writtenItems (around : List Nat) : List Value → List String
  | [] => []
  | v :: rest => v.writtenIn around .literal :: writtenItems around rest

/-- The entries of a dictionary, keys and values in literal form. -/
def Value.writtenEntries (around : List Nat) : List (String × Value) → List String
  | [] => []
  | (k, v) :: rest =>
    (Text.quote k ++ ": " ++ v.writtenIn around .literal) :: writtenEntries around rest

/-- What a detail adds to the context of an error. An index and another path
    are written unless they are null, a reason and an operation if they count
    as true. -/
def Value.writtenDetail (around : List Nat) : ErrorDetail Value → List String
  | .indexOutOfRange i => namedIf (!i.isNull) "index" (i.writtenIn around .literal)
  | .incompatible o r =>
    namedIf (!o.isNull) "other" (o.writtenIn around .literal) ++
      namedIf r.truthy "reason" (r.writtenIn around .literal)
  | .unsupported o => namedIf o.truthy "operation" (o.writtenIn around .literal)
  | _ => []

end

/-! ## Section 3: Values that can be written -/

mutual

/-- Whether a value can be written in a place that lies within what has the
    labels: all integers that its text shows are short. Both forms show the
    same integers. -/
def Value.isWritableIn (around : List Nat) : Value → Bool
  | .int i => Text.isShort i
  | .list l items => isWithin around l || itemsWritable (inside around l) items
  | .pair a b => a.isWritableIn around && b.isWritableIn around
  | .dict l entries => isWithin around l || entriesWritable (inside around l) entries
  | .fileSystem ⟨⟨e, _, _⟩, _, _⟩ => e.isWritableIn around
  | .config ⟨e, o, l⟩ =>
    isWithin around l ||
      (e.isWritableIn (inside around l) && o.isWritableIn (inside around l))
  | .location l ⟨b, _⟩ => isWithin around l || b.isWritableIn (inside around l)
  | .error _ ⟨d, m, p, b⟩ =>
    m.isWritableIn around && p.isWritableIn around && b.isWritableIn around &&
      detailWritable around d
  | _ => true

/-- Whether all items of a list can be written. -/
def Value.itemsWritable (around : List Nat) : List Value → Bool
  | [] => true
  | v :: rest => v.isWritableIn around && itemsWritable around rest

/-- Whether all values in a dictionary can be written. -/
def Value.entriesWritable (around : List Nat) : List (String × Value) → Bool
  | [] => true
  | (_, v) :: rest => v.isWritableIn around && entriesWritable around rest

/-- Whether what a detail adds to an error can be written. -/
def Value.detailWritable (around : List Nat) : ErrorDetail Value → Bool
  | .indexOutOfRange i => i.isWritableIn around
  | .incompatible o r => o.isWritableIn around && r.isWritableIn around
  | .unsupported o => o.isWritableIn around
  | _ => true

end

namespace Value

/-- The text of a value in one of its forms, however long its integers are. -/
def spelled (form : Form) (v : Value) : String := v.writtenIn [] form

/-- Whether a value can be written. -/
def isWritable (v : Value) : Bool := v.isWritableIn []

/-- A value in one of its forms, if it can be written. -/
def written (form : Form) (v : Value) : Except Misuse String :=
  if v.isWritable then .ok (v.spelled form) else .error .tooManyDigits

/-- A value in plain form. -/
abbrev plain (v : Value) : Except Misuse String := v.written .plain

/-- A value in literal form. -/
abbrev literal (v : Value) : Except Misuse String := v.written .literal

end Value

/-! ## Section 4: Texts of the parts -/

/-- The URI of a configuration, if its endpoint can be written. -/
def Config.uri (c : Config Value) : Except Misuse String := c.endpoint.plain.map fileSystemUri

/-- The URI of a host is that of its configuration. -/
def Host.uri (h : Host Value) : Except Misuse String := h.base.uri

/-- The URI of a file system is that of its configuration. -/
def FileSystem.uri (f : Store) : Except Misuse String := f.config.uri

/-- The text of an error: message and context between bars. The label of an
    error does not show. -/
def PathError.text (e : PathError Value) : Except Misuse String := (Value.error 0 e).plain

/-- The literal form of an error. -/
def PathError.literal (e : PathError Value) : Except Misuse String := (Value.error 0 e).literal

example : (Value.list none [.int (-1), .text "a", .null]).literal = .ok "[-1, 'a', None]" := rfl
example : (Value.fileSystem ⟨.default, 1, [0]⟩).literal = .ok "S3FileSystem(uri='s3:///')" := rfl
example : (PathError.mk (.indexOutOfRange (.pair (.int 0) (.bool true))) (.text "m") (.text "a")
    .null).text = .ok "m | path='a' | index=(0, True)" := rfl
example : (Value.dict (some 0) [("k", .list (some 1) [.enclosing 0])]).literal =
    .ok "\x7b'k': [\x7b...\x7d]\x7d" := rfl
example : (Value.list (some 1) [.dict (some 0) [("k", .list (some 1) [.enclosing 0])]]).literal =
    .ok "[\x7b'k': [...]\x7d]" := rfl

end Keyspace
