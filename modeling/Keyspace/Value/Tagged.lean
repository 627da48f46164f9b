import Keyspace.Value.Written
import Keyspace.Value.Shared
import Keyspace.Fault

/-! # Values as plain data

    Plain data are null, truth values, integers, texts, lists and dictionaries
    of plain data. Every value has a tagged form among them: a value that is
    not plain, or is a dictionary, becomes a dictionary of which the first key
    is a tag that starts with a dollar sign. A tagged form tells what a value
    holds, but not what it shares with others. It has no end if a dictionary
    is within itself in a place that the form tells of; texts, such as the URI
    of the file system of a path or the message of an error, have an end. A
    value that cannot be written cannot be told either.
-/

namespace Keyspace

namespace Value

/-! ## Section 1: Parts of a tagged form -/

/-- A dictionary that nobody shares. -/
def record (entries : List (String × Value)) : Value := .dict none entries

/-- A list of texts. -/
def texts (ss : List String) : Value := .list none (ss.map text)

/-- The URI of a configuration with an endpoint that lies within
    dictionaries. -/
def uriIn (ds : Dictionaries) (endpoint : Value) : String :=
  fileSystemUri ((endpoint.current ds).spelled .plain)

/-- The tagged form of a file system, with the tagged form of its
    configuration beneath all file systems that it is made from. -/
def taggedFileSystem (uri : String) (config : Value) : Nat → Value
  | 0 => record [("$fs", text uri), ("config", config)]
  | n + 1 => record [("$fs", text uri), ("config", taggedFileSystem uri config n)]

/-! ## Section 2: The tagged form -/

mutual

/-- A value as plain data, in a place that lies within dictionaries. A
    dictionary within itself is left out. -/
def taggedIn (ds : Dictionaries) : Value → Value
  | .null => .null
  | .bool b => .bool b
  | .int i => .int i
  | .float _ x => record [("$float", text x.write)]
  | .text s => .text s
  | .list _ items => .list none (taggedItems ds items)
  | .pair a b => .list none [a.taggedIn ds, b.taggedIn ds]
  | .dict _ entries => record [("$dict", .list none (taggedEntries ds entries))]
  | .enclosing _ => .null
  | .path ⟨a, h⟩ =>
    record [("$path", text a.text), ("bucket", ofText? a.bucket), ("parts", texts a.segments),
      ("fs", text (uriIn ds h.base.endpoint))]
  | .fileSystem ⟨⟨e, o, _⟩, _, ls⟩ =>
    let uri := uriIn ds e
    taggedFileSystem uri
      (record [("$config", text uri), ("endpoint", e.taggedIn ds), ("options", o.taggedIn ds)]) ls.length
  | .config ⟨e, o, _⟩ =>
    record [("$config", text (uriIn ds e)), ("endpoint", e.taggedIn ds),
      ("options", o.taggedIn ds)]
  | .location _ ⟨b, k⟩ =>
    record [("$location", .list none [b.taggedIn ds, text k]), ("is_bucket_root", .bool (k == "")),
      ("directory_marker", text (directoryMarker k))]
  | .error l ⟨d, m, p, b⟩ =>
    let whole := (Value.error l ⟨d, m, p, b⟩).current ds
    record [("$error", text d.kind.name), ("mro", texts d.kind.lineage),
      ("message", text (whole.spelled .plain)),
      ("repr", text (whole.spelled .literal)),
      ("attrs", record ([("path", p.taggedIn ds), ("bucket", b.taggedIn ds)] ++
        taggedDetail ds d))]

/-- The items of a list as plain data. -/
def taggedItems (ds : Dictionaries) : List Value → List Value
  | [] => []
  | v :: rest => v.taggedIn ds :: taggedItems ds rest

/-- The entries of a dictionary as pairs of a key and plain data. -/
def taggedEntries (ds : Dictionaries) : List (String × Value) → List Value
  | [] => []
  | (k, v) :: rest => .list none [.text k, v.taggedIn ds] :: taggedEntries ds rest

/-- The attributes that a detail adds to an error. -/
def taggedDetail (ds : Dictionaries) : ErrorDetail Value → List (String × Value)
  | .indexOutOfRange i => [("index", i.taggedIn ds)]
  | .incompatible o r => [("other", o.taggedIn ds), ("reason", r.taggedIn ds)]
  | .unsupported o => [("operation", o.taggedIn ds)]
  | _ => []

end

/-- A value as plain data. -/
def tagged (v : Value) : Value := v.taggedIn v.dictionaries

/-! ## Section 3: Endless forms -/

mutual

/-- Whether the tagged form of a value would tell of a dictionary within
    itself. -/
def isEndless : Value → Bool
  | .list _ items => anyEndless items
  | .pair a b => a.isEndless || b.isEndless
  | .dict _ entries => anyEntryEndless entries
  | .enclosing _ => true
  | .fileSystem ⟨⟨e, o, _⟩, _, _⟩ => e.isEndless || o.isEndless
  | .config ⟨e, o, _⟩ => e.isEndless || o.isEndless
  | .location _ ⟨b, _⟩ => b.isEndless
  | .error _ ⟨d, _, p, b⟩ => p.isEndless || b.isEndless || detailEndless d
  | _ => false

/-- Whether an item of a list is endless. -/
def anyEndless : List Value → Bool
  | [] => false
  | v :: rest => v.isEndless || anyEndless rest

/-- Whether a value in a dictionary is endless. -/
def anyEntryEndless : List (String × Value) → Bool
  | [] => false
  | (_, v) :: rest => v.isEndless || anyEntryEndless rest

/-- Whether a part of a detail is endless. -/
def detailEndless : ErrorDetail Value → Bool
  | .indexOutOfRange i => i.isEndless
  | .incompatible o r => o.isEndless || r.isEndless
  | .unsupported o => o.isEndless
  | _ => false

end

/-- A value as plain data, if these have an end and can be written. -/
def told (v : Value) : Except Misuse Value :=
  if v.isEndless then .error (.endless .telling)
  else if v.isWritable then .ok v.tagged
  else .error .tooManyDigits

end Value

/-! ## Section 4: Errors -/

/-- The attributes of an error as plain data. -/
def PathError.attributes (e : PathError Value) : List (String × Value) :=
  let ds := (Value.error 0 e).dictionaries
  [("path", e.path.taggedIn ds), ("bucket", e.bucket.taggedIn ds)] ++
    Value.taggedDetail ds e.detail

/-- What is told about an error that is raised, if it can be written. -/
def PathError.described (e : PathError Value) : Except Misuse (List (String × Value)) :=
  e.text.bind fun text => e.literal.map fun literal =>
    [("error", .text e.kind.name), ("message", .text text), ("repr", .text literal),
      ("attrs", .record e.attributes)]

/-- What is told about a misuse. -/
def Misuse.described (m : Misuse) : List (String × Value) :=
  [("error", .text m.category.name), ("message", .text m.message)]

/-- What is told about a fault. -/
def Fault.described : Fault → List (String × Value)
  | .failure f =>
    match f.error.described with
    | .ok entries => entries
    | .error m => m.described
  | .misuse m => m.described

end Keyspace
