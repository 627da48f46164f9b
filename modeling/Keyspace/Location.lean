import Keyspace.Path.Basic

/-! # Object locations

    A location is the pair of bucket and key by which a client of an object
    store addresses an object. The store knows no directories; a client that
    wants one writes an empty object under the directory marker, which is the
    key with a separator after it.
-/

namespace Keyspace

/-- The bucket and the key of an object. The key is a text, since the directory
    marker extends it; the bucket may be of any type. -/
structure Location (V : Type) where
  bucket : V
  key : String

/-- The key of the empty object that stands for a directory: the key and a
    separator, or nothing at the root of a bucket. -/
def directoryMarker (key : String) : String :=
  if key = "" then "" else key ++ separatorText

/-- A location without a key is its bucket. -/
def Location.isBucketRoot {V : Type} (l : Location V) : Bool := l.key == ""

/-- The directory marker of a location. -/
def Location.directoryMarker {V : Type} (l : Location V) : String :=
  Keyspace.directoryMarker l.key

/-- The location of an absolute path. -/
def Path.location? {F : Type} (p : Path F) : Option (Location String) :=
  p.bucket.map fun b => ⟨b, p.key⟩

end Keyspace
