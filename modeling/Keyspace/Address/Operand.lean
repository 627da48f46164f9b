import Keyspace.Fault

/-! # Addresses from any values

    An address is made from a text, or from a bucket and segments that are
    texts; null stands for no bucket. Each function says which value it cannot
    use, or why the texts name nothing.
-/

namespace Keyspace.Address

/-! ## Section 1: Texts -/

/-- The address that a value denotes as a text. -/
def parseAny : Value → Except Fault Address
  | .text s =>
    match parse? s with
    | some a => .ok a
    | none => .error (.failure (.bucketMissing s))
  | v => .error (.failure (.notText v.typeName))

/-! ## Section 2: Names -/

/-- A value as a name, from which separators can be erased. -/
def nameOf : Value → Except Misuse String
  | .text s => .ok s
  | v => .error (.noAttribute v.typeName "replace")

/-- Values as names; the first that is none counts. -/
def namesOf : List Value → Except Misuse (List String)
  | [] => .ok []
  | v :: vs => (nameOf v).bind fun n => (namesOf vs).map fun ns => n :: ns

/-- A value as a bucket name, or null for none. -/
def bucketOf : Value → Except Misuse (Option String)
  | .null => .ok none
  | v => (nameOf v).map some

/-- The address of any bucket and segments. The bucket is settled before the
    segments are looked at. -/
def ofNamesAny (bucket : Value) (segments : List Value) : Except Fault Address :=
  (misused (bucketOf bucket)).bind fun b =>
    if (ofNames? b []).isNone then .error (.failure .bucketEmpty)
    else
      (misused (namesOf segments)).bind fun names =>
        match ofNames? b names with
        | some a => .ok a
        | none => .error (.failure .bucketEmpty)

end Keyspace.Address
