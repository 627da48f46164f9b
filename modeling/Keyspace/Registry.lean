import Keyspace.FileSystem.Operand

/-! # The default file system

    A registry holds the default file system, which comes into being when it
    is first needed, and a journal of the file systems made so far. A path
    without a file system of its own gets the default one, but only after its
    text or its names have turned out to be valid. The file systems that a
    registry makes have different labels, since it counts them.
-/

namespace Keyspace

/-! ## Section 1: Registries -/

/-- What the journal records. -/
inductive Event where
  /-- The default file system is about to be made. -/
  | makingDefault
  /-- A file system with this URI was made. -/
  | made (uri : String)
deriving DecidableEq

/-- The line that an event adds to a log. -/
def Event.line : Event → String
  | makingDefault => "DEBUG Initializing default S3 filesystem"
  | made uri => "DEBUG Created S3 filesystem for " ++ uri

/-- The default file system, if there is one yet, the journal, the latest
    event last, and how many file systems were made. -/
structure Registry where
  default? : Option Store
  journal : List Event
  count : Nat

namespace Registry

/-- The registry before anything is made. -/
def empty : Registry := ⟨none, [], 0⟩

/-- Records an event. -/
def record (r : Registry) (e : Event) : Registry := { r with journal := r.journal ++ [e] }

/-- Makes a file system from a host with a URI. It is labelled by how many were
    made before. -/
def make (r : Registry) (h : Host Value) (uri : String) : Store × Registry :=
  (.ofHost r.count h, { r.record (.made uri) with count := r.count + 1 })

/-- The URI of the default configuration, of which the endpoint is empty. -/
def defaultUri : String := fileSystemUri ""

/-- The default file system, made now if there is none. -/
def default (r : Registry) : Store × Registry :=
  match r.default? with
  | some f => (f, r)
  | none =>
    let (f, r) := (r.record .makingDefault).make (.config .default) defaultUri
    (f, { r with default? := some f })

/-- Once there is a default file system, asking for it changes nothing. -/
theorem default_eq_of_default? {r : Registry} {f : Store} (h : r.default? = some f) :
    r.default = (f, r) := by
  simp [default, h]

/-- After asking for it, there is a default file system. -/
theorem default?_default (r : Registry) : r.default.2.default? = some r.default.1 := by
  unfold default
  split
  · next h => exact h
  · rfl

/-! ## Section 2: Making paths and file systems -/

/-- An outcome together with the registry after it. -/
abbrev Outcome (α : Type) : Type := Except Fault α × Registry

/-- The host that a value is, if it is one, or none if it counts as false. A
    host needs a URI, for which everything that shows it asks, and which no
    other value has. -/
def hostOf? (v : Value) : Except Fault (Option (Host Value)) :=
  match v.host? with
  | some h => .ok (some h)
  | none => if v.truthy then .error (.misuse (.noAttribute v.typeName "uri")) else .ok none

/-- The host that a value gives: itself, or the default file system if it
    counts as false. -/
def hostFor (r : Registry) (v : Value) : Outcome (Host Value) :=
  match hostOf? v with
  | .error e => (.error e, r)
  | .ok (some h) => (.ok h, r)
  | .ok none =>
    let (f, r) := r.default
    (.ok (.fileSystem f), r)

/-- The path at an address, if there is one, that belongs to the host that a
    value gives. -/
def pathAt (r : Registry) (address : Except Fault Address) (host : Value) :
    Outcome StorePath :=
  match address with
  | .error e => (.error e, r)
  | .ok a =>
    match r.hostFor host with
    | (.error e, r) => (.error e, r)
    | (.ok h, r) => (.ok { a with fileSystem := h }, r)

/-- The path that a value denotes as a text. -/
def path (r : Registry) (text host : Value) : Outcome StorePath :=
  r.pathAt (Address.parseAny text) host

/-- The path of any bucket and segments. -/
def pathFromParts (r : Registry) (bucket : Value) (segments : List Value)
    (host : Value) : Outcome StorePath :=
  r.pathAt (Address.ofNamesAny bucket segments) host

/-- A new file system made from the host that a value is, or from the default
    configuration if it counts as false. Its URI is put on record, so it must
    be one that can be written. -/
def newFileSystem (r : Registry) (v : Value) : Outcome Store :=
  match hostOf? v with
  | .error e => (.error e, r)
  | .ok h? =>
    let h := h?.getD (.config .default)
    match h.uri with
    | .error m => (.error (.misuse m), r)
    | .ok uri =>
      let (f, r) := r.make h uri
      (.ok f, r)

/-! ## Section 3: What becomes of a value given for a host -/

/-- The value is no host, or it is the one it gives, or it counts as false and
    gives none. -/
theorem hostOf?_cases (v : Value) :
    (∃ m, hostOf? v = .error (.misuse m)) ∨
      (∃ h, v.host? = some h ∧ hostOf? v = .ok (some h)) ∨
      (v.truthy = false ∧ hostOf? v = .ok none) := by
  unfold hostOf?
  cases hhost : v.host? with
  | some h => exact .inr (.inl ⟨h, rfl, rfl⟩)
  | none =>
    cases htruthy : v.truthy with
    | true => exact .inl ⟨_, rfl⟩
    | false => exact .inr (.inr ⟨rfl, rfl⟩)

/-- A new file system is made from a host that the value gives, unless the
    value is misused. -/
theorem newFileSystem_cases (r : Registry) (v : Value) :
    (∃ m, r.newFileSystem v = (.error (.misuse m), r)) ∨
      ∃ h uri, (v.host? = some h ∨ h = .config .default) ∧ h.uri = .ok uri ∧
        r.newFileSystem v = (.ok (r.make h uri).1, (r.make h uri).2) := by
  -- all that is left of a host is whether its URI can be written
  have hmake (h? : Option (Host Value)) (hgiven : hostOf? v = .ok h?) :
      (∃ m, r.newFileSystem v = (.error (.misuse m), r)) ∨
        ∃ uri, (h?.getD (.config .default)).uri = .ok uri ∧
          r.newFileSystem v = (.ok (r.make (h?.getD (.config .default)) uri).1,
            (r.make (h?.getD (.config .default)) uri).2) := by
    cases huri : (h?.getD (.config .default)).uri with
    | error m => exact .inl ⟨m, by simp only [newFileSystem, hgiven, huri]⟩
    | ok uri => exact .inr ⟨uri, rfl, by simp only [newFileSystem, hgiven, huri]⟩
  rcases hostOf?_cases v with ⟨m, hv⟩ | ⟨h, hv, hgiven⟩ | ⟨-, hgiven⟩
  · exact .inl ⟨m, by rw [newFileSystem, hv]⟩
  · exact (hmake _ hgiven).imp_right fun ⟨uri, huri, hr⟩ => ⟨h, uri, .inl hv, huri, hr⟩
  · exact (hmake _ hgiven).imp_right fun ⟨uri, huri, hr⟩ => ⟨_, uri, .inr rfl, huri, hr⟩

end Registry

end Keyspace
