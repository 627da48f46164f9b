import Keyspace.Registry
import Keyspace.Proofs.Address.Text

/-! # Paths from texts

    Making a path of a text depends on the registry only for the file system
    the path then belongs to (`path_of_parse?`, `path_of_not_parse?`). Which
    texts are refused, and what bucket and segments the others give, is
    decided by the text alone:

    * A text is refused if it consists of separators, at least one of them.
      The error is about an invalid path and carries the text.
    * Every other text gives a path whose bucket, if it has one, and segments
      are the maximal runs of the text, in their order. The path has a bucket
      when the text begins with a separator.
    * Doubling a separator, or adding one behind the text, changes nothing.
-/

namespace Keyspace.Registry

/-! ## Section 1: Outcomes -/

theorem path_of_parse? {s : String} {a : Address} (h : Address.parse? s = some a)
    (r : Registry) :
    (r.path (.text s) .null).1 = .ok { a with fileSystem := .fileSystem r.default.1 } := by
  simp only [path, Address.parseAny, h]
  rfl

theorem path_in_fileSystem {s : String} {a : Address} (h : Address.parse? s = some a)
    (r : Registry) (f : Store) :
    (r.path (.text s) (.fileSystem f)).1 = .ok { a with fileSystem := .fileSystem f } := by
  simp only [path, Address.parseAny, h]
  rfl

theorem path_of_not_parse? {s : String} (h : Address.parse? s = none) (r : Registry) :
    (r.path (.text s) .null).1 = .error (.failure (.bucketMissing s)) := by
  simp only [path, Address.parseAny, h]
  rfl

theorem pathAt_ok {r : Registry} {address : Except Fault Address} {host : Value} {p : StorePath}
    (h : (r.pathAt address host).1 = .ok p) : address = .ok p.toAddress := by
  unfold pathAt at h
  cases address with
  | error e => simp at h
  | ok a =>
    dsimp only at h
    split at h
    · simp at h
    · obtain rfl := Except.ok.inj h
      rfl

theorem parse?_of_path {r : Registry} {host : Value} {s : String} {p : StorePath}
    (h : (r.path (.text s) host).1 = .ok p) : Address.parse? s = some p.toAddress := by
  have hparse : Address.parseAny (.text s) = .ok p.toAddress := pathAt_ok h
  rw [Address.parseAny] at hparse
  cases ha : Address.parse? s with
  | none => simp [ha] at hparse
  | some a =>
    simp only [ha, Except.ok.injEq] at hparse
    rw [hparse]

/-- An outcome is that a text was refused as an invalid path. -/
def Refused (s : String) (o : Except Fault StorePath) : Prop :=
  ∃ f : Failure, o = .error (.failure f) ∧
    f.error.kind = .invalidPath ∧ f.error.path = .text s

theorem refused_iff {s : String} {r : Registry} :
    Refused s (r.path (.text s) .null).1 ↔ Address.parse? s = none := by
  constructor
  · rintro ⟨f, hf, -, -⟩
    cases hparse : Address.parse? s with
    | none => rfl
    | some a =>
      rw [path_of_parse? hparse] at hf
      exact absurd hf (by simp)
  · intro h
    exact ⟨.bucketMissing s, path_of_not_parse? h r, rfl, rfl⟩

/-- Whatever the registries, two texts make equal paths or both are refused. -/
def ParseAlike (s t : String) : Prop :=
  ∀ r r' : Registry,
    (∃ p q, (r.path (.text s) .null).1 = .ok p ∧ (r'.path (.text t) .null).1 = .ok q ∧
      (p == q) = true) ∨
    (Refused s (r.path (.text s) .null).1 ∧ Refused t (r'.path (.text t) .null).1)

theorem parseAlike_of_eq {s t : String} (h : Address.parse? s = Address.parse? t) :
    ParseAlike s t := by
  intro r r'
  cases ht : Address.parse? t with
  | none =>
    right
    exact ⟨refused_iff.mpr (h.trans ht), refused_iff.mpr ht⟩
  | some a =>
    left
    exact ⟨_, _, path_of_parse? (h.trans ht) r, path_of_parse? ht r', Path.beq_iff.mpr rfl⟩

/-! ## Section 2: The grammar of texts -/

/-- **The grammar of path texts.** A text is refused exactly if it consists of
    separators and is not empty. Otherwise the path is absolute exactly if the
    text begins with a separator, and its names are the maximal runs of the
    text in order, so nothing but separators is lost. Doubled and trailing
    separators make no difference. -/
theorem path_grammar (r : Registry) (s u v : String) :
    (Refused s (r.path (.text s) .null).1 ↔ s ≠ "" ∧ ∀ c ∈ s.toList, c = '/') ∧
      (¬(s ≠ "" ∧ ∀ c ∈ s.toList, c = '/') →
        ∃ p, (r.path (.text s) .null).1 = .ok p ∧
          (p.isAbsolute = true ↔ s.toList.head? = some '/') ∧
          Text.MaximalRuns '/' s.toList ((p.bucket.toList ++ p.segments).map String.toList) ∧
          (String.join (p.bucket.toList ++ p.segments)).toList =
            s.toList.filter fun c => c != '/') ∧
      ParseAlike (u ++ "//" ++ v) (u ++ "/" ++ v) ∧
      (u ≠ "" → ParseAlike (u ++ "/") u) := by
  refine ⟨refused_iff.trans Address.parse?_eq_none_iff, ?_, parseAlike_of_eq (Address.parse?_doubled u v),
    fun hu => parseAlike_of_eq (Address.parse?_trailing hu)⟩
  intro hs
  cases hparse : Address.parse? s with
  | none => exact absurd (Address.parse?_eq_none_iff.mp hparse) hs
  | some a =>
    have hruns := Address.toList_names_of_parse? hparse
    refine ⟨_, path_of_parse? hparse r, Address.isAbsolute_of_parse? hparse, ?_, ?_⟩
    · show Text.MaximalRuns separator s.toList (a.names.map String.toList)
      rw [hruns]
      exact Text.runs_maximal s.toList
    · show (String.join a.names).toList = Text.without separator s.toList
      rw [String.toList_join, List.flatMap_def, hruns, Text.flatten_runs]

/-- A text that is not refused, and stays the same with a separator behind. -/
theorem path_grammar_doubled_text :
    ¬("/b//x" ≠ "" ∧ ∀ c ∈ "/b//x".toList, c = '/') ∧ "/b//x" ≠ "" ∧
      (∃ p, (empty.path (.text "/b//x") .null).1 = .ok p ∧ p.isAbsolute = true) ∧
      ParseAlike ("/b//x" ++ "/") "/b//x" := by
  have hs : ¬("/b//x" ≠ "" ∧ ∀ c ∈ "/b//x".toList, c = '/') := by
    rintro ⟨-, h⟩
    exact absurd (h 'b' (by decide +kernel)) (by decide)
  obtain ⟨-, hparsed, -, htrailing⟩ := path_grammar empty "/b//x" "/b//x" ""
  obtain ⟨p, hp, habsolute, -⟩ := hparsed hs
  exact ⟨hs, by decide, ⟨p, hp, habsolute.mpr (by decide +kernel)⟩, htrailing (by decide)⟩

end Keyspace.Registry
