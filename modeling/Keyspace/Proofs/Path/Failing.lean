import Keyspace.Proofs.Path.Parsing
import Keyspace.Proofs.Path.Relativization
import Keyspace.Proofs.Session.TextOperand

/-! # How operations on a path fail

    An operation on a path is given values of any type. Where it fails with a
    path error, the error is about the path that was asked, or it is about the
    operand, a text that names no bucket; nothing else that goes on inside an
    operation comes out as a path error (`Fails`). So the error tells from
    which path it came (`Fails.tells`), and relativizing, which fails for two
    paths, tells the other one as well (`Fails.tells_other`).

    An operand that can be no operand at all is refused before the operation
    itself begins, by all operations alike. From there on only relativizing can
    fail (`outcome_cases`). An index or a range outside the segments is told by
    the error (`failure_of_nameAtAny`, `failure_of_subpathAny`).
-/

namespace Keyspace

/-! ## Section 1: Operands -/

namespace Value

/-- The value is neither a path nor a text. -/
def IsForeign (v : Value) : Prop := (∀ q, v ≠ .path q) ∧ ∀ t, v ≠ .text t

/-- The value is a text that is not empty and has no character but
    separators. -/
def IsSeparators (v : Value) : Prop := ∃ t, v = .text t ∧ t ≠ "" ∧ ∀ c ∈ t.toList, c = '/'

theorem IsForeign.not_isSeparators {v : Value} (h : v.IsForeign) : ¬v.IsSeparators := by
  rintro ⟨t, hv, -⟩
  exact h.2 t hv

end Value

namespace Path

variable {α : Type} {p q : StorePath} {v w : Value} {given? : Option Value} {f : Failure}

theorem operand_of_isForeign (h : v.IsForeign) (p : StorePath) :
    p.operand v = .error (.failure (.foreignOperand p.toAddress v.typeName)) := by
  cases v with
  | path q => exact absurd rfl (h.1 q)
  | text t => exact absurd rfl (h.2 t)
  | _ => rfl

theorem operand_of_not_parse? {t : String} (h : Address.parse? t = none) (p : StorePath) :
    p.operand (.text t) = .error (.failure (.bucketMissing t)) := by
  simp only [operand, Path.parse?, h, Option.map_none]

/-- A value stands for a path, or it is refused for one of two reasons. -/
theorem operand_cases (p : StorePath) (v : Value) :
    (v.IsForeign ∧ p.operand v = .error (.failure (.foreignOperand p.toAddress v.typeName))) ∨
      (v.IsSeparators ∧ ∃ t, v = .text t ∧
        p.operand v = .error (.failure (.bucketMissing t))) ∨
      (¬v.IsForeign ∧ ¬v.IsSeparators ∧ ∃ q, p.operand v = .ok q) := by
  by_cases hforeign : v.IsForeign
  · exact .inl ⟨hforeign, operand_of_isForeign hforeign p⟩
  · by_cases hseparators : v.IsSeparators
    · obtain ⟨t, rfl, ht⟩ := hseparators
      have hparse : Address.parse? t = none := Address.parse?_eq_none_iff.mpr ht
      exact .inr (.inl ⟨⟨t, rfl, ht⟩, t, rfl, operand_of_not_parse? hparse p⟩)
    · refine .inr (.inr ⟨hforeign, hseparators, ?_⟩)
      cases v with
      | path q => exact ⟨q, rfl⟩
      | text t =>
        cases hparse : Address.parse? t with
        | none => exact absurd ⟨t, rfl, Address.parse?_eq_none_iff.mp hparse⟩ hseparators
        | some a => exact ⟨_, operand_of_parse? hparse p⟩
      | _ => exact absurd ⟨nofun, nofun⟩ hforeign

/-! ## Section 2: Combining a path with any value -/

/-- The operations that look at their operand whatever it is. The division sign
    is for paths and texts only, and refuses all else as a misuse. -/
def Combining.TakesAny : Combining → Prop
  | divide _ => False
  | _ => True

/-- How combining a path with a value turns out. -/
inductive Verdict (p : StorePath) (v : Value) (c : Combining) : Except Fault Value → Prop where
  /-- The value is no operand. -/
  | foreign :
    v.IsForeign → Verdict p v c (.error (.failure (.foreignOperand p.toAddress v.typeName)))
  /-- The value names no bucket. -/
  | separators {t : String} :
    v.IsSeparators → v = .text t → Verdict p v c (.error (.failure (.bucketMissing t)))
  /-- No relative path leads to what the value stands for. -/
  | incompatible {q : StorePath} {m : Mismatch} :
    ¬v.IsForeign → ¬v.IsSeparators → c = .relativize → p.operand v = .ok q →
    Verdict p v c (.error (.failure (.incompatible p.toAddress q.toAddress m)))
  /-- There is an answer. -/
  | answered {w : Value} : ¬v.IsForeign → ¬v.IsSeparators → Verdict p v c (.ok w)

/-- An operand that is refused is refused by every operation. -/
theorem outcome_of_operand_error {c : Combining} {e : Fault} (hc : c.TakesAny)
    (h : p.operand v = .error e) : c.outcome p v = .error e := by
  cases c with
  | divide label => exact hc.elim
  | resolve => rw [Combining.outcome, resolveAny, h]; rfl
  | resolveSibling => rw [Combining.outcome, resolveSiblingAny, h]; rfl
  | relativize => rw [Combining.outcome, relativizeAny, h]; rfl
  | endsWith => rw [Combining.outcome, endsWithAny, h]; rfl

/-- With an operand only relativizing fails, if the two paths have no relative
    path between them. -/
theorem outcome_of_operand_ok {c : Combining} (hc : c.TakesAny) (h : p.operand v = .ok q) :
    (∃ w, c.outcome p v = .ok w) ∨
      c = .relativize ∧
        ∃ m, c.outcome p v = .error (.failure (.incompatible p.toAddress q.toAddress m)) := by
  cases c with
  | divide label => exact hc.elim
  | resolve => exact .inl ⟨_, by rw [Combining.outcome, resolveAny, h]; rfl⟩
  | resolveSibling => exact .inl ⟨_, by rw [Combining.outcome, resolveSiblingAny, h]; rfl⟩
  | endsWith => exact .inl ⟨_, by rw [Combining.outcome, endsWithAny, h]; rfl⟩
  | relativize =>
    by_cases hrel : Relatable p q
    · have hr := (relativizeAny_eq_ok_iff h).mpr (relativize_of_relatable hrel)
      exact .inl ⟨_, by rw [Combining.outcome, hr]; rfl⟩
    · have he := (relativizeAny_eq_error_iff h).mpr ⟨_, relativize_of_not_relatable hrel, rfl⟩
      exact .inr ⟨rfl, _, by rw [Combining.outcome, he]; rfl⟩

theorem outcome_cases {c : Combining} (hc : c.TakesAny) (p : StorePath) (v : Value) :
    Verdict p v c (c.outcome p v) := by
  rcases operand_cases p v with ⟨hforeign, h⟩ | ⟨hseparators, t, hv, h⟩ |
    ⟨hforeign, hseparators, q, h⟩
  · rw [outcome_of_operand_error hc h]
    exact .foreign hforeign
  · rw [outcome_of_operand_error hc h]
    exact .separators hseparators hv
  · rcases outcome_of_operand_ok hc h with ⟨w, hw⟩ | ⟨hrelativize, m, hm⟩
    · rw [hw]
      exact .answered hforeign hseparators
    · rw [hm]
      exact .incompatible hforeign hseparators hrelativize h

/-- The outcome is a path error of a kind. -/
def Raises (k : ErrorKind) (x : Except Fault α) : Prop :=
  ∃ f : Failure, x = .error (.failure f) ∧ f.error.kind = k

theorem not_raises_ok (k : ErrorKind) (x : α) : ¬Raises k (.ok x) := by
  rintro ⟨_, herror, -⟩
  cases herror

/-- An operand is refused as foreign if it is, and only then. -/
theorem raises_foreign_iff {c : Combining} (hc : c.TakesAny) :
    Raises .foreign (c.outcome p v) ↔ v.IsForeign := by
  have hverdict := outcome_cases hc p v
  constructor
  · rintro ⟨f, hf, hkind⟩
    rw [hf] at hverdict
    cases hverdict with
    | foreign h => exact h
    | separators _ _ => cases hkind
    | incompatible _ _ _ _ => cases hkind
  · intro h
    generalize c.outcome p v = x at hverdict
    cases hverdict with
    | foreign _ => exact ⟨_, rfl, rfl⟩
    | separators hseparators _ => exact absurd hseparators h.not_isSeparators
    | incompatible hforeign _ _ _ => exact absurd h hforeign
    | answered hforeign _ => exact absurd h hforeign

theorem raises_invalidPath_iff {c : Combining} (hc : c.TakesAny) :
    Raises .invalidPath (c.outcome p v) ↔ v.IsSeparators := by
  have hverdict := outcome_cases hc p v
  constructor
  · rintro ⟨f, hf, hkind⟩
    rw [hf] at hverdict
    cases hverdict with
    | foreign _ => cases hkind
    | separators h _ => exact h
    | incompatible _ _ _ _ => cases hkind
  · intro h
    generalize c.outcome p v = x at hverdict
    cases hverdict with
    | foreign hforeign => exact absurd h hforeign.not_isSeparators
    | separators _ _ => exact ⟨_, rfl, rfl⟩
    | incompatible _ hseparators _ _ => exact absurd h hseparators
    | answered _ hseparators => exact absurd h hseparators

/-- The error about an operand that names no bucket tells the operand. -/
theorem path_of_invalidPath {c : Combining} (hc : c.TakesAny)
    (h : c.outcome p v = .error (.failure f)) (hkind : f.error.kind = .invalidPath) :
    f.error.path = v := by
  have hverdict := outcome_cases hc p v
  rw [h] at hverdict
  cases hverdict with
  | foreign _ => cases hkind
  | separators _ hv => exact hv.symm
  | incompatible _ _ _ _ => cases hkind

/-- An operand that is not refused is answered to, or relativizing finds no
    relative path. -/
theorem outcome_of_operand {c : Combining} (hc : c.TakesAny) (p : StorePath)
    (hforeign : ¬v.IsForeign) (hseparators : ¬v.IsSeparators) :
    (∃ w, c.outcome p v = .ok w) ∨
      c = .relativize ∧
        ∃ f : Failure, c.outcome p v = .error (.failure f) ∧ f.error.kind = .incompatible := by
  have hverdict := outcome_cases hc p v
  generalize c.outcome p v = x at hverdict
  cases hverdict with
  | foreign h => exact absurd h hforeign
  | separators h _ => exact absurd h hseparators
  | incompatible _ _ hrelativize _ => exact .inr ⟨hrelativize, _, rfl, rfl⟩
  | answered _ _ => exact .inl ⟨_, rfl⟩

/-! ## Section 3: Indices and ranges -/

theorem indexFault_eq_failure_iff :
    p.indexFault v = .failure f ↔ ∃ h, f = .indexOutOfRange p.toAddress v h := by
  rw [indexFault]
  split
  · next h => simp [h, eq_comm (a := f)]
  · next h => simp [h]

theorem rangeFault_eq_failure_iff :
    p.rangeFault v w = .failure f ↔ ∃ h, f = .invalidRange p.toAddress v w h := by
  rw [rangeFault]
  split
  · next h => simp [h, eq_comm (a := f)]
  · next h => simp [h]

theorem isSome_number?_of_integer? {i : Int} (h : v.integer? = some i) :
    v.number?.isSome = true := by
  cases v with
  | bool b => rfl
  | int j => rfl
  | _ => cases h

/-- The error of an index tells it, and it is a number. -/
theorem failure_of_nameAtAny (h : p.nameAtAny v = .error (.failure f)) :
    v.number?.isSome = true ∧ ∃ hwritable, f = .indexOutOfRange p.toAddress v hwritable := by
  have hfailure (hfault : (.error (p.indexFault v) : Except Fault StorePath) =
      .error (.failure f)) := indexFault_eq_failure_iff.mp (Except.error.inj hfault)
  unfold nameAtAny at h
  dsimp only at h
  split at h
  · next hinteger =>
    split at h
    · cases h
    · exact ⟨isSome_number?_of_integer? hinteger, hfailure h⟩
  · -- a value that is no integer may still be a number outside the bounds
    split at h
    · cases h
    · next hnumber =>
      split at h
      · cases h
      · exact ⟨by rw [hnumber]; rfl, hfailure h⟩

/-- The error of a range tells both bounds. The first one is a number, but the
    last one need not be, since it may not have been looked at. -/
theorem failure_of_subpathAny (h : p.subpathAny v w = .error (.failure f)) :
    v.number?.isSome = true ∧ ∃ hwritable, f = .invalidRange p.toAddress v w hwritable := by
  have hfailure (hfault : (.error (p.rangeFault v w) : Except Fault StorePath) =
      .error (.failure f)) := rangeFault_eq_failure_iff.mp (Except.error.inj hfault)
  unfold subpathAny at h
  dsimp only at h
  split at h
  · next hinteger _ =>
    split at h
    · cases h
    · exact ⟨isSome_number?_of_integer? hinteger, hfailure h⟩
  · -- the first bound decides whether the last one is looked at
    split at h
    · cases h
    · next hnumber =>
      refine ⟨by rw [hnumber]; rfl, ?_⟩
      split at h
      · exact hfailure h
      split at h
      · cases h
      split at h
      · exact hfailure h
      · cases h

/-! ## Section 4: All failures -/

/-- The path errors of operations on `p`, one of whose operands may be a path
    or stand for one. -/
inductive Fails (p : StorePath) (given? : Option Value) : Failure → Prop where
  | bucketMissing {t : String} : given? = some (.text t) → Fails p given? (.bucketMissing t)
  | foreignOperand {v : Value} :
    given? = some v → Fails p given? (.foreignOperand p.toAddress v.typeName)
  | foreignComparand {v : Value} :
    given? = some v → Fails p given? (.foreignComparand p.toAddress v.typeName)
  | notAbsolute (need : Need) : Fails p given? (.notAbsolute p.toAddress need)
  | indexOutOfRange (index : Value) (writable : index.isWritable = true) :
    Fails p given? (.indexOutOfRange p.toAddress index writable)
  | invalidRange (first last : Value)
    (writable : first.isWritable = true ∧ last.isWritable = true) :
    Fails p given? (.invalidRange p.toAddress first last writable)
  | incompatible {v : Value} {q : StorePath} (m : Mismatch) :
    given? = some v → p.operand v = .ok q →
    Fails p given? (.incompatible p.toAddress q.toAddress m)
  | unsupported (operation : Unsupported) : Fails p given? (.unsupported p.toAddress operation)

theorem fails_of_outcome {c : Combining} (hc : c.TakesAny)
    (h : c.outcome p v = .error (.failure f)) : Fails p (some v) f := by
  have hverdict := outcome_cases hc p v
  rw [h] at hverdict
  cases hverdict with
  | foreign => exact .foreignOperand rfl
  | separators _ hv => exact .bucketMissing (congrArg some hv)
  | incompatible _ _ _ hq => exact .incompatible _ rfl hq

theorem resolveAny_fails (h : p.resolveAny v = .error (.failure f)) : Fails p (some v) f :=
  fails_of_outcome (c := .resolve) trivial (map_eq_error.mpr h)

theorem resolveSiblingAny_fails (h : p.resolveSiblingAny v = .error (.failure f)) :
    Fails p (some v) f :=
  fails_of_outcome (c := .resolveSibling) trivial (map_eq_error.mpr h)

theorem relativizeAny_fails (h : p.relativizeAny v = .error (.failure f)) : Fails p (some v) f :=
  fails_of_outcome (c := .relativize) trivial (map_eq_error.mpr h)

theorem endsWithAny_fails (h : p.endsWithAny v = .error (.failure f)) : Fails p (some v) f :=
  fails_of_outcome (c := .endsWith) trivial (map_eq_error.mpr h)

/-- Only a text is parsed by the division sign, and so may name no bucket. -/
theorem quotient_fails {label : Nat} (h : (Value.path p).quotient label v = .error (.failure f)) :
    Fails p (some v) f := by
  cases v with
  | path q => cases h
  | text t => exact resolveAny_fails (map_eq_error.mp h)
  | _ => cases h

theorem compareAny_fails (h : p.compareAny v = .error (.failure f)) : Fails p (some v) f := by
  cases v with
  | path q => cases h
  | _ => cases h; exact .foreignComparand rfl

theorem nameAtAny_fails (h : p.nameAtAny v = .error (.failure f)) : Fails p given? f := by
  obtain ⟨-, hwritable, rfl⟩ := failure_of_nameAtAny h
  exact .indexOutOfRange v hwritable

theorem subpathAny_fails (h : p.subpathAny v w = .error (.failure f)) : Fails p given? f := by
  obtain ⟨-, hwritable, rfl⟩ := failure_of_subpathAny h
  exact .invalidRange v w hwritable

/-! ## Section 5: What needs a bucket -/

/-- The outcome is what an absolute path is asked for: a relative path has none
    of it, and says so. -/
def NeedsBucket (p : StorePath) (x : Except Fault α) : Prop :=
  (Raises .notAbsolute x ↔ p.isAbsolute = false) ∧ (p.isAbsolute = true → ∃ a, x = .ok a)

theorem needsBucket_of_cases {x : Except Fault α} {need : Need}
    (hrelative : p.isAbsolute = false → x = .error (.failure (.notAbsolute p.toAddress need)))
    (habsolute : p.isAbsolute = true → ∃ a, x = .ok a) : NeedsBucket p x := by
  refine ⟨⟨?_, fun h => ⟨_, hrelative h, rfl⟩⟩, habsolute⟩
  rintro ⟨f, hf, -⟩
  rw [← Bool.not_eq_true]
  intro h
  obtain ⟨a, ha⟩ := habsolute h
  rw [ha] at hf
  cases hf

theorem uri_of_relative (h : p.isAbsolute = false) :
    p.uri = .error (.failure (.notAbsolute p.toAddress .uri)) := by
  have hbucket : p.bucket = none := Address.isAbsolute_eq_false_iff.mp h
  simp only [uri, Address.uri?, hbucket, Option.map_none]

theorem location_of_relative (h : p.isAbsolute = false) :
    p.location = .error (.failure (.notAbsolute p.toAddress .location)) := by
  have hbucket : p.bucket = none := Address.isAbsolute_eq_false_iff.mp h
  simp only [location, location?, hbucket, Option.map_none]

theorem absolute_of_relative (h : p.isAbsolute = false) :
    p.absolute = .error (.failure (.notAbsolute p.toAddress .absolutePath)) := by
  simp [absolute, absolute?, h]

theorem uri_needsBucket (p : StorePath) : NeedsBucket p p.uri := by
  refine needsBucket_of_cases uri_of_relative fun h => ?_
  obtain ⟨b, hb⟩ := Option.isSome_iff_exists.mp h
  simp [uri, Address.uri?, hb]

theorem location_needsBucket (p : StorePath) : NeedsBucket p p.location := by
  refine needsBucket_of_cases location_of_relative fun h => ?_
  obtain ⟨b, hb⟩ := Option.isSome_iff_exists.mp h
  simp [location, location?, hb]

theorem absolute_needsBucket (p : StorePath) : NeedsBucket p p.absolute := by
  refine needsBucket_of_cases absolute_of_relative fun h => ?_
  simp [absolute, absolute?, h]

/-- An outcome that needs a bucket fails for want of one only. -/
theorem NeedsBucket.relative_of_error {x : Except Fault α} {e : Fault} (h : NeedsBucket p x)
    (hx : x = .error e) : p.isAbsolute = false := by
  rw [← Bool.not_eq_true]
  intro habsolute
  obtain ⟨a, ha⟩ := h.2 habsolute
  rw [ha] at hx
  cases hx

theorem uri_fails (h : p.uri = .error (.failure f)) : Fails p given? f := by
  rw [uri_of_relative ((uri_needsBucket p).relative_of_error h)] at h
  cases h
  exact .notAbsolute .uri

theorem location_fails (h : p.location = .error (.failure f)) : Fails p given? f := by
  rw [location_of_relative ((location_needsBucket p).relative_of_error h)] at h
  cases h
  exact .notAbsolute .location

theorem absolute_fails (h : p.absolute = .error (.failure f)) : Fails p given? f := by
  rw [absolute_of_relative ((absolute_needsBucket p).relative_of_error h)] at h
  cases h
  exact .notAbsolute .absolutePath

end Path

/-! ## Section 6: What errors tell -/

/-- The text makes a path of the address, in every registry. -/
def Registry.Makes (t : String) (a : Address) : Prop :=
  ∀ r : Registry, ∃ p, (r.path (.text t) .null).1 = .ok p ∧ p.toAddress = a

theorem Registry.makes_of_parse? {t : String} {a : Address} (h : Address.parse? t = some a) :
    Makes t a :=
  fun r => ⟨_, path_of_parse? h r, rfl⟩

theorem Registry.makes_text {a : Address} (h : a.WellFormed) : Makes a.text a :=
  makes_of_parse? (Address.parse?_text h)

/-- The value is a path of the address, or a text that makes one. -/
def Value.StandsFor (v : Value) (a : Address) : Prop :=
  (∃ q, v = .path q ∧ q.toAddress = a) ∨ ∃ t, v = .text t ∧ Registry.Makes t a

namespace Path

variable {p q : StorePath} {v : Value} {given? : Option Value} {f : Failure}

/-- The error is about the path: its path makes an equal one, and its bucket,
    if it tells one, is the bucket of the path. -/
structure Tells (e : PathError Value) (p : StorePath) : Prop where
  path : ∃ t, e.path = .text t ∧ Registry.Makes t p.toAddress
  bucket : e.bucket = .null ∨ ∃ b, p.bucket = some b ∧ e.bucket = .text b

theorem ofText?_bucket (p : StorePath) :
    Value.ofText? p.bucket = .null ∨ ∃ b, p.bucket = some b ∧ Value.ofText? p.bucket = .text b := by
  cases p.bucket with
  | none => exact .inl rfl
  | some b => exact .inr ⟨b, rfl, rfl⟩

/-- All errors but those about an operand that names no bucket are about the
    path that was asked. -/
theorem Fails.tells (h : Fails p given? f) (hp : p.WellFormed)
    (hkind : f.error.kind ≠ .invalidPath) : Tells f.error p := by
  have hpath : ∃ t, Value.text p.text = .text t ∧ Registry.Makes t p.toAddress :=
    ⟨_, rfl, Registry.makes_text hp⟩
  cases h with
  | bucketMissing _ => exact absurd rfl hkind
  | foreignOperand _ => exact ⟨hpath, ofText?_bucket p⟩
  | foreignComparand _ => exact ⟨hpath, .inl rfl⟩
  | notAbsolute need => exact ⟨hpath, .inl rfl⟩
  | indexOutOfRange index _ => exact ⟨hpath, .inl rfl⟩
  | invalidRange first last _ => exact ⟨hpath, .inl rfl⟩
  | incompatible m _ _ => exact ⟨hpath, ofText?_bucket p⟩
  | unsupported operation => exact ⟨hpath, .inl rfl⟩

/-- An operand stands for the path that it is taken as. -/
theorem standsFor_of_operand (h : p.operand v = .ok q) : v.StandsFor q.toAddress := by
  rcases cases_of_operand h with rfl | ⟨t, rfl, hparse⟩
  · exact .inl ⟨q, rfl, rfl⟩
  · obtain ⟨a, ha, rfl⟩ := Option.map_eq_some_iff.mp hparse
    exact .inr ⟨t, rfl, Registry.makes_of_parse? ha⟩

theorem wellFormed_of_operand (hv : v.WellFormed) (h : p.operand v = .ok q) : q.WellFormed := by
  rcases cases_of_operand h with rfl | ⟨t, rfl, hparse⟩
  · exact (Value.wellFormed_path.mp hv).1
  · exact wellFormed_parse? hparse

/-- An error about two paths tells the operand, too, by a text that makes an
    equal path. -/
theorem Fails.tells_other {other reason : Value} (h : Fails p given? f)
    (hgiven : ∀ v ∈ given?, v.WellFormed) (hdetail : f.error.detail = .incompatible other reason) :
    ∃ v u a, given? = some v ∧ other = .text u ∧ Registry.Makes u a ∧ v.StandsFor a := by
  cases h with
  | incompatible m hv hq =>
    cases hdetail
    have hwf := wellFormed_of_operand (hgiven _ hv) hq
    exact ⟨_, _, _, hv, rfl, Registry.makes_text hwf, standsFor_of_operand hq⟩
  | _ => cases hdetail

end Path

end Keyspace
