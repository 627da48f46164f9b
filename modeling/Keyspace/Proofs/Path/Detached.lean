import Keyspace.Report
import Keyspace.Registry
import Keyspace.Value.Quotient
import Keyspace.Proofs.Value.Detached

/-! # Operations and the file systems of paths

    An operation on detached values has the outcome that it has on the values
    themselves, detached: a result is moved like its operands, and a failure
    is the same but for the file systems of paths in its index or bounds. So
    no operation looks at the file system of any path that it is given.

    A path that is made belongs to a file system that is given for it. Detached,
    the outcome does not depend on which one that is (`getPath_detached`,
    `pathFromParts_detached`, `pathAt_of_isGiven`).
-/

namespace Keyspace

/-! ## Section 1: Outcomes -/

/-- A failure without the file systems of paths in it. -/
def Failure.detached : Failure → Failure
  | indexOutOfRange p i h => indexOutOfRange p i.detached (by rw [Value.isWritable_detached, h])
  | invalidRange p b e h =>
    invalidRange p b.detached e.detached
      (by rw [Value.isWritable_detached, Value.isWritable_detached]; exact h)
  | f => f

/-- A fault without the file systems of paths in it. -/
def Fault.detached : Fault → Fault
  | failure f => failure f.detached
  | misuse m => misuse m

/-- An outcome without the file systems of paths: `g` detaches the result. -/
def outcomeDetached {α : Type} (g : α → α) : Except Fault α → Except Fault α
  | .ok a => .ok (g a)
  | .error f => .error f.detached

/-- The error of a failure has the same text, and attributes that are the same
    when detached. -/
theorem Failure.error_detached (f : Failure) : f.detached.error = f.error.detached := by
  have hbucket (s? : Option String) : (Value.ofText? s?).detached = .ofText? s? := by
    cases s? <;> rfl
  cases f with
  | foreignOperand p t => simp only [error, PathError.detached, detached, hbucket]; rfl
  | incompatible p q m => simp only [error, PathError.detached, detached, hbucket]; rfl
  | indexOutOfRange p i h => simp only [error, detached, Value.spelled_detached]; rfl
  | invalidRange p b e h => simp only [error, detached, Value.spelled_detached]; rfl
  | _ => rfl

section Outcomes

variable {α β : Type} {g : α → α} {h : β → β}

theorem outcomeDetached_map {f f' : α → β} (x : Except Fault α) (hf : ∀ a, f' (g a) = h (f a)) :
    (outcomeDetached g x).map f' = outcomeDetached h (x.map f) := by
  cases x with
  | ok a => exact congrArg Except.ok (hf a)
  | error e => rfl

theorem outcomeDetached_bind {f f' : α → Except Fault β} (x : Except Fault α)
    (hf : ∀ a, f' (g a) = outcomeDetached h (f a)) :
    (outcomeDetached g x).bind f' = outcomeDetached h (x.bind f) := by
  cases x with
  | ok a => exact hf a
  | error e => rfl

end Outcomes

namespace Path

/-! ## Section 2: Combination -/

variable (p : StorePath) (v w : Value)

theorem operand_detached :
    p.detached.operand v.detached = outcomeDetached detached (p.operand v) := by
  cases v with
  | path q => rfl
  | text t =>
    have hparse := parse?_movedTo p.fileSystem (Host.config .default) t
    simp only [operand, Value.detached, detached, fileSystem_movedTo, hparse]
    cases Path.parse? p.fileSystem t <;> rfl
  | error l e =>
    rw [Value.detached_error]
    show Except.error (Fault.failure (.foreignOperand _ (Value.error l e.detached).typeName)) = _
    rw [← Value.detached_error, Value.typeName_detached]
    rfl
  | _ => rfl

theorem resolveAny_detached :
    p.detached.resolveAny v.detached = outcomeDetached detached (p.resolveAny v) := by
  rw [resolveAny, operand_detached]
  exact outcomeDetached_map _ fun q => resolve_movedTo p q _

theorem resolveSiblingAny_detached :
    p.detached.resolveSiblingAny v.detached = outcomeDetached detached (p.resolveSiblingAny v) := by
  rw [resolveSiblingAny, operand_detached]
  exact outcomeDetached_map _ fun q => resolveSibling_movedTo p q _

theorem relativizeAny_detached :
    p.detached.relativizeAny v.detached = outcomeDetached detached (p.relativizeAny v) := by
  rw [relativizeAny, operand_detached]
  refine outcomeDetached_bind _ fun q => ?_
  rw [detached, detached, relativize_movedTo]
  cases p.relativize q <;> rfl

theorem endsWithAny_detached :
    p.detached.endsWithAny v.detached = outcomeDetached id (p.endsWithAny v) := by
  rw [endsWithAny, operand_detached]
  exact outcomeDetached_map _ fun q => endsWith_movedTo p q _

theorem compareAny_detached :
    p.detached.compareAny v.detached = outcomeDetached id (p.compareAny v) := by
  cases v with
  | error l e =>
    rw [Value.detached_error]
    show Except.error (Fault.failure (.foreignComparand _ (Value.error l e.detached).typeName)) = _
    rw [← Value.detached_error, Value.typeName_detached]
    rfl
  | _ => rfl

theorem containsAny_detached : p.detached.containsAny v.detached = p.containsAny v := by
  cases v with
  | path q => exact hasComponent_movedTo p q _
  | _ => rfl

/-- The quotient of values that are taken for numbers. -/
theorem quotientOfNumbers_detached (label : Nat) :
    (match v.detached.quotientOfNumbers? w.detached with
      | some x => (misused x).map fun a => Value.float label a
      | none => .error (.misuse (.indivisible v.detached.typeName w.detached.typeName))) =
    outcomeDetached Value.detached
      (match v.quotientOfNumbers? w with
        | some x => (misused x).map fun a => Value.float label a
        | none => .error (.misuse (.indivisible v.typeName w.typeName))) := by
  simp only [Value.quotientOfNumbers?_detached, Value.typeName_detached]
  cases v.quotientOfNumbers? w with
  | none => rfl
  | some x => cases x <;> rfl

theorem quotient_detached (label : Nat) :
    v.detached.quotient label w.detached = outcomeDetached Value.detached (v.quotient label w) := by
  -- unless a path is divided by a path or a text, numbers are asked for
  have hnumbers := quotientOfNumbers_detached v w label
  cases v with
  | path p =>
    cases w with
    | path q => exact congrArg (fun r => Except.ok (Value.path r)) (resolve_movedTo p q _)
    | text t =>
      show (p.detached.resolveAny (Value.text t).detached).map Value.path = _
      rw [resolveAny_detached]
      exact outcomeDetached_map _ fun _ => rfl
    | _ => exact hnumbers
  | _ => exact hnumbers

/-! ## Section 3: Indices and conversions -/

theorem indexFault_detached : p.detached.indexFault v.detached = (p.indexFault v).detached := by
  unfold indexFault
  simp only [Value.isWritable_detached]
  split <;> rfl

theorem rangeFault_detached :
    p.detached.rangeFault v.detached w.detached = (p.rangeFault v w).detached := by
  unfold rangeFault
  simp only [Value.isWritable_detached]
  split <;> rfl

theorem nameAtAny_detached :
    p.detached.nameAtAny v.detached = outcomeDetached detached (p.nameAtAny v) := by
  unfold nameAtAny
  simp only [Value.integer?_detached, Value.number?_detached, Value.typeName_detached,
    indexFault_detached]
  cases v.integer? with
  | some i =>
    dsimp only
    rw [detached, nameAt?_movedTo]
    cases p.nameAt? i <;> rfl
  | none =>
    cases v.number? with
    | none => rfl
    | some x =>
      dsimp only
      rw [apply_ite (outcomeDetached detached)]
      rfl

theorem subpathAny_detached :
    p.detached.subpathAny v.detached w.detached = outcomeDetached detached (p.subpathAny v w) := by
  unfold subpathAny
  simp only [Value.integer?_detached, Value.number?_detached, Value.typeName_detached,
    rangeFault_detached]
  split
  · next i j hi hj =>
    rw [detached, subpath?_movedTo]
    cases p.subpath? i j <;> rfl
  · cases v.number? with
    | none => rfl
    | some x =>
      dsimp only
      rw [apply_ite (outcomeDetached detached)]
      cases w.number? with
      | none => rfl
      | some y =>
        dsimp only
        rw [apply_ite (outcomeDetached detached)]
        rfl

theorem absolute_detached : p.detached.absolute = outcomeDetached detached p.absolute := by
  rw [absolute, detached, absolute?_movedTo]
  unfold absolute
  cases p.absolute? <;> rfl

theorem uri_detached : p.detached.uri = p.uri := rfl

theorem location_detached : p.detached.location = p.location := rfl

theorem report_detached : p.detached.report = p.report := rfl

theorem refuse_detached (operation : Unsupported) :
    p.detached.refuse operation = p.refuse operation := rfl

end Path

/-! ## Section 4: Comparisons -/

namespace Value

/-- Two values compare as two others if they are equal alike and ordered
    alike. -/
theorem comparisonReport_congr {v w v' w' : Value} (hsame : v.same w = v'.same w')
    (hordered : ∀ op, v.ordered op w = v'.ordered op w') :
    v.comparisonReport w = v'.comparisonReport w' := by
  simp only [comparisonReport, hsame, hordered]

/-- A path is equal to another value if that is a path of the same address. -/
theorem same_path (p : StorePath) (w : Value) :
    (path p).same w =
      match w with
      | .path q => .ok (p.toAddress == q.toAddress)
      | _ => .ok false := by
  show alikeUpTo _ unfoldingLimit (path p) w = _
  rw [unfoldingLimit, alikeUpTo]
  cases w <;> rfl

theorem same_of_path (v : Value) (q : StorePath) :
    v.same (path q) =
      match v with
      | .path p => .ok (p.toAddress == q.toAddress)
      | _ => .ok false := by
  have halike : v.same (path q) = v.alike (path q) := by
    unfold same
    cases v.number? <;> rfl
  rw [halike, alike, unfoldingLimit, alikeUpTo]
  cases v with
  | float l x => cases x <;> rfl
  | _ => rfl

/-- How a path compares with any value does not depend on file systems. -/
theorem comparisonReport_path (p : StorePath) (w : Value) :
    (path p).detached.comparisonReport w.detached = (path p).comparisonReport w := by
  refine comparisonReport_congr ?_ fun op => ?_
  · rw [detached_path, same_path, same_path]
    cases w <;> rfl
  · -- a path is ordered before or after paths only; other values are named by type
    cases w with
    | error l e => obtain ⟨d, _, _, _⟩ := e; cases d <;> rfl
    | _ => rfl

theorem comparisonReport_of_path (v : Value) (q : StorePath) :
    v.detached.comparisonReport (path q).detached = v.comparisonReport (path q) := by
  refine comparisonReport_congr ?_ fun op => ?_
  · rw [detached_path, same_of_path, same_of_path]
    cases v <;> rfl
  · cases v with
    | error l e => obtain ⟨d, _, _, _⟩ := e; cases d <;> rfl
    | _ => rfl

end Value

/-! ## Section 5: Making paths -/

namespace Address

theorem parseAny_detached (v : Value) : parseAny v.detached = parseAny v := by
  cases v with
  | error l e => obtain ⟨d, _, _, _⟩ := e; cases d <;> rfl
  | _ => rfl

theorem nameOf_detached (v : Value) : nameOf v.detached = nameOf v := by
  cases v with
  | error l e => obtain ⟨d, _, _, _⟩ := e; cases d <;> rfl
  | _ => rfl

theorem namesOf_detached (vs : List Value) : namesOf (vs.map Value.detached) = namesOf vs := by
  induction vs with
  | nil => rfl
  | cons v rest ih => rw [List.map_cons, namesOf, namesOf, nameOf_detached, ih]

theorem bucketOf_detached (v : Value) : bucketOf v.detached = bucketOf v := by
  cases v with
  | error l e => obtain ⟨d, _, _, _⟩ := e; cases d <;> rfl
  | _ => rfl

theorem ofNamesAny_detached (bucket : Value) (segments : List Value) :
    ofNamesAny bucket.detached (segments.map Value.detached) = ofNamesAny bucket segments := by
  rw [ofNamesAny, ofNamesAny, bucketOf_detached, namesOf_detached]

end Address

namespace FileSystem

theorem textsFrom_detached (position : Nat) (vs : List Value) :
    textsFrom position (vs.map Value.detached) = textsFrom position vs := by
  induction vs generalizing position with
  | nil => rfl
  | cons v rest ih =>
    cases v with
    | text s => exact congrArg (Except.map _) (ih (position + 1))
    | error l e => obtain ⟨d, _, _, _⟩ := e; cases d <;> rfl
    | _ => rfl

theorem getPath_detached (f g : Store) (vs : List Value) :
    outcomeDetached Path.detached (f.getPath (vs.map Value.detached)) =
      outcomeDetached Path.detached (g.getPath vs) := by
  have htruthy : (vs.map Value.detached).filter Value.truthy =
      (vs.filter Value.truthy).map Value.detached := by
    rw [List.filter_map]
    exact congrArg (List.map _) (List.filter_congr fun v _ => Value.truthy_detached v)
  unfold getPath
  rw [List.isEmpty_map, htruthy, textsFrom_detached]
  split
  · rfl
  · cases textsFrom 0 (vs.filter Value.truthy) with
    | error m => rfl
    | ok texts =>
      show outcomeDetached _ ((Address.parseAny _).map _) = outcomeDetached _ ((Address.parseAny _).map _)
      cases Address.parseAny (.text (separatorText.intercalate texts)) <;> rfl

theorem pathFromParts_detached (f g : Store) (bucket : Value) (segments : List Value) :
    outcomeDetached Path.detached
        (f.pathFromParts bucket.detached (segments.map Value.detached)) =
      outcomeDetached Path.detached (g.pathFromParts bucket segments) := by
  rw [pathFromParts, pathFromParts, Address.ofNamesAny_detached]
  cases Address.ofNamesAny bucket segments <;> rfl

end FileSystem

/-- A value that a path can be given as its file system: a file system, or
    null for the default one. -/
def Value.IsGiven (v : Value) : Prop := v = .null ∨ ∃ f, v = .fileSystem f

namespace Registry

theorem hostFor_of_isGiven {v : Value} (hv : v.IsGiven) (r : Registry) :
    ∃ h r', r.hostFor v = (.ok h, r') := by
  obtain rfl | ⟨f, rfl⟩ := hv
  · exact ⟨_, _, rfl⟩
  · exact ⟨_, _, rfl⟩

/-- The path at an address is the same, detached, in every file system that is
    given for it. -/
theorem pathAt_of_isGiven {host : Value} (hhost : host.IsGiven) (r : Registry)
    (address : Except Fault Address) :
    outcomeDetached Path.detached (r.pathAt address host).1 =
      outcomeDetached Path.detached
        (address.map fun a => { a with fileSystem := .config .default }) := by
  cases address with
  | error e => rfl
  | ok a =>
    obtain ⟨h, r', hh⟩ := hostFor_of_isGiven hhost r
    simp only [pathAt, hh]
    rfl

/-- Whether a value gives a host at all is the same for the detached value. -/
theorem hostFor_detached (r r' : Registry) (v : Value) :
    (∃ h h', (r.hostFor v.detached).1 = .ok h ∧ (r'.hostFor v).1 = .ok h') ∨
      ∃ e : Misuse, (r.hostFor v.detached).1 = .error (.misuse e) ∧
        (r'.hostFor v).1 = .error (.misuse e) := by
  cases hhost : v.host? with
  | some h =>
    left
    cases v with
    | config c => exact ⟨_, _, rfl, rfl⟩
    | fileSystem f => exact ⟨_, _, rfl, rfl⟩
    | _ => cases hhost
  | none =>
    have hdetached : v.detached.host? = none := by
      cases v with
      | config c => cases hhost
      | fileSystem f => cases hhost
      | _ => rfl
    simp only [hostFor, hostOf?, hhost, hdetached, Value.truthy_detached, Value.typeName_detached]
    cases v.truthy with
    | true => exact .inr ⟨_, rfl, rfl⟩
    | false => exact .inl ⟨_, _, rfl, rfl⟩

theorem pathAt_detached (r r' : Registry) (address : Except Fault Address) (v : Value) :
    outcomeDetached Path.detached (r.pathAt address v.detached).1 =
      outcomeDetached Path.detached (r'.pathAt address v).1 := by
  cases address with
  | error e => rfl
  | ok a =>
    have hpath (r : Registry) (v : Value) : (r.pathAt (.ok a) v).1 =
        (r.hostFor v).1.map fun h => { a with fileSystem := h } := by
      rw [pathAt]
      rcases r.hostFor v with ⟨_ | h, r⟩ <;> rfl
    rw [hpath, hpath]
    obtain ⟨h, h', hh, hh'⟩ | ⟨e, he, he'⟩ := hostFor_detached r r' v
    · rw [hh, hh']
      rfl
    · rw [he, he']

end Registry

end Keyspace
