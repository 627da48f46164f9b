import Keyspace.FileSystem.Operand
import Keyspace.Proofs.Path.Failing
import Keyspace.Proofs.Value.Printable

/-! # How path errors are worded

    A path error can always be written (`Failure.isWritable_error`): an index or
    a bound that it tells is not too long, or there would be another error.

    The wording of a path error quotes all texts that it is about. What it
    shows as it is are names of types, an index or the bounds of a range, and
    counts. As long as these are printable the whole wording is
    (`Failure.printable_text`), and they are in all errors that operations
    raise, but for one case: the second bound of a range is not looked at if the
    first one is negative, and may be of any type.
-/

namespace Keyspace

open Text

variable {α : Type} {p : StorePath} {v w : Value} {f : Failure}

/-! ## Section 1: The wording of a cause -/

namespace Failure

/-- What the wording of the cause shows without quotes is printable. -/
def Presentable : Failure → Prop
  | notText t | foreignOperand _ t | foreignComparand _ t => Printable t
  | indexOutOfRange _ i _ => Printable (i.spelled .plain)
  | invalidRange _ b e _ => Printable (b.spelled .plain) ∧ Printable (e.spelled .plain)
  | _ => True

theorem printable_segmentCount (a : Address) : Printable a.segmentCount :=
  (printable_nat _).append (by decide)

theorem printable_message (h : f.Presentable) : ∃ m, f.error.message = .text m ∧ Printable m := by
  cases f with
  | bucketMissing s => exact ⟨_, rfl, printable_of_all (by decide)⟩
  | bucketEmpty => exact ⟨_, rfl, printable_of_all (by decide)⟩
  | notText t => exact ⟨_, rfl, Printable.append (printable_of_all (by decide)) h⟩
  | foreignOperand a t => exact ⟨_, rfl, Printable.append (printable_of_all (by decide)) h⟩
  | foreignComparand a t => exact ⟨_, rfl, Printable.append (printable_of_all (by decide)) h⟩
  | notAbsolute a need => exact ⟨_, rfl, by cases need <;> exact printable_of_all (by decide)⟩
  | indexOutOfRange a i _ =>
    have hindex : Printable ("Index " ++ i.spelled .plain) := Printable.append (by decide) h
    exact ⟨_, rfl, (hindex.append (by decide)).append (printable_segmentCount a)⟩
  | invalidRange a b e _ =>
    have hfirst : Printable ("Invalid range [" ++ b.spelled .plain) :=
      Printable.append (by decide) h.1
    have hbounds :
        Printable ("Invalid range [" ++ b.spelled .plain ++ ", " ++ e.spelled .plain) :=
      (hfirst.append (by decide)).append h.2
    exact ⟨_, rfl, (hbounds.append (by decide)).append (printable_segmentCount a)⟩
  | incompatible a b m => exact ⟨_, rfl, by cases m <;> exact printable_of_all (by decide)⟩
  | unsupported a op =>
    have hname : Printable op.name := by cases op <;> exact printable_of_all (by decide)
    have hopening : Printable ("Operation '" ++ op.name) := Printable.append (by decide) hname
    exact ⟨_, rfl, hopening.append (printable_of_all (by decide))⟩

/-- What is told about a cause can be told. -/
theorem isWritable_error (f : Failure) : (Value.error 0 f.error).isWritable = true := by
  rw [Value.isWritable_error]
  cases f with
  | indexOutOfRange a i h => simp [error, about, ErrorDetail.contents, h]
  | invalidRange a b e h => simp [error, about, ErrorDetail.contents, h]
  | _ => simp [error, about, ErrorDetail.contents]

theorem printable_text (h : f.Presentable) : ∃ s, f.error.text = .ok s ∧ Printable s := by
  obtain ⟨m, hm, hprintable⟩ := printable_message h
  have htext := Value.written_of_isWritable .plain f.isWritable_error
  refine ⟨_, htext, PathError.printable_text ?_ htext⟩
  rw [hm]
  exact hprintable

theorem printable_literal (f : Failure) : ∃ s, f.error.literal = .ok s ∧ Printable s := by
  have hliteral := Value.written_of_isWritable .literal f.isWritable_error
  exact ⟨_, hliteral, PathError.printable_literal hliteral⟩

/-- The wording shows a bound as it is. -/
example : ∃ s, (invalidRange ⟨none, []⟩ (.int (-1)) (.text "\n") (by decide)).error.text = .ok s ∧
    ¬Printable s :=
  ⟨_, rfl, by decide⟩

end Failure

/-! ## Section 2: Constructions -/

theorem misused_ne_failure (x : Except Misuse α) (f : Failure) :
    misused x ≠ .error (.failure f) := by
  cases x <;> exact nofun

/-- A path error behind a part that can only be misused. -/
theorem exists_of_misused_bind {β : Type} {x : Except Misuse β} {g : β → Except Fault α}
    (h : (misused x).bind g = .error (.failure f)) : ∃ b, g b = .error (.failure f) := by
  rcases bind_eq_error.mp h with h | ⟨b, -, h⟩
  · exact absurd h (misused_ne_failure x f)
  · exact ⟨b, h⟩

theorem Address.presentable_of_parseAny (h : parseAny v = .error (.failure f)) :
    f.Presentable := by
  cases v with
  | text s =>
    rw [parseAny] at h
    split at h
    · cases h
    · cases h
      trivial
  | _ =>
    cases h
    exact Value.printable_typeName _

theorem Address.presentable_of_ofNamesAny {vs : List Value}
    (h : ofNamesAny v vs = .error (.failure f)) : f.Presentable := by
  obtain ⟨b, h⟩ := exists_of_misused_bind h
  split at h
  · cases h
    trivial
  obtain ⟨names, h⟩ := exists_of_misused_bind h
  split at h
  · cases h
  · cases h
    trivial

theorem FileSystem.presentable_of_getPath {s : Store} {vs : List Value}
    (h : s.getPath vs = .error (.failure f)) : f.Presentable := by
  unfold getPath at h
  split at h
  · cases h
  · obtain ⟨texts, h⟩ := exists_of_misused_bind h
    exact Address.presentable_of_parseAny (map_eq_error.mp h)

theorem FileSystem.presentable_of_pathFromParts {s : Store} {vs : List Value}
    (h : s.pathFromParts v vs = .error (.failure f)) : f.Presentable :=
  Address.presentable_of_ofNamesAny (map_eq_error.mp h)

/-! ## Section 3: Operations on a path -/

namespace Path

/-- However a path and a value are combined, an error is about their addresses
    or about the type of the value. -/
theorem presentable_of_outcome {c : Combining} (hc : c.TakesAny)
    (h : c.outcome p v = .error (.failure f)) : f.Presentable := by
  have hverdict := outcome_cases hc p v
  rw [h] at hverdict
  cases hverdict with
  | foreign _ => exact Value.printable_typeName v
  | separators _ _ => trivial
  | incompatible _ _ _ _ => trivial

theorem presentable_of_resolveAny (h : p.resolveAny v = .error (.failure f)) : f.Presentable :=
  presentable_of_outcome (c := .resolve) trivial (map_eq_error.mpr h)

theorem presentable_of_resolveSiblingAny (h : p.resolveSiblingAny v = .error (.failure f)) :
    f.Presentable :=
  presentable_of_outcome (c := .resolveSibling) trivial (map_eq_error.mpr h)

theorem presentable_of_relativizeAny (h : p.relativizeAny v = .error (.failure f)) :
    f.Presentable :=
  presentable_of_outcome (c := .relativize) trivial (map_eq_error.mpr h)

theorem presentable_of_endsWithAny (h : p.endsWithAny v = .error (.failure f)) : f.Presentable :=
  presentable_of_outcome (c := .endsWith) trivial (map_eq_error.mpr h)

theorem presentable_of_compareAny (h : p.compareAny v = .error (.failure f)) : f.Presentable := by
  cases v with
  | path q => cases h
  | _ =>
    cases h
    exact Value.printable_typeName _

/-- Of numbers and values that are none the division sign makes no path
    error. -/
theorem presentable_of_quotient {label : Nat}
    (h : v.quotient label w = .error (.failure f)) : f.Presentable := by
  unfold Value.quotient at h
  split at h
  · cases h
  · exact presentable_of_resolveAny (map_eq_error.mp h)
  · split at h
    · exact absurd (map_eq_error.mp h) (misused_ne_failure _ f)
    · cases h

/-- An index that is out of range is a number. -/
theorem presentable_of_nameAtAny (h : p.nameAtAny v = .error (.failure f)) : f.Presentable := by
  obtain ⟨hnumber, -, rfl⟩ := failure_of_nameAtAny h
  exact Value.printable_plain_of_number hnumber

/-- The first bound of a range that is not inside the segments is a number, but
    the last one need not be. -/
theorem presentable_of_subpathAny (hw : w.number?.isSome = true)
    (h : p.subpathAny v w = .error (.failure f)) : f.Presentable := by
  obtain ⟨hnumber, -, rfl⟩ := failure_of_subpathAny h
  exact ⟨Value.printable_plain_of_number hnumber, Value.printable_plain_of_number hw⟩

theorem presentable_of_uri (h : p.uri = .error (.failure f)) : f.Presentable := by
  rw [uri_of_relative ((uri_needsBucket p).relative_of_error h)] at h
  cases h
  trivial

theorem presentable_of_location (h : p.location = .error (.failure f)) : f.Presentable := by
  rw [location_of_relative ((location_needsBucket p).relative_of_error h)] at h
  cases h
  trivial

theorem presentable_of_absolute (h : p.absolute = .error (.failure f)) : f.Presentable := by
  rw [absolute_of_relative ((absolute_needsBucket p).relative_of_error h)] at h
  cases h
  trivial

end Path

end Keyspace
