import Keyspace.Proofs.PathError.Rebuilding
import Keyspace.Proofs.Session.Written

/-! # What literal forms tell

    A literal form looks like a call, and contents that look like the rest of a
    call cannot be mistaken for it: the texts in it are quoted. So literal forms
    tell errors apart, and paths as well (`literals_unambiguous`). An error has
    one exactly if the integers in its index are short.
-/

namespace Keyspace.Session

theorem Reachable.literal_eq_iff {p q : StorePath} (hp : Reachable p) (hq : Reachable q) :
    (Value.path p).spelled .literal = (Value.path q).spelled .literal ↔ (p == q) = true := by
  have hliteral (r : StorePath) : (Value.path r).spelled .literal =
      Form.call "S3Path" [Text.quote r.text] := rfl
  rw [hp.beq_iff_text hq, hliteral, hliteral]
  constructor
  · intro h
    rw [← String.toList_inj] at h
    simp only [Form.call, Form.enclosed, String.intercalate_singleton, String.toList_append,
      List.append_cancel_left_eq, List.append_cancel_right_eq, String.toList_inj] at h
    exact Text.quote_inj.mp h
  · intro h
    rw [h]

/-- Two errors are the same in all that a literal form tells. -/
def SameContents (e₁ e₂ : PathError Value) : Prop :=
  e₁.kind = e₂.kind ∧ e₁.message = e₂.message ∧ e₁.path = e₂.path ∧ e₁.bucket = e₂.bucket ∧
    e₁.detail = e₂.detail

theorem sameContents_iff {e₁ e₂ : PathError Value} : SameContents e₁ e₂ ↔ e₁ = e₂ := by
  constructor
  · rintro ⟨-, hmessage, hpath, hbucket, hdetail⟩
    cases e₁
    cases e₂
    simp_all
  · rintro rfl
    exact ⟨rfl, rfl, rfl, rfl, rfl⟩

/-- **Literal forms are unambiguous.** An error that is built from a text as its
    message, texts or null as path, bucket and other path, texts as reason and
    operation, and an integer, two of them or null as index has contents of
    these types, whichever of the arguments are left out. It has a literal form
    exactly if the integers are short; else it cannot be written. Two errors
    that have one have the same exactly if their kinds, messages, paths, buckets
    and what their kinds add are the same. Reachable paths always have a literal
    form, and the same exactly if they are equal. -/
theorem literals_unambiguous :
    (∀ (kind : ErrorKind) (positional : List Value) (named : List (String × Value))
        (e : PathError Value), (∀ v ∈ positional, ∃ m, v = .text m) →
      (∀ a ∈ named, PathError.Suits a.1 a.2) → PathError.build kind positional named = .ok e →
      e.IsWorded) ∧
      (∀ e : PathError Value, e.IsWorded →
        ((∃ t, e.literal = .ok t) ↔ e.detail.HasShortBounds) ∧
          (¬e.detail.HasShortBounds → e.literal = .error .tooManyDigits)) ∧
      (∀ e₁ e₂ : PathError Value, e₁.IsWorded → e₂.IsWorded → e₁.detail.HasShortBounds →
        e₂.detail.HasShortBounds → ∃ t₁ t₂, e₁.literal = .ok t₁ ∧ e₂.literal = .ok t₂ ∧
          (t₁ = t₂ ↔ SameContents e₁ e₂)) ∧
      ∀ p q : StorePath, Reachable p → Reachable q →
        ∃ t₁ t₂, (Value.path p).literal = .ok t₁ ∧ (Value.path q).literal = .ok t₂ ∧
          (t₁ = t₂ ↔ (p == q) = true) := by
  have hwritten {e : PathError Value} (he : e.IsWorded) (hshort : e.detail.HasShortBounds) :
      e.literal = .ok ((Value.error 0 e).spelled .literal) :=
    Value.written_of_isWritable _ ((he.isWritable_iff 0).mpr hshort)
  refine ⟨fun _ _ _ _ => PathError.isWorded_of_build, fun e he => ⟨⟨?_, ?_⟩, fun hlong => ?_⟩,
    fun e₁ e₂ h₁ h₂ hs₁ hs₂ => ⟨_, _, hwritten h₁ hs₁, hwritten h₂ hs₂, ?_⟩, fun p q hp hq => ?_⟩
  · rintro ⟨t, ht⟩
    exact (he.isWritable_iff 0).mp (Value.written_eq_ok_iff.mp ht).1
  · exact fun hshort => ⟨_, hwritten he hshort⟩
  · refine Value.written_of_not_isWritable ?_
    rwa [← Bool.not_eq_true, he.isWritable_iff 0]
  · rw [PathError.literal_inj 0 h₁ h₂, sameContents_iff]
  · have hpath (r : StorePath) := Value.written_of_isWritable .literal
      (Value.isWritable_path r)
    exact ⟨_, _, hpath p, hpath q, hp.literal_eq_iff hq⟩

/-- A path that looks like a path and a bucket, beside a path and a bucket; a
    range that looks like an index, and a name with both quotes. -/
theorem literals_unambiguous_imitated :
    let e₁ : PathError Value := ⟨.general, .text "m", .text "a', bucket='b", .null⟩
    let e₂ : PathError Value := ⟨.general, .text "m", .text "a", .text "b"⟩
    let e₃ : PathError Value := ⟨.indexOutOfRange (.pair (.int 1) (.int (-2))), .text "", .null, .null⟩
    let p : StorePath := ⟨⟨some "b", ["'\x22"]⟩, .fileSystem (.ofHost 0 (.config .default))⟩
    let q : StorePath := ⟨⟨some "b", ["'\\\x22"]⟩, .fileSystem (.ofHost 0 (.config .default))⟩
    PathError.build .general [.text "m"] [("path", .text "a', bucket='b")] = .ok e₁ ∧
      PathError.build .general [.text "m"] [("path", .text "a"), ("bucket", .text "b")] = .ok e₂ ∧
      PathError.build .indexOutOfRange [] [("index", .pair (.int 1) (.int (-2)))] = .ok e₃ ∧
      e₁.IsWorded ∧ e₂.IsWorded ∧ e₃.IsWorded ∧
      (∃ t₁ t₂, e₁.literal = .ok t₁ ∧ e₂.literal = .ok t₂ ∧ t₁ ≠ t₂) ∧
      (∃ t₁ t₃, e₁.literal = .ok t₁ ∧ e₃.literal = .ok t₃ ∧ t₁ ≠ t₃) ∧
      Reachable p ∧ Reachable q ∧
      ∃ s t, (Value.path p).literal = .ok s ∧ (Value.path q).literal = .ok t ∧ s ≠ t := by
  intro e₁ e₂ e₃ p q
  obtain ⟨hbuild, -, herrors, hpaths⟩ := literals_unambiguous
  have hmessage : ∀ v ∈ [Value.text "m"], ∃ m, v = .text m := by
    intro v hv
    exact ⟨"m", List.mem_singleton.mp hv⟩
  have hb₁ : PathError.build .general [.text "m"] [("path", .text "a', bucket='b")] = .ok e₁ := rfl
  have hb₂ : PathError.build .general [.text "m"] [("path", .text "a"), ("bucket", .text "b")] =
      .ok e₂ := rfl
  have hb₃ : PathError.build .indexOutOfRange [] [("index", .pair (.int 1) (.int (-2)))] =
      .ok e₃ := rfl
  have hgiven (s : String) : Value.IsTextOrNull (.text s) := ⟨some s, rfl⟩
  have h₁ := hbuild _ _ _ e₁ hmessage (by simp [PathError.Suits, hgiven]) hb₁
  have h₂ := hbuild _ _ _ e₂ hmessage (by simp [PathError.Suits, hgiven]) hb₂
  have h₃ := hbuild _ _ _ e₃ (by simp) (by simp [PathError.Suits, Value.IsIndex]) hb₃
  have hshort : Text.isShort 1 = true ∧ Text.isShort (-2) = true := ⟨by decide, by decide⟩
  have hparse : Address.parse? "/b/'\x22" = some p.toAddress := by decide +kernel
  have hparse' : Address.parse? "/b/'\\\x22" = some q.toAddress := by decide +kernel
  have hp : Reachable p := reachable_of_parse? hparse
  have hq : Reachable q := reachable_of_parse? hparse'
  obtain ⟨t₁, t₂, ht₁, ht₂, hiff⟩ := herrors e₁ e₂ h₁ h₂ trivial trivial
  obtain ⟨u₁, u₃, hu₁, hu₃, hiff'⟩ := herrors e₁ e₃ h₁ h₃ trivial hshort
  obtain ⟨s, t, hs, ht, hiff''⟩ := hpaths p q hp hq
  refine ⟨hb₁, hb₂, hb₃, h₁, h₂, h₃, ⟨t₁, t₂, ht₁, ht₂, fun h => ?_⟩,
    ⟨u₁, u₃, hu₁, hu₃, fun h => ?_⟩, hp, hq, ⟨s, t, hs, ht, fun h => ?_⟩⟩
  · obtain ⟨-, -, -, hbucket, -⟩ := hiff.mp h
    cases hbucket
  · obtain ⟨hkind, -⟩ := hiff'.mp h
    cases hkind
  · have hsame := hiff''.mp h
    rw [Path.beq_iff] at hsame
    exact absurd hsame (by decide +kernel)

/-- An index of one digit more than can be written: the error is built, but has
    no literal form to be told by. -/
theorem not_literal_of_tooManyDigits :
    let large : Int := Int.ofNat (Nat.pow 10 4300)
    let e : PathError Value := ⟨.indexOutOfRange (.int large), .text "", .null, .null⟩
    PathError.build .indexOutOfRange [] [("index", .int large)] = .ok e ∧
      e.literal = .error .tooManyDigits ∧
      ¬∀ e₁ e₂ : PathError Value, e₁.IsWorded → e₂.IsWorded →
        ∃ t₁ t₂, e₁.literal = .ok t₁ ∧ e₂.literal = .ok t₂ ∧
          (t₁ = t₂ ↔ SameContents e₁ e₂) := by
  intro large e
  have hworded : e.IsWorded :=
    ⟨⟨"", rfl⟩, ⟨none, rfl⟩, ⟨none, rfl⟩, .inr (.inl ⟨large, rfl⟩)⟩
  have hlong : (Value.error 0 e).isWritable = false := by
    rw [← Bool.not_eq_true, hworded.isWritable_iff 0]
    exact Bool.eq_false_iff.mp (Text.not_isShort_pow (k := 4300) (by decide))
  have hliteral : e.literal = .error .tooManyDigits := Value.written_of_not_isWritable hlong
  refine ⟨rfl, hliteral, fun hall => ?_⟩
  obtain ⟨t, -, ht, -⟩ := hall e e hworded hworded
  rw [hliteral] at ht
  cases ht

end Keyspace.Session
