import Keyspace.Proofs.Path.FileSystem
import Keyspace.Proofs.Path.Parsing

/-! # The algebra of resolution

    `resolve` answers with its operand, with the path itself or with a new
    path. A relative operand without segments is no case of its own: the path
    itself is what appending no segments makes (`resolve_of_relative`). So two
    cases are left, an operand that replaces the path and one whose segments
    are appended, and in both of them the bucket, the segments and the file
    system of the result are known.

    * Resolving is associative, whichever of the three paths are absolute and
      whatever their file systems.
    * A path without bucket and segments is neutral on both sides, but on the
      left only up to equality, since its file system stays.
    * A relative operand can be cancelled on either side.
-/

namespace Keyspace

theorem Address.eq_iff {a b : Address} :
    a = b ↔ a.bucket = b.bucket ∧ a.segments = b.segments := by
  obtain ⟨_, _⟩ := a
  obtain ⟨_, _⟩ := b
  rw [mk.injEq]

/-- Other addresses than the empty one have a bucket or segments. -/
theorem Address.ne_empty_iff {a : Address} :
    a ≠ ⟨none, []⟩ ↔ (a.bucket = none → a.segments ≠ []) := by
  rw [Ne, eq_iff, not_and]

theorem Address.isAbsolute_eq_false_iff {a : Address} :
    a.isAbsolute = false ↔ a.bucket = none := by
  rw [isAbsolute, Option.isSome_eq_false_iff, Option.isNone_iff_eq_none]

namespace Path

variable {F : Type} {p q r : Path F}

/-! ## Section 1: Two cases -/

/-- An absolute operand replaces the path. -/
theorem resolve_of_absolute (hq : q.isAbsolute = true) : p.resolve q = q := by
  rw [resolve, if_pos hq]

/-- The segments of a relative operand are appended, none if it has none. -/
theorem resolve_of_relative (hq : q.isAbsolute = false) :
    p.resolve q = p.derive p.bucket (p.segments ++ q.segments) := by
  rw [resolve, if_neg (by rw [hq]; exact Bool.false_ne_true)]
  split
  · next hempty =>
    rw [hempty, List.append_nil]
    rfl
  · rfl

/-- The path with further segments behind those of `p`. -/
def extended (p : Path F) (rest : List String) : Path F := p.derive p.bucket (p.segments ++ rest)

theorem extended_nil (p : Path F) : p.extended [] = p := by
  rw [extended, List.append_nil]
  rfl

theorem extended_extended (p : Path F) (xs ys : List String) :
    (p.extended xs).extended ys = p.extended (xs ++ ys) := by
  simp only [extended, derive, List.append_assoc]

theorem isAbsolute_resolve (p q : Path F) :
    (p.resolve q).isAbsolute = (p.isAbsolute || q.isAbsolute) := by
  cases hq : q.isAbsolute with
  | true => rw [resolve_of_absolute hq, hq, Bool.or_true]
  | false =>
    rw [resolve_of_relative hq, Bool.or_false]
    rfl

/-! ## Section 2: Laws -/

/-- Resolving is associative, file systems included. -/
theorem resolve_assoc (p q r : Path F) : (p.resolve q).resolve r = p.resolve (q.resolve r) := by
  cases hr : r.isAbsolute with
  | true =>
    -- the last operand replaces everything before it
    rw [resolve_of_absolute hr, resolve_of_absolute hr, resolve_of_absolute hr]
  | false =>
    have habs : (q.resolve r).isAbsolute = q.isAbsolute := by
      rw [isAbsolute_resolve, hr, Bool.or_false]
    cases hq : q.isAbsolute with
    | true => rw [resolve_of_absolute hq, resolve_of_absolute (habs.trans hq)]
    | false =>
      -- only segments are appended, all in the file system of the first path
      rw [resolve_of_relative hr, resolve_of_relative hq, resolve_of_relative (habs.trans hq),
        resolve_of_relative hr]
      simp only [derive, List.append_assoc]

/-- Without bucket and segments there is nothing to append. -/
theorem resolve_empty {e : Path F} (he : e.toAddress = ⟨none, []⟩) (p : Path F) :
    p.resolve e = p := by
  have hrelative : e.isAbsolute = false := by
    rw [he]
    rfl
  rw [resolve_of_relative hrelative, he, List.append_nil]
  rfl

theorem empty_resolve {e : Path F} (he : e.toAddress = ⟨none, []⟩) (q : Path F) :
    (e.resolve q).toAddress = q.toAddress := by
  cases hq : q.isAbsolute with
  | true => rw [resolve_of_absolute hq]
  | false =>
    have hbucket : q.bucket = none := Address.isAbsolute_eq_false_iff.mp hq
    rw [resolve_of_relative hq, he, List.nil_append, derive, ← hbucket]

/-- Paths that relative operands make equal from one path are made so by equal
    operands. -/
theorem resolve_left_cancel (hq : q.isAbsolute = false) (hr : r.isAbsolute = false)
    (h : (p.resolve q).toAddress = (p.resolve r).toAddress) : q.toAddress = r.toAddress := by
  rw [resolve_of_relative hq, resolve_of_relative hr] at h
  have hsegments : p.segments ++ q.segments = p.segments ++ r.segments :=
    (Address.eq_iff.mp h).2
  have hbucket : q.bucket = r.bucket :=
    (Address.isAbsolute_eq_false_iff.mp hq).trans (Address.isAbsolute_eq_false_iff.mp hr).symm
  exact Address.eq_iff.mpr ⟨hbucket, List.append_cancel_left hsegments⟩

/-- Paths that one relative operand makes equal were equal before. -/
theorem resolve_right_cancel {p' : Path F} (hq : q.isAbsolute = false)
    (h : (p.resolve q).toAddress = (p'.resolve q).toAddress) : p.toAddress = p'.toAddress := by
  rw [resolve_of_relative hq, resolve_of_relative hq] at h
  obtain ⟨hbucket, hsegments⟩ := Address.eq_iff.mp h
  exact Address.eq_iff.mpr ⟨hbucket, List.append_cancel_right hsegments⟩

end Path

/-! ## Section 3: The path of the empty text -/

namespace Registry

/-- The empty text makes a path without bucket and segments, in whatever file
    system. -/
theorem toAddress_of_path_empty {r : Registry} {host : Value} {e : StorePath}
    (h : (r.path (.text "") host).1 = .ok e) : e.toAddress = ⟨none, []⟩ := by
  have hparse : Address.parseAny (.text "") = .ok ⟨none, []⟩ := by rfl
  exact (Except.ok.inj (hparse.symm.trans (pathAt_ok h))).symm

end Registry

namespace Path

/-- **The algebra of resolution.** Of three paths in any file systems it does
    not matter which two are resolved first: bucket, segments and file system
    come out the same. A path of the empty text changes nothing as an operand,
    and makes a path equal to its operand. A relative operand can be told from
    the result, and so can the path that it was resolved against. -/
theorem resolution_algebra (p q r p' : StorePath) (registry : Registry) (host : Value) :
    (p.resolve q).resolve r = p.resolve (q.resolve r) ∧
      (∃ e, (registry.path (.text "") .null).1 = .ok e) ∧
      (∀ e, (registry.path (.text "") host).1 = .ok e →
        p.resolve e = p ∧ (e.resolve q == q) = true) ∧
      (q.isAbsolute = false → r.isAbsolute = false →
        (p.resolve q == p.resolve r) = true → (q == r) = true) ∧
      (q.isAbsolute = false → (p.resolve q == p'.resolve q) = true → (p == p') = true) := by
  simp only [beq_iff]
  refine ⟨resolve_assoc p q r, ⟨_, rfl⟩, fun e he => ?_, resolve_left_cancel,
    resolve_right_cancel⟩
  have haddress := Registry.toAddress_of_path_empty he
  exact ⟨resolve_empty haddress p, empty_resolve haddress q⟩

/-- Three file systems, of which that of the first path is kept. -/
theorem resolution_algebra_three_file_systems :
    let host (n : Nat) : Host Value := .fileSystem ⟨.default, n, []⟩
    let p : StorePath := ⟨⟨some "b", ["x"]⟩, host 1⟩
    let q : StorePath := ⟨⟨none, []⟩, host 2⟩
    let r : StorePath := ⟨⟨none, ["y", "z"]⟩, host 3⟩
    (p.resolve q).resolve r = p.resolve (q.resolve r) ∧
      p.resolve (q.resolve r) = ⟨⟨some "b", ["x", "y", "z"]⟩, host 1⟩ ∧
      r.isAbsolute = false ∧ (p.resolve r == p.resolve r) = true ∧ (r == r) = true ∧
      (p == p) = true := by
  intro host p q r
  have hresolved : (p.resolve r == p.resolve r) = true := beq_iff.mpr rfl
  obtain ⟨hassoc, -, -, hleft, hright⟩ := resolution_algebra p r r p Registry.empty .null
  obtain ⟨hassoc', -⟩ := resolution_algebra p q r p Registry.empty .null
  exact ⟨hassoc', rfl, rfl, hresolved, hleft rfl rfl hresolved, hright rfl hresolved⟩

end Path

end Keyspace
