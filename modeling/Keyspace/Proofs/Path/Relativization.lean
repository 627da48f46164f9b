import Keyspace.Path.Operand
import Keyspace.Proofs.Path.Containment

/-! # The laws of relativization

    Relativizing compares two paths segment by segment and stops where they
    part. What it has counted then is the largest number of segments that both
    share at the start (`isLongestShared_sharedCount`), and the rest of the
    second path is the answer (`afterCommon_eq_drop`).

    * There is an answer for equal paths, and for absolute ones in one bucket.
      The answer for equal paths is the one that counting would give as well,
      so there is one rule for both (`relativize_of_relatable`).
    * For all other paths there is a condition that they fail
      (`relativize_of_not_relatable`).
    * Since no segment leads upwards, resolving undoes relativizing only where
      all segments of the first path are shared (`resolve_relativize_iff`).
-/

namespace Keyspace.Path

/-! ## Section 1: Shared segments -/

/-- Both lists have `n` leading elements in common, and no larger number of
    them. Only numbers up to the ends of the lists count. -/
structure IsLongestShared (xs ys : List String) (n : Nat) : Prop where
  le_left : n ≤ xs.length
  le_right : n ≤ ys.length
  shared : xs.take n = ys.take n
  longest : ∀ m, m ≤ xs.length → m ≤ ys.length → xs.take m = ys.take m → m ≤ n

/-- How many elements are compared before two lists part. -/
def sharedCount : List String → List String → Nat
  | x :: xs, y :: ys => if x = y then sharedCount xs ys + 1 else 0
  | _, _ => 0

section Shared

variable {xs ys : List String} {n : Nat}

/-- A common element in front is one more. -/
theorem IsLongestShared.cons (h : IsLongestShared xs ys n) (x : String) :
    IsLongestShared (x :: xs) (x :: ys) (n + 1) := by
  refine ⟨Nat.succ_le_succ h.le_left, Nat.succ_le_succ h.le_right, ?_, ?_⟩
  · rw [List.take_succ_cons, List.take_succ_cons, h.shared]
  · intro m hx hy htake
    cases m with
    | zero => exact Nat.zero_le _
    | succ m =>
      rw [List.take_succ_cons, List.take_succ_cons] at htake
      have hrest : xs.take m = ys.take m := (List.cons.inj htake).2
      exact Nat.succ_le_succ
        (h.longest m (Nat.le_of_succ_le_succ hx) (Nat.le_of_succ_le_succ hy) hrest)

/-- Lists that differ at once share nothing. -/
theorem isLongestShared_zero
    (h : ∀ m, m + 1 ≤ xs.length → m + 1 ≤ ys.length → xs.take (m + 1) ≠ ys.take (m + 1)) :
    IsLongestShared xs ys 0 := by
  refine ⟨Nat.zero_le _, Nat.zero_le _, rfl, ?_⟩
  intro m hx hy htake
  cases m with
  | zero => exact Nat.le_refl 0
  | succ m => exact absurd htake (h m hx hy)

/-- The comparison stops at the largest number of shared elements. -/
theorem isLongestShared_sharedCount (xs ys : List String) :
    IsLongestShared xs ys (sharedCount xs ys) := by
  induction xs generalizing ys with
  | nil => exact isLongestShared_zero fun m hx _ => absurd hx (Nat.not_succ_le_zero m)
  | cons x xs ih =>
    cases ys with
    | nil => exact isLongestShared_zero fun m _ hy => absurd hy (Nat.not_succ_le_zero m)
    | cons y ys =>
      by_cases hxy : x = y
      · subst hxy
        rw [sharedCount, if_pos rfl]
        exact (ih ys).cons x
      · rw [sharedCount, if_neg hxy]
        apply isLongestShared_zero
        intro m _ _ htake
        rw [List.take_succ_cons, List.take_succ_cons] at htake
        exact hxy (List.cons.inj htake).1

/-- What is left of the second list is what follows the shared elements. -/
theorem afterCommon_eq_drop (xs ys : List String) :
    afterCommon xs ys = ys.drop (sharedCount xs ys) := by
  induction xs generalizing ys with
  | nil => cases ys <;> rfl
  | cons x xs ih =>
    cases ys with
    | nil => rfl
    | cons y ys =>
      by_cases hxy : x = y
      · rw [afterCommon, sharedCount, if_pos hxy, if_pos hxy, List.drop_succ_cons, ih ys]
      · rw [afterCommon, sharedCount, if_neg hxy, if_neg hxy, List.drop_zero]

theorem afterCommon_self (xs : List String) : afterCommon xs xs = [] := by
  have h := afterCommon_append xs []
  rwa [List.append_nil] at h

/-- Between different lists the number is the largest one altogether: beyond
    the end of a list they do not agree any more. -/
theorem IsLongestShared.le_of_take_eq {m : Nat} (h : IsLongestShared xs ys n) (hne : xs ≠ ys)
    (htake : xs.take m = ys.take m) : m ≤ n := by
  have hlength := congrArg List.length htake
  rw [List.length_take, List.length_take] at hlength
  by_cases hx : m ≤ xs.length
  · exact h.longest m hx (by omega) htake
  · -- the first list is taken as a whole, and so is the second
    have hy : ys.length ≤ m := by omega
    rw [List.take_of_length_le (by omega), List.take_of_length_le hy] at htake
    exact absurd htake hne

end Shared

/-! ## Section 2: The two outcomes -/

section Outcomes

variable {F : Type} {p q r : Path F}

/-- There is a relative path from `p` to `q`. -/
def Relatable (p q : Path F) : Prop :=
  (p == q) = true ∨ p.isAbsolute = true ∧ q.isAbsolute = true ∧ p.bucket = q.bucket

/-- The first condition that two paths fail. -/
def mismatch (p q : Path F) : Mismatch :=
  if p.bucket = none then .thisRelative
  else if q.bucket = none then .otherRelative
  else .bucketMismatch

/-- For equal paths, too, the answer is what follows the shared segments. -/
theorem relativize_of_relatable (h : Relatable p q) :
    p.relativize q = .ok (p.derive none (afterCommon p.segments q.segments)) := by
  by_cases hsame : (p == q) = true
  · rw [relativize, if_pos hsame, beq_iff.mp hsame, afterCommon_self]
  · obtain ⟨hp, hq, hbucket⟩ := h.resolve_left hsame
    have hpbucket : p.bucket ≠ none := fun hnone => by
      rw [Address.isAbsolute_eq_false_iff.mpr hnone] at hp
      exact Bool.false_ne_true hp
    rw [relativize, if_neg hsame, if_neg hpbucket, if_neg (hbucket ▸ hpbucket),
      if_neg (fun hne => hne hbucket)]

theorem relativize_of_not_relatable (h : ¬Relatable p q) :
    p.relativize q = .error (mismatch p q) := by
  obtain ⟨hsame, hrest⟩ := not_or.mp h
  rw [relativize, if_neg hsame, mismatch]
  by_cases hp : p.bucket = none
  · rw [if_pos hp, if_pos hp]
  · rw [if_neg hp, if_neg hp]
    by_cases hq : q.bucket = none
    · rw [if_pos hq, if_pos hq]
    · -- both are absolute, so only the buckets are left to differ
      have hbucket : p.bucket ≠ q.bucket := fun hbucket =>
        hrest ⟨Option.isSome_iff_ne_none.mpr hp, Option.isSome_iff_ne_none.mpr hq, hbucket⟩
      rw [if_neg hq, if_neg hq, if_pos hbucket]

theorem relativize_eq_ok_iff :
    p.relativize q = .ok r ↔
      Relatable p q ∧ r = p.derive none (afterCommon p.segments q.segments) := by
  constructor
  · intro h
    by_cases hrel : Relatable p q
    · rw [relativize_of_relatable hrel] at h
      exact ⟨hrel, (Except.ok.inj h).symm⟩
    · rw [relativize_of_not_relatable hrel] at h
      cases h
  · rintro ⟨hrel, rfl⟩
    exact relativize_of_relatable hrel

theorem relativize_eq_error_iff {m : Mismatch} :
    p.relativize q = .error m ↔ ¬Relatable p q ∧ m = mismatch p q := by
  constructor
  · intro h
    by_cases hrel : Relatable p q
    · rw [relativize_of_relatable hrel] at h
      cases h
    · rw [relativize_of_not_relatable hrel] at h
      exact ⟨hrel, (Except.error.inj h).symm⟩
  · rintro ⟨hrel, rfl⟩
    exact relativize_of_not_relatable hrel

theorem Relatable.bucket_eq (h : Relatable p q) : p.bucket = q.bucket := by
  rcases h with hsame | ⟨-, -, hbucket⟩
  · rw [beq_iff.mp hsame]
  · exact hbucket

/-! ## Section 3: Resolving what was relativized -/

/-- Resolving leads back to the second path exactly if that has all segments
    of the first one at its start. -/
theorem resolve_relativize_iff (h : p.relativize q = .ok r) :
    (p.resolve r == q) = true ↔ p.segments <+: q.segments := by
  obtain ⟨hrel, rfl⟩ := relativize_eq_ok_iff.mp h
  rw [resolve_beq_iff rfl]
  constructor
  · rintro ⟨-, hsegments⟩
    exact ⟨_, hsegments.symm⟩
  · rintro ⟨rest, hsegments⟩
    refine ⟨hrel.bucket_eq, ?_⟩
    show q.segments = p.segments ++ afterCommon p.segments q.segments
    rw [← hsegments, afterCommon_append]

/-- Relativizing undoes resolving of a relative path. -/
theorem relativize_resolve (hp : p.isAbsolute = true) (hq : q.isAbsolute = false) :
    ∃ r, p.relativize (p.resolve q) = .ok r ∧ (r == q) = true := by
  have hresolved : p.resolve q = p.derive p.bucket (p.segments ++ q.segments) :=
    resolve_of_relative hq
  have hrelativized : p.relativize (p.resolve q) = .ok (p.derive none q.segments) := by
    rw [hresolved]
    exact relativize_of_segments hp rfl rfl
  have hbucket : q.bucket = none := Address.isAbsolute_eq_false_iff.mp hq
  exact ⟨_, hrelativized, beq_iff.mpr (Address.eq_iff.mpr ⟨hbucket.symm, rfl⟩)⟩

/-- Ways down one after the other are one way down. -/
theorem relativize_chain {s : Path F} (hp : p.isAbsolute = true) (hpq : p.bucket = q.bucket)
    (hqs : q.bucket = s.bucket) (hinit : p.segments <+: q.segments)
    (hinit' : q.segments <+: s.segments) :
    ∃ first second whole, p.relativize q = .ok first ∧ q.relativize s = .ok second ∧
      p.relativize s = .ok whole ∧ (whole == first.resolve second) = true := by
  obtain ⟨xs, hxs⟩ := hinit
  obtain ⟨ys, hys⟩ := hinit'
  have hq : q.isAbsolute = true := by
    rw [Address.isAbsolute, ← hpq]
    exact hp
  have hsegments : s.segments = p.segments ++ (xs ++ ys) := by
    rw [← hys, ← hxs, List.append_assoc]
  have hfirst := relativize_of_segments hp hpq hxs.symm
  have hsecond := relativize_of_segments hq hqs hys.symm
  have hwhole := relativize_of_segments hp (hpq.trans hqs) hsegments
  refine ⟨_, _, _, hfirst, hsecond, hwhole, ?_⟩
  rw [resolve_of_relative rfl]
  exact beq_iff.mpr rfl

/-- **Resolving and relativizing.** Relativizing undoes the resolution of a
    relative path. Resolving undoes relativizing, where that succeeds, exactly
    if the second path has all segments of the first one at its start. Then
    two ways down, one after the other, are the way that leads down at once. -/
theorem resolve_relativize_inverse (p q s : Path F) :
    (p.isAbsolute = true → q.isAbsolute = false →
        ∃ r, p.relativize (p.resolve q) = .ok r ∧ (r == q) = true) ∧
      (∀ r, p.relativize q = .ok r →
        ((p.resolve r == q) = true ↔ p.segments <+: q.segments)) ∧
      (p.isAbsolute = true → p.bucket = q.bucket → q.bucket = s.bucket →
        p.segments <+: q.segments → q.segments <+: s.segments →
          ∃ first second whole, p.relativize q = .ok first ∧ q.relativize s = .ok second ∧
            p.relativize s = .ok whole ∧ (whole == first.resolve second) = true) :=
  ⟨relativize_resolve, fun _ => resolve_relativize_iff, relativize_chain⟩

/-- Down and back from `/b/x`, and to a sibling of `/b/x/y`, to which no way
    leads down. -/
theorem resolve_relativize_inverse_sibling :
    let p : Path Unit := ⟨⟨some "b", ["x"]⟩, ()⟩
    let q : Path Unit := ⟨⟨none, ["y", "z"]⟩, ()⟩
    let child : Path Unit := ⟨⟨some "b", ["x", "y"]⟩, ()⟩
    let sibling : Path Unit := ⟨⟨some "b", ["x", "z"]⟩, ()⟩
    let deeper : Path Unit := ⟨⟨some "b", ["x", "y", "z"]⟩, ()⟩
    p.isAbsolute = true ∧ q.isAbsolute = false ∧
      (∃ r, p.relativize (p.resolve q) = .ok r ∧ (r == q) = true) ∧
      (∃ r, child.relativize sibling = .ok r ∧ ¬(child.resolve r == sibling) = true) ∧
      p.segments <+: child.segments ∧ child.segments <+: deeper.segments ∧
      ∃ first second whole, p.relativize child = .ok first ∧ child.relativize deeper = .ok second ∧
        p.relativize deeper = .ok whole ∧ (whole == first.resolve second) = true := by
  intro p q child sibling deeper
  have hinit : p.segments <+: child.segments := ⟨["y"], rfl⟩
  have hinit' : child.segments <+: deeper.segments := ⟨["z"], rfl⟩
  have hsibling : child.relativize sibling = .ok ⟨⟨none, ["z"]⟩, ()⟩ :=
    relativize_of_relatable (.inr ⟨rfl, rfl, rfl⟩)
  obtain ⟨hdown, -, -⟩ := resolve_relativize_inverse p q q
  obtain ⟨-, hback, -⟩ := resolve_relativize_inverse child sibling sibling
  obtain ⟨-, -, hchain⟩ := resolve_relativize_inverse p child deeper
  refine ⟨rfl, rfl, hdown rfl rfl, ⟨_, hsibling, ?_⟩, hinit, hinit',
    hchain rfl rfl rfl hinit hinit'⟩
  rw [hback _ hsibling]
  decide

end Outcomes

/-! ## Section 4: The operation on paths -/

section Operation

variable {p q r : StorePath} {v : Value} {e : Fault}

theorem relativizeAny_eq_ok_iff (h : p.operand v = .ok q) :
    p.relativizeAny v = .ok r ↔ p.relativize q = .ok r := by
  rw [relativizeAny, h, Except.bind]
  cases p.relativize q with
  | ok d => simp
  | error m => simp

/-- The failure names both paths and the condition. -/
theorem relativizeAny_eq_error_iff (h : p.operand v = .ok q) :
    p.relativizeAny v = .error e ↔
      ∃ m, p.relativize q = .error m ∧ e = .failure (.incompatible p.toAddress q.toAddress m) := by
  rw [relativizeAny, h, Except.bind]
  cases p.relativize q with
  | ok d => simp
  | error m => simp [eq_comm]

theorem reason_mismatch (p q : StorePath) :
    (mismatch p q).reason =
      if p.bucket = none then "this is relative"
      else if q.bucket = none then "other is relative"
      else "bucket mismatch" := by
  rw [mismatch, apply_ite Mismatch.reason, apply_ite Mismatch.reason]
  rfl

/-- **What relativizing answers.** There is an answer exactly for equal paths
    and for absolute paths in one bucket: a relative path in the file system of
    the first path, with the segments of the second one after the largest
    number that both share. Otherwise the error tells both paths, the bucket of
    the first and the first condition that they fail. -/
theorem relativize_remainder (p q : StorePath) :
    ((∃ r, p.relativizeAny (.path q) = .ok r) ↔
        (p == q) = true ∨ p.isAbsolute = true ∧ q.isAbsolute = true ∧ p.bucket = q.bucket) ∧
      (∀ r, p.relativizeAny (.path q) = .ok r →
        r.isAbsolute = false ∧ r.fileSystem = p.fileSystem ∧
          r.segments = afterCommon p.segments q.segments ∧
          ∃ n, IsLongestShared p.segments q.segments n ∧ r.segments = q.segments.drop n ∧
            (p.segments ≠ q.segments →
              ∀ m, p.segments.take m = q.segments.take m → m ≤ n)) ∧
      ∀ e, p.relativizeAny (.path q) = .error e →
        ∃ f : Failure, e = .failure f ∧ f.error.path = .text p.text ∧
          f.error.bucket = .ofText? p.bucket ∧
          f.error.detail = .incompatible (.text q.text)
            (.text (if p.bucket = none then "this is relative"
              else if q.bucket = none then "other is relative"
              else "bucket mismatch")) := by
  have hoperand : p.operand (.path q) = .ok q := rfl
  refine ⟨?_, fun r h => ?_, fun e h => ?_⟩
  · simp only [relativizeAny_eq_ok_iff hoperand, relativize_eq_ok_iff]
    exact ⟨fun ⟨_, hrel, _⟩ => hrel, fun hrel => ⟨_, hrel, rfl⟩⟩
  · rw [relativizeAny_eq_ok_iff hoperand, relativize_eq_ok_iff] at h
    obtain ⟨-, rfl⟩ := h
    have hlongest := isLongestShared_sharedCount p.segments q.segments
    exact ⟨rfl, rfl, rfl, _, hlongest, afterCommon_eq_drop _ _,
      fun hne _ htake => hlongest.le_of_take_eq hne htake⟩
  · rw [relativizeAny_eq_error_iff hoperand] at h
    obtain ⟨m, hm, rfl⟩ := h
    obtain ⟨-, rfl⟩ := relativize_eq_error_iff.mp hm
    rw [← reason_mismatch]
    exact ⟨_, rfl, rfl, rfl, rfl⟩

/-- An ancestor of `/b/x/y`, which leaves no segments, and a relative path,
    which is refused for itself although the other one is relative, too. -/
theorem relativize_remainder_ancestor :
    let host : Host Value := .fileSystem (.ofHost 0 (.config .default))
    let p : StorePath := ⟨⟨some "b", ["x", "y"]⟩, host⟩
    let ancestor : StorePath := ⟨⟨some "b", ["x"]⟩, host⟩
    let relative : StorePath := ⟨⟨none, ["x"]⟩, host⟩
    let other : StorePath := ⟨⟨none, ["y"]⟩, host⟩
    (∃ r, p.relativizeAny (.path ancestor) = .ok r ∧ r.segments = []) ∧
      ∃ e f, relative.relativizeAny (.path other) = .error e ∧ e = .failure f ∧
        f.error.path = .text "x" ∧
        f.error.detail = .incompatible (.text "y") (.text "this is relative") := by
  intro host p ancestor relative other
  obtain ⟨hsome, hanswer, -⟩ := relativize_remainder p ancestor
  obtain ⟨r, hr⟩ := hsome.mpr (.inr ⟨rfl, rfl, rfl⟩)
  obtain ⟨-, -, hsegments, -⟩ := hanswer r hr
  obtain ⟨-, -, hrefused⟩ := relativize_remainder relative other
  obtain ⟨f, hf, hpath, -, hdetail⟩ := hrefused _ rfl
  exact ⟨⟨r, hr, hsegments⟩, _, f, rfl, hf, hpath, hdetail⟩

end Operation

end Keyspace.Path
