import Keyspace.Proofs.Path.Relativization

/-! # Where two paths part

    Relativizing one path against another drops the segments that both share
    and keeps what comes after the place where they part. Nothing of this
    depends on which of the two paths is asked, except whose rest is kept:

    * Asked the other way round, relativizing drops as many segments
      (`sharedCount_comm`), and the two rests, if there are any, begin with
      different segments (`head?_afterCommon_ne`).
    * Further shared segments in front change nothing
      (`afterCommon_append_append`), so the answer stays the same when both
      paths are moved to another place in the tree
      (`relativize_resolve_resolve`).
-/

namespace Keyspace.Path

/-! ## Section 1: Two lists -/

section Lists

variable {xs ys : List String} {x y : String}

/-- Both lists share the same number of elements with each other. -/
theorem sharedCount_comm (xs ys : List String) : sharedCount xs ys = sharedCount ys xs := by
  induction xs generalizing ys with
  | nil => cases ys <;> rfl
  | cons x xs ih =>
    cases ys with
    | nil => rfl
    | cons y ys =>
      by_cases hxy : x = y
      · rw [sharedCount, sharedCount, if_pos hxy, if_pos hxy.symm, ih ys]
      · rw [sharedCount, sharedCount, if_neg hxy, if_neg (Ne.symm hxy)]

/-- A list is what it shares with another one, and what is left of it. -/
theorem take_append_afterCommon (xs ys : List String) :
    ys.take (sharedCount xs ys) ++ afterCommon xs ys = ys := by
  rw [afterCommon_eq_drop]
  exact List.take_append_drop _ ys

theorem afterCommon_nil (xs : List String) : afterCommon xs [] = [] := by
  cases xs <;> rfl

/-- Behind the shared elements the lists differ at once, or one of them is at
    its end. -/
theorem head?_afterCommon_ne (hx : (afterCommon ys xs).head? = some x)
    (hy : (afterCommon xs ys).head? = some y) : x ≠ y := by
  induction xs generalizing ys with
  | nil =>
    rw [afterCommon_nil, List.head?_nil] at hx
    cases hx
  | cons x' xs ih =>
    cases ys with
    | nil =>
      rw [afterCommon_nil, List.head?_nil] at hy
      cases hy
    | cons y' ys =>
      by_cases hxy : x' = y'
      · -- the lists go on alike, so they part later
        rw [afterCommon, if_pos hxy.symm] at hx
        rw [afterCommon, if_pos hxy] at hy
        exact ih hx hy
      · -- here they part, and what is left begins with the elements compared
        rw [afterCommon, if_neg (Ne.symm hxy), List.head?_cons, Option.some.injEq] at hx
        rw [afterCommon, if_neg hxy, List.head?_cons, Option.some.injEq] at hy
        rw [← hx, ← hy]
        exact hxy

end Lists

/-! ## Section 2: Two paths -/

variable {F : Type} {p q : Path F}

/-- Asked both ways round, relativizing takes the same segments away from the
    front of both paths. -/
theorem relativize_both (hp : p.isAbsolute = true) (hbucket : p.bucket = q.bucket) :
    ∃ toQ toP shared, p.relativize q = .ok toQ ∧ q.relativize p = .ok toP ∧
      q.segments = shared ++ toQ.segments ∧ p.segments = shared ++ toP.segments ∧
      ∀ s t, toQ.segments.head? = some s → toP.segments.head? = some t → s ≠ t := by
  have hq : q.isAbsolute = true := by
    rw [Address.isAbsolute, ← hbucket]
    exact hp
  have hpq : p.relativize q = .ok (p.derive none (afterCommon p.segments q.segments)) :=
    relativize_of_relatable (.inr ⟨hp, hq, hbucket⟩)
  have hqp : q.relativize p = .ok (q.derive none (afterCommon q.segments p.segments)) :=
    relativize_of_relatable (.inr ⟨hq, hp, hbucket.symm⟩)
  refine ⟨_, _, q.segments.take (sharedCount p.segments q.segments), hpq, hqp, ?_, ?_, ?_⟩
  · exact (take_append_afterCommon p.segments q.segments).symm
  · -- the same segments are taken from the front of the other path
    have hshared : p.segments.take (sharedCount p.segments q.segments) =
        q.segments.take (sharedCount p.segments q.segments) :=
      (isLongestShared_sharedCount p.segments q.segments).shared
    have hsplit := take_append_afterCommon q.segments p.segments
    rw [sharedCount_comm q.segments p.segments, hshared] at hsplit
    exact hsplit.symm
  · intro s t hs ht
    exact (head?_afterCommon_ne ht hs).symm

/-- Relativizing within a subtree gives what relativizing the relative paths
    themselves would give, wherever the subtree is. -/
theorem relativize_resolve_resolve {x y : Path F} (hp : p.isAbsolute = true)
    (hx : x.isAbsolute = false) (hy : y.isAbsolute = false) :
    (p.resolve x).relativize (p.resolve y) =
      .ok (p.derive none (afterCommon x.segments y.segments)) := by
  rw [resolve_of_relative hx, resolve_of_relative hy]
  have hrel : Relatable (p.derive p.bucket (p.segments ++ x.segments))
      (p.derive p.bucket (p.segments ++ y.segments)) := .inr ⟨hp, hp, rfl⟩
  rw [relativize_of_relatable hrel]
  show Except.ok (p.derive none
    (afterCommon (p.segments ++ x.segments) (p.segments ++ y.segments))) = _
  rw [afterCommon_append_append]

/-! ## Section 3: Symmetry and independence -/

/-- **Relativizing is symmetric in what two paths share**, and does not depend
    on where their tree is rooted. Of two paths in one bucket it drops equally
    many segments whichever is asked, and the rests begin differently. The
    answer for two paths below a root is the same below any other root, in
    whatever bucket that is. -/
theorem relativize_symmetric_and_rootless (p q root root' x y : Path F) :
    (p.isAbsolute = true → q.isAbsolute = true → p.bucket = q.bucket →
        ∃ toQ toP shared, p.relativize q = .ok toQ ∧ q.relativize p = .ok toP ∧
          q.segments = shared ++ toQ.segments ∧ p.segments = shared ++ toP.segments ∧
          q.nameCount - toQ.nameCount = p.nameCount - toP.nameCount ∧
          ∀ s t, toQ.segments.head? = some s → toP.segments.head? = some t → s ≠ t) ∧
      (root.isAbsolute = true → root'.isAbsolute = true →
        x.isAbsolute = false → y.isAbsolute = false →
          ∃ r r', (root.resolve x).relativize (root.resolve y) = .ok r ∧
            (root'.resolve x).relativize (root'.resolve y) = .ok r' ∧ (r == r') = true) := by
  refine ⟨?_, ?_⟩
  · intro hp _ hbucket
    obtain ⟨toQ, toP, shared, hpq, hqp, hq, hp, hheads⟩ := relativize_both hp hbucket
    refine ⟨toQ, toP, shared, hpq, hqp, hq, hp, ?_, hheads⟩
    show q.segments.length - toQ.segments.length = p.segments.length - toP.segments.length
    rw [hq, hp, List.length_append, List.length_append]
    omega
  · intro hroot hroot' hx hy
    refine ⟨_, _, relativize_resolve_resolve hroot hx hy,
      relativize_resolve_resolve hroot' hx hy, ?_⟩
    exact beq_iff.mpr rfl

/-- Two paths that part below `/b/x`, and a file and its directory seen from
    the roots of two buckets, in which one of them is the directory itself. -/
theorem relativize_symmetric_and_rootless_siblings :
    let p : Path Unit := ⟨⟨some "b", ["x", "y", "z"]⟩, ()⟩
    let q : Path Unit := ⟨⟨some "b", ["x", "w"]⟩, ()⟩
    let root : Path Unit := ⟨⟨some "b", []⟩, ()⟩
    let root' : Path Unit := ⟨⟨some "c", ["k"]⟩, ()⟩
    let x : Path Unit := ⟨⟨none, []⟩, ()⟩
    let y : Path Unit := ⟨⟨none, ["k", "u"]⟩, ()⟩
    p.isAbsolute = true ∧ q.isAbsolute = true ∧ p.bucket = q.bucket ∧
      (∃ toQ toP, p.relativize q = .ok toQ ∧ q.relativize p = .ok toP ∧
        toQ.segments = ["w"] ∧ toP.segments = ["y", "z"] ∧
        q.nameCount - toQ.nameCount = p.nameCount - toP.nameCount) ∧
      root.isAbsolute = true ∧ root'.isAbsolute = true ∧
      x.isAbsolute = false ∧ y.isAbsolute = false ∧
      ∃ r r', (root.resolve x).relativize (root.resolve y) = .ok r ∧
        (root'.resolve x).relativize (root'.resolve y) = .ok r' ∧ (r == r') = true := by
  intro p q root root' x y
  obtain ⟨hboth, hrootless⟩ := relativize_symmetric_and_rootless p q root root' x y
  obtain ⟨toQ, toP, shared, hpq, hqp, -, -, hcount, -⟩ := hboth rfl rfl rfl
  refine ⟨rfl, rfl, rfl, ⟨toQ, toP, hpq, hqp, ?_, ?_, hcount⟩, rfl, rfl, rfl, rfl,
    hrootless rfl rfl rfl rfl⟩
  · obtain ⟨-, rfl⟩ := relativize_eq_ok_iff.mp hpq
    decide
  · obtain ⟨-, rfl⟩ := relativize_eq_ok_iff.mp hqp
    decide

end Keyspace.Path
