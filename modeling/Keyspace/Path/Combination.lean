import Keyspace.Path.Basic

/-! # Combining paths

    Resolving appends the segments of a relative path; an absolute one
    replaces the path altogether. Relativizing drops the segments that two
    paths of one bucket share at the start. There is no segment that leads
    upwards, so resolving undoes relativizing only below the first path.
-/

namespace Keyspace

/-- Why two different paths have no relative path between them. -/
inductive Mismatch where
  /-- The path is relative. -/
  | thisRelative
  /-- The other path is relative. -/
  | otherRelative
  /-- The buckets differ. -/
  | bucketMismatch
deriving DecidableEq

namespace Path

variable {F : Type}

/-! ## Section 1: Resolution -/

/-- The path `q` seen from `p`: `q` itself if it is absolute, `p` if `q` has no
    segments, and otherwise the segments of `q` after those of `p`. -/
def resolve (p q : Path F) : Path F :=
  if q.isAbsolute then q
  else if q.segments = [] then p
  else p.derive p.bucket (p.segments ++ q.segments)

/-- The path `q` in place of the last segment of `p`; `q` itself if `p` has no
    parent. -/
def resolveSibling (p q : Path F) : Path F :=
  match p.parent? with
  | none => q
  | some parent =>
    if q.isAbsolute then q
    else if q.segments = [] then parent
    else p.derive p.bucket (p.segments.dropLast ++ q.segments)

/-! ## Section 2: Relativization -/

/-- What is left of the second list after the leading elements it shares with
    the first. -/
def afterCommon : List String → List String → List String
  | x :: xs, y :: ys => if x = y then afterCommon xs ys else y :: ys
  | _, ys => ys

/-- The relative path from `p` to `q`: the segments of `q` after those that
    both share. Equal paths have the empty relative path between them;
    different ones must be absolute and in one bucket. -/
def relativize (p q : Path F) : Except Mismatch (Path F) :=
  if p == q then .ok (p.derive none [])
  else if p.bucket = none then .error .thisRelative
  else if q.bucket = none then .error .otherRelative
  else if p.bucket ≠ q.bucket then .error .bucketMismatch
  else .ok (p.derive none (afterCommon p.segments q.segments))

/-! ## Section 3: Endings -/

/-- Whether the segments of `q` are the last ones of `p`. An absolute `q`, and
    one without segments, ends only a path equal to it. -/
def endsWith (p q : Path F) : Bool :=
  if q.isAbsolute || q.segments.isEmpty then p == q
  else
    q.segments.length ≤ p.segments.length &&
      p.segments.drop (p.segments.length - q.segments.length) == q.segments

end Path

end Keyspace
