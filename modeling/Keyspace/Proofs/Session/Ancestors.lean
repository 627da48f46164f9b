import Keyspace.Proofs.Path.LastName
import Keyspace.Proofs.Session.Subtree

/-! # Ancestors

    Whoever asks a path for its parent, the parent for its parent, and so on,
    comes to an end. An absolute path is left by its segments one after the
    other, down to the root of its bucket. A relative path keeps its first name,
    since the empty path is no parent.

    The number of steps is the height of the path, which each step lowers by one
    (`height_shortened`). So after `k` steps, the last `k` segments are gone, as
    long as `k` does not exceed the height (`climb?_eq_some_iff`), and there is
    no parent any more after that (`climb?_eq_none_iff`).

    The paths on the way are those from which a relative path with segments
    leads down to the first one, the empty path excepted (`parent_chain`).
-/

namespace Keyspace

namespace Path

section

variable {F : Type} {p v : Path F} {j k : Nat} {a : Address}

/-! ## Section 1: One step -/

/-- The number of paths above a path. -/
def height (p : Path F) : Nat :=
  if p.isAbsolute then p.segments.length else p.segments.length - 1

theorem height_of_absolute (hp : p.isAbsolute = true) : p.height = p.segments.length := if_pos hp

theorem height_of_relative (hp : p.isAbsolute = false) :
    p.height = p.segments.length - 1 := by
  rw [height, hp]
  rfl

theorem height_le_length (p : Path F) : p.height ≤ p.segments.length := by
  rw [height]
  split
  · exact Nat.le_refl _
  · exact Nat.sub_le _ _

/-- What can be taken away is less than all segments, if there is no bucket
    before them. -/
theorem le_height (h : p.segments.length = j + k) (hj : p.bucket = none → 0 < j) :
    k ≤ p.height := by
  cases hp : p.isAbsolute with
  | true =>
    rw [height_of_absolute hp]
    omega
  | false =>
    have hkept := hj (Address.isAbsolute_eq_false_iff.mp hp)
    rw [height_of_relative hp]
    omega

/-- The path without its last `k` segments. -/
def shortened (p : Path F) (k : Nat) : Path F :=
  p.derive p.bucket (p.segments.take (p.segments.length - k))

theorem length_shortened (p : Path F) (k : Nat) :
    (p.shortened k).segments.length = p.segments.length - k := by
  show (p.segments.take _).length = _
  rw [List.length_take]
  omega

theorem shortened_zero (p : Path F) : p.shortened 0 = p := by
  rw [shortened, Nat.sub_zero, List.take_length]
  rfl

theorem shortened_shortened (p : Path F) (j k : Nat) :
    (p.shortened j).shortened k = p.shortened (j + k) := by
  rw [shortened, length_shortened]
  show p.derive p.bucket ((p.segments.take _).take _) = _
  rw [List.take_take, shortened]
  congr 2
  omega

theorem height_shortened (p : Path F) (k : Nat) : (p.shortened k).height = p.height - k := by
  have habsolute : (p.shortened k).isAbsolute = p.isAbsolute := rfl
  rw [height, height, habsolute, length_shortened]
  split
  · rfl
  · omega

/-- There is a parent as long as something is above the path. -/
theorem parent?_eq (p : Path F) :
    p.parent? = if p.height = 0 then none else some (p.shortened 1) := by
  obtain ⟨hnone, hends⟩ | ⟨rest, s, hs, hrest, hparent⟩ := p.parent?_cases
  · have hheight : p.height = 0 := by
      rcases hends with hnil | ⟨hbucket, s, hs⟩
      · rw [height, hnil, List.length_nil]
        exact ite_self 0
      · rw [height_of_relative (Address.isAbsolute_eq_false_iff.mpr hbucket), hs]
        rfl
    rw [hnone, if_pos hheight]
  · have hlength : p.segments.length = rest.length + 1 := by
      rw [hs, List.length_append, List.length_singleton]
    have hheight : 0 < p.height :=
      le_height hlength fun hbucket => List.length_pos_iff.mpr (hrest hbucket)
    rw [hparent, if_neg (Nat.ne_of_gt hheight), shortened, hlength, Nat.add_sub_cancel, hs,
      List.take_left]

/-! ## Section 2: Climbing -/

/-- Where `k` steps lead, each of them to the parent, if there are so many. -/
def climb? (p : Path F) : Nat → Option (Path F)
  | 0 => some p
  | k + 1 => (p.climb? k).bind parent?

/-- Each step takes away a segment, and the height is where the steps end. -/
theorem climb?_eq (p : Path F) (k : Nat) :
    p.climb? k = if k ≤ p.height then some (p.shortened k) else none := by
  induction k with
  | zero => rw [climb?, if_pos (Nat.zero_le _), shortened_zero]
  | succ k ih =>
    rw [climb?, ih]
    by_cases hk : k ≤ p.height
    · rw [if_pos hk, Option.bind_some, parent?_eq, height_shortened, shortened_shortened]
      by_cases hnext : k + 1 ≤ p.height
      · rw [if_pos hnext, if_neg (by omega)]
      · -- the last step has led to the top
        rw [if_neg hnext, if_pos (by omega)]
    · rw [if_neg hk, Option.bind_none, if_neg (by omega)]

theorem climb?_eq_none_iff : p.climb? k = none ↔ p.height < k := by
  rw [climb?_eq]
  split
  · next hk => exact iff_of_false (Option.some_ne_none _) (Nat.not_lt.mpr hk)
  · next hk => exact iff_of_true rfl (Nat.not_le.mp hk)

theorem climb?_eq_some_iff : p.climb? k = some v ↔ k ≤ p.height ∧ v = p.shortened k := by
  rw [climb?_eq]
  split
  · next hk => rw [Option.some.injEq, eq_comm, and_iff_right hk]
  · next hk => exact iff_of_false (Option.some_ne_none v).symm fun h => hk h.1

/-! ## Section 3: What is above a path -/

theorem isBelow_shortened (hpos : 0 < k) (hk : k ≤ p.height) :
    Address.IsBelow (p.shortened k).toAddress p.toAddress := by
  refine ⟨p.segments.drop (p.segments.length - k), ?_, rfl, (List.take_append_drop _ _).symm⟩
  have hlength := p.height_le_length
  apply List.ne_nil_of_length_pos
  rw [List.length_drop]
  omega

/-- The steps end before the empty path. -/
theorem shortened_ne_empty (hpos : 0 < k) (hk : k ≤ p.height) :
    (p.shortened k).toAddress ≠ ⟨none, []⟩ := by
  apply Address.ne_empty_iff.mpr
  intro hbucket
  have hheight : p.height = p.segments.length - 1 :=
    height_of_relative (Address.isAbsolute_eq_false_iff.mpr hbucket)
  apply List.ne_nil_of_length_pos
  rw [length_shortened]
  omega

/-- Every address that a path is below is met, except the empty one. -/
theorem exists_shortened (hne : a ≠ ⟨none, []⟩) (h : Address.IsBelow a p.toAddress) :
    ∃ k, 0 < k ∧ k ≤ p.height ∧ (p.shortened k).toAddress = a := by
  obtain ⟨rest, hrest, hbucket, hsegments⟩ := h
  have hlength : p.segments.length = a.segments.length + rest.length := by
    rw [hsegments, List.length_append]
  refine ⟨rest.length, List.length_pos_iff.mpr hrest, le_height hlength fun hnone => ?_, ?_⟩
  · -- without a bucket, the address has a segment that stays
    exact List.length_pos_iff.mpr (Address.ne_empty_iff.mp hne (hbucket ▸ hnone))
  · refine Address.eq_iff.mpr ⟨hbucket, ?_⟩
    show p.segments.take (p.segments.length - rest.length) = a.segments
    rw [hlength, Nat.add_sub_cancel, hsegments, List.take_left]

/-- **Ancestors.** The way up leads to what a path is below, except to the empty
    address. -/
theorem climbs_iff :
    (∃ k v, 0 < k ∧ p.climb? k = some v ∧ v.toAddress = a) ↔
      a ≠ ⟨none, []⟩ ∧ Address.IsBelow a p.toAddress := by
  constructor
  · rintro ⟨k, v, hpos, hclimb, rfl⟩
    obtain ⟨hk, rfl⟩ := climb?_eq_some_iff.mp hclimb
    exact ⟨shortened_ne_empty hpos hk, isBelow_shortened hpos hk⟩
  · rintro ⟨hne, hbelow⟩
    obtain ⟨k, hpos, hk, haddress⟩ := exists_shortened hne hbelow
    exact ⟨k, _, hpos, climb?_eq_some_iff.mpr ⟨hk, rfl⟩, haddress⟩

/-- Without all of its segments, an absolute path is its root. -/
theorem root?_eq_shortened (hp : p.isAbsolute = true) :
    p.root? = some (p.shortened p.segments.length) := by
  obtain ⟨b, hb⟩ := Option.isSome_iff_exists.mp hp
  rw [root?, shortened, Nat.sub_self, List.take_zero, hb]
  rfl

end

end Path

namespace Session

/-! ## Section 4: Chains of parents -/

/-- **The chain of parents.** From a path with `n` segments, exactly `n` steps
    lead to a parent if it is absolute, and otherwise `n - 1`, or none if there
    are no segments. After `k` of them the last `k` segments are gone; bucket
    and file system stay. A path is equal to one that is met on the way exactly
    if a relative path with segments leads down from it and it is not the empty
    path. From an absolute path, the last step leads to the root of its
    bucket. -/
theorem parent_chain {p : StorePath} (hp : Reachable p) :
    (∀ k, p.climb? k = none ↔
        (if p.isAbsolute then p.segments.length else p.segments.length - 1) < k) ∧
      (∀ k v, p.climb? k = some v → v.bucket = p.bucket ∧ v.fileSystem = p.fileSystem ∧
        v.segments = p.segments.take (p.segments.length - k)) ∧
      (∀ q : StorePath, (∃ k v, 0 < k ∧ p.climb? k = some v ∧ (v == q) = true) ↔
        q.toAddress ≠ ⟨none, []⟩ ∧ Descends q p) ∧
      (p.isAbsolute = true →
        ∃ root, p.root? = some root ∧ p.climb? p.segments.length = some root) := by
  refine ⟨fun k => Path.climb?_eq_none_iff, fun k v hclimb => ?_, fun q => ?_, fun habsolute => ?_⟩
  · obtain ⟨-, rfl⟩ := Path.climb?_eq_some_iff.mp hclimb
    exact ⟨rfl, rfl, rfl⟩
  · simp only [Path.beq_iff]
    rw [descends_iff hp, Path.climbs_iff]
  · have htop : p.segments.length ≤ p.height :=
      Nat.le_of_eq (Path.height_of_absolute habsolute).symm
    exact ⟨_, Path.root?_eq_shortened habsolute, Path.climb?_eq_some_iff.mpr ⟨htop, rfl⟩⟩

/-- An absolute path, whose way up ends at the root, and a relative one, whose
    way up ends at its first name. -/
theorem parent_chain_of_two :
    let host : Host Value := .fileSystem (.ofHost 0 (.config .default))
    let p : StorePath := ⟨⟨some "b", ["x", "y"]⟩, host⟩
    let root : StorePath := ⟨⟨some "b", []⟩, host⟩
    let relative : StorePath := ⟨⟨none, ["x", "y"]⟩, host⟩
    let first : StorePath := ⟨⟨none, ["x"]⟩, host⟩
    let empty : StorePath := ⟨⟨none, []⟩, host⟩
    Reachable p ∧ Reachable relative ∧ p.isAbsolute = true ∧
      p.climb? 2 = some root ∧ p.climb? 3 = none ∧
      relative.climb? 1 = some first ∧ relative.climb? 2 = none ∧
      (first.toAddress ≠ ⟨none, []⟩ ∧ Descends first relative) ∧
      ¬∃ k v, 0 < k ∧ relative.climb? k = some v ∧ (v == empty) = true := by
  intro host p root relative first empty
  have hparse : Address.parse? "/b/x/y" = some p.toAddress := by decide +kernel
  have hparse' : Address.parse? "x/y" = some relative.toAddress := by decide +kernel
  have hp : Reachable p := reachable_of_parse? hparse
  have hrelative : Reachable relative := reachable_of_parse? hparse'
  obtain ⟨hends, -, -, htop⟩ := parent_chain hp
  obtain ⟨hends', -, hmet, -⟩ := parent_chain hrelative
  obtain ⟨top, hroot, hlast⟩ := htop rfl
  obtain rfl : root = top := Option.some.inj hroot
  refine ⟨hp, hrelative, rfl, hlast, (hends 3).mpr (by decide), rfl, (hends' 2).mpr (by decide),
    (hmet first).mp ⟨1, first, Nat.one_pos, rfl, Path.beq_iff.mpr rfl⟩, ?_⟩
  rw [hmet empty]
  exact fun h => h.1 rfl

end Session

end Keyspace
