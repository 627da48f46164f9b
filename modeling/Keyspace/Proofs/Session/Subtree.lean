import Keyspace.Proofs.Address.Subtree
import Keyspace.Proofs.Session.Containment
import Keyspace.Proofs.Session.Ordered

/-! # Subtrees of reachable paths

    The descendants of a path are what relative paths with segments lead to.
    In the order by which paths are compared and sorted they are an interval:
    no foreign path comes between two of them. The empty relative path is an
    exception, since all relative paths with segments descend from it, and
    absolute paths stand among those.
-/

namespace Keyspace.Session

variable {p d d' x : StorePath}

/-- A relative path with segments leads from `p` to `d`. -/
def Descends (p d : StorePath) : Prop :=
  ∃ r : StorePath, Reachable r ∧ r.isAbsolute = false ∧ r.segments ≠ [] ∧ Same (p.resolve r) d

/-- The path to which a relative path leads has its segments behind those of
    the first. -/
theorem same_resolve_iff {r : StorePath} (hr : r.isAbsolute = false) :
    Same (p.resolve r) d ↔ d.bucket = p.bucket ∧ d.segments = p.segments ++ r.segments := by
  rw [same_iff, ← Path.beq_iff, Path.resolve_beq_iff hr]
  exact and_congr_left fun _ => eq_comm

theorem Descends.isBelow (h : Descends p d) : Address.IsBelow p.toAddress d.toAddress := by
  obtain ⟨r, -, hrelative, hsegments, hsame⟩ := h
  exact ⟨r.segments, hsegments, (same_resolve_iff hrelative).mp hsame⟩

theorem Descends.wellFormed (h : Descends p d) (hp : Reachable p) : d.WellFormed := by
  obtain ⟨r, hr, -, -, hsame⟩ := h
  rw [← same_iff.mp hsame]
  exact Path.wellFormed_resolve hp.wellFormed hr.wellFormed

/-- The segments behind those of the first path are a relative path that
    leads down. -/
theorem descends_of_isBelow (hd : Reachable d)
    (h : Address.IsBelow p.toAddress d.toAddress) : Descends p d := by
  obtain ⟨rest, hrest, hbucket, hsegments⟩ := h
  have hway : Reachable (d.derive none rest) :=
    hd.derive (Address.wellFormed_of_append hd.wellFormed hsegments)
  exact ⟨_, hway, rfl, hrest, (same_resolve_iff rfl).mpr ⟨hbucket, hsegments⟩⟩

theorem descends_iff (hd : Reachable d) :
    Descends p d ↔ Address.IsBelow p.toAddress d.toAddress :=
  ⟨Descends.isBelow, descends_of_isBelow hd⟩

/-- **Subtrees stay together.** A path that stands between two descendants of
    a path is a descendant as well, whatever bucket and segments it has. -/
theorem descendants_contiguous (hp : Reachable p) (hne : p.toAddress ≠ ⟨none, []⟩)
    (hd : Descends p d) (hd' : Descends p d') (hx : Reachable x) (hlow : Holds .lessEq d x)
    (hhigh : Holds .lessEq x d') : Descends p x := by
  have hdx : d.lessEq x.toAddress = true := holds_iff.mp hlow
  have hxd : x.lessEq d'.toAddress = true := holds_iff.mp hhigh
  have hbelow : Address.IsBelow p.toAddress x.toAddress :=
    Address.isBelow_of_between hp.wellFormed (hd.wellFormed hp) (hd'.wellFormed hp) hx.wellFormed
      hne hd.isBelow hd'.isBelow hdx hxd
  exact descends_of_isBelow hx hbelow

/-- The path `x-` precedes the descendants of `x`, and `x0` follows them; what
    stands between `x/a` and `x/é` is below `x`. -/
theorem descendants_contiguous_relative :
    let host : Host Value := .fileSystem (.ofHost 0 (.config .default))
    let p : StorePath := ⟨⟨none, ["x"]⟩, host⟩
    let d : StorePath := ⟨⟨none, ["x", "a"]⟩, host⟩
    let d' : StorePath := ⟨⟨none, ["x", "é"]⟩, host⟩
    let x : StorePath := ⟨⟨none, ["x", "b", "-"]⟩, host⟩
    let before : StorePath := ⟨⟨none, ["x-"]⟩, host⟩
    let after : StorePath := ⟨⟨none, ["x0"]⟩, host⟩
    Reachable p ∧ Reachable x ∧ p.toAddress ≠ ⟨none, []⟩ ∧ Descends p d ∧ Descends p d' ∧
      Holds .lessEq d x ∧ Holds .lessEq x d' ∧ Descends p x ∧
      Holds .less p before ∧ Holds .less before d ∧ Holds .less d' after := by
  intro host p d d' x before after
  have hparse : Address.parse? "x" = some p.toAddress := by decide +kernel
  have hparse' : Address.parse? "x/a" = some d.toAddress := by decide +kernel
  have hparse'' : Address.parse? "x/é" = some d'.toAddress := by decide +kernel
  have hparse''' : Address.parse? "x/b/-" = some x.toAddress := by decide +kernel
  have hp : Reachable p := reachable_of_parse? hparse
  have hx : Reachable x := reachable_of_parse? hparse'''
  have hne : p.toAddress ≠ ⟨none, []⟩ := by decide
  have hd : Descends p d :=
    descends_of_isBelow (reachable_of_parse? hparse') ⟨["a"], by decide, rfl, rfl⟩
  have hd' : Descends p d' :=
    descends_of_isBelow (reachable_of_parse? hparse'') ⟨["é"], by decide, rfl, rfl⟩
  have hlow : Holds .lessEq d x := holds_iff.mpr (by decide +kernel)
  have hhigh : Holds .lessEq x d' := holds_iff.mpr (by decide +kernel)
  exact ⟨hp, hx, hne, hd, hd', hlow, hhigh,
    descendants_contiguous hp hne hd hd' hx hlow hhigh, less_iff.mpr (by decide +kernel),
    less_iff.mpr (by decide +kernel), less_iff.mpr (by decide +kernel)⟩

end Keyspace.Session
