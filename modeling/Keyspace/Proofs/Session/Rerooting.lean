import Keyspace.Proofs.Path.Relativization
import Keyspace.Proofs.Session.Subtree

/-! # Moving a subtree to another root

    A path within the subtree at one root is moved to another root by
    relativizing it against the first and resolving the result against the
    second. What is moved are the segments behind those of the root, and they
    stay what they are (`reroot_of_extends`). So the way back is the same move
    with the roots exchanged, and no two paths are moved to one place.

    Paths are compared by their texts, and a root without segments is written
    in another way than one with segments. But the order of the paths within a
    subtree is that of the segments behind the root
    (`Address.Extends.compare_eq`), and so it moves along.
-/

namespace Keyspace

namespace Path

/-! ## Section 1: Moving a path -/

/-- The path `p` lies within the subtree at `root`: it has the bucket of the
    root, and its segments begin with those of the root. -/
def IsWithin (root p : StorePath) : Prop :=
  p.bucket = root.bucket ∧ root.segments <+: p.segments

/-- Where `p` comes to lie when the subtree at `source` is moved to `target`. -/
def reroot (source target p : StorePath) : Except Fault StorePath :=
  (source.relativizeAny (.path p)).bind fun rest => target.resolveAny (.path rest)

variable {source target p p' : StorePath} {rest rest' : List String}

theorem IsWithin.exists_extends (h : source.IsWithin p) :
    ∃ rest, Address.Extends source.toAddress rest p.toAddress := by
  obtain ⟨hbucket, rest, hsegments⟩ := h
  exact ⟨rest, hbucket, hsegments.symm⟩

theorem extends_extended (target : StorePath) (rest : List String) :
    Address.Extends target.toAddress rest (target.extended rest).toAddress :=
  ⟨rfl, rfl⟩

/-- The segments behind those of the first root are put behind those of the
    second one. -/
theorem reroot_of_extends (hsource : source.isAbsolute = true)
    (h : Address.Extends source.toAddress rest p.toAddress) (target : StorePath) :
    source.reroot target p = .ok (target.extended rest) := by
  have hrest : source.relativizeAny (.path p) = .ok (source.derive none rest) :=
    Session.relativizeAny_path (relativize_of_segments hsource h.bucket.symm h.segments)
  rw [reroot, hrest, Except.bind]
  show Except.ok (target.resolve (source.derive none rest)) = _
  rw [resolve_of_relative rfl]
  rfl

/-- Within a subtree, paths are equal when the segments behind the root are. -/
theorem beq_iff_of_extends (h : Address.Extends source.toAddress rest p.toAddress)
    (h' : Address.Extends source.toAddress rest' p'.toAddress) :
    (p == p') = true ↔ rest = rest' := by
  rw [beq_iff, Address.eq_iff, h.bucket, h'.bucket, h.segments, h'.segments]
  constructor
  · rintro ⟨-, hsegments⟩
    exact List.append_cancel_left hsegments
  · rintro rfl
    exact ⟨rfl, rfl⟩

end Path

namespace Session

/-! ## Section 2: Moving back, and the order -/

/-- **Moving a subtree is lossless.** A path within the subtree at one absolute
    path can be moved to any other one, where it lies within the subtree.
    Moving it back leads to where it was, different paths are moved to
    different places, and any two compare there as they did before. -/
theorem reroot_lossless {source target p p' : StorePath} (hp : Reachable p) (hp' : Reachable p')
    (hsource : source.isAbsolute = true) (htarget : target.isAbsolute = true)
    (hwithin : source.IsWithin p) (hwithin' : source.IsWithin p') :
    ∃ m m', source.reroot target p = .ok m ∧ source.reroot target p' = .ok m' ∧
      m.bucket = target.bucket ∧ target.segments <+: m.segments ∧
      (∃ back, target.reroot source m = .ok back ∧ (back == p) = true) ∧
      ((m == m') = true → (p == p') = true) ∧
      ∃ n, ComparesTo m m' n ∧ ComparesTo p p' n := by
  obtain ⟨rest, hrest⟩ := hwithin.exists_extends
  obtain ⟨rest', hrest'⟩ := hwithin'.exists_extends
  have hmoved := Path.extends_extended target rest
  have hmoved' := Path.extends_extended target rest'
  refine ⟨_, _, Path.reroot_of_extends hsource hrest target,
    Path.reroot_of_extends hsource hrest' target, rfl, ?_, ?_, ?_, ?_⟩
  · exact List.prefix_append target.segments rest
  · refine ⟨_, Path.reroot_of_extends htarget hmoved source, ?_⟩
    exact (Path.beq_iff_of_extends (Path.extends_extended source rest) hrest).mpr rfl
  · intro hsame
    have hrests : rest = rest' := (Path.beq_iff_of_extends hmoved hmoved').mp hsame
    exact (Path.beq_iff_of_extends hrest hrest').mpr hrests
  · -- both pairs compare as the segments behind the roots do
    have hwf := Address.wellFormed_of_append hp.wellFormed hrest.segments
    have hwf' := Address.wellFormed_of_append hp'.wellFormed hrest'.segments
    refine ⟨_, rfl, comparesTo_iff.mpr ?_⟩
    rw [hrest.compare_eq hrest' hwf hwf', hmoved.compare_eq hmoved' hwf hwf']

/-- From the root of one bucket to a directory of another one. The root is moved
    as well, and its text loses the separator at the end. -/
theorem reroot_lossless_root :
    let host : Host Value := .fileSystem (.ofHost 0 (.config .default))
    let source : StorePath := ⟨⟨some "b", []⟩, host⟩
    let target : StorePath := ⟨⟨some "c", ["k"]⟩, .fileSystem (.ofHost 1 host)⟩
    let p : StorePath := ⟨⟨some "b", ["x-y", "é"]⟩, host⟩
    Reachable source ∧ Reachable p ∧ source.isAbsolute = true ∧ target.isAbsolute = true ∧
      source.IsWithin source ∧ source.IsWithin p ∧ source.text = "/b/" ∧
      ∃ m m', source.reroot target source = .ok m ∧ source.reroot target p = .ok m' ∧
        m.text = "/c/k" ∧ m'.text = "/c/k/x-y/é" ∧
        (∃ back, target.reroot source m = .ok back ∧ (back == source) = true) ∧
        ComparesTo m m' (-1) := by
  intro host source target p
  have hparse : Address.parse? "/b/" = some source.toAddress := by decide +kernel
  have hparse' : Address.parse? "/b/x-y/é" = some p.toAddress := by decide +kernel
  have hroot : Reachable source := reachable_of_parse? hparse
  have hp : Reachable p := reachable_of_parse? hparse'
  have htarget : target.isAbsolute = true := rfl
  have hwithin : source.IsWithin source := ⟨rfl, List.nil_prefix⟩
  have hwithin' : source.IsWithin p := ⟨rfl, List.nil_prefix⟩
  obtain ⟨m, m', hm, hm', -, -, hback, -, n, hmoved, hn⟩ :=
    reroot_lossless hroot hp rfl htarget hwithin hwithin'
  -- the comparison of the two paths before they are moved
  have hless : signOf (source.toAddress.compare p.toAddress) = -1 := by decide +kernel
  rw [comparesTo_iff, hless] at hn
  refine ⟨hroot, hp, rfl, htarget, hwithin, hwithin', by decide +kernel, m, m', hm, hm', ?_, ?_, hback,
    hn ▸ hmoved⟩
  · have hsource : Address.Extends source.toAddress [] source.toAddress := ⟨rfl, rfl⟩
    rw [Path.reroot_of_extends rfl hsource target, Except.ok.injEq] at hm
    rw [← hm]
    decide +kernel
  · have hextends : Address.Extends source.toAddress ["x-y", "é"] p.toAddress := ⟨rfl, rfl⟩
    rw [Path.reroot_of_extends rfl hextends target, Except.ok.injEq] at hm'
    rw [← hm']
    decide +kernel

end Session

end Keyspace
