import Keyspace.Proofs.Path.Operand
import Keyspace.Proofs.Path.Parsing
import Keyspace.Proofs.Path.Resolution

/-! # Siblings

    A sibling of a path is resolved in place of its last segment. All that
    counts of the path is its parent: if there is one, the sibling is resolved
    against the parent (`resolveSibling_of_parent?`), and if there is none, it
    stays as it is (`resolveSibling_of_no_parent`).

    A path has no parent for one of two reasons. It has no segments, or it is
    relative and has a single one; in all other cases the last segment is taken
    away (`parent?_cases`).

    * As an operand of any kind, a sibling leads from a path to where resolving
      leads from the parent (`resolveSibling_by_parent`).
    * A name in place of the last segment does not change the parent
      (`parent?_resolveSibling`). So what takes its place next takes the place
      of the last segment of the first path (`resolveSibling_overwrites`).
-/

namespace Keyspace

namespace Path

section

variable {F : Type} {p q r parent : Path F} {segments : List String} {s : String}

/-! ## Section 1: Parents -/

theorem parent?_of_nil (h : p.segments = []) : p.parent? = none := by
  rw [parent?, if_pos h]

/-- A name on its own has no parent. -/
theorem parent?_of_name (hbucket : p.bucket = none) (h : p.segments = [s]) : p.parent? = none := by
  have hlast : p.segments.length = 1 ∧ p.bucket = none := ⟨by rw [h]; rfl, hbucket⟩
  rw [parent?, if_neg (by rw [h]; exact List.cons_ne_nil s []), if_pos hlast]

/-- The last segment is taken away, unless it is all there is. -/
theorem parent?_of_concat (h : p.segments = segments ++ [s])
    (hrest : p.bucket = none → segments ≠ []) :
    p.parent? = some (p.derive p.bucket segments) := by
  have hne : p.segments ≠ [] := by
    rw [h]
    exact List.append_ne_nil_of_right_ne_nil segments (List.cons_ne_nil s [])
  have hlong : ¬(p.segments.length = 1 ∧ p.bucket = none) := by
    rintro ⟨hlength, hbucket⟩
    apply hrest hbucket
    rw [h, List.length_append, List.length_singleton] at hlength
    exact List.eq_nil_of_length_eq_zero (by omega)
  rw [parent?, if_neg hne, if_neg hlong, h, List.dropLast_concat]

theorem exists_last (h : p.segments ≠ []) : ∃ segments s, p.segments = segments ++ [s] :=
  ⟨_, _, (List.dropLast_concat_getLast h).symm⟩

theorem parent?_cases (p : Path F) :
    (p.parent? = none ∧ (p.segments = [] ∨ p.bucket = none ∧ ∃ s, p.segments = [s])) ∨
      ∃ segments s, p.segments = segments ++ [s] ∧ (p.bucket = none → segments ≠ []) ∧
        p.parent? = some (p.derive p.bucket segments) := by
  by_cases hnil : p.segments = []
  · exact .inl ⟨parent?_of_nil hnil, .inl hnil⟩
  · obtain ⟨segments, s, hconcat⟩ := exists_last hnil
    by_cases hname : p.bucket = none ∧ segments = []
    · -- the last segment is the first one, and there is no bucket before it
      obtain ⟨hbucket, rfl⟩ := hname
      exact .inl ⟨parent?_of_name hbucket hconcat, .inr ⟨hbucket, s, hconcat⟩⟩
    · have hrest : p.bucket = none → segments ≠ [] :=
        fun hbucket hempty => hname ⟨hbucket, hempty⟩
      exact .inr ⟨segments, s, hconcat, hrest, parent?_of_concat hconcat hrest⟩

theorem fileName?_of_concat (h : p.segments = segments ++ [s]) :
    p.fileName? = some (p.derive none [s]) := by
  rw [fileName?, h, List.getLast?_concat]
  rfl

/-! ## Section 2: Siblings and parents -/

theorem resolveSibling_of_no_parent (h : p.parent? = none) (q : Path F) :
    p.resolveSibling q = q := by
  rw [resolveSibling, h]

/-- Taking the place of the last segment is resolving against the parent. -/
theorem resolveSibling_of_parent? (h : p.parent? = some parent) (q : Path F) :
    p.resolveSibling q = parent.resolve q := by
  obtain ⟨hnone, -⟩ | ⟨segments, s, hconcat, -, hparent⟩ := p.parent?_cases
  · rw [hnone] at h
    cases h
  · rw [hparent] at h
    obtain rfl := Option.some.inj h
    rw [resolveSibling, hparent, hconcat, List.dropLast_concat]
    rfl

/-- Nothing but the parent counts. -/
theorem resolveSibling_congr {p' : Path F} (h : p.parent? = p'.parent?) (q : Path F) :
    p.resolveSibling q = p'.resolveSibling q := by
  cases hparent : p'.parent? with
  | none => rw [resolveSibling_of_no_parent (h.trans hparent), resolveSibling_of_no_parent hparent]
  | some parent =>
    rw [resolveSibling_of_parent? (h.trans hparent), resolveSibling_of_parent? hparent]

/-- The last name of a path, put in its own place, changes nothing. -/
theorem resolveSibling_fileName (h : p.segments ≠ []) :
    ∃ name, p.fileName? = some name ∧ p.resolveSibling name = p := by
  obtain ⟨hnone, hnil | ⟨hbucket, s, hname⟩⟩ | ⟨segments, s, hconcat, -, hparent⟩ :=
    p.parent?_cases
  · exact absurd hnil h
  · -- the path is its own last name
    have hconcat : p.segments = [] ++ [s] := hname
    refine ⟨p.derive none [s], fileName?_of_concat hconcat, ?_⟩
    calc p.resolveSibling (p.derive none [s])
        = p.derive none [s] := resolveSibling_of_no_parent hnone _
      _ = p.derive p.bucket p.segments := by rw [hbucket, hname]
      _ = p := rfl
  · refine ⟨p.derive none [s], fileName?_of_concat hconcat, ?_⟩
    calc p.resolveSibling (p.derive none [s])
        = (p.derive p.bucket segments).resolve (p.derive none [s]) :=
          resolveSibling_of_parent? hparent _
      _ = p.derive p.bucket (segments ++ [s]) := resolve_of_relative rfl
      _ = p.derive p.bucket p.segments := by rw [hconcat]
      _ = p := rfl

/-- A name in place of the last one leaves the parent what it is. -/
theorem parent?_resolveSibling (hq : q.isAbsolute = false) (hname : q.segments.length = 1) :
    (p.resolveSibling q).parent? = p.parent? := by
  obtain ⟨s, hs⟩ := List.length_eq_one_iff.mp hname
  obtain ⟨hnone, -⟩ | ⟨segments, -, -, hrest, hparent⟩ := p.parent?_cases
  · -- the name stays on its own, and has no parent either
    rw [resolveSibling_of_no_parent hnone, hnone]
    exact parent?_of_name (Address.isAbsolute_eq_false_iff.mp hq) hs
  · rw [resolveSibling_of_parent? hparent, resolve_of_relative hq, hparent, hs]
    exact parent?_of_concat rfl hrest

/-- **The last name is overwritten.** A path with segments is the sibling of its
    own last name. If a name takes the place of the last segment of a path, and
    some path the place of that name, the result is what that path gives in
    place of the last segment at once. File systems come out the same, too, and
    it makes no difference whether there is a parent. -/
theorem resolveSibling_overwrites (p q r : Path F) :
    (p.segments ≠ [] → ∃ name, p.fileName? = some name ∧ p.resolveSibling name = p) ∧
      (q.isAbsolute = false → q.segments.length = 1 →
        (p.resolveSibling q).resolveSibling r = p.resolveSibling r) := by
  refine ⟨resolveSibling_fileName, ?_⟩
  intro hq hname
  exact resolveSibling_congr (parent?_resolveSibling hq hname) r

/-- The root of a bucket has no parent, so that the name comes out without the
    bucket; a path below it has one. Both belong to another file system than the
    name and what overwrites it. -/
theorem resolveSibling_overwrites_root :
    let root : Path Nat := ⟨⟨some "b", []⟩, 1⟩
    let p : Path Nat := ⟨⟨some "b", ["x", "y"]⟩, 1⟩
    let q : Path Nat := ⟨⟨none, ["z"]⟩, 2⟩
    let r : Path Nat := ⟨⟨none, ["u", "v"]⟩, 3⟩
    p.segments ≠ [] ∧ q.isAbsolute = false ∧ q.segments.length = 1 ∧
      p.resolveSibling ⟨⟨none, ["y"]⟩, 1⟩ = p ∧
      (root.resolveSibling q).resolveSibling r = root.resolveSibling r ∧
      (p.resolveSibling q).resolveSibling r = p.resolveSibling r ∧
      root.resolveSibling q = q ∧ root.resolveSibling r = r ∧
      p.resolveSibling r = ⟨⟨some "b", ["x", "u", "v"]⟩, 1⟩ := by
  intro root p q r
  have hsegments : p.segments ≠ [] := List.cons_ne_nil _ _
  obtain ⟨hself, hbelow⟩ := resolveSibling_overwrites p q r
  obtain ⟨-, hroot⟩ := resolveSibling_overwrites root q r
  obtain ⟨name, hname, hsame⟩ := hself hsegments
  obtain rfl := Option.some.inj hname
  exact ⟨hsegments, rfl, rfl, hsame, hroot rfl rfl, hbelow rfl rfl, rfl, rfl, rfl⟩

end

end Path

/-! ## Section 3: Siblings of any kind -/

/-- The value is the path itself, or a text that makes the path in a file
    system. -/
inductive Value.ReadsAs (host : Host Value) : Value → StorePath → Prop where
  | path (q : StorePath) : ReadsAs host (.path q) q
  | text {r : Registry} {t : String} {q : StorePath} :
    (r.path (.text t) (.ofHost host)).1 = .ok q → ReadsAs host (.text t) q

/-- A path that is made for a file system belongs to it. -/
theorem Registry.fileSystem_of_pathAt {r : Registry} {address : Except Fault Address}
    {host : Host Value} {p : StorePath} (h : (r.pathAt address (.ofHost host)).1 = .ok p) :
    p.fileSystem = host := by
  cases address with
  | error e => cases h
  | ok a =>
    cases host <;>
    · obtain rfl := Except.ok.inj h
      rfl

namespace Path

variable {p q parent : StorePath} {v : Value}

theorem operand_of_readsAs (h : v.ReadsAs p.fileSystem q) : p.operand v = .ok q := by
  cases h with
  | path q => rfl
  | @text r t q hq =>
    have hhost : q.fileSystem = p.fileSystem := Registry.fileSystem_of_pathAt hq
    rw [operand_of_parse? (Registry.parse?_of_path hq), ← hhost]

/-- **Siblings are resolved against the parent.** Let an operand be a path of
    any file system, or a text that makes a path in the file system of `p`. If
    `p` has a parent, the operand gives the same path in place of the last
    segment of `p` as it does resolved against the parent, with the same bucket,
    segments and file system. Otherwise it gives what it stands for. -/
theorem resolveSibling_by_parent (hv : v.ReadsAs p.fileSystem q) :
    (∀ parent, p.parent? = some parent →
        ∃ m, p.resolveSiblingAny v = .ok m ∧ parent.resolveAny v = .ok m) ∧
      (p.parent? = none → p.resolveSiblingAny v = .ok q) := by
  have hoperand : p.operand v = .ok q := operand_of_readsAs hv
  have hsibling : p.resolveSiblingAny v = .ok (p.resolveSibling q) := by
    rw [resolveSiblingAny, hoperand]
    rfl
  constructor
  · intro parent hparent
    -- a text is read alike beside the parent, which has the same file system
    have hoperand' : parent.operand v = .ok q := by
      apply operand_of_readsAs
      rwa [fileSystem_parent? hparent]
    refine ⟨_, hsibling, ?_⟩
    rw [resolveSibling_of_parent? hparent, resolveAny, hoperand']
    rfl
  · intro hnone
    rw [hsibling, resolveSibling_of_no_parent hnone]

/-- A text and the empty path of another file system, beside a path with a
    parent and the root of a bucket. -/
theorem resolveSibling_by_parent_text :
    let host (n : Nat) : Host Value := .fileSystem ⟨.default, n, []⟩
    let p : StorePath := ⟨⟨some "b", ["x", "y"]⟩, host 1⟩
    let parent : StorePath := ⟨⟨some "b", ["x"]⟩, host 1⟩
    let root : StorePath := ⟨⟨some "b", []⟩, host 1⟩
    let q : StorePath := ⟨⟨none, []⟩, host 2⟩
    let t : StorePath := ⟨⟨none, ["u", "v"]⟩, host 1⟩
    (Value.path q).ReadsAs (host 1) q ∧ (Value.text "u//v/").ReadsAs (host 1) t ∧
      p.parent? = some parent ∧ root.parent? = none ∧
      (∃ m, p.resolveSiblingAny (.path q) = .ok m ∧ parent.resolveAny (.path q) = .ok m) ∧
      (∃ m, p.resolveSiblingAny (.text "u//v/") = .ok m ∧
        parent.resolveAny (.text "u//v/") = .ok m) ∧
      root.resolveSiblingAny (.path q) = .ok q ∧
      root.resolveSiblingAny (.text "u//v/") = .ok t := by
  intro host p parent root q t
  have hparse : Address.parse? "u//v/" = some t.toAddress := by decide +kernel
  have hpath : (Value.path q).ReadsAs (host 1) q := .path q
  have htext : (Value.text "u//v/").ReadsAs (host 1) t :=
    .text (Registry.path_in_fileSystem hparse .empty _)
  have hparent : p.parent? = some parent := rfl
  obtain ⟨hbelow, -⟩ := resolveSibling_by_parent (p := p) hpath
  obtain ⟨hbelow', -⟩ := resolveSibling_by_parent (p := p) htext
  obtain ⟨-, hroot⟩ := resolveSibling_by_parent (p := root) hpath
  obtain ⟨-, hroot'⟩ := resolveSibling_by_parent (p := root) htext
  exact ⟨hpath, htext, hparent, rfl, hbelow parent hparent, hbelow' parent hparent, hroot rfl,
    hroot' rfl⟩

end Path

end Keyspace
