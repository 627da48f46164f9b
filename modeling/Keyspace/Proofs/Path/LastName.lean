import Keyspace.Proofs.Path.Siblings

/-! # The last name of a path

    Its parent and its last name are two halves of a path, and resolving puts
    them together again (`resolve_fileName`). A path that has no parent although
    it has a name is this name, and then the empty path takes the place of the
    parent.

    The other way round, what is resolved with a relative path ends with the
    last name of the operand, and its parent is resolved with what is left of
    the operand (`fileName?_extended`, `parent?_extended`). Where nothing is
    left, the parent is the path itself, unless that is empty.
-/

namespace Keyspace.Path

section

variable {F : Type} {p q : Path F} {rest : List String} {s : String}

/-! ## Section 1: Both halves of a path -/

/-- The last name is resolved against the parent, or against an empty path
    where there is no parent. -/
theorem resolve_fileName (h : p.segments ≠ []) :
    ∃ name, p.fileName? = some name ∧ ∀ e : Path F, e.toAddress = ⟨none, []⟩ →
      ((p.parent?.getD e).resolve name).toAddress = p.toAddress := by
  -- in place of the last name, the last name changes nothing
  obtain ⟨name, hname, hself⟩ := resolveSibling_fileName h
  refine ⟨name, hname, fun e he => ?_⟩
  cases hparent : p.parent? with
  | none =>
    rw [resolveSibling_of_no_parent hparent] at hself
    rw [Option.getD_none, empty_resolve he, hself]
  | some parent =>
    rw [resolveSibling_of_parent? hparent] at hself
    rw [Option.getD_some, hself]

/-! ## Section 2: Names behind a path -/

theorem fileName?_extended (p : Path F) (rest : List String) (s : String) :
    (p.extended (rest ++ [s])).fileName? = some (p.derive none [s]) :=
  fileName?_of_concat (List.append_assoc p.segments rest [s]).symm

/-- The name that was put last is taken away again. -/
theorem parent?_extended (h : p.bucket = none → p.segments ++ rest ≠ []) :
    (p.extended (rest ++ [s])).parent? = some (p.extended rest) :=
  parent?_of_concat (List.append_assoc p.segments rest [s]).symm h

/-- A relative operand with segments gives a path its last name. -/
theorem fileName?_resolve (hq : q.isAbsolute = false) (hsegments : q.segments ≠ []) :
    ∃ name name', (p.resolve q).fileName? = some name ∧ q.fileName? = some name' ∧
      name.toAddress = name'.toAddress := by
  obtain ⟨rest, s, hs⟩ := exists_last hsegments
  refine ⟨p.derive none [s], q.derive none [s], ?_, fileName?_of_concat hs, rfl⟩
  rw [resolve_of_relative hq, hs]
  exact fileName?_extended p rest s

/-- Of an operand with two names or more, the parent is resolved in its place. -/
theorem parent?_resolve_of_two (hq : q.isAbsolute = false) (htwo : 2 ≤ q.segments.length) :
    ∃ parent, q.parent? = some parent ∧ (p.resolve q).parent? = some (p.resolve parent) := by
  have hsegments : q.segments ≠ [] := List.ne_nil_of_length_pos (by omega)
  obtain ⟨rest, s, hs⟩ := exists_last hsegments
  have hrest : rest ≠ [] := by
    rw [hs, List.length_append, List.length_singleton] at htwo
    exact List.ne_nil_of_length_pos (by omega)
  have hparent : q.parent? = some (q.derive q.bucket rest) := parent?_of_concat hs fun _ => hrest
  refine ⟨_, hparent, ?_⟩
  rw [resolve_of_relative hq, hs, Address.isAbsolute_eq_false_iff.mp hq, resolve_of_relative rfl]
  exact parent?_extended fun _ => List.append_ne_nil_of_right_ne_nil p.segments hrest

/-- A single name leads to a path whose parent is the first one. -/
theorem parent?_resolve_of_one (hq : q.isAbsolute = false) (hone : q.segments.length = 1)
    (hp : p.toAddress ≠ ⟨none, []⟩) : (p.resolve q).parent? = some p := by
  obtain ⟨s, hs⟩ := List.length_eq_one_iff.mp hone
  have hsegments : p.bucket = none → p.segments ++ [] ≠ [] := by
    rw [List.append_nil]
    exact Address.ne_empty_iff.mp hp
  rw [resolve_of_relative hq, hs]
  exact (parent?_extended hsegments).trans (congrArg some (extended_nil p))

/-- From the empty path it leads to a name, which has no parent. -/
theorem parent?_resolve_of_empty (hq : q.isAbsolute = false) (hone : q.segments.length = 1)
    (hp : p.toAddress = ⟨none, []⟩) : (p.resolve q).parent? = none := by
  obtain ⟨s, hs⟩ := List.length_eq_one_iff.mp hone
  obtain ⟨hbucket, hnil⟩ := Address.eq_iff.mp hp
  rw [resolve_of_relative hq, hbucket, hnil, hs]
  exact parent?_of_name rfl rfl

end

/-- **Parent and last name.** A path with segments is its last name resolved
    against its parent, or against the path of the empty text if there is no
    parent. Resolving a relative path with segments against any path gives one
    with the same last name. Its parent is found by resolving the parent of the
    operand, which is there if the operand has two segments or more. If it has
    one, the parent is the path that it was resolved against, but the empty path
    becomes no parent. -/
theorem parent_and_fileName_decompose (p q : StorePath) (registry : Registry) :
    (∃ e, (registry.path (.text "") .null).1 = .ok e) ∧
      (p.segments ≠ [] →
        ∃ name, p.fileName? = some name ∧
          ∀ e, (registry.path (.text "") .null).1 = .ok e →
            ((p.parent?.getD e).resolve name == p) = true) ∧
      (q.isAbsolute = false → q.segments ≠ [] →
        (∃ name name', (p.resolve q).fileName? = some name ∧ q.fileName? = some name' ∧
          (name == name') = true) ∧
        (2 ≤ q.segments.length →
          ∃ parent, q.parent? = some parent ∧
            (p.resolve q).parent? = some (p.resolve parent)) ∧
        (q.segments.length = 1 → p.toAddress ≠ ⟨none, []⟩ → (p.resolve q).parent? = some p) ∧
        (q.segments.length = 1 → p.toAddress = ⟨none, []⟩ → (p.resolve q).parent? = none)) := by
  simp only [beq_iff]
  refine ⟨⟨_, rfl⟩, fun hp => ?_, fun hq hsegments => ?_⟩
  · obtain ⟨name, hname, htogether⟩ := resolve_fileName hp
    exact ⟨name, hname, fun e he => htogether e (Registry.toAddress_of_path_empty he)⟩
  · exact ⟨fileName?_resolve hq hsegments, parent?_resolve_of_two hq, parent?_resolve_of_one hq,
      parent?_resolve_of_empty hq⟩

/-- Operands of one name and of two, for the root of a bucket and for the empty
    path, all of different file systems. -/
theorem parent_and_fileName_decompose_edges :
    let host (n : Nat) : Host Value := .fileSystem ⟨.default, n, []⟩
    let root : StorePath := ⟨⟨some "b", []⟩, host 1⟩
    let empty : StorePath := ⟨⟨none, []⟩, host 1⟩
    let name : StorePath := ⟨⟨none, ["x"]⟩, host 2⟩
    let two : StorePath := ⟨⟨none, ["x", "y"]⟩, host 3⟩
    name.segments ≠ [] ∧ two.segments ≠ [] ∧ name.isAbsolute = false ∧
      two.isAbsolute = false ∧ name.segments.length = 1 ∧ 2 ≤ two.segments.length ∧
      root.toAddress ≠ ⟨none, []⟩ ∧ empty.toAddress = ⟨none, []⟩ ∧
      (∃ e last, (Registry.empty.path (.text "") .null).1 = .ok e ∧ name.fileName? = some last ∧
        name.parent? = none ∧ ((name.parent?.getD e).resolve last == name) = true) ∧
      (root.resolve name).parent? = some root ∧ (empty.resolve name).parent? = none ∧
      ∃ parent, two.parent? = some parent ∧
        (empty.resolve two).parent? = some (empty.resolve parent) := by
  intro host root empty name two
  have hname : name.segments ≠ [] := List.cons_ne_nil _ _
  have htwo : two.segments ≠ [] := List.cons_ne_nil _ _
  have hroot : root.toAddress ≠ ⟨none, []⟩ := by decide
  obtain ⟨⟨e, he⟩, hhalves, -⟩ := parent_and_fileName_decompose name name Registry.empty
  obtain ⟨last, hlast, htogether⟩ := hhalves hname
  obtain ⟨-, -, hresolved⟩ := parent_and_fileName_decompose root name Registry.empty
  obtain ⟨-, -, hresolved'⟩ := parent_and_fileName_decompose empty name Registry.empty
  obtain ⟨-, -, hresolved''⟩ := parent_and_fileName_decompose empty two Registry.empty
  obtain ⟨-, -, hparent, -⟩ := hresolved rfl hname
  obtain ⟨-, -, -, hnone⟩ := hresolved' rfl hname
  obtain ⟨-, hlonger, -, -⟩ := hresolved'' rfl htwo
  exact ⟨hname, htwo, rfl, rfl, rfl, Nat.le_refl 2, hroot, rfl,
    ⟨e, last, he, hlast, rfl, htogether e he⟩, hparent rfl hroot, hnone rfl rfl,
    hlonger (Nat.le_refl 2)⟩

end Keyspace.Path
