import Keyspace.Path.Combination

/-! # The file system of a derived path

    What a path derives from itself belongs to the same file system. Only two
    operations may answer with a path of another one, since they may answer
    with their operand: `resolve` if the operand is absolute, and
    `resolveSibling` also if the path has no parent.
-/

namespace Keyspace.Path

variable {F : Type} {p q r : Path F}

@[simp] theorem fileSystem_derive (bucket : Option String) (segments : List String) :
    (p.derive bucket segments).fileSystem = p.fileSystem := rfl

/-! ## Section 1: Navigation -/

theorem fileSystem_root? (h : p.root? = some q) : q.fileSystem = p.fileSystem := by
  obtain ⟨b, -, rfl⟩ := Option.map_eq_some_iff.mp h
  rfl

theorem fileSystem_fileName? (h : p.fileName? = some q) : q.fileSystem = p.fileSystem := by
  obtain ⟨s, -, rfl⟩ := Option.map_eq_some_iff.mp h
  rfl

theorem fileSystem_parent? (h : p.parent? = some q) : q.fileSystem = p.fileSystem := by
  unfold parent? at h
  split at h
  · simp at h
  · split at h
    · simp at h
    · obtain rfl := Option.some.inj h
      rfl

theorem fileSystem_of_mem_components (h : q ∈ p.components) : q.fileSystem = p.fileSystem := by
  obtain ⟨s, -, rfl⟩ := List.mem_map.mp h
  rfl

theorem fileSystem_nameAt? {i : Int} (h : p.nameAt? i = some q) :
    q.fileSystem = p.fileSystem := by
  unfold nameAt? at h
  split at h
  · simp at h
  · obtain ⟨s, -, rfl⟩ := Option.map_eq_some_iff.mp h
    rfl

theorem fileSystem_subpath? {i j : Int} (h : p.subpath? i j = some q) :
    q.fileSystem = p.fileSystem := by
  unfold subpath? at h
  split at h
  · simp at h
  · obtain rfl := Option.some.inj h
    rfl

theorem fileSystem_absolute? (h : p.absolute? = some q) : q.fileSystem = p.fileSystem := by
  unfold absolute? at h
  split at h
  · rw [Option.some.inj h]
  · simp at h

/-! ## Section 2: Combination -/

theorem fileSystem_parse? {f : F} {s : String} (h : parse? f s = some p) :
    p.fileSystem = f := by
  obtain ⟨a, -, rfl⟩ := Option.map_eq_some_iff.mp h
  rfl

theorem fileSystem_resolve (p q : Path F) :
    (p.resolve q).fileSystem = if q.isAbsolute then q.fileSystem else p.fileSystem := by
  unfold resolve
  split
  · rfl
  · split <;> rfl

theorem fileSystem_resolveSibling (p q : Path F) :
    (p.resolveSibling q).fileSystem =
      if p.parent? = none ∨ q.isAbsolute then q.fileSystem else p.fileSystem := by
  unfold resolveSibling
  split
  · next hnone => rw [if_pos (Or.inl hnone)]
  · next parent hparent =>
    rw [hparent]
    by_cases habs : q.isAbsolute = true
    · simp [habs]
    · by_cases hempty : q.segments = []
      · simp [habs, hempty, fileSystem_parent? hparent]
      · simp [habs, hempty]

theorem fileSystem_relativize (h : p.relativize q = .ok r) : r.fileSystem = p.fileSystem := by
  unfold relativize at h
  split at h
  · obtain rfl := Except.ok.inj h
    rfl
  · split at h
    · simp at h
    · split at h
      · simp at h
      · split at h
        · simp at h
        · obtain rfl := Except.ok.inj h
          rfl

end Keyspace.Path
