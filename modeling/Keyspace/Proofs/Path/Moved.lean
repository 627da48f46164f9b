import Keyspace.Path.Combination

/-! # Moving paths to another file system

    A path can be moved: it keeps its address and gets another file system,
    which may be of another type. No operation looks at the file systems of
    the paths that it is given. So moving the operands moves the result, and
    answers that are no paths stay the same.
-/

namespace Keyspace.Path

variable {F G : Type}

/-- The path of the same address in another file system. -/
def movedTo (p : Path F) (g : G) : Path G := { p with fileSystem := g }

@[simp] theorem toAddress_movedTo (p : Path F) (g : G) :
    (p.movedTo g).toAddress = p.toAddress := rfl

@[simp] theorem fileSystem_movedTo (p : Path F) (g : G) : (p.movedTo g).fileSystem = g := rfl

@[simp] theorem movedTo_fileSystem (p : Path F) : p.movedTo p.fileSystem = p := rfl

theorem derive_movedTo (p : Path F) (g : G) (bucket : Option String) (segments : List String) :
    (p.movedTo g).derive bucket segments = (p.derive bucket segments).movedTo g := rfl

theorem beq_movedTo (p q : Path F) (g : G) : (p.movedTo g == q.movedTo g) = (p == q) := rfl

/-! ## Section 1: Navigation -/

theorem parse?_movedTo (f : F) (g : G) (s : String) :
    parse? g s = (parse? f s).map fun p => p.movedTo g := by
  rw [parse?, parse?, Option.map_map]
  rfl

theorem root?_movedTo (p : Path F) (g : G) :
    (p.movedTo g).root? = p.root?.map fun q => q.movedTo g := by
  rw [root?, root?, Option.map_map]
  rfl

theorem fileName?_movedTo (p : Path F) (g : G) :
    (p.movedTo g).fileName? = p.fileName?.map fun q => q.movedTo g := by
  rw [fileName?, fileName?, Option.map_map]
  rfl

theorem parent?_movedTo (p : Path F) (g : G) :
    (p.movedTo g).parent? = p.parent?.map fun q => q.movedTo g := by
  simp only [parent?, toAddress_movedTo, derive_movedTo, apply_ite (Option.map _), Option.map_none,
    Option.map_some]
  rfl

theorem components_movedTo (p : Path F) (g : G) :
    (p.movedTo g).components = p.components.map fun q => q.movedTo g := by
  rw [components, components, List.map_map]
  rfl

theorem nameAt?_movedTo (p : Path F) (g : G) (i : Int) :
    (p.movedTo g).nameAt? i = (p.nameAt? i).map fun q => q.movedTo g := by
  simp only [nameAt?, toAddress_movedTo, derive_movedTo]
  split
  · rfl
  · rw [Option.map_map]
    rfl

theorem subpath?_movedTo (p : Path F) (g : G) (i j : Int) :
    (p.movedTo g).subpath? i j = (p.subpath? i j).map fun q => q.movedTo g := by
  simp only [subpath?, toAddress_movedTo, derive_movedTo, apply_ite (Option.map _),
    Option.map_none, Option.map_some]
  rfl

theorem hasComponent_movedTo (p q : Path F) (g : G) :
    (p.movedTo g).hasComponent (q.movedTo g) = p.hasComponent q := by
  rw [hasComponent, hasComponent, components_movedTo, List.any_map]
  rfl

theorem absolute?_movedTo (p : Path F) (g : G) :
    (p.movedTo g).absolute? = p.absolute?.map fun q => q.movedTo g := by
  simp only [absolute?, toAddress_movedTo, apply_ite (Option.map _), Option.map_none,
    Option.map_some]
  rfl

/-! ## Section 2: Combination -/

theorem resolve_movedTo (p q : Path F) (g : G) :
    (p.movedTo g).resolve (q.movedTo g) = (p.resolve q).movedTo g := by
  simp only [resolve, toAddress_movedTo, derive_movedTo, apply_ite fun r : Path F => r.movedTo g]
  rfl

theorem resolveSibling_movedTo (p q : Path F) (g : G) :
    (p.movedTo g).resolveSibling (q.movedTo g) = (p.resolveSibling q).movedTo g := by
  rw [resolveSibling, resolveSibling, parent?_movedTo]
  cases p.parent? with
  | none => rfl
  | some parent =>
    simp only [Option.map_some, toAddress_movedTo, derive_movedTo,
      apply_ite fun r : Path F => r.movedTo g]
    rfl

theorem relativize_movedTo (p q : Path F) (g : G) :
    (p.movedTo g).relativize (q.movedTo g) = (p.relativize q).map fun r => r.movedTo g := by
  simp only [relativize, beq_movedTo, toAddress_movedTo, derive_movedTo,
    apply_ite (Except.map fun r : Path F => r.movedTo g)]
  rfl

theorem endsWith_movedTo (p q : Path F) (g : G) :
    (p.movedTo g).endsWith (q.movedTo g) = p.endsWith q := rfl

end Keyspace.Path
