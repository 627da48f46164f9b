import Keyspace.Address.Basic

/-! # Paths and their navigation

    A path is an address together with the file system it belongs to. The
    file system takes no part in equality, order or text; what a path derives
    from itself keeps it.

    Operations that a path may not support return an option: a relative path
    has no root and no URI, a path without segments has no file name, and an
    index may lie outside the segments.
-/

namespace Keyspace

/-- An address in a file system of type `F`. -/
structure Path (F : Type) extends Address where
  fileSystem : F

namespace Path

variable {F : Type}

/-! ## Section 1: Basics -/

/-- Paths are equal when their addresses are. -/
instance : BEq (Path F) := ⟨fun p q => p.toAddress == q.toAddress⟩

theorem beq_def (p q : Path F) : (p == q) = (p.toAddress == q.toAddress) := rfl

@[simp] theorem beq_iff {p q : Path F} : (p == q) = true ↔ p.toAddress = q.toAddress := by
  simp [beq_def]

/-- A path in the same file system. -/
def derive (p : Path F) (bucket : Option String) (segments : List String) : Path F :=
  { bucket, segments, fileSystem := p.fileSystem }

/-- The path a text denotes in a file system. -/
def parse? (fileSystem : F) (s : String) : Option (Path F) :=
  (Address.parse? s).map fun a => { a with fileSystem }

/-! ## Section 2: Navigation -/

/-- The bucket alone. A relative path has no root. -/
def root? (p : Path F) : Option (Path F) :=
  p.bucket.map fun b => p.derive (some b) []

/-- The last segment as a relative path. -/
def fileName? (p : Path F) : Option (Path F) :=
  p.segments.getLast?.map fun s => p.derive none [s]

/-- The path without its last segment. A path without segments has no parent,
    and neither has a relative path of one segment. -/
def parent? (p : Path F) : Option (Path F) :=
  if p.segments = [] then none
  else if p.segments.length = 1 ∧ p.bucket = none then none
  else some (p.derive p.bucket p.segments.dropLast)

/-- A path is already in normal form: parsing leaves out empty segments. -/
def normalize (p : Path F) : Path F := p

/-- Each segment as a relative path, in order. -/
def components (p : Path F) : List (Path F) :=
  p.segments.map fun s => p.derive none [s]

/-- The segment at an index as a relative path; none unless
    `0 ≤ index < nameCount`. -/
def nameAt? (p : Path F) (index : Int) : Option (Path F) :=
  if index < 0 then none
  else p.segments[index.toNat]?.map fun s => p.derive none [s]

/-- The segments from index `first` up to, and without, index `last`, as a
    relative path. The range must not be empty and must lie inside the
    segments. -/
def subpath? (p : Path F) (first last : Int) : Option (Path F) :=
  if first < 0 ∨ Int.ofNat p.nameCount < last ∨ last ≤ first then none
  else some (p.derive none ((p.segments.take last.toNat).drop first.toNat))

/-- Whether one of the components equals the path. -/
def hasComponent (p q : Path F) : Bool := p.components.any fun c => c == q

/-- The path itself if it is absolute; there is no working directory to
    complete a relative one. -/
def absolute? (p : Path F) : Option (Path F) :=
  if p.isAbsolute then some p else none

end Path

end Keyspace
