import Keyspace.Path.Basic

/-! # File systems

    A configuration holds an endpoint and options. The types of both are left
    open here, since a configuration holds whatever it is given.

    A file system is made from a host: a configuration or another file system.
    A host is also what paths belong to. All file systems that are made one
    from the other have the configuration of the first, and its URI. File
    systems of one configuration are still told apart, by their labels.
-/

namespace Keyspace

/-- The description of a file system: the authority of its URI, and options
    that are passed through. -/
structure Config (V : Type) where
  endpoint : V
  options : V
  /-- Tells a configuration from others of equal content. -/
  label : Option Nat := none

/-- A file system, which hands out paths that belong to it. -/
structure FileSystem (V : Type) where
  config : Config V
  /-- Tells a file system from others of equal content. -/
  label : Nat
  /-- The labels of the file systems between this one and its configuration,
      that of the file system it is made from first. -/
  inner : List Nat

/-- What a file system is made from and a path belongs to. -/
inductive Host (V : Type) where
  | config (c : Config V)
  | fileSystem (f : FileSystem V)

/-- The configuration of a host. -/
def Host.base {V : Type} : Host V → Config V
  | config c => c
  | fileSystem f => f.config

namespace FileSystem

variable {V : Type}

/-- The file system with a label that is made from a host. -/
def ofHost (label : Nat) : Host V → FileSystem V
  | .config c => ⟨c, label, []⟩
  | .fileSystem f => ⟨f.config, label, f.label :: f.inner⟩

/-- What a file system was made from. -/
def host : FileSystem V → Host V
  | ⟨c, _, []⟩ => .config c
  | ⟨c, _, l :: ls⟩ => .fileSystem ⟨c, l, ls⟩

@[simp] theorem label_ofHost (label : Nat) (h : Host V) : (ofHost label h).label = label := by
  cases h <;> rfl

/-- A file system has the configuration of what it is made from. -/
@[simp] theorem config_ofHost (label : Nat) (h : Host V) : (ofHost label h).config = h.base := by
  cases h <;> rfl

/-- A file system keeps what it was made from. -/
@[simp] theorem host_ofHost (label : Nat) (h : Host V) : (ofHost label h).host = h := by
  cases h <;> rfl

/-- A file system is determined by its label and what it was made from. -/
@[simp] theorem ofHost_host (f : FileSystem V) : ofHost f.label f.host = f := by
  obtain ⟨c, l, _ | ⟨l', ls⟩⟩ := f <;> rfl

end FileSystem

/-- The URI of a file system whose endpoint has the given text. -/
def fileSystemUri (endpoint : String) : String :=
  uriStart ++ endpoint ++ separatorText

end Keyspace
