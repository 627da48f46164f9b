import Keyspace.Proofs.Value.WellFormed
import Keyspace.Proofs.Path.Moved

/-! # Bringing a value up to date again

    A value that was brought up to date knows its shared dictionaries by their
    labels still. So bringing it up to date again is the same as doing so with
    the first value (`current_current`). A path keeps its address and moves to
    what its file system has become (`current_path`).
-/

namespace Keyspace

/-! ## Section 1: File systems of paths -/

/-- A configuration with other values in place of its shared dictionaries. -/
def Config.withShared (f : Nat → Value) (c : Config Value) : Config Value :=
  ⟨c.endpoint.withShared f, c.options.withShared f, c.label⟩

/-- A host with other values in place of its shared dictionaries. -/
def Host.withShared (f : Nat → Value) : Host Value → Host Value
  | .config c => .config (c.withShared f)
  | .fileSystem s => .fileSystem ⟨s.config.withShared f, s.label, s.inner⟩

/-- A host with its shared dictionaries as they stand. -/
def Host.current (ds : Dictionaries) : Host Value → Host Value :=
  Host.withShared (ds.unfold (ds.length + 1) [])

namespace Value

theorem withShared_path (f : Nat → Value) (p : StorePath) :
    (path p).withShared f = path (p.movedTo (p.fileSystem.withShared f)) := by
  obtain ⟨a, ⟨e, o, l⟩ | ⟨⟨e, o, l⟩, n, ls⟩⟩ := p <;> rfl

theorem current_path (ds : Dictionaries) (p : StorePath) :
    (path p).current ds = path (p.movedTo (p.fileSystem.current ds)) := withShared_path _ p

/-! ## Section 2: Twice -/

variable {f g : Nat → Value}

/-- A configuration follows its endpoint and its options. -/
theorem withShared_config_twice {c : Config Value}
    (he : (c.endpoint.withShared g).withShared f = c.endpoint.withShared f)
    (ho : (c.options.withShared g).withShared f = c.options.withShared f) :
    (c.withShared g).withShared f = c.withShared f := by
  simp only [Config.withShared, he, ho]

/-- Values in place of shared dictionaries may themselves have values put in
    place of theirs. -/
theorem withShared_withShared (h : ∀ l, (g l).withShared f = f l) (v : Value) :
    (v.withShared g).withShared f = v.withShared f := by
  induction v using Value.induction with
  | list l items ih =>
    simp only [withShared, itemsWithShared_eq, List.map_map]
    exact congrArg _ (List.map_congr_left ih)
  | pair a b iha ihb => simp only [withShared, iha, ihb]
  | dict l entries ih =>
    cases l with
    | none =>
      simp only [withShared, entriesWithShared_eq, List.map_map]
      exact congrArg _ (List.map_congr_left fun e he => congrArg (Prod.mk e.1) (ih e he))
    | some l => exact h l
  | enclosing l => exact h l
  | path p ihe iho =>
    rw [withShared_path, withShared_path, withShared_path]
    obtain ⟨a, c | s⟩ := p
    · exact congrArg (fun c => path ⟨a, .config c⟩) (withShared_config_twice ihe iho)
    · exact congrArg (fun c => path ⟨a, .fileSystem ⟨c, s.label, s.inner⟩⟩) (withShared_config_twice ihe iho)
  | fileSystem s ihe iho =>
    exact congrArg (fun c => fileSystem ⟨c, s.label, s.inner⟩) (withShared_config_twice ihe iho)
  | config c ihe iho => exact congrArg config (withShared_config_twice ihe iho)
  | location label l ih => exact congrArg (fun b => location label ⟨b, l.key⟩) ih
  | error label e ihm ihp ihb ihd =>
    obtain ⟨d, m, p, b⟩ := e
    have hdetail : detailWithShared f (detailWithShared g d) = detailWithShared f d := by
      cases d <;> simp_all [detailWithShared, ErrorDetail.contents]
    dsimp only at ihm ihp ihb
    simp only [withShared, ihm, ihp, ihb, hdetail]
  | null => rfl
  | bool b => rfl
  | int i => rfl
  | float l x => rfl
  | text s => rfl

/-- What stands for a dictionary carries its label. -/
theorem withShared_unfold (ds : Dictionaries) (f : Nat → Value) (depth : Nat) (around : List Nat)
    (l : Nat) : (ds.unfold depth around l).withShared f = f l := by
  cases depth with
  | zero => rfl
  | succ n =>
    unfold Dictionaries.unfold
    split <;> rfl

theorem current_current (ds ds' : Dictionaries) (v : Value) :
    (v.current ds).current ds' = v.current ds' :=
  withShared_withShared (withShared_unfold ds _ _ _) v

end Value

theorem Host.current_current (ds ds' : Dictionaries) (h : Host Value) :
    (h.current ds).current ds' = h.current ds' := by
  -- a host is what the path at any address belongs to
  have hpath := Value.current_current ds ds' (.path ⟨⟨none, []⟩, h⟩)
  rw [Value.current_path, Value.current_path, Value.current_path] at hpath
  injection hpath with hpath
  exact congrArg (fun p : StorePath => p.fileSystem) hpath

end Keyspace
