import Keyspace.Value.Quotient
import Keyspace.Proofs.Address.Text
import Keyspace.Proofs.Path.Moved
import Keyspace.Proofs.Session.Reachable

/-! # Paths as operands and their texts

    Five operations combine a path with an operand that may be a path or a
    text. The text of a reachable path stands for the path: as an operand it
    gives a path of the same address, but in the file system of the path that
    it is given to (`operand_text`). No operation looks at the file system of
    its operand, so the outcomes agree in everything but the file system of
    the result, and in that as well if both paths have the same one.
-/

namespace Keyspace

namespace Path

/-! ## Section 1: Operations on a path and an operand -/

/-- The operations that combine a path with an operand. -/
inductive Combining where
  | resolve
  /-- Resolves by the division sign; the label is for quotients of numbers. -/
  | divide (label : Nat)
  | resolveSibling
  | relativize
  | endsWith

/-- What an operation on a path and an operand answers with. -/
def Combining.outcome (p : StorePath) (v : Value) : Combining → Except Fault Value
  | resolve => (p.resolveAny v).map .path
  | divide label => (Value.path p).quotient label v
  | resolveSibling => (p.resolveSiblingAny v).map .path
  | relativize => (p.relativizeAny v).map .path
  | endsWith => (p.endsWithAny v).map .bool

/-- Two outcomes agree: equal paths, the same truth value, or the same
    failure with all that its error carries. -/
inductive Agree : Except Fault Value → Except Fault Value → Prop where
  | path {r r' : StorePath} : r.bucket = r'.bucket → r.segments = r'.segments →
    Agree (.ok (.path r)) (.ok (.path r'))
  | bool (b : Bool) : Agree (.ok (.bool b)) (.ok (.bool b))
  | error (f : Fault) : Agree (.error f) (.error f)

theorem agree_movedTo (x : Except Fault StorePath) (h : Host Value) :
    Agree ((x.map fun r => r.movedTo h).map .path) (x.map .path) := by
  cases x with
  | ok r => exact .path rfl rfl
  | error f => exact .error f

theorem agree_bool (x : Except Fault Bool) : Agree (x.map .bool) (x.map .bool) := by
  cases x with
  | ok b => exact .bool b
  | error f => exact .error f

/-! ## Section 2: Texts as operands -/

variable {p q : StorePath}

/-- The text of a well-formed path stands for the path, moved to the file
    system of the path beside it. -/
theorem operand_text (hq : q.WellFormed) (p : StorePath) :
    p.operand (.text q.text) = .ok (q.movedTo p.fileSystem) :=
  operand_of_parse? (Address.parse?_text hq) p

theorem resolveAny_text (hq : q.WellFormed) (p : StorePath) :
    p.resolveAny (.text q.text) =
      (p.resolveAny (.path q)).map fun r => r.movedTo p.fileSystem := by
  have hmoved := resolve_movedTo p q p.fileSystem
  rw [movedTo_fileSystem] at hmoved
  rw [resolveAny, operand_text hq, Except.map, hmoved]
  rfl

theorem resolveSiblingAny_text (hq : q.WellFormed) (p : StorePath) :
    p.resolveSiblingAny (.text q.text) =
      (p.resolveSiblingAny (.path q)).map fun r => r.movedTo p.fileSystem := by
  have hmoved := resolveSibling_movedTo p q p.fileSystem
  rw [movedTo_fileSystem] at hmoved
  rw [resolveSiblingAny, operand_text hq, Except.map, hmoved]
  rfl

/-- The failures name addresses only, so they are the same. -/
theorem relativizeAny_text (hq : q.WellFormed) (p : StorePath) :
    p.relativizeAny (.text q.text) =
      (p.relativizeAny (.path q)).map fun r => r.movedTo p.fileSystem := by
  have hmoved := relativize_movedTo p q p.fileSystem
  rw [movedTo_fileSystem] at hmoved
  rw [relativizeAny, operand_text hq, Except.bind, hmoved]
  show _ = (relativizeAny p (.path q)).map _
  rw [relativizeAny, operand, Except.bind]
  cases p.relativize q <;> rfl

theorem endsWithAny_text (hq : q.WellFormed) (p : StorePath) :
    p.endsWithAny (.text q.text) = p.endsWithAny (.path q) := by
  rw [endsWithAny, operand_text hq]
  rfl

/-- With the text of a path as its operand, an operation agrees with what it
    gives for the path. -/
theorem agree_text (hq : q.WellFormed) (p : StorePath) (c : Combining) :
    Agree (c.outcome p (.text q.text)) (c.outcome p (.path q)) := by
  cases c with
  | resolve =>
    rw [Combining.outcome, resolveAny_text hq]
    exact agree_movedTo _ _
  | divide label =>
    show Agree ((p.resolveAny (.text q.text)).map .path) ((p.resolveAny (.path q)).map .path)
    rw [resolveAny_text hq]
    exact agree_movedTo _ _
  | resolveSibling =>
    rw [Combining.outcome, resolveSiblingAny_text hq]
    exact agree_movedTo _ _
  | relativize =>
    rw [Combining.outcome, relativizeAny_text hq]
    exact agree_movedTo _ _
  | endsWith =>
    rw [Combining.outcome, endsWithAny_text hq]
    exact agree_bool _

/-- In one file system there is no difference between a path and its text. -/
theorem outcome_text_of_fileSystem (hq : q.WellFormed) (h : p.fileSystem = q.fileSystem)
    (c : Combining) : c.outcome p (.text q.text) = c.outcome p (.path q) := by
  have hoperand : p.operand (.text q.text) = p.operand (.path q) := by
    rw [operand_text hq, h, movedTo_fileSystem]
    rfl
  cases c with
  | resolve => rw [Combining.outcome, resolveAny, hoperand]; rfl
  | divide label =>
    show (p.resolveAny (.text q.text)).map Value.path = .ok (.path (p.resolve q))
    rw [resolveAny, hoperand]
    rfl
  | resolveSibling => rw [Combining.outcome, resolveSiblingAny, hoperand]; rfl
  | relativize => rw [Combining.outcome, relativizeAny, hoperand]; rfl
  | endsWith => rw [Combining.outcome, endsWithAny, hoperand]; rfl

end Path

namespace Session

/-- **Paths and their texts.** Each operation that combines a path with an
    operand does with the text of a reachable path what it does with the path
    itself. In one file system the outcomes are the same; otherwise only the
    file system of a resulting path may differ. -/
theorem text_interchangeable {q : StorePath} (hq : Reachable q) (p : StorePath)
    (c : Path.Combining) :
    Path.Agree (c.outcome p (.text q.text)) (c.outcome p (.path q)) ∧
      (p.fileSystem = q.fileSystem → c.outcome p (.text q.text) = c.outcome p (.path q)) :=
  ⟨Path.agree_text hq.wellFormed p c,
    fun h => Path.outcome_text_of_fileSystem hq.wellFormed h c⟩

/-- The root of another bucket is refused alike as a path and as a text, and
    replaces the last segment of a path either way, if not in the same file
    system. -/
theorem text_interchangeable_root :
    let host : Host Value := .fileSystem (.ofHost 0 (.config .default))
    let p : StorePath := ⟨⟨some "b", ["x", "y"]⟩, .fileSystem (.ofHost 1 host)⟩
    let q : StorePath := ⟨⟨some "c", []⟩, host⟩
    Reachable q ∧ p.fileSystem ≠ q.fileSystem ∧
      Path.Agree (Path.Combining.outcome p (.text "/c/") .relativize)
        (.error (.failure (.incompatible p.toAddress q.toAddress .bucketMismatch))) ∧
      Path.Agree (Path.Combining.outcome p (.text "/c/") .resolveSibling) (.ok (.path q)) := by
  intro host p q
  have hparse : Address.parse? "/c/" = some q.toAddress := by decide +kernel
  have hq : Reachable q := reachable_of_parse? hparse
  have htext : q.text = "/c/" := by decide +kernel
  have hdifferent : p.fileSystem ≠ q.fileSystem := by
    intro h
    cases h
  obtain ⟨hrelativize, -⟩ := text_interchangeable hq p .relativize
  obtain ⟨hsibling, -⟩ := text_interchangeable hq p .resolveSibling
  rw [htext] at hrelativize hsibling
  exact ⟨hq, hdifferent, hrelativize, hsibling⟩

end Session

end Keyspace
