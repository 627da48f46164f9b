import Keyspace.Session.Command
import Keyspace.Registry
import Keyspace.Value.Tagged

/-! # Sessions

    A session has registers, a registry and a supply of labels. This module
    holds its state, the answers it gives, and the parts that the commands
    share: reading operands, looking up receivers and using the registry.

    The session keeps the entries of all shared dictionaries. A register holds
    a value as it was stored, and whoever reads it gets the value with its
    dictionaries as they stand.

    A report is a dictionary, which a register may hold, too. Who reads the
    answers of a session reads them at its end, so a report shows the changes
    that were made to it in the meantime.
-/

namespace Keyspace

/-! ## Section 1: State and answers -/

/-- The state of a session. -/
structure Session where
  registers : List (String × Value)
  registry : Registry
  /-- The next label that was not used. -/
  nextLabel : Nat
  /-- The shared dictionaries as they stand. -/
  dictionaries : Dictionaries

namespace Session

/-- The session before its first step. -/
def initial : Session := ⟨[], .empty, 0, []⟩

/-- Why a step fails. -/
inductive StepFault where
  /-- The operation fails. -/
  | fault (f : Fault)
  /-- An operand refers to a register that is not there. -/
  | noSuchRegister (name : String)
  /-- The receiver is not there, or is of a type that the command is not for. -/
  | badReceiver (typeName? : Option String)

/-- What a step that succeeds answers with. -/
inductive Result where
  | value (v : Value)
  /-- A report, which is a dictionary. -/
  | report (v : Value)

/-- The value that a result holds. -/
def Result.content : Result → Value
  | value v => v
  | report v => v

/-- A result with the dictionaries as they stand. -/
def Result.current (ds : Dictionaries) : Result → Result
  | value v => .value (v.current ds)
  | report v => .report (v.current ds)

/-- What is told about a result: a report itself, any other value as plain
    data. -/
def Result.told : Result → Except Misuse Value
  | value v => v.told
  | report v => .ok v

/-- The answer to a step, with what is told about its result. -/
structure Reply where
  told : Except StepFault Value
  log : List Event

/-- A reply that shows the dictionaries as they stand: a report is one, and no
    other plain data contain any that is shared. -/
def Reply.current (ds : Dictionaries) (r : Reply) : Reply :=
  { r with told := r.told.map (Value.current ds) }

/-- A computation in a session that may fail. What happened before a failure
    stays. -/
abbrev Action (α : Type) : Type := ExceptT StepFault (StateM Session) α

/-! ## Section 2: Parts of a step -/

/-- The outcome of an operation. -/
def lift {α : Type} : Except Fault α → Action α
  | .ok a => pure a
  | .error f => throw (.fault f)

/-- The outcome of an operation that can only be misused. -/
def liftMisuse {α : Type} : Except Misuse α → Action α
  | .ok a => pure a
  | .error m => throw (.fault (.misuse m))

/-- The outcome of an operation on the registry. -/
def withRegistry {α : Type} (operation : Registry → Registry.Outcome α) : Action α := do
  let s ← get
  let (outcome, registry) := operation s.registry
  set { s with registry }
  lift outcome

/-- A label that was not used before. -/
def freshLabel : Action Nat := do
  let s ← get
  set { s with nextLabel := s.nextLabel + 1 }
  return s.nextLabel

/-- A new shared dictionary with the given entries. -/
def share (entries : List (String × Value)) : Action Value := do
  let l ← freshLabel
  modify fun s => { s with dictionaries := (some l, entries) :: s.dictionaries }
  return .dict (some l) entries

/-- The content of a register as it stands. -/
def register? (s : Session) (name : String) : Option Value :=
  (Entries.get? s.registers name).map (Value.current s.dictionaries)

/-- Puts a value into a register in place of what was there. -/
def store (s : Session) (name : String) (v : Value) : Session :=
  { s with registers := (name, v) :: s.registers.filter fun r => r.1 ≠ name }

mutual

/-- The value that an operand stands for. Each list, each dictionary and each
    floating-point number that is written down is a new one. -/
def eval : Operand → Action Value
  | .null => return .null
  | .bool b => return .bool b
  | .int i => return .int i
  | .float numeral =>
    match Binary64.read? numeral with
    | some x => do return .float (← freshLabel) x
    | none => throw (.fault (.misuse (.notANumeral (Text.quote numeral))))
  | .text s => return .text s
  | .list items => do
    let vs ← evalItems items
    return .list (some (← freshLabel)) vs
  | .dict entries => do
    let entries ← evalEntries entries
    share (Entries.ofList entries)
  | .register name => do
    match (← get).register? name with
    | some v => return v
    | none => throw (.noSuchRegister name)

/-- The values of operands, from left to right. -/
def evalItems : List Operand → Action (List Value)
  | [] => return []
  | o :: os => do
    let v ← eval o
    let vs ← evalItems os
    return v :: vs

/-- The entries of a dictionary, from left to right. -/
def evalEntries : List (String × Operand) → Action (List (String × Value))
  | [] => return []
  | (k, o) :: rest => do
    let v ← eval o
    let vs ← evalEntries rest
    return (k, v) :: vs

end

/-- The value of an operand that may be missing. -/
def evalOption : Option Operand → Action (Option Value)
  | none => return none
  | some o => do return some (← eval o)

/-- The content of a register as a receiver: `select` picks out the type that a
    command is for. -/
def receiver {α : Type} (name : String) (select : Value → Option α) : Action α := do
  match (← get).register? name with
  | none => throw (.badReceiver none)
  | some v =>
    match select v with
    | some a => return a
    | none => throw (.badReceiver (some v.typeName))

/-! ## Section 3: Receivers -/

/-- A path. -/
def asPath : Value → Option StorePath
  | .path p => some p
  | _ => none

/-- A file system. -/
def asFileSystem : Value → Option Store
  | .fileSystem f => some f
  | _ => none

/-- The label of a dictionary, if it is shared, and its entries. -/
def asDict : Value → Option (Option Nat × List (String × Value))
  | .dict label entries => some (label, entries)
  | _ => none

/-- What the setting or deletion of a field of a path or record amounts to. -/
def fieldFault (action : FieldAction) (field : String) : Value → Option Misuse
  | .path _ => some (.immutablePath action field)
  | .config _ | .location _ _ => some (.frozenField action (Text.quote field))
  | _ => none

end Session

end Keyspace
