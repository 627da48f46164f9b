import Keyspace.Session.Basic
import Keyspace.Collection
import Keyspace.Value.Quotient
import Keyspace.PathError.Arguments
import Keyspace.Report

/-! # Running a session

    A step runs a command and answers with a result or a fault, and with the
    events that it caused; a fault never ends a session. The result of a step
    that succeeds goes into the register that the step names, unless it is
    null.
-/

namespace Keyspace

namespace Session

/-! ## Section 1: Commands to one receiver -/

/-- A path as the result of a step. -/
def pathResult (p : StorePath) : Result := .value (.path p)

/-- A path, or null for none, as the result of a step. -/
def pathResult? : Option StorePath → Result
  | some p => pathResult p
  | none => .value .null

/-- A truth value as the result of a step. -/
def boolResult (b : Bool) : Result := .value (.bool b)

/-- A comparison as a number. -/
def signOf : Ordering → Int
  | .lt => -1
  | .eq => 0
  | .gt => 1

/-- A report as the result of a step. -/
def reportResult (entries : List (String × Value)) : Action Result := do
  return .report (← share entries)

/-- A new list as the result of a step. -/
def listResult (items : List Value) : Action Result := do
  return .value (.list (some (← freshLabel)) items)

/-- Runs a command to a path. -/
def runOnPath (p : StorePath) : PathCommand → Action Result
  | .info => reportResult p.report
  | .root => return pathResult? p.root?
  | .fileName => return pathResult? p.fileName?
  | .parent => return pathResult? p.parent?
  | .fileSystem => return .value (.ofHost p.fileSystem)
  | .normalize => return pathResult p.normalize
  | .absolute => do return pathResult (← lift p.absolute)
  | .components => listResult (p.components.map .path)
  | .uri => do return .value (.text (← lift p.uri))
  | .location => do return .value (.location (some (← freshLabel)) (← lift p.location))
  | .nameAt index => do
    let i ← eval index
    return pathResult (← lift (p.nameAtAny i))
  | .subpath first last => do
    let b ← eval first
    let e ← eval last
    return pathResult (← lift (p.subpathAny b e))
  | .resolve other => do
    let v ← eval other
    return pathResult (← lift (p.resolveAny v))
  | .resolveSibling other => do
    let v ← eval other
    return pathResult (← lift (p.resolveSiblingAny v))
  | .relativize other => do
    let v ← eval other
    return pathResult (← lift (p.relativizeAny v))
  | .endsWith other => do
    let v ← eval other
    return boolResult (← lift (p.endsWithAny v))
  | .compareTo other => do
    let v ← eval other
    return .value (.int (signOf (← lift (p.compareAny v))))
  | .contains item => do
    let v ← eval item
    return boolResult (p.containsAny v)
  | .startsWith other => do
    let _ ← eval other
    throw (.fault (p.refuse .startsWith))
  | .realPath => throw (.fault (p.refuse .realPath))
  | .toFile => throw (.fault (p.refuse .toFile))
  | .watch watcher events => do
    let _ ← eval watcher
    let _ ← evalItems events
    throw (.fault (p.refuse .watch))

/-- Runs a command to a file system. -/
def runOnFileSystem (f : Store) : FileSystemCommand → Action Result
  | .info => do reportResult (← liftMisuse f.report)
  | .getPath arguments => do
    let vs ← evalItems arguments
    return pathResult (← lift (f.getPath vs))
  | .pathFromParts bucket segments => do
    let b ← eval bucket
    let vs ← evalItems segments
    return pathResult (← lift (f.pathFromParts b vs))

/-! ## Section 2: All commands -/

/-- The session after a key of the dictionary in a register was set. The
    change reaches the dictionary wherever it is shared. -/
def afterSetting (s : Session) (register : String) (label : Option Nat)
    (entries : List (String × Value)) (key : String) (v : Value) : Session :=
  match label with
  | none => s.store register (.dict none (Entries.insert entries key v))
  | some l => { s with dictionaries := s.dictionaries.set l key v }

/-- Runs a command. A receiver is looked up before the operands are read. -/
def run : Command → Action Result
  | .path text fileSystem => do
    let t ← eval text
    let f ← eval fileSystem
    return pathResult (← withRegistry fun r => r.path t f)
  | .pathFromParts bucket segments fileSystem => do
    let b ← eval bucket
    let vs ← evalItems segments
    let f ← eval fileSystem
    return pathResult (← withRegistry fun r => r.pathFromParts b vs f)
  | .defaultFileSystem => do
    let f ← withRegistry fun r => (.ok r.default.1, r.default.2)
    return .value (.fileSystem f)
  | .newFileSystem config => do
    let c ← eval config
    return .value (.fileSystem (← withRegistry fun r => r.newFileSystem c))
  | .config endpoint options => do
    let e ← evalOption endpoint
    let o ← evalOption options
    return .value (.config ⟨e.getD (.text ""), o.getD .emptyDict, some (← freshLabel)⟩)
  | .configFrom data => do
    let v ← eval data
    let c ← liftMisuse (Config.ofValue v)
    return .value (.config { c with label := some (← freshLabel) })
  | .location bucket key => do
    let b ← evalOption bucket
    let k ← evalOption key
    let l ← liftMisuse (Location.ofArguments b k)
    return .value (.location (some (← freshLabel)) l)
  | .makeError kind positional named => do
    let vs ← evalItems positional
    let e ← liftMisuse (PathError.build kind vs ((← eval named).entries?.getD []))
    return .value (.error (← freshLabel) e)
  | .value v => do return .value (← eval v)
  | .setEntry register key v => do
    let (label, entries) ← receiver register asDict
    let w ← eval v
    modify fun s => s.afterSetting register label entries key w
    return .value (.dict label (Entries.insert entries key w))
  | .plain v => do return .value (.text (← liftMisuse (← eval v).plain))
  | .literal v => do return .value (.text (← liftMisuse (← eval v).literal))
  | .truth v => do return boolResult (← eval v).truthy
  | .toFileSystem register command => do
    runOnFileSystem (← receiver register asFileSystem) command
  | .toPath register command => do
    runOnPath (← receiver register asPath) command
  | .setField register field v => do
    let m ← receiver register (fieldFault .set field)
    let _ ← eval v
    throw (.fault (.misuse m))
  | .deleteField register field => do
    let m ← receiver register (fieldFault .delete field)
    throw (.fault (.misuse m))
  | .divide a b => do
    let v ← eval a
    let w ← eval b
    return .value (← lift (v.quotient (← freshLabel) w))
  | .compare a b => do
    let v ← eval a
    let w ← eval b
    reportResult (v.comparisonReport w)
  | .hash v => do
    let _ ← liftMisuse (← eval v).hashKey
    return boolResult true
  | .sameHash a b => do
    let s ← get
    let h ← liftMisuse (← eval a).hashKey
    -- nobody holds the first value any more, so its labels are free again
    set s
    let k ← liftMisuse (← eval b).hashKey
    return boolResult (h = k)
  | .sort reverse items => do
    let vs ← evalItems items
    listResult (← liftMisuse (Collection.sort reverse vs))
  | .extreme e items => do
    let vs ← evalItems items
    return .value (← liftMisuse (Collection.extreme e vs))
  | .distinct items => do
    let vs ← evalItems items
    listResult (← liftMisuse (Collection.distinct vs))

/-! ## Section 3: Steps and runs -/

/-- Keeps a value in the register that a step names, unless it is null. -/
def keep (target? : Option String) (v : Value) : Action Unit :=
  match target?, v.isNull with
  | some name, false => modify fun s => s.store name v
  | _, _ => return ()

/-- Runs a command, tells its result as the dictionaries stand after it, and
    keeps it. What cannot be told is not kept. -/
def runStep (st : Step) : Action Value := do
  let r := (← run st.command).current (← get).dictionaries
  let told ← liftMisuse r.told
  keep st.target? r.content
  return told

/-- Runs one step. -/
def step (s : Session) (st : Step) : Reply × Session :=
  let (told, s') := (runStep st).run s
  (⟨told, s'.registry.journal.drop s.registry.journal.length⟩, s')

/-- Runs steps one after the other. -/
def steps (s : Session) : List Step → List Reply × Session
  | [] => ([], s)
  | st :: rest =>
    let (reply, s) := s.step st
    let (replies, s) := s.steps rest
    (reply :: replies, s)

/-- The answers to the steps of a new session, as they are at its end. -/
def replies (sts : List Step) : List Reply :=
  let (replies, s) := initial.steps sts
  replies.map (Reply.current s.dictionaries)

end Session

end Keyspace
