import Keyspace.Proofs.Session.Invariant

/-! # Actions that leave the registry alone

    Only four commands have to do with the registry: the two that construct a
    path, the one that asks for the default file system, and the one that makes
    a file system. All others are quiet (`run_quiet`): whether they succeed or
    fail, they make no file system and record nothing. Operands are quiet too,
    and so is what a step does after its command, so the registry after a step
    is the one after its command (`registry_step`).
-/

namespace Keyspace.Session

/-! ## Section 1: Rules for actions -/

/-- The registry is the same after the action as before. -/
def Quiet {α : Type} (x : Action α) : Prop :=
  ∀ r, Keeps (fun s => s.registry = r) x fun _ => True

namespace Quiet

variable {α β : Type} {x : Action α} {f : α → Action β}

theorem registry_run (h : Quiet x) (s : Session) : (x.run s).2.registry = s.registry :=
  (h s.registry s rfl).1

/-- Whether it fails or succeeds, the registry is the same. -/
theorem run_cases (h : Quiet x) (s : Session) :
    (∃ e s', x.run s = (.error e, s') ∧ s'.registry = s.registry) ∨
      ∃ a s', x.run s = (.ok a, s') ∧ s'.registry = s.registry := by
  have hregistry := h.registry_run s
  rcases hrun : x.run s with ⟨e | a, s'⟩
  · rw [hrun] at hregistry
    exact .inl ⟨e, s', rfl, hregistry⟩
  · rw [hrun] at hregistry
    exact .inr ⟨a, s', rfl, hregistry⟩

theorem pure (a : α) : Quiet (pure a : Action α) := fun _ => Keeps.pure trivial

theorem throw (e : StepFault) : Quiet (throw e : Action α) := fun _ => Keeps.throw e

theorem bind (hx : Quiet x) (hf : ∀ a, Quiet (f a)) : Quiet (x >>= f) :=
  fun r => Keeps.bind (hx r) fun a _ => hf a r

theorem get : Quiet (get : Action Session) := fun _ => Keeps.get.mono fun _ _ => trivial

theorem modify {g : Session → Session} (h : ∀ s, (g s).registry = s.registry) :
    Quiet (modify g : Action Unit) :=
  fun _ => Keeps.modify fun s hs => (h s).trans hs

theorem lift (y : Except Fault α) : Quiet (lift y) := fun _ => Keeps.lift fun _ _ => trivial

theorem liftMisuse (y : Except Misuse α) : Quiet (liftMisuse y) :=
  fun _ => Keeps.liftMisuse fun _ _ => trivial

end Quiet

/-- What comes after an action does not matter for the registry if it is
    quiet. -/
theorem registry_bind {α β : Type} {x : Action α} {f : α → Action β} (hf : ∀ a, Quiet (f a))
    (s : Session) : ((x >>= f).run s).2.registry = (x.run s).2.registry := by
  rw [run_bind]
  rcases x.run s with ⟨_ | a, s'⟩
  · rfl
  · exact (hf a).registry_run s'

/-! ## Section 2: Parts of a step -/

theorem freshLabel_quiet : Quiet freshLabel :=
  fun _ => Keeps.bind Keeps.get fun _ hs => Keeps.bind (Keeps.set hs) fun _ _ => Keeps.pure trivial

theorem share_quiet (entries : List (String × Value)) : Quiet (share entries) :=
  freshLabel_quiet.bind fun _ => (Quiet.modify fun _ => rfl).bind fun _ => Quiet.pure _

theorem receiver_quiet {α : Type} (name : String) (select : Value → Option α) :
    Quiet (receiver name select) := by
  refine Quiet.get.bind fun s => ?_
  cases s.register? name with
  | none => exact Quiet.throw _
  | some v =>
    dsimp only
    cases select v with
    | none => exact Quiet.throw _
    | some a => exact Quiet.pure a

mutual

theorem eval_quiet : ∀ o : Operand, Quiet (eval o)
  | .null => Quiet.pure _
  | .bool _ => Quiet.pure _
  | .int _ => Quiet.pure _
  | .float _ => by
    unfold eval
    split
    · exact freshLabel_quiet.bind fun _ => Quiet.pure _
    · exact Quiet.throw _
  | .text _ => Quiet.pure _
  | .list items => (evalItems_quiet items).bind fun _ => freshLabel_quiet.bind fun _ => Quiet.pure _
  | .dict entries => (evalEntries_quiet entries).bind fun _ => share_quiet _
  | .register _ => by
    refine Quiet.get.bind fun s => ?_
    split
    · exact Quiet.pure _
    · exact Quiet.throw _

theorem evalItems_quiet : ∀ os : List Operand, Quiet (evalItems os)
  | [] => Quiet.pure _
  | o :: os => (eval_quiet o).bind fun _ => (evalItems_quiet os).bind fun _ => Quiet.pure _

theorem evalEntries_quiet : ∀ es : List (String × Operand), Quiet (evalEntries es)
  | [] => Quiet.pure _
  | (_, o) :: rest => (eval_quiet o).bind fun _ => (evalEntries_quiet rest).bind fun _ => Quiet.pure _

end

theorem evalOption_quiet (o? : Option Operand) : Quiet (evalOption o?) := by
  cases o? with
  | none => exact Quiet.pure _
  | some o => exact (eval_quiet o).bind fun _ => Quiet.pure _

theorem reportResult_quiet (entries : List (String × Value)) : Quiet (reportResult entries) :=
  (share_quiet entries).bind fun _ => Quiet.pure _

theorem listResult_quiet (items : List Value) : Quiet (listResult items) :=
  freshLabel_quiet.bind fun _ => Quiet.pure _

theorem keep_quiet (target? : Option String) (v : Value) : Quiet (keep target? v) := by
  unfold keep
  split
  · exact Quiet.modify fun _ => rfl
  · exact Quiet.pure _

/-! ## Section 3: Commands -/

/-- An operation on the value of an operand. -/
theorem evalLift_quiet {α : Type} (o : Operand) (operation : Value → Except Fault α)
    (answer : α → Result) :
    Quiet (do
      let v ← eval o
      return answer (← lift (operation v))) :=
  (eval_quiet o).bind fun _ => (Quiet.lift _).bind fun _ => Quiet.pure _

/-- Nothing that is asked of a path makes a file system. -/
theorem runOnPath_quiet (p : StorePath) (c : PathCommand) : Quiet (runOnPath p c) := by
  cases c with
  | info => exact reportResult_quiet _
  | root => exact Quiet.pure _
  | fileName => exact Quiet.pure _
  | parent => exact Quiet.pure _
  | fileSystem => exact Quiet.pure _
  | normalize => exact Quiet.pure _
  | absolute => exact (Quiet.lift _).bind fun _ => Quiet.pure _
  | components => exact listResult_quiet _
  | uri => exact (Quiet.lift _).bind fun _ => Quiet.pure _
  | location =>
    exact freshLabel_quiet.bind fun _ => (Quiet.lift _).bind fun _ => Quiet.pure _
  | nameAt index => exact evalLift_quiet index _ _
  | subpath first last => exact (eval_quiet first).bind fun _ => evalLift_quiet last _ _
  | resolve other => exact evalLift_quiet other _ _
  | resolveSibling other => exact evalLift_quiet other _ _
  | relativize other => exact evalLift_quiet other _ _
  | endsWith other => exact evalLift_quiet other _ _
  | compareTo other => exact evalLift_quiet other p.compareAny fun o => .value (.int (signOf o))
  | contains item => exact (eval_quiet item).bind fun _ => Quiet.pure _
  | startsWith other => exact (eval_quiet other).bind fun _ => Quiet.throw _
  | realPath => exact Quiet.throw _
  | toFile => exact Quiet.throw _
  | watch watcher events =>
    exact (eval_quiet watcher).bind fun _ => (evalItems_quiet events).bind fun _ => Quiet.throw _

/-- A file system hands out paths that belong to it, and makes no other. -/
theorem runOnFileSystem_quiet (f : Store) (c : FileSystemCommand) :
    Quiet (runOnFileSystem f c) := by
  cases c with
  | info => exact (Quiet.liftMisuse _).bind fun _ => reportResult_quiet _
  | getPath arguments =>
    exact (evalItems_quiet arguments).bind fun _ => (Quiet.lift _).bind fun _ => Quiet.pure _
  | pathFromParts bucket segments =>
    exact (eval_quiet bucket).bind fun _ => (evalItems_quiet segments).bind fun _ =>
      (Quiet.lift _).bind fun _ => Quiet.pure _

/-- The commands that have to do with the registry. -/
def usesRegistry : Command → Bool
  | .path .. | .pathFromParts .. | .defaultFileSystem | .newFileSystem .. => true
  | _ => false

/-- All other commands are quiet. -/
theorem run_quiet {c : Command} (h : usesRegistry c = false) : Quiet (run c) := by
  cases c with
  | path text fileSystem => cases h
  | pathFromParts bucket segments fileSystem => cases h
  | defaultFileSystem => cases h
  | newFileSystem config => cases h
  | config endpoint options =>
    exact (evalOption_quiet endpoint).bind fun _ => (evalOption_quiet options).bind fun _ =>
      freshLabel_quiet.bind fun _ => Quiet.pure _
  | configFrom data =>
    exact (eval_quiet data).bind fun _ => (Quiet.liftMisuse _).bind fun _ =>
      freshLabel_quiet.bind fun _ => Quiet.pure _
  | location bucket key =>
    exact (evalOption_quiet bucket).bind fun _ => (evalOption_quiet key).bind fun _ =>
      (Quiet.liftMisuse _).bind fun _ => freshLabel_quiet.bind fun _ => Quiet.pure _
  | makeError kind positional named =>
    exact (evalItems_quiet positional).bind fun _ => (eval_quiet named).bind fun _ =>
      (Quiet.liftMisuse _).bind fun _ => freshLabel_quiet.bind fun _ => Quiet.pure _
  | value v => exact (eval_quiet v).bind fun _ => Quiet.pure _
  | setEntry register key v =>
    refine (receiver_quiet register asDict).bind fun (label, entries) => ?_
    refine (eval_quiet v).bind fun w => Quiet.bind (Quiet.modify fun s => ?_) fun _ => Quiet.pure _
    cases label <;> rfl
  | plain v =>
    exact (eval_quiet v).bind fun _ => (Quiet.liftMisuse _).bind fun _ => Quiet.pure _
  | literal v =>
    exact (eval_quiet v).bind fun _ => (Quiet.liftMisuse _).bind fun _ => Quiet.pure _
  | truth v => exact (eval_quiet v).bind fun _ => Quiet.pure _
  | toFileSystem register command =>
    exact (receiver_quiet register asFileSystem).bind fun f => runOnFileSystem_quiet f command
  | toPath register command =>
    exact (receiver_quiet register asPath).bind fun p => runOnPath_quiet p command
  | setField register field v =>
    exact (receiver_quiet register _).bind fun _ => (eval_quiet v).bind fun _ => Quiet.throw _
  | deleteField register field => exact (receiver_quiet register _).bind fun _ => Quiet.throw _
  | divide a b =>
    exact (eval_quiet a).bind fun _ => (eval_quiet b).bind fun _ =>
      freshLabel_quiet.bind fun _ => (Quiet.lift _).bind fun _ => Quiet.pure _
  | compare a b =>
    exact (eval_quiet a).bind fun _ => (eval_quiet b).bind fun _ => reportResult_quiet _
  | hash v =>
    exact (eval_quiet v).bind fun _ => (Quiet.liftMisuse _).bind fun _ => Quiet.pure _
  | sameHash a b =>
    -- the session that is put back has the same registry, too
    refine fun r => Keeps.bind Keeps.get fun s hs => ?_
    refine Keeps.bind (eval_quiet a r) fun v _ => ?_
    refine Keeps.bind (Quiet.liftMisuse _ r) fun _ _ => Keeps.bind (Keeps.set hs) fun _ _ => ?_
    exact ((eval_quiet b).bind fun _ => (Quiet.liftMisuse _).bind fun _ => Quiet.pure _) r
  | sort reverse items =>
    exact (evalItems_quiet items).bind fun _ => (Quiet.liftMisuse _).bind fun _ =>
      listResult_quiet _
  | extreme e items =>
    exact (evalItems_quiet items).bind fun _ => (Quiet.liftMisuse _).bind fun _ => Quiet.pure _
  | distinct items =>
    exact (evalItems_quiet items).bind fun _ => (Quiet.liftMisuse _).bind fun _ =>
      listResult_quiet _

/-! ## Section 4: Steps -/

/-- What a step does after its command is quiet, whether or not its result can
    be told. -/
theorem registry_step (s : Session) (st : Step) :
    (s.step st).2.registry = ((run st.command).run s).2.registry := by
  refine registry_bind (fun r => ?_) s
  exact Quiet.get.bind fun _ => (Quiet.liftMisuse _).bind fun _ =>
    (keep_quiet _ _).bind fun _ => Quiet.pure _

end Keyspace.Session
