import Keyspace.Proofs.Path.Wording
import Keyspace.Proofs.Session.Failing

/-! # What errors show

    Names come from outside, and so may hold any characters. A path error shows
    them quoted, so that in a log it stays on one line and no character in it
    controls how the line is shown. This holds of the path errors of all
    commands in all sessions, and of literal forms of paths as well
    (`errors_printable`).

    All commands but one show nothing else (`run_failsWithin`). The exception is
    the one for a range of segments, which may show a last bound that is no
    number.
-/

namespace Keyspace.Session

open Text

/-! ## Section 1: Rules for actions -/

/-- All path errors of the action satisfy `P`. -/
def FailsWithin {α : Type} (P : Failure → Prop) (x : Action α) : Prop :=
  ∀ (s : Session) (f : Failure), (x.run s).1 = .error (.fault (.failure f)) → P f

namespace FailsWithin

variable {α β : Type} {P : Failure → Prop} {x : Action α} {g : α → Action β}

theorem of_noFailure (h : NoFailure x) : FailsWithin P x := fun s f hx => absurd hx (h s f)

theorem pure (a : α) : FailsWithin P (pure a : Action α) := .of_noFailure (.pure a)

theorem throw {e : StepFault} (h : ∀ f, e = .fault (.failure f) → P f) :
    FailsWithin P (throw e : Action α) :=
  fun _ f hf => h f (Except.error.inj hf)

theorem bind (hx : FailsWithin P x) (hg : ∀ a, FailsWithin P (g a)) :
    FailsWithin P (x >>= g) := by
  intro s f h
  rcases cases_of_run_bind_error h with h | ⟨a, s', -, h⟩
  · exact hx s f h
  · exact hg a s' f h

/-- A first part that makes no path errors does not count. -/
theorem after (hx : NoFailure x) (hg : ∀ a, FailsWithin P (g a)) : FailsWithin P (x >>= g) :=
  (of_noFailure hx).bind hg

theorem lift {y : Except Fault α} (h : ∀ f, y = .error (.failure f) → P f) :
    FailsWithin P (lift y) :=
  fun _ f hf => h f (eq_error_of_run_lift hf)

theorem withRegistry {operation : Registry → Registry.Outcome α}
    (h : ∀ r f, (operation r).1 = .error (.failure f) → P f) :
    FailsWithin P (withRegistry operation) :=
  fun s f hf => h s.registry f (eq_error_of_run_lift hf)

end FailsWithin

theorem liftMisuse_noFailure {α : Type} (y : Except Misuse α) : NoFailure (liftMisuse y) := by
  cases y <;> exact fun _ _ => nofun

theorem receiver_noFailure {α : Type} (name : String) (select : Value → Option α) :
    NoFailure (receiver name select) := by
  refine get_noFailure.bind fun s => ?_
  cases s.register? name with
  | none => exact fun _ _ => nofun
  | some v =>
    dsimp only
    cases select v with
    | none => exact fun _ _ => nofun
    | some a => exact .pure a

/-- Looking a receiver up changes nothing. -/
theorem session_of_receiver {α : Type} {name : String} {select : Value → Option α} {a : α}
    {s s' : Session} (h : (receiver name select).run s = (.ok a, s')) : s' = s := by
  rw [receiver, run_bind_of_ok (run_get s)] at h
  cases hregister : s.register? name with
  | none =>
    rw [hregister] at h
    cases h
  | some v =>
    rw [hregister] at h
    dsimp only at h
    cases hselect : select v with
    | none =>
      rw [hselect] at h
      cases h
    | some b =>
      rw [hselect] at h
      cases h
      rfl

theorem evalOption_noFailure (o? : Option Operand) : NoFailure (evalOption o?) := by
  cases o? with
  | none => exact .pure _
  | some o => exact (eval_noFailure o).bind fun _ => .pure _

theorem listResult_noFailure (items : List Value) : NoFailure (listResult items) :=
  freshLabel_noFailure.bind fun _ => .pure _

/-! ## Section 2: Commands -/

variable {address : Except Fault Address} {host : Value} {f : Failure}

/-- A path at an address adds no path error to those of the address. -/
theorem failure_of_pathAt {r : Registry}
    (h : (r.pathAt address host).1 = .error (.failure f)) : address = .error (.failure f) := by
  cases address with
  | error e =>
    obtain rfl := Except.error.inj h
    rfl
  | ok a =>
    unfold Registry.pathAt Registry.hostFor at h
    rcases Registry.hostOf?_cases host with ⟨m, hgiven⟩ | ⟨h', -, hgiven⟩ | ⟨-, hgiven⟩
    all_goals simp [hgiven] at h

theorem newFileSystem_ne_failure (r : Registry) (v : Value) (f : Failure) :
    (r.newFileSystem v).1 ≠ .error (.failure f) := by
  rcases r.newFileSystem_cases v with ⟨m, h⟩ | ⟨h', uri, -, -, h⟩
  all_goals simp [h]

/-- An operation on the value of an operand. -/
theorem evalLift_failsWithin {α : Type} {P : Failure → Prop} (answer : α → Result) (o : Operand)
    {operation : Value → Except Fault α}
    (h : ∀ v f, operation v = .error (.failure f) → P f) :
    FailsWithin P (do
      let v ← eval o
      return answer (← lift (operation v))) :=
  .after (eval_noFailure o) fun v => (FailsWithin.lift (h v)).bind fun _ => .pure _

/-- Whether a path is asked for a range of its segments. -/
def asksRange : PathCommand → Bool
  | .subpath _ _ => true
  | _ => false

theorem runOnPath_failsWithin (p : StorePath) {c : PathCommand} (hc : asksRange c = false) :
    FailsWithin Failure.Presentable (runOnPath p c) := by
  have hrefuse (op : Unsupported) :
      FailsWithin Failure.Presentable (throw (.fault (p.refuse op)) : Action Result) := by
    refine .throw fun f hf => ?_
    cases hf
    trivial
  cases c with
  | subpath first last => cases hc
  | info => exact .of_noFailure (reportResult_noFailure _)
  | root => exact .pure _
  | fileName => exact .pure _
  | parent => exact .pure _
  | fileSystem => exact .pure _
  | normalize => exact .pure _
  | absolute => exact (FailsWithin.lift fun _ => Path.presentable_of_absolute).bind fun _ => .pure _
  | components => exact .of_noFailure (listResult_noFailure _)
  | uri => exact (FailsWithin.lift fun _ => Path.presentable_of_uri).bind fun _ => .pure _
  | location =>
    exact .after freshLabel_noFailure fun _ =>
      (FailsWithin.lift fun _ => Path.presentable_of_location).bind fun _ => .pure _
  | nameAt index =>
    exact evalLift_failsWithin pathResult index fun _ _ => Path.presentable_of_nameAtAny
  | resolve other =>
    exact evalLift_failsWithin pathResult other fun _ _ => Path.presentable_of_resolveAny
  | resolveSibling other =>
    exact evalLift_failsWithin pathResult other fun _ _ => Path.presentable_of_resolveSiblingAny
  | relativize other =>
    exact evalLift_failsWithin pathResult other fun _ _ => Path.presentable_of_relativizeAny
  | endsWith other =>
    exact evalLift_failsWithin boolResult other fun _ _ => Path.presentable_of_endsWithAny
  | compareTo other =>
    exact evalLift_failsWithin (fun o => .value (.int (signOf o))) other
      fun _ _ => Path.presentable_of_compareAny
  | contains item => exact .after (eval_noFailure item) fun _ => .pure _
  | startsWith other => exact .after (eval_noFailure other) fun _ => hrefuse _
  | realPath => exact hrefuse _
  | toFile => exact hrefuse _
  | watch watcher events =>
    exact .after (eval_noFailure watcher) fun _ => .after (evalItems_noFailure events) fun _ =>
      hrefuse _

/-- The error about a range shows both bounds, of which the last one must be a
    number. -/
theorem subpath_presentable {p : StorePath} {first last : Operand} {s : Session}
    (hlast : ∀ v, answer? s (eval first >>= fun _ => eval last) = some v →
      v.number?.isSome = true)
    (h : ((runOnPath p (.subpath first last)).run s).1 = .error (.fault (.failure f))) :
    f.Presentable := by
  obtain ⟨b, s₁, hb, h⟩ := (eval_noFailure first).cases_bind h
  obtain ⟨e, s₂, he, h⟩ := (eval_noFailure last).cases_bind h
  have hboth : (eval first >>= fun _ => eval last).run s = (.ok e, s₂) := by
    rw [run_bind_of_ok hb, he]
  exact Path.presentable_of_subpathAny (hlast e (answer?_of_run hboth))
    (error_of_liftAnswer pathResult h)

theorem runOnFileSystem_failsWithin (fs : Store) (c : FileSystemCommand) :
    FailsWithin Failure.Presentable (runOnFileSystem fs c) := by
  cases c with
  | info => exact .of_noFailure ((liftMisuse_noFailure _).bind fun _ => reportResult_noFailure _)
  | getPath arguments =>
    exact .after (evalItems_noFailure arguments) fun _ =>
      (FailsWithin.lift fun _ => FileSystem.presentable_of_getPath).bind fun _ => .pure _
  | pathFromParts bucket segments =>
    exact .after (eval_noFailure bucket) fun _ => .after (evalItems_noFailure segments) fun _ =>
      (FailsWithin.lift fun _ => FileSystem.presentable_of_pathFromParts).bind fun _ => .pure _

/-- Whether a command asks a path for a range of its segments. -/
def isRangeCommand : Command → Bool
  | .toPath _ c => asksRange c
  | _ => false

/-- All path errors of other commands show nothing that is not printable. -/
theorem run_failsWithin {c : Command} (hc : isRangeCommand c = false) :
    FailsWithin Failure.Presentable (run c) := by
  cases c with
  | path text fileSystem =>
    exact .after (eval_noFailure text) fun _ => .after (eval_noFailure fileSystem) fun _ =>
      (FailsWithin.withRegistry fun _ _ h =>
        Address.presentable_of_parseAny (failure_of_pathAt h)).bind fun _ => .pure _
  | pathFromParts bucket segments fileSystem =>
    exact .after (eval_noFailure bucket) fun _ => .after (evalItems_noFailure segments) fun _ =>
      .after (eval_noFailure fileSystem) fun _ =>
        (FailsWithin.withRegistry fun _ _ h =>
          Address.presentable_of_ofNamesAny (failure_of_pathAt h)).bind fun _ => .pure _
  | defaultFileSystem => exact (FailsWithin.withRegistry fun _ _ => nofun).bind fun _ => .pure _
  | newFileSystem config =>
    exact .after (eval_noFailure config) fun v =>
      (FailsWithin.withRegistry fun r f h =>
        absurd h (newFileSystem_ne_failure r v f)).bind fun _ => .pure _
  | toFileSystem register command =>
    exact .after (receiver_noFailure register asFileSystem) fun fs =>
      runOnFileSystem_failsWithin fs command
  | toPath register command =>
    exact .after (receiver_noFailure register asPath) fun p => runOnPath_failsWithin p hc
  | divide a b =>
    exact .after (eval_noFailure a) fun _ => .after (eval_noFailure b) fun _ =>
      .after freshLabel_noFailure fun _ =>
        (FailsWithin.lift fun _ => Path.presentable_of_quotient).bind fun _ => .pure _
  -- the others can only be misused
  | config endpoint options =>
    exact .after (evalOption_noFailure endpoint) fun _ =>
      .after (evalOption_noFailure options) fun _ => .after freshLabel_noFailure fun _ => .pure _
  | configFrom data =>
    exact .after (eval_noFailure data) fun _ => .after (liftMisuse_noFailure _) fun _ =>
      .after freshLabel_noFailure fun _ => .pure _
  | location bucket key =>
    exact .after (evalOption_noFailure bucket) fun _ => .after (evalOption_noFailure key) fun _ =>
      .after (liftMisuse_noFailure _) fun _ => .after freshLabel_noFailure fun _ => .pure _
  | makeError kind positional named =>
    exact .after (evalItems_noFailure positional) fun _ => .after (eval_noFailure named) fun _ =>
      .after (liftMisuse_noFailure _) fun _ => .after freshLabel_noFailure fun _ => .pure _
  | value v => exact .after (eval_noFailure v) fun _ => .pure _
  | setEntry register key v =>
    exact .after (receiver_noFailure register asDict) fun (_, _) =>
      .after (eval_noFailure v) fun _ => .of_noFailure fun _ _ => nofun
  | plain v =>
    exact .after (eval_noFailure v) fun _ => .after (liftMisuse_noFailure _) fun _ => .pure _
  | literal v =>
    exact .after (eval_noFailure v) fun _ => .after (liftMisuse_noFailure _) fun _ => .pure _
  | truth v => exact .after (eval_noFailure v) fun _ => .pure _
  | setField register field v =>
    exact .after (receiver_noFailure register _) fun _ => .after (eval_noFailure v) fun _ =>
      .throw fun _ => nofun
  | deleteField register field =>
    exact .after (receiver_noFailure register _) fun _ => .throw fun _ => nofun
  | compare a b =>
    exact .after (eval_noFailure a) fun _ => .after (eval_noFailure b) fun _ =>
      .of_noFailure (reportResult_noFailure _)
  | hash v =>
    exact .after (eval_noFailure v) fun _ => .after (liftMisuse_noFailure _) fun _ => .pure _
  | sameHash a b =>
    exact .after get_noFailure fun _ => .after (eval_noFailure a) fun _ =>
      .after (liftMisuse_noFailure _) fun _ => .after (fun _ _ => nofun) fun _ =>
        .after (eval_noFailure b) fun _ => .after (liftMisuse_noFailure _) fun _ => .pure _
  | sort reverse items =>
    exact .after (evalItems_noFailure items) fun _ => .after (liftMisuse_noFailure _) fun _ =>
      .of_noFailure (listResult_noFailure _)
  | extreme e items =>
    exact .after (evalItems_noFailure items) fun _ => .after (liftMisuse_noFailure _) fun _ =>
      .pure _
  | distinct items =>
    exact .after (evalItems_noFailure items) fun _ => .after (liftMisuse_noFailure _) fun _ =>
      .of_noFailure (listResult_noFailure _)

/-! ## Section 3: Errors in every session -/

/-- If the command is for a range of segments and its last bound stands for a
    value, that is a number. -/
def LastBoundIsNumber (s : Session) : Command → Prop
  | .toPath _ (.subpath first last) =>
    ∀ v, answer? s (eval first >>= fun _ => eval last) = some v → v.number?.isSome = true
  | _ => True

theorem run_presentable {s : Session} {c : Command} (hc : LastBoundIsNumber s c)
    (h : ((run c).run s).1 = .error (.fault (.failure f))) : f.Presentable := by
  cases hrange : isRangeCommand c with
  | false => exact run_failsWithin hrange s f h
  | true =>
    cases c with
    | toPath register c =>
      cases c with
      | subpath first last =>
        obtain ⟨p, s', hp, hrun⟩ := (receiver_noFailure register asPath).cases_bind h
        rw [session_of_receiver hp] at hrun
        exact subpath_presentable hc hrun
      | _ => cases hrange
    | _ => cases hrange

/-- **What errors show is printable.** The literal form of every path is written
    and printable, and so are the text and the literal form of every path error that
    a command raises, in every session and whatever the operands are. Only where
    a range of segments is asked for, the last bound must be a number. -/
theorem errors_printable :
    (∀ p : StorePath, ∃ t, (Value.path p).literal = .ok t ∧ Printable t) ∧
      ∀ (s : Session) (c : Command) (f : Failure), LastBoundIsNumber s c →
        ((run c).run s).1 = .error (.fault (.failure f)) →
        (∃ t, f.error.text = .ok t ∧ Printable t) ∧ ∃ t, f.error.literal = .ok t ∧ Printable t := by
  refine ⟨fun p => ?_, fun s c f hc h => ?_⟩
  · have hliteral := Value.written_of_isWritable .literal (Value.isWritable_path p)
    exact ⟨_, hliteral, Value.printable_literal hliteral⟩
  · exact ⟨Failure.printable_text (run_presentable hc h), Failure.printable_literal f⟩

/-- A bucket and segments with line breaks, a control character, a mark that
    turns the direction of writing around, and both quotes: the range of a path,
    and a path without a bucket. -/
theorem errors_printable_hostile :
    let p : StorePath :=
      ⟨⟨some "b\n", ["'\x22\r", "\u202e"]⟩, .fileSystem (.ofHost 0 (.config .default))⟩
    let s : Session := ⟨[("p", .path p)], .empty, 0, []⟩
    let range : Command := .toPath "p" (.subpath (.int 1) (.int 7))
    let f : Failure := .invalidRange p.toAddress (.int 1) (.int 7) (by decide)
    let other : Command := .toPath "p" (.relativize (.text "\t\u2028"))
    let g : Failure := .incompatible p.toAddress ⟨none, ["\t\u2028"]⟩ .otherRelative
    LastBoundIsNumber s range ∧ ((run range).run s).1 = .error (.fault (.failure f)) ∧
      (∃ t, f.error.text = .ok t ∧ Printable t) ∧ LastBoundIsNumber s other ∧
      ((run other).run s).1 = .error (.fault (.failure g)) ∧
      ∃ t, g.error.text = .ok t ∧ Printable t := by
  intro p s range f other g
  have hrange : LastBoundIsNumber s range := by
    intro v hv
    obtain rfl := Option.some.inj hv
    rfl
  have hrun : ((run range).run s).1 = .error (.fault (.failure f)) := rfl
  have hother : ((run other).run s).1 = .error (.fault (.failure g)) := rfl
  exact ⟨hrange, hrun, (errors_printable.2 s range f hrange hrun).1, trivial, hother,
    (errors_printable.2 s other g trivial hother).1⟩

end Keyspace.Session
