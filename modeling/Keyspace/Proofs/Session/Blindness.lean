import Keyspace.Proofs.Session.Counterpart
import Keyspace.Proofs.Session.LifeCycle

/-! # File systems do not influence paths

    Two sequences of steps are counterparts when they make paths and ask of
    them the same, step by step, but may give the paths that they make
    different file systems. Run in one session, they go side by side: what is
    observed at each step is the same in both runs, paths by their buckets and
    segments, other values as they are, errors with their messages and all
    attributes (`file_systems_invisible`). The invariant is that the sessions
    correspond (`step_parallel`).
-/

namespace Keyspace.Session

variable {given : List String}

/-! ## Section 1: Steps -/

/-- Between steps, two sessions correspond and the file systems that paths are
    given are in their registers. -/
structure Between (given : List String) (s t : Session) : Prop where
  corresponds : Corresponds s t
  holds : HoldsFileSystems given s.registers

theorem get?_filter_ne {entries : List (String × Value)} {key name : String} (h : key ≠ name) :
    Entries.get? (entries.filter fun e => e.1 ≠ name) key = Entries.get? entries key := by
  induction entries with
  | nil => rfl
  | cons e rest ih =>
    obtain ⟨k, v⟩ := e
    by_cases hk : k = name
    · -- an entry that is left out has another key
      have hkey : k ≠ key := by
        rintro rfl
        exact h hk
      rw [List.filter_cons_of_neg (by simpa using hk), ih, Entries.get?, if_neg hkey]
    · rw [List.filter_cons_of_pos (by simpa using hk), Entries.get?, Entries.get?, ih]

theorem Between.store {s t : Session} {v w : Value} {name : String} (hst : Between given s t)
    (hvw : SameValue v w) (hname : name ∉ given) :
    Between given (s.store name v) (t.store name w) := by
  refine ⟨⟨?_, hst.corresponds.nextLabel, hst.corresponds.dictionaries⟩, fun n hn => ?_⟩
  · have hfilter (es : List (String × Value)) : Entries.detached (es.filter fun e => e.1 ≠ name) =
        (Entries.detached es).filter fun e => e.1 ≠ name := by
      rw [Entries.detached, Entries.detached, List.filter_map]
      rfl
    show (name, v.detached) :: Entries.detached (s.registers.filter fun e => e.1 ≠ name) =
      (name, w.detached) :: Entries.detached (t.registers.filter fun e => e.1 ≠ name)
    rw [hfilter, hfilter, hst.corresponds.registers, hvw]
  · obtain ⟨f, hf⟩ := hst.holds n hn
    have hne : n ≠ name := by
      rintro rfl
      exact hname hn
    refine ⟨f, ?_⟩
    show Entries.get? ((name, v) :: s.registers.filter fun e => e.1 ≠ name) n = _
    rw [Entries.get?, if_neg hne.symm, get?_filter_ne hne, hf]

theorem keep_parallel {v w : Value} {target? : Option String} (hvw : SameValue v w)
    (htarget : ∀ name ∈ target?, name ∉ given) :
    Parallel (Between given) (keep target? v) (keep target? w) fun _ _ => True := by
  have hnull : v.isNull = w.isNull := by
    rw [← Value.isNull_detached, hvw, Value.isNull_detached]
  unfold keep
  rw [hnull]
  split
  · exact Parallel.modify fun s t hst => hst.store hvw (htarget _ rfl)
  · exact Parallel.pure trivial

theorem SameResult.content {r r' : Result} (h : SameResult r r') :
    SameValue r.content r'.content := by
  have hcontent (r : Result) : r.detached.content = r.content.detached := by
    cases r <;> rfl
  rw [SameValue, ← hcontent, ← hcontent, h]

/-- Whether a result can be told does not depend on file systems; what is told
    may name them. -/
theorem told_parallel {I : Session → Session → Prop} {r r' : Result} (h : SameResult r r') :
    Parallel I (liftMisuse r.told) (liftMisuse r'.told) fun _ _ => True := by
  have hvalue (v w : Value) (hvw : SameValue v w) :
      Parallel I (liftMisuse v.told) (liftMisuse w.told) fun _ _ => True := by
    have hendless : v.isEndless = w.isEndless := by
      rw [← Value.isEndless_detached, hvw, Value.isEndless_detached]
    have hwritable : v.isWritable = w.isWritable := by
      rw [← Value.isWritable_detached, hvw, Value.isWritable_detached]
    rw [Value.told, Value.told, hendless, hwritable]
    split
    · exact Parallel.throw rfl
    split
    · exact Parallel.pure trivial
    · exact Parallel.throw rfl
  cases r with
  | value v =>
    cases r' with
    | value w => exact hvalue v w h.content
    | report w => cases h
  | report v =>
    cases r' with
    | value w => cases h
    | report w => exact Parallel.pure trivial

theorem current_sameResult {s t : Session} {r r' : Result} (hst : Corresponds s t)
    (h : SameResult r r') : SameResult (r.current s.dictionaries) (r'.current t.dictionaries) := by
  have hcurrent (ds : Dictionaries) (r : Result) :
      (r.current ds).detached = r.detached.current ds.detached := by
    cases r with
    | value v => exact congrArg Result.value (Value.current_detached ds v)
    | report v => exact congrArg Result.report (Value.current_detached ds v)
  rw [SameResult, hcurrent, hcurrent, h, hst.dictionaries]

/-- What a step does with the result of its command. -/
def finish (target? : Option String) (r : Result) : Action Value := do
  let r := r.current (← get).dictionaries
  let told ← liftMisuse r.told
  keep target? r.content
  return told

theorem step_snd (s : Session) (st : Step) :
    (s.step st).2 = ((run st.command >>= finish st.target?).run s).2 := rfl

theorem finish_parallel {r r' : Result} {target? : Option String} (h : SameResult r r')
    (htarget : ∀ name ∈ target?, name ∉ given) :
    Parallel (Between given) (finish target? r) (finish target? r') fun _ _ => True := by
  refine Parallel.bind Parallel.get fun s t hst => ?_
  have hcurrent := current_sameResult hst.corresponds h
  refine Parallel.bind (told_parallel hcurrent) fun _ _ _ => ?_
  exact Parallel.bind (keep_parallel hcurrent.content htarget) fun _ _ _ => Parallel.pure trivial

/-- A step and its counterpart have corresponding outcomes and lead to
    corresponding sessions. -/
theorem step_parallel {s t : Session} {c c' : Command} {target? : Option String}
    (hst : Between given s t) (hc : Counterpart given c c') (hcompares : ComparesPath s.registers c)
    (htarget : ∀ name ∈ target?, name ∉ given) :
    Between given (s.step ⟨c, target?⟩).2 (t.step ⟨c', target?⟩).2 ∧
      Outcomes SameResult ((run c).run s).1 ((run c').run t).1 := by
  obtain ⟨hduring, houtcomes⟩ :=
    run_parallel hc hst.holds hcompares s t ⟨hst.corresponds, rfl⟩
  -- the command has left the registers alone
  have hbetween : Between given ((run c).run s).2 ((run c').run t).2 := by
    refine ⟨hduring.toCorresponds, ?_⟩
    rw [hduring.unchanged]
    exact hst.holds
  refine ⟨?_, houtcomes⟩
  rw [step_snd, step_snd]
  exact (Parallel.bind_run hbetween houtcomes fun r r' hr => finish_parallel hr htarget).1

/-! ## Section 2: Runs -/

/-- What is observed of an outcome: all but the file systems of paths. -/
inductive Observation where
  /-- A value; paths in it are detached. -/
  | value (v : Value)
  /-- A path error with its kind, its message and its attributes. -/
  | error (e : PathError Value)
  | misuse (m : Misuse)
  | noSuchRegister (name : String)
  | badReceiver (typeName? : Option String)

/-- What is observed when a command is run. -/
def observe : Except StepFault Result → Observation
  | .ok r => .value r.content.detached
  | .error (.fault (.failure f)) => .error f.error.detached
  | .error (.fault (.misuse m)) => .misuse m
  | .error (.noSuchRegister name) => .noSuchRegister name
  | .error (.badReceiver typeName?) => .badReceiver typeName?

/-- The faults of corresponding outcomes have the same messages and the same
    attributes. -/
theorem observe_of_outcomes {o o' : Except StepFault Result} (h : Outcomes SameResult o o') :
    observe o = observe o' := by
  -- a fault is observed as far as it is the same when detached
  have hfault (e : StepFault) : observe (.error e) =
      match e.detached with
      | .fault (.failure f) => .error f.error
      | .fault (.misuse m) => .misuse m
      | .noSuchRegister name => .noSuchRegister name
      | .badReceiver typeName? => .badReceiver typeName? := by
    cases e with
    | fault f =>
      cases f with
      | failure f => exact congrArg Observation.error f.error_detached.symm
      | misuse m => rfl
    | noSuchRegister name => rfl
    | badReceiver typeName? => rfl
  cases h with
  | ok h => exact congrArg Observation.value h.content
  | error h => rw [hfault, hfault, h]

/-- Sequences of steps that differ only in the file systems that paths are
    given. No step puts anything into the registers that these are in. -/
inductive Counterparts (given : List String) : List Step → List Step → Prop where
  | nil : Counterparts given [] []
  | cons {c c' : Command} {target? : Option String} {sts sts' : List Step} :
    Counterpart given c c' → (∀ name ∈ target?, name ∉ given) → Counterparts given sts sts' →
    Counterparts given (⟨c, target?⟩ :: sts) (⟨c', target?⟩ :: sts')

/-- What is observed at the moments of a run. -/
def observations (ms : List Moment) : List Observation := ms.map fun m => observe m.outcome

/-- Counterparts that are run in corresponding sessions are observed alike. -/
theorem observations_parallel {sts sts' : List Step} (h : Counterparts given sts sts')
    {s t : Session} (hst : Between given s t)
    (hcompares : ∀ m ∈ s.moments sts, ComparesPath m.before.registers m.step.command) :
    observations (s.moments sts) = observations (t.moments sts') := by
  induction h generalizing s t with
  | nil => rfl
  | cons hc htarget _ ih =>
    obtain ⟨hfirst, hrest⟩ := List.forall_mem_cons.mp hcompares
    obtain ⟨hst', houtcomes⟩ := step_parallel hst hc hfirst htarget
    show observe _ :: observations _ = observe _ :: observations _
    rw [ih hst' hrest]
    exact congrArg (fun o => o :: _) (observe_of_outcomes houtcomes)

/-- **File systems are invisible.** Of two runs in one session that construct
    paths and ask of them the same, and differ only in the file systems that
    the paths are given, every step is observed alike: results have the same
    buckets, segments, texts, truth values, numbers and locations, and faults
    the same kind, message and attributes. -/
theorem file_systems_invisible {given : List String} {s : Session} {sts sts' : List Step}
    (hgiven : HoldsFileSystems given s.registers) (h : Counterparts given sts sts')
    (hcompares : ∀ m ∈ s.moments sts, ComparesPath m.before.registers m.step.command) :
    observations (s.moments sts) = observations (s.moments sts') :=
  observations_parallel h ⟨.refl s, hgiven⟩ hcompares

/-- Two paths of one file system, and the same paths of another one and the
    default one: a sibling, a relative path that there is not, and a
    comparison. -/
theorem file_systems_invisible_exchanged :
    let s : Session := ⟨[("f", .fileSystem ⟨.default, 0, []⟩),
      ("g", .fileSystem ⟨⟨.text "host", .emptyDict, some 0⟩, 1, []⟩)], .empty, 1, []⟩
    let steps (fileSystem : Operand) (register : String) : List Step :=
      [⟨.path (.text "/b//x") fileSystem, some "p"⟩,
        ⟨.toFileSystem register (.getPath [.text "y", .text "z"]), some "q"⟩,
        ⟨.toPath "p" (.resolveSibling (.register "q")), some "r"⟩,
        ⟨.toPath "p" (.relativize (.register "q")), some "d"⟩,
        ⟨.compare (.register "p") (.register "r"), none⟩]
    HoldsFileSystems ["f", "g"] s.registers ∧
      Counterparts ["f", "g"] (steps (.register "g") "f") (steps .null "g") ∧
      (∀ m ∈ s.moments (steps (.register "g") "f"),
        ComparesPath m.before.registers m.step.command) ∧
      observations (s.moments (steps (.register "g") "f")) =
        observations (s.moments (steps .null "g")) := by
  intro s steps
  have hgiven : HoldsFileSystems ["f", "g"] s.registers := by
    intro name hname
    rcases List.mem_cons.mp hname with rfl | hname
    · exact ⟨_, rfl⟩
    · obtain rfl := List.mem_singleton.mp hname
      exact ⟨_, rfl⟩
  have hcounterparts : Counterparts ["f", "g"] (steps (.register "g") "f") (steps .null "g") :=
    .cons (.path (.register (by decide)) .default) (by decide) <|
      .cons (.getPath (by decide) (by decide)) (by decide) <|
        .cons (.same trivial) (by decide) <| .cons (.same trivial) (by decide) <|
          .cons (.same trivial) (by decide) .nil
  have hcompares : ∀ m ∈ s.moments (steps (.register "g") "f"),
      ComparesPath m.before.registers m.step.command := by
    simp only [steps, moments, List.forall_mem_cons]
    refine ⟨trivial, trivial, trivial, trivial, .inl (holdsPath_of_isSome ?_), by simp⟩
    decide +kernel
  exact ⟨hgiven, hcounterparts, hcompares, file_systems_invisible hgiven hcounterparts hcompares⟩

end Keyspace.Session
