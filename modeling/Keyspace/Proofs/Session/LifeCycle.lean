import Keyspace.Proofs.Session.Effect

/-! # The life cycle of the default file system

    A run of a session is a list of moments, each of a step and the session
    before it. What happens to the registry at a moment is one of four things
    (`Moment.turn`): nothing, the default file system is taken that is there
    already, it is taken and made first, or another file system is made. Only
    the last two write to the log, and only the third brings a default file
    system about. They are also the two that make a file system, with a label
    that no earlier one has.

    Over a run, the default file system comes at the first moment that uses it
    and stays (`isSome_steps_iff`, `default?_stays`), the file systems that are
    made have all labels in turn (`labels_moments`), and the lines of the log
    are counted moment by moment (`default_life_cycle`).
-/

namespace Keyspace.Session

/-! ## Section 1: Moments -/

/-- The line that tells that the default file system is about to be made. -/
def initializing : String := "DEBUG Initializing default S3 filesystem"

/-- The lines that the default file system leaves when it is made. -/
def defaultLines : List String := [initializing, "DEBUG Created S3 filesystem for s3:///"]

/-- The line tells that a file system was made. -/
def isCreation (line : String) : Bool :=
  "DEBUG Created S3 filesystem".toList.isPrefixOf line.toList

/-- The file system that a result is. -/
def Result.fileSystem? : Result → Option Store
  | .value (.fileSystem f) => some f
  | _ => none

/-- A step of a run, with the session before it. -/
structure Moment where
  before : Session
  step : Step

/-- The moments of a run. -/
def moments (s : Session) : List Step → List Moment
  | [] => []
  | st :: rest => ⟨s, st⟩ :: moments (s.step st).2 rest

namespace Moment

variable (m : Moment)

/-- The outcome of the command, whatever becomes of its result. -/
def outcome : Except StepFault Result := ((run m.step.command).run m.before).1

/-- The session after the step. -/
def after : Session := (m.before.step m.step).2

/-- The lines that the step adds to the log. -/
def lines : List String := (m.before.step m.step).1.log.map Event.line

/-- The command asks for the default file system, and succeeds. -/
def UsesDefault : Prop := Asks m.before m.step.command ∧ ∃ res, m.outcome = .ok res

/-- The command succeeds with a file system, or with a path that belongs to
    it. -/
def Carries (f : Store) : Prop :=
  ∃ res, m.outcome = .ok res ∧ res.carried? = some (.fileSystem f)

/-- The command is to make a file system, and succeeds. -/
def makesNew : Bool := makes m.step.command && m.outcome.isOk

/-- There is a default file system after the step, but none before. -/
def makesDefault : Bool :=
  m.before.registry.default?.isNone && m.after.registry.default?.isSome

/-- A file system is made. -/
def creates : Bool := m.makesNew || m.makesDefault

/-- The file system that is made, if one is: the one that the command answers
    with, or the default file system if that is made for it. -/
def made? : Option Store :=
  if m.makesNew then m.outcome.toOption.bind Result.fileSystem?
  else if m.makesDefault then m.after.registry.default?
  else none

/-! ## Section 2: Turns -/

/-- What happens to the registry at a moment. -/
inductive Turn : Prop where
  /-- Nothing. -/
  | idle : m.after.registry = m.before.registry → ¬m.UsesDefault → m.makesNew = false → Turn
  /-- The default file system is taken that is there already. -/
  | reuse {f : Store} : m.after.registry = m.before.registry →
    m.before.registry.default? = some f → m.UsesDefault → m.Carries f → m.makesNew = false → Turn
  /-- The default file system is made and taken. -/
  | first {f : Store} : m.before.registry.default? = none →
    m.after.registry.default? = some f → m.UsesDefault → m.Carries f → m.makesNew = false →
    m.lines = defaultLines → f.label = m.before.registry.count →
    m.after.registry.count = m.before.registry.count + 1 → Turn
  /-- Another file system is made. -/
  | make {h : Host Value} {uri : String} :
    m.outcome = .ok (.value (.fileSystem (m.before.registry.make h uri).1)) →
    m.after.registry = (m.before.registry.make h uri).2 →
    ¬m.UsesDefault → m.makesNew = true → Turn

theorem lines_eq :
    m.lines = (m.after.registry.journal.drop m.before.registry.journal.length).map Event.line :=
  rfl

variable {m}

theorem lines_of_unchanged (h : m.after.registry = m.before.registry) : m.lines = [] := by
  rw [lines_eq, h, List.drop_length]
  rfl

theorem lines_of_make {h : Host Value} {uri : String}
    (hregistry : m.after.registry = (m.before.registry.make h uri).2) :
    m.lines = [Event.line (.made uri)] := by
  have hjournal : (m.before.registry.make h uri).2.journal =
      m.before.registry.journal ++ [.made uri] := rfl
  rw [lines_eq, hregistry, hjournal, List.drop_left]
  rfl

/-- The default file system is made with two lines. -/
theorem lines_of_default (hnone : m.before.registry.default? = none)
    (h : m.after.registry = m.before.registry.default.2) :
    m.lines = defaultLines := by
  have hjournal : m.before.registry.default.2.journal =
      m.before.registry.journal ++ [.makingDefault, .made "s3:///"] := by
    simp only [Registry.default, hnone, Registry.make, Registry.record, List.append_assoc]
    -- the default configuration has no endpoint
    rfl
  rw [lines_eq, h, hjournal, List.drop_left]
  rfl

theorem makesNew_of_error {e : StepFault} (h : m.outcome = .error e) : m.makesNew = false := by
  rw [makesNew, h]
  exact Bool.and_false _

/-- One of four things happens at each moment. -/
theorem turn (m : Moment) : m.Turn := by
  have heffect : Effect m.before m.step.command m.outcome m.after.registry := by
    have heffect := run_effect m.before m.step.command
    rwa [← registry_step] at heffect
  cases heffect with
  | failed houtcome hregistry =>
    -- to use the default file system is to succeed
    have huse : ¬m.UsesDefault := by
      rintro ⟨-, res, hres⟩
      rw [houtcome] at hres
      cases hres
    exact .idle hregistry huse (makesNew_of_error houtcome)
  | unused houtcome hregistry hasks hmakes =>
    exact .idle hregistry (fun huse => hasks huse.1) (by rw [makesNew, hmakes, Bool.false_and])
  | default houtcome hregistry hasks hmakes hcarried =>
    have huse : m.UsesDefault := ⟨hasks, _, houtcome⟩
    have hcarries : m.Carries m.before.registry.default.1 := ⟨_, houtcome, hcarried⟩
    have hmakesNew : m.makesNew = false := by rw [makesNew, hmakes, Bool.false_and]
    cases hdefault : m.before.registry.default? with
    | some f =>
      rw [Registry.default_eq_of_default? hdefault] at hregistry hcarries
      exact .reuse hregistry hdefault huse hcarries hmakesNew
    | none =>
      have hf : m.after.registry.default? = some m.before.registry.default.1 := by
        rw [hregistry, Registry.default?_default]
      refine .first hdefault hf huse hcarries hmakesNew (lines_of_default hdefault hregistry) ?_ ?_
      · rw [Registry.default, hdefault]
        rfl
      · rw [hregistry, Registry.default, hdefault]
        rfl
  | made houtcome hregistry hasks hmakes =>
    exact .make houtcome hregistry (fun huse => hasks huse.1)
      (by rw [makesNew, hmakes, houtcome]; rfl)

/-! ## Section 3: What a moment does -/

/-- A command that fails changes no file system and logs nothing. -/
theorem unchanged_of_error {e : StepFault} (h : m.outcome = .error e) :
    m.after.registry.default? = m.before.registry.default? ∧ m.lines = [] := by
  cases m.turn with
  | idle hregistry => exact ⟨by rw [hregistry], lines_of_unchanged hregistry⟩
  | reuse hregistry => exact ⟨by rw [hregistry], lines_of_unchanged hregistry⟩
  | first _ _ huse =>
    obtain ⟨-, res, hres⟩ := huse
    rw [h] at hres
    cases hres
  | make houtcome =>
    rw [h] at houtcome
    cases houtcome

/-- The default file system stays once it is there. -/
theorem default?_after {f : Store} (h : m.before.registry.default? = some f) :
    m.after.registry.default? = some f := by
  cases m.turn with
  | idle hregistry => rw [hregistry, h]
  | reuse hregistry => rw [hregistry, h]
  | first hnone =>
    rw [h] at hnone
    cases hnone
  | make _ hregistry =>
    rw [hregistry]
    exact h

/-- It is there after a moment if it was before, or is used. -/
theorem isSome_after_iff :
    m.after.registry.default?.isSome = true ↔
      m.before.registry.default?.isSome = true ∨ m.UsesDefault := by
  cases m.turn with
  | idle hregistry huse => simp [hregistry, huse]
  | reuse hregistry hf => simp [hregistry, hf]
  | first _ hf huse => simp [hf, huse]
  | make _ hregistry huse => simp [hregistry, Registry.make, Registry.record, huse]

/-- A moment that uses the default file system has one after it, and carries
    it. -/
theorem exists_carries (h : m.UsesDefault) :
    ∃ f, m.after.registry.default? = some f ∧ m.Carries f := by
  cases m.turn with
  | idle _ huse => exact absurd h huse
  | reuse hregistry hf _ hcarries => exact ⟨_, by rw [hregistry, hf], hcarries⟩
  | first _ hf _ hcarries => exact ⟨_, hf, hcarries⟩
  | make _ _ huse => exact absurd h huse

/-- It is only made at a moment that uses it. -/
theorem default?_of_not_usesDefault (h : ¬m.UsesDefault) :
    m.after.registry.default? = m.before.registry.default? := by
  cases m.turn with
  | idle hregistry => rw [hregistry]
  | reuse hregistry => rw [hregistry]
  | first _ _ huse => exact absurd huse h
  | make _ hregistry =>
    rw [hregistry]
    rfl

/-! ## Section 4: Lines -/

theorem isCreation_iff {line : String} :
    isCreation line = true ↔ "DEBUG Created S3 filesystem".toList <+: line.toList :=
  List.isPrefixOf_iff_prefix

theorem line_made (uri : String) :
    Event.line (.made uri) = "DEBUG Created S3 filesystem for " ++ uri := rfl

theorem isCreation_made (uri : String) : isCreation (Event.line (.made uri)) = true := by
  have hbegin : isCreation "DEBUG Created S3 filesystem for " = true := by decide +kernel
  rw [isCreation_iff] at hbegin ⊢
  rw [line_made, String.toList_append]
  exact hbegin.trans (List.prefix_append _ _)

theorem not_isCreation_initializing : isCreation initializing = false := by decide +kernel

theorem made_ne_initializing (uri : String) : Event.line (.made uri) ≠ initializing := by
  intro h
  have hcreation := isCreation_made uri
  rw [h, not_isCreation_initializing] at hcreation
  exact Bool.false_ne_true hcreation

/-- The line comes exactly when the default file system comes about. -/
theorem count_initializing (m : Moment) :
    m.lines.count initializing + m.before.registry.default?.isSome.toNat =
      m.after.registry.default?.isSome.toNat := by
  cases m.turn with
  | idle hregistry => rw [lines_of_unchanged hregistry, hregistry, List.count_nil, Nat.zero_add]
  | reuse hregistry => rw [lines_of_unchanged hregistry, hregistry, List.count_nil, Nat.zero_add]
  | first hnone hf _ _ _ hlines =>
    have hcount : defaultLines.count initializing = 1 := by decide +kernel
    rw [hlines, hcount, hnone, hf]
    rfl
  | @make h uri _ hregistry =>
    have hcount : [Event.line (.made uri)].count initializing = 0 :=
      List.count_eq_zero_of_not_mem (by simpa using (made_ne_initializing uri).symm)
    rw [lines_of_make hregistry, hcount, hregistry, Nat.zero_add]
    rfl

theorem not_makesDefault_of_unchanged (h : m.after.registry = m.before.registry) :
    m.makesDefault = false := by
  rw [makesDefault, h]
  cases m.before.registry.default? <;> rfl

theorem makesDefault_of_some {f : Store} (hnone : m.before.registry.default? = none)
    (hf : m.after.registry.default? = some f) : m.makesDefault = true := by
  rw [makesDefault, hnone, hf]
  rfl

/-- Each file system that is made leaves a line. -/
theorem countP_isCreation (m : Moment) : m.lines.countP isCreation = m.creates.toNat := by
  cases m.turn with
  | idle hregistry _ hnew =>
    rw [lines_of_unchanged hregistry, creates, hnew, not_makesDefault_of_unchanged hregistry]
    rfl
  | reuse hregistry _ _ _ hnew =>
    rw [lines_of_unchanged hregistry, creates, hnew, not_makesDefault_of_unchanged hregistry]
    rfl
  | first hnone hf _ _ _ hlines =>
    have hcount : defaultLines.countP isCreation = 1 := by decide +kernel
    rw [hlines, hcount, creates, makesDefault_of_some hnone hf, Bool.or_true]
    rfl
  | @make h uri _ hregistry _ hnew =>
    rw [lines_of_make hregistry, creates, hnew, List.countP_cons, isCreation_made]
    rfl

/-- The line comes exactly at a moment that uses the default file system while
    there is none. -/
theorem initializing_mem_lines_iff :
    initializing ∈ m.lines ↔ m.UsesDefault ∧ m.before.registry.default?.isSome = false := by
  cases m.turn with
  | idle hregistry huse => simp [lines_of_unchanged hregistry, huse]
  | reuse hregistry hf => simp [lines_of_unchanged hregistry, hf]
  | first hnone _ huse _ _ hlines => simp [hlines, defaultLines, hnone, huse]
  | @make h uri _ hregistry huse =>
    simp [lines_of_make hregistry, huse, (made_ne_initializing uri).symm]

/-! ## Section 5: File systems that are made -/

/-- A file system is made with the number of those made before as its label, and
    then there is one more. -/
theorem label_made? (m : Moment) :
    m.made?.map FileSystem.label =
        (if m.creates then some m.before.registry.count else none) ∧
      m.after.registry.count = m.before.registry.count + m.creates.toNat := by
  cases m.turn with
  | idle hregistry _ hnew =>
    simp [made?, creates, hnew, not_makesDefault_of_unchanged hregistry, hregistry]
  | reuse hregistry _ _ _ hnew =>
    simp [made?, creates, hnew, not_makesDefault_of_unchanged hregistry, hregistry]
  | first hnone hf _ _ hnew _ hlabel hcount =>
    simp [made?, creates, hnew, makesDefault_of_some hnone hf, hf, hlabel, hcount]
  | make houtcome hregistry _ hnew =>
    rw [made?, creates, hnew, houtcome, hregistry]
    exact ⟨congrArg some (FileSystem.label_ofHost _ _), rfl⟩

/-- The line comes with another one, that a file system was made, and this is
    the default file system. -/
theorem made?_of_initializing_mem (h : initializing ∈ m.lines) :
    m.lines = defaultLines ∧ m.made? = m.after.registry.default? := by
  cases m.turn with
  | idle hregistry => simp [lines_of_unchanged hregistry] at h
  | reuse hregistry => simp [lines_of_unchanged hregistry] at h
  | first hnone hf _ _ hnew hlines =>
    exact ⟨hlines, by simp [made?, hnew, makesDefault_of_some hnone hf]⟩
  | @make _ uri _ hregistry =>
    rw [lines_of_make hregistry, List.mem_singleton] at h
    exact absurd h.symm (made_ne_initializing uri)

end Moment

/-! ## Section 6: Runs -/

/-- What a session answers with at its end has the lines of its moments. -/
theorem lines_moments (s : Session) (sts : List Step) :
    (s.moments sts).map Moment.lines = (s.steps sts).1.map fun r => r.log.map Event.line := by
  induction sts generalizing s with
  | nil => rfl
  | cons st rest ih => exact congrArg _ (ih (s.step st).2)

/-- A moment of a run divides it into the run before it, which leads to its
    session, and a run of the session after it. -/
theorem moments_split {s : Session} {sts : List Step} {pre post : List Moment} {m : Moment}
    (h : s.moments sts = pre ++ m :: post) :
    ∃ earlier later, pre = s.moments earlier ∧ m.before = (s.steps earlier).2 ∧
      post = m.after.moments later := by
  induction pre generalizing s sts with
  | nil =>
    cases sts with
    | nil => cases h
    | cons st rest =>
      obtain ⟨rfl, rfl⟩ := List.cons.inj h
      exact ⟨[], rest, rfl, rfl, rfl⟩
  | cons m' pre ih =>
    cases sts with
    | nil => cases h
    | cons st rest =>
      obtain ⟨rfl, htail⟩ := List.cons.inj h
      obtain ⟨earlier, later, hpre, hbefore, hpost⟩ := ih htail
      exact ⟨st :: earlier, later, congrArg _ hpre, hbefore, hpost⟩

/-- After some steps there is a default file system if there was one before
    them or a moment of them used it. -/
theorem isSome_steps_iff (s : Session) (sts : List Step) :
    (s.steps sts).2.registry.default?.isSome = true ↔
      s.registry.default?.isSome = true ∨ ∃ m ∈ s.moments sts, m.UsesDefault := by
  induction sts generalizing s with
  | nil => simp [steps, moments]
  | cons st rest ih =>
    have hstep : (s.step st).2.registry.default?.isSome = true ↔
        s.registry.default?.isSome = true ∨ Moment.UsesDefault ⟨s, st⟩ :=
      Moment.isSome_after_iff (m := ⟨s, st⟩)
    have hlast : (s.steps (st :: rest)).2 = ((s.step st).2.steps rest).2 := rfl
    rw [hlast, ih, hstep, or_assoc]
    simp only [moments, List.mem_cons, exists_eq_or_imp]

/-- Once there is a default file system, all later moments have it. -/
theorem default?_stays {s : Session} {f : Store} (h : s.registry.default? = some f)
    (sts : List Step) :
    ∀ m ∈ s.moments sts, m.after.registry.default? = some f ∧ (m.UsesDefault → m.Carries f) := by
  induction sts generalizing s with
  | nil => exact List.forall_mem_nil _
  | cons st rest ih =>
    have hafter : (Moment.mk s st).after.registry.default? = some f := Moment.default?_after h
    refine List.forall_mem_cons.mpr ⟨⟨hafter, fun huse => ?_⟩, ih hafter⟩
    obtain ⟨f', hf', hcarries⟩ := Moment.exists_carries huse
    -- what is carried is what there is after the moment
    obtain rfl := Option.some.inj (hafter.symm.trans hf')
    exact hcarries

/-- Over a run the line comes as often as the default file system does. -/
theorem count_initializing_run (s : Session) (sts : List Step) :
    ((s.moments sts).flatMap Moment.lines).count initializing +
        s.registry.default?.isSome.toNat =
      (s.steps sts).2.registry.default?.isSome.toNat := by
  induction sts generalizing s with
  | nil => exact Nat.zero_add _
  | cons st rest ih =>
    have hstep : (Moment.lines ⟨s, st⟩).count initializing + s.registry.default?.isSome.toNat =
        (s.step st).2.registry.default?.isSome.toNat := Moment.count_initializing ⟨s, st⟩
    have hrest := ih (s.step st).2
    have hlast : (s.steps (st :: rest)).2 = ((s.step st).2.steps rest).2 := rfl
    -- what the first moment adds is what the others start from
    rw [moments, List.flatMap_cons, List.count_append, hlast, ← hrest, ← hstep]
    omega

/-- Over a run as many file systems are made as there are lines for them. -/
theorem countP_isCreation_run (s : Session) (sts : List Step) :
    ((s.moments sts).flatMap Moment.lines).countP isCreation =
      (s.moments sts).countP Moment.creates := by
  induction sts generalizing s with
  | nil => rfl
  | cons st rest ih =>
    rw [moments, List.flatMap_cons, List.countP_append, List.countP_cons, ih,
      Moment.countP_isCreation, Nat.add_comm]
    cases Moment.creates ⟨s, st⟩ <;> rfl

/-- Over a run file systems are made with one label after the other. -/
theorem labels_moments (s : Session) (sts : List Step) :
    ((s.moments sts).filterMap Moment.made?).map FileSystem.label =
      List.range' s.registry.count ((s.moments sts).countP Moment.creates) := by
  induction sts generalizing s with
  | nil => rfl
  | cons st rest ih =>
    obtain ⟨hlabel, hcount⟩ := Moment.label_made? ⟨s, st⟩
    -- the later ones are counted on from what there is after the first moment
    have hrest : ((s.step st).2.moments rest |>.filterMap Moment.made?).map FileSystem.label =
        List.range' (s.registry.count + (Moment.creates ⟨s, st⟩).toNat)
          (((s.step st).2.moments rest).countP Moment.creates) := by
      rw [ih, ← hcount]
      rfl
    rw [moments, List.filterMap_cons, List.countP_cons]
    cases hcreates : Moment.creates ⟨s, st⟩ with
    | false =>
      rw [hcreates] at hlabel hrest
      rw [Option.map_eq_none_iff.mp hlabel]
      exact hrest
    | true =>
      rw [hcreates] at hlabel hrest
      obtain ⟨f, hf, hfresh⟩ := Option.map_eq_some_iff.mp hlabel
      rw [hf]
      show f.label :: _ = List.range' _ (_ + 1)
      rw [List.range'_succ, hrest, hfresh]
      rfl

/-! ## Section 7: The life cycle -/

/-- The commands that construct a path, and the one that asks for the default
    file system. -/
def constructs : Command → Bool
  | .path .. | .pathFromParts .. | .defaultFileSystem => true
  | _ => false

theorem Moment.not_usesDefault_of_not_constructs {m : Moment}
    (h : constructs m.step.command = false) : ¬m.UsesDefault := by
  rintro ⟨hasks, -⟩
  obtain ⟨s, ⟨c, target?⟩⟩ := m
  cases c with
  | path | pathFromParts | defaultFileSystem => cases h
  | _ => cases hasks

/-- **The life cycle of the default file system.** The lines that a session
    logs are those of its moments, and of those this holds in every run:

    * A command that fails changes no default file system and logs nothing.
    * The default file system is announced once at most, at the first moment
      that uses it, and the next line tells that it was made.
    * The file system that is made with these lines is the default one from then
      on, and all that is constructed without a file system carries that very
      file system.
    * No other command makes it.
    * There are as many lines about file systems made as there are file systems
      made, and all these have different labels, so that none is taken for
      another of equal content. -/
theorem default_life_cycle (sts : List Step) :
    (initial.moments sts).map Moment.lines =
        (replies sts).map (fun r => r.log.map Event.line) ∧
      (∀ m ∈ initial.moments sts, ∀ e, m.outcome = .error e →
        m.after.registry.default? = m.before.registry.default? ∧ m.lines = []) ∧
      ((initial.moments sts).flatMap Moment.lines).count initializing ≤ 1 ∧
      (∀ pre m post, initial.moments sts = pre ++ m :: post →
        (initializing ∈ m.lines ↔ m.UsesDefault ∧ ∀ m' ∈ pre, ¬m'.UsesDefault) ∧
        (initializing ∈ m.lines →
          m.lines = [initializing, "DEBUG Created S3 filesystem for s3:///"]) ∧
        (m.UsesDefault → ∃ f, ∀ m' ∈ m :: post, m'.after.registry.default? = some f ∧
          (m'.UsesDefault → m'.Carries f)) ∧
        (initializing ∈ m.lines → ∃ f, m.made? = some f ∧
          ∀ m' ∈ m :: post, m'.after.registry.default? = some f ∧
            (m'.UsesDefault → m'.Carries f))) ∧
      (∀ m ∈ initial.moments sts, constructs m.step.command = false →
        m.after.registry.default? = m.before.registry.default?) ∧
      ((initial.moments sts).flatMap Moment.lines).countP isCreation =
        (initial.moments sts).countP Moment.creates ∧
      ((initial.moments sts).filterMap Moment.made?).map FileSystem.label =
        List.range ((initial.moments sts).countP Moment.creates) := by
  have hstays {pre post : List Moment} {m : Moment}
      (h : initial.moments sts = pre ++ m :: post) (huse : m.UsesDefault) :
      ∃ f, ∀ m' ∈ m :: post, m'.after.registry.default? = some f ∧
        (m'.UsesDefault → m'.Carries f) := by
    obtain ⟨f, hf, hcarries⟩ := Moment.exists_carries huse
    obtain ⟨-, later, -, -, rfl⟩ := moments_split h
    exact ⟨f, List.forall_mem_cons.mpr ⟨⟨hf, fun _ => hcarries⟩, default?_stays hf later⟩⟩
  refine ⟨?_, fun m _ e he => Moment.unchanged_of_error he, ?_,
    fun pre m post h => ⟨?_, ?_, hstays h, fun hline => ?_⟩, fun m _ hm => ?_,
    countP_isCreation_run initial sts, ?_⟩
  · -- what a reply shows of the dictionaries has no part in its log
    rw [lines_moments, replies, List.map_map]
    rfl
  · -- there is no default file system at the start, and one at most at the end
    have hcount := count_initializing_run initial sts
    have hle := Bool.toNat_le (initial.steps sts).2.registry.default?.isSome
    omega
  · -- there is none before the moment exactly if no earlier one used it
    obtain ⟨earlier, -, rfl, hbefore, -⟩ := moments_split h
    have hnone : initial.registry.default?.isSome = false := rfl
    rw [Moment.initializing_mem_lines_iff, ← Bool.not_eq_true, hbefore, isSome_steps_iff, hnone]
    simp
  · exact fun hline => (Moment.made?_of_initializing_mem hline).1
  · obtain ⟨f, hf⟩ := hstays h (Moment.initializing_mem_lines_iff.mp hline).1
    refine ⟨f, ?_, hf⟩
    rw [(Moment.made?_of_initializing_mem hline).2]
    exact (hf m List.mem_cons_self).1
  · exact Moment.default?_of_not_usesDefault (Moment.not_usesDefault_of_not_constructs hm)
  · rw [labels_moments, List.range_eq_range']
    rfl

/-- A construction that fails and a file system that is made, and only then a
    construction that brings the default file system about. The two are equal,
    but what is constructed next carries the second one. -/
theorem default_life_cycle_delayed :
    let sts : List Step := [⟨.path (.text "//") .null, none⟩, ⟨.newFileSystem .null, some "f"⟩,
      ⟨.path (.text "/b/x") .null, some "p"⟩, ⟨.toPath "p" (.resolve (.text "y")), none⟩,
      ⟨.defaultFileSystem, none⟩]
    ∃ m₁ m₂ m₃ m₄ m₅ f g, initial.moments sts = [m₁, m₂, m₃, m₄, m₅] ∧ m₁.lines = [] ∧
      m₃.UsesDefault ∧ initializing ∈ m₃.lines ∧ m₅.Carries f ∧
      m₃.after.registry.default? = some f ∧ (initial.moments sts).countP Moment.creates = 2 ∧
      m₃.made? = some f ∧ m₂.made? = some g ∧
      (Value.fileSystem g).same (.fileSystem f) = .ok true ∧ g ≠ f := by
  intro sts
  let m (i : Fin 5) : Moment := ⟨(initial.steps (sts.take i)).2, sts[i]⟩
  have hmoments : initial.moments sts = [m 0, m 1] ++ m 2 :: [m 3, m 4] := rfl
  obtain ⟨-, hfailed, -, hmoment, -, hcount, -⟩ := default_life_cycle sts
  obtain ⟨hline, -, -, hmade⟩ := hmoment _ _ _ hmoments
  have huse : (m 2).UsesDefault := ⟨rfl, _, rfl⟩
  have huse' : (m 4).UsesDefault := ⟨rfl, _, rfl⟩
  have hfirst : ∀ m' ∈ [m 0, m 1], ¬m'.UsesDefault := by
    refine List.forall_mem_cons.mpr ⟨?_, List.forall_mem_singleton.mpr ?_⟩
    · rintro ⟨-, res, hres⟩
      exact nomatch hres
    · rintro ⟨hasks, -⟩
      exact nomatch hasks
  have hline₃ : initializing ∈ (m 2).lines := hline.mpr ⟨huse, hfirst⟩
  obtain ⟨f, hf₃, hf⟩ := hmade hline₃
  have hg : (m 1).made? = some ⟨.default, 0, []⟩ := rfl
  obtain rfl : ⟨.default, 1, []⟩ = f := Option.some.inj hf₃
  refine ⟨m 0, m 1, m 2, m 3, m 4, _, _, hmoments, ?_, huse, hline₃, ?_, ?_, ?_, hf₃, hg, rfl, ?_⟩
  · exact (hfailed (m 0) (by simp [hmoments]) _ rfl).2
  · exact (hf (m 4) (by simp)).2 huse'
  · exact (hf (m 2) (by simp)).1
  · rw [← hcount]
    decide +kernel
  · exact fun heq => absurd (congrArg FileSystem.label heq) (by decide)

end Keyspace.Session
