import Keyspace.Proofs.Path.Detached
import Keyspace.Proofs.Session.Invariant

/-! # Two sessions side by side

    Two sessions correspond when all values that they hold are equal, detached,
    whatever file systems the paths in them belong to; their registries may
    have nothing in common. `Parallel` relates two actions: run in sessions
    that correspond, they both fail in the same way or both succeed with
    results that correspond, and the sessions still correspond. It has a rule
    for each way in which actions are put together.

    Operands stand for corresponding values (`eval_parallel`), and whatever is
    asked of corresponding paths, except for their file systems, the answers
    correspond (`runOnPath_parallel`).
-/

namespace Keyspace.Session

/-! ## Section 1: Correspondence -/

/-- All values of two sessions are equal when detached. -/
structure Corresponds (s t : Session) : Prop where
  registers : Entries.detached s.registers = Entries.detached t.registers
  nextLabel : s.nextLabel = t.nextLabel
  dictionaries : s.dictionaries.detached = t.dictionaries.detached

theorem Corresponds.refl (s : Session) : Corresponds s s := ⟨rfl, rfl, rfl⟩

/-- During a command the registers stay as they were before it. -/
structure During (before : List (String × Value)) (s t : Session) : Prop
    extends Corresponds s t where
  unchanged : s.registers = before

/-- A fault without the file systems of paths in it. -/
def StepFault.detached : StepFault → StepFault
  | fault f => fault f.detached
  | e => e

/-- A result without the file systems of paths in it. -/
def Result.detached : Result → Result
  | value v => value v.detached
  | report v => report v.detached

/-- Two outcomes correspond: both are results that `R` relates, or both are
    the same fault. -/
inductive Outcomes {α : Type} (R : α → α → Prop) : Except StepFault α → Except StepFault α → Prop
    where
  | ok {a b : α} : R a b → Outcomes R (.ok a) (.ok b)
  | error {e e' : StepFault} : e.detached = e'.detached → Outcomes R (.error e) (.error e')

theorem Outcomes.mono {α : Type} {R Q : α → α → Prop} {o o' : Except StepFault α}
    (ho : Outcomes R o o') (h : ∀ a b, R a b → Q a b) : Outcomes Q o o' := by
  cases ho with
  | ok hab => exact .ok (h _ _ hab)
  | error he => exact .error he

/-- From sessions that `I` relates, two actions lead to sessions that it
    relates, with outcomes that correspond. -/
def Parallel {α : Type} (I : Session → Session → Prop) (x y : Action α) (R : α → α → Prop) :
    Prop :=
  ∀ s t, I s t → I (x.run s).2 (y.run t).2 ∧ Outcomes R (x.run s).1 (y.run t).1

namespace Parallel

variable {α β : Type} {I : Session → Session → Prop} {R : α → α → Prop} {R' : β → β → Prop}

theorem pure {a b : α} (h : R a b) : Parallel I (pure a : Action α) (pure b) R :=
  fun _ _ hst => ⟨hst, .ok h⟩

theorem throw {e e' : StepFault} (h : e.detached = e'.detached) :
    Parallel I (throw e : Action α) (throw e') R := fun _ _ hst => ⟨hst, .error h⟩

/-- After two actions with corresponding outcomes, two actions on their
    results go on side by side. -/
theorem bind_run {x y : Action α} {f g : α → Action β} {s t : Session}
    (hst : I (x.run s).2 (y.run t).2) (houtcomes : Outcomes R (x.run s).1 (y.run t).1)
    (hf : ∀ a b, R a b → Parallel I (f a) (g b) R') :
    I ((x >>= f).run s).2 ((y >>= g).run t).2 ∧
      Outcomes R' ((x >>= f).run s).1 ((y >>= g).run t).1 := by
  rw [run_bind, run_bind]
  rcases hs : x.run s with ⟨o, s'⟩
  rcases ht : y.run t with ⟨o', t'⟩
  rw [hs, ht] at hst houtcomes
  dsimp only at hst houtcomes
  cases houtcomes with
  | ok hab => exact hf _ _ hab s' t' hst
  | error he => exact ⟨hst, .error he⟩

theorem bind {x y : Action α} {f g : α → Action β} (hx : Parallel I x y R)
    (hf : ∀ a b, R a b → Parallel I (f a) (g b) R') : Parallel I (x >>= f) (y >>= g) R' := by
  intro s t hst
  obtain ⟨hst', houtcomes⟩ := hx s t hst
  exact bind_run hst' houtcomes hf

theorem mono {x y : Action α} {Q : α → α → Prop} (hx : Parallel I x y R)
    (h : ∀ a b, R a b → Q a b) : Parallel I x y Q := by
  intro s t hst
  obtain ⟨hst', houtcomes⟩ := hx s t hst
  exact ⟨hst', houtcomes.mono h⟩

theorem get : Parallel I (get : Action Session) get I := fun _ _ hst => ⟨hst, .ok hst⟩

theorem set {s t : Session} (h : I s t) :
    Parallel I (set s : Action Unit) (set t) fun _ _ => True := fun _ _ _ => ⟨h, .ok trivial⟩

theorem modify {f g : Session → Session} (h : ∀ s t, I s t → I (f s) (g t)) :
    Parallel I (modify f : Action Unit) (modify g) fun _ _ => True :=
  fun s t hst => ⟨h s t hst, .ok trivial⟩

/-- Operations with the same outcome, detached. -/
theorem lift {d : α → α} {x y : Except Fault α} (h : outcomeDetached d x = outcomeDetached d y) :
    Parallel I (lift x) (lift y) fun a b => d a = d b := by
  cases x with
  | ok a =>
    cases y with
    | ok b => exact Parallel.pure (Except.ok.inj h)
    | error f => cases h
  | error f =>
    cases y with
    | ok b => cases h
    | error f' => exact Parallel.throw (congrArg StepFault.fault (Except.error.inj h))

theorem liftMisuse {x y : Except Misuse α} (h : x = y) :
    Parallel I (liftMisuse x) (liftMisuse y) Eq := by
  subst h
  cases x with
  | ok a => exact Parallel.pure rfl
  | error m => exact Parallel.throw rfl

end Parallel

/-! ## Section 2: Parts of a step -/

variable {before : List (String × Value)}

theorem freshLabel_parallel : Parallel (During before) freshLabel freshLabel Eq :=
  Parallel.bind Parallel.get fun _ _ hst =>
    Parallel.bind
      (Parallel.set ⟨⟨hst.registers, congrArg (· + 1) hst.nextLabel, hst.dictionaries⟩,
        hst.unchanged⟩)
      fun _ _ _ => Parallel.pure hst.nextLabel

/-- Values that are equal when detached. -/
def SameValue (v w : Value) : Prop := v.detached = w.detached

theorem share_parallel {entries entries' : List (String × Value)}
    (h : Entries.detached entries = Entries.detached entries') :
    Parallel (During before) (share entries) (share entries') SameValue := by
  refine Parallel.bind freshLabel_parallel fun l _ hl => ?_
  subst hl
  refine Parallel.bind (Parallel.modify fun s t hst => ?_) fun _ _ _ => Parallel.pure ?_
  · refine ⟨⟨hst.registers, hst.nextLabel, ?_⟩, hst.unchanged⟩
    show (some l, Entries.detached entries) :: s.dictionaries.detached =
      (some l, Entries.detached entries') :: t.dictionaries.detached
    rw [h, hst.dictionaries]
  · show (Value.dict _ _).detached = (Value.dict _ _).detached
    rw [Value.detached_dict, Value.detached_dict, h]

/-- Options with the same image are both empty, or hold values with the same
    image. -/
theorem none_or_some_of_map_eq {α β : Type} {d : α → β} {x y : Option α} (h : x.map d = y.map d) :
    x = none ∧ y = none ∨ ∃ a b, x = some a ∧ y = some b ∧ d a = d b := by
  cases x with
  | none => exact .inl ⟨rfl, Option.map_eq_none_iff.mp h.symm⟩
  | some a =>
    obtain ⟨b, hb, hab⟩ := Option.map_eq_some_iff.mp h.symm
    exact .inr ⟨a, b, rfl, hb, hab.symm⟩

/-- Registers of the same name hold corresponding values. -/
theorem Corresponds.register? {s t : Session} (h : Corresponds s t) (name : String) :
    (s.register? name).map Value.detached = (t.register? name).map Value.detached := by
  have hcurrent (u : Session) : (u.register? name).map Value.detached =
      (Entries.get? (Entries.detached u.registers) name).map
        (Value.current u.dictionaries.detached) := by
    rw [Session.register?, Entries.get?_detached, Option.map_map, Option.map_map]
    exact congrArg (fun f => Option.map f _) (funext (Value.current_detached u.dictionaries))
  rw [hcurrent, hcurrent, h.registers, h.dictionaries]

/-- Registers of the same name are both empty, or hold corresponding values. -/
theorem Corresponds.register?_cases {s t : Session} (h : Corresponds s t) (name : String) :
    s.register? name = none ∧ t.register? name = none ∨
      ∃ v w, s.register? name = some v ∧ t.register? name = some w ∧ SameValue v w :=
  none_or_some_of_map_eq (h.register? name)

theorem receiver_parallel {α β : Type} {d : α → β} {select : Value → Option α}
    (h : ∀ v, (select v.detached).map d = (select v).map d) (name : String) :
    Parallel (During before) (receiver name select) (receiver name select)
      fun a b => d a = d b := by
  refine Parallel.bind Parallel.get fun s t hst => ?_
  obtain ⟨hs, ht⟩ | ⟨v, w, hs, ht, hvw⟩ := hst.register?_cases name
  · rw [hs, ht]
    exact Parallel.throw rfl
  · -- values that correspond are of the same type, and select the same
    have htype : v.typeName = w.typeName := by
      rw [← Value.typeName_detached, hvw, Value.typeName_detached]
    have hselect : (select v).map d = (select w).map d := by rw [← h v, hvw, h w]
    rw [hs, ht]
    dsimp only
    obtain ⟨hv, hw⟩ | ⟨a, b, hv, hw, hab⟩ := none_or_some_of_map_eq hselect
    · rw [hv, hw]
      exact Parallel.throw (congrArg (fun t => StepFault.badReceiver (some t)) htype)
    · rw [hv, hw]
      exact Parallel.pure hab

/-! ## Section 3: Operands -/

mutual

/-- An operand stands for corresponding values. -/
theorem eval_parallel : ∀ o : Operand, Parallel (During before) (eval o) (eval o) SameValue
  | .null => Parallel.pure rfl
  | .bool _ => Parallel.pure rfl
  | .int _ => Parallel.pure rfl
  | .float numeral => by
    unfold eval
    split
    · refine Parallel.bind freshLabel_parallel fun l _ hl => ?_
      subst hl
      exact Parallel.pure rfl
    · exact Parallel.throw rfl
  | .text _ => Parallel.pure rfl
  | .list items => by
    refine Parallel.bind (evalItems_parallel items) fun vs ws hvs => ?_
    -- both sessions have given out as many labels, so the lists get the same one
    refine Parallel.bind freshLabel_parallel fun l _ hl => Parallel.pure ?_
    subst hl
    show (Value.list _ _).detached = (Value.list _ _).detached
    rw [Value.detached_list, Value.detached_list, hvs]
  | .dict entries => by
    refine Parallel.bind (evalEntries_parallel entries) fun es es' hes => share_parallel ?_
    rw [Entries.ofList_detached, Entries.ofList_detached, hes]
  | .register name => by
    refine Parallel.bind Parallel.get fun s t hst => ?_
    obtain ⟨hs, ht⟩ | ⟨v, w, hs, ht, hvw⟩ := hst.register?_cases name
    · rw [hs, ht]
      exact Parallel.throw rfl
    · rw [hs, ht]
      exact Parallel.pure hvw

theorem evalItems_parallel : ∀ os : List Operand,
    Parallel (During before) (evalItems os) (evalItems os)
      fun vs ws => vs.map Value.detached = ws.map Value.detached
  | [] => Parallel.pure rfl
  | o :: os => by
    refine Parallel.bind (eval_parallel o) fun v w hv => ?_
    refine Parallel.bind (evalItems_parallel os) fun vs ws hvs => Parallel.pure ?_
    rw [List.map_cons, List.map_cons, hv, hvs]

theorem evalEntries_parallel : ∀ es : List (String × Operand),
    Parallel (During before) (evalEntries es) (evalEntries es)
      fun vs ws => Entries.detached vs = Entries.detached ws
  | [] => Parallel.pure rfl
  | (k, o) :: rest => by
    refine Parallel.bind (eval_parallel o) fun v w hv => ?_
    refine Parallel.bind (evalEntries_parallel rest) fun vs ws hvs => Parallel.pure ?_
    show (k, v.detached) :: Entries.detached vs = (k, w.detached) :: Entries.detached ws
    rw [hv, hvs]

end

/-! ## Section 4: Commands to a path -/

/-- Results that are equal when detached. -/
def SameResult (r r' : Result) : Prop := r.detached = r'.detached

theorem reportResult_parallel {entries entries' : List (String × Value)}
    (h : entries = entries') :
    Parallel (During before) (reportResult entries) (reportResult entries') SameResult :=
  Parallel.bind (share_parallel (congrArg Entries.detached h)) fun _ _ hv =>
    Parallel.pure (congrArg Result.report hv)

theorem listResult_parallel {items items' : List Value}
    (h : items.map Value.detached = items'.map Value.detached) :
    Parallel (During before) (listResult items) (listResult items') SameResult := by
  refine Parallel.bind freshLabel_parallel fun l _ hl => Parallel.pure ?_
  subst hl
  show Result.value _ = Result.value _
  rw [Value.detached_list, Value.detached_list, h]

/-- Any answer that is the same in both sessions. -/
theorem answer_parallel {α : Type} {I : Session → Session → Prop} {x y : Except Fault α}
    {d : α → α} {answer : α → Result} (h : outcomeDetached d x = outcomeDetached d y)
    (hanswer : ∀ a b, d a = d b → SameResult (answer a) (answer b)) :
    Parallel I (do return answer (← lift x)) (do return answer (← lift y)) SameResult :=
  Parallel.bind (Parallel.lift h) fun a b hab => Parallel.pure (hanswer a b hab)

theorem sameResult_pathResult {p q : StorePath} (h : p.detached = q.detached) :
    SameResult (pathResult p) (pathResult q) := congrArg (fun r => Result.value (.path r)) h

theorem sameResult_pathResult? {p? q? : Option StorePath}
    (h : p?.map Path.detached = q?.map Path.detached) :
    SameResult (pathResult? p?) (pathResult? q?) := by
  obtain ⟨rfl, rfl⟩ | ⟨p, q, rfl, rfl, hpq⟩ := none_or_some_of_map_eq h
  · rfl
  · exact sameResult_pathResult hpq

variable {p q : StorePath}

/-- A step of navigation that moves with the path. -/
theorem navigation_parallel {operation : StorePath → Option StorePath}
    (hop : ∀ p, operation p.detached = (operation p).map Path.detached)
    (h : p.detached = q.detached) :
    Parallel (During before) (pure (pathResult? (operation p))) (pure (pathResult? (operation q)))
      SameResult := by
  refine Parallel.pure (sameResult_pathResult? ?_)
  rw [← hop, ← hop, h]

/-- An operation with an operand that moves with the path and the operand. -/
theorem operation_parallel {α : Type} {d : α → α}
    {operation : StorePath → Value → Except Fault α} {answer : α → Result}
    (hop : ∀ p v, operation p.detached v.detached = outcomeDetached d (operation p v))
    (hanswer : ∀ a b, d a = d b → SameResult (answer a) (answer b))
    (h : p.detached = q.detached) (o : Operand) :
    Parallel (During before)
      (do
        let v ← eval o
        return answer (← lift (operation p v)))
      (do
        let v ← eval o
        return answer (← lift (operation q v))) SameResult := by
  refine Parallel.bind (eval_parallel o) fun v w hvw => answer_parallel ?_ hanswer
  rw [← hop, ← hop, h, hvw]

/-- Whatever is asked of two paths of one address, except for their file
    systems, the answers correspond. -/
theorem runOnPath_parallel (h : p.detached = q.detached) {c : PathCommand}
    (hc : c ≠ .fileSystem) :
    Parallel (During before) (runOnPath p c) (runOnPath q c) SameResult := by
  have hpath (a b : StorePath) (hab : a.detached = b.detached) :
      SameResult (pathResult a) (pathResult b) := sameResult_pathResult hab
  have hbool (a b : Bool) (hab : id a = id b) : SameResult (boolResult a) (boolResult b) :=
    congrArg (fun b => (boolResult b).detached) hab
  have hrefuse (operation : Unsupported) :
      StepFault.detached (.fault (p.refuse operation)) = .detached (.fault (q.refuse operation)) := by
    rw [← Path.refuse_detached, h, Path.refuse_detached]
  cases c with
  | fileSystem => exact absurd rfl hc
  | info =>
    refine reportResult_parallel ?_
    rw [← Path.report_detached, h, Path.report_detached]
  | root => exact navigation_parallel (fun p => Path.root?_movedTo p _) h
  | fileName => exact navigation_parallel (fun p => Path.fileName?_movedTo p _) h
  | parent => exact navigation_parallel (fun p => Path.parent?_movedTo p _) h
  | normalize => exact Parallel.pure (sameResult_pathResult h)
  | absolute =>
    refine answer_parallel ?_ hpath
    rw [← Path.absolute_detached, ← Path.absolute_detached, h]
  | components =>
    have hcomponents (r : StorePath) : (r.components.map Value.path).map Value.detached =
        r.detached.components.map Value.path := by
      rw [Path.detached, Path.components_movedTo, List.map_map, List.map_map]
      exact List.map_congr_left fun c _ => Value.detached_path c
    exact listResult_parallel (by rw [hcomponents, hcomponents, h])
  | uri =>
    refine answer_parallel (d := id) ?_ fun a b hab => congrArg (fun u => Result.value (.text u)) hab
    rw [← Path.uri_detached, h, Path.uri_detached]
  | location =>
    refine Parallel.bind freshLabel_parallel fun l _ hl => ?_
    subst hl
    refine answer_parallel (d := id) ?_
      fun a b hab => congrArg (fun x => (Result.value (.location (some l) x)).detached) hab
    rw [← Path.location_detached, h, Path.location_detached]
  | nameAt index => exact operation_parallel Path.nameAtAny_detached hpath h index
  | subpath first last =>
    refine Parallel.bind (eval_parallel first) fun b b' hb => ?_
    refine Parallel.bind (eval_parallel last) fun e e' he => answer_parallel ?_ hpath
    rw [← Path.subpathAny_detached, ← Path.subpathAny_detached, h, hb, he]
  | resolve other => exact operation_parallel Path.resolveAny_detached hpath h other
  | resolveSibling other => exact operation_parallel Path.resolveSiblingAny_detached hpath h other
  | relativize other => exact operation_parallel Path.relativizeAny_detached hpath h other
  | endsWith other => exact operation_parallel Path.endsWithAny_detached hbool h other
  | compareTo other =>
    have hsign (a b : Ordering) (hab : id a = id b) :
        SameResult (.value (.int (signOf a))) (.value (.int (signOf b))) :=
      congrArg (fun o => Result.value (.int (signOf o))) hab
    exact operation_parallel Path.compareAny_detached hsign h other
  | contains item =>
    refine Parallel.bind (eval_parallel item) fun v w hvw => Parallel.pure (hbool _ _ ?_)
    show p.containsAny v = q.containsAny w
    rw [← Path.containsAny_detached p, ← Path.containsAny_detached q, h, hvw]
  | startsWith other =>
    exact Parallel.bind (eval_parallel other) fun _ _ _ => Parallel.throw (hrefuse _)
  | realPath => exact Parallel.throw (hrefuse _)
  | toFile => exact Parallel.throw (hrefuse _)
  | watch watcher events =>
    exact Parallel.bind (eval_parallel watcher) fun _ _ _ =>
      Parallel.bind (evalItems_parallel events) fun _ _ _ => Parallel.throw (hrefuse _)

/-! ## Section 5: File systems that are given -/

/-- The registers with these names hold file systems. -/
def HoldsFileSystems (given : List String) (registers : List (String × Value)) : Prop :=
  ∀ name ∈ given, ∃ f, Entries.get? registers name = some (.fileSystem f)

/-- An operand by which a path is given a file system: one of the registers,
    or null for the default file system. -/
inductive GivenOperand (given : List String) : Operand → Prop where
  | default : GivenOperand given .null
  | register {name : String} : name ∈ given → GivenOperand given (.register name)

theorem fileSystem_of_sameValue {f : Store} {v : Value} (h : SameValue (.fileSystem f) v) :
    ∃ g, v = .fileSystem g := by
  cases v with
  | fileSystem g => exact ⟨g, rfl⟩
  | _ => cases h

theorem path_of_sameValue {v : Value} (h : SameValue (.path p) v) :
    ∃ q : StorePath, v = .path q ∧ p.detached = q.detached := by
  cases v with
  | path q =>
    injection h with h
    exact ⟨q, rfl, h⟩
  | _ => cases h

variable {given : List String} {s t : Session}

theorem HoldsFileSystems.of_corresponds (h : Corresponds s t)
    (hs : HoldsFileSystems given s.registers) : HoldsFileSystems given t.registers := by
  intro name hname
  obtain ⟨f, hf⟩ := hs name hname
  have hget := congrArg (fun es => Entries.get? es name) h.registers
  simp only [Entries.get?_detached, hf] at hget
  obtain ⟨v, hv, hdetached⟩ := Option.map_eq_some_iff.mp hget.symm
  obtain ⟨g, rfl⟩ := fileSystem_of_sameValue (f := f) hdetached.symm
  exact ⟨g, hv⟩

theorem register?_fileSystem {name : String} (hs : HoldsFileSystems given s.registers)
    (hname : name ∈ given) : ∃ f, s.register? name = some (.fileSystem f) := by
  obtain ⟨f, hf⟩ := hs name hname
  rw [register?, hf]
  exact ⟨_, rfl⟩

theorem eval_given {o : Operand} (hs : HoldsFileSystems given s.registers)
    (ho : GivenOperand given o) : ∃ v, (eval o).run s = (.ok v, s) ∧ v.IsGiven := by
  cases ho with
  | default => exact ⟨.null, rfl, .inl rfl⟩
  | register hname =>
    obtain ⟨f, hf⟩ := register?_fileSystem hs hname
    refine ⟨.fileSystem f, ?_, .inr ⟨f, rfl⟩⟩
    rw [eval, run_bind_of_ok (run_get s), hf]
    rfl

theorem receiver_given {name : String} (hs : HoldsFileSystems given s.registers)
    (hname : name ∈ given) : ∃ f, (receiver name asFileSystem).run s = (.ok f, s) := by
  obtain ⟨f, hf⟩ := register?_fileSystem hs hname
  refine ⟨f, ?_⟩
  rw [receiver, run_bind_of_ok (run_get s), hf]
  rfl

/-- Different operands may give file systems, which need not correspond. -/
theorem evalGiven_parallel {o o' : Operand} (h : HoldsFileSystems given before)
    (ho : GivenOperand given o) (ho' : GivenOperand given o') :
    Parallel (During before) (eval o) (eval o') fun v w => v.IsGiven ∧ w.IsGiven := by
  intro s t hst
  have hs : HoldsFileSystems given s.registers := by rwa [hst.unchanged]
  obtain ⟨v, hv, hgiven⟩ := eval_given hs ho
  obtain ⟨w, hw, hgiven'⟩ := eval_given (hs.of_corresponds hst.toCorresponds) ho'
  rw [hv, hw]
  exact ⟨hst, .ok ⟨hgiven, hgiven'⟩⟩

theorem receiverGiven_parallel {name name' : String} (h : HoldsFileSystems given before)
    (hname : name ∈ given) (hname' : name' ∈ given) :
    Parallel (During before) (receiver name asFileSystem) (receiver name' asFileSystem)
      fun _ _ => True := by
  intro s t hst
  have hs : HoldsFileSystems given s.registers := by rwa [hst.unchanged]
  obtain ⟨f, hf⟩ := receiver_given hs hname
  obtain ⟨g, hg⟩ := receiver_given (hs.of_corresponds hst.toCorresponds) hname'
  rw [hf, hg]
  exact ⟨hst, .ok trivial⟩

end Keyspace.Session
