import Keyspace.Proofs.Session.Effect
import Keyspace.Proofs.Session.Parallel
import Keyspace.Proofs.Value.Current

/-! # Commands that differ in file systems

    Two commands are counterparts when they make the same path in file systems
    that may differ, or when they are the same command and blind: no file
    system of a path has a part in its answer. In corresponding sessions
    counterparts go side by side (`run_parallel`).

    Of comparisons, those with a path on one of their sides are considered:
    such a comparison looks at types and at addresses only.
-/

namespace Keyspace.Session

/-! ## Section 1: Counterparts -/

/-- The commands that make paths, or ask something of paths and other values,
    and whose answers no file system of a path has a part in. -/
def Blind : Command → Prop
  | .toPath _ .fileSystem | .toFileSystem _ .info => False
  | .path .. | .pathFromParts .. | .toFileSystem .. | .toPath .. | .divide .. | .compare ..
  | .hash _ | .sameHash .. | .plain _ | .literal _ | .truth _ | .value _ | .setField ..
  | .deleteField .. => True
  | _ => False

/-- Commands that differ at most in the file systems that paths are given, all
    from the registers named. -/
inductive Counterpart (given : List String) : Command → Command → Prop where
  | same {c : Command} : Blind c → Counterpart given c c
  | path {text fileSystem fileSystem' : Operand} :
    GivenOperand given fileSystem → GivenOperand given fileSystem' →
    Counterpart given (.path text fileSystem) (.path text fileSystem')
  | pathFromParts {bucket fileSystem fileSystem' : Operand} {segments : List Operand} :
    GivenOperand given fileSystem → GivenOperand given fileSystem' →
    Counterpart given (.pathFromParts bucket segments fileSystem)
      (.pathFromParts bucket segments fileSystem')
  | getPath {register register' : String} {arguments : List Operand} :
    register ∈ given → register' ∈ given →
    Counterpart given (.toFileSystem register (.getPath arguments))
      (.toFileSystem register' (.getPath arguments))
  | partsOf {register register' : String} {bucket : Operand} {segments : List Operand} :
    register ∈ given → register' ∈ given →
    Counterpart given (.toFileSystem register (.pathFromParts bucket segments))
      (.toFileSystem register' (.pathFromParts bucket segments))

/-- An operand that is a register with a path. -/
def HoldsPath (registers : List (String × Value)) (o : Operand) : Prop :=
  ∃ name p, o = .register name ∧ Entries.get? registers name = some (.path p)

theorem holdsPath_of_isSome {registers : List (String × Value)} {name : String}
    (h : ((Entries.get? registers name).bind asPath).isSome = true) :
    HoldsPath registers (.register name) := by
  obtain ⟨p, hp⟩ := Option.isSome_iff_exists.mp h
  obtain ⟨v, hv, hpath⟩ := Option.bind_eq_some_iff.mp hp
  cases v with
  | path q => exact ⟨name, q, rfl, hv⟩
  | _ => cases hpath

/-- A comparison has a path on one of its sides. -/
def ComparesPath (registers : List (String × Value)) : Command → Prop
  | .compare a b => HoldsPath registers a ∨ HoldsPath registers b
  | _ => True

/-! ## Section 2: Commands -/

variable {given : List String} {before : List (String × Value)}

/-- A receiver is found alike, whichever file system it belongs to. -/
theorem path_receiver_parallel (name : String) :
    Parallel (During before) (receiver name asPath) (receiver name asPath)
      fun p q => p.detached = q.detached := by
  refine receiver_parallel (fun v => ?_) name
  cases v <;> rfl

theorem fileSystem_receiver_parallel (name : String) :
    Parallel (During before) (receiver name asFileSystem) (receiver name asFileSystem)
      fun _ _ => True := by
  have hselect (v : Value) :
      (asFileSystem v.detached).map (fun _ => ()) = (asFileSystem v).map fun _ => () := by
    cases v <;> rfl
  exact (receiver_parallel hselect name).mono fun _ _ _ => trivial

theorem field_receiver_parallel (action : FieldAction) (field name : String) :
    Parallel (During before) (receiver name (fieldFault action field))
      (receiver name (fieldFault action field)) Eq := by
  refine receiver_parallel (d := id) (fun v => ?_) name
  cases v <;> rfl

/-- An operation of the registry with the same outcome, detached, in all
    registries. -/
theorem withRegistry_parallel {α : Type} {d : α → α}
    {operation operation' : Registry → Registry.Outcome α}
    (h : ∀ r r' : Registry,
      outcomeDetached d (operation r).1 = outcomeDetached d (operation' r').1) :
    Parallel (During before) (withRegistry operation) (withRegistry operation')
      fun a b => d a = d b :=
  Parallel.bind Parallel.get fun s t hst =>
    Parallel.bind
      (Parallel.set ⟨⟨hst.registers, hst.nextLabel, hst.dictionaries⟩, hst.unchanged⟩)
      fun _ _ _ => Parallel.lift (h s.registry t.registry)

/-- Two values make no difference as the file system of a path: both are file
    systems, or they are equal when detached. -/
def SameHost (v w : Value) : Prop := v.IsGiven ∧ w.IsGiven ∨ SameValue v w

/-- Operands of constructions that differ in file systems only. -/
def SameOperands (a b : Operands) : Prop := a.1 = b.1 ∧ SameHost a.2 b.2

theorem pathAt_of_sameOperands {a b : Operands} (h : SameOperands a b) (r r' : Registry) :
    outcomeDetached Path.detached (r.pathAt a.1 a.2).1 =
      outcomeDetached Path.detached (r'.pathAt b.1 b.2).1 := by
  obtain ⟨haddress, ⟨ha, hb⟩ | hsame⟩ := h
  · rw [Registry.pathAt_of_isGiven ha, Registry.pathAt_of_isGiven hb, haddress]
  · rw [← Registry.pathAt_detached r r, hsame, haddress, Registry.pathAt_detached r r']

theorem construct_parallel {x y : Action Operands} (h : Parallel (During before) x y SameOperands) :
    Parallel (During before) (construct x) (construct y) SameResult := by
  refine Parallel.bind h fun a b hab => ?_
  exact Parallel.bind (withRegistry_parallel (pathAt_of_sameOperands hab)) fun p q hpq =>
    Parallel.pure (sameResult_pathResult hpq)

section Constructions

variable {f f' : Operand}

theorem run_path_parallel (hf : Parallel (During before) (eval f) (eval f') SameHost)
    (text : Operand) :
    Parallel (During before) (run (.path text f)) (run (.path text f')) SameResult := by
  rw [run_path, run_path]
  refine construct_parallel (Parallel.bind (eval_parallel text) fun v w hvw => ?_)
  refine Parallel.bind hf fun host host' hhost => Parallel.pure ⟨?_, hhost⟩
  show Address.parseAny v = Address.parseAny w
  rw [← Address.parseAny_detached v, hvw, Address.parseAny_detached]

theorem run_pathFromParts_parallel
    (hf : Parallel (During before) (eval f) (eval f') SameHost) (bucket : Operand)
    (segments : List Operand) :
    Parallel (During before) (run (.pathFromParts bucket segments f))
      (run (.pathFromParts bucket segments f')) SameResult := by
  rw [run_pathFromParts, run_pathFromParts]
  refine construct_parallel (Parallel.bind (eval_parallel bucket) fun b b' hb => ?_)
  refine Parallel.bind (evalItems_parallel segments) fun vs ws hvs => ?_
  refine Parallel.bind hf fun host host' hhost => Parallel.pure ⟨?_, hhost⟩
  show Address.ofNamesAny b vs = Address.ofNamesAny b' ws
  rw [← Address.ofNamesAny_detached b, hb, hvs, Address.ofNamesAny_detached]

end Constructions

/-- Any two file systems hand out the same paths, except that these belong to
    them. -/
theorem getPath_parallel (f g : Store) (arguments : List Operand) :
    Parallel (During before) (runOnFileSystem f (.getPath arguments))
      (runOnFileSystem g (.getPath arguments)) SameResult := by
  refine Parallel.bind (evalItems_parallel arguments) fun vs ws hvs => ?_
  refine answer_parallel (d := Path.detached) ?_ fun p q hpq => sameResult_pathResult hpq
  rw [← FileSystem.getPath_detached f, hvs, FileSystem.getPath_detached f g]

theorem partsOf_parallel (f g : Store) (bucket : Operand) (segments : List Operand) :
    Parallel (During before) (runOnFileSystem f (.pathFromParts bucket segments))
      (runOnFileSystem g (.pathFromParts bucket segments)) SameResult := by
  refine Parallel.bind (eval_parallel bucket) fun b b' hb => ?_
  refine Parallel.bind (evalItems_parallel segments) fun vs ws hvs => ?_
  refine answer_parallel (d := Path.detached) ?_ fun p q hpq => sameResult_pathResult hpq
  rw [← FileSystem.pathFromParts_detached f, hb, hvs, FileSystem.pathFromParts_detached f g]

/-- A register that holds a path stands for corresponding paths. -/
theorem evalPath_parallel {o : Operand} (ho : HoldsPath before o) :
    Parallel (During before) (eval o) (eval o)
      fun v w => ∃ p q : StorePath, v = .path p ∧ w = .path q ∧ p.detached = q.detached := by
  obtain ⟨name, p, rfl, hp⟩ := ho
  refine Parallel.bind Parallel.get fun s t hst => ?_
  have hs : s.register? name = some (.path (p.movedTo (p.fileSystem.current s.dictionaries))) := by
    rw [register?, hst.unchanged, hp, Option.map_some, Value.current_path]
  have hregister := hst.register? name
  rw [hs] at hregister
  obtain ⟨w, ht, hw⟩ := Option.map_eq_some_iff.mp hregister.symm
  obtain ⟨q, rfl, hpq⟩ := path_of_sameValue hw.symm
  rw [hs, ht]
  exact Parallel.pure ⟨_, q, rfl, rfl, hpq⟩

/-- The two sides of a comparison, of which one is a path. -/
theorem compare_parallel {a b : Operand} (h : HoldsPath before a ∨ HoldsPath before b) :
    Parallel (During before) (run (.compare a b)) (run (.compare a b)) SameResult := by
  rcases h with ha | hb
  · refine Parallel.bind (evalPath_parallel ha) fun v v' ⟨p, q, hv, hv', hpq⟩ => ?_
    refine Parallel.bind (eval_parallel b) fun w w' hw => reportResult_parallel ?_
    subst hv hv'
    rw [← Value.comparisonReport_path, Value.detached_path, hpq, hw, ← Value.detached_path,
      Value.comparisonReport_path]
  · refine Parallel.bind (eval_parallel a) fun v v' hv => ?_
    refine Parallel.bind (evalPath_parallel hb) fun w w' ⟨p, q, hw, hw', hpq⟩ =>
      reportResult_parallel ?_
    subst hw hw'
    rw [← Value.comparisonReport_of_path, Value.detached_path, hpq, hv, ← Value.detached_path,
      Value.comparisonReport_of_path]

theorem written_of_sameValue {v w : Value} (h : SameValue v w) (form : Form) :
    v.written form = w.written form := by
  rw [← Value.written_detached, h, Value.written_detached]

theorem truthy_of_sameValue {v w : Value} (h : SameValue v w) : v.truthy = w.truthy := by
  rw [← Value.truthy_detached, h, Value.truthy_detached]

theorem hashKey_of_sameValue {v w : Value} (h : SameValue v w) : v.hashKey = w.hashKey := by
  rw [← Value.hashKey_detached, h, Value.hashKey_detached]

/-- Corresponding values have the same text, or none for the same reason. -/
theorem written_parallel (form : Form) (o : Operand) :
    Parallel (During before)
      (do return .value (.text (← liftMisuse ((← eval o).written form))))
      (do return .value (.text (← liftMisuse ((← eval o).written form)))) SameResult := by
  refine Parallel.bind (eval_parallel o) fun v w hvw => ?_
  refine Parallel.bind (Parallel.liftMisuse (written_of_sameValue hvw form)) fun s t hst => ?_
  exact Parallel.pure (by rw [hst]; rfl)

/-- A blind command is answered alike in both sessions. -/
theorem blind_parallel {c : Command} (h : Blind c) (hcompares : ComparesPath before c) :
    Parallel (During before) (run c) (run c) SameResult := by
  have hhost (f : Operand) : Parallel (During before) (eval f) (eval f) SameHost :=
    (eval_parallel f).mono fun _ _ => .inr
  cases c with
  | path text f => exact run_path_parallel (hhost f) text
  | pathFromParts bucket segments f => exact run_pathFromParts_parallel (hhost f) bucket segments
  | toFileSystem register c =>
    refine Parallel.bind (fileSystem_receiver_parallel register) fun f g _ => ?_
    cases c with
    | info => exact h.elim
    | getPath arguments => exact getPath_parallel f g arguments
    | pathFromParts bucket segments => exact partsOf_parallel f g bucket segments
  | toPath register c =>
    have hc : c ≠ .fileSystem := by
      rintro rfl
      exact h
    exact Parallel.bind (path_receiver_parallel register) fun p q hpq => runOnPath_parallel hpq hc
  | divide a b =>
    refine Parallel.bind (eval_parallel a) fun v v' hv => ?_
    refine Parallel.bind (eval_parallel b) fun w w' hw => ?_
    refine Parallel.bind freshLabel_parallel fun l _ hl => ?_
    subst hl
    refine answer_parallel (d := Value.detached) ?_ fun x y hxy => congrArg Result.value hxy
    rw [← Path.quotient_detached, ← Path.quotient_detached, hv, hw]
  | compare a b => exact compare_parallel hcompares
  | hash v =>
    exact Parallel.bind (eval_parallel v) fun v w hvw =>
      Parallel.bind (Parallel.liftMisuse (hashKey_of_sameValue hvw)) fun _ _ _ => Parallel.pure rfl
  | sameHash a b =>
    -- both sessions are put back to what they were before the first operand
    refine Parallel.bind Parallel.get fun s t hst => ?_
    refine Parallel.bind (eval_parallel a) fun v v' hv => ?_
    refine Parallel.bind (Parallel.liftMisuse (hashKey_of_sameValue hv)) fun x x' hx => ?_
    refine Parallel.bind (Parallel.set hst) fun _ _ _ => ?_
    refine Parallel.bind (eval_parallel b) fun w w' hw => ?_
    refine Parallel.bind (Parallel.liftMisuse (hashKey_of_sameValue hw)) fun y y' hy => ?_
    exact Parallel.pure (by rw [hx, hy]; rfl)
  | plain v => exact written_parallel .plain v
  | literal v => exact written_parallel .literal v
  | truth v =>
    exact Parallel.bind (eval_parallel v) fun v w hvw =>
      Parallel.pure (by rw [truthy_of_sameValue hvw]; rfl)
  | value v =>
    exact Parallel.bind (eval_parallel v) fun v w hvw => Parallel.pure (congrArg Result.value hvw)
  | setField register field v =>
    refine Parallel.bind (field_receiver_parallel .set field register) fun m m' hm =>
      Parallel.bind (eval_parallel v) fun _ _ _ => Parallel.throw ?_
    exact congrArg (fun m => StepFault.fault (.misuse m)) hm
  | deleteField register field =>
    refine Parallel.bind (field_receiver_parallel .delete field register) fun m m' hm =>
      Parallel.throw ?_
    exact congrArg (fun m => StepFault.fault (.misuse m)) hm
  | _ => exact h.elim

/-- Counterparts go side by side. -/
theorem run_parallel {c c' : Command} (hc : Counterpart given c c')
    (hgiven : HoldsFileSystems given before) (hcompares : ComparesPath before c) :
    Parallel (During before) (run c) (run c') SameResult := by
  have hhost {f f' : Operand} (hf : GivenOperand given f) (hf' : GivenOperand given f') :
      Parallel (During before) (eval f) (eval f') SameHost :=
    (evalGiven_parallel hgiven hf hf').mono fun _ _ => .inl
  cases hc with
  | same hblind => exact blind_parallel hblind hcompares
  | path hf hf' => exact run_path_parallel (hhost hf hf') _
  | pathFromParts hf hf' => exact run_pathFromParts_parallel (hhost hf hf') _ _
  | getPath hname hname' =>
    exact Parallel.bind (receiverGiven_parallel hgiven hname hname') fun f g _ =>
      getPath_parallel f g _
  | partsOf hname hname' =>
    exact Parallel.bind (receiverGiven_parallel hgiven hname hname') fun f g _ =>
      partsOf_parallel f g _ _

end Keyspace.Session
