import Keyspace.Proofs.Path.Failing
import Keyspace.Proofs.Session.Provenance
import Keyspace.Proofs.Session.Reachable

/-! # What errors tell about paths

    A command that asks something of a path reads its operands first. Reading
    them may fail, but never with a path error (`eval_noFailure`), so a path
    error comes from the operation itself, on the path that was asked and on
    the values of the operands (`run_fails`). What is known of the operations
    on any values then holds of commands in every session (`error_contract`).
-/

namespace Keyspace

namespace Session

/-! ## Section 1: Actions without path errors -/

/-- The action may fail, but not with a path error. -/
def NoFailure {α : Type} (x : Action α) : Prop :=
  ∀ (s : Session) (f : Failure), (x.run s).1 ≠ .error (.fault (.failure f))

namespace NoFailure

variable {α β : Type} {x : Action α} {g : α → Action β}

theorem pure (a : α) : NoFailure (pure a : Action α) := fun _ _ => nofun

theorem throwMisuse (m : Misuse) : NoFailure (throw (.fault (.misuse m)) : Action α) :=
  fun _ _ => nofun

theorem throwMissing (name : String) : NoFailure (throw (.noSuchRegister name) : Action α) :=
  fun _ _ => nofun

/-- A path error of a composition comes from its second action. -/
theorem cases_bind {s : Session} {f : Failure} (hx : NoFailure x)
    (h : ((x >>= g).run s).1 = .error (.fault (.failure f))) :
    ∃ a s', x.run s = (.ok a, s') ∧ ((g a).run s').1 = .error (.fault (.failure f)) :=
  (cases_of_run_bind_error h).resolve_left (hx s f)

theorem bind (hx : NoFailure x) (hg : ∀ a, NoFailure (g a)) : NoFailure (x >>= g) := by
  intro s f h
  obtain ⟨a, s', -, h⟩ := hx.cases_bind h
  exact hg a s' f h

end NoFailure

theorem get_noFailure : NoFailure (get : Action Session) := fun _ _ => nofun

theorem freshLabel_noFailure : NoFailure freshLabel := fun _ _ => nofun

theorem share_noFailure (entries : List (String × Value)) : NoFailure (share entries) :=
  fun _ _ => nofun

theorem reportResult_noFailure (entries : List (String × Value)) :
    NoFailure (reportResult entries) :=
  (share_noFailure entries).bind fun _ => .pure _

mutual

/-- Operands are read without path errors. -/
theorem eval_noFailure : ∀ o : Operand, NoFailure (eval o)
  | .null => .pure _
  | .bool _ => .pure _
  | .int _ => .pure _
  | .float _ => by
    unfold eval
    split
    · exact freshLabel_noFailure.bind fun _ => .pure _
    · exact .throwMisuse _
  | .text _ => .pure _
  | .list items =>
    (evalItems_noFailure items).bind fun _ => freshLabel_noFailure.bind fun _ => .pure _
  | .dict entries => (evalEntries_noFailure entries).bind fun _ => share_noFailure _
  | .register name => by
    refine get_noFailure.bind fun s => ?_
    split
    · exact .pure _
    · exact .throwMissing name

theorem evalItems_noFailure : ∀ os : List Operand, NoFailure (evalItems os)
  | [] => .pure _
  | o :: os => (eval_noFailure o).bind fun _ => (evalItems_noFailure os).bind fun _ => .pure _

theorem evalEntries_noFailure : ∀ es : List (String × Operand), NoFailure (evalEntries es)
  | [] => .pure _
  | (_, o) :: rest =>
    (eval_noFailure o).bind fun _ => (evalEntries_noFailure rest).bind fun _ => .pure _

end

/-! ## Section 2: Commands to a path -/

/-- The value of the operand that a path is asked to be combined or compared
    with. -/
def givenValue? (s : Session) : Command → Option Value
  | .toPath _ c => (otherOperand? c).bind fun o => answer? s (eval o)
  | .divide a b => answer? s (eval a >>= fun _ => eval b)
  | _ => none

/-- In a well-formed session operands have well-formed values. -/
theorem wellFormed_of_givenValue? {s : Session} {c : Command} {v : Value} (hs : s.WellFormed)
    (h : givenValue? s c = some v) : v.WellFormed := by
  have hanswer : ∀ {x : Action Value}, Keeps WellFormed x Value.WellFormed →
      answer? s x = some v → v.WellFormed := by
    intro x hx hv
    refine (hx s hs).2 v ?_
    rw [answer?] at hv
    rcases hrun : (x.run s).1 with e | w
    · rw [hrun] at hv
      cases hv
    · rw [hrun] at hv
      rw [Option.some.inj hv]
  cases c with
  | toPath register c =>
    obtain ⟨o, -, hv⟩ := Option.bind_eq_some_iff.mp h
    exact hanswer (eval_keeps o) hv
  | divide a b => exact hanswer (Keeps.bind (eval_keeps a) fun _ _ => eval_keeps b) h
  | _ => cases h

variable {α : Type} {p : StorePath} {s : Session} {f : Failure}

theorem error_of_liftAnswer (answer : α → Result) {x : Except Fault α}
    (h : ((do return answer (← lift x) : Action Result).run s).1 =
      .error (.fault (.failure f))) :
    x = .error (.failure f) := by
  rcases cases_of_run_bind_error h with h | ⟨a, s', -, h⟩
  · exact eq_error_of_run_lift h
  · cases h

/-- A path error in an operation on the value of an operand. -/
theorem exists_of_evalLift_error (answer : α → Result) {o : Operand}
    {operation : Value → Except Fault α}
    (h : ((do
      let v ← eval o
      return answer (← lift (operation v)) : Action Result).run s).1 =
        .error (.fault (.failure f))) :
    ∃ v, answer? s (eval o) = some v ∧ operation v = .error (.failure f) := by
  obtain ⟨v, s', hv, h⟩ := (eval_noFailure o).cases_bind h
  exact ⟨v, answer?_of_run hv, error_of_liftAnswer answer h⟩

/-- An operation on the value of an operand fails as it does on that value. -/
theorem fails_of_evalLift (answer : α → Result) {o : Operand}
    {operation : Value → Except Fault α}
    (hfails : ∀ v, operation v = .error (.failure f) → p.Fails (some v) f)
    (h : ((do
      let v ← eval o
      return answer (← lift (operation v)) : Action Result).run s).1 =
        .error (.fault (.failure f))) :
    p.Fails (answer? s (eval o)) f := by
  obtain ⟨v, hv, herror⟩ := exists_of_evalLift_error answer h
  rw [hv]
  exact hfails v herror

/-- Whatever is asked of a path, a path error is one of the failures of
    operations on it and the given operand. -/
theorem runOnPath_fails {register : String} {c : PathCommand}
    (h : ((runOnPath p c).run s).1 = .error (.fault (.failure f))) :
    p.Fails (givenValue? s (.toPath register c)) f := by
  cases c with
  | info => exact absurd h (reportResult_noFailure _ s f)
  | root => cases h
  | fileName => cases h
  | parent => cases h
  | fileSystem => cases h
  | normalize => cases h
  | components => cases h
  | absolute => exact Path.absolute_fails (error_of_liftAnswer pathResult h)
  | uri => exact Path.uri_fails (error_of_liftAnswer (fun u => .value (.text u)) h)
  | location =>
    obtain ⟨l, s', -, h⟩ := freshLabel_noFailure.cases_bind h
    exact Path.location_fails (error_of_liftAnswer (fun r => .value (.location (some l) r)) h)
  | nameAt index =>
    obtain ⟨v, -, hv⟩ := exists_of_evalLift_error pathResult h
    exact Path.nameAtAny_fails hv
  | subpath first last =>
    obtain ⟨b, s₁, -, h⟩ := (eval_noFailure first).cases_bind h
    obtain ⟨e, s₂, -, h⟩ := (eval_noFailure last).cases_bind h
    exact Path.subpathAny_fails (error_of_liftAnswer pathResult h)
  | resolve other => exact fails_of_evalLift pathResult (fun _ => Path.resolveAny_fails) h
  | resolveSibling other =>
    exact fails_of_evalLift pathResult (fun _ => Path.resolveSiblingAny_fails) h
  | relativize other => exact fails_of_evalLift pathResult (fun _ => Path.relativizeAny_fails) h
  | endsWith other => exact fails_of_evalLift boolResult (fun _ => Path.endsWithAny_fails) h
  | compareTo other =>
    exact fails_of_evalLift (fun o => .value (.int (signOf o))) (fun _ => Path.compareAny_fails) h
  | contains item => exact absurd h ((eval_noFailure item).bind (fun _ => .pure _) s f)
  | startsWith other =>
    obtain ⟨v, s', -, h⟩ := (eval_noFailure other).cases_bind h
    cases h
    exact .unsupported .startsWith
  | realPath =>
    cases h
    exact .unsupported .realPath
  | toFile =>
    cases h
    exact .unsupported .toFile
  | watch watcher events =>
    obtain ⟨v, s₁, -, h⟩ := (eval_noFailure watcher).cases_bind h
    obtain ⟨vs, s₂, -, h⟩ := (evalItems_noFailure events).cases_bind h
    cases h
    exact .unsupported .watch

theorem divide_fails {a b : Operand} (hp : askedPath? s (.divide a b) = some p)
    (h : ((run (.divide a b)).run s).1 = .error (.fault (.failure f))) :
    p.Fails (givenValue? s (.divide a b)) f := by
  obtain ⟨v, s₁, hv, h⟩ := (eval_noFailure a).cases_bind h
  obtain ⟨w, s₂, hw, h⟩ := (eval_noFailure b).cases_bind h
  obtain ⟨l, s₃, -, h⟩ := freshLabel_noFailure.cases_bind h
  have hquotient := error_of_liftAnswer .value h
  have hleft : asPath v = some p := by
    rwa [askedPath?, answer?_of_run hv] at hp
  have hboth : (eval a >>= fun _ => eval b).run s = (.ok w, s₂) := by
    rw [run_bind_of_ok hv, hw]
  obtain rfl := eq_path_of_asPath hleft
  rw [givenValue?, answer?_of_run hboth]
  exact Path.quotient_fails hquotient

/-- Whatever command asks something of a path, a path error is one of the
    failures of operations on it and the given operand. -/
theorem run_fails {c : Command} (hp : askedPath? s c = some p)
    (h : ((run c).run s).1 = .error (.fault (.failure f))) : p.Fails (givenValue? s c) f := by
  cases c with
  | toPath register c =>
    rw [run_toPath c hp] at h
    exact runOnPath_fails h
  | divide a b => exact divide_fails hp h
  | _ => cases hp

/-! ## Section 3: The contract -/

/-- **Path errors.** Combining a reachable path with a value is refused as
    foreign exactly if the value is neither a path nor a text, and as invalid,
    with the value in the error, exactly if it is a text of nothing but
    separators. All other values are answered to, but for relativizing, which
    may find the paths incompatible. What needs a bucket is refused exactly for
    relative paths.

    In every session, a path error in a command to the path, unless it is about
    an invalid operand, tells a text that makes an equal path and no bucket but
    that of the path. An error about incompatible paths also tells a text that
    makes what the operand stands for. -/
theorem error_contract (hp : Reachable p) :
    (∀ (c : Path.Combining) (v : Value), c.TakesAny →
      (Path.Raises .foreign (c.outcome p v) ↔ v.IsForeign) ∧
      (Path.Raises .invalidPath (c.outcome p v) ↔ v.IsSeparators) ∧
      (∀ f : Failure, c.outcome p v = .error (.failure f) → f.error.kind = .invalidPath →
        f.error.path = v) ∧
      (¬v.IsForeign → ¬v.IsSeparators →
        (∃ w, c.outcome p v = .ok w) ∨
          c = .relativize ∧
            ∃ f : Failure, c.outcome p v = .error (.failure f) ∧ f.error.kind = .incompatible)) ∧
      (Path.NeedsBucket p p.uri ∧ Path.NeedsBucket p p.location ∧
        Path.NeedsBucket p p.absolute) ∧
      ∀ (sts : List Step) (c : Command) (f : Failure),
        askedPath? (initial.steps sts).2 c = some p →
        ((run c).run (initial.steps sts).2).1 = .error (.fault (.failure f)) →
        f.error.kind ≠ .invalidPath →
        Path.Tells f.error p ∧
          ∀ other reason, f.error.detail = .incompatible other reason →
            ∃ v u a, givenValue? (initial.steps sts).2 c = some v ∧ other = .text u ∧
              Registry.Makes u a ∧ v.StandsFor a := by
  refine ⟨fun c v hc => ⟨Path.raises_foreign_iff hc, Path.raises_invalidPath_iff hc,
      fun f => Path.path_of_invalidPath hc, Path.outcome_of_operand hc p⟩,
    ⟨Path.uri_needsBucket p, Path.location_needsBucket p, Path.absolute_needsBucket p⟩,
    fun sts c f hasked hrun hkind => ?_⟩
  have hs := wellFormed_steps sts
  have hfails := run_fails hasked hrun
  refine ⟨hfails.tells hp.wellFormed hkind, fun other reason hdetail => ?_⟩
  exact hfails.tells_other (fun v hv => wellFormed_of_givenValue? hs hv) hdetail

/-- Beside `/b/x`, a number and a text of separators, which are refused, and a
    text of another bucket, which has no relative path. -/
theorem error_contract_refused :
    let p : StorePath := ⟨⟨some "b", ["x"]⟩, .fileSystem ⟨.default, 0, []⟩⟩
    let sts : List Step := [⟨.path (.text "/b/x") .null, some "p"⟩]
    let c : Command := .toPath "p" (.relativize (.text "/c//y"))
    let f : Failure := .incompatible p.toAddress ⟨some "c", ["y"]⟩ .bucketMismatch
    Reachable p ∧
      Path.Raises .foreign (Path.Combining.outcome p (.int 3) .resolveSibling) ∧
      Path.Raises .invalidPath (Path.Combining.outcome p (.text "//") .endsWith) ∧
      (∃ u, p.uri = .ok u) ∧
      askedPath? (initial.steps sts).2 c = some p ∧
      ((run c).run (initial.steps sts).2).1 = .error (.fault (.failure f)) ∧
      Path.Tells f.error p ∧
      ∃ v u a, givenValue? (initial.steps sts).2 c = some v ∧ (.text "/c/y" : Value) = .text u ∧
        Registry.Makes u a ∧ v.StandsFor a := by
  intro p sts c f
  have hasked : askedPath? (initial.steps sts).2 c = some p := rfl
  have hrun : ((run c).run (initial.steps sts).2).1 = .error (.fault (.failure f)) := rfl
  have hp : Reachable p :=
    ⟨sts, .answered (c := .toPath "p" .normalize) (r := pathResult p) rfl (Value.mem_paths_self p)⟩
  have hparse : Address.parse? "//" = none := by decide +kernel
  have hseparators : (Value.text "//").IsSeparators :=
    ⟨"//", rfl, Address.parse?_eq_none_iff.mp hparse⟩
  obtain ⟨hcombining, ⟨huri, -, -⟩, hcommands⟩ := error_contract hp
  obtain ⟨hforeign, -, -, -⟩ := hcombining .resolveSibling (.int 3) trivial
  obtain ⟨-, hinvalid, -, -⟩ := hcombining .endsWith (.text "//") trivial
  obtain ⟨htells, hother⟩ := hcommands sts c f hasked hrun nofun
  exact ⟨hp, hforeign.mpr ⟨nofun, nofun⟩, hinvalid.mpr hseparators, huri.2 rfl, hasked, hrun,
    htells, hother _ _ rfl⟩

end Session

end Keyspace
