import Keyspace.Proofs.Session.Quiet

/-! # What commands do to the registry

    A command that fails leaves the registry alone. The address of a path is
    checked before its file system is looked for, so a construction that fails
    has not come to the registry yet. A command that succeeds has one of three
    effects (`run_effect`): it does without the registry; it takes the default
    file system, which may have to be made first; or it makes another one.
-/

namespace Keyspace

namespace Registry

/-! ## Section 1: Outcomes of operations -/

theorem truthy_of_host? {v : Value} {h : Host Value} (hv : v.host? = some h) :
    v.truthy = true := by
  cases v with
  | config c => rfl
  | fileSystem f => rfl
  | _ => cases hv

/-- There is no path, or one in a file system that counts as true, or one in
    the default file system. -/
theorem pathAt_cases (r : Registry) (address : Except Fault Address) (host : Value) :
    (∃ e, r.pathAt address host = (.error e, r)) ∨
      (host.truthy = true ∧ ∃ p, r.pathAt address host = (.ok p, r)) ∨
      (host.truthy = false ∧ ∃ p : StorePath, p.fileSystem = .fileSystem r.default.1 ∧
        r.pathAt address host = (.ok p, r.default.2)) := by
  unfold pathAt hostFor
  cases address with
  | error e => exact .inl ⟨e, rfl⟩
  | ok a =>
    rcases hostOf?_cases host with ⟨m, hgiven⟩ | ⟨h, hhost, hgiven⟩ | ⟨hfalse, hgiven⟩
    · exact .inl ⟨.misuse m, by rw [hgiven]⟩
    · exact .inr (.inl ⟨truthy_of_host? hhost, _, by rw [hgiven]⟩)
    · exact .inr (.inr ⟨hfalse, _, rfl, by rw [hgiven]⟩)

end Registry

namespace Session

/-- The failure of an operation on the registry is that of the action. -/
theorem run_withRegistry_error {α : Type} {operation : Registry → Registry.Outcome α}
    {s : Session} {e : Fault} {r : Registry} (h : operation s.registry = (.error e, r)) :
    (withRegistry operation).run s = (.error (.fault e), { s with registry := r }) := by
  show (lift (operation s.registry).1 : Action α).run
    { s with registry := (operation s.registry).2 } = _
  rw [h]
  rfl

/-! ## Section 2: Constructions -/

/-- The address that the operands of a construction denote, if they denote
    one, and the value that is given for a file system. -/
abbrev Operands : Type := Except Fault Address × Value

/-- The operands of a construction from a text. -/
def textOperands (text fileSystem : Operand) : Action Operands := do
  let t ← eval text
  let f ← eval fileSystem
  return (Address.parseAny t, f)

/-- The operands of a construction from a bucket and segments. -/
def partsOperands (bucket : Operand) (segments : List Operand) (fileSystem : Operand) :
    Action Operands := do
  let b ← eval bucket
  let vs ← evalItems segments
  let f ← eval fileSystem
  return (Address.ofNamesAny b vs, f)

/-- Constructs a path. -/
def construct (operands : Action Operands) : Action Result := do
  let (address, host) ← operands
  return pathResult (← withRegistry fun r => r.pathAt address host)

theorem textOperands_quiet (text fileSystem : Operand) : Quiet (textOperands text fileSystem) :=
  (eval_quiet text).bind fun _ => (eval_quiet fileSystem).bind fun _ => Quiet.pure _

theorem partsOperands_quiet (bucket : Operand) (segments : List Operand) (fileSystem : Operand) :
    Quiet (partsOperands bucket segments fileSystem) :=
  (eval_quiet bucket).bind fun _ => (evalItems_quiet segments).bind fun _ =>
    (eval_quiet fileSystem).bind fun _ => Quiet.pure _

theorem run_path (text fileSystem : Operand) :
    run (.path text fileSystem) = construct (textOperands text fileSystem) := by
  simp only [run, construct, textOperands, Registry.path, bind_assoc, pure_bind]

theorem run_pathFromParts (bucket : Operand) (segments : List Operand) (fileSystem : Operand) :
    run (.pathFromParts bucket segments fileSystem) =
      construct (partsOperands bucket segments fileSystem) := by
  simp only [run, construct, partsOperands, Registry.pathFromParts, bind_assoc, pure_bind]

/-- Whether a construction is given no file system: the value given for one
    counts as false. -/
def givenNone (operands : Action Operands) : Action Bool := do
  return !(← operands).2.truthy

/-- Whether a command asks for the default file system, if its operands stand
    for values at all. -/
def asksDefault : Command → Action Bool
  | .defaultFileSystem => return true
  | .path text fileSystem => givenNone (textOperands text fileSystem)
  | .pathFromParts bucket segments fileSystem =>
    givenNone (partsOperands bucket segments fileSystem)
  | _ => return false

/-! ## Section 3: Effects -/

/-- The file system that a path carries, or the file system itself. -/
def Result.carried? : Result → Option (Host Value)
  | .value (.path p) => some p.fileSystem
  | .value (.fileSystem f) => some (.fileSystem f)
  | _ => none

/-- The command asks for the default file system in a session. -/
def Asks (s : Session) (c : Command) : Prop := ((asksDefault c).run s).1 = .ok true

/-- The command is to make a file system. -/
def makes : Command → Bool
  | .newFileSystem _ => true
  | _ => false

/-- The effect of a command given to a session, with the outcome and the
    registry after it. -/
inductive Effect (s : Session) (c : Command) (outcome : Except StepFault Result) (r : Registry) :
    Prop where
  /-- The command fails. -/
  | failed {e : StepFault} : outcome = .error e → r = s.registry → Effect s c outcome r
  /-- The command succeeds without the registry. -/
  | unused {res : Result} :
    outcome = .ok res → r = s.registry → ¬Asks s c → makes c = false → Effect s c outcome r
  /-- The command takes the default file system. -/
  | default {res : Result} :
    outcome = .ok res → r = s.registry.default.2 → Asks s c → makes c = false →
    res.carried? = some (.fileSystem s.registry.default.1) → Effect s c outcome r
  /-- The command makes another file system, with which it answers. -/
  | made {h : Host Value} {uri : String} :
    outcome = .ok (.value (.fileSystem (s.registry.make h uri).1)) →
    r = (s.registry.make h uri).2 → ¬Asks s c → makes c = true → Effect s c outcome r

/-- A construction takes the default file system exactly if it is given no
    other. -/
theorem construct_effect {operands : Action Operands} {s : Session} {c : Command}
    (hquiet : Quiet operands) (hrun : run c = construct operands)
    (hasks : asksDefault c = givenNone operands) (hmakes : makes c = false) :
    Effect s c ((run c).run s).1 ((run c).run s).2.registry := by
  have hask : ((asksDefault c).run s).1 = (operands.run s).1.map fun x => !x.2.truthy := by
    rw [hasks, givenNone, run_bind]
    rcases operands.run s with ⟨_ | _, _⟩ <;> rfl
  rw [hrun, construct, run_bind]
  rcases hquiet.run_cases s with
    ⟨e, s', hoperands, hregistry⟩ | ⟨⟨address, host⟩, s', hoperands, hregistry⟩
  · -- an operand stands for no value
    rw [hoperands]
    exact .failed rfl hregistry
  · rw [hoperands] at hask ⊢
    replace hask : ((asksDefault c).run s).1 = .ok (!host.truthy) := hask
    dsimp only
    rw [run_bind]
    rcases s'.registry.pathAt_cases address host with ⟨e, h⟩ | ⟨hgiven, p, h⟩ | ⟨hnone, p, hp, h⟩
    · -- there is no address, or nothing that a path could belong to
      rw [run_withRegistry_error h]
      exact .failed rfl hregistry
    · rw [run_withRegistry h]
      refine .unused rfl hregistry ?_ hmakes
      rw [Asks, hask, hgiven]
      exact nofun
    · rw [run_withRegistry h, hregistry]
      rw [hregistry] at hp
      refine .default rfl rfl ?_ hmakes (congrArg some hp)
      rw [Asks, hask, hnone]
      rfl

/-- The command that makes a file system does so unless it fails. -/
theorem newFileSystem_effect (s : Session) (config : Operand) :
    Effect s (.newFileSystem config) ((run (.newFileSystem config)).run s).1
      ((run (.newFileSystem config)).run s).2.registry := by
  have hasks : ¬Asks s (.newFileSystem config) := nofun
  rw [run, run_bind]
  rcases (eval_quiet config).run_cases s with
    ⟨e, s', heval, hregistry⟩ | ⟨v, s', heval, hregistry⟩
  · rw [heval]
    exact .failed rfl hregistry
  · rw [heval]
    dsimp only
    rw [run_bind]
    rcases s'.registry.newFileSystem_cases v with ⟨m, hmade⟩ | ⟨h, uri, -, -, hmade⟩
    · rw [run_withRegistry_error hmade]
      exact .failed rfl hregistry
    · rw [run_withRegistry hmade, hregistry]
      exact .made rfl rfl hasks rfl

theorem not_asks_of_not_usesRegistry {c : Command} (h : usesRegistry c = false) (s : Session) :
    ¬Asks s c ∧ makes c = false := by
  cases c with
  | path | pathFromParts | defaultFileSystem | newFileSystem => cases h
  | _ => exact ⟨nofun, rfl⟩

/-- **Effects.** Each command has one of the four effects. -/
theorem run_effect (s : Session) (c : Command) :
    Effect s c ((run c).run s).1 ((run c).run s).2.registry := by
  cases hc : usesRegistry c with
  | false =>
    obtain ⟨hasks, hmakes⟩ := not_asks_of_not_usesRegistry hc s
    have hregistry := (run_quiet hc).registry_run s
    cases ((run c).run s).1 with
    | error e => exact .failed rfl hregistry
    | ok res => exact .unused rfl hregistry hasks hmakes
  | true =>
    cases c with
    | path text fileSystem =>
      exact construct_effect (textOperands_quiet text fileSystem) (run_path _ _) rfl rfl
    | pathFromParts bucket segments fileSystem =>
      exact construct_effect (partsOperands_quiet bucket segments fileSystem)
        (run_pathFromParts _ _ _) rfl rfl
    | defaultFileSystem => exact .default rfl rfl rfl rfl rfl
    | newFileSystem config => exact newFileSystem_effect s config
    | _ => cases hc

end Session

end Keyspace
