import Keyspace.Proofs.Path.Operand
import Keyspace.Proofs.Value.Current
import Keyspace.Proofs.Session.Invariant

/-! # Where the file system of a path comes from

    Whatever is asked of a path, the paths that come back belong to its file
    system, with one exception: resolving may answer with the operand, and if
    that is a path, it brings its own file system. It does so when it is
    absolute, or, in place of the last segment, when there is no parent
    (`runOnPath_stems`, `divide_stems`).

    An operand that is a text is parsed in the file system of the path it is
    given to. So a chain of operations without paths as operands never leaves
    the file system of its first path (`Derives.current_fileSystem`).
-/

namespace Keyspace

namespace Session

/-! ## Section 1: Operations on any values -/

/-- The path `r` belongs to the file system of an operand that is adopted, or
    else to that of `p`. -/
def Stems (p : StorePath) (operand? : Option StorePath) (Adopted : StorePath → Prop)
    (r : StorePath) : Prop :=
  (∀ q ∈ operand?, Adopted q → r.fileSystem = q.fileSystem) ∧
    ((∀ q ∈ operand?, ¬Adopted q) → r.fileSystem = p.fileSystem)

variable {p q r : StorePath} {v : Value} {Adopted : StorePath → Prop}

/-- An operand is itself a path, or it belongs to the file system of `p`. -/
theorem fileSystem_operand (h : p.operand v = .ok q) :
    asPath v = some q ∨ asPath v = none ∧ q.fileSystem = p.fileSystem := by
  rcases Path.cases_of_operand h with rfl | ⟨t, rfl, hparse⟩
  · exact .inl rfl
  · exact .inr ⟨rfl, Path.fileSystem_parse? hparse⟩

/-- An operation that adopts some of its operands, seen from the operand that
    a value stands for. -/
theorem stems_of_operand [DecidablePred Adopted] (hq : p.operand v = .ok q)
    (hr : r.fileSystem = if Adopted q then q.fileSystem else p.fileSystem) :
    Stems p (asPath v) Adopted r := by
  rcases fileSystem_operand hq with hpath | ⟨hnone, hfileSystem⟩
  · rw [hpath]
    constructor
    · rintro _ ⟨rfl⟩ hadopted
      rw [hr, if_pos hadopted]
    · intro hadopted
      rw [hr, if_neg (hadopted q rfl)]
  · -- an operand that is no path belongs to the file system already
    rw [hfileSystem, ite_self] at hr
    rw [hnone]
    exact ⟨nofun, fun _ => hr⟩

theorem resolveAny_stems (h : p.resolveAny v = .ok r) :
    Stems p (asPath v) (fun q => q.isAbsolute = true) r := by
  obtain ⟨q, hq, rfl⟩ := map_eq_ok.mp h
  exact stems_of_operand hq (Path.fileSystem_resolve p q)

theorem resolveSiblingAny_stems (h : p.resolveSiblingAny v = .ok r) :
    Stems p (asPath v) (fun q => p.parent? = none ∨ q.isAbsolute = true) r := by
  obtain ⟨q, hq, rfl⟩ := map_eq_ok.mp h
  exact stems_of_operand hq (Path.fileSystem_resolveSibling p q)

theorem fileSystem_relativizeAny (h : p.relativizeAny v = .ok r) :
    r.fileSystem = p.fileSystem := by
  obtain ⟨q, -, hresult⟩ := bind_eq_ok.mp h
  split at hresult
  · next hrelativize =>
    obtain rfl := Except.ok.inj hresult
    exact Path.fileSystem_relativize hrelativize
  · cases hresult

/-- What a path is the dividend of is a resolved path. -/
theorem quotient_stems {label : Nat} {x : Value} (h : (Value.path p).quotient label v = .ok x) :
    ∃ r, x = .path r ∧ Stems p (asPath v) (fun q => q.isAbsolute = true) r := by
  cases v with
  | path q =>
    obtain rfl := Except.ok.inj h
    exact ⟨_, rfl, resolveAny_stems (v := .path q) rfl⟩
  | text t =>
    obtain ⟨r, hr, rfl⟩ := map_eq_ok.mp h
    exact ⟨r, rfl, resolveAny_stems hr⟩
  | _ => cases h

/-! ## Section 2: What is asked of a path -/

/-- What an action answers with. -/
def answer? {α : Type} (s : Session) (x : Action α) : Option α := (x.run s).1.toOption

/-- The operand that a path is asked to be combined or compared with. -/
def otherOperand? : PathCommand → Option Operand
  | .resolve other | .resolveSibling other | .relativize other | .endsWith other
  | .compareTo other | .contains other | .startsWith other => some other
  | _ => none

/-- The path of which a command asks something: the one in a register, or the
    one on the left of a division sign. -/
def askedPath? (s : Session) : Command → Option StorePath
  | .toPath register _ => (s.register? register).bind asPath
  | .divide a _ => (answer? s (eval a)).bind asPath
  | _ => none

/-- The path that is given as an operand, if a path is given. -/
def givenPath? (s : Session) : Command → Option StorePath
  | .toPath _ c => (otherOperand? c).bind fun o => (answer? s (eval o)).bind asPath
  | .divide a b => (answer? s (eval a >>= fun _ => eval b)).bind asPath
  | _ => none

/-- The paths that a result returns: itself, or the items of a list. -/
def Result.returned : Result → List StorePath
  | .value (.path r) => [r]
  | .value (.list _ items) => items.filterMap asPath
  | _ => []

/-- Whether a command that asks something of `p` answers in the file system of
    its operand `q`. -/
def Adopts (c : Command) (p q : StorePath) : Prop :=
  match c with
  | .toPath _ (.resolve _) | .divide _ _ => q.isAbsolute = true
  | .toPath _ (.resolveSibling _) => p.parent? = none ∨ q.isAbsolute = true
  | _ => False

theorem eq_path_of_asPath (h : asPath v = some p) : v = .path p := by
  cases v with
  | path q => rw [Option.some.inj h]
  | _ => cases h

theorem answer?_of_run {α : Type} {s s' : Session} {x : Action α} {a : α}
    (h : x.run s = (.ok a, s')) : answer? s x = some a := by
  rw [answer?, h]
  rfl

/-! ## Section 3: Answers -/

/-- All paths that a result returns belong to the file system of `p`. -/
def Stays (p : StorePath) (res : Result) : Prop := ∀ r ∈ res.returned, r.fileSystem = p.fileSystem

theorem stays_pathResult (h : r.fileSystem = p.fileSystem) : Stays p (pathResult r) := by
  intro r' hr'
  obtain rfl := List.mem_singleton.mp hr'
  exact h

theorem stays_pathResult? {r? : Option StorePath}
    (h : ∀ r, r? = some r → r.fileSystem = p.fileSystem) : Stays p (pathResult? r?) := by
  cases r? with
  | none => exact nofun
  | some r => exact stays_pathResult (h r rfl)

theorem stays_ofHost (host : Host Value) : Stays p (.value (.ofHost host)) := by
  cases host <;> exact nofun

/-- No invariant is needed: what an action answers with is all that counts. -/
abbrev Anywhere (_ : Session) : Prop := True

theorem answers {α : Type} (x : Action α) : Keeps Anywhere x fun _ => True :=
  fun _ _ => ⟨trivial, fun _ _ => trivial⟩

theorem liftPath_stays {x : Except Fault StorePath}
    (h : ∀ r, x = .ok r → r.fileSystem = p.fileSystem) :
    Keeps Anywhere (do return pathResult (← lift x)) (Stays p) :=
  Keeps.bind (Keeps.lift h) fun _ hr => Keeps.pure (stays_pathResult hr)

/-- Only two commands may adopt an operand. -/
def mayAdopt : PathCommand → Bool
  | .resolve _ | .resolveSibling _ => true
  | _ => false

/-- All others answer with paths in the file system of the path that they ask. -/
theorem runOnPath_stays {c : PathCommand} (hc : mayAdopt c = false) (p : StorePath) :
    Keeps Anywhere (runOnPath p c) (Stays p) := by
  cases c with
  | resolve other => cases hc
  | resolveSibling other => cases hc
  | info => exact Keeps.bind (answers _) fun _ _ => Keeps.pure nofun
  | root => exact Keeps.pure (stays_pathResult? fun _ => Path.fileSystem_root?)
  | fileName => exact Keeps.pure (stays_pathResult? fun _ => Path.fileSystem_fileName?)
  | parent => exact Keeps.pure (stays_pathResult? fun _ => Path.fileSystem_parent?)
  | fileSystem => exact Keeps.pure (stays_ofHost p.fileSystem)
  | normalize => exact Keeps.pure (stays_pathResult rfl)
  | absolute =>
    exact liftPath_stays fun r hr => Path.fileSystem_absolute? (Path.absolute?_of_absolute hr)
  | components =>
    refine Keeps.bind (answers freshLabel) fun l _ => Keeps.pure fun r hr => ?_
    obtain ⟨v, hv, hpath⟩ := List.mem_filterMap.mp hr
    obtain ⟨q, hq, rfl⟩ := List.mem_map.mp hv
    obtain rfl := Option.some.inj hpath
    exact Path.fileSystem_of_mem_components hq
  | uri => exact Keeps.bind (answers _) fun _ _ => Keeps.pure nofun
  | location =>
    exact Keeps.bind (answers _) fun _ _ => Keeps.bind (answers _) fun _ _ => Keeps.pure nofun
  | nameAt index =>
    refine Keeps.bind (answers _) fun i _ => liftPath_stays fun r hr => ?_
    obtain ⟨i, hname⟩ := Path.nameAt?_of_nameAtAny hr
    exact Path.fileSystem_nameAt? hname
  | subpath first last =>
    refine Keeps.bind (answers _) fun b _ => Keeps.bind (answers _) fun e _ =>
      liftPath_stays fun r hr => ?_
    obtain ⟨i, j, hsubpath⟩ := Path.subpath?_of_subpathAny hr
    exact Path.fileSystem_subpath? hsubpath
  | relativize other =>
    exact Keeps.bind (answers _) fun v _ => liftPath_stays fun r hr => fileSystem_relativizeAny hr
  | endsWith other =>
    exact Keeps.bind (answers _) fun _ _ => Keeps.bind (answers _) fun _ _ => Keeps.pure nofun
  | compareTo other =>
    exact Keeps.bind (answers _) fun _ _ => Keeps.bind (answers _) fun _ _ => Keeps.pure nofun
  | contains item => exact Keeps.bind (answers _) fun _ _ => Keeps.pure nofun
  | startsWith other => exact Keeps.bind (answers _) fun _ _ => Keeps.throw _
  | realPath => exact Keeps.throw _
  | toFile => exact Keeps.throw _
  | watch watcher events =>
    exact Keeps.bind (answers _) fun _ _ => Keeps.bind (answers _) fun _ _ => Keeps.throw _

/-- The answer of an operation to the value of an operand. -/
theorem exists_of_evalLift {o : Operand} {operation : Value → Except Fault StorePath}
    {s : Session} {res : Result}
    (h : ((do
      let v ← eval o
      return pathResult (← lift (operation v)) : Action Result).run s).1 = .ok res) :
    ∃ v r, answer? s (eval o) = some v ∧ operation v = .ok r ∧ res = pathResult r := by
  obtain ⟨v, s', hv, h⟩ := run_bind_eq_ok.mp h
  obtain ⟨r, s'', hr, h⟩ := run_bind_eq_ok.mp h
  exact ⟨v, r, answer?_of_run hv, eq_ok_of_run_lift hr, (Except.ok.inj h).symm⟩

/-- Whatever is asked of a path, an answer in another file system is in that of
    the operand. -/
theorem runOnPath_stems {s : Session} {register : String} {c : PathCommand} {res : Result}
    (h : ((runOnPath p c).run s).1 = .ok res) (hr : r ∈ res.returned) :
    Stems p (givenPath? s (.toPath register c)) (Adopts (.toPath register c) p) r := by
  cases c with
  | resolve other =>
    obtain ⟨v, r', hv, hr', rfl⟩ := exists_of_evalLift h
    obtain rfl := List.mem_singleton.mp hr
    have hgiven : givenPath? s (.toPath register (.resolve other)) = asPath v := by
      show (answer? s (eval other)).bind asPath = _
      rw [hv, Option.bind_some]
    rw [hgiven]
    exact resolveAny_stems hr'
  | resolveSibling other =>
    obtain ⟨v, r', hv, hr', rfl⟩ := exists_of_evalLift h
    obtain rfl := List.mem_singleton.mp hr
    have hgiven : givenPath? s (.toPath register (.resolveSibling other)) = asPath v := by
      show (answer? s (eval other)).bind asPath = _
      rw [hv, Option.bind_some]
    rw [hgiven]
    exact resolveSiblingAny_stems hr'
  | _ =>
    have hstays := (runOnPath_stays rfl p s trivial).2 res h r hr
    exact ⟨fun _ _ hadopts => hadopts.elim, fun _ => hstays⟩

/-- The receiver of a command is what its register holds. -/
theorem run_toPath {s : Session} {register : String} (c : PathCommand)
    (h : askedPath? s (.toPath register c) = some p) :
    (run (.toPath register c)).run s = (runOnPath p c).run s := by
  obtain ⟨v, hv, hpath⟩ := Option.bind_eq_some_iff.mp h
  have hreceiver : (receiver register asPath).run s = (.ok p, s) := by
    rw [receiver, run_bind_of_ok (run_get s), hv]
    dsimp only
    rw [hpath]
    rfl
  show (receiver register asPath >>= fun p => runOnPath p c).run s = _
  rw [run_bind_of_ok hreceiver]

theorem divide_stems {s : Session} {a b : Operand} {res : Result}
    (hp : askedPath? s (.divide a b) = some p)
    (h : ((run (.divide a b)).run s).1 = .ok res) (hr : r ∈ res.returned) :
    Stems p (givenPath? s (.divide a b)) (Adopts (.divide a b) p) r := by
  obtain ⟨v, s₁, hv, h⟩ := run_bind_eq_ok.mp h
  obtain ⟨w, s₂, hw, h⟩ := run_bind_eq_ok.mp h
  obtain ⟨l, s₃, -, h⟩ := run_bind_eq_ok.mp h
  obtain ⟨x, s₄, hx, h⟩ := run_bind_eq_ok.mp h
  have hquotient := eq_ok_of_run_lift hx
  obtain rfl := Except.ok.inj h
  -- the two sides of the division sign
  have hleft : asPath v = some p := by
    rwa [askedPath?, answer?_of_run hv] at hp
  have hright : givenPath? s (.divide a b) = asPath w := by
    have hboth : (eval a >>= fun _ => eval b).run s = (.ok w, s₂) := by
      rw [run_bind_of_ok hv, hw]
    rw [givenPath?, answer?_of_run hboth, Option.bind_some]
  rw [hright]
  obtain rfl := eq_path_of_asPath hleft
  obtain ⟨r', rfl, hstems⟩ := quotient_stems hquotient
  obtain rfl := List.mem_singleton.mp hr
  exact hstems

/-- Whatever command asks something of a path, an answer in another file system
    is in that of the operand. -/
theorem run_stems {s : Session} {c : Command} {res : Result} (hp : askedPath? s c = some p)
    (h : ((run c).run s).1 = .ok res) (hr : r ∈ res.returned) :
    Stems p (givenPath? s c) (Adopts c p) r := by
  cases c with
  | toPath register c =>
    rw [run_toPath c hp] at h
    exact runOnPath_stems h hr
  | divide a b => exact divide_stems hp h hr
  | _ => cases hp

/-! ## Section 4: Chains -/

/-- A path that comes from `p` by a chain of commands, each of which asks
    something of the path before and is given no path as an operand. A session
    that reads a path again finds shared dictionaries as they stand then. -/
inductive Derives (p : StorePath) : StorePath → Prop where
  | self : Derives p p
  | ask {s : Session} {c : Command} {res : Result} {q r : StorePath} :
    Derives p q → askedPath? s c = some q → givenPath? s c = none →
    ((run c).run s).1 = .ok res → r ∈ res.returned → Derives p r
  | reread {ds : Dictionaries} {q r : StorePath} :
    Derives p q → (Value.path q).current ds = .path r → Derives p r

/-- A command that is given no path answers in the file system of the path
    that it asks. -/
theorem fileSystem_of_givenNone {s : Session} {c : Command} {res : Result}
    (hp : askedPath? s c = some p) (hnone : givenPath? s c = none)
    (h : ((run c).run s).1 = .ok res) (hr : r ∈ res.returned) :
    r.fileSystem = p.fileSystem := by
  obtain ⟨-, hkeeps⟩ := run_stems hp h hr
  apply hkeeps
  rw [hnone]
  exact nofun

theorem fileSystem_of_reread {ds : Dictionaries} (h : (Value.path p).current ds = .path r) :
    r.fileSystem = p.fileSystem.current ds := by
  rw [Value.current_path] at h
  injection h with h
  rw [← h, Path.fileSystem_movedTo]

/-- At any time, a path at the end of a chain belongs to what the file system
    of the first path is then. -/
theorem Derives.current_fileSystem (h : Derives p r) (ds : Dictionaries) :
    r.fileSystem.current ds = p.fileSystem.current ds := by
  induction h with
  | self => rfl
  | ask _ hasked hnone hrun hr ih => rw [fileSystem_of_givenNone hasked hnone hrun hr, ih]
  | reread _ hread ih => rw [fileSystem_of_reread hread, Host.current_current, ih]

/-- **Provenance.** In every session, whatever a command asks of a path, each
    path in the answer belongs to the file system of the operand, if that is a
    path that the command adopts, and to the file system of the path that is
    asked otherwise. So a chain of commands that are given no paths stays in
    one file system: read in one session, the first path and the last belong
    to the same. -/
theorem file_system_provenance (p r : StorePath) :
    (∀ (s : Session) (c : Command) (res : Result), askedPath? s c = some p →
      ((run c).run s).1 = .ok res → r ∈ res.returned →
        (∀ q, givenPath? s c = some q → Adopts c p q → r.fileSystem = q.fileSystem) ∧
        ((∀ q, givenPath? s c = some q → ¬Adopts c p q) → r.fileSystem = p.fileSystem)) ∧
      (Derives p r → ∀ (ds : Dictionaries) (p' r' : StorePath),
        (Value.path p).current ds = .path p' → (Value.path r).current ds = .path r' →
          r'.fileSystem = p'.fileSystem) := by
  refine ⟨fun _ _ _ hp h hr => run_stems hp h hr, fun h ds p' r' hp' hr' => ?_⟩
  rw [fileSystem_of_reread hp', fileSystem_of_reread hr', h.current_fileSystem ds]

/-- A relative path without a parent and one with, each combined with a path of
    another file system, and an absolute text as an operand. -/
theorem file_system_provenance_adopted :
    let f : Host Value := .fileSystem ⟨.default, 0, []⟩
    let g : Host Value := .fileSystem ⟨.default, 1, []⟩
    let p : StorePath := ⟨⟨none, ["x"]⟩, f⟩
    let q : StorePath := ⟨⟨none, ["y"]⟩, g⟩
    let below : StorePath := ⟨⟨none, ["x", "y"]⟩, f⟩
    let key : StorePath := ⟨⟨some "b", ["k"]⟩, f⟩
    let s : Session := ⟨[("p", .path p), ("q", .path q)], .empty, 0, []⟩
    let sibling : Command := .toPath "p" (.resolveSibling (.register "q"))
    let child : Command := .divide (.register "p") (.register "q")
    let other : Command := .toPath "p" (.resolve (.text "/b/k"))
    (askedPath? s sibling = some p ∧ givenPath? s sibling = some q ∧ Adopts sibling p q ∧
        ((run sibling).run s).1 = .ok (pathResult q) ∧ q.fileSystem = g) ∧
      (askedPath? s child = some p ∧ givenPath? s child = some q ∧ ¬Adopts child p q ∧
        ((run child).run s).1 = .ok (pathResult below) ∧ below.fileSystem = p.fileSystem) ∧
      (givenPath? s other = none ∧ ((run other).run s).1 = .ok (pathResult key) ∧
        Derives p key ∧ key.fileSystem = p.fileSystem) := by
  intro f g p q below key s sibling child other
  have hadopted := (file_system_provenance p q).1 s sibling (pathResult q) rfl rfl
    List.mem_cons_self
  have hkept := (file_system_provenance p below).1 s child (pathResult below) rfl rfl
    List.mem_cons_self
  have hrelative : ¬Adopts child p q := by
    intro h
    cases h
  have hanswer : ((run other).run s).1 = .ok (pathResult key) := rfl
  have hchain : Derives p key := .ask .self rfl rfl hanswer List.mem_cons_self
  refine ⟨⟨rfl, rfl, .inl rfl, rfl, hadopted.1 q rfl (.inl rfl)⟩,
    ⟨rfl, rfl, hrelative, rfl, hkept.2 ?_⟩, rfl, hanswer, hchain,
    (file_system_provenance p key).2 hchain [] p key rfl rfl⟩
  rintro _ ⟨rfl⟩
  exact hrelative

end Session

end Keyspace
