import Keyspace.Proofs.Path.Operand
import Keyspace.Proofs.Session.Invariant

/-! # Paths that sessions reach

    A path is reachable when some command, given after some steps of a new
    session, answers with a value that contains it. Steps may fail, and their
    operands may be anything, results of earlier steps included.

    Every reachable path is well-formed. The invariant that carries this is
    that all values a session holds are well-formed, those in its registers,
    in its shared dictionaries and in its default file system: `eval_keeps`
    for operands, `run_keeps` for commands, `wellFormed_steps` for runs.
-/

namespace Keyspace.Session

/-! ## Section 1: The invariant -/

/-- A session is well-formed when all values that it holds are. -/
structure WellFormed (s : Session) : Prop where
  registers : Entries.WellFormed s.registers
  registry : s.registry.WellFormed
  dictionaries : s.dictionaries.WellFormed

theorem wellFormed_initial : initial.WellFormed := by
  refine ⟨Entries.wellFormed_nil, ?_, ?_⟩
  · intro f hf
    cases hf
  · intro d hd
    cases hd

theorem wellFormed_register? {s : Session} {name : String} {v : Value} (hs : s.WellFormed)
    (h : s.register? name = some v) : v.WellFormed := by
  obtain ⟨w, hw, rfl⟩ := Option.map_eq_some_iff.mp h
  exact Value.wellFormed_current hs.dictionaries (hs.registers _ (Entries.mem_of_get? hw))

theorem wellFormed_store {s : Session} {v : Value} (hs : s.WellFormed) (name : String)
    (hv : v.WellFormed) : (s.store name v).WellFormed := by
  refine ⟨?_, hs.registry, hs.dictionaries⟩
  intro e he
  rcases List.mem_cons.mp he with rfl | he
  · exact hv
  · exact hs.registers e (List.mem_filter.mp he).1

/-! ## Section 2: Parts of a step -/

theorem freshLabel_keeps : Keeps WellFormed freshLabel fun _ => True :=
  Keeps.bind Keeps.get fun _ hs =>
    Keeps.bind (Keeps.set ⟨hs.registers, hs.registry, hs.dictionaries⟩) fun _ _ =>
      Keeps.pure trivial

theorem share_keeps {entries : List (String × Value)} (h : Entries.WellFormed entries) :
    Keeps WellFormed (share entries) Value.WellFormed := by
  refine Keeps.bind freshLabel_keeps fun l _ => ?_
  refine Keeps.bind (Keeps.modify fun s hs => ?_) fun _ _ =>
    Keeps.pure (Value.wellFormed_dict.mpr h)
  refine ⟨hs.registers, hs.registry, ?_⟩
  exact List.forall_mem_cons.mpr ⟨h, hs.dictionaries⟩

theorem withRegistry_keeps {α : Type} {operation : Registry → Registry.Outcome α}
    {Q : α → Prop}
    (h : ∀ r : Registry, r.WellFormed →
      (operation r).2.WellFormed ∧ ∀ a, (operation r).1 = .ok a → Q a) :
    Keeps WellFormed (withRegistry operation) Q :=
  Keeps.withRegistry (fun s hs => ⟨hs.registers, (h s.registry hs.registry).1, hs.dictionaries⟩)
    fun s hs => (h s.registry hs.registry).2

theorem receiver_keeps {α : Type} (name : String) {select : Value → Option α} {Q : α → Prop}
    (h : ∀ v a, v.WellFormed → select v = some a → Q a) :
    Keeps WellFormed (receiver name select) Q := by
  refine Keeps.bind Keeps.get fun s hs => ?_
  cases hv : s.register? name with
  | none => exact Keeps.throw _
  | some v =>
    dsimp only
    cases ha : select v with
    | none => exact Keeps.throw _
    | some a => exact Keeps.pure (h v a (wellFormed_register? hs hv) ha)

theorem wellFormed_asPath {v : Value} {p : StorePath} (hv : v.WellFormed)
    (h : asPath v = some p) : (Value.path p).WellFormed := by
  unfold asPath at h
  split at h
  · obtain rfl := Option.some.inj h
    exact hv
  · cases h

theorem wellFormed_asFileSystem {v : Value} {f : Store} (hv : v.WellFormed)
    (h : asFileSystem v = some f) : f.config.WellFormed := by
  unfold asFileSystem at h
  split at h
  · obtain rfl := Option.some.inj h
    exact Value.wellFormed_fileSystem.mp hv
  · cases h

theorem wellFormed_asDict {v : Value} {d : Option Nat × List (String × Value)}
    (hv : v.WellFormed) (h : asDict v = some d) : Entries.WellFormed d.2 := by
  unfold asDict at h
  split at h
  · obtain rfl := Option.some.inj h
    exact Value.wellFormed_dict.mp hv
  · cases h

mutual

/-- Operands stand for well-formed values. -/
theorem eval_keeps : ∀ o : Operand, Keeps WellFormed (eval o) Value.WellFormed
  | .null => Keeps.pure Value.wellFormed_null
  | .bool b => Keeps.pure (Value.wellFormed_bool b)
  | .int i => Keeps.pure (Value.wellFormed_int i)
  | .float numeral => by
    unfold eval
    split
    · exact Keeps.bind freshLabel_keeps fun l _ => Keeps.pure (Value.wellFormed_float l _)
    · exact Keeps.throw _
  | .text s => Keeps.pure (Value.wellFormed_text s)
  | .list items => by
    refine Keeps.bind (evalItems_keeps items) fun vs hvs => ?_
    exact Keeps.bind freshLabel_keeps fun l _ => Keeps.pure (Value.wellFormed_list.mpr hvs)
  | .dict entries => by
    refine Keeps.bind (evalEntries_keeps entries) fun pairs hpairs => ?_
    exact share_keeps (Entries.wellFormed_ofList hpairs)
  | .register name => by
    refine Keeps.bind Keeps.get fun s hs => ?_
    split
    · next v hv => exact Keeps.pure (wellFormed_register? hs hv)
    · exact Keeps.throw _

theorem evalItems_keeps :
    ∀ os : List Operand, Keeps WellFormed (evalItems os) fun vs => ∀ v ∈ vs, v.WellFormed
  | [] => Keeps.pure (by simp)
  | o :: os => by
    refine Keeps.bind (eval_keeps o) fun v hv => ?_
    refine Keeps.bind (evalItems_keeps os) fun vs hvs => ?_
    exact Keeps.pure (List.forall_mem_cons.mpr ⟨hv, hvs⟩)

theorem evalEntries_keeps :
    ∀ es : List (String × Operand), Keeps WellFormed (evalEntries es) Entries.WellFormed
  | [] => Keeps.pure Entries.wellFormed_nil
  | (k, o) :: rest => by
    refine Keeps.bind (eval_keeps o) fun v hv => ?_
    refine Keeps.bind (evalEntries_keeps rest) fun vs hvs => ?_
    exact Keeps.pure (List.forall_mem_cons.mpr ⟨hv, hvs⟩)

end

theorem evalOption_keeps (o? : Option Operand) :
    Keeps WellFormed (evalOption o?) fun v? => ∀ v ∈ v?, v.WellFormed := by
  cases o? with
  | none => exact Keeps.pure (by simp)
  | some o =>
    refine Keeps.bind (eval_keeps o) fun v hv => Keeps.pure ?_
    rintro w ⟨rfl⟩
    exact hv

/-! ## Section 3: Commands -/

/-- A result is well-formed when the value that it holds is. -/
def Result.WellFormed (r : Result) : Prop := r.content.WellFormed

theorem reportResult_keeps {entries : List (String × Value)} (h : Entries.WellFormed entries) :
    Keeps WellFormed (reportResult entries) Result.WellFormed :=
  Keeps.bind (share_keeps h) fun _ hv => Keeps.pure hv

theorem listResult_keeps {items : List Value} (h : ∀ v ∈ items, v.WellFormed) :
    Keeps WellFormed (listResult items) Result.WellFormed :=
  Keeps.bind freshLabel_keeps fun _ _ => Keeps.pure (Value.wellFormed_list.mpr h)

/-- The path that an operation on values answers with. -/
theorem liftPath_keeps {x : Except Fault StorePath}
    (h : ∀ q, x = .ok q → (Value.path q).WellFormed) :
    Keeps WellFormed (do return pathResult (← lift x)) Result.WellFormed :=
  Keeps.bind (Keeps.lift h) fun _ hq => Keeps.pure hq

theorem wellFormed_pathResult? {q? : Option StorePath}
    (h : ∀ q, q? = some q → (Value.path q).WellFormed) : (pathResult? q?).WellFormed := by
  cases q? with
  | none => exact Value.wellFormed_null
  | some q => exact h q rfl

/-- The items that an operation on a list leaves, all of them from the list. -/
theorem remaining_keeps {items : List Value} {x : Except Misuse (List Value)}
    (hitems : ∀ v ∈ items, v.WellFormed) (h : ∀ out, x = .ok out → ∀ v ∈ out, v ∈ items) :
    Keeps WellFormed (do listResult (← liftMisuse x)) Result.WellFormed := by
  refine Keeps.bind (Keeps.liftMisuse fun out hout v hv => ?_) fun out hout => listResult_keeps hout
  exact hitems v (h out hout v hv)

/-- Whatever is asked of a path that is well-formed as a value, so is the
    result. -/
theorem runOnPath_keeps {p : StorePath} (hp : (Value.path p).WellFormed) (c : PathCommand) :
    Keeps WellFormed (runOnPath p c) Result.WellFormed := by
  obtain ⟨hwf, hbase⟩ := Value.wellFormed_path.mp hp
  cases c with
  | info => exact reportResult_keeps (Path.wellFormed_report p)
  | root =>
    exact Keeps.pure (wellFormed_pathResult? fun q hq =>
      Path.wellFormed_value (Path.wellFormed_root? hwf hq) (Path.fileSystem_root? hq) hp)
  | fileName =>
    exact Keeps.pure (wellFormed_pathResult? fun q hq =>
      Path.wellFormed_value (Path.wellFormed_fileName? hwf hq) (Path.fileSystem_fileName? hq) hp)
  | parent =>
    exact Keeps.pure (wellFormed_pathResult? fun q hq =>
      Path.wellFormed_value (Path.wellFormed_parent? hwf hq) (Path.fileSystem_parent? hq) hp)
  | fileSystem => exact Keeps.pure (Value.wellFormed_ofHost.mpr hbase)
  | normalize => exact Keeps.pure hp
  | absolute => exact liftPath_keeps fun q hq => Path.wellFormed_absolute hp hq
  | components =>
    refine listResult_keeps (List.forall_mem_map.mpr fun q hq => ?_)
    exact Path.wellFormed_value (Path.wellFormed_of_mem_components hwf hq)
      (Path.fileSystem_of_mem_components hq) hp
  | uri =>
    exact Keeps.bind (Keeps.lift fun _ _ => trivial) fun u _ => Keeps.pure (Value.wellFormed_text u)
  | location =>
    refine Keeps.bind freshLabel_keeps fun l _ => ?_
    refine Keeps.bind (Keeps.lift fun _ h => Path.wellFormed_location h) fun loc hloc => ?_
    exact Keeps.pure (Value.wellFormed_location.mpr hloc)
  | nameAt index =>
    exact Keeps.bind (eval_keeps index) fun i _ =>
      liftPath_keeps fun q hq => Path.wellFormed_nameAtAny hp hq
  | subpath first last =>
    exact Keeps.bind (eval_keeps first) fun b _ => Keeps.bind (eval_keeps last) fun e _ =>
      liftPath_keeps fun q hq => Path.wellFormed_subpathAny hp hq
  | resolve other =>
    exact Keeps.bind (eval_keeps other) fun v hv =>
      liftPath_keeps fun q hq => Path.wellFormed_resolveAny hp hv hq
  | resolveSibling other =>
    exact Keeps.bind (eval_keeps other) fun v hv =>
      liftPath_keeps fun q hq => Path.wellFormed_resolveSiblingAny hp hv hq
  | relativize other =>
    exact Keeps.bind (eval_keeps other) fun v hv =>
      liftPath_keeps fun q hq => Path.wellFormed_relativizeAny hp hv hq
  | endsWith other =>
    exact Keeps.bind (eval_keeps other) fun v _ =>
      Keeps.bind (Keeps.lift fun _ _ => trivial) fun b _ => Keeps.pure (Value.wellFormed_bool b)
  | compareTo other =>
    exact Keeps.bind (eval_keeps other) fun v _ =>
      Keeps.bind (Keeps.lift fun _ _ => trivial) fun o _ => Keeps.pure (Value.wellFormed_int _)
  | contains item =>
    exact Keeps.bind (eval_keeps item) fun v _ => Keeps.pure (Value.wellFormed_bool _)
  | startsWith other => exact Keeps.bind (eval_keeps other) fun _ _ => Keeps.throw _
  | realPath => exact Keeps.throw _
  | toFile => exact Keeps.throw _
  | watch watcher events =>
    exact Keeps.bind (eval_keeps watcher) fun _ _ =>
      Keeps.bind (evalItems_keeps events) fun _ _ => Keeps.throw _

theorem runOnFileSystem_keeps {f : Store} (hf : f.config.WellFormed) (c : FileSystemCommand) :
    Keeps WellFormed (runOnFileSystem f c) Result.WellFormed := by
  cases c with
  | info =>
    exact Keeps.bind (Keeps.liftMisuse fun _ h => FileSystem.wellFormed_report h) fun entries h =>
      reportResult_keeps h
  | getPath arguments =>
    exact Keeps.bind (evalItems_keeps arguments) fun vs _ =>
      liftPath_keeps fun p hp => FileSystem.wellFormed_getPath hf hp
  | pathFromParts bucket segments =>
    exact Keeps.bind (eval_keeps bucket) fun b _ =>
      Keeps.bind (evalItems_keeps segments) fun vs _ =>
        liftPath_keeps fun p hp => FileSystem.wellFormed_pathFromParts hf hp

theorem wellFormed_afterSetting {s : Session} {label : Option Nat}
    {entries : List (String × Value)} {v : Value} (hs : s.WellFormed)
    (hentries : Entries.WellFormed entries) (hv : v.WellFormed) (register key : String) :
    (s.afterSetting register label entries key v).WellFormed := by
  cases label with
  | none =>
    exact wellFormed_store hs register
      (Value.wellFormed_dict.mpr (Entries.wellFormed_insert key hentries hv))
  | some l =>
    exact ⟨hs.registers, hs.registry, Dictionaries.wellFormed_set hs.dictionaries hv l key⟩

/-- Whatever the command, a session that is well-formed stays so, and the
    result is well-formed. -/
theorem run_keeps (c : Command) : Keeps WellFormed (run c) Result.WellFormed := by
  cases c with
  | path text fileSystem =>
    refine Keeps.bind (eval_keeps text) fun t _ => Keeps.bind (eval_keeps fileSystem) fun f hf => ?_
    refine Keeps.bind (withRegistry_keeps fun r hr => ?_) fun p hp => Keeps.pure hp
    exact Registry.wellFormed_pathAt hr hf fun _ h => Address.wellFormed_parseAny h
  | pathFromParts bucket segments fileSystem =>
    refine Keeps.bind (eval_keeps bucket) fun b _ =>
      Keeps.bind (evalItems_keeps segments) fun vs _ =>
        Keeps.bind (eval_keeps fileSystem) fun f hf => ?_
    refine Keeps.bind (withRegistry_keeps fun r hr => ?_) fun p hp => Keeps.pure hp
    exact Registry.wellFormed_pathAt hr hf fun _ h => Address.wellFormed_ofNamesAny h
  | defaultFileSystem =>
    refine Keeps.bind (withRegistry_keeps fun r hr => ?_) fun f hf =>
      Keeps.pure (Value.wellFormed_fileSystem.mpr hf)
    obtain ⟨hf, hr'⟩ := Registry.wellFormed_default hr
    refine ⟨hr', fun f h => ?_⟩
    obtain rfl := Except.ok.inj h
    exact hf
  | newFileSystem config =>
    refine Keeps.bind (eval_keeps config) fun c hc => ?_
    exact Keeps.bind (withRegistry_keeps fun r hr => Registry.wellFormed_newFileSystem hr hc)
      fun f hf => Keeps.pure (Value.wellFormed_fileSystem.mpr hf)
  | config endpoint options =>
    refine Keeps.bind (evalOption_keeps endpoint) fun e he =>
      Keeps.bind (evalOption_keeps options) fun o ho => ?_
    have hendpoint : (e.getD (.text "")).WellFormed :=
      Value.wellFormed_getD he (Value.wellFormed_text "")
    have hoptions : (o.getD .emptyDict).WellFormed :=
      Value.wellFormed_getD ho (Value.wellFormed_dict.mpr Entries.wellFormed_nil)
    exact Keeps.bind freshLabel_keeps fun l _ =>
      Keeps.pure (Value.wellFormed_config.mpr ⟨hendpoint, hoptions⟩)
  | configFrom data =>
    refine Keeps.bind (eval_keeps data) fun v hv => ?_
    refine Keeps.bind (Keeps.liftMisuse fun _ h => Config.wellFormed_ofValue hv h) fun c hc => ?_
    exact Keeps.bind freshLabel_keeps fun l _ => Keeps.pure (Value.wellFormed_config.mpr hc)
  | location bucket key =>
    refine Keeps.bind (evalOption_keeps bucket) fun b hb =>
      Keeps.bind (evalOption_keeps key) fun k _ => ?_
    refine Keeps.bind (Keeps.liftMisuse fun _ h => Location.wellFormed_ofArguments hb h)
      fun l hl => ?_
    exact Keeps.bind freshLabel_keeps fun _ _ => Keeps.pure (Value.wellFormed_location.mpr hl)
  | makeError kind positional named =>
    refine Keeps.bind (evalItems_keeps positional) fun vs hvs =>
      Keeps.bind (eval_keeps named) fun v hv => ?_
    refine Keeps.bind (Keeps.liftMisuse fun e h =>
      PathError.wellFormed_build hvs (Value.wellFormed_entriesOrNone hv) h) fun e he => ?_
    exact Keeps.bind freshLabel_keeps fun l _ => Keeps.pure (he l)
  | value v => exact Keeps.bind (eval_keeps v) fun w hw => Keeps.pure hw
  | setEntry register key v =>
    refine Keeps.bind (receiver_keeps register fun w d hw hd => wellFormed_asDict hw hd)
      fun d hd => Keeps.bind (eval_keeps v) fun w hw => ?_
    refine Keeps.bind (Keeps.modify fun s hs => wellFormed_afterSetting hs hd hw register key)
      fun _ _ => Keeps.pure (Value.wellFormed_dict.mpr ?_)
    exact Entries.wellFormed_insert key hd hw
  | plain v =>
    exact Keeps.bind (eval_keeps v) fun w _ => Keeps.bind (Keeps.liftMisuse fun _ _ => trivial)
      fun t _ => Keeps.pure (Value.wellFormed_text t)
  | literal v =>
    exact Keeps.bind (eval_keeps v) fun w _ => Keeps.bind (Keeps.liftMisuse fun _ _ => trivial)
      fun t _ => Keeps.pure (Value.wellFormed_text t)
  | truth v => exact Keeps.bind (eval_keeps v) fun w _ => Keeps.pure (Value.wellFormed_bool _)
  | toFileSystem register command =>
    exact Keeps.bind (receiver_keeps register fun v f hv hf => wellFormed_asFileSystem hv hf)
      fun f hf => runOnFileSystem_keeps hf command
  | toPath register command =>
    exact Keeps.bind (receiver_keeps register fun v p hv hp => wellFormed_asPath hv hp)
      fun p hp => runOnPath_keeps hp command
  | setField register field v =>
    exact Keeps.bind (receiver_keeps register fun _ _ _ _ => trivial) fun m _ =>
      Keeps.bind (eval_keeps v) fun _ _ => Keeps.throw _
  | deleteField register field =>
    exact Keeps.bind (receiver_keeps register fun _ _ _ _ => trivial) fun m _ => Keeps.throw _
  | divide a b =>
    refine Keeps.bind (eval_keeps a) fun v hv => Keeps.bind (eval_keeps b) fun w hw => ?_
    -- the label is for a quotient that is a number
    refine Keeps.bind freshLabel_keeps fun l _ => ?_
    exact Keeps.bind (Keeps.lift fun _ h => Value.wellFormed_quotient hv hw h) fun q hq =>
      Keeps.pure hq
  | compare a b =>
    exact Keeps.bind (eval_keeps a) fun v _ => Keeps.bind (eval_keeps b) fun w _ =>
      reportResult_keeps (Value.wellFormed_comparisonReport v w)
  | hash v =>
    exact Keeps.bind (eval_keeps v) fun w _ =>
      Keeps.bind (Keeps.liftMisuse fun _ _ => trivial) fun _ _ =>
        Keeps.pure (Value.wellFormed_bool true)
  | sameHash a b =>
    -- the session is put back to what it was before the first operand
    refine Keeps.bind Keeps.get fun s hs => ?_
    refine Keeps.bind (eval_keeps a) fun v _ => Keeps.bind (Keeps.liftMisuse fun _ _ => trivial)
      fun h _ => Keeps.bind (Keeps.set hs) fun _ _ => ?_
    exact Keeps.bind (eval_keeps b) fun w _ => Keeps.bind (Keeps.liftMisuse fun _ _ => trivial)
      fun k _ => Keeps.pure (Value.wellFormed_bool _)
  | sort reverse items =>
    exact Keeps.bind (evalItems_keeps items) fun vs hvs =>
      remaining_keeps hvs fun out h v hv => (Collection.sort_perm_items h).mem_iff.mp hv
  | extreme e items =>
    refine Keeps.bind (evalItems_keeps items) fun vs hvs => ?_
    exact Keeps.bind (Keeps.liftMisuse fun v h => hvs v (Collection.extreme_mem h)) fun v hv =>
      Keeps.pure hv
  | distinct items =>
    exact Keeps.bind (evalItems_keeps items) fun vs hvs =>
      remaining_keeps hvs fun out h v hv => (Collection.distinctFrom_sublist h).subset hv

/-! ## Section 4: Runs -/

theorem Result.wellFormed_current {ds : Dictionaries} {r : Result} (h : ds.WellFormed)
    (hr : r.WellFormed) : (r.current ds).WellFormed := by
  cases r <;> exact Value.wellFormed_current h hr

theorem keep_keeps {v : Value} (target? : Option String) (hv : v.WellFormed) :
    Keeps WellFormed (keep target? v) fun _ => True := by
  unfold keep
  split
  · exact Keeps.modify fun s hs => wellFormed_store hs _ hv
  · exact Keeps.pure trivial

theorem runStep_keeps (st : Step) : Keeps WellFormed (runStep st) fun _ => True := by
  refine Keeps.bind (run_keeps st.command) fun r hr => Keeps.bind Keeps.get fun s hs => ?_
  -- what is kept is the result with the dictionaries as they are after the command
  refine Keeps.bind (Keeps.liftMisuse fun _ _ => trivial) fun told _ => ?_
  exact Keeps.bind (keep_keeps st.target? (Result.wellFormed_current hs.dictionaries hr))
    fun _ _ => Keeps.pure trivial

/-- After any steps of a new session, all values that it holds are
    well-formed. -/
theorem wellFormed_steps (sts : List Step) : (initial.steps sts).2.WellFormed :=
  steps_keep (fun s st hs => (runStep_keeps st s hs).1) wellFormed_initial sts

/-- The paths that a session meets: those in the values that it holds, those
    in the answer to a command, and those that texts stand for beside them. -/
inductive Meets (s : Session) : StorePath → Prop where
  | held {name : String} {v : Value} {p : StorePath} :
    (name, v) ∈ s.registers → p ∈ v.paths → Meets s p
  | shared {l : Option Nat} {entries : List (String × Value)} {key : String} {v : Value}
    {p : StorePath} :
    (l, entries) ∈ s.dictionaries → (key, v) ∈ entries → p ∈ v.paths → Meets s p
  | answered {c : Command} {r : Result} {p : StorePath} :
    ((run c).run s).1 = .ok r → p ∈ r.content.paths → Meets s p
  | operand {p q : StorePath} {t : String} :
    Meets s p → p.operand (.text t) = .ok q → Meets s q

/-- A path is reachable when a session meets it after some steps. -/
def Reachable (p : StorePath) : Prop := ∃ sts, (initial.steps sts).2.Meets p

theorem Meets.wellFormed {s : Session} {p : StorePath} (hs : s.WellFormed) (h : s.Meets p) :
    p.WellFormed := by
  induction h with
  | held hv hp => exact hs.registers _ hv _ hp
  | shared hd he hp => exact hs.dictionaries _ hd _ he _ hp
  | answered hr hp => exact (run_keeps _ s hs).2 _ hr _ hp
  | operand hp hq ih =>
    rcases Path.cases_of_operand hq with hpath | ⟨t, -, hparse⟩
    · cases hpath
    · exact Path.wellFormed_parse? hparse

/-- Every reachable path is well-formed. -/
theorem Reachable.wellFormed {p : StorePath} (h : Reachable p) : p.WellFormed := by
  obtain ⟨sts, hmeets⟩ := h
  exact hmeets.wellFormed (wellFormed_steps sts)

/-- The address that a text denotes is reached by parsing the text. -/
theorem reachable_of_parse? {text : String} {a : Address} (h : Address.parse? text = some a) :
    Reachable { a with fileSystem := .fileSystem (.ofHost 0 (.config .default)) } := by
  have hpath : Registry.empty.path (.text text) .null =
      (.ok { a with fileSystem := .fileSystem (.ofHost 0 (.config .default)) },
        Registry.empty.default.2) := by
    simp only [Registry.path, Address.parseAny, h]
    rfl
  -- the command that parses the text, as the first step of a session
  have hrun : ((run (.path (.text text) .null)).run initial).1 =
      .ok (pathResult { a with fileSystem := .fileSystem (.ofHost 0 (.config .default)) }) := by
    show (((withRegistry fun r => r.path (.text text) .null) >>=
      fun p => pure (pathResult p)).run initial).1 = _
    rw [run_bind, run_withRegistry hpath]
    rfl
  exact ⟨[], .answered hrun (Value.mem_paths_self _)⟩

/-- **The names of paths.** Whatever steps a session runs, the bucket of each
    path that it meets is none or a non-empty text without separators, and so
    is each segment. -/
theorem names_of_meets (sts : List Step) {p : StorePath} (h : (initial.steps sts).2.Meets p) :
    (p.bucket = none ∨ ∃ b, p.bucket = some b ∧ b ≠ "" ∧ '/' ∉ b.toList) ∧
      ∀ s ∈ p.segments, s ≠ "" ∧ '/' ∉ s.toList := by
  obtain ⟨hbucket, hsegments⟩ := h.wellFormed (wellFormed_steps sts)
  refine ⟨?_, fun s hs => Address.isName_iff.mp (hsegments s hs)⟩
  cases hb : p.bucket with
  | none => exact Or.inl rfl
  | some b => exact Or.inr ⟨b, rfl, Address.isName_iff.mp (hbucket b hb)⟩

/-- A parsed path, a text that names nothing, a resolved text and a parent. -/
theorem names_of_parent_met :
    let sts : List Step := [⟨.path (.text "/b//x/") .null, some "p"⟩,
      ⟨.path (.text "//") .null, some "p"⟩,
      ⟨.toPath "p" (.resolve (.text "y//z")), some "q"⟩]
    let p : StorePath := ⟨⟨some "b", ["x", "y"]⟩, .fileSystem ⟨.default, 0, []⟩⟩
    (initial.steps sts).2.Meets p ∧
      (p.bucket = none ∨ ∃ b, p.bucket = some b ∧ b ≠ "" ∧ '/' ∉ b.toList) ∧
      ∀ s ∈ p.segments, s ≠ "" ∧ '/' ∉ s.toList := by
  intro sts p
  have hmeets : (initial.steps sts).2.Meets p :=
    .answered (c := .toPath "q" .parent) (r := pathResult p) rfl (Value.mem_paths_self p)
  exact ⟨hmeets, names_of_meets sts hmeets⟩

end Keyspace.Session
