import Keyspace.Report
import Keyspace.Registry
import Keyspace.Value.Quotient
import Keyspace.Proofs.Path.FileSystem
import Keyspace.Proofs.Value.WellFormed

/-! # Well-formed paths from any values

    Whatever values an operation on paths or file systems is given, the path
    that it answers with is well-formed, and so is the configuration beneath
    its file system, if those of its operands are. A path gets its names by
    parsing, from explicit names or from other paths, and its file system is
    the one that it is made in or that of an operand.

    The default file system of a registry is made from the default
    configuration, in which there are no paths.
-/

namespace Keyspace

/-! ## Section 1: Addresses and file systems -/

namespace Address

theorem wellFormed_parseAny {v : Value} {a : Address} (h : parseAny v = .ok a) :
    a.WellFormed := by
  unfold parseAny at h
  split at h
  · split at h
    · next ha =>
      obtain rfl := Except.ok.inj h
      exact wellFormed_of_parse? ha
    · simp at h
  · simp at h

theorem wellFormed_ofNamesAny {bucket : Value} {segments : List Value} {a : Address}
    (h : ofNamesAny bucket segments = .ok a) : a.WellFormed := by
  obtain ⟨b, -, h⟩ := bind_eq_ok.mp h
  split at h
  · simp at h
  · obtain ⟨names, -, h⟩ := bind_eq_ok.mp h
    split at h
    · next ha =>
      obtain rfl := Except.ok.inj h
      exact wellFormed_of_ofNames? ha
    · simp at h

end Address

namespace FileSystem

theorem wellFormed_getPath {f : Store} {arguments : List Value} {p : StorePath}
    (hf : f.config.WellFormed) (h : f.getPath arguments = .ok p) :
    (Value.path p).WellFormed := by
  unfold getPath at h
  split at h
  · simp at h
  · obtain ⟨texts, -, h⟩ := bind_eq_ok.mp h
    obtain ⟨a, ha, rfl⟩ := map_eq_ok.mp h
    exact Value.wellFormed_path.mpr ⟨Address.wellFormed_parseAny ha, hf⟩

theorem wellFormed_pathFromParts {f : Store} {bucket : Value} {segments : List Value}
    {p : StorePath} (hf : f.config.WellFormed) (h : f.pathFromParts bucket segments = .ok p) :
    (Value.path p).WellFormed := by
  obtain ⟨a, ha, rfl⟩ := map_eq_ok.mp h
  exact Value.wellFormed_path.mpr ⟨Address.wellFormed_ofNamesAny ha, hf⟩

theorem wellFormed_report {f : Store} {entries : List (String × Value)}
    (h : f.report = .ok entries) : Entries.WellFormed entries := by
  obtain ⟨uri, -, h⟩ := bind_eq_ok.mp h
  obtain ⟨literal, -, h⟩ := bind_eq_ok.mp h
  obtain ⟨config, hconfig, rfl⟩ := map_eq_ok.mp h
  simp [Entries.WellFormed, Value.wellFormed_told hconfig]

end FileSystem

/-! ## Section 2: Operations on a path -/

namespace Path

variable {p q : StorePath}

/-- A path is well-formed as a value if its names are well-formed and it
    belongs to the file system of a path that is well-formed as a value. -/
theorem wellFormed_value {r : StorePath} (hr : r.WellFormed)
    (hfs : r.fileSystem = p.fileSystem) (hp : (Value.path p).WellFormed) :
    (Value.path r).WellFormed := by
  rw [Value.wellFormed_path] at hp ⊢
  rw [hfs]
  exact ⟨hr, hp.2⟩

/-- A text stands for the path that it makes in the file system of the path
    beside it. -/
theorem operand_of_parse? {t : String} {a : Address} (h : Address.parse? t = some a)
    (p : StorePath) : p.operand (.text t) = .ok { a with fileSystem := p.fileSystem } := by
  simp only [operand, Path.parse?, h, Option.map_some]

/-- What stands for a path is the path itself, or a text that makes it. -/
theorem cases_of_operand {v : Value} (h : p.operand v = .ok q) :
    v = .path q ∨ ∃ t, v = .text t ∧ Path.parse? p.fileSystem t = some q := by
  unfold operand at h
  split at h
  · obtain rfl := Except.ok.inj h
    exact .inl rfl
  · next t =>
    split at h
    · next hparse =>
      obtain rfl := Except.ok.inj h
      exact .inr ⟨t, rfl, hparse⟩
    · cases h
  · cases h

theorem wellFormed_operand {v : Value} (hp : (Value.path p).WellFormed) (hv : v.WellFormed)
    (h : p.operand v = .ok q) : (Value.path q).WellFormed := by
  rcases cases_of_operand h with rfl | ⟨t, rfl, hparse⟩
  · exact hv
  · exact wellFormed_value (wellFormed_parse? hparse) (fileSystem_parse? hparse) hp

theorem wellFormed_value_resolve (hp : (Value.path p).WellFormed)
    (hq : (Value.path q).WellFormed) : (Value.path (p.resolve q)).WellFormed := by
  have hwf := wellFormed_resolve (Value.wellFormed_path.mp hp).1 (Value.wellFormed_path.mp hq).1
  have hfs := fileSystem_resolve p q
  split at hfs
  · exact wellFormed_value hwf hfs hq
  · exact wellFormed_value hwf hfs hp

theorem wellFormed_value_resolveSibling (hp : (Value.path p).WellFormed)
    (hq : (Value.path q).WellFormed) : (Value.path (p.resolveSibling q)).WellFormed := by
  have hwf := wellFormed_resolveSibling (Value.wellFormed_path.mp hp).1
    (Value.wellFormed_path.mp hq).1
  have hfs := fileSystem_resolveSibling p q
  split at hfs
  · exact wellFormed_value hwf hfs hq
  · exact wellFormed_value hwf hfs hp

theorem wellFormed_resolveAny {v : Value} (hp : (Value.path p).WellFormed) (hv : v.WellFormed)
    (h : p.resolveAny v = .ok q) : (Value.path q).WellFormed := by
  obtain ⟨o, ho, rfl⟩ := map_eq_ok.mp h
  exact wellFormed_value_resolve hp (wellFormed_operand hp hv ho)

theorem wellFormed_resolveSiblingAny {v : Value} (hp : (Value.path p).WellFormed)
    (hv : v.WellFormed) (h : p.resolveSiblingAny v = .ok q) : (Value.path q).WellFormed := by
  obtain ⟨o, ho, rfl⟩ := map_eq_ok.mp h
  exact wellFormed_value_resolveSibling hp (wellFormed_operand hp hv ho)

theorem wellFormed_relativizeAny {v : Value} (hp : (Value.path p).WellFormed)
    (hv : v.WellFormed) (h : p.relativizeAny v = .ok q) : (Value.path q).WellFormed := by
  obtain ⟨o, ho, h⟩ := bind_eq_ok.mp h
  have hwf := wellFormed_operand hp hv ho
  split at h
  · next hr =>
    obtain rfl := Except.ok.inj h
    exact wellFormed_value (wellFormed_relativize (Value.wellFormed_path.mp hwf).1 hr)
      (fileSystem_relativize hr) hp
  · simp at h

/-- Only an integer in range is an index. -/
theorem nameAt?_of_nameAtAny {v : Value} (h : p.nameAtAny v = .ok q) :
    ∃ i, p.nameAt? i = some q := by
  unfold nameAtAny at h
  dsimp only at h
  split at h
  · split at h
    · next hq =>
      obtain rfl := Except.ok.inj h
      exact ⟨_, hq⟩
    · cases h
  · -- a value that is no integer is no index
    split at h
    · cases h
    · split at h <;> cases h

/-- Only two integers in range are bounds. -/
theorem subpath?_of_subpathAny {v w : Value} (h : p.subpathAny v w = .ok q) :
    ∃ i j, p.subpath? i j = some q := by
  unfold subpathAny at h
  dsimp only at h
  split at h
  · split at h
    · next hq =>
      obtain rfl := Except.ok.inj h
      exact ⟨_, _, hq⟩
    · cases h
  · split at h
    · cases h
    · split at h
      · cases h
      · split at h
        · cases h
        · split at h <;> cases h

theorem absolute?_of_absolute (h : p.absolute = .ok q) : p.absolute? = some q := by
  unfold absolute at h
  split at h
  · next hq =>
    obtain rfl := Except.ok.inj h
    exact hq
  · cases h

theorem wellFormed_nameAtAny {v : Value} (hp : (Value.path p).WellFormed)
    (h : p.nameAtAny v = .ok q) : (Value.path q).WellFormed := by
  obtain ⟨i, hq⟩ := nameAt?_of_nameAtAny h
  exact wellFormed_value (wellFormed_nameAt? (Value.wellFormed_path.mp hp).1 hq)
    (fileSystem_nameAt? hq) hp

theorem wellFormed_subpathAny {v w : Value} (hp : (Value.path p).WellFormed)
    (h : p.subpathAny v w = .ok q) : (Value.path q).WellFormed := by
  obtain ⟨i, j, hq⟩ := subpath?_of_subpathAny h
  exact wellFormed_value (wellFormed_subpath? (Value.wellFormed_path.mp hp).1 hq)
    (fileSystem_subpath? hq) hp

theorem wellFormed_absolute (hp : (Value.path p).WellFormed) (h : p.absolute = .ok q) :
    (Value.path q).WellFormed := by
  have hq := absolute?_of_absolute h
  exact wellFormed_value (wellFormed_absolute? (Value.wellFormed_path.mp hp).1 hq)
    (fileSystem_absolute? hq) hp

theorem wellFormed_location {l : Location Value} (h : p.location = .ok l) :
    l.bucket.WellFormed := by
  unfold location at h
  split at h
  · obtain rfl := Except.ok.inj h
    exact Value.wellFormed_text _
  · simp at h

theorem wellFormed_report (p : StorePath) : Entries.WellFormed p.report := by
  simp [report, Entries.WellFormed, Value.wellFormed_texts, Value.wellFormed_ofText?]

end Path

namespace Value

theorem wellFormed_quotient {label : Nat} {v w q : Value} (hv : v.WellFormed)
    (hw : w.WellFormed) (h : v.quotient label w = .ok q) : q.WellFormed := by
  unfold quotient at h
  split at h
  · obtain rfl := Except.ok.inj h
    exact Path.wellFormed_value_resolve hv hw
  · obtain ⟨r, hr, rfl⟩ := map_eq_ok.mp h
    exact Path.wellFormed_resolveAny hv hw hr
  · split at h
    · obtain ⟨x, -, rfl⟩ := map_eq_ok.mp h
      exact wellFormed_float _ _
    · simp at h

theorem wellFormed_described (m : Misuse) : Entries.WellFormed m.described := by
  simp [Misuse.described, Entries.WellFormed]

theorem wellFormed_comparisonReport (v w : Value) :
    Entries.WellFormed (v.comparisonReport w) := by
  have hanswer (answer : Except Misuse Bool) : (answerReport answer).WellFormed := by
    cases answer with
    | ok b => exact wellFormed_bool b
    | error m => exact wellFormed_record.mpr (wellFormed_described m)
  simp [comparisonReport, Entries.WellFormed, hanswer]

end Value

/-! ## Section 3: Registries -/

/-- A registry is well-formed when its default file system is. -/
def Registry.WellFormed (r : Registry) : Prop := ∀ f ∈ r.default?, f.config.WellFormed

namespace Registry

variable {r : Registry}

theorem wellFormed_default (hr : r.WellFormed) :
    r.default.1.config.WellFormed ∧ r.default.2.WellFormed := by
  unfold default
  split
  · next f hf => exact ⟨hr f hf, hr⟩
  · refine ⟨Config.wellFormed_default, ?_⟩
    rintro f ⟨rfl⟩
    exact Config.wellFormed_default

theorem wellFormed_hostFor {v : Value} (hr : r.WellFormed) (hv : v.WellFormed) :
    (r.hostFor v).2.WellFormed ∧ ∀ h, (r.hostFor v).1 = .ok h → h.base.WellFormed := by
  unfold hostFor hostOf?
  cases hhost : v.host? with
  | some h =>
    refine ⟨hr, fun k hk => ?_⟩
    obtain rfl := Except.ok.inj hk
    exact Value.wellFormed_of_host? hv hhost
  | none =>
    cases v.truthy with
    | true => exact ⟨hr, by simp⟩
    | false =>
      obtain ⟨hf, hr'⟩ := wellFormed_default hr
      refine ⟨hr', fun k hk => ?_⟩
      obtain rfl := Except.ok.inj hk
      exact hf

theorem wellFormed_pathAt {a : Except Fault Address} {v : Value} (hr : r.WellFormed)
    (hv : v.WellFormed) (ha : ∀ b, a = .ok b → b.WellFormed) :
    (r.pathAt a v).2.WellFormed ∧
      ∀ p, (r.pathAt a v).1 = .ok p → (Value.path p).WellFormed := by
  cases a with
  | error e => exact ⟨hr, by simp [pathAt]⟩
  | ok a =>
    obtain ⟨hr', hhost⟩ := wellFormed_hostFor hr hv
    unfold pathAt
    dsimp only
    split
    · next heq => exact ⟨by rw [heq] at hr'; exact hr', by simp⟩
    · next h r' heq =>
      rw [heq] at hr' hhost
      refine ⟨hr', fun p hp => ?_⟩
      obtain rfl := Except.ok.inj hp
      exact Value.wellFormed_path.mpr ⟨ha a rfl, hhost h rfl⟩

theorem wellFormed_newFileSystem {v : Value} (hr : r.WellFormed) (hv : v.WellFormed) :
    (r.newFileSystem v).2.WellFormed ∧
      ∀ f, (r.newFileSystem v).1 = .ok f → f.config.WellFormed := by
  rcases r.newFileSystem_cases v with ⟨m, h⟩ | ⟨h, uri, hgiven, -, h'⟩
  · rw [h]
    exact ⟨hr, by simp⟩
  · rw [h']
    refine ⟨hr, fun f hf => ?_⟩
    obtain rfl := Except.ok.inj hf
    rw [make, FileSystem.config_ofHost]
    rcases hgiven with hv' | rfl
    · exact Value.wellFormed_of_host? hv hv'
    · exact Config.wellFormed_default

end Registry

end Keyspace
