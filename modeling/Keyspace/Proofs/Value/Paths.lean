import Keyspace.Value.Shared
import Keyspace.Path.WellFormed

/-! # The paths in a value

    A path may lie deep within a value: in a list, in a dictionary, in the
    endpoint of a configuration, and so in the file system of another path.
    `Value.paths` collects all paths in a value, and a value is well-formed
    when all of them are.

    `Value.induction` is the way through values: to prove something of all of
    them, prove it of each from the values directly within it.
-/

namespace Keyspace

/-! ## Section 1: Induction on values -/

/-- The contents of a detail. -/
def ErrorDetail.contents {V : Type} : ErrorDetail V → List V
  | indexOutOfRange i => [i]
  | incompatible o r => [o, r]
  | unsupported o => [o]
  | _ => []

/-- What holds of a value as soon as it holds of the values directly within
    it holds of every value. -/
theorem Value.induction {motive : Value → Prop} (null : motive .null)
    (bool : ∀ b, motive (.bool b)) (int : ∀ i, motive (.int i))
    (float : ∀ l x, motive (.float l x)) (text : ∀ s, motive (.text s))
    (enclosing : ∀ l, motive (.enclosing l))
    (list : ∀ l items, (∀ v ∈ items, motive v) → motive (.list l items))
    (pair : ∀ a b, motive a → motive b → motive (.pair a b))
    (dict : ∀ l entries, (∀ e ∈ entries, motive e.2) → motive (.dict l entries))
    (path : ∀ p, motive p.fileSystem.base.endpoint → motive p.fileSystem.base.options →
      motive (.path p))
    (fileSystem : ∀ f, motive f.config.endpoint → motive f.config.options →
      motive (.fileSystem f))
    (config : ∀ c, motive c.endpoint → motive c.options → motive (.config c))
    (location : ∀ label l, motive l.bucket → motive (.location label l))
    (error : ∀ label e, motive e.message → motive e.path → motive e.bucket →
      (∀ v ∈ e.detail.contents, motive v) → motive (.error label e)) :
    ∀ v, motive v :=
  -- one motive for each type that occurs within values
  @Value.rec motive (fun items => ∀ v ∈ items, motive v)
    (fun entries => ∀ e ∈ entries, motive e.2)
    (fun p => motive p.fileSystem.base.endpoint ∧ motive p.fileSystem.base.options)
    (fun f => motive f.config.endpoint ∧ motive f.config.options)
    (fun c => motive c.endpoint ∧ motive c.options) (fun l => motive l.bucket)
    (fun e => (motive e.message ∧ motive e.path ∧ motive e.bucket) ∧
      ∀ v ∈ e.detail.contents, motive v)
    (fun e => motive e.2) (fun h => motive h.base.endpoint ∧ motive h.base.options)
    (fun d => ∀ v ∈ d.contents, motive v)
    null bool int float text list pair dict enclosing
    (fun p h => path p h.1 h.2) (fun f h => fileSystem f h.1 h.2) (fun c h => config c h.1 h.2)
    location (fun label e h => error label e h.1.1 h.1.2.1 h.1.2.2 h.2)
    (by simp) (fun v rest hv hrest => List.forall_mem_cons.mpr ⟨hv, hrest⟩) (by simp)
    (fun e rest he hrest => List.forall_mem_cons.mpr ⟨he, hrest⟩)
    (fun _ _ h => h) (fun _ _ _ h => h) (fun _ _ _ he ho => ⟨he, ho⟩) (fun _ _ h => h)
    (fun _ _ _ _ hd hm hp hb => ⟨⟨hm, hp, hb⟩, hd⟩) (fun _ _ h => h) (fun _ h => h)
    (fun _ h => h) (by simp [ErrorDetail.contents]) (by simp [ErrorDetail.contents])
    (by simp [ErrorDetail.contents]) (by simp [ErrorDetail.contents])
    (by simp [ErrorDetail.contents]) (by simp +contextual [ErrorDetail.contents])
    (by simp [ErrorDetail.contents])

/-! ## Section 2: Paths -/

mutual

/-- The paths in a value. -/
@[simp] def Value.paths : Value → List StorePath
  | .list _ items => itemPaths items
  | .pair a b => a.paths ++ b.paths
  | .dict _ entries => entryPaths entries
  | .path ⟨a, .config ⟨e, o, l⟩⟩ => ⟨a, .config ⟨e, o, l⟩⟩ :: (e.paths ++ o.paths)
  | .path ⟨a, .fileSystem ⟨⟨e, o, l⟩, n, ls⟩⟩ =>
    ⟨a, .fileSystem ⟨⟨e, o, l⟩, n, ls⟩⟩ :: (e.paths ++ o.paths)
  | .fileSystem ⟨⟨e, o, _⟩, _, _⟩ => e.paths ++ o.paths
  | .config ⟨e, o, _⟩ => e.paths ++ o.paths
  | .location _ ⟨b, _⟩ => b.paths
  | .error _ ⟨d, m, p, b⟩ => m.paths ++ p.paths ++ b.paths ++ detailPaths d
  | _ => []

/-- The paths in the items of a list. -/
def Value.itemPaths : List Value → List StorePath
  | [] => []
  | v :: rest => v.paths ++ itemPaths rest

/-- The paths in the entries of a dictionary. -/
def Value.entryPaths : List (String × Value) → List StorePath
  | [] => []
  | (_, v) :: rest => v.paths ++ entryPaths rest

/-- The paths in the detail of an error. -/
def Value.detailPaths : ErrorDetail Value → List StorePath
  | .indexOutOfRange i => i.paths
  | .incompatible o r => o.paths ++ r.paths
  | .unsupported o => o.paths
  | _ => []

end

theorem Value.itemPaths_eq (items : List Value) : itemPaths items = items.flatMap paths := by
  induction items with
  | nil => rfl
  | cons v rest ih => rw [itemPaths, ih, List.flatMap_cons]

theorem Value.entryPaths_eq (entries : List (String × Value)) :
    entryPaths entries = entries.flatMap fun e => e.2.paths := by
  induction entries with
  | nil => rfl
  | cons e rest ih => rw [entryPaths, ih, List.flatMap_cons]

theorem Value.detailPaths_eq (d : ErrorDetail Value) :
    detailPaths d = d.contents.flatMap paths := by
  cases d <;> simp [detailPaths, ErrorDetail.contents]

theorem Value.mem_paths_self (p : StorePath) : p ∈ (path p).paths := by
  obtain ⟨a, ⟨e, o, l⟩ | ⟨⟨e, o, l⟩, n, ls⟩⟩ := p <;> exact List.mem_cons_self

/-! ## Section 3: Well-formed values -/

theorem Address.isName_iff {s : String} : IsName s ↔ s ≠ "" ∧ '/' ∉ s.toList := by
  rw [IsName, Text.IsName, ne_eq, String.toList_eq_nil_iff]
  exact Iff.rfl

/-- A value is well-formed when all paths in it are. -/
def Value.WellFormed (v : Value) : Prop := ∀ p ∈ v.paths, p.WellFormed

/-- A configuration is well-formed when its endpoint and its options are. -/
def Config.WellFormed (c : Config Value) : Prop := c.endpoint.WellFormed ∧ c.options.WellFormed

namespace Value

@[simp] theorem wellFormed_null : null.WellFormed := by simp [WellFormed]

@[simp] theorem wellFormed_bool (b : Bool) : (bool b).WellFormed := by simp [WellFormed]

@[simp] theorem wellFormed_int (i : Int) : (int i).WellFormed := by simp [WellFormed]

@[simp] theorem wellFormed_float (l : Nat) (x : Binary64) : (float l x).WellFormed := by
  simp [WellFormed]

@[simp] theorem wellFormed_text (s : String) : (text s).WellFormed := by
  simp [WellFormed]

@[simp] theorem wellFormed_enclosing (l : Nat) : (enclosing l).WellFormed := by
  simp [WellFormed]

@[simp] theorem wellFormed_list {l : Option Nat} {items : List Value} :
    (list l items).WellFormed ↔ ∀ v ∈ items, v.WellFormed := by
  simp only [WellFormed, paths, itemPaths_eq, List.mem_flatMap]
  exact ⟨fun h v hv p hp => h p ⟨v, hv, hp⟩, fun h p ⟨v, hv, hp⟩ => h v hv p hp⟩

@[simp] theorem wellFormed_pair {a b : Value} :
    (pair a b).WellFormed ↔ a.WellFormed ∧ b.WellFormed := by
  simp only [WellFormed, paths, List.forall_mem_append]

@[simp] theorem wellFormed_dict {l : Option Nat} {entries : List (String × Value)} :
    (dict l entries).WellFormed ↔ ∀ e ∈ entries, e.2.WellFormed := by
  simp only [WellFormed, paths, entryPaths_eq, List.mem_flatMap]
  exact ⟨fun h e he p hp => h p ⟨e, he, hp⟩, fun h p ⟨e, he, hp⟩ => h e he p hp⟩

@[simp] theorem wellFormed_path {p : StorePath} :
    (path p).WellFormed ↔ p.WellFormed ∧ p.fileSystem.base.WellFormed := by
  obtain ⟨a, ⟨e, o, l⟩ | ⟨⟨e, o, l⟩, n, ls⟩⟩ := p <;>
    simp only [WellFormed, Config.WellFormed, Host.base, paths, List.forall_mem_cons,
      List.forall_mem_append]

@[simp] theorem wellFormed_fileSystem {f : Store} :
    (fileSystem f).WellFormed ↔ f.config.WellFormed := by
  obtain ⟨⟨e, o, l⟩, n, ls⟩ := f
  simp only [WellFormed, Config.WellFormed, paths, List.forall_mem_append]

@[simp] theorem wellFormed_config {c : Config Value} :
    (config c).WellFormed ↔ c.WellFormed := by
  obtain ⟨e, o, l⟩ := c
  simp only [WellFormed, Config.WellFormed, paths, List.forall_mem_append]

@[simp] theorem wellFormed_location {label : Option Nat} {l : Location Value} :
    (location label l).WellFormed ↔ l.bucket.WellFormed := by
  obtain ⟨b, k⟩ := l
  simp only [WellFormed, paths]

@[simp] theorem wellFormed_error {label : Nat} {e : PathError Value} :
    (error label e).WellFormed ↔
      e.message.WellFormed ∧ e.path.WellFormed ∧ e.bucket.WellFormed ∧
        ∀ v ∈ e.detail.contents, v.WellFormed := by
  obtain ⟨d, m, p, b⟩ := e
  simp only [WellFormed, paths, detailPaths_eq, List.forall_mem_append, List.mem_flatMap, and_assoc]
  refine and_congr_right fun _ => and_congr_right fun _ => and_congr_right fun _ => ?_
  exact ⟨fun h v hv p hp => h p ⟨v, hv, hp⟩, fun h p ⟨v, hv, hp⟩ => h v hv p hp⟩

theorem wellFormed_ofHost {h : Host Value} : (ofHost h).WellFormed ↔ h.base.WellFormed := by
  cases h <;> simp [ofHost, Host.base]

/-- A host that a well-formed value is has a well-formed configuration. -/
theorem wellFormed_of_host? {v : Value} {h : Host Value} (hv : v.WellFormed)
    (hh : v.host? = some h) : h.base.WellFormed := by
  unfold host? at hh
  split at hh
  · obtain rfl := Option.some.inj hh
    exact wellFormed_config.mp hv
  · obtain rfl := Option.some.inj hh
    exact wellFormed_fileSystem.mp hv
  · simp at hh

end Value

theorem Config.wellFormed_default : Config.default.WellFormed := by
  simp [Config.WellFormed, Config.default, Value.emptyDict]

end Keyspace
