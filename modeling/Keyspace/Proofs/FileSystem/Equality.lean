import Keyspace.Proofs.Path.Detached
import Keyspace.Proofs.Value.Equality

/-! # Equal configurations and file systems

    A file system is equal to another one exactly if what they are made from is,
    so equality of both comes down to configurations, and these are compared by
    endpoint and options. As long as those are plain values, equality is an
    equivalence and goes with hashing (`equality_contract`), though the hash
    looks at the endpoint only.
-/

namespace Keyspace

/-! ## Section 1: Equal hosts -/

namespace Host

variable {g h k : Host Value}

/-- The number of file systems that are made one from the other, down to the
    configuration. -/
def height : Host Value → Nat
  | config _ => 0
  | fileSystem f => f.inner.length + 1

/-- Endpoint and options are plain. -/
def IsPlain (h : Host Value) : Prop := h.base.endpoint.IsPlain ∧ h.base.options.IsPlain

/-- Hosts that are equal: both configurations, or file systems with as many
    others in between, of equal endpoints and equal options. -/
def Equal (g h : Host Value) : Prop :=
  g.height = h.height ∧ g.base.endpoint.Equal h.base.endpoint ∧
    g.base.options.Equal h.base.options

theorem IsPlain.equal_refl (hh : h.IsPlain) : h.Equal h :=
  ⟨rfl, hh.1.equal_refl, hh.2.equal_refl⟩

theorem Equal.symm (hgh : g.Equal h) : h.Equal g :=
  ⟨hgh.1.symm, hgh.2.1.symm, hgh.2.2.symm⟩

theorem Equal.trans (hgh : g.Equal h) (hhk : h.Equal k) : g.Equal k :=
  ⟨hgh.1.trans hhk.1, hgh.2.1.trans hhk.2.1, hgh.2.2.trans hhk.2.2⟩

end Host

/-! ## Section 2: Comparing them -/

namespace Value

/-- How dictionaries within themselves are compared, if any are met. -/
def within (ds : Dictionaries) (v w : Value) : Except Misuse Bool :=
  alikeUpTo ds (unfoldingLimit - 1) (v.unfolded ds) (w.unfolded ds)

theorem alike_eq (v w : Value) :
    v.alike w = v.alikeWith (within (v.dictionaries ++ w.dictionaries)) w := by
  rw [alike, unfoldingLimit, alikeUpTo]
  rfl

theorem same_ofHost (g h : Host Value) :
    (ofHost g).same (ofHost h) = (ofHost g).alike (ofHost h) := by
  rw [same]
  cases g <;> rfl

/-- Hosts as far from their configurations are compared by content. -/
theorem alikeWith_ofHost (within : Value → Value → Except Misuse Bool) (g h : Host Value) :
    (ofHost g).alikeWith within (ofHost h) =
      if g.height = h.height then
        both (g.base.endpoint.alikeWith within h.base.endpoint)
          (g.base.options.alikeWith within h.base.options)
      else .ok false := by
  cases g with
  | config c => cases h <;> rfl
  | fileSystem f =>
    cases h with
    | config d => rfl
    | fileSystem g => simp [ofHost, alikeWith, Host.height, Host.base]

/-- Comparing hosts decides their equality. -/
theorem decides_same_ofHost {g h : Host Value} (hg : g.IsPlain) (hh : h.IsPlain) :
    Decides ((ofHost g).same (ofHost h)) (g.Equal h) := by
  rw [same_ofHost, alike_eq, alikeWith_ofHost]
  split
  · next hheight =>
    refine ((decides_alikeWith hg.1 hh.1).both (decides_alikeWith hg.2 hh.2)).congr ?_
    rw [Host.Equal, and_iff_right hheight]
  · next hheight => exact .no fun heq => hheight heq.1

/-- File systems are equal if what they are made from is. -/
theorem same_fileSystem_ofHost (l m : Nat) (g h : Host Value) :
    (fileSystem (.ofHost l g)).same (.fileSystem (.ofHost m h)) = (ofHost g).same (ofHost h) := by
  have hdictionaries (l : Nat) (h : Host Value) :
      (ofHost (.fileSystem (.ofHost l h))).dictionaries = (ofHost h).dictionaries := by
    cases h <;> rfl
  have hbase (l : Nat) (h : Host Value) : (Host.fileSystem (.ofHost l h)).base = h.base :=
    FileSystem.config_ofHost l h
  have hheight (l : Nat) (h : Host Value) :
      (Host.fileSystem (.ofHost l h)).height = h.height + 1 := by
    cases h <;> rfl
  show (ofHost (.fileSystem (.ofHost l g))).same (ofHost (.fileSystem (.ofHost m h))) = _
  rw [same_ofHost, same_ofHost, alike_eq, alike_eq, hdictionaries, hdictionaries,
    alikeWith_ofHost, alikeWith_ofHost, hbase, hbase, hheight, hheight]
  simp only [Nat.add_right_cancel_iff]

/-- A configuration, a file system and a path are never equal. -/
theorem same_of_kinds (c : Config Value) (f : Store) (p : StorePath) :
    (config c).same (.fileSystem f) = .ok false ∧ (fileSystem f).same (.config c) = .ok false ∧
      (config c).same (.path p) = .ok false ∧ (path p).same (.config c) = .ok false ∧
      (fileSystem f).same (.path p) = .ok false ∧ (path p).same (.fileSystem f) = .ok false := by
  have hheight : (Host.config c).height ≠ (Host.fileSystem f).height := nofun
  refine ⟨?_, ?_, same_of_path _ p, same_path p _, same_of_path _ p, same_path p _⟩
  · show (ofHost (.config c)).same (ofHost (.fileSystem f)) = _
    rw [same_ofHost, alike_eq, alikeWith_ofHost, if_neg hheight]
  · show (ofHost (.fileSystem f)).same (ofHost (.config c)) = _
    rw [same_ofHost, alike_eq, alikeWith_ofHost, if_neg hheight.symm]

/-! ## Section 3: Hashes -/

/-- A list or a dictionary. -/
def IsCollection (v : Value) : Prop :=
  (∃ l items, v = .list l items) ∨ ∃ l entries, v = .dict l entries

/-- Of the plain values only lists and dictionaries have no hash. -/
theorem IsPlain.hashKey_cases {v : Value} (hv : v.IsPlain) :
    (¬v.IsCollection ∧ ∃ key, v.hashKey = .ok key) ∨
      (v.IsCollection ∧ ∃ t, v.hashKey = .error (.unhashable t)) := by
  have hscalar (hlist : ∀ l items, v ≠ .list l items) (hdict : ∀ l entries, v ≠ .dict l entries) :
      ¬v.IsCollection := by
    rintro (⟨l, items, rfl⟩ | ⟨l, entries, rfl⟩)
    · exact hlist l items rfl
    · exact hdict l entries rfl
  cases hv with
  | list _ => exact .inr ⟨.inl ⟨_, _, rfl⟩, _, rfl⟩
  | dict _ _ => exact .inr ⟨.inr ⟨_, _, rfl⟩, _, rfl⟩
  | _ => exact .inl ⟨hscalar nofun nofun, _, rfl⟩

/-- A file system that is made from a configuration has the hash of the
    endpoint. -/
theorem hashKey_fileSystem (label : Nat) (c : Config Value) :
    (fileSystem (.ofHost label (.config c))).hashKey = c.endpoint.hashKey := rfl

theorem hashKey_ofHost {g h : Host Value} (hgh : g.Equal h) :
    (ofHost g).hashKey = (ofHost h).hashKey := by
  obtain ⟨hheight, hendpoint, hoptions⟩ := hgh
  cases g with
  | config c =>
    cases h with
    | config d =>
      have he : c.endpoint.hashKey = d.endpoint.hashKey := hendpoint.hashKey_eq
      have ho : c.options.hashKey = d.options.hashKey := hoptions.hashKey_eq
      show c.endpoint.hashKey.bind _ = d.endpoint.hashKey.bind _
      rw [he, ho]
    | fileSystem f => cases hheight
  | fileSystem f =>
    cases h with
    | config d => cases hheight
    | fileSystem f' =>
      obtain ⟨c, l, ls⟩ := f
      obtain ⟨d, m, ms⟩ := f'
      have hlength : ls.length = ms.length := Nat.succ.inj hheight
      cases ls with
      | nil =>
        obtain rfl := List.length_eq_zero_iff.mp hlength.symm
        exact hendpoint.hashKey_eq
      | cons l' ls =>
        obtain ⟨m', ms, rfl⟩ := List.exists_cons_of_length_eq_add_one hlength.symm
        rfl

end Value

/-! ## Section 4: The contract -/

namespace Host

open Value (ofHost)

/-- **Equality and hashing.** Between configurations and file systems whose
    endpoint and options are plain, equality is decided without fail, and it is
    an equivalence: it holds if both are configurations, or both file systems
    with as many others in between, and endpoints and options are equal as plain
    values are. Equal ones have the same hash, or none for the same reason; a
    file system that is made from a configuration has none exactly if the
    endpoint is a list or a dictionary.

    Whatever they hold, file systems are equal exactly if what they are made
    from is, and a configuration, a file system and a path are never equal. -/
theorem equality_contract {g h k : Host Value} (hg : g.IsPlain) (hh : h.IsPlain)
    (hk : k.IsPlain) :
    ((ofHost g).same (ofHost h) = .ok true ↔ g.Equal h) ∧
      (ofHost g).same (ofHost g) = .ok true ∧
      (∃ b, (ofHost g).same (ofHost h) = .ok b ∧ (ofHost h).same (ofHost g) = .ok b) ∧
      ((ofHost g).same (ofHost h) = .ok true → (ofHost h).same (ofHost k) = .ok true →
        (ofHost g).same (ofHost k) = .ok true) ∧
      ((ofHost g).same (ofHost h) = .ok true → (ofHost g).hashKey = (ofHost h).hashKey) ∧
      (∀ label c, g = .config c →
        (¬c.endpoint.IsCollection ∧
            ∃ key, (Value.fileSystem (.ofHost label g)).hashKey = .ok key) ∨
          (c.endpoint.IsCollection ∧
            ∃ t, (Value.fileSystem (.ofHost label g)).hashKey = .error (.unhashable t))) ∧
      (∀ f f' : Store, (Value.fileSystem f).same (.fileSystem f') =
        (ofHost f.host).same (ofHost f'.host)) ∧
      ∀ (c : Config Value) (f : Store) (p : StorePath),
        (Value.config c).same (.fileSystem f) = .ok false ∧
          (Value.fileSystem f).same (.config c) = .ok false ∧
          (Value.config c).same (.path p) = .ok false ∧
          (Value.path p).same (.config c) = .ok false ∧
          (Value.fileSystem f).same (.path p) = .ok false ∧
          (Value.path p).same (.fileSystem f) = .ok false := by
  have hiff {g h : Host Value} (hg : g.IsPlain) (hh : h.IsPlain) :
      (ofHost g).same (ofHost h) = .ok true ↔ g.Equal h :=
    (Value.decides_same_ofHost hg hh).eq_ok_true_iff
  refine ⟨hiff hg hh, (hiff hg hg).mpr hg.equal_refl, ?_, fun hgh hhk => ?_, fun hgh => ?_,
    ?_, fun f f' => ?_, Value.same_of_kinds⟩
  · have hback := (Value.decides_same_ofHost hh hg).congr ⟨Host.Equal.symm, Host.Equal.symm⟩
    have hsymm := (Value.decides_same_ofHost hg hh).unique hback
    obtain ⟨b, hb, -⟩ := Value.decides_same_ofHost hg hh
    exact ⟨b, hb, hsymm ▸ hb⟩
  · exact (hiff hg hk).mpr (((hiff hg hh).mp hgh).trans ((hiff hh hk).mp hhk))
  · exact Value.hashKey_ofHost ((hiff hg hh).mp hgh)
  · rintro label c rfl
    rw [Value.hashKey_fileSystem]
    exact hg.1.hashKey_cases
  · rw [← Value.same_fileSystem_ofHost f.label f'.label, FileSystem.ofHost_host,
      FileSystem.ofHost_host]

/-- Endpoints that differ by the order of keys and by truth values in place of
    numbers, with equal options and with others; the file systems made from them
    have no hash. -/
theorem equality_contract_reordered :
    let e : Value := .list none [.bool true, .dict none [("a", .int 0), ("b", .null)]]
    let e' : Value := .list none [.int 1, .dict none [("b", .null), ("a", .bool false)]]
    let g : Host Value := .config ⟨e, .emptyDict, none⟩
    let h : Host Value := .config ⟨e', .emptyDict, none⟩
    let k : Host Value := .config ⟨e', .null, none⟩
    g.IsPlain ∧ h.IsPlain ∧ k.IsPlain ∧ (ofHost g).same (ofHost h) = .ok true ∧
      (ofHost h).same (ofHost k) = .ok false ∧ (ofHost g).hashKey = (ofHost h).hashKey ∧
      (∃ t, (Value.fileSystem (.ofHost 0 g)).hashKey = .error (.unhashable t)) := by
  intro e e' g h k
  have hg : g.IsPlain := by simp [IsPlain, base, g, e, Value.emptyDict]
  have hh : h.IsPlain := by simp [IsPlain, base, h, e', Value.emptyDict]
  have hk : k.IsPlain := by simp [IsPlain, base, k, e']
  have hsame : (ofHost g).same (ofHost h) = .ok true := rfl
  obtain ⟨-, -, -, -, hhash, hendpoint, -⟩ := equality_contract hg hh hk
  refine ⟨hg, hh, hk, hsame, rfl, hhash hsame, ?_⟩
  rcases hendpoint 0 _ rfl with ⟨hscalar, -⟩ | ⟨-, hnone⟩
  · exact absurd (.inl ⟨_, _, rfl⟩) hscalar
  · exact hnone

end Host

end Keyspace
