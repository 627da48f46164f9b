import Keyspace.Path.Combination

/-! # Well-formed paths stay well-formed

    A path is well-formed when its address is: its bucket and its segments are
    names. Deriving a path checks nothing, so each operation has to keep the
    property by the way it takes buckets and segments from the paths it is
    given. Here this is shown operation by operation.
-/

namespace Keyspace.Path

variable {F : Type} {p q r : Path F}

/-! ## Section 1: Derived paths -/

theorem wellFormed_derive_none {segments : List String}
    (h : ∀ s ∈ segments, Address.IsName s) : (p.derive none segments).WellFormed :=
  ⟨by simp [derive], h⟩

theorem wellFormed_derive {segments : List String} (hp : p.WellFormed)
    (h : ∀ s ∈ segments, Address.IsName s) : (p.derive p.bucket segments).WellFormed :=
  ⟨hp.1, h⟩

theorem wellFormed_parse? {f : F} {s : String} (h : parse? f s = some p) : p.WellFormed := by
  obtain ⟨a, ha, rfl⟩ := Option.map_eq_some_iff.mp h
  exact Address.wellFormed_of_parse? ha

/-! ## Section 2: Navigation -/

theorem wellFormed_root? (hp : p.WellFormed) (h : p.root? = some q) : q.WellFormed := by
  obtain ⟨b, hb, rfl⟩ := Option.map_eq_some_iff.mp h
  exact ⟨hb ▸ hp.1, by simp [derive]⟩

theorem wellFormed_fileName? (hp : p.WellFormed) (h : p.fileName? = some q) :
    q.WellFormed := by
  obtain ⟨s, hs, rfl⟩ := Option.map_eq_some_iff.mp h
  refine wellFormed_derive_none fun t ht => ?_
  rw [List.mem_singleton.mp ht]
  exact hp.2 s (List.mem_of_getLast? hs)

theorem wellFormed_parent? (hp : p.WellFormed) (h : p.parent? = some q) : q.WellFormed := by
  unfold parent? at h
  split at h
  · simp at h
  · split at h
    · simp at h
    · obtain rfl := Option.some.inj h
      exact wellFormed_derive hp fun s hs => hp.2 s (List.dropLast_subset _ hs)

theorem wellFormed_of_mem_components (hp : p.WellFormed) (h : q ∈ p.components) :
    q.WellFormed := by
  obtain ⟨s, hs, rfl⟩ := List.mem_map.mp h
  refine wellFormed_derive_none fun t ht => ?_
  rw [List.mem_singleton.mp ht]
  exact hp.2 s hs

theorem wellFormed_nameAt? {i : Int} (hp : p.WellFormed) (h : p.nameAt? i = some q) :
    q.WellFormed := by
  unfold nameAt? at h
  split at h
  · simp at h
  · obtain ⟨s, hs, rfl⟩ := Option.map_eq_some_iff.mp h
    refine wellFormed_derive_none fun t ht => ?_
    rw [List.mem_singleton.mp ht]
    exact hp.2 s (List.mem_of_getElem? hs)

theorem wellFormed_subpath? {i j : Int} (hp : p.WellFormed) (h : p.subpath? i j = some q) :
    q.WellFormed := by
  unfold subpath? at h
  split at h
  · simp at h
  · obtain rfl := Option.some.inj h
    exact wellFormed_derive_none fun s hs =>
      hp.2 s (List.mem_of_mem_take (List.mem_of_mem_drop hs))

theorem wellFormed_absolute? (hp : p.WellFormed) (h : p.absolute? = some q) :
    q.WellFormed := by
  unfold absolute? at h
  split at h
  · exact Option.some.inj h ▸ hp
  · simp at h

/-! ## Section 3: Combination -/

theorem wellFormed_resolve (hp : p.WellFormed) (hq : q.WellFormed) :
    (p.resolve q).WellFormed := by
  unfold resolve
  split
  · exact hq
  · split
    · exact hp
    · exact wellFormed_derive hp fun s hs =>
        (List.mem_append.mp hs).elim (hp.2 s) (hq.2 s)

theorem wellFormed_resolveSibling (hp : p.WellFormed) (hq : q.WellFormed) :
    (p.resolveSibling q).WellFormed := by
  unfold resolveSibling
  split
  · exact hq
  · next parent hparent =>
    split
    · exact hq
    · split
      · exact wellFormed_parent? hp hparent
      · exact wellFormed_derive hp fun s hs =>
          (List.mem_append.mp hs).elim (fun h => hp.2 s (List.dropLast_subset _ h)) (hq.2 s)

theorem afterCommon_subset (xs ys : List String) : afterCommon xs ys ⊆ ys := by
  fun_induction afterCommon xs ys with
  | case1 xs y ys ih => exact fun s hs => List.mem_cons_of_mem _ (ih hs)
  | case2 => exact List.Subset.refl _
  | case3 => exact List.Subset.refl _

theorem wellFormed_relativize (hq : q.WellFormed) (h : p.relativize q = .ok r) :
    r.WellFormed := by
  unfold relativize at h
  split at h
  · obtain rfl := Except.ok.inj h
    exact wellFormed_derive_none (by simp)
  · split at h
    · simp at h
    · split at h
      · simp at h
      · split at h
        · simp at h
        · obtain rfl := Except.ok.inj h
          exact wellFormed_derive_none fun s hs => hq.2 s (afterCommon_subset _ _ hs)

end Keyspace.Path
