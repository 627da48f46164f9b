import Keyspace.Proofs.Path.Ranges
import Keyspace.Proofs.Session.Endings

/-! # The components of a path

    A path is a sequence of components, each a relative path of one segment.
    There are other ways to look at a segment: by its index, as a range, as the
    end of a range that begins with the first segment, and by asking whether the
    path contains it. All of them see the same segments.

    * The component at an index is what the path has at that index
      (`getElem?_components`).
    * Resolving extends a path by one component after the other, so that all of
      them, put behind the root or an empty path, make the path again
      (`resolveAll_names`).
    * A path contains nothing but its components (`hasComponent_iff`), and a
      name is one of them if some range from the start ends with it
      (`exists_front_iff`).
-/

namespace Keyspace.Path

section

variable {F : Type} {p q : Path F} {s : String}

/-! ## Section 1: Components by index -/

theorem length_components (p : Path F) : p.components.length = p.nameCount := List.length_map _

theorem getElem?_components (p : Path F) (i : Nat) : p.components[i]? = p.nameAt? i := by
  rw [components, List.getElem?_map, nameAt?, if_neg (Int.not_lt.mpr (Int.natCast_nonneg i)),
    Int.toNat_natCast]

/-! ## Section 2: Containment -/

/-- What is contained is a segment on its own. -/
theorem hasComponent_iff :
    p.hasComponent q = true ↔ q.isAbsolute = false ∧ ∃ s ∈ p.segments, q.segments = [s] := by
  rw [hasComponent, List.any_eq_true, Address.isAbsolute_eq_false_iff]
  constructor
  · rintro ⟨c, hc, hsame⟩
    obtain ⟨s, hs, rfl⟩ := List.mem_map.mp hc
    obtain ⟨hbucket, hsegments⟩ := Address.eq_iff.mp (beq_iff.mp hsame)
    exact ⟨hbucket.symm, s, hs, hsegments.symm⟩
  · rintro ⟨hbucket, s, hs, hsegments⟩
    refine ⟨p.derive none [s], List.mem_map_of_mem hs, beq_iff.mpr ?_⟩
    exact Address.eq_iff.mpr ⟨hbucket.symm, hsegments.symm⟩

theorem segments_between_zero (p : Path F) (j : Int) :
    (p.between 0 j).segments = p.segments.take j.toNat := rfl

/-- A segment is the last one of the range that goes up to it. -/
theorem singleton_suffix_iff :
    (∃ i : Int, AreBounds p.nameCount 0 (i + 1) ∧ [s] <:+ (p.between 0 (i + 1)).segments) ↔
      s ∈ p.segments := by
  constructor
  · rintro ⟨i, -, hsuffix⟩
    rw [segments_between_zero] at hsuffix
    exact List.mem_of_mem_take (hsuffix.subset List.mem_cons_self)
  · intro hs
    obtain ⟨m, hm⟩ := List.getElem?_of_mem hs
    obtain ⟨hlt, -⟩ := List.getElem?_eq_some_iff.mp hm
    have hcount : p.nameCount = p.segments.length := rfl
    have hnext : ((m : Int) + 1).toNat = m + 1 := by omega
    refine ⟨m, ⟨Int.le_refl 0, by omega, by omega⟩, p.segments.take m, ?_⟩
    rw [segments_between_zero, hnext, List.take_add_one, hm]
    rfl

end

/-! ## Section 3: Resolving one after the other -/

variable {p q : StorePath} {v : Value}

/-- Resolves values, one after the other. -/
def resolveAll (p : StorePath) (vs : List Value) : Except Fault StorePath :=
  vs.foldlM resolveAny p

/-- Each component extends the path by its name. -/
theorem resolveAll_names (p q : StorePath) (names : List String) :
    p.resolveAll (names.map fun s => .path (q.derive none [s])) = .ok (p.extended names) := by
  -- each step extends the path that the steps before it have made of `p`
  induction names generalizing p with
  | nil => exact congrArg Except.ok (extended_nil p).symm
  | cons s names ih =>
    have hstep : p.resolveAny (.path (q.derive none [s])) = .ok (p.extended [s]) := by
      rw [resolveAny_path, resolve_of_relative rfl]
      rfl
    rw [List.map_cons, resolveAll, List.foldlM_cons, hstep]
    show (p.extended [s]).resolveAll _ = _
    rw [ih, extended_extended, List.singleton_append]

theorem resolveAll_components (p q : StorePath) :
    q.resolveAll (p.components.map .path) = .ok (q.extended p.segments) := by
  have hvalues : p.components.map Value.path =
      p.segments.map fun s => .path (p.derive none [s]) := List.map_map
  rw [hvalues, resolveAll_names]

theorem containsAny_iff : p.containsAny v = true ↔ ∃ q, v = .path q ∧ p.hasComponent q = true := by
  cases v with
  | path q => simp [containsAny]
  | _ => exact iff_of_false Bool.false_ne_true fun ⟨_, h, _⟩ => nomatch h

/-- A range from the start that ends with a name goes up to that name. -/
theorem exists_front_iff (hq : q.isAbsolute = false) {s : String} (hs : q.segments = [s]) :
    (∃ i : Int, 0 ≤ i ∧ i < p.nameCount ∧
        ∃ front, p.subpathAny (.int 0) (.int (i + 1)) = .ok front ∧ front.EndsWith q) ↔
      s ∈ p.segments := by
  have hsegments : q.segments ≠ [] := by
    rw [hs]
    exact List.cons_ne_nil s []
  rw [← singleton_suffix_iff]
  constructor
  · rintro ⟨i, -, -, front, hfront, hends⟩
    obtain ⟨hbounds, rfl⟩ := subpathAny_eq_ok_iff.mp hfront
    rw [endsWith_question_iff, endsWith_of_segments hq hsegments, hs] at hends
    exact ⟨i, hbounds, hends⟩
  · rintro ⟨i, hbounds, hsuffix⟩
    have hlt : 0 < i + 1 := hbounds.lt
    have hle : i + 1 ≤ p.nameCount := hbounds.le
    refine ⟨i, by omega, by omega, _, subpathAny_eq_ok_iff.mpr ⟨hbounds, rfl⟩, ?_⟩
    rwa [endsWith_question_iff, endsWith_of_segments hq hsegments, hs]

/-- **Components.** A path has as many components as segments. The component at
    an index is what the path answers with for that index, and for the range
    between it and the next one. All components, resolved one after the other
    against the root, or against the path of the empty text if there is no
    root, make the path again. A value is contained exactly if it is a relative
    path of one segment and some range from the first segment on ends with
    it. -/
theorem components_rebuild (p : StorePath) (registry : Registry) :
    p.components.length = p.nameCount ∧
      (∀ (i : Nat) c, p.components[i]? = some c →
        p.nameAtAny (.int i) = .ok c ∧ p.subpathAny (.int i) (.int (i + 1)) = .ok c) ∧
      (p.isAbsolute = true →
        ∃ root, p.root? = some root ∧ root.resolveAll (p.components.map .path) = .ok p) ∧
      (p.isAbsolute = false →
        ∃ e m, (registry.path (.text "") .null).1 = .ok e ∧
          e.resolveAll (p.components.map .path) = .ok m ∧ (m == p) = true) ∧
      ∀ v : Value, p.containsAny v = true ↔
        ∃ q, v = .path q ∧ q.isAbsolute = false ∧ q.segments.length = 1 ∧
          ∃ i : Int, 0 ≤ i ∧ i < p.nameCount ∧
            ∃ front, p.subpathAny (.int 0) (.int (i + 1)) = .ok front ∧ front.EndsWith q := by
  refine ⟨length_components p, fun i c hc => ?_, fun habsolute => ?_, fun hrelative => ?_,
    fun v => ?_⟩
  · have hname : p.nameAtAny (.int i) = .ok c := by
      rw [nameAtAny_eq_ok_iff_nameAt?, ← getElem?_components, hc]
    exact ⟨hname, nameAtAny_eq_ok_iff.mp hname⟩
  · exact ⟨_, root?_of_absolute habsolute, resolveAll_components p _⟩
  · refine ⟨_, _, rfl, resolveAll_components p _, beq_iff.mpr ?_⟩
    exact Address.eq_iff.mpr ⟨(Address.isAbsolute_eq_false_iff.mp hrelative).symm, rfl⟩
  · rw [containsAny_iff]
    constructor
    · rintro ⟨q, rfl, hcomponent⟩
      obtain ⟨hq, s, hs, hsegments⟩ := hasComponent_iff.mp hcomponent
      exact ⟨q, rfl, hq, by rw [hsegments]; rfl, (exists_front_iff hq hsegments).mpr hs⟩
    · rintro ⟨q, rfl, hq, hone, hfront⟩
      obtain ⟨s, hsegments⟩ := List.length_eq_one_iff.mp hone
      have hs : s ∈ p.segments := (exists_front_iff hq hsegments).mp hfront
      exact ⟨q, rfl, hasComponent_iff.mpr ⟨hq, s, hs, hsegments⟩⟩

/-- A path in which one name stands twice, a relative one, a name of another
    file system, and values that are contained in no path. -/
theorem components_rebuild_repeated :
    let host (n : Nat) : Host Value := .fileSystem ⟨.default, n, []⟩
    let p : StorePath := ⟨⟨some "b", ["x", "é", "x"]⟩, host 1⟩
    let relative : StorePath := ⟨⟨none, ["x", "é"]⟩, host 1⟩
    let second : StorePath := ⟨⟨none, ["é"]⟩, host 1⟩
    let name : StorePath := ⟨⟨none, ["é"]⟩, host 2⟩
    p.isAbsolute = true ∧ relative.isAbsolute = false ∧ p.components[1]? = some second ∧
      p.nameAtAny (.int 1) = .ok second ∧ p.subpathAny (.int 1) (.int 2) = .ok second ∧
      (∃ root, p.root? = some root ∧ root.resolveAll (p.components.map .path) = .ok p) ∧
      (∃ e m, (Registry.empty.path (.text "") .null).1 = .ok e ∧
        e.resolveAll (relative.components.map .path) = .ok m ∧ (m == relative) = true) ∧
      p.containsAny (.path name) = true ∧ ¬p.containsAny (.text "é") = true ∧
      ¬p.containsAny (.path relative) = true := by
  intro host p relative second name
  have hsecond : p.components[1]? = some second := rfl
  obtain ⟨-, hindex, hrebuild, -, hcontains⟩ := components_rebuild p Registry.empty
  obtain ⟨-, -, -, hrebuild', -⟩ := components_rebuild relative Registry.empty
  obtain ⟨hname, hrange⟩ := hindex 1 second hsecond
  refine ⟨rfl, rfl, hsecond, hname, hrange, hrebuild rfl, hrebuild' rfl, ?_, ?_, ?_⟩
  · -- the second range from the start ends with the name
    rw [hcontains]
    refine ⟨name, rfl, rfl, rfl, 1, by decide, by decide, relative, rfl, ?_⟩
    rw [endsWith_question_iff, endsWith_iff]
    exact .inr ⟨rfl, List.cons_ne_nil _ _, ["x"], rfl⟩
  · rw [hcontains]
    rintro ⟨q, hq, -⟩
    cases hq
  · rw [hcontains]
    rintro ⟨q, hq, -, hone, -⟩
    obtain rfl := Value.path.inj hq
    exact absurd hone (by decide)

end Keyspace.Path
