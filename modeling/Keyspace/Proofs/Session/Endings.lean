import Keyspace.Proofs.Session.Containment

/-! # Endings

    A path ends with another one when its last segments are those of the other.
    Segments have no bucket and there must be some, so only relative addresses
    with segments are endings in this sense (`Address.HasEnding`). An absolute
    path and the empty one end nothing but a path equal to them.

    With equal paths added, both rules are one (`endsWith_iff`), whatever kind
    of operand is asked for.

    * A path ends with what leads to it from somewhere. The way starts at the
      segments in front of the ending, in the bucket of the path
      (`endsWith_iff_resolves`).
    * To end with is a partial order, and the relative paths that one path ends
      with are a chain, since of two suffixes of a list one is a suffix of the
      other (`endsWith_order`).
-/

namespace Keyspace

namespace Address

variable {a b c : Address}

/-! ## Section 1: Proper endings -/

/-- The relative address `b` has segments, and they are the last ones of `a`. -/
structure HasEnding (a b : Address) : Prop where
  relative : b.bucket = none
  nonempty : b.segments ≠ []
  suffix : b.segments <:+ a.segments

theorem HasEnding.antisymm (h : a.HasEnding b) (h' : b.HasEnding a) : a = b := by
  have hlength : a.segments.length = b.segments.length :=
    Nat.le_antisymm h'.suffix.length_le h.suffix.length_le
  exact eq_iff.mpr ⟨h'.relative.trans h.relative.symm, h'.suffix.eq_of_length hlength⟩

theorem HasEnding.trans (h : a.HasEnding b) (h' : b.HasEnding c) : a.HasEnding c :=
  ⟨h'.relative, h'.nonempty, h'.suffix.trans h.suffix⟩

/-- Of two endings of an address, one is an ending of the other. -/
theorem HasEnding.chain (h : a.HasEnding b) (h' : a.HasEnding c) :
    b.HasEnding c ∨ c.HasEnding b := by
  rcases List.suffix_or_suffix_of_suffix h.suffix h'.suffix with hbc | hcb
  · exact .inr ⟨h.relative, h.nonempty, hbc⟩
  · exact .inl ⟨h'.relative, h'.nonempty, hcb⟩

end Address

namespace Path

section

variable {F : Type} {p q r : Path F}

/-! ## Section 2: Two rules -/

/-- An absolute operand, and one without segments, is compared as a whole. -/
theorem endsWith_of_whole (hq : q.isAbsolute = true ∨ q.segments = []) :
    p.endsWith q = (p == q) := by
  rw [endsWith, if_pos]
  rcases hq with habsolute | hnil
  · rw [habsolute, Bool.true_or]
  · rw [hnil, List.isEmpty_nil, Bool.or_true]

/-- The segments of any other operand are compared with as many last ones. -/
theorem endsWith_of_segments (hq : q.isAbsolute = false) (hsegments : q.segments ≠ []) :
    p.endsWith q = true ↔ q.segments <:+ p.segments := by
  have hnot : ¬(q.isAbsolute || q.segments.isEmpty) = true := by
    rw [hq, Bool.false_or, List.isEmpty_iff]
    exact hsegments
  rw [endsWith, if_neg hnot, Bool.and_eq_true, decide_eq_true_eq, beq_iff_eq]
  constructor
  · rintro ⟨-, hlast⟩
    rw [← hlast]
    exact List.drop_suffix _ _
  · intro hsuffix
    exact ⟨hsuffix.length_le, (List.suffix_iff_eq_drop.mp hsuffix).symm⟩

/-- **One rule.** A path ends with the paths equal to it and with its proper
    endings. -/
theorem endsWith_iff :
    p.endsWith q = true ↔ p.toAddress = q.toAddress ∨ p.HasEnding q.toAddress := by
  by_cases hwhole : q.isAbsolute = true ∨ q.segments = []
  · have hnot : ¬p.HasEnding q.toAddress := by
      intro hending
      rcases hwhole with habsolute | hnil
      · rw [Address.isAbsolute_eq_false_iff.mpr hending.relative] at habsolute
        exact Bool.false_ne_true habsolute
      · exact hending.nonempty hnil
    rw [endsWith_of_whole hwhole, beq_iff, or_iff_left hnot]
  · rw [not_or, Bool.not_eq_true] at hwhole
    obtain ⟨hrelative, hsegments⟩ := hwhole
    rw [endsWith_of_segments hrelative hsegments]
    constructor
    · intro hsuffix
      exact .inr ⟨Address.isAbsolute_eq_false_iff.mp hrelative, hsegments, hsuffix⟩
    · rintro (heq | hending)
      · have hsame : q.segments = p.segments := (Address.eq_iff.mp heq).2.symm
        exact ⟨[], hsame⟩
      · exact hending.suffix

/-! ## Section 3: The order -/

theorem endsWith_refl (p : Path F) : p.endsWith p = true := endsWith_iff.mpr (.inl rfl)

theorem endsWith_antisymm (h : p.endsWith q = true) (h' : q.endsWith p = true) :
    p.toAddress = q.toAddress := by
  rcases endsWith_iff.mp h with heq | hending
  · exact heq
  · rcases endsWith_iff.mp h' with heq | hending'
    · exact heq.symm
    · exact hending.antisymm hending'

theorem endsWith_trans (h : p.endsWith q = true) (h' : q.endsWith r = true) :
    p.endsWith r = true := by
  rw [endsWith_iff] at h h' ⊢
  rcases h with heq | hending
  · rwa [heq]
  · rcases h' with heq | hending'
    · rw [← heq]
      exact .inr hending
    · exact .inr (hending.trans hending')

/-- Of two paths that a path ends with, one ends with the other. If one of them
    is compared as a whole, it is equal to the path. -/
theorem endsWith_chain (hq : p.endsWith q = true) (hr : p.endsWith r = true) :
    q.endsWith r = true ∨ r.endsWith q = true := by
  rcases endsWith_iff.mp hq with heq | hending
  · left
    rw [endsWith_iff] at hr ⊢
    rwa [← heq]
  · rcases endsWith_iff.mp hr with heq | hending'
    · right
      rw [endsWith_iff, ← heq]
      exact .inr hending
    · rcases hending.chain hending' with hqr | hrq
      · exact .inl (endsWith_iff.mpr (.inr hqr))
      · exact .inr (endsWith_iff.mpr (.inr hrq))

end

/-- The question whether `p` ends with `q` is answered with yes. -/
def EndsWith (p q : StorePath) : Prop := p.endsWithAny (.path q) = .ok true

theorem endsWithAny_path (p q : StorePath) : p.endsWithAny (.path q) = .ok (p.endsWith q) := rfl

theorem endsWith_question_iff {p q : StorePath} : p.EndsWith q ↔ p.endsWith q = true := by
  rw [EndsWith, endsWithAny_path, Except.ok.injEq]

/-- **To end with is a partial order.** Every question whether a path ends with
    another one has an answer. Each path ends with itself, paths that end with
    each other are equal, and what an ending ends with, the path ends with. Of
    two paths that a path ends with, relative or not, one ends with the
    other. -/
theorem endsWith_order (p q r : StorePath) :
    (∃ b, p.endsWithAny (.path q) = .ok b) ∧
      p.EndsWith p ∧
      (p.EndsWith q → q.EndsWith p → (p == q) = true) ∧
      (p.EndsWith q → q.EndsWith r → p.EndsWith r) ∧
      (p.EndsWith q → p.EndsWith r → q.EndsWith r ∨ r.EndsWith q) := by
  simp only [endsWith_question_iff, beq_iff]
  exact ⟨⟨_, endsWithAny_path p q⟩, endsWith_refl p, endsWith_antisymm, endsWith_trans,
    endsWith_chain⟩

/-- Endings of two lengths of an absolute path, which does not end with the
    empty path. -/
theorem endsWith_order_nested :
    let host : Host Value := .fileSystem (.ofHost 0 (.config .default))
    let p : StorePath := ⟨⟨some "b", ["x", "y", "z"]⟩, host⟩
    let q : StorePath := ⟨⟨none, ["y", "z"]⟩, host⟩
    let r : StorePath := ⟨⟨none, ["z"]⟩, host⟩
    let empty : StorePath := ⟨⟨none, []⟩, host⟩
    p.EndsWith q ∧ q.EndsWith r ∧ p.EndsWith r ∧ (q.EndsWith r ∨ r.EndsWith q) ∧
      p.EndsWith p ∧ (p == p) = true ∧ ¬p.EndsWith empty := by
  intro host p q r empty
  have hpq : p.EndsWith q :=
    endsWith_question_iff.mpr (endsWith_iff.mpr (.inr ⟨rfl, List.cons_ne_nil _ _, ["x"], rfl⟩))
  have hqr : q.EndsWith r :=
    endsWith_question_iff.mpr (endsWith_iff.mpr (.inr ⟨rfl, List.cons_ne_nil _ _, ["y"], rfl⟩))
  have hempty : ¬p.EndsWith empty := by
    rw [endsWith_question_iff, endsWith_of_whole (.inr rfl), beq_iff]
    exact fun heq => absurd (Address.eq_iff.mp heq).2 (List.cons_ne_nil _ _)
  obtain ⟨-, hrefl, hantisymm, -, -⟩ := endsWith_order p p p
  obtain ⟨-, -, -, htrans, hchain⟩ := endsWith_order p q r
  have hpr : p.EndsWith r := htrans hpq hqr
  exact ⟨hpq, hqr, hpr, hchain hpq hpr, hrefl, hantisymm hrefl hrefl, hempty⟩

end Path

namespace Session

variable {p q : StorePath}

/-! ## Section 4: Endings and resolution -/

/-- Some path leads by a relative operand to `p` exactly if the segments of the
    operand are the last ones of `p`. -/
theorem exists_resolves_iff_suffix (hp : Reachable p) (hq : q.isAbsolute = false) :
    (∃ r, Reachable r ∧ (r.resolve q == p) = true) ↔ q.segments <:+ p.segments := by
  constructor
  · rintro ⟨r, -, hr⟩
    exact ⟨r.segments, ((Path.resolve_beq_iff hq).mp hr).2.symm⟩
  · rintro ⟨front, hfront⟩
    have hnames : ∀ s ∈ front, Address.IsName s := by
      intro s hs
      apply hp.wellFormed.2 s
      rw [← hfront]
      exact List.mem_append_left _ hs
    -- the way starts in the bucket of the path, if it has one
    refine ⟨p.derive p.bucket front, hp.derive (Path.wellFormed_derive hp.wellFormed hnames), ?_⟩
    exact (Path.resolve_beq_iff hq).mpr ⟨rfl, hfront.symm⟩

/-- By an absolute operand every path leads to the operand. -/
theorem exists_resolves_iff_beq (hp : Reachable p) (hq : q.isAbsolute = true) :
    (∃ r, Reachable r ∧ (r.resolve q == p) = true) ↔ (p == q) = true := by
  simp only [Path.resolve_of_absolute hq, Path.beq_iff]
  constructor
  · rintro ⟨-, -, heq⟩
    exact heq.symm
  · intro heq
    exact ⟨p, hp, heq.symm⟩

/-- **Endings are what leads to a path.** A path ends with an absolute path, or
    with a path that has segments, exactly if there is a path from which that
    one leads to it. It ends with the empty path exactly if it is empty itself. -/
theorem endsWith_iff_resolves (hp : Reachable p) (q : StorePath) :
    (∃ b, p.endsWithAny (.path q) = .ok b) ∧
      (q.isAbsolute = true ∨ q.segments ≠ [] →
        (p.EndsWith q ↔ ∃ r, Reachable r ∧ (r.resolve q == p) = true)) ∧
      (q.toAddress = ⟨none, []⟩ → (p.EndsWith q ↔ p.toAddress = ⟨none, []⟩)) := by
  refine ⟨⟨_, Path.endsWithAny_path p q⟩, fun hq => ?_, fun hempty => ?_⟩
  · rw [Path.endsWith_question_iff]
    cases habsolute : q.isAbsolute with
    | true => rw [Path.endsWith_of_whole (.inl habsolute), exists_resolves_iff_beq hp habsolute]
    | false =>
      have hsegments : q.segments ≠ [] :=
        hq.resolve_left (by rw [habsolute]; exact Bool.false_ne_true)
      rw [Path.endsWith_of_segments habsolute hsegments, exists_resolves_iff_suffix hp habsolute]
  · have hnil : q.segments = [] := (Address.eq_iff.mp hempty).2
    rw [Path.endsWith_question_iff, Path.endsWith_of_whole (.inr hnil), Path.beq_iff, hempty]

/-- A relative path that ends with all of its segments, an operand that is
    longer than the path, and the empty path. -/
theorem endsWith_iff_resolves_edges :
    let host : Host Value := .fileSystem (.ofHost 0 (.config .default))
    let p : StorePath := ⟨⟨none, ["x", "é"]⟩, host⟩
    let longer : StorePath := ⟨⟨none, ["x", "x", "é"]⟩, host⟩
    let empty : StorePath := ⟨⟨none, []⟩, host⟩
    Reachable p ∧ p.segments ≠ [] ∧ longer.segments ≠ [] ∧ empty.toAddress = ⟨none, []⟩ ∧
      p.EndsWith p ∧ (∃ r, Reachable r ∧ (r.resolve p == p) = true) ∧
      ¬p.EndsWith longer ∧ (¬∃ r, Reachable r ∧ (r.resolve longer == p) = true) ∧
      ¬p.EndsWith empty := by
  intro host p longer empty
  have hparse : Address.parse? "x//é" = some p.toAddress := by decide +kernel
  have hp : Reachable p := reachable_of_parse? hparse
  have hsegments : p.segments ≠ [] := List.cons_ne_nil _ _
  have hsegments' : longer.segments ≠ [] := List.cons_ne_nil _ _
  have hself : p.EndsWith p := Path.endsWith_question_iff.mpr (Path.endsWith_refl p)
  have hlonger : ¬p.EndsWith longer := by
    rw [Path.endsWith_question_iff, Path.endsWith_of_segments rfl hsegments']
    exact fun hsuffix => absurd hsuffix.length_le (by decide)
  obtain ⟨-, hleads, -⟩ := endsWith_iff_resolves hp p
  obtain ⟨-, hleads', -⟩ := endsWith_iff_resolves hp longer
  obtain ⟨-, -, hempty⟩ := endsWith_iff_resolves hp empty
  refine ⟨hp, hsegments, hsegments', rfl, hself, (hleads (.inr hsegments)).mp hself, hlonger,
    ?_, ?_⟩
  · rwa [← hleads' (.inr hsegments')]
  · rw [hempty rfl]
    decide

end Session

end Keyspace
