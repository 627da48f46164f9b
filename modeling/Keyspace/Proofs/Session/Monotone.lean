import Keyspace.Proofs.Session.Ancestors

/-! # Resolution and the order

    Paths are ordered by their texts. Resolving a relative path continues the
    text of a path, with a separator in between if the path has segments and
    without one if it is a root or empty, and an empty operand continues nothing.
    The order does not depend on these differences:

    * Operands that are resolved against one path come out in the order in which
      they were before (`resolve_less_resolve`).
    * What continues a text comes after it, so that a path precedes all that
      lies below it (`Address.IsBelow.less`). Hence the way up from a path leads
      to smaller and smaller paths.
-/

namespace Keyspace

/-! ## Section 1: Addresses -/

namespace Address

variable {a b c d : Address}

theorem eq_of_relative (ha : a.isAbsolute = false) : a = ⟨none, a.segments⟩ :=
  eq_iff.mpr ⟨isAbsolute_eq_false_iff.mp ha, rfl⟩

/-- An address precedes what lies below it. -/
theorem IsBelow.less (h : IsBelow a b) (hb : b.WellFormed) : a.less b = true := by
  obtain ⟨rest, hrest, hbucket, hsegments⟩ := h
  have hextends : Extends a rest b := ⟨hbucket, hsegments⟩
  exact hextends.less hrest (wellFormed_of_append hb hsegments)

/-- All four questions are answered from the strict order and equality. -/
theorem onAddresses_congr (op : OrderOp) (hless : a.less b = c.less d) (heq : a = b ↔ c = d) :
    op.onAddresses a b = op.onAddresses c d := by
  have hsame : (a == b) = (c == d) := by
    rw [Bool.eq_iff_iff, beq_iff_eq, beq_iff_eq, heq]
  have hdiffer : (a != b) = (c != d) := congrArg not hsame
  cases op with
  | less => exact hless
  | lessEq => simp only [OrderOp.onAddresses, lessEq, hless, hsame]
  | greater => simp only [OrderOp.onAddresses, greater, hless, hdiffer]
  | greaterEq => simp only [OrderOp.onAddresses, greaterEq, hless]

end Address

/-! ## Section 2: Resolved paths -/

namespace Path

variable {F : Type} {p q r : Path F}

theorem extends_resolve (hq : q.isAbsolute = false) :
    Address.Extends p.toAddress q.segments (p.resolve q).toAddress := by
  rw [resolve_of_relative hq]
  exact ⟨rfl, rfl⟩

/-- The path that both operands are resolved against makes no difference. -/
theorem resolve_less_resolve (hwf : q.WellFormed) (hwf' : r.WellFormed)
    (hq : q.isAbsolute = false) (hr : r.isAbsolute = false) :
    (p.resolve q).less (p.resolve r).toAddress = q.less r.toAddress := by
  have hsegments := Address.eq_of_relative hq
  have hsegments' := Address.eq_of_relative hr
  rw [hsegments] at hwf
  rw [hsegments'] at hwf'
  rw [(extends_resolve hq).less_eq (extends_resolve hr) hwf hwf', ← hsegments, ← hsegments']

theorem resolve_eq_resolve_iff (hq : q.isAbsolute = false) (hr : r.isAbsolute = false) :
    (p.resolve q).toAddress = (p.resolve r).toAddress ↔ q.toAddress = r.toAddress := by
  constructor
  · exact resolve_left_cancel hq hr
  · intro heq
    rw [resolve_of_relative hq, resolve_of_relative hr, (Address.eq_iff.mp heq).2]

/-- A path precedes what is resolved against it, unless the operand is empty. -/
theorem less_resolve (hwf : q.WellFormed) (hq : q.isAbsolute = false) (hne : q.segments ≠ []) :
    p.less (p.resolve q).toAddress = true := by
  rw [Address.eq_of_relative hq] at hwf
  exact (extends_resolve hq).less hne hwf

/-- Every step up leads to a smaller path. -/
theorem less_of_climb? {v : Path F} {k : Nat} (hp : p.WellFormed) (hk : 0 < k)
    (hclimb : p.climb? k = some v) : v.less p.toAddress = true := by
  obtain ⟨-, hbelow⟩ := climbs_iff.mp ⟨k, v, hk, hclimb, rfl⟩
  exact hbelow.less hp

end Path

/-! ## Section 3: The order of reachable paths -/

namespace Session

variable {p q r : StorePath}

/-- **Resolution keeps the order.** Whatever path two relative ones are resolved
    against, the results compare as the operands do, and every question about
    their order is answered alike. A path precedes what is resolved against it
    if the operand has segments, and follows all paths that are met on the way
    to its parent, the parent of that, and so on. -/
theorem resolve_keeps_order (hp : Reachable p) (hq : Reachable q) (hr : Reachable r)
    (hqrel : q.isAbsolute = false) (hrrel : r.isAbsolute = false) :
    (∃ n, ComparesTo (p.resolve q) (p.resolve r) n ∧ ComparesTo q r n) ∧
      (∀ op, Holds op (p.resolve q) (p.resolve r) ↔ Holds op q r) ∧
      (q.segments ≠ [] → Holds .less p (p.resolve q)) ∧
      ∀ k v, 0 < k → p.climb? k = some v → Holds .less v p := by
  have hless : (p.resolve q).less (p.resolve r).toAddress = q.less r.toAddress :=
    Path.resolve_less_resolve hq.wellFormed hr.wellFormed hqrel hrrel
  have hless' : (p.resolve r).less (p.resolve q).toAddress = r.less q.toAddress :=
    Path.resolve_less_resolve hr.wellFormed hq.wellFormed hrrel hqrel
  refine ⟨⟨_, rfl, ?_⟩, fun op => ?_, fun hne => ?_, fun k v hk hclimb => ?_⟩
  · rw [comparesTo_iff, Address.compare_congr hless hless']
  · rw [holds_iff, holds_iff,
      Address.onAddresses_congr op hless (Path.resolve_eq_resolve_iff hqrel hrrel)]
  · exact less_iff.mpr (Path.less_resolve hq.wellFormed hqrel hne)
  · exact less_iff.mpr (Path.less_of_climb? hp.wellFormed hk hclimb)

/-- Behind a root and behind a path with segments, `x-` precedes `x/é`, and the
    empty path precedes both. The root is met on the way up. -/
theorem resolve_keeps_order_root :
    let host : Host Value := .fileSystem (.ofHost 0 (.config .default))
    let root : StorePath := ⟨⟨some "b", []⟩, host⟩
    let p : StorePath := ⟨⟨some "b", ["x", "é"]⟩, host⟩
    let q : StorePath := ⟨⟨none, ["x-"]⟩, host⟩
    let r : StorePath := ⟨⟨none, ["x", "é"]⟩, host⟩
    let empty : StorePath := ⟨⟨none, []⟩, host⟩
    Reachable root ∧ Reachable p ∧ Reachable q ∧ Reachable r ∧ Reachable empty ∧
      q.isAbsolute = false ∧ r.isAbsolute = false ∧ empty.isAbsolute = false ∧
      q.segments ≠ [] ∧ 0 < 2 ∧ p.climb? 2 = some root ∧ Holds .less q r ∧
      Holds .less (root.resolve q) (root.resolve r) ∧ Holds .less (p.resolve q) (p.resolve r) ∧
      (∃ n, ComparesTo (p.resolve empty) (p.resolve r) n ∧ ComparesTo empty r n) ∧
      Holds .less root (root.resolve q) ∧ Holds .less root p := by
  intro host root p q r empty
  have hparse : Address.parse? "/b" = some root.toAddress := by decide +kernel
  have hparse' : Address.parse? "/b/x/é" = some p.toAddress := by decide +kernel
  have hparse'' : Address.parse? "x-" = some q.toAddress := by decide +kernel
  have hparse''' : Address.parse? "x/é" = some r.toAddress := by decide +kernel
  have hnothing : Address.parse? "" = some empty.toAddress := rfl
  have hroot : Reachable root := reachable_of_parse? hparse
  have hp : Reachable p := reachable_of_parse? hparse'
  have hq : Reachable q := reachable_of_parse? hparse''
  have hr : Reachable r := reachable_of_parse? hparse'''
  have hempty : Reachable empty := reachable_of_parse? hnothing
  have hne : q.segments ≠ [] := List.cons_ne_nil _ _
  have hclimb : p.climb? 2 = some root := rfl
  have hless : Holds .less q r := less_iff.mpr (by decide +kernel)
  obtain ⟨-, hordered, hbehind, -⟩ := resolve_keeps_order hroot hq hr rfl rfl
  obtain ⟨-, hordered', -, hchain⟩ := resolve_keeps_order hp hq hr rfl rfl
  obtain ⟨hcompare, -⟩ := resolve_keeps_order hp hempty hr rfl rfl
  exact ⟨hroot, hp, hq, hr, hempty, rfl, rfl, rfl, hne, Nat.two_pos, hclimb, hless,
    (hordered .less).mpr hless, (hordered' .less).mpr hless, hcompare, hbehind hne,
    hchain 2 root Nat.two_pos hclimb⟩

end Session

end Keyspace
