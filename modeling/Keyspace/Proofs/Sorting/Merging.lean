import Keyspace.Proofs.Sorting.Ascending

/-! # Sorting brings into order

    If a question is answered for all items of a list and asks for an order,
    sorting succeeds and leaves the items in ascending order (`sort_yields`).
    Together with `sort_perm` this says what a sort is for.

    A merge is followed by an invariant (`Merging`): what is merged is in order
    and comes before what is left of both runs, and the run aside ends with an
    item that comes last. Each single item and each leap keeps it and uses up
    items, whatever the pace. A merge from the back is one from the front on
    reversed runs and in the reversed order, so nothing is proved twice.
-/

namespace Keyspace.Sorting

variable {α ε : Type} {P : α → Prop} {le : α → α → Bool} {less : α → α → Except ε Bool}

namespace Merge

/-! ## Section 1: The invariant of a merge -/

/-- The number of items that are left of both runs. -/
def remaining (m : Merge α) : Nat := m.aside.length + m.other.length

/-- What is merged is in order and before all that is left, both runs are in
    order, and the last item aside is behind all of the other run. -/
structure Merging (P : α → Prop) (le : α → α → Bool) (m : Merge α) : Prop where
  merged : Ascending P le m.merged.reverse
  aside : Ascending P le m.aside
  other : Ascending P le m.other
  beforeAside : ∀ x ∈ m.merged, ∀ y ∈ m.aside, le x y = true
  beforeOther : ∀ x ∈ m.merged, ∀ y ∈ m.other, le x y = true
  last : ∀ x ∈ m.aside.getLast?, ∀ y ∈ m.other, le y x = true

namespace Merging

variable {m : Merge α}

/-- Nothing is merged at first. -/
theorem start {aside other : List α} (haside : Ascending P le aside)
    (hother : Ascending P le other)
    (hlast : ∀ x ∈ aside.getLast?, ∀ y ∈ other, le y x = true) :
    Merging P le ⟨[], aside, other⟩ :=
  ⟨.nil, haside, hother, nofun, nofun, hlast⟩

/-- Items from the run aside may be taken that are in order before the other
    run. -/
theorem takeAside (h : Merging P le m) {n : Nat}
    (hn : ∀ x ∈ m.aside.take n, ∀ y ∈ m.other, le x y = true) :
    Merging P le (m.takeAside n) := by
  have hmerged : ∀ x ∈ (m.takeAside n).merged, x ∈ m.aside.take n ∨ x ∈ m.merged := fun x hx =>
    (List.mem_append.mp hx).imp_left List.mem_reverse.mp
  refine ⟨?_, h.aside.drop n, h.other, fun x hx y hy => ?_, fun x hx y hy => ?_, ?_⟩
  · show Ascending P le ((m.aside.take n).reverse ++ m.merged).reverse
    rw [List.reverse_append, List.reverse_reverse]
    refine h.merged.append (h.aside.take n) fun x hx y hy => ?_
    exact h.beforeAside x (List.mem_reverse.mp hx) y (List.mem_of_mem_take hy)
  · rcases hmerged x hx with hx | hx
    · exact h.aside.le_of_take_of_drop hx hy
    · exact h.beforeAside x hx y (List.mem_of_mem_drop hy)
  · rcases hmerged x hx with hx | hx
    · exact hn x hx y hy
    · exact h.beforeOther x hx y hy
  · -- what is left of the run aside ends as it did before
    intro x hx
    rw [Option.mem_def, Merge.takeAside, List.getLast?_drop] at hx
    split at hx
    · simp at hx
    · exact h.last x hx

/-- Items from the other run may be taken that are in order before the run
    aside. -/
theorem takeOther (h : Merging P le m) {n : Nat}
    (hn : ∀ y ∈ m.other.take n, ∀ x ∈ m.aside, le y x = true) :
    Merging P le (m.takeOther n) := by
  have hmerged : ∀ x ∈ (m.takeOther n).merged, x ∈ m.other.take n ∨ x ∈ m.merged := fun x hx =>
    (List.mem_append.mp hx).imp_left List.mem_reverse.mp
  refine ⟨?_, h.aside, h.other.drop n, fun x hx y hy => ?_, fun x hx y hy => ?_, ?_⟩
  · show Ascending P le ((m.other.take n).reverse ++ m.merged).reverse
    rw [List.reverse_append, List.reverse_reverse]
    refine h.merged.append (h.other.take n) fun x hx y hy => ?_
    exact h.beforeOther x (List.mem_reverse.mp hx) y (List.mem_of_mem_take hy)
  · rcases hmerged x hx with hx | hx
    · exact hn x hx y hy
    · exact h.beforeAside x hx y hy
  · rcases hmerged x hx with hx | hx
    · exact h.other.le_of_take_of_drop hx hy
    · exact h.beforeOther x hx y (List.mem_of_mem_drop hy)
  · exact fun x hx y hy => h.last x hx y (List.mem_of_mem_drop hy)

/-- When a merge is over, its items are in order. -/
theorem items_of_isOver (h : Merging P le m) (hover : m.isOver = true) :
    Ascending P le m.items := by
  -- what is left of the other run is before what is left aside
  have hleft : ∀ y ∈ m.other, ∀ x ∈ m.aside, le y x = true := by
    intro y hy x hx
    rcases Bool.or_eq_true_iff.mp hover with hone | hnone
    · have hlength : m.aside.length ≤ 1 := of_decide_eq_true hone
      have hlast : m.aside = [x] := by
        match haside : m.aside with
        | [] => simp [haside] at hx
        | [z] =>
          rw [haside] at hx
          rw [List.mem_singleton.mp hx]
        | _ :: _ :: _ => simp [haside] at hlength
      exact h.last x (by rw [hlast]; rfl) y hy
    · rw [List.isEmpty_iff.mp hnone] at hy
      exact absurd hy List.not_mem_nil
  have hother : Ascending P le (m.merged.reverse ++ m.other) :=
    h.merged.append h.other fun x hx y hy => h.beforeOther x (List.mem_reverse.mp hx) y hy
  refine hother.append h.aside fun x hx y hy => ?_
  rcases List.mem_append.mp hx with hx | hx
  · exact h.beforeAside x (List.mem_reverse.mp hx) y hy
  · exact hleft x hx y hy

theorem isOver_of_remaining_eq_zero (h : m.remaining = 0) : m.isOver = true := by
  rw [isOver, decide_eq_true (by rw [remaining] at h; omega), Bool.true_or]

end Merging

/-- A merge that is not over has an item left on both sides. -/
theorem exists_cons_of_not_isOver {m : Merge α} (h : m.isOver = false) :
    ∃ x xs y ys, m.aside = x :: xs ∧ m.other = y :: ys := by
  obtain ⟨haside, hother⟩ := Bool.or_eq_false_iff.mp h
  obtain ⟨y, ys, hys⟩ := List.exists_cons_of_ne_nil (List.isEmpty_eq_false_iff.mp hother)
  obtain ⟨x, xs, hxs⟩ := List.exists_cons_of_ne_nil (l := m.aside) (by
    intro hnil
    simp [hnil] at haside)
  exact ⟨x, xs, y, ys, hxs, hys⟩

/-! ## Section 2: Leaps -/

/-- A leap keeps the invariant and never leaves more items than before; unless
    the merge is over, it leaves fewer. -/
def IsLeap (P : α → Prop) (le : α → α → Bool) (leap : Merge α → Except ε (Merge α × Nat)) : Prop :=
  ∀ m, Merging P le m → Yields (leap m) fun out =>
    Merging P le out.1 ∧ out.1.remaining ≤ m.remaining ∧
      (m.isOver = false → out.1.remaining < m.remaining)

/-- Two leaps, one after the other, make a leap. -/
theorem IsLeap.andThen {first second : Merge α → Except ε (Merge α × Nat)}
    (hfirst : IsLeap P le first) (hsecond : IsLeap P le second) :
    IsLeap P le fun m =>
      (first m).bind fun (m, n) => (second m).map fun (m, k) => (m, max n k) := by
  intro m hm
  refine (hfirst m hm).bind fun out hout => ?_
  obtain ⟨hmerging, hle, hlt⟩ := hout
  refine (hsecond out.1 hmerging).map fun out' hout' => ?_
  obtain ⟨hmerging', hle', -⟩ := hout'
  exact ⟨hmerging', Nat.le_trans hle' hle, fun hover => Nat.lt_of_le_of_lt hle' (hlt hover)⟩

section

variable {side : Side} (ho : IsOrder le)
  (hfirst : ∀ x y, P x → P y → otherFirst side less x y = .ok (!le x y))

include ho hfirst in
theorem leapAside_isLeap : IsLeap P le (leapAside side less) := by
  intro m h
  cases hover : m.isOver with
  | true =>
    rw [leapAside, hover]
    exact Yields.ok ⟨h, Nat.le_refl _, nofun⟩
  | false =>
    obtain ⟨x, xs, y, ys, -, hys⟩ := exists_cons_of_not_isOver hover
    have hy : y ∈ m.other := by
      rw [hys]
      exact List.mem_cons_self
    obtain ⟨k, hk⟩ := h.aside.exists_cut_le ho y
    have hask : ∀ x ∈ m.aside, opposite (fun x => otherFirst side less x y) x = .ok (le x y) :=
      fun x hx => by
        rw [opposite, hfirst x y (h.aside.all x hx) (h.other.all y hy), Except.map, Bool.not_not]
    rw [leapAside, hover]
    simp only [hys]
    rw [leading_of_isCut side hask hk]
    -- the items up to `y` are taken, and then `y`
    have hbefore : Merging P le (m.takeAside k) := h.takeAside fun x hx z hz =>
      ho.trans (hk.before x hx) (h.other.le_of_head? ho (by rw [hys]; rfl) hz)
    have hafter : Merging P le ((m.takeAside k).takeOther 1) := hbefore.takeOther fun z hz x hx => by
      rw [takeAside, hys] at hz
      rw [List.mem_singleton.mp hz]
      exact ho.le_of_not (hk.after x hx)
    have hless : ((m.takeAside k).takeOther 1).remaining < m.remaining := by
      simp only [remaining, takeAside, takeOther, List.length_drop, hys, List.length_cons]
      omega
    exact Yields.ok ⟨hafter, Nat.le_of_lt hless, fun _ => hless⟩

include ho hfirst in
theorem leapOther_isLeap : IsLeap P le (leapOther side less) := by
  intro m h
  cases hover : m.isOver with
  | true =>
    rw [leapOther, hover]
    exact Yields.ok ⟨h, Nat.le_refl _, nofun⟩
  | false =>
    obtain ⟨x, xs, y, ys, hxs, -⟩ := exists_cons_of_not_isOver hover
    have hx : x ∈ m.aside := by
      rw [hxs]
      exact List.mem_cons_self
    obtain ⟨k, hk⟩ := h.other.exists_cut_lt ho x
    have hask : ∀ y ∈ m.other, otherFirst side less x y = .ok (!le x y) := fun y hy =>
      hfirst x y (h.aside.all x hx) (h.other.all y hy)
    rw [leapOther, hover]
    simp only [hxs]
    rw [leading_of_isCut side hask hk]
    -- the items strictly before `x` are taken, and then `x`
    have hbefore : Merging P le (m.takeOther k) := h.takeOther fun y hy z hz => by
      have hyx : le y x = true := ho.le_of_not (by simpa using hk.before y hy)
      exact ho.trans hyx (h.aside.le_of_head? ho (by rw [hxs]; rfl) hz)
    have hafter : Merging P le ((m.takeOther k).takeAside 1) := hbefore.takeAside fun z hz y hy => by
      rw [takeOther, hxs] at hz
      rw [List.mem_singleton.mp hz]
      simpa using hk.after y hy
    have hless : ((m.takeOther k).takeAside 1).remaining < m.remaining := by
      simp only [remaining, takeAside, takeOther, List.length_drop, hxs, List.length_cons]
      omega
    exact Yields.ok ⟨hafter, Nat.le_of_lt hless, fun _ => hless⟩

include ho hfirst in
theorem leapBoth_isLeap : IsLeap P le (leapBoth side less) := by
  cases side with
  | front => exact (leapAside_isLeap ho hfirst).andThen (leapOther_isLeap ho hfirst)
  | back => exact (leapOther_isLeap ho hfirst).andThen (leapAside_isLeap ho hfirst)

/-! ## Section 3: Whole merges -/

include ho in
/-- Of two leading items the one that comes first is taken, of items that tie
    the one aside. -/
theorem Merging.takeFirst {m : Merge α} {x y : α} {xs ys : List α} (h : Merging P le m)
    (hxs : m.aside = x :: xs) (hys : m.other = y :: ys) :
    let m' := if (!le x y) = true then m.takeOther 1 else m.takeAside 1
    Merging P le m' ∧ m'.remaining < m.remaining := by
  cases hxy : le x y with
  | true =>
    refine ⟨h.takeAside fun z hz w hw => ?_, ?_⟩
    · rw [hxs] at hz
      rw [List.mem_singleton.mp hz]
      exact ho.trans hxy (h.other.le_of_head? ho (by rw [hys]; rfl) hw)
    · simp [remaining, Merge.takeAside, hxs]
  | false =>
    refine ⟨h.takeOther fun z hz w hw => ?_, ?_⟩
    · rw [hys] at hz
      rw [List.mem_singleton.mp hz]
      exact ho.trans (ho.le_of_not hxy) (h.aside.le_of_head? ho (by rw [hxs]; rfl) hw)
    · simp [remaining, Merge.takeOther, hys]

include ho hfirst in
/-- A merge that has as many steps as items are left puts them into order. -/
theorem finish_yields {steps patience : Nat} {pace : Pace} {m : Merge α} (h : Merging P le m)
    (hsteps : m.remaining ≤ steps) :
    Yields (finish side less steps patience pace m) fun out => Ascending P le out.1 := by
  induction steps generalizing patience pace m with
  | zero =>
    exact Yields.ok (h.items_of_isOver (Merging.isOver_of_remaining_eq_zero (by omega)))
  | succ steps ih =>
    cases hover : m.isOver with
    | true =>
      simp only [finish, hover]
      exact Yields.ok (h.items_of_isOver hover)
    | false =>
      obtain ⟨x, xs, y, ys, hxs, hys⟩ := exists_cons_of_not_isOver hover
      cases pace with
      | single asideWins otherWins =>
        have hx : P x := h.aside.all x (by rw [hxs]; exact List.mem_cons_self)
        have hy : P y := h.other.all y (by rw [hys]; exact List.mem_cons_self)
        obtain ⟨hmerging, hless⟩ := h.takeFirst ho hxs hys
        simp only [finish, hover, hxs, hys, hfirst x y hx hy, Except.bind]
        exact ih hmerging (by omega)
      | leaping =>
        simp only [finish, hover, hxs, hys]
        refine (leapBoth_isLeap ho hfirst m h).bind fun out hout => ?_
        obtain ⟨hmerging, -, hlt⟩ := hout
        have hless := hlt hover
        cases hover' : out.1.isOver with
        | true =>
          simp only [if_true]
          exact Yields.ok (hmerging.items_of_isOver hover')
        | false =>
          -- leaping goes on, or the next items are taken one at a time
          simp only [Bool.false_eq_true, if_false]
          split
          · exact ih hmerging (by omega)
          · exact ih hmerging (by omega)

end

end Merge

section

variable (ho : IsOrder le) (hask : AsksFor P le less)

include ho hask

/-- Two runs that overlap, as the ends of both tell, are merged into one. -/
theorem mergeOverlapping_yields {first second : List α} (patience : Nat)
    (hfirst : Ascending P le first) (hsecond : Ascending P le second)
    (hlow : ∀ y ∈ second.head?, ∀ x ∈ first, le y x = true)
    (hhigh : ∀ x ∈ first.getLast?, ∀ y ∈ second, le y x = true) :
    Yields (mergeOverlapping less patience first second) fun out => Ascending P le out.1 := by
  unfold mergeOverlapping
  dsimp only
  split
  · -- from the front, the first run is put aside
    have hstart : Merge.Merging P le ⟨[], first, second⟩ := .start hfirst hsecond hhigh
    have hnext : Merge.Merging P le (Merge.takeOther ⟨[], first, second⟩ 1) :=
      hstart.takeOther fun y hy => hlow y (by simpa [List.take_one] using hy)
    have hfront : ∀ x y, P x → P y → Merge.otherFirst .front less x y = .ok (!le x y) :=
      fun x y hx hy => hask y x hy hx
    refine Merge.finish_yields ho hfront hnext ?_
    simp only [Merge.remaining, Merge.takeOther, List.length_drop]
    omega
  · -- from the back, all is reversed, and the second run is put aside
    have hstart : Merge.Merging P (reversed le) ⟨[], second.reverse, first.reverse⟩ := by
      refine .start hsecond.reverse hfirst.reverse fun y hy x hx => ?_
      exact hlow y (by simpa using hy) x (List.mem_reverse.mp hx)
    have hnext : Merge.Merging P (reversed le)
        (Merge.takeOther ⟨[], second.reverse, first.reverse⟩ 1) := by
      refine hstart.takeOther fun x hx y hy => ?_
      exact hhigh x (by simpa [List.take_one] using hx) y (List.mem_reverse.mp hy)
    have hback : ∀ x y, P x → P y → Merge.otherFirst .back less x y = .ok (!reversed le x y) :=
      fun x y hx hy => hask x y hx hy
    refine (Merge.finish_yields ho.reversed hback hnext ?_).map fun out hout => hout.reverse
    simp only [Merge.remaining, Merge.takeOther, List.length_drop, List.length_reverse]
    omega

/-- Merging two runs in order gives one. -/
theorem mergeRuns_yields {first second : List α} (patience : Nat)
    (hfirst : Ascending P le first) (hsecond : Ascending P le second) :
    Yields (mergeRuns less patience first second) fun out => Ascending P le out.1 := by
  cases second with
  | nil => exact Yields.ok hfirst
  | cons y ys =>
    have hy : P y := hsecond.all y List.mem_cons_self
    have hhead : ∀ z ∈ y :: ys, le y z = true := fun z hz => hsecond.le_of_head? ho rfl hz
    obtain ⟨i, hi⟩ := hfirst.exists_cut_le ho y
    rw [mergeRuns, boundary_of_isCut (hask.opposite_eq hy hfirst) hi 0]
    simp only [Except.bind]
    split
    · next hnone =>
      -- all of the first run comes before the second
      have hall : first.drop i = [] := List.getLast?_eq_none_iff.mp hnone
      refine Yields.ok (hfirst.append hsecond fun x hx z hz => ?_)
      rw [← List.take_append_drop i first, hall, List.append_nil] at hx
      exact ho.trans (hi.before x hx) (hhead z hz)
    · next x hlast =>
      have hx : x ∈ first.drop i := List.mem_of_getLast? hlast
      obtain ⟨j, hj⟩ := hsecond.exists_cut_lt ho x
      have hless : ∀ z ∈ y :: ys, less z x = .ok (!le x z) := fun z hz =>
        hask z x (hsecond.all z hz) (hfirst.all x (List.mem_of_mem_drop hx))
      rw [boundary_of_isCut hless hj _]
      -- `y` comes strictly before `x`, so something of the second run is merged
      have hxy : le x y = false := hi.after x hx
      have hpos : j ≠ 0 := by
        rintro rfl
        have := hj.after y List.mem_cons_self
        rw [hxy] at this
        exact absurd this (by decide)
      simp only [hpos, if_false]
      have hmiddle : Yields (mergeOverlapping less patience (first.drop i) ((y :: ys).take j))
          fun out => Ascending P le out.1 := by
        refine mergeOverlapping_yields ho hask patience (hfirst.drop i) (hsecond.take j) ?_ ?_
        · intro z hz v hv
          rw [List.head?_take, if_neg hpos] at hz
          obtain rfl := Option.some.inj hz
          exact ho.le_of_not (hi.after v hv)
        · intro v hv z hz
          obtain rfl := Option.some.inj (hlast.symm.trans hv)
          exact ho.le_of_not (by simpa using hj.before z hz)
      refine (hmiddle.and fun out h => mergeOverlapping_perm h).map fun out hout => ?_
      obtain ⟨hitems, hperm⟩ := hout
      -- what stays in its place is before and behind all that is merged
      have hfront : Ascending P le (first.take i ++ out.1) := by
        refine (hfirst.take i).append hitems fun v hv z hz => ?_
        rcases List.mem_append.mp (hperm.mem_iff.mp hz) with hz | hz
        · exact hfirst.le_of_take_of_drop hv hz
        · exact ho.trans (hi.before v hv) (hhead z (List.mem_of_mem_take hz))
      refine hfront.append (hsecond.drop j) fun v hv z hz => ?_
      have hxz : le x z = true := by simpa using hj.after z hz
      rcases List.mem_append.mp hv with hv | hv
      · exact ho.trans (hfirst.le_of_take_of_drop hv hx) hxz
      · rcases List.mem_append.mp (hperm.mem_iff.mp hv) with hv | hv
        · exact ho.trans ((hfirst.drop i).le_of_getLast? ho hlast hv) hxz
        · exact hsecond.le_of_take_of_drop hv hz

/-! ## Section 4: Pending runs -/

/-- The items of each run are in order. -/
def AllAscending (P : α → Prop) (le : α → α → Bool) (runs : List (Run α)) : Prop :=
  ∀ run ∈ runs, Ascending P le run.items

theorem joinRuns_yields {first second : Run α} (patience : Nat)
    (hfirst : Ascending P le first.items) (hsecond : Ascending P le second.items) :
    Yields (joinRuns less patience first second) fun out => Ascending P le out.1.items :=
  (mergeRuns_yields ho hask patience hfirst hsecond).map fun _ hout => hout

theorem settle_yields (depth patience : Nat) {runs : List (Run α)}
    (hruns : AllAscending P le runs) :
    Yields (settle less depth patience runs) fun pending => AllAscending P le pending.runs := by
  fun_induction settle less depth patience runs with
  | case1 patience second first rest hdeep ih =>
    obtain ⟨hsecond, hrest⟩ := List.forall_mem_cons.mp hruns
    obtain ⟨hfirst, hrest⟩ := List.forall_mem_cons.mp hrest
    refine (joinRuns_yields ho hask patience hfirst hsecond).bind fun out hout => ?_
    exact ih out.1 out.2 (List.forall_mem_cons.mpr ⟨hout, hrest⟩)
  | case2 => exact Yields.ok hruns
  | case3 => exact Yields.ok hruns

theorem mergeAll_yields (patience : Nat) {runs : List (Run α)} (hruns : AllAscending P le runs) :
    Yields (mergeAll less patience runs) (Ascending P le) := by
  fun_induction mergeAll less patience runs with
  | case1 => exact Yields.ok .nil
  | case2 patience run => exact Yields.ok (hruns run List.mem_cons_self)
  | case3 patience second first =>
    obtain ⟨hsecond, hrest⟩ := List.forall_mem_cons.mp hruns
    obtain ⟨hfirst, -⟩ := List.forall_mem_cons.mp hrest
    exact (joinRuns_yields ho hask patience hfirst hsecond).map fun _ hout => hout
  | case4 patience third second first rest hshort ih =>
    -- the second run is joined with the first
    obtain ⟨hthird, hrest⟩ := List.forall_mem_cons.mp hruns
    obtain ⟨hsecond, hrest⟩ := List.forall_mem_cons.mp hrest
    obtain ⟨hfirst, hrest⟩ := List.forall_mem_cons.mp hrest
    refine (joinRuns_yields ho hask patience hfirst hsecond).bind fun out hout => ?_
    refine ih out.1 out.2 (List.forall_mem_cons.mpr ⟨hthird, ?_⟩)
    exact List.forall_mem_cons.mpr ⟨hout, hrest⟩
  | case5 patience third second first rest hlong ih =>
    -- the second run is joined with the third
    obtain ⟨hthird, hrest⟩ := List.forall_mem_cons.mp hruns
    obtain ⟨hsecond, hrest⟩ := List.forall_mem_cons.mp hrest
    refine (joinRuns_yields ho hask patience hsecond hthird).bind fun out hout => ?_
    exact ih out.1 out.2 (List.forall_mem_cons.mpr ⟨hout, hrest⟩)

/-! ## Section 5: Sorting -/

theorem collect_yields (total least start : Nat) {pending : Pending α} {items : List α}
    (hruns : AllAscending P le pending.runs) (hitems : ∀ x ∈ items, P x) :
    Yields (collect less total least start pending items) fun out =>
      AllAscending P le out.runs := by
  fun_induction collect less total least start pending items with
  | case1 => exact Yields.ok hruns
  | case2 start pending x xs ih =>
    refine (nextRun_yields ho hask least hitems).bind fun run hrun => ?_
    refine (settle_yields ho hask _ pending.patience hruns).bind fun settled hsettled => ?_
    refine ih run settled (List.forall_mem_cons.mpr ⟨hrun, hsettled⟩) fun z hz => ?_
    exact hitems z (List.mem_cons_of_mem x (List.mem_of_mem_drop hz))

/-- A sort of items that may be asked about succeeds, and its items are in
    ascending order. -/
theorem sort_yields {items : List α} (hitems : ∀ x ∈ items, P x) :
    Yields (sort less items) (Ascending P le) := by
  have hnone : AllAscending P le [] := List.forall_mem_nil _
  refine (collect_yields ho hask items.length _ 0 hnone hitems).bind fun pending hpending => ?_
  exact mergeAll_yields ho hask pending.patience hpending

end

end Keyspace.Sorting
