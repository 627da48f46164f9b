import Keyspace.Sorting.Basic
import Keyspace.Proofs.Except

/-! # Sorting rearranges

    Sorting asks questions of any kind, and their answers may be inconsistent.
    Whatever they are, a sort that succeeds only rearranges its items:
    `sort_perm`. The steps are those of the algorithm. The next run consists of
    the leading items of the list (`nextRun_perm`), a merge keeps the items of
    both runs whichever of them it takes first (`mergeRuns_perm`), and so do the
    merges of all pending runs (`mergeAll_perm`).
-/

namespace Keyspace.Sorting

variable {α ε : Type} {less : α → α → Except ε Bool}

/-! ## Section 1: The next run -/

/-- A run is continued by the items that come next. -/
theorem continueRun_isPrefix {descending : Bool} {last : α} {items run : List α}
    (h : continueRun less descending last items = .ok run) : run <+: items := by
  induction items generalizing last run with
  | nil =>
    obtain rfl := Except.ok.inj h
    exact List.prefix_rfl
  | cons x xs ih =>
    obtain ⟨isLess, -, h⟩ := bind_eq_ok.mp h
    split at h
    · obtain ⟨rest, hrest, rfl⟩ := map_eq_ok.mp h
      exact List.prefix_cons_inj x |>.mpr (ih hrest)
    · obtain rfl := Except.ok.inj h
      exact List.nil_prefix

theorem leadingRun_perm {items run : List α} (h : leadingRun less items = .ok run) :
    run.Perm (items.take run.length) := by
  match items with
  | [] =>
    obtain rfl := Except.ok.inj h
    exact List.Perm.refl _
  | [x] =>
    obtain rfl := Except.ok.inj h
    exact List.Perm.refl _
  | x :: y :: rest =>
    obtain ⟨descending, -, h⟩ := bind_eq_ok.mp h
    obtain ⟨tail, htail, rfl⟩ := map_eq_ok.mp h
    have htake : tail = rest.take tail.length :=
      List.prefix_iff_eq_take.mp (continueRun_isPrefix htail)
    have hrun : x :: y :: tail = (x :: y :: rest).take (x :: y :: tail).length := by
      simpa using htake
    split
    · rw [List.length_reverse, ← hrun]
      exact List.reverse_perm _
    · rw [← hrun]

theorem leadingRun_ne_nil {x : α} {xs run : List α}
    (h : leadingRun less (x :: xs) = .ok run) : run ≠ [] := by
  cases xs with
  | nil =>
    obtain rfl := Except.ok.inj h
    simp
  | cons y rest =>
    obtain ⟨descending, -, h⟩ := bind_eq_ok.mp h
    obtain ⟨tail, -, rfl⟩ := map_eq_ok.mp h
    split <;> simp

theorem insertAll_perm {run items out : List α} (h : insertAll less run items = .ok out) :
    out.Perm (run ++ items) := by
  induction items generalizing run with
  | nil =>
    obtain rfl := Except.ok.inj h
    simp
  | cons x xs ih =>
    obtain ⟨i, -, h⟩ := bind_eq_ok.mp h
    calc out
      _ |>.Perm ((run.take i ++ x :: run.drop i) ++ xs) := ih h
      _ |>.Perm ((x :: (run.take i ++ run.drop i)) ++ xs) :=
        List.perm_middle.append_right xs
      _ = (x :: run) ++ xs := by rw [List.take_append_drop]
      _ |>.Perm (run ++ x :: xs) := List.perm_middle.symm

/-- The next run consists of the leading items. -/
theorem nextRun_perm {least : Nat} {items run : List α}
    (h : nextRun less least items = .ok run) : run.Perm (items.take run.length) := by
  obtain ⟨first, hfirst, h⟩ := bind_eq_ok.mp h
  have hperm := insertAll_perm h
  have hlead := leadingRun_perm hfirst
  have hle : first.length ≤ items.length := by
    have := hlead.length_eq
    simp only [List.length_take] at this
    omega
  by_cases hleast : least ≤ first.length
  · -- the run is long enough, nothing is inserted
    have hnil : (items.take least).drop first.length = [] := by
      apply List.drop_eq_nil_of_le
      simp only [List.length_take]
      omega
    rw [hnil, List.append_nil] at hperm
    rw [hperm.length_eq]
    exact hperm.trans hlead
  · have hlen : run.length = min least items.length := by
      have := hperm.length_eq
      simp only [List.length_append, List.length_drop, List.length_take] at this
      omega
    have htake : items.take run.length = items.take least := by
      rw [hlen, List.take_eq_take_iff]
      omega
    have hfront : items.take first.length = (items.take least).take first.length := by
      rw [List.take_take]
      congr 1
      omega
    calc run
      _ |>.Perm (first ++ (items.take least).drop first.length) := hperm
      _ |>.Perm (items.take first.length ++ (items.take least).drop first.length) :=
        hlead.append_right _
      _ = items.take run.length := by rw [hfront, List.take_append_drop, htake]

theorem nextRun_ne_nil {least : Nat} {x : α} {xs run : List α}
    (h : nextRun less least (x :: xs) = .ok run) : run ≠ [] := by
  obtain ⟨first, hfirst, h⟩ := bind_eq_ok.mp h
  rintro rfl
  have hempty := List.nil_perm.mp (insertAll_perm h)
  exact leadingRun_ne_nil hfirst (List.append_eq_nil_iff.mp hempty).1

/-! ## Section 2: Merging two runs -/

namespace Merge

theorem items_takeAside_perm (m : Merge α) (n : Nat) : (m.takeAside n).items.Perm m.items := by
  have hswap : (m.aside.take n ++ m.other).Perm (m.other ++ m.aside.take n) :=
    List.perm_append_comm
  calc (m.takeAside n).items
    _ = m.merged.reverse ++ (m.aside.take n ++ m.other) ++ m.aside.drop n := by
      simp [items, takeAside]
    _ |>.Perm (m.merged.reverse ++ (m.other ++ m.aside.take n) ++ m.aside.drop n) :=
      (hswap.append_left _).append_right _
    _ = m.merged.reverse ++ m.other ++ (m.aside.take n ++ m.aside.drop n) := by simp
    _ = m.items := by rw [List.take_append_drop, items]

theorem items_takeOther (m : Merge α) (n : Nat) : (m.takeOther n).items = m.items := by
  simp [items, takeOther]

theorem leapAside_perm {side : Side} {m m' : Merge α} {n : Nat}
    (h : leapAside side less m = .ok (m', n)) : m'.items.Perm m.items := by
  unfold leapAside at h
  split at h
  · obtain ⟨k, -, hk⟩ := map_eq_ok.mp h
    obtain ⟨rfl, rfl⟩ := Prod.mk.inj hk
    rw [items_takeOther]
    exact items_takeAside_perm m k
  · obtain ⟨rfl, rfl⟩ := Prod.mk.inj (Except.ok.inj h)
    exact List.Perm.refl _

theorem leapOther_perm {side : Side} {m m' : Merge α} {n : Nat}
    (h : leapOther side less m = .ok (m', n)) : m'.items.Perm m.items := by
  unfold leapOther at h
  split at h
  · obtain ⟨k, -, hk⟩ := map_eq_ok.mp h
    obtain ⟨rfl, rfl⟩ := Prod.mk.inj hk
    have := items_takeAside_perm (m.takeOther k) 1
    rwa [items_takeOther] at this
  · obtain ⟨rfl, rfl⟩ := Prod.mk.inj (Except.ok.inj h)
    exact List.Perm.refl _

theorem leapBoth_perm {side : Side} {m m' : Merge α} {n : Nat}
    (h : leapBoth side less m = .ok (m', n)) : m'.items.Perm m.items := by
  cases side with
  | front =>
    obtain ⟨⟨m₁, n₁⟩, h₁, h⟩ := bind_eq_ok.mp h
    obtain ⟨⟨m₂, n₂⟩, h₂, heq⟩ := map_eq_ok.mp h
    obtain ⟨rfl, -⟩ := Prod.mk.inj heq
    exact (leapOther_perm h₂).trans (leapAside_perm h₁)
  | back =>
    obtain ⟨⟨m₁, n₁⟩, h₁, h⟩ := bind_eq_ok.mp h
    obtain ⟨⟨m₂, n₂⟩, h₂, heq⟩ := map_eq_ok.mp h
    obtain ⟨rfl, -⟩ := Prod.mk.inj heq
    exact (leapAside_perm h₂).trans (leapOther_perm h₁)

/-- A merge keeps its items, at whatever pace it takes them. -/
theorem finish_perm {side : Side} {steps patience : Nat} {pace : Pace} {m : Merge α}
    {out : List α × Nat} (h : finish side less steps patience pace m = .ok out) :
    out.1.Perm m.items := by
  induction steps generalizing patience pace m with
  | zero =>
    obtain rfl := Except.ok.inj h
    exact List.Perm.refl _
  | succ steps ih =>
    unfold finish at h
    split at h
    · -- one item is taken
      obtain ⟨isOther, -, h⟩ := bind_eq_ok.mp h
      refine (ih h).trans ?_
      cases isOther with
      | true => exact List.Perm.of_eq (items_takeOther m 1)
      | false => exact items_takeAside_perm m 1
    · -- a leap in both runs
      obtain ⟨⟨m', n⟩, hleap, h⟩ := bind_eq_ok.mp h
      have hperm := leapBoth_perm hleap
      dsimp only at h
      split at h
      · obtain rfl := Except.ok.inj h
        exact hperm
      · split at h
        · exact (ih h).trans hperm
        · exact (ih h).trans hperm
    · obtain rfl := Except.ok.inj h
      exact List.Perm.refl _

end Merge

theorem mergeOverlapping_perm {patience : Nat} {first second : List α} {out : List α × Nat}
    (h : mergeOverlapping less patience first second = .ok out) :
    out.1.Perm (first ++ second) := by
  unfold mergeOverlapping at h
  split at h
  · have hperm := Merge.finish_perm h
    rw [Merge.items_takeOther] at hperm
    exact hperm.trans (by simpa [Merge.items] using List.perm_append_comm)
  · obtain ⟨⟨items, patience'⟩, hmerge, rfl⟩ := map_eq_ok.mp h
    have hperm := Merge.finish_perm hmerge
    rw [Merge.items_takeOther] at hperm
    calc items.reverse
      _ |>.Perm items := List.reverse_perm _
      _ |>.Perm (first.reverse ++ second.reverse) := by simpa [Merge.items] using hperm
      _ |>.Perm (first ++ second) :=
        (List.reverse_perm first).append (List.reverse_perm second)

/-- Merging keeps the items of both runs. -/
theorem mergeRuns_perm {patience : Nat} {first second : List α} {out : List α × Nat}
    (h : mergeRuns less patience first second = .ok out) : out.1.Perm (first ++ second) := by
  cases second with
  | nil =>
    obtain rfl := Except.ok.inj h
    simp
  | cons y ys =>
    obtain ⟨i, -, h⟩ := bind_eq_ok.mp h
    split at h
    · obtain rfl := Except.ok.inj h
      exact List.Perm.refl _
    · obtain ⟨j, -, h⟩ := bind_eq_ok.mp h
      split at h
      · obtain rfl := Except.ok.inj h
        exact List.Perm.refl _
      · -- what is in its place already stays around what is merged
        obtain ⟨⟨items, patience'⟩, hmerge, rfl⟩ := map_eq_ok.mp h
        have hperm := mergeOverlapping_perm hmerge
        calc first.take i ++ items ++ (y :: ys).drop j
          _ |>.Perm (first.take i ++ (first.drop i ++ (y :: ys).take j) ++ (y :: ys).drop j) :=
            (hperm.append_left _).append_right _
          _ = (first.take i ++ first.drop i) ++ ((y :: ys).take j ++ (y :: ys).drop j) := by
            simp only [List.append_assoc]
          _ = first ++ y :: ys := by rw [List.take_append_drop, List.take_append_drop]

/-! ## Section 3: Pending runs -/

/-- The items of runs that wait for their merges, the latest run first. -/
def waiting (runs : List (Run α)) : List α := runs.flatMap Run.items

theorem waiting_cons (run : Run α) (runs : List (Run α)) :
    waiting (run :: runs) = run.items ++ waiting runs := List.flatMap_cons

theorem joinRuns_perm {patience : Nat} {first second : Run α} {out : Run α × Nat}
    (h : joinRuns less patience first second = .ok out) :
    out.1.items.Perm (first.items ++ second.items) := by
  obtain ⟨⟨items, patience'⟩, hmerge, rfl⟩ := map_eq_ok.mp h
  exact mergeRuns_perm hmerge

/-- Two neighbouring runs may be replaced by the one they are joined to. -/
theorem waiting_joined_perm {first second run : Run α}
    (h : run.items.Perm (first.items ++ second.items)) (rest : List (Run α)) :
    (waiting (run :: rest)).Perm (waiting (second :: first :: rest)) := by
  rw [waiting_cons, waiting_cons, waiting_cons, ← List.append_assoc]
  exact (h.trans List.perm_append_comm).append_right _

theorem settle_perm {depth patience : Nat} {runs : List (Run α)} {out : Pending α}
    (h : settle less depth patience runs = .ok out) :
    (waiting out.runs).Perm (waiting runs) := by
  fun_induction settle less depth patience runs generalizing out with
  | case1 patience second first rest hdeep ih =>
    obtain ⟨⟨run, patience'⟩, hjoin, h⟩ := bind_eq_ok.mp h
    exact (ih run patience' h).trans (waiting_joined_perm (joinRuns_perm hjoin) rest)
  | case2 =>
    obtain rfl := Except.ok.inj h
    exact List.Perm.refl _
  | case3 =>
    obtain rfl := Except.ok.inj h
    exact List.Perm.refl _

theorem mergeAll_perm {patience : Nat} {runs : List (Run α)} {out : List α}
    (h : mergeAll less patience runs = .ok out) : out.Perm (waiting runs) := by
  fun_induction mergeAll less patience runs generalizing out with
  | case1 =>
    obtain rfl := Except.ok.inj h
    exact List.Perm.refl _
  | case2 patience run =>
    obtain rfl := Except.ok.inj h
    simp [waiting]
  | case3 patience second first =>
    obtain ⟨⟨run, patience'⟩, hjoin, rfl⟩ := map_eq_ok.mp h
    have hperm := waiting_joined_perm (joinRuns_perm hjoin) []
    simpa [waiting] using hperm
  | case4 patience third second first rest hshort ih =>
    -- the second run is joined with the first
    obtain ⟨⟨run, patience'⟩, hjoin, h⟩ := bind_eq_ok.mp h
    have hperm := waiting_joined_perm (joinRuns_perm hjoin) rest
    calc out
      _ |>.Perm (waiting (third :: run :: rest)) := ih run patience' h
      _ = third.items ++ waiting (run :: rest) := waiting_cons _ _
      _ |>.Perm (third.items ++ waiting (second :: first :: rest)) := hperm.append_left _
      _ = waiting (third :: second :: first :: rest) := (waiting_cons _ _).symm
  | case5 patience third second first rest hlong ih =>
    -- the second run is joined with the third
    obtain ⟨⟨run, patience'⟩, hjoin, h⟩ := bind_eq_ok.mp h
    exact (ih run patience' h).trans
      (waiting_joined_perm (joinRuns_perm hjoin) (first :: rest))

/-! ## Section 4: Sorting -/

theorem collect_perm {total least start : Nat} {pending out : Pending α} {items : List α}
    (h : collect less total least start pending items = .ok out) :
    (waiting out.runs).Perm (waiting pending.runs ++ items) := by
  fun_induction collect less total least start pending items generalizing out with
  | case1 =>
    obtain rfl := Except.ok.inj h
    simp
  | case2 start pending x xs ih =>
    obtain ⟨run, hrun, h⟩ := bind_eq_ok.mp h
    obtain ⟨settled, hsettled, h⟩ := bind_eq_ok.mp h
    have hfront := nextRun_perm hrun
    have hpos : 0 < run.length := List.length_pos_iff.mpr (nextRun_ne_nil hrun)
    have hrest : xs.drop (run.length - 1) = (x :: xs).drop run.length := by
      obtain ⟨n, hn⟩ : ∃ n, run.length = n + 1 := ⟨run.length - 1, by omega⟩
      rw [hn]
      simp
    calc waiting out.runs
      _ |>.Perm (run ++ waiting settled.runs ++ xs.drop (run.length - 1)) := ih _ _ h
      _ |>.Perm (waiting settled.runs ++ run ++ xs.drop (run.length - 1)) :=
        List.perm_append_comm.append_right _
      _ |>.Perm (waiting pending.runs ++ (x :: xs).take run.length ++ xs.drop (run.length - 1)) :=
        ((settle_perm hsettled).append hfront).append_right _
      _ = waiting pending.runs ++ (x :: xs) := by
        rw [hrest, List.append_assoc, List.take_append_drop]

/-- A sort that succeeds rearranges its items, whatever the answers. -/
theorem sort_perm {items out : List α} (h : sort less items = .ok out) : out.Perm items := by
  obtain ⟨pending, hcollect, h⟩ := bind_eq_ok.mp h
  have hperm := (mergeAll_perm h).trans (collect_perm hcollect)
  simpa [waiting] using hperm

end Keyspace.Sorting
