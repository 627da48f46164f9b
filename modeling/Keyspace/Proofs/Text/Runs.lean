import Keyspace.Text.Split

/-! # The runs of a text

    The runs of a text are its names: the maximal stretches without a
    separator. Three laws say all about them. A text without separators is one
    run, or none if it is empty (`runs_of_not_mem`); a separator parts the runs
    before it from those after it (`runs_append_sep`); and every text is of one
    of these two shapes (`separated_induction`).

    From the laws follow that joining names and cutting them apart again
    changes nothing (`runs_intercalate`), and that runs are what their name
    says: the stretches that cannot be made longer, one for each, in the order
    of their places (`runs_maximal`).
-/

namespace Keyspace.Text

variable {sep : Char}

/-! ## Section 1: Laws -/

/-- What holds of texts without separators, and of two texts with a separator
    between them as soon as it holds of the second one, holds of every text. -/
theorem separated_induction (sep : Char) {motive : List Char → Prop}
    (free : ∀ cs, sep ∉ cs → motive cs)
    (parted : ∀ cs ds, sep ∉ cs → motive ds → motive (cs ++ sep :: ds)) :
    ∀ cs, motive cs := by
  intro cs
  -- induction on the length: what follows the first separator is shorter
  induction hn : cs.length using Nat.strongRecOn generalizing cs with
  | ind n ih =>
    by_cases hmem : sep ∈ cs
    · obtain ⟨before, after, rfl, hbefore⟩ := List.eq_append_cons_of_mem hmem
      refine parted before after hbefore (ih after.length ?_ after rfl)
      rw [← hn, List.length_append, List.length_cons]
      omega
    · exact free cs hmem

theorem pieces_of_not_mem {cs : List Char} (h : sep ∉ cs) : pieces sep cs = [cs] := by
  induction cs with
  | nil => rfl
  | cons c cs ih =>
    have hc : c ≠ sep := fun hc => h (hc ▸ List.mem_cons_self)
    have hcs : sep ∉ cs := fun hcs => h (List.mem_cons_of_mem _ hcs)
    rw [pieces, if_neg hc, ih hcs]

theorem pieces_append_sep (cs ds : List Char) :
    pieces sep (cs ++ sep :: ds) = pieces sep cs ++ pieces sep ds := by
  induction cs with
  | nil => rw [List.nil_append, pieces_sep, pieces_nil, List.singleton_append]
  | cons c cs ih =>
    by_cases hc : c = sep
    · rw [hc, List.cons_append, pieces_sep, pieces_sep, ih, List.cons_append]
    · -- the character belongs to the first piece, which is on the left side
      simp only [List.cons_append, pieces, if_neg hc, ih]
      cases hp : pieces sep cs with
      | nil => exact absurd hp (pieces_ne_nil sep cs)
      | cons p ps => rfl

theorem runs_of_not_mem {cs : List Char} (h : sep ∉ cs) :
    runs sep cs = if cs = [] then [] else [cs] := by
  rw [runs, pieces_of_not_mem h]
  cases cs <;> simp

theorem runs_of_isName {cs : List Char} (h : IsName sep cs) : runs sep cs = [cs] := by
  rw [runs_of_not_mem h.2, if_neg h.1]

@[simp] theorem runs_nil : runs sep [] = [] := rfl

/-- A separator parts the runs before it from those after it. -/
theorem runs_append_sep (cs ds : List Char) :
    runs sep (cs ++ sep :: ds) = runs sep cs ++ runs sep ds := by
  rw [runs, pieces_append_sep, List.filter_append]
  rfl

@[simp] theorem runs_sep_cons (cs : List Char) : runs sep (sep :: cs) = runs sep cs :=
  runs_append_sep [] cs

theorem runs_append_singleton_sep (cs : List Char) : runs sep (cs ++ [sep]) = runs sep cs := by
  rw [runs_append_sep, runs_nil, List.append_nil]

/-- Only texts of separators alone have no runs. -/
theorem runs_eq_nil_iff {cs : List Char} : runs sep cs = [] ↔ ∀ c ∈ cs, c = sep := by
  constructor
  · intro h c hc
    -- the runs are all that is left when the separators are erased
    have hflat : without sep cs = [] := by rw [← flatten_runs, h, List.flatten_nil]
    by_cases hne : c = sep
    · exact hne
    · have hmem : c ∈ without sep cs := List.mem_filter.mpr ⟨hc, by simpa using hne⟩
      rw [hflat] at hmem
      exact absurd hmem List.not_mem_nil
  · intro h
    induction cs with
    | nil => rfl
    | cons c cs ih =>
      rw [h c List.mem_cons_self, runs_sep_cons]
      exact ih fun d hd => h d (List.mem_cons_of_mem _ hd)

/-- The separators in front of a text part nothing. -/
theorem runs_dropWhile (cs : List Char) : runs sep (cs.dropWhile (· == sep)) = runs sep cs := by
  induction cs with
  | nil => rfl
  | cons c cs ih =>
    by_cases hc : c = sep
    · subst hc
      rw [List.dropWhile_cons, if_pos (beq_self_eq_true c), ih, runs_sep_cons]
    · rw [List.dropWhile_cons, if_neg (by simpa using hc)]

/-! ## Section 2: Joined texts -/

/-- Texts that are joined by separators have the runs of each of them. -/
theorem runs_intercalate_flatMap (texts : List (List Char)) :
    runs sep ([sep].intercalate texts) = texts.flatMap (runs sep) := by
  induction texts with
  | nil => rfl
  | cons t rest ih =>
    cases rest with
    | nil => rw [List.intercalate_singleton, List.flatMap_singleton]
    | cons u rest =>
      -- a separator parts the first text from the others
      rw [List.flatMap_cons, ← ih, List.intercalate_cons_cons, List.append_assoc,
        List.singleton_append, runs_append_sep]

/-- Names that are joined by separators are the runs of the result. -/
theorem runs_intercalate {names : List (List Char)} (h : ∀ n ∈ names, IsName sep n) :
    runs sep ([sep].intercalate names) = names := by
  rw [runs_intercalate_flatMap]
  induction names with
  | nil => rfl
  | cons n rest ih =>
    have hn : IsName sep n := h n List.mem_cons_self
    have hrest : ∀ m ∈ rest, IsName sep m := fun m hm => h m (List.mem_cons_of_mem _ hm)
    rw [List.flatMap_cons, runs_of_isName hn, ih hrest, List.singleton_append]

/-- What is joined begins like its first text, unless that is empty. -/
theorem head?_intercalate {first : List Char} (h : first ≠ []) (rest : List (List Char)) :
    ([sep].intercalate (first :: rest)).head? = first.head? := by
  obtain ⟨c, cs, rfl⟩ := List.exists_cons_of_ne_nil h
  cases rest with
  | nil => rw [List.intercalate_singleton]
  | cons u rest =>
    rw [List.intercalate_cons_cons, List.append_assoc, List.cons_append, List.head?_cons,
      List.head?_cons]

/-- Joined names do not begin with a separator. -/
theorem head?_intercalate_ne {names : List (List Char)} (h : ∀ n ∈ names, IsName sep n) :
    ([sep].intercalate names).head? ≠ some sep := by
  cases names with
  | nil => simp
  | cons n rest =>
    obtain ⟨hne, hfree⟩ := h n List.mem_cons_self
    rw [head?_intercalate hne]
    intro hhead
    exact hfree (List.mem_of_mem_head? hhead)

/-! ## Section 3: Places -/

/-- From place `i` up to, and without, place `j` there is a stretch without
    separators that is not empty and cannot be made longer. -/
structure IsRun (sep : Char) (cs : List Char) (i j : Nat) : Prop where
  lt : i < j
  le : j ≤ cs.length
  free : ∀ k, i ≤ k → k < j → cs[k]? ≠ some sep
  start : i = 0 ∨ cs[i - 1]? = some sep
  stop : j = cs.length ∨ cs[j]? = some sep

/-- The texts at all places with a run, in the order of the places. -/
def MaximalRuns (sep : Char) (cs : List Char) (rs : List (List Char)) : Prop :=
  ∃ places : List (Nat × Nat),
    places.Pairwise (fun a b => a.2 < b.1) ∧
    (∀ i j, (i, j) ∈ places ↔ IsRun sep cs i j) ∧
    rs = places.map fun place => (cs.take place.2).drop place.1

/-- Without separators only the whole text is a run. -/
theorem isRun_of_not_mem {cs : List Char} {i j : Nat} (h : sep ∉ cs) :
    IsRun sep cs i j ↔ i = 0 ∧ j = cs.length ∧ cs ≠ [] := by
  have hfree : ∀ k, cs[k]? ≠ some sep := fun k hk => h (List.mem_of_getElem? hk)
  constructor
  · intro hrun
    have hi : i = 0 := hrun.start.resolve_right (hfree _)
    have hj : j = cs.length := hrun.stop.resolve_right (hfree _)
    have hlt := hrun.lt
    refine ⟨hi, hj, ?_⟩
    rintro rfl
    rw [hj] at hlt
    exact Nat.not_lt_zero i hlt
  · rintro ⟨rfl, rfl, hne⟩
    exact ⟨List.length_pos_iff.mpr hne, Nat.le_refl _, fun k _ _ => hfree k, Or.inl rfl,
      Or.inl rfl⟩

section Parted

variable {cs ds : List Char}

theorem getElem?_append_sep_left {k : Nat} (h : k < cs.length) :
    (cs ++ sep :: ds)[k]? = cs[k]? :=
  List.getElem?_append_left h

theorem getElem?_append_sep_self : (cs ++ sep :: ds)[cs.length]? = some sep := by simp

theorem getElem?_append_sep_right (k : Nat) :
    (cs ++ sep :: ds)[cs.length + 1 + k]? = ds[k]? := by
  rw [List.getElem?_append_right (by omega), Nat.add_assoc, Nat.add_sub_cancel_left, Nat.add_comm,
    List.getElem?_cons_succ]

/-- A run that begins before a separator is a run of the text before it. -/
theorem isRun_append_sep_left {i j : Nat} (hi : i ≤ cs.length) :
    IsRun sep (cs ++ sep :: ds) i j ↔ IsRun sep cs i j := by
  constructor
  · rintro ⟨hlt, -, hfree, hstart, hstop⟩
    -- the run cannot reach over the separator
    have hj : j ≤ cs.length := by
      by_cases hj : j ≤ cs.length
      · exact hj
      · exact absurd getElem?_append_sep_self (hfree cs.length hi (by omega))
    refine ⟨hlt, hj, fun k hik hkj => ?_, ?_, ?_⟩
    · rw [← getElem?_append_sep_left (show k < cs.length by omega)]
      exact hfree k hik hkj
    · rw [← getElem?_append_sep_left (show i - 1 < cs.length by omega)]
      exact hstart
    · -- a run up to the separator ends where the first text does
      by_cases hend : j = cs.length
      · exact Or.inl hend
      · rw [← getElem?_append_sep_left (show j < cs.length by omega)]
        rw [List.length_append, List.length_cons] at hstop
        exact Or.inr (hstop.resolve_left (by omega))
  · rintro ⟨hlt, hj, hfree, hstart, hstop⟩
    refine ⟨hlt, ?_, fun k hik hkj => ?_, ?_, ?_⟩
    · rw [List.length_append]
      omega
    · rw [getElem?_append_sep_left (show k < cs.length by omega)]
      exact hfree k hik hkj
    · rw [getElem?_append_sep_left (show i - 1 < cs.length by omega)]
      exact hstart
    · rcases hstop with rfl | hstop
      · exact Or.inr getElem?_append_sep_self
      · obtain ⟨hend, -⟩ := List.getElem?_eq_some_iff.mp hstop
        rw [getElem?_append_sep_left hend]
        exact Or.inr hstop

/-- A run behind a separator is a run of the text behind it. -/
theorem isRun_append_sep_right {i j : Nat} :
    IsRun sep (cs ++ sep :: ds) (cs.length + 1 + i) (cs.length + 1 + j) ↔ IsRun sep ds i j := by
  have hlen : (cs ++ sep :: ds).length = cs.length + 1 + ds.length := by
    rw [List.length_append, List.length_cons]
    omega
  constructor
  · rintro ⟨hlt, hj, hfree, hstart, hstop⟩
    refine ⟨by omega, by omega, fun k hik hkj => ?_, ?_, ?_⟩
    · rw [← getElem?_append_sep_right k]
      exact hfree _ (by omega) (by omega)
    · -- the separator itself precedes only what is at the beginning of the second text
      cases i with
      | zero => exact Or.inl rfl
      | succ n =>
        right
        show ds[n]? = some sep
        rw [← getElem?_append_sep_right n]
        exact hstart.resolve_left (by omega)
    · rw [← getElem?_append_sep_right j]
      exact hstop.imp_left (by omega)
  · rintro ⟨hlt, hj, hfree, hstart, hstop⟩
    refine ⟨by omega, by omega, fun k hik hkj => ?_, ?_, ?_⟩
    · obtain ⟨k', rfl⟩ := Nat.exists_eq_add_of_le (show cs.length + 1 ≤ k by omega)
      rw [getElem?_append_sep_right k']
      exact hfree k' (by omega) (by omega)
    · right
      cases i with
      | zero => exact getElem?_append_sep_self
      | succ n =>
        show (cs ++ sep :: ds)[cs.length + 1 + n]? = some sep
        rw [getElem?_append_sep_right n]
        exact hstart.resolve_left (by omega)
    · rw [getElem?_append_sep_right j]
      exact hstop.imp_left (by omega)

theorem isRun_append_sep {i j : Nat} :
    IsRun sep (cs ++ sep :: ds) i j ↔ IsRun sep cs i j ∨
      ∃ i' j', IsRun sep ds i' j' ∧ cs.length + 1 + i' = i ∧ cs.length + 1 + j' = j := by
  constructor
  · intro hrun
    by_cases hi : i ≤ cs.length
    · exact Or.inl ((isRun_append_sep_left hi).mp hrun)
    · have hlt := hrun.lt
      obtain ⟨i', rfl⟩ := Nat.exists_eq_add_of_le (show cs.length + 1 ≤ i by omega)
      obtain ⟨j', rfl⟩ := Nat.exists_eq_add_of_le (show cs.length + 1 ≤ j by omega)
      exact Or.inr ⟨i', j', isRun_append_sep_right.mp hrun, rfl, rfl⟩
  · rintro (hrun | ⟨i', j', hrun, rfl, rfl⟩)
    · exact (isRun_append_sep_left (by have := hrun.lt; have := hrun.le; omega)).mpr hrun
    · exact isRun_append_sep_right.mpr hrun

end Parted

theorem maximalRuns_of_not_mem {cs : List Char} (h : sep ∉ cs) :
    MaximalRuns sep cs (if cs = [] then [] else [cs]) := by
  by_cases hnil : cs = []
  · refine ⟨[], List.Pairwise.nil, fun i j => ?_, if_pos hnil⟩
    rw [isRun_of_not_mem h]
    simp [hnil]
  · refine ⟨[(0, cs.length)], List.pairwise_singleton _ _, fun i j => ?_, ?_⟩
    · rw [isRun_of_not_mem h]
      simp [hnil]
    · rw [if_neg hnil]
      simp

theorem MaximalRuns.append_sep {cs ds : List Char} {rs qs : List (List Char)}
    (hcs : MaximalRuns sep cs rs) (hds : MaximalRuns sep ds qs) :
    MaximalRuns sep (cs ++ sep :: ds) (rs ++ qs) := by
  obtain ⟨left, hleft, hmemLeft, rfl⟩ := hcs
  obtain ⟨right, hright, hmemRight, rfl⟩ := hds
  let shift : Nat × Nat → Nat × Nat := fun place =>
    (cs.length + 1 + place.1, cs.length + 1 + place.2)
  refine ⟨left ++ right.map shift, ?_, fun i j => ?_, ?_⟩
  · -- the places of the first text lie before the separator
    refine List.pairwise_append.mpr ⟨hleft, ?_, fun a ha b hb => ?_⟩
    · refine List.pairwise_map.mpr (hright.imp fun hab => ?_)
      show cs.length + 1 + _ < cs.length + 1 + _
      omega
    · obtain ⟨b', -, rfl⟩ := List.mem_map.mp hb
      have hle := ((hmemLeft a.1 a.2).mp ha).le
      show a.2 < cs.length + 1 + b'.1
      omega
  · rw [List.mem_append, List.mem_map, hmemLeft, isRun_append_sep]
    refine or_congr_right ⟨?_, ?_⟩
    · rintro ⟨b, hb, hshift⟩
      obtain ⟨hi, hj⟩ := Prod.mk.inj hshift
      exact ⟨b.1, b.2, (hmemRight b.1 b.2).mp hb, hi, hj⟩
    · rintro ⟨i', j', hrun, rfl, rfl⟩
      exact ⟨(i', j'), (hmemRight i' j').mpr hrun, rfl⟩
  · -- the text at a place is the same in the whole and in its part
    rw [List.map_append, List.map_map]
    congr 1
    · refine List.map_congr_left fun place hplace => ?_
      have hle := ((hmemLeft place.1 place.2).mp hplace).le
      rw [List.take_append_of_le_length hle]
    · refine List.map_congr_left fun place _ => ?_
      show (ds.take place.2).drop place.1 =
        ((cs ++ sep :: ds).take (cs.length + 1 + place.2)).drop (cs.length + 1 + place.1)
      rw [List.append_cons, List.take_append, List.drop_append]
      simp

/-- The runs of a text are its stretches without separators that cannot be
    made longer, in the order of their places. -/
theorem runs_maximal (cs : List Char) : MaximalRuns sep cs (runs sep cs) := by
  induction cs using separated_induction sep with
  | free cs h =>
    rw [runs_of_not_mem h]
    exact maximalRuns_of_not_mem h
  | parted cs ds h ih =>
    rw [runs_append_sep, runs_of_not_mem h]
    exact (maximalRuns_of_not_mem h).append_sep ih

/-- There is one run at most. -/
def AtMostOneRun (sep : Char) (cs : List Char) : Prop :=
  ∀ i j i' j', IsRun sep cs i j → IsRun sep cs i' j' → i = i' ∧ j = j'

theorem MaximalRuns.length_le_one_iff {cs : List Char} {rs : List (List Char)}
    (h : MaximalRuns sep cs rs) : rs.length ≤ 1 ↔ AtMostOneRun sep cs := by
  obtain ⟨places, hordered, hmem, rfl⟩ := h
  rw [List.length_map]
  constructor
  · intro hlen i j i' j' hrun hrun'
    obtain ⟨place, hplace⟩ := List.length_eq_one_iff.mp
      (Nat.le_antisymm hlen (List.length_pos_of_mem ((hmem i j).mpr hrun)))
    rw [hplace] at hmem
    have hfirst : (i, j) = place := List.mem_singleton.mp ((hmem i j).mpr hrun)
    have hsecond : (i', j') = place := List.mem_singleton.mp ((hmem i' j').mpr hrun')
    exact Prod.mk.inj (hfirst.trans hsecond.symm)
  · intro hone
    match places, hordered, hmem with
    | [], _, _ => exact Nat.zero_le 1
    | [_], _, _ => exact Nat.le_refl 1
    | a :: b :: rest, hordered, hmem =>
      -- two runs at different places, though there is one place only
      have ha : IsRun sep cs a.1 a.2 := (hmem a.1 a.2).mp List.mem_cons_self
      have hb : IsRun sep cs b.1 b.2 :=
        (hmem b.1 b.2).mp (List.mem_cons_of_mem a List.mem_cons_self)
      have hab : a.2 < b.1 := (List.pairwise_cons.mp hordered).1 b List.mem_cons_self
      obtain ⟨hstart, -⟩ := hone _ _ _ _ ha hb
      have hlt := ha.lt
      omega

theorem length_runs_le_one_iff {cs : List Char} :
    (runs sep cs).length ≤ 1 ↔ AtMostOneRun sep cs :=
  (runs_maximal cs).length_le_one_iff

end Keyspace.Text
