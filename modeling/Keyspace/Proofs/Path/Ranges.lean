import Keyspace.Proofs.Path.Failing
import Keyspace.Proofs.Path.Resolution
import Keyspace.Proofs.Text.Integers

/-! # Ranges of segments

    Two bounds cut a range out of the segments of a path. They must lie within
    the segments and have something between them; all other bounds are refused,
    and none is moved to the nearest end or counted from the last segment
    (`subpathAny_eq_ok_iff`, `raisesIndex_subpathAny_iff`). The error that
    refuses them tells both bounds. If one of them has too many digits to be
    told, there is another error in its place
    (`subpathAny_eq_tooManyDigits_iff`).

    So a range has as many segments as its bounds say, and ranges are put
    together without a look at the path itself:

    * A range of a range is a range of the path. Its bounds are counted on from
      the first bound (`between_between`). A single segment is a range as well
      (`nameAt?_eq_subpath?`), so indices are counted on in the same way.
    * Of two ranges that meet, the second one resolved against the first is the
      range from end to end (`between_resolve`).
    * The range of all segments is the path without its bucket.
-/

namespace Keyspace.Path

/-! ## Section 1: Bounds -/

/-- The bounds lie within `n` segments, and there is something between them. -/
structure AreBounds (n : Nat) (i j : Int) : Prop where
  nonneg : 0 ≤ i
  lt : i < j
  le : j ≤ n

theorem not_areBounds_iff {n : Nat} {i j : Int} :
    ¬AreBounds n i j ↔ i < 0 ∨ (n : Int) < j ∨ j ≤ i := by
  constructor
  · intro h
    by_cases hall : 0 ≤ i ∧ i < j ∧ j ≤ n
    · exact absurd ⟨hall.1, hall.2.1, hall.2.2⟩ h
    · omega
  · rintro hout ⟨hnonneg, hlt, hle⟩
    omega

section

variable {F : Type} {p q r : Path F} {i j k l : Int}

/-- The segments from index `i` up to, and without, index `j`, as a relative
    path. -/
def between (p : Path F) (i j : Int) : Path F :=
  p.derive none ((p.segments.take j.toNat).drop i.toNat)

theorem segments_between (p : Path F) (i j : Int) :
    (p.between i j).segments = (p.segments.take j.toNat).drop i.toNat := rfl

theorem isAbsolute_between (p : Path F) (i j : Int) : (p.between i j).isAbsolute = false := rfl

theorem subpath?_of_areBounds (h : AreBounds p.nameCount i j) :
    p.subpath? i j = some (p.between i j) := by
  rw [subpath?, if_neg]
  · rfl
  · exact fun hout => not_areBounds_iff.mpr hout h

theorem subpath?_of_not_areBounds (h : ¬AreBounds p.nameCount i j) : p.subpath? i j = none := by
  rw [subpath?, if_pos]
  exact not_areBounds_iff.mp h

theorem subpath?_eq_some_iff :
    p.subpath? i j = some q ↔ AreBounds p.nameCount i j ∧ q = p.between i j := by
  by_cases h : AreBounds p.nameCount i j
  · rw [subpath?_of_areBounds h, Option.some.injEq, eq_comm, and_iff_right h]
  · rw [subpath?_of_not_areBounds h]
    exact iff_of_false (Option.some_ne_none q).symm fun hq => h hq.1

/-- No segment is missing between the bounds, and none is added. -/
theorem nameCount_between (h : AreBounds p.nameCount i j) :
    ((p.between i j).nameCount : Int) = j - i := by
  obtain ⟨hnonneg, hlt, hle⟩ := h
  have hcount : p.nameCount = p.segments.length := rfl
  have hlength : (p.between i j).nameCount = min j.toNat p.segments.length - i.toNat := by
    rw [Address.nameCount, segments_between, List.length_drop, List.length_take]
  omega

/-! ## Section 2: Ranges of ranges -/

/-- What lies within a range lies within the path, counted on from the first
    bound. -/
theorem areBounds_between_iff (h : AreBounds p.nameCount i j) :
    AreBounds (p.between i j).nameCount k l ↔ 0 ≤ k ∧ k < l ∧ l ≤ j - i := by
  have hcount := nameCount_between h
  constructor
  · rintro ⟨hnonneg, hlt, hle⟩
    exact ⟨hnonneg, hlt, by omega⟩
  · rintro ⟨hnonneg, hlt, hle⟩
    exact ⟨hnonneg, hlt, by omega⟩

theorem AreBounds.shifted (h : AreBounds p.nameCount i j)
    (hinner : AreBounds (p.between i j).nameCount k l) : AreBounds p.nameCount (i + k) (i + l) := by
  obtain ⟨hk, hkl, hl⟩ := (areBounds_between_iff h).mp hinner
  obtain ⟨hi, hij, hj⟩ := h
  exact ⟨by omega, by omega, by omega⟩

theorem between_between (hi : 0 ≤ i) (hk : 0 ≤ k) (hkl : k ≤ l) (hl : l ≤ j - i) :
    (p.between i j).between k l = p.between (i + k) (i + l) := by
  have hfirst : i.toNat + k.toNat = (i + k).toNat := by omega
  have hlast : min (i.toNat + l.toNat) j.toNat = (i + l).toNat := by omega
  have hsegments : ((p.between i j).segments.take l.toNat).drop k.toNat =
      (p.segments.take (i + l).toNat).drop (i + k).toNat := by
    -- both cuts at the end come first, and the shorter one counts
    rw [segments_between, List.take_drop, List.drop_drop, List.take_take, hfirst, hlast]
  exact congrArg (p.derive none) hsegments

/-- A range within a range is the range of the path whose bounds are counted on
    from the first bound. -/
theorem subpath?_between (h : AreBounds p.nameCount i j)
    (hinner : AreBounds (p.between i j).nameCount k l) :
    (p.between i j).subpath? k l = p.subpath? (i + k) (i + l) := by
  obtain ⟨hk, hkl, hl⟩ := (areBounds_between_iff h).mp hinner
  rw [subpath?_of_areBounds hinner, subpath?_of_areBounds (h.shifted hinner),
    between_between h.nonneg hk (Int.le_of_lt hkl) hl]

/-! ## Section 3: Single segments -/

theorem drop_take_of_getElem? {xs : List String} {m : Nat} {s : String} (h : xs[m]? = some s) :
    (xs.take (m + 1)).drop m = [s] := by
  have hlength : (xs.take m).length = m := by
    obtain ⟨hm, -⟩ := List.getElem?_eq_some_iff.mp h
    rw [List.length_take]
    omega
  rw [List.take_add_one, h]
  exact List.drop_left' hlength

/-- A segment is the range between its index and the next one. -/
theorem nameAt?_eq_subpath? (p : Path F) (k : Int) : p.nameAt? k = p.subpath? k (k + 1) := by
  by_cases hk : k < 0
  · rw [nameAt?, if_pos hk, subpath?, if_pos (.inl hk)]
  · obtain ⟨m, rfl⟩ := Int.eq_ofNat_of_zero_le (Int.not_lt.mp hk)
    have hnext : ((m : Int) + 1).toNat = m + 1 := by omega
    rw [nameAt?, if_neg hk, Int.toNat_natCast]
    cases hs : p.segments[m]? with
    | none =>
      have hm : p.nameCount ≤ m := List.getElem?_eq_none_iff.mp hs
      rw [subpath?_of_not_areBounds]
      · rfl
      · rintro ⟨-, -, hle⟩
        omega
    | some s =>
      obtain ⟨hm, -⟩ := List.getElem?_eq_some_iff.mp hs
      have hcount : p.nameCount = p.segments.length := rfl
      rw [subpath?_of_areBounds ⟨by omega, by omega, by omega⟩, between, Int.toNat_natCast, hnext,
        drop_take_of_getElem? hs]
      rfl

/-! ## Section 4: Ranges that meet -/

theorem drop_take_append_drop_take {xs : List String} {a b c : Nat} (hab : a ≤ b) (hbc : b ≤ c) :
    (xs.take b).drop a ++ (xs.take c).drop b = (xs.take c).drop a := by
  have hsum : a + (b - a) = b := by omega
  -- the first range is what the range from end to end begins with
  have hfirst : (xs.take b).drop a = ((xs.take c).drop a).take (b - a) := by
    rw [List.take_drop, hsum, List.take_take, Nat.min_eq_left hbc]
  have hrest : (xs.take c).drop b = ((xs.take c).drop a).drop (b - a) := by
    rw [List.drop_drop, hsum]
  rw [hfirst, hrest, List.take_append_drop]

/-- The second of two ranges that meet, resolved against the first. -/
theorem between_resolve (hij : i ≤ j) (hjk : j ≤ k) :
    (p.between i j).resolve (p.between j k) = p.between i k := by
  have hsegments : (p.between i j).segments ++ (p.between j k).segments =
      (p.between i k).segments := by
    apply drop_take_append_drop_take
    · omega
    · omega
  rw [resolve_of_relative (isAbsolute_between p j k), hsegments]
  rfl

theorem segments_between_all (p : Path F) : (p.between 0 p.nameCount).segments = p.segments := by
  rw [segments_between, Int.toNat_natCast, Int.toNat_zero, List.drop_zero]
  exact List.take_length

theorem root?_of_absolute (hp : p.isAbsolute = true) :
    p.root? = some (p.derive p.bucket []) := by
  obtain ⟨b, hb⟩ := Option.isSome_iff_exists.mp hp
  rw [root?, hb]
  rfl

/-- All segments, resolved against the root, are the path. -/
theorem root_resolve_between (p : Path F) :
    (p.derive p.bucket []).resolve (p.between 0 p.nameCount) = p := by
  rw [resolve_of_relative (isAbsolute_between p _ _), segments_between_all]
  rfl

/-- All segments of a relative path are the path. -/
theorem between_all (hp : p.isAbsolute = false) : p.between 0 p.nameCount = p := by
  have hbucket : p.bucket = none := Address.isAbsolute_eq_false_iff.mp hp
  calc p.between 0 p.nameCount
      = p.derive none (p.between 0 p.nameCount).segments := rfl
    _ = p.derive p.bucket p.segments := by rw [segments_between_all, hbucket]
    _ = p := rfl

end

/-! ## Section 5: Questions with integers -/

variable {α : Type} {p q : StorePath} {i j k : Int}

/-- The outcome is the error of an index or range, which it tells. -/
def RaisesIndex (x : Except Fault α) (index : Value) : Prop :=
  ∃ f : Failure, x = .error (.failure f) ∧ f.error.detail = .indexOutOfRange index

theorem subpathAny_eq_ok_iff_subpath? :
    p.subpathAny (.int i) (.int j) = .ok q ↔ p.subpath? i j = some q := by
  simp only [subpathAny, Value.integer?]
  cases p.subpath? i j <;> simp

theorem subpathAny_eq_ok_iff :
    p.subpathAny (.int i) (.int j) = .ok q ↔
      AreBounds p.nameCount i j ∧ q = p.between i j := by
  rw [subpathAny_eq_ok_iff_subpath?, subpath?_eq_some_iff]

theorem subpathAny_of_not_areBounds (h : ¬AreBounds p.nameCount i j) :
    p.subpathAny (.int i) (.int j) = .error (p.rangeFault (.int i) (.int j)) := by
  simp only [subpathAny, Value.integer?, subpath?_of_not_areBounds h]

/-- Whether two integers can both be told. -/
theorem areWritable_iff :
    ((Value.int i).isWritable = true ∧ (Value.int j).isWritable = true) ↔
      Text.isShort i = true ∧ Text.isShort j = true := Iff.rfl

theorem raisesIndex_subpathAny_iff :
    RaisesIndex (p.subpathAny (.int i) (.int j)) (.pair (.int i) (.int j)) ↔
      ¬AreBounds p.nameCount i j ∧ Text.isShort i = true ∧ Text.isShort j = true := by
  rw [← areWritable_iff]
  constructor
  · rintro ⟨f, hf, -⟩
    have h : ¬AreBounds p.nameCount i j := by
      intro h
      rw [subpathAny_eq_ok_iff.mpr ⟨h, rfl⟩] at hf
      cases hf
    obtain ⟨-, hwritable, -⟩ := failure_of_subpathAny hf
    exact ⟨h, hwritable⟩
  · rintro ⟨h, hwritable⟩
    refine ⟨.invalidRange p.toAddress (.int i) (.int j) hwritable, ?_, rfl⟩
    rw [subpathAny_of_not_areBounds h, rangeFault_eq_failure_iff.mpr ⟨hwritable, rfl⟩]

/-- Bounds that cannot be told are refused all the same. -/
theorem subpathAny_eq_tooManyDigits_iff :
    p.subpathAny (.int i) (.int j) = .error (.misuse .tooManyDigits) ↔
      ¬AreBounds p.nameCount i j ∧ ¬(Text.isShort i = true ∧ Text.isShort j = true) := by
  rw [← areWritable_iff]
  by_cases h : AreBounds p.nameCount i j
  · simp [subpathAny_eq_ok_iff.mpr ⟨h, rfl⟩, h]
  · rw [subpathAny_of_not_areBounds h, rangeFault]
    split
    · next hwritable => simp [hwritable]
    · next hwritable => exact iff_of_true rfl ⟨h, hwritable⟩

theorem nameAtAny_eq_ok_iff_nameAt? :
    p.nameAtAny (.int k) = .ok q ↔ p.nameAt? k = some q := by
  simp only [nameAtAny, Value.integer?]
  cases p.nameAt? k <;> simp

/-- An index is in order exactly if it and the next one are bounds. -/
theorem nameAtAny_eq_ok_iff :
    p.nameAtAny (.int k) = .ok q ↔ p.subpathAny (.int k) (.int (k + 1)) = .ok q := by
  rw [nameAtAny_eq_ok_iff_nameAt?, nameAt?_eq_subpath?, subpathAny_eq_ok_iff_subpath?]

theorem resolveAny_path (p q : StorePath) : p.resolveAny (.path q) = .ok (p.resolve q) := rfl

theorem exists_subpathAny_iff :
    (∃ q, p.subpathAny (.int i) (.int j) = .ok q) ↔ AreBounds p.nameCount i j := by
  simp only [subpathAny_eq_ok_iff, exists_and_left, exists_eq, and_true]

/-- An index is counted on like the bounds of a range. -/
theorem exists_nameAtAny_between_iff (h : AreBounds p.nameCount i j) :
    (∃ q, (p.between i j).nameAtAny (.int k) = .ok q) ↔ 0 ≤ k ∧ k < j - i := by
  simp only [nameAtAny_eq_ok_iff]
  rw [exists_subpathAny_iff, areBounds_between_iff h]
  omega

/-- What is found within a range is found within the path. -/
theorem subpathAny_of_between {l : Int} (h : AreBounds p.nameCount i j)
    (hq : (p.between i j).subpathAny (.int k) (.int l) = .ok q) :
    p.subpathAny (.int (i + k)) (.int (i + l)) = .ok q := by
  obtain ⟨hinner, -⟩ := subpathAny_eq_ok_iff.mp hq
  rw [subpathAny_eq_ok_iff_subpath?] at hq ⊢
  rw [← subpath?_between h hinner, hq]

/-! ## Section 6: Ranges compose -/

/-- **Ranges compose.** Two integers are refused as bounds exactly if the first
    one is negative, the second one exceeds the number of segments, or there is
    nothing between them. The error tells both of them, unless one has too many
    digits to be told. Otherwise they give a relative path with as many segments
    as they are apart. It is asked for ranges and indices like any
    other path, and answers with what the path has there, counted on from the
    first bound. Of two ranges that meet, the second one resolved against the
    first is the range from end to end, and all segments resolved against the
    root are the path, or alone if there is no root. -/
theorem ranges_compose (p : StorePath) (i j : Int) :
    (RaisesIndex (p.subpathAny (.int i) (.int j)) (.pair (.int i) (.int j)) ↔
        (i < 0 ∨ (p.nameCount : Int) < j ∨ j ≤ i) ∧
          Text.isShort i = true ∧ Text.isShort j = true) ∧
      (p.subpathAny (.int i) (.int j) = .error (.misuse .tooManyDigits) ↔
        (i < 0 ∨ (p.nameCount : Int) < j ∨ j ≤ i) ∧
          ¬(Text.isShort i = true ∧ Text.isShort j = true)) ∧
      (¬(i < 0 ∨ (p.nameCount : Int) < j ∨ j ≤ i) →
        ∃ q, p.subpathAny (.int i) (.int j) = .ok q ∧ q.isAbsolute = false ∧
          (q.nameCount : Int) = j - i) ∧
      (∀ q, p.subpathAny (.int i) (.int j) = .ok q → ∀ k l : Int,
        ((∃ r, q.subpathAny (.int k) (.int l) = .ok r) ↔ 0 ≤ k ∧ k < l ∧ l ≤ j - i) ∧
          (∀ r, q.subpathAny (.int k) (.int l) = .ok r →
            p.subpathAny (.int (i + k)) (.int (i + l)) = .ok r) ∧
          ((∃ r, q.nameAtAny (.int k) = .ok r) ↔ 0 ≤ k ∧ k < j - i) ∧
          ∀ r, q.nameAtAny (.int k) = .ok r → p.nameAtAny (.int (i + k)) = .ok r) ∧
      (∀ (k : Int) q r, p.subpathAny (.int i) (.int j) = .ok q →
        p.subpathAny (.int j) (.int k) = .ok r →
          ∃ m, q.resolveAny (.path r) = .ok m ∧ p.subpathAny (.int i) (.int k) = .ok m) ∧
      (p.segments ≠ [] →
        ∃ q, p.subpathAny (.int 0) (.int p.nameCount) = .ok q ∧
          (p.isAbsolute = true →
            ∃ root, p.root? = some root ∧ root.resolveAny (.path q) = .ok p) ∧
          (p.isAbsolute = false → q = p)) := by
  rw [raisesIndex_subpathAny_iff, subpathAny_eq_tooManyDigits_iff, not_areBounds_iff]
  refine ⟨Iff.rfl, Iff.rfl, fun hin => ?_, fun q hq k l => ?_, fun k q r hq hr => ?_, fun hsegments => ?_⟩
  · have h : AreBounds p.nameCount i j := by
      by_cases h : AreBounds p.nameCount i j
      · exact h
      · exact absurd (not_areBounds_iff.mp h) hin
    exact ⟨_, subpathAny_eq_ok_iff.mpr ⟨h, rfl⟩, isAbsolute_between p i j, nameCount_between h⟩
  · obtain ⟨h, rfl⟩ := subpathAny_eq_ok_iff.mp hq
    refine ⟨?_, fun r => subpathAny_of_between h, exists_nameAtAny_between_iff h, ?_⟩
    · rw [exists_subpathAny_iff, areBounds_between_iff h]
    · -- an index is a range of one segment
      intro r hr
      rw [nameAtAny_eq_ok_iff] at hr ⊢
      rw [Int.add_assoc]
      exact subpathAny_of_between h hr
  · obtain ⟨⟨hi, hij, -⟩, rfl⟩ := subpathAny_eq_ok_iff.mp hq
    obtain ⟨⟨-, hjk, hk⟩, rfl⟩ := subpathAny_eq_ok_iff.mp hr
    refine ⟨p.between i k, ?_, subpathAny_eq_ok_iff.mpr ⟨⟨hi, Int.lt_trans hij hjk, hk⟩, rfl⟩⟩
    rw [resolveAny_path, between_resolve (Int.le_of_lt hij) (Int.le_of_lt hjk)]
  · have hcount : 0 < p.nameCount := List.length_pos_iff.mpr hsegments
    have hall : AreBounds p.nameCount 0 p.nameCount := ⟨Int.le_refl 0, by omega, Int.le_refl _⟩
    refine ⟨_, subpathAny_eq_ok_iff.mpr ⟨hall, rfl⟩, fun habsolute => ?_, between_all⟩
    refine ⟨_, root?_of_absolute habsolute, ?_⟩
    rw [resolveAny_path, root_resolve_between]

/-- A range and an index within the last three of four segments, two ranges that
    meet, and bounds that would be clamped or counted from the end elsewhere. -/
theorem ranges_compose_nested :
    let host : Host Value := .fileSystem (.ofHost 0 (.config .default))
    let p : StorePath := ⟨⟨some "b", ["x", "y", "x", "é"]⟩, host⟩
    let q : StorePath := ⟨⟨none, ["y", "x", "é"]⟩, host⟩
    let r : StorePath := ⟨⟨none, ["x", "é"]⟩, host⟩
    let last : StorePath := ⟨⟨none, ["é"]⟩, host⟩
    let first : StorePath := ⟨⟨none, ["y"]⟩, host⟩
    let relative : StorePath := ⟨⟨none, ["x"]⟩, host⟩
    let large : Int := 1000000000000000000000000000000
    ¬((1 : Int) < 0 ∨ (p.nameCount : Int) < 4 ∨ (4 : Int) ≤ 1) ∧ p.segments ≠ [] ∧
      relative.segments ≠ [] ∧ p.isAbsolute = true ∧ relative.isAbsolute = false ∧
      p.subpathAny (.int 1) (.int 4) = .ok q ∧ p.subpathAny (.int 1) (.int 2) = .ok first ∧
      p.subpathAny (.int 2) (.int 4) = .ok r ∧ first.resolveAny (.path r) = .ok q ∧
      q.subpathAny (.int 1) (.int 3) = .ok r ∧ q.nameAtAny (.int 2) = .ok last ∧
      p.nameAtAny (.int (1 + 2)) = .ok last ∧ (¬∃ s, q.subpathAny (.int (-1)) (.int 2) = .ok s) ∧
      RaisesIndex (p.subpathAny (.int 1) (.int large)) (.pair (.int 1) (.int large)) ∧
      (∃ all root, p.subpathAny (.int 0) (.int 4) = .ok all ∧ p.root? = some root ∧
        root.resolveAny (.path all) = .ok p) ∧
      relative.subpathAny (.int 0) (.int 1) = .ok relative := by
  intro host p q r last first relative large
  have hin : ¬((1 : Int) < 0 ∨ (p.nameCount : Int) < 4 ∨ (4 : Int) ≤ 1) := by decide
  have hp : p.segments ≠ [] := List.cons_ne_nil _ _
  have hrelative : relative.segments ≠ [] := List.cons_ne_nil _ _
  have hfirst : p.subpathAny (.int 1) (.int 2) = .ok first := rfl
  have hr : p.subpathAny (.int 2) (.int 4) = .ok r := rfl
  have hlast : q.nameAtAny (.int 2) = .ok last := rfl
  obtain ⟨-, -, hcut, hwithin, -, hwhole⟩ := ranges_compose p 1 4
  obtain ⟨-, -, -, -, hmeet, -⟩ := ranges_compose p 1 2
  obtain ⟨hraises, -⟩ := ranges_compose p 1 large
  obtain ⟨-, -, -, -, -, hwhole'⟩ := ranges_compose relative 0 1
  have hlarge : Text.isShort 1 = true ∧ Text.isShort large = true := ⟨by decide, by decide⟩
  obtain ⟨c, hc, -, -⟩ := hcut hin
  obtain rfl : q = c := Except.ok.inj hc
  obtain ⟨hinner, -, -, -⟩ := hwithin q hc (-1) 2
  obtain ⟨-, -, -, hindex⟩ := hwithin q hc 2 3
  obtain ⟨m, hm, hm'⟩ := hmeet 4 first r hfirst hr
  obtain rfl : q = m := Except.ok.inj hm'
  obtain ⟨all, hall, habsolute, -⟩ := hwhole hp
  obtain ⟨root, hroot, hresolve⟩ := habsolute rfl
  obtain ⟨all', hall', -, hself⟩ := hwhole' hrelative
  refine ⟨hin, hp, hrelative, rfl, rfl, hc, hfirst, hr, hm, rfl, hlast, hindex last hlast, ?_,
    hraises.mpr ⟨.inr (.inl (by decide)), hlarge⟩, ⟨all, root, hall, hroot, hresolve⟩, ?_⟩
  · rw [hinner]
    decide
  · rw [hself rfl] at hall'
    exact hall'

/-- A last bound beyond all segments that has too many digits is refused, but
    not by the error that tells it. -/
theorem not_raisesIndex_of_long (h : (p.nameCount : Int) < j) (hlong : Text.isShort j = false) :
    p.subpathAny (.int i) (.int j) = .error (.misuse .tooManyDigits) ∧
      ¬RaisesIndex (p.subpathAny (.int i) (.int j)) (.pair (.int i) (.int j)) := by
  rw [subpathAny_eq_tooManyDigits_iff, raisesIndex_subpathAny_iff, not_areBounds_iff, hlong]
  exact ⟨⟨.inr (.inl h), fun hshort => nomatch hshort.2⟩, fun hraises => nomatch hraises.2.2⟩

/-- The bound of the fewest digits that are too many. -/
theorem not_raisesIndex_of_tooManyDigits :
    let p : StorePath := ⟨⟨some "b", ["x"]⟩, .fileSystem (.ofHost 0 (.config .default))⟩
    let large : Int := Int.ofNat (Nat.pow 10 4300)
    ((0 : Int) < 0 ∨ (p.nameCount : Int) < large ∨ large ≤ 0) ∧
      p.subpathAny (.int 0) (.int large) = .error (.misuse .tooManyDigits) ∧
      ¬RaisesIndex (p.subpathAny (.int 0) (.int large)) (.pair (.int 0) (.int large)) := by
  intro p large
  have hlarge : (p.nameCount : Int) < large := by decide +kernel
  have hlong : Text.isShort large = false := Text.not_isShort_pow (k := 4300) (by decide)
  exact ⟨.inr (.inl hlarge), not_raisesIndex_of_long hlarge hlong⟩

end Keyspace.Path
