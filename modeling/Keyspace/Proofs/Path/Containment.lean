import Keyspace.Location
import Keyspace.Proofs.Address.Text
import Keyspace.Proofs.Path.Resolution

/-! # What lies below a path

    An address lies below another one of the same bucket when it has the
    segments of that one and then more. A client of an object store sees no
    segments but keys, and lists what lies below a directory by a prefix, the
    directory marker.

    The two agree (`marker_isPrefix_iff`). The marker ends with a separator,
    unless it is empty, so a key that begins with it has all names of the
    directory as runs, and at least one more behind them. Paths reach what lies
    below them by resolving, and relativizing tells by which operand
    (`resolve_beq_iff`, `relativize_of_segments`).
-/

namespace Keyspace

namespace Address

variable {a b : Address}

/-! ## Section 1: Keys and markers -/

/-- Only without segments is there nothing to join. -/
theorem key_eq_empty_iff (ha : a.WellFormed) : a.key = "" ↔ a.segments = [] := by
  constructor
  · intro hkey
    have hruns := runs_key ha
    rw [hkey] at hruns
    exact List.map_eq_nil_iff.mp hruns.symm
  · intro hnil
    rw [key, hnil]
    rfl

theorem directoryMarker_key_of_nil (hnil : a.segments = []) : directoryMarker a.key = "" := by
  rw [key, hnil]
  rfl

theorem directoryMarker_key_of_ne_nil (ha : a.WellFormed) (hne : a.segments ≠ []) :
    directoryMarker a.key = a.key ++ separatorText := by
  rw [directoryMarker, if_neg (mt (key_eq_empty_iff ha).mp hne)]

/-- The key of an address below another one is a marker and the key of what is
    left. -/
theorem key_of_segments {rest : List String} (ha : a.WellFormed)
    (hsegments : b.segments = a.segments ++ rest) (hrest : a.segments = [] ∨ rest ≠ []) :
    b.key = directoryMarker a.key ++ separatorText.intercalate rest := by
  by_cases hnil : a.segments = []
  · rw [directoryMarker_key_of_nil hnil, key, hsegments, hnil, List.nil_append, String.empty_append]
  · rw [directoryMarker_key_of_ne_nil ha hnil, key, hsegments,
      String.intercalate_append_of_ne_nil hnil (hrest.resolve_left hnil)]
    rfl

/-- **Markers and segments.** The marker of an address is a prefix of the key
    of another one if that has further segments behind those of the first, or
    if there is no segment to begin with. -/
theorem marker_isPrefix_iff (ha : a.WellFormed) (hb : b.WellFormed) :
    (directoryMarker a.key).toList <+: b.key.toList ↔
      ∃ rest, b.segments = a.segments ++ rest ∧ (a.segments = [] ∨ rest ≠ []) := by
  constructor
  · rintro ⟨behind, hkey⟩
    by_cases hnil : a.segments = []
    · exact ⟨b.segments, by rw [hnil, List.nil_append], Or.inl hnil⟩
    · rw [directoryMarker_key_of_ne_nil ha hnil, String.toList_append, separatorText,
        String.toList_ofList, List.append_assoc, List.singleton_append] at hkey
      -- the separator of the marker parts the names of the directory from the others
      have hruns : b.segments.map String.toList =
          a.segments.map String.toList ++ Text.runs separator behind := by
        rw [← runs_key hb, ← hkey, Text.runs_append_sep, runs_key ha]
      have hsegments : b.segments =
          a.segments ++ (Text.runs separator behind).map String.ofList := by
        have := congrArg (List.map String.ofList) hruns
        simpa [Function.comp_def] using this
      refine ⟨_, hsegments, Or.inr fun hrest => ?_⟩
      -- without another name the keys would be the same, but one is longer
      rw [hrest, List.append_nil] at hsegments
      have hsame : a.key = b.key := by rw [key, key, hsegments]
      have hlength := congrArg List.length hkey
      rw [hsame, List.length_append, List.length_cons] at hlength
      omega
  · rintro ⟨rest, hsegments, hrest⟩
    rw [key_of_segments ha hsegments hrest, String.toList_append]
    exact List.prefix_append _ _

end Address

namespace Path

variable {F : Type} {p q r : Path F}

/-! ## Section 2: Ways down -/

/-- A relative path that leads from `p` to `q`. It has segments, unless `p` has
    none. -/
structure LeadsDown (p q r : Path F) : Prop where
  relative : r.isAbsolute = false
  proper : p.segments = [] ∨ r.segments ≠ []
  resolves : (p.resolve r == q) = true

/-- A relative operand leads to the path that has its segments behind those of
    the first. -/
theorem resolve_beq_iff (hr : r.isAbsolute = false) :
    (p.resolve r == q) = true ↔
      p.bucket = q.bucket ∧ q.segments = p.segments ++ r.segments := by
  rw [beq_iff, resolve_of_relative hr, Address.eq_iff]
  exact and_congr_right fun _ => eq_comm

theorem LeadsDown.segments (h : LeadsDown p q r) : q.segments = p.segments ++ r.segments :=
  ((resolve_beq_iff h.relative).mp h.resolves).2

/-- The key of what lies below a path is put together from its marker and the
    key of the way down. -/
theorem LeadsDown.key (h : LeadsDown p q r) (hp : p.WellFormed) :
    q.key = directoryMarker p.key ++ r.key :=
  Address.key_of_segments hp h.segments h.proper

theorem LeadsDown.marker_isPrefix (h : LeadsDown p q r) (hp : p.WellFormed) :
    (directoryMarker p.key).toList <+: q.key.toList := by
  rw [h.key hp, String.toList_append]
  exact List.prefix_append _ _

/-- Common elements in front of two lists are passed over. -/
theorem afterCommon_append_append (shared xs ys : List String) :
    afterCommon (shared ++ xs) (shared ++ ys) = afterCommon xs ys := by
  induction shared with
  | nil => rfl
  | cons s shared ih => rw [List.cons_append, List.cons_append, afterCommon, if_pos rfl, ih]

theorem afterCommon_append (xs rest : List String) : afterCommon xs (xs ++ rest) = rest := by
  have h := afterCommon_append_append xs [] rest
  rw [List.append_nil] at h
  rw [h]
  cases rest <;> rfl

/-- Relativizing what lies below a path gives the segments that are left. -/
theorem relativize_of_segments {rest : List String} (hp : p.isAbsolute = true)
    (hbucket : p.bucket = q.bucket) (hsegments : q.segments = p.segments ++ rest) :
    p.relativize q = .ok (p.derive none rest) := by
  have hsome : p.bucket ≠ none := fun hnone => by
    rw [Address.isAbsolute_eq_false_iff.mpr hnone] at hp
    exact absurd hp Bool.false_ne_true
  by_cases hsame : (p == q) = true
  · -- equal paths leave no segments
    have hself : p.segments = p.segments ++ rest := by
      rw [← hsegments, beq_iff.mp hsame]
    rw [relativize, if_pos hsame, List.self_eq_append_right.mp hself]
  · rw [relativize, if_neg hsame, if_neg hsome, if_neg (hbucket ▸ hsome),
      if_neg (fun hne => hne hbucket), hsegments, afterCommon_append]

/-- The only way down is the one that relativizing gives. -/
theorem LeadsDown.relativize (h : LeadsDown p q r) (hp : p.isAbsolute = true)
    (hbucket : p.bucket = q.bucket) : ∃ d, p.relativize q = .ok d ∧ r.toAddress = d.toAddress := by
  refine ⟨_, relativize_of_segments hp hbucket h.segments, ?_⟩
  exact Address.eq_iff.mpr ⟨Address.isAbsolute_eq_false_iff.mp h.relative, rfl⟩

end Path

end Keyspace
