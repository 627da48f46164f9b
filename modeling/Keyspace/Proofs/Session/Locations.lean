import Keyspace.Proofs.FileSystem.Joining
import Keyspace.Proofs.Path.Ranges
import Keyspace.Proofs.Session.Canonical
import Keyspace.Proofs.Session.Containment
import Keyspace.Proofs.Session.Ordered

/-! # Locations of objects

    A client of an object store writes a path as an object under its key, and
    as a directory under its marker. Neither loses anything: behind the bucket,
    both are texts of the path (`Locates`). So a location and a marker can be
    traced back to one path, and the marker of a directory is the key of no
    object in the bucket (`locations_lossless`).

    The root of a bucket is where this needs care. It has no key, its marker
    is empty as well, and a separator behind an empty text would be lost.
-/

namespace Keyspace

/-! ## Section 1: Keys and markers -/

namespace Address

variable {a b : Address}

theorem isJoined_key (h : a.WellFormed) : Text.IsJoined separator a.key.toList :=
  isKey_iff_isJoined.mp (isKey_key h)

/-- A key alone denotes the segments, without the bucket. -/
theorem parse?_key (h : a.WellFormed) : parse? a.key = some ⟨none, a.segments⟩ := by
  have hrelative : WellFormed ⟨none, a.segments⟩ := wellFormed_of_subset h (List.Subset.refl _)
  have hparse := parse?_text hrelative
  rwa [text_of_relative rfl] at hparse

theorem key_inj (ha : a.WellFormed) (hb : b.WellFormed) :
    a.key = b.key ↔ a.segments = b.segments := by
  constructor
  · intro hkey
    have hparse : some (Address.mk none a.segments) = some ⟨none, b.segments⟩ := by
      rw [← parse?_key ha, ← parse?_key hb, hkey]
    exact (Address.mk.inj (Option.some.inj hparse)).2
  · intro hsegments
    rw [key, key, hsegments]

/-- Behind the bucket, the key makes the text. -/
theorem append_key {b : String} (hb : a.bucket = some b) : "/" ++ b ++ "/" ++ a.key = a.text := by
  rw [text_of_bucket hb, String.append_assoc, String.append_assoc, String.append_assoc]

/-- Behind the bucket, the marker denotes what the key does. -/
theorem parse?_append_marker {b : String} (h : a.WellFormed) (hb : a.bucket = some b) :
    parse? ("/" ++ b ++ "/" ++ directoryMarker a.key) = some a := by
  have htext := append_key hb
  by_cases hnil : a.segments = []
  · have hmarker : directoryMarker a.key = a.key := by
      rw [directoryMarker_key_of_nil hnil, (key_eq_empty_iff h).mpr hnil]
    rw [hmarker, htext, parse?_text h]
  · have hne : a.text ≠ "" := by
      rw [← htext]
      simp
    rw [directoryMarker_key_of_ne_nil h hnil, ← String.append_assoc, htext]
    exact (parse?_trailing hne).trans (parse?_text h)

end Address

/-- A marker ends with a separator, or there is nothing to mark. A joined text
    does not end with one. -/
theorem directoryMarker_eq_iff {s t : String} (ht : Text.IsJoined separator t.toList) :
    directoryMarker s = t ↔ s = "" ∧ t = "" := by
  by_cases hs : s = ""
  · rw [directoryMarker, if_pos hs, and_iff_right hs, eq_comm]
  · refine iff_of_false ?_ fun h => hs h.1
    intro heq
    obtain ⟨-, hlast, -⟩ := ht
    rw [← heq, directoryMarker, if_neg hs, String.toList_append, List.getLast?_append] at hlast
    exact hlast rfl

/-- A text makes paths of one address only. -/
theorem Registry.Makes.unique {t : String} {a b : Address} (ha : Makes t a) (hb : Makes t b) :
    a = b := by
  obtain ⟨p, hp, rfl⟩ := ha .empty
  obtain ⟨q, hq, rfl⟩ := hb .empty
  rw [Except.ok.inj (hp.symm.trans hq)]

/-! ## Section 2: The location of a path -/

namespace Session

variable {p q : StorePath} {l l' : Location Value}

/-- The location leads back to the path. -/
structure Locates (l : Location Value) (p : StorePath) : Prop where
  /-- In the key separators stand between other characters only, one at a
      time. -/
  joined : Text.IsJoined '/' l.key.toList
  /-- The key is empty where nothing stands behind the bucket, and there only. -/
  isBucketRoot_iff : l.isBucketRoot = true ↔ p.segments = []
  /-- Behind the bucket, the key and the marker make the path. -/
  made : ∃ b, p.bucket = some b ∧ l.bucket = .text b ∧
    Registry.Makes ("/" ++ b ++ "/" ++ l.key) p.toAddress ∧
    Registry.Makes ("/" ++ b ++ "/" ++ l.directoryMarker) p.toAddress
  /-- The key is resolved against the root of the path to the path itself. -/
  resolved : ∃ root, p.root? = some root ∧ root.resolveAny (.text l.key) = .ok p

theorem locates_location {b : String} (hp : p.WellFormed) (hb : p.bucket = some b) :
    Locates ⟨.text b, p.key⟩ p := by
  have habs : p.isAbsolute = true := Option.isSome_iff_exists.mpr ⟨b, hb⟩
  refine ⟨Address.isJoined_key hp, ?_, ⟨b, hb, rfl, ?_, ?_⟩, _, Path.root?_of_absolute habs, ?_⟩
  · rw [Location.isBucketRoot, beq_iff_eq]
    exact Address.key_eq_empty_iff hp
  · have hmakes := Registry.makes_text hp
    rwa [← Address.append_key hb] at hmakes
  · exact Registry.makes_of_parse? (Address.parse?_append_marker hp hb)
  · rw [Path.resolveAny_of_parse? (Address.parse?_key hp)]
    rfl

/-! ## Section 3: Two locations -/

/-- In one bucket, a marker leads to one path only. -/
theorem Locates.eq_of_marker (h : Locates l p) (h' : Locates l' q) (hbucket : p.bucket = q.bucket)
    (hmarker : l.directoryMarker = l'.directoryMarker) : p.toAddress = q.toAddress := by
  obtain ⟨b, hb, -, -, hmakes⟩ := h.made
  obtain ⟨b', hb', -, -, hmakes'⟩ := h'.made
  obtain rfl : b = b' := Option.some.inj (hb.symm.trans (hbucket.trans hb'))
  rw [hmarker] at hmakes
  exact hmakes.unique hmakes'

/-- A marker is a key at the roots of buckets only. -/
theorem Locates.marker_eq_key_iff (h : Locates l p) (h' : Locates l' q) :
    l.directoryMarker = l'.key ↔ p.segments = [] ∧ q.segments = [] := by
  rw [← h.isBucketRoot_iff, ← h'.isBucketRoot_iff, Location.isBucketRoot, Location.isBucketRoot,
    beq_iff_eq, beq_iff_eq]
  exact directoryMarker_eq_iff h'.joined

/-- Locations are compared by bucket and key, as paths are by bucket and
    segments. -/
theorem same_location {b b' : String} (hp : p.WellFormed) (hq : q.WellFormed)
    (hb : p.bucket = some b) (hb' : q.bucket = some b') (n n' : Option Nat) :
    (Value.location n ⟨.text b, p.key⟩).same (.location n' ⟨.text b', q.key⟩) =
      .ok (p == q) := by
  have hanswer : both (.ok (b == b')) (.ok (p.key == q.key)) = .ok (b == b' && p.key == q.key) := by
    cases b == b' <;> rfl
  have hiff : b = b' ∧ p.key = q.key ↔ p.toAddress = q.toAddress := by
    rw [Address.eq_iff, hb, hb', Option.some.injEq, Address.key_inj hp hq]
  refine hanswer.trans (congrArg Except.ok ?_)
  rw [Bool.eq_iff_iff, Bool.and_eq_true, beq_iff_eq, beq_iff_eq, hiff, Path.beq_iff]

/-- **Locations are lossless.** The location of a reachable path leads back to
    it, by the key and by the directory marker. Two locations are equal exactly
    if the paths are, and so are two markers in one bucket. The marker of one
    path is the key of another at the roots of buckets only, where nothing is
    marked. -/
theorem locations_lossless (hp : Reachable p) (hq : Reachable q) (habs : p.isAbsolute = true)
    (habs' : q.isAbsolute = true) :
    ∃ l l', p.location = .ok l ∧ q.location = .ok l' ∧ Locates l p ∧ Locates l' q ∧
      (∀ n n', (Value.location n l).same (.location n' l') = .ok (p == q)) ∧
      (p.bucket = q.bucket → (l.directoryMarker = l'.directoryMarker ↔ (p == q) = true)) ∧
      (l.directoryMarker = l'.key ↔ p.segments = [] ∧ q.segments = []) := by
  obtain ⟨b, hb⟩ := Option.isSome_iff_exists.mp habs
  obtain ⟨b', hb'⟩ := Option.isSome_iff_exists.mp habs'
  have hl : Locates ⟨.text b, p.key⟩ p := locates_location hp.wellFormed hb
  have hl' : Locates ⟨.text b', q.key⟩ q := locates_location hq.wellFormed hb'
  refine ⟨_, _, location_of_bucket hb, location_of_bucket hb', hl, hl',
    same_location hp.wellFormed hq.wellFormed hb hb', fun hbucket => ?_, hl.marker_eq_key_iff hl'⟩
  rw [Path.beq_iff]
  constructor
  · exact hl.eq_of_marker hl' hbucket
  · intro heq
    show directoryMarker p.key = directoryMarker q.key
    rw [heq]

/-- Dots, a blank and a letter beyond ASCII as segments, a path below, and the
    root of the bucket, whose marker is its key. -/
theorem locations_lossless_dots :
    let host : Host Value := .fileSystem (.ofHost 0 (.config .default))
    let p : StorePath := ⟨⟨some "b", ["..", " ", "é"]⟩, host⟩
    let q : StorePath := ⟨⟨some "b", ["..", " ", "é", "."]⟩, host⟩
    let root : StorePath := ⟨⟨some "b", []⟩, host⟩
    Reachable p ∧ Reachable q ∧ Reachable root ∧ p.isAbsolute = true ∧ q.isAbsolute = true ∧
      root.isAbsolute = true ∧ p.bucket = q.bucket ∧ p.bucket = root.bucket ∧
      (∃ l l', p.location = .ok l ∧ q.location = .ok l' ∧ l.key = "../ /é" ∧
        l'.key = "../ /é/." ∧ Locates l p ∧ Locates l' q ∧
        (Value.location (some 0) l).same (.location (some 1) l') = .ok false ∧
        l.directoryMarker ≠ l'.directoryMarker ∧ l.directoryMarker ≠ l'.key) ∧
      ∃ l l', root.location = .ok l ∧ p.location = .ok l' ∧ Locates l root ∧
        l.directoryMarker = l.key ∧ l.directoryMarker ≠ l'.key := by
  intro host p q root
  have hparse : Address.parse? "/b/../ /é" = some p.toAddress := by decide +kernel
  have hparse' : Address.parse? "/b/../ /é/." = some q.toAddress := by decide +kernel
  have hparse'' : Address.parse? "/b" = some root.toAddress := by decide +kernel
  have hp : Reachable p := reachable_of_parse? hparse
  have hq : Reachable q := reachable_of_parse? hparse'
  have hroot : Reachable root := reachable_of_parse? hparse''
  have hdiffer : (p == q) = false := by decide +kernel
  refine ⟨hp, hq, hroot, rfl, rfl, rfl, rfl, rfl, ?_, ?_⟩
  · obtain ⟨l, l', hl, hl', hlocates, hlocates', hsame, hmarkers, hkey⟩ :=
      locations_lossless hp hq rfl rfl
    have hlkey : l.key = "../ /é" := by
      rw [← Except.ok.inj hl]
      decide +kernel
    have hlkey' : l'.key = "../ /é/." := by
      rw [← Except.ok.inj hl']
      decide +kernel
    refine ⟨l, l', hl, hl', hlkey, hlkey', hlocates, hlocates', ?_, ?_, ?_⟩
    · rw [hsame, hdiffer]
    · rw [Ne, hmarkers rfl, hdiffer]
      exact Bool.false_ne_true
    · rw [Ne, hkey]
      exact fun h => List.cons_ne_nil _ _ h.1
  · obtain ⟨l, l', hl, hl', hlocates, -, -, -, hkey⟩ := locations_lossless hroot hp rfl rfl
    obtain ⟨m, m', hm, hm', -, -, -, -, hown⟩ := locations_lossless hroot hroot rfl rfl
    obtain rfl : m = l := Except.ok.inj (hm.symm.trans hl)
    obtain rfl : m' = m := Except.ok.inj (hm'.symm.trans hm)
    refine ⟨m', l', hl, hl', hlocates, hown.mpr ⟨rfl, rfl⟩, ?_⟩
    rw [Ne, hkey]
    exact fun h => List.cons_ne_nil _ _ h.2

end Session

end Keyspace
