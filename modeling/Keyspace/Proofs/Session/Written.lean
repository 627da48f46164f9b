import Keyspace.Proofs.Address.Uri
import Keyspace.Proofs.Path.Parsing
import Keyspace.Proofs.Session.Reachable

/-! # What reachable paths are written as

    A path has two written forms, its text and, if it is absolute, its URI.
    Both are lossless for the paths that sessions reach, however they came
    about: those are well-formed, which is all that the forms depend on.

    * The text of a path makes an equal path, so paths are equal when their
      texts are, and when they compare as equal (`text_faithful`).
    * The URI of a path has its bucket and its key as parts, which end where
      the first separator is, and decoded as a whole it is the text without
      the leading separator (`uri_lossless`).
-/

namespace Keyspace.Session

open Text.Percent

/-! ## Section 1: Texts -/

/-- The text of a reachable path makes an equal path, in any registry. -/
theorem Reachable.path_text {p : StorePath} (hp : Reachable p) (r : Registry) :
    ∃ p', (r.path (.text p.text) .null).1 = .ok p' ∧ (p' == p) = true :=
  ⟨_, Registry.path_of_parse? (Address.parse?_text hp.wellFormed) r, Path.beq_iff.mpr rfl⟩

theorem Reachable.beq_iff_text {p q : StorePath} (hp : Reachable p) (hq : Reachable q) :
    (p == q) = true ↔ p.text = q.text := by
  rw [Path.beq_iff, Address.text_inj hp.wellFormed hq.wellFormed]

theorem signOf_compareAny {p q : StorePath} :
    (p.compareAny (.path q)).map signOf = .ok 0 ↔ p.text = q.text := by
  rw [← Address.compare_eq_iff]
  show Except.ok (signOf (p.toAddress.compare q.toAddress)) = .ok 0 ↔ _
  cases p.toAddress.compare q.toAddress <;> simp [signOf]

/-- **The text is a faithful form.** The text of a reachable path makes an
    equal path. Reachable paths are equal, that is, of the same bucket and the
    same segments, exactly if their texts are, and exactly if they compare as
    equal. -/
theorem text_faithful {p q : StorePath} (hp : Reachable p) (hq : Reachable q) (r : Registry) :
    (∃ p', (r.path (.text p.text) .null).1 = .ok p' ∧ (p' == p) = true) ∧
      ((p == q) = true ↔ p.bucket = q.bucket ∧ p.segments = q.segments) ∧
      ((p == q) = true ↔ p.text = q.text) ∧
      ((p == q) = true ↔ (p.compareAny (.path q)).map signOf = .ok 0) := by
  refine ⟨hp.path_text r, ?_, hp.beq_iff_text hq, ?_⟩
  · rw [Path.beq_iff, Address.mk.injEq]
  · rw [signOf_compareAny]
    exact hp.beq_iff_text hq

/-- Two texts of one path, which is its own text's path. -/
theorem text_faithful_doubled :
    let p : StorePath := ⟨⟨some "b", ["x", "y"]⟩, .fileSystem (.ofHost 0 (.config .default))⟩
    Reachable p ∧
      (∃ p', (Registry.empty.path (.text p.text) .null).1 = .ok p' ∧ (p' == p) = true) ∧
      (p.compareAny (.path p)).map signOf = .ok 0 := by
  intro p
  have hparse : Address.parse? "/b//x/y/" = some ⟨some "b", ["x", "y"]⟩ := by decide +kernel
  have hp : Reachable p := reachable_of_parse? hparse
  obtain ⟨hpath, -, -, hcompare⟩ := text_faithful hp hp Registry.empty
  exact ⟨hp, hpath, hcompare.mp (Path.beq_iff.mpr rfl)⟩

/-! ## Section 2: URIs -/

theorem uri_of_bucket {p : StorePath} {b : String} (hb : p.bucket = some b) :
    p.uri = .ok ("s3://" ++ p.uriTail b) := by
  rw [Path.uri, Address.uri?_of_bucket hb]

theorem uri_eq_iff {p q : StorePath} (hp : Reachable p) (hq : Reachable q)
    (hpabs : p.isAbsolute = true) (hqabs : q.isAbsolute = true) :
    p.uri = q.uri ↔ (p == q) = true := by
  rw [Path.beq_iff, ← Address.uri?_inj hp.wellFormed hq.wellFormed hpabs hqabs]
  obtain ⟨b, hb⟩ := Option.isSome_iff_exists.mp hpabs
  obtain ⟨c, hc⟩ := Option.isSome_iff_exists.mp hqabs
  rw [uri_of_bucket hb, uri_of_bucket hc, Address.uri?_of_bucket hb, Address.uri?_of_bucket hc,
    Except.ok.injEq, Option.some.injEq]

/-- **The URI is a lossless form.** What follows `s3://` is split by its first
    separator into an authority and a path text, which decode to the bucket
    and the key. No character in it starts a query or a fragment, and none in
    the authority delimits parts of a URI. Decoded as a whole, with a leading
    separator, it makes an equal path. So absolute paths have the same URI
    exactly if they are equal. -/
theorem uri_lossless {p q : StorePath} (hp : Reachable p) (hq : Reachable q)
    (hpabs : p.isAbsolute = true) (hqabs : q.isAbsolute = true) (r : Registry) :
    (∃ bucket authority path, p.bucket = some bucket ∧
        p.uri = .ok ("s3://" ++ (authority ++ "/" ++ path)) ∧
        (∀ c ∈ ['/', '?', '#', '@', ':'], c ∉ authority.toList) ∧
        decode? authority = some bucket ∧ decode? path = some p.key ∧
        Encoded (fun c => IsUnreserved c ∨ c = '/') (authority ++ "/" ++ path).toList ∧
        (∀ c ∈ ['?', '#'], c ∉ (authority ++ "/" ++ path).toList) ∧
        ∃ t p', decode? (authority ++ "/" ++ path) = some t ∧
          (r.path (.text ("/" ++ t)) .null).1 = .ok p' ∧ (p' == p) = true) ∧
      (p.uri = q.uri ↔ (p == q) = true) := by
  refine ⟨?_, uri_eq_iff hp hq hpabs hqabs⟩
  obtain ⟨b, hb⟩ := Option.isSome_iff_exists.mp hpabs
  obtain ⟨p', hpath, heq⟩ := hp.path_text r
  rw [Address.text_of_bucket hb] at hpath
  exact ⟨b, Address.authority b, p.uriPath, hb, uri_of_bucket hb, Address.not_mem_authority b,
    Address.decode?_authority b, Address.decode?_uriPath _, Address.encoded_uriTail _ b,
    Address.not_mem_uriTail _ b, _, p', Address.decode?_uriTail _ b, hpath, heq⟩

/-- A path whose names have characters of every kind, and another one. -/
theorem uri_lossless_escaped :
    let p : StorePath := ⟨⟨some "b?", ["%41", "é #"]⟩, .fileSystem (.ofHost 0 (.config .default))⟩
    let q : StorePath := ⟨⟨some "b?", ["A", "é #"]⟩, .fileSystem (.ofHost 0 (.config .default))⟩
    Reachable p ∧ Reachable q ∧ p.isAbsolute = true ∧ q.isAbsolute = true ∧ p.uri ≠ q.uri := by
  intro p q
  have hparse : Address.parse? "/b?/%41/é #" = some ⟨some "b?", ["%41", "é #"]⟩ := by
    decide +kernel
  have hparse' : Address.parse? "/b?/A/é #" = some ⟨some "b?", ["A", "é #"]⟩ := by
    decide +kernel
  have hp : Reachable p := reachable_of_parse? hparse
  have hq : Reachable q := reachable_of_parse? hparse'
  have hne : ¬(p == q) = true := by
    rw [Path.beq_iff]
    decide +kernel
  obtain ⟨-, huri⟩ := uri_lossless hp hq rfl rfl Registry.empty
  exact ⟨hp, hq, rfl, rfl, fun h => hne (huri.mp h)⟩

end Keyspace.Session
