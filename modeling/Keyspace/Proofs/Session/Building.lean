import Keyspace.Proofs.Address.Built
import Keyspace.Proofs.Address.Spelling
import Keyspace.Proofs.Path.Detached
import Keyspace.Proofs.Path.Failing
import Keyspace.Proofs.Session.Reachable

/-! # Building and parsing paths

    There are two ways to a path: a text is parsed, or a bucket and segments are
    given one by one. The first way cuts at separators, the second one erases
    them, and still both lead to the same paths (`building_agrees_with_parsing`).

    What a path is made of is decided before it is given a file system, so an
    address that is parsed or built always becomes a path (`path_of_spelling`,
    `pathFromParts_of_ofNames?`), in whatever registry and for whatever file
    system.
-/

namespace Keyspace

namespace Registry

variable {host : Value} {bucket : Option String} {names : List String} {a : Address}

/-! ## Section 1: Paths of an address -/

theorem pathAt_ok_of_isGiven (hhost : host.IsGiven) (r : Registry) (a : Address) :
    ∃ p, (r.pathAt (.ok a) host).1 = .ok p ∧ p.toAddress = a := by
  obtain ⟨h, r', hh⟩ := hostFor_of_isGiven hhost r
  refine ⟨{ a with fileSystem := h }, ?_, rfl⟩
  simp only [pathAt, hh]

/-- Every spelling of an address makes a path at the address. -/
theorem path_of_spelling {text : String} (hhost : host.IsGiven) (r : Registry)
    (ha : a.WellFormed) (h : a.Spelling text) :
    ∃ p, (r.path (.text text) host).1 = .ok p ∧ p.toAddress = a := by
  have hparse : Address.parse? text = some a := Address.parse?_eq_some_iff_spelling.mpr ⟨ha, h⟩
  rw [path, Address.parseAny, hparse]
  exact pathAt_ok_of_isGiven hhost r a

theorem pathFromParts_of_ofNames? (hhost : host.IsGiven) (r : Registry)
    (h : Address.ofNames? bucket names = some a) :
    ∃ p, (r.pathFromParts (.ofText? bucket) (names.map .text) host).1 = .ok p ∧
      p.toAddress = a := by
  rw [pathFromParts, Address.ofNamesAny_texts, h]
  exact pathAt_ok_of_isGiven hhost r a

/-- Explicit names are refused before the file system is looked at. -/
theorem pathFromParts_of_not_ofNames? (r : Registry) (host : Value)
    (h : Address.ofNames? bucket names = none) :
    r.pathFromParts (.ofText? bucket) (names.map .text) host =
      (.error (.failure .bucketEmpty), r) := by
  rw [pathFromParts, Address.ofNamesAny_texts, h]
  rfl

/-- The bucket of a well-formed address and its segments make a path at the
    address. -/
theorem pathFromParts_of_wellFormed (hhost : host.IsGiven) (r : Registry) (ha : a.WellFormed) :
    ∃ p, (r.pathFromParts (.ofText? a.bucket) (a.segments.map .text) host).1 = .ok p ∧
      p.toAddress = a :=
  pathFromParts_of_ofNames? hhost r (Address.ofNames?_of_wellFormed ha)

theorem raises_invalidPath_pathFromParts_iff (hhost : host.IsGiven) (r : Registry) :
    Path.Raises .invalidPath (r.pathFromParts (.ofText? bucket) (names.map .text) host).1 ↔
      Address.NamesNothing bucket := by
  have hrefused : Address.ofNames? bucket names = none ↔ Address.NamesNothing bucket :=
    Address.ofNames?_eq_none_iff
  rw [← hrefused]
  cases hbuilt : Address.ofNames? bucket names with
  | none =>
    rw [pathFromParts_of_not_ofNames? r host hbuilt]
    exact iff_of_true ⟨_, rfl, rfl⟩ rfl
  | some a =>
    obtain ⟨p, hp, -⟩ := pathFromParts_of_ofNames? hhost r hbuilt
    rw [hp]
    exact iff_of_false (Path.not_raises_ok _ p) (Option.some_ne_none a)

/-- Explicit names between which separators were put in or taken out have the
    same outcome, and the same effect on the registry. -/
theorem pathFromParts_of_insertions {x y : Option String × List String}
    (h : Relation.EqvGen Address.Insertion x y) (r : Registry) (host : Value) :
    r.pathFromParts (.ofText? x.1) (x.2.map .text) host =
      r.pathFromParts (.ofText? y.1) (y.2.map .text) host := by
  rw [pathFromParts, pathFromParts, Address.ofNamesAny_texts, Address.ofNamesAny_texts,
    Address.ofNames?_of_insertions h]

end Registry

/-- The hash of a path depends on its address alone. -/
theorem Path.hashKey_eq {p q : StorePath} (h : p.toAddress = q.toAddress) :
    (Value.path p).hashKey = (Value.path q).hashKey := by
  obtain ⟨a, f⟩ := p
  obtain ⟨b, g⟩ := q
  obtain rfl : a = b := h
  rfl

namespace Session

/-! ## Section 2: Agreement -/

/-- **Building agrees with parsing.** However the names of a well-formed address
    are written as a text, the text makes a path that is equal to what bucket
    and segments make, and has the same hash. The bucket and the segments of a
    reachable path make an equal path.

    Separators that are put into the bucket or the segments of any texts, or
    taken out of them, make no difference, and neither do further segments of
    separators. An invalid path is refused exactly if the bucket is a text
    without other characters; all other texts make a path. -/
theorem building_agrees_with_parsing (r r' : Registry) {host host' : Value}
    (hhost : host.IsGiven) (hhost' : host'.IsGiven) :
    (∀ (a : Address) (text : String), a.WellFormed → a.Spelling text →
      ∃ p q k, (r.path (.text text) host).1 = .ok p ∧
        (r'.pathFromParts (.ofText? a.bucket) (a.segments.map .text) host').1 = .ok q ∧
        (p == q) = true ∧ (Value.path p).hashKey = .ok k ∧ (Value.path q).hashKey = .ok k) ∧
      (∀ p, Reachable p →
        ∃ q, (r.pathFromParts (.ofText? p.bucket) (p.segments.map .text) host).1 = .ok q ∧
          (q == p) = true) ∧
      (∀ x y, Relation.EqvGen Address.Insertion x y →
        r.pathFromParts (.ofText? x.1) (x.2.map .text) host =
          r.pathFromParts (.ofText? y.1) (y.2.map .text) host) ∧
      ∀ (bucket : Option String) (names : List String),
        (Path.Raises .invalidPath
            (r.pathFromParts (.ofText? bucket) (names.map .text) host).1 ↔
          ∃ b, bucket = some b ∧ ∀ c ∈ b.toList, c = '/') ∧
        ((¬∃ b, bucket = some b ∧ ∀ c ∈ b.toList, c = '/') →
          ∃ p, (r.pathFromParts (.ofText? bucket) (names.map .text) host).1 = .ok p) := by
  refine ⟨?_, ?_, fun x y h => Registry.pathFromParts_of_insertions h r host, ?_⟩
  · intro a text ha hspelling
    obtain ⟨p, hp, hparsed⟩ := Registry.path_of_spelling hhost r ha hspelling
    obtain ⟨q, hq, hbuilt⟩ := Registry.pathFromParts_of_wellFormed hhost' r' ha
    -- equality and hash read the address, in which the two file systems do not occur
    have haddress : p.toAddress = q.toAddress := hparsed.trans hbuilt.symm
    exact ⟨p, q, _, hp, hq, Path.beq_iff.mpr haddress, Path.hashKey_eq haddress, rfl⟩
  · intro p hp
    obtain ⟨q, hq, hbuilt⟩ := Registry.pathFromParts_of_wellFormed hhost r hp.wellFormed
    exact ⟨q, hq, Path.beq_iff.mpr hbuilt⟩
  · intro bucket names
    refine ⟨Registry.raises_invalidPath_pathFromParts_iff hhost r, ?_⟩
    intro hbucket
    cases hbuilt : Address.ofNames? bucket names with
    | none => exact absurd (Address.ofNames?_eq_none_iff.mp hbuilt) hbucket
    | some a =>
      obtain ⟨p, hp, -⟩ := Registry.pathFromParts_of_ofNames? hhost r hbuilt
      exact ⟨p, hp⟩

/-- A spelling with more separators than needed; separators that are taken out
    of a segment, put before the bucket, and given as a segment; and a bucket of
    which nothing is left. -/
theorem building_agrees_with_parsing_respelled :
    let r := Registry.empty
    let host : Value := .fileSystem ⟨.default, 0, []⟩
    let a : Address := ⟨some "b", ["x", "y"]⟩
    let p : StorePath := ⟨⟨none, ["é"]⟩, .fileSystem (.ofHost 0 (.config .default))⟩
    let x : Option String × List String := (some "b", ["x/y"])
    let y : Option String × List String := (some "/b", ["xy", "//"])
    host.IsGiven ∧ Value.null.IsGiven ∧ a.WellFormed ∧ a.Spelling "//b/x///y//" ∧
      (∃ p q, (r.path (.text "//b/x///y//") host).1 = .ok p ∧
        (r.pathFromParts (.text "b") [.text "x", .text "y"] .null).1 = .ok q ∧
        (p == q) = true) ∧
      Reachable p ∧ (∃ q, (r.pathFromParts .null [.text "é"] host).1 = .ok q ∧ (q == p) = true) ∧
      Relation.EqvGen Address.Insertion x y ∧
      r.pathFromParts (.text "b") [.text "x/y"] host =
        r.pathFromParts (.text "/b") [.text "xy", .text "//"] host ∧
      (∀ c ∈ "//".toList, c = '/') ∧
      Path.Raises .invalidPath (r.pathFromParts (.text "//") [.text "x"] host).1 ∧
      ∃ q, (r.pathFromParts .null [.text "//"] host).1 = .ok q := by
  intro r host a p x y
  have hhost : host.IsGiven := .inr ⟨_, rfl⟩
  have hnull : Value.null.IsGiven := .inl rfl
  have hparse : Address.parse? "//b/x///y//" = some a := by decide +kernel
  obtain ⟨ha, hspelling⟩ := Address.parse?_eq_some_iff_spelling.mp hparse
  have hparse' : Address.parse? "é" = some p.toAddress := by decide +kernel
  have hp : Reachable p := reachable_of_parse? hparse'
  have herased : Address.stripped "//" = "" := by decide +kernel
  have hall : ∀ c ∈ "//".toList, c = '/' := Address.stripped_eq_empty_iff.mp herased
  have hinsertions : Relation.EqvGen Address.Insertion x y := by
    have htaken : Address.Insertion (some "b", ["xy"]) x := .segment (some "b") [] [] "x" "y"
    have hput : Address.Insertion (some "b", ["xy"]) (some "/b", ["xy"]) := .bucket "" "b" ["xy"]
    have hfurther : Address.Insertion (some "/b", ["xy"]) y :=
      .further (some "/b") ["xy"] [] hall
    have hbefore := Relation.EqvGen.symm _ _ (.rel _ _ htaken)
    have hafter := Relation.EqvGen.trans _ _ _ (.rel _ _ hput) (.rel _ _ hfurther)
    exact hbefore.trans _ _ _ hafter
  obtain ⟨hspelled, hreached, hput, htexts⟩ := building_agrees_with_parsing r r hhost hnull
  obtain ⟨p', q', _, hp', hq', hsame, -⟩ := hspelled a _ ha hspelling
  refine ⟨hhost, hnull, ha, hspelling, ⟨p', q', hp', hq', hsame⟩, hp, hreached p hp, hinsertions,
    hput x y hinsertions, hall, (htexts (some "//") ["x"]).1.mpr ⟨"//", rfl, hall⟩, ?_⟩
  apply (htexts none ["//"]).2
  rintro ⟨b, hb, -⟩
  cases hb

end Session

end Keyspace
