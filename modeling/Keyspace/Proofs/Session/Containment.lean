import Keyspace.Proofs.Path.Containment
import Keyspace.Proofs.Session.Reachable

/-! # Listing what lies below a path

    Two clients ask what lies below a path: one of an object store, which
    compares keys with a directory marker, and one of paths, which resolves.
    For reachable paths of one bucket both get the same answer.
-/

namespace Keyspace.Session

/-- Beside a reachable path, all well-formed paths of its file system are
    reachable: by their texts as operands. -/
theorem Reachable.derive {p : StorePath} {bucket : Option String} {segments : List String}
    (hp : Reachable p) (h : (p.derive bucket segments).WellFormed) :
    Reachable (p.derive bucket segments) := by
  obtain ⟨sts, hmeets⟩ := hp
  exact ⟨sts, .operand hmeets (Path.operand_of_parse? (Address.parse?_text h) p)⟩

/-- Any segments of a reachable path make a reachable relative path. -/
theorem Reachable.exists_relative {q : StorePath} {segments : List String} (hq : Reachable q)
    (h : segments ⊆ q.segments) :
    ∃ r : StorePath, Reachable r ∧ r.toAddress = ⟨none, segments⟩ :=
  ⟨_, hq.derive (Address.wellFormed_of_subset hq.wellFormed h), rfl⟩

theorem location_of_bucket {p : StorePath} {b : String} (hb : p.bucket = some b) :
    p.location = .ok ⟨.text b, p.key⟩ := by
  simp only [Path.location, Path.location?, hb]
  rfl

theorem relativizeAny_path {p q d : StorePath} (h : p.relativize q = .ok d) :
    p.relativizeAny (.path q) = .ok d := by
  simp only [Path.relativizeAny, Path.operand, Except.bind, h]

/-- **Markers are containment.** Of two paths in one bucket, the key of the
    second begins with the directory marker of the first exactly if a relative
    path leads down from the first to the second. There is only one such path,
    the one that relativizing gives, and the key is put together from the
    marker and its key. -/
theorem marker_claims_descendants {p q : StorePath} (hp : Reachable p) (hq : Reachable q)
    (habs : p.isAbsolute = true) (hbucket : p.bucket = q.bucket) :
    ∃ l, p.location = .ok l ∧ (l.isBucketRoot = true ↔ p.segments = []) ∧
      (l.directoryMarker.toList <+: q.key.toList ↔ ∃ r, Reachable r ∧ p.LeadsDown q r) ∧
      ∀ r : StorePath, p.LeadsDown q r →
        l.directoryMarker.toList <+: q.key.toList ∧
          ∃ d, p.relativizeAny (.path q) = .ok d ∧ (r == d) = true ∧
            q.key = l.directoryMarker ++ d.key := by
  obtain ⟨b, hb⟩ := Option.isSome_iff_exists.mp habs
  refine ⟨_, location_of_bucket hb, ?_, ⟨fun hmarker => ?_, ?_⟩, fun r hr => ?_⟩
  · rw [Location.isBucketRoot, beq_iff_eq]
    exact Address.key_eq_empty_iff hp.wellFormed
  · -- the segments that are left make the way down
    obtain ⟨rest, hsegments, hrest⟩ :=
      (Address.marker_isPrefix_iff hp.wellFormed hq.wellFormed).mp hmarker
    have hsubset : rest ⊆ q.segments := by
      rw [hsegments]
      exact List.subset_append_right _ _
    obtain ⟨r, hreach, haddress⟩ := hq.exists_relative hsubset
    have hr : r.isAbsolute = false := by
      rw [haddress]
      rfl
    refine ⟨r, hreach, hr, by rwa [haddress], ?_⟩
    exact (Path.resolve_beq_iff hr).mpr ⟨hbucket, by rw [haddress, hsegments]⟩
  · rintro ⟨r, -, hr⟩
    exact hr.marker_isPrefix hp.wellFormed
  · obtain ⟨d, hd, hsame⟩ := hr.relativize habs hbucket
    refine ⟨hr.marker_isPrefix hp.wellFormed, d, relativizeAny_path hd, Path.beq_iff.mpr hsame, ?_⟩
    rw [← hsame]
    exact hr.key hp.wellFormed

/-- A directory claims what lies below it, but no sibling whose name extends
    its own, and not itself. -/
theorem marker_claims_no_sibling :
    let host : Host Value := .fileSystem (.ofHost 0 (.config .default))
    let p : StorePath := ⟨⟨some "b", ["x", "a"]⟩, host⟩
    let below : StorePath := ⟨⟨some "b", ["x", "a", "é"]⟩, host⟩
    let sibling : StorePath := ⟨⟨some "b", ["x", "ab"]⟩, host⟩
    Reachable p ∧ Reachable below ∧ Reachable sibling ∧ p.isAbsolute = true ∧
      p.bucket = below.bucket ∧ p.bucket = sibling.bucket ∧
      (∃ r, Reachable r ∧ p.LeadsDown below r) ∧
      (¬∃ r, Reachable r ∧ p.LeadsDown sibling r) ∧ ¬∃ r, Reachable r ∧ p.LeadsDown p r := by
  intro host p below sibling
  have hparse : Address.parse? "/b/x/a" = some p.toAddress := by decide +kernel
  have hparse' : Address.parse? "/b/x/a/é" = some below.toAddress := by decide +kernel
  have hparse'' : Address.parse? "/b/x/ab" = some sibling.toAddress := by decide +kernel
  have hp : Reachable p := reachable_of_parse? hparse
  have hbelow : Reachable below := reachable_of_parse? hparse'
  have hsibling : Reachable sibling := reachable_of_parse? hparse''
  obtain ⟨l, hl, -, hiff, -⟩ := marker_claims_descendants hp hbelow rfl rfl
  obtain ⟨l', hl', -, hiff', -⟩ := marker_claims_descendants hp hsibling rfl rfl
  obtain ⟨l'', hl'', -, hiff'', -⟩ := marker_claims_descendants hp hp rfl rfl
  obtain rfl := Except.ok.inj ((location_of_bucket rfl).symm.trans hl)
  obtain rfl := Except.ok.inj ((location_of_bucket rfl).symm.trans hl')
  obtain rfl := Except.ok.inj ((location_of_bucket rfl).symm.trans hl'')
  refine ⟨hp, hbelow, hsibling, rfl, rfl, rfl, hiff.mp (by decide +kernel), ?_, ?_⟩
  · rw [← hiff']
    decide +kernel
  · rw [← hiff'']
    decide +kernel

end Keyspace.Session
