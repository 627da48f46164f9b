import Keyspace.Proofs.Path.Parsing
import Keyspace.Proofs.Session.Reachable
import Keyspace.Proofs.Text.Joined

/-! # Canonical texts

    Many texts make the same path, and one of them is the text of the path.
    These canonical texts are told by their characters. A relative one is a
    key: it is empty, or separators stand in it between other characters only,
    one at a time. An absolute one has a separator, a name, another separator
    and a key, so the root of a bucket ends with a separator and no other
    absolute path does.

    Canonical are exactly the texts of well-formed addresses
    (`isCanonical_iff`). So they are the texts that parsing and writing leave
    as they are, and the texts that sessions write paths as
    (`canonical_texts`).
-/

namespace Keyspace

namespace Address

/-! ## Section 1: Keys -/

/-- A text that is not empty and in which separators stand between other
    characters only, one at a time. -/
def IsSeparated (s : String) : Prop :=
  s ≠ "" ∧ s.toList.head? ≠ some '/' ∧ s.toList.getLast? ≠ some '/' ∧ ¬['/', '/'] <:+: s.toList

/-- The key of an address: empty, or separated. -/
def IsKey (s : String) : Prop := s = "" ∨ IsSeparated s

theorem isKey_iff_isJoined {s : String} : IsKey s ↔ Text.IsJoined separator s.toList := by
  constructor
  · rintro (rfl | ⟨-, hjoined⟩)
    · exact Text.isJoined_of_not_mem (by simp)
    · exact hjoined
  · intro hjoined
    by_cases hs : s = ""
    · exact .inl hs
    · exact .inr ⟨hs, hjoined⟩

theorem isKey_key {a : Address} (h : a.WellFormed) : IsKey a.key := by
  rw [isKey_iff_isJoined, toList_key]
  exact Text.isJoined_intercalate (isName_toList h.2)

/-- The names in a key, joined by separators, are the key. -/
theorem key_namesIn {s : String} (h : IsKey s) (bucket : Option String) :
    (Address.mk bucket (namesIn s)).key = s := by
  rw [← String.toList_inj, toList_key]
  have hnames : (namesIn s).map String.toList = Text.runs separator s.toList := by
    rw [namesIn, List.map_map]
    simp
  rw [hnames]
  exact Text.intercalate_runs_iff.mpr (isKey_iff_isJoined.mp h)

/-! ## Section 2: Texts of addresses -/

/-- A key, or a bucket between separators with a key behind it. -/
def IsCanonical (s : String) : Prop :=
  IsKey s ∨ ∃ b k, s = "/" ++ b ++ "/" ++ k ∧ b ≠ "" ∧ '/' ∉ b.toList ∧ IsKey k

theorem isCanonical_text {a : Address} (h : a.WellFormed) : IsCanonical a.text := by
  have hkey := isKey_key h
  cases hb : a.bucket with
  | none =>
    rw [text_of_relative hb]
    exact .inl hkey
  | some b =>
    obtain ⟨hne, hfree⟩ := isName_iff.mp (h.1 b hb)
    refine .inr ⟨b, a.key, ?_, hne, hfree, hkey⟩
    rw [text, hb]
    rfl

/-- Canonical are exactly the texts of well-formed addresses. -/
theorem isCanonical_iff {s : String} : IsCanonical s ↔ ∃ a : Address, a.WellFormed ∧ a.text = s := by
  constructor
  · have hnames (k : String) : ∀ n ∈ namesIn k, IsName n := fun n hn => isName_of_mem_namesIn hn
    rintro (hkey | ⟨b, k, rfl, hne, hfree, hkey⟩)
    · refine ⟨⟨none, namesIn s⟩, ⟨by simp, hnames s⟩, ?_⟩
      rw [text_of_relative rfl]
      exact key_namesIn hkey none
    · refine ⟨⟨some b, namesIn k⟩, ⟨?_, hnames k⟩, ?_⟩
      · rintro n ⟨rfl⟩
        exact isName_iff.mpr ⟨hne, hfree⟩
      · rw [text, key_namesIn hkey]
        rfl
  · rintro ⟨a, ha, rfl⟩
    exact isCanonical_text ha

/-- Writing what a text denotes gives the text again exactly if it is
    canonical. -/
theorem text_eq_iff_isCanonical {s : String} {a : Address} (h : parse? s = some a) :
    a.text = s ↔ IsCanonical s := by
  rw [isCanonical_iff]
  constructor
  · exact fun htext => ⟨a, wellFormed_of_parse? h, htext⟩
  · -- a canonical text denotes the address that it is the text of
    rintro ⟨b, hb, rfl⟩
    rw [Option.some.inj (h.symm.trans (parse?_text hb))]

end Address

/-! ## Section 3: Texts of paths -/

namespace Session

/-- **Canonical texts.** A text from which a path is made is the text of that
    path exactly if it is canonical, and the text of the path is canonical
    whatever the text was, so that parsing it and writing the result changes
    nothing. Canonical are exactly the texts of reachable paths. -/
theorem canonical_texts (s : String) :
    (∀ (r : Registry) (host : Value) p, (r.path (.text s) host).1 = .ok p →
      (p.text = s ↔ Address.IsCanonical s) ∧ Address.IsCanonical p.text ∧
        ∀ r' : Registry, ∃ p', (r'.path (.text p.text) .null).1 = .ok p' ∧ p'.text = p.text) ∧
      ((∃ p, Reachable p ∧ p.text = s) ↔ Address.IsCanonical s) := by
  refine ⟨fun r host p hp => ?_, ?_, fun hs => ?_⟩
  · have hparse := Registry.parse?_of_path hp
    have hwf := Address.wellFormed_of_parse? hparse
    refine ⟨Address.text_eq_iff_isCanonical hparse, Address.isCanonical_text hwf, fun r' => ?_⟩
    exact ⟨_, Registry.path_of_parse? (Address.parse?_text hwf) r', rfl⟩
  · rintro ⟨p, hp, rfl⟩
    exact Address.isCanonical_text hp.wellFormed
  · obtain ⟨a, ha, rfl⟩ := Address.isCanonical_iff.mp hs
    exact ⟨_, reachable_of_parse? (Address.parse?_text ha), rfl⟩

/-- The root of a bucket with and without its last separator, and another
    path with one. -/
theorem canonical_texts_trailing :
    (∃ p, (Registry.empty.path (.text "/b/") .null).1 = .ok p ∧ p.text = "/b/") ∧
      Address.IsCanonical "/b/" ∧ ¬Address.IsCanonical "/b" ∧ ¬Address.IsCanonical "/b/x/" ∧
      ∃ p, Reachable p ∧ p.text = "/b/" := by
  have hroot : Address.parse? "/b/" = some ⟨some "b", []⟩ := by decide +kernel
  have hbare : Address.parse? "/b" = some ⟨some "b", []⟩ := by decide +kernel
  have hpath : Address.parse? "/b/x/" = some ⟨some "b", ["x"]⟩ := by decide +kernel
  obtain ⟨hmade, hreached⟩ := canonical_texts "/b/"
  obtain ⟨hiff, -, -⟩ := hmade .empty .null _ (Registry.path_of_parse? hroot _)
  obtain ⟨hiff', -, -⟩ := (canonical_texts "/b").1 .empty .null _ (Registry.path_of_parse? hbare _)
  obtain ⟨hiff'', -, -⟩ :=
    (canonical_texts "/b/x/").1 .empty .null _ (Registry.path_of_parse? hpath _)
  have hcanonical : Address.IsCanonical "/b/" := hiff.mp (by decide +kernel)
  refine ⟨⟨_, Registry.path_of_parse? hroot _, hiff.mpr hcanonical⟩, hcanonical, ?_, ?_,
    hreached.mpr hcanonical⟩
  · rw [← hiff']
    decide +kernel
  · rw [← hiff'']
    decide +kernel

end Session

end Keyspace
