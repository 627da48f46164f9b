import Keyspace.Proofs.Address.Built
import Keyspace.Proofs.Address.Spelling
import Keyspace.Proofs.FileSystem.Joining

/-! # The two ways in which file systems make paths

    A file system joins texts and parses the result, or it builds a path of a
    bucket and segments. The first way cuts a text at its separators, so it
    makes a segment of every run in it. The second way erases the separators,
    so it makes one segment of all the runs together, if there are any.

    Neither way loses a character that is no separator (`join_names_eq`). For
    one text the first way never makes fewer segments than the second, and both
    make the same exactly if there is one run at most. For several texts the
    differences add up and cannot cancel each other, so the paths are equal
    exactly if no text has two runs (`segmentsOf_eq_flatMap_iff`).
-/

namespace Keyspace

namespace Address

variable {s : String} {texts : List String}

/-! ## Section 1: What is left without separators -/

theorem join_namesIn (s : String) : String.join (namesIn s) = stripped s := by
  rw [← String.toList_inj, toList_stripped, ← Text.flatten_runs, String.toList_join, namesIn,
    List.flatMap_map]
  simp [List.flatMap_def]

theorem join_segmentsOf_singleton (s : String) : String.join (segmentsOf [s]) = stripped s := by
  rw [segmentsOf_singleton]
  by_cases hempty : stripped s = ""
  · rw [if_pos hempty, hempty]
    rfl
  · rw [if_neg hempty]
    exact String.empty_append

/-- Cut at separators or with separators erased, texts have the same
    characters. -/
theorem join_names_eq (texts : List String) :
    String.join (texts.flatMap namesIn) = String.join (segmentsOf texts) := by
  induction texts with
  | nil => rfl
  | cons s texts ih =>
    rw [List.flatMap_cons, segmentsOf_cons, String.join_append, String.join_append, ih,
      join_namesIn, join_segmentsOf_singleton]

/-! ## Section 2: Counting segments -/

theorem length_segmentsOf_singleton_le (s : String) : (segmentsOf [s]).length ≤ 1 := by
  rw [segmentsOf_singleton]
  split
  · exact Nat.zero_le 1
  · exact Nat.le_refl 1

/-- With no run or a single one, there is nothing that erasing could put
    together. -/
theorem segmentsOf_singleton_eq (h : (namesIn s).length ≤ 1) : segmentsOf [s] = namesIn s := by
  have hjoin := join_namesIn s
  match hnames : namesIn s, h with
  | [], _ =>
    rw [hnames] at hjoin
    rw [segmentsOf_singleton, ← hjoin]
    rfl
  | [name], _ =>
    have hname : IsName name := isName_of_mem_namesIn (hnames ▸ List.mem_singleton_self name)
    have hstripped : stripped s = name := by
      rw [← hjoin, hnames]
      exact String.empty_append
    rw [segmentsOf_singleton, hstripped, if_neg (isName_iff.mp hname).1]

theorem length_segmentsOf_singleton_le_namesIn (s : String) :
    (segmentsOf [s]).length ≤ (namesIn s).length := by
  by_cases hlen : (namesIn s).length ≤ 1
  · exact Nat.le_of_eq (congrArg List.length (segmentsOf_singleton_eq hlen))
  · have hone := length_segmentsOf_singleton_le s
    omega

theorem length_segmentsOf_le (texts : List String) :
    (segmentsOf texts).length ≤ (texts.flatMap namesIn).length := by
  induction texts with
  | nil => exact Nat.le_refl 0
  | cons s texts ih =>
    have hfirst := length_segmentsOf_singleton_le_namesIn s
    rw [segmentsOf_cons, List.flatMap_cons, List.length_append, List.length_append]
    omega

/-- The segments are the same exactly if no text has more than one run. -/
theorem segmentsOf_eq_flatMap_iff :
    segmentsOf texts = texts.flatMap namesIn ↔ ∀ s ∈ texts, (namesIn s).length ≤ 1 := by
  induction texts with
  | nil =>
    constructor
    · intro _ s hs
      cases hs
    · intro _
      rfl
  | cons s texts ih =>
    rw [segmentsOf_cons, List.flatMap_cons, List.forall_mem_cons, ← ih]
    constructor
    · intro heq
      -- no part is longer on the left side, and together they are equally long
      have hfirst := length_segmentsOf_singleton_le_namesIn s
      have hrest := length_segmentsOf_le texts
      have hlen := congrArg List.length heq
      rw [List.length_append, List.length_append] at hlen
      have hsame : (segmentsOf [s]).length = (namesIn s).length := by omega
      obtain ⟨-, hsegments⟩ := List.append_inj heq hsame
      have hone := length_segmentsOf_singleton_le s
      exact ⟨by omega, hsegments⟩
    · rintro ⟨hone, hsegments⟩
      rw [segmentsOf_singleton_eq hone, hsegments]

theorem length_namesIn_le_one_iff :
    (namesIn s).length ≤ 1 ↔ Text.AtMostOneRun separator s.toList := by
  rw [namesIn, List.length_map, Text.length_runs_le_one_iff]

/-- A separator and a name denote the root of a bucket. -/
theorem parse?_bucket {bucket : String} (h : IsName bucket) :
    parse? ("/" ++ bucket) = some ⟨some bucket, []⟩ := by
  have hspelling : Spelling ⟨some bucket, []⟩ (separators 1 ++ (bucket ++ separators 0)) :=
    .absolute 0 (.last bucket 0)
  have hwf : WellFormed ⟨some bucket, []⟩ := by
    refine ⟨?_, nofun⟩
    rintro b ⟨rfl⟩
    exact h
  rw [separators_zero, String.append_empty] at hspelling
  exact hspelling.parse?_eq hwf

end Address

namespace FileSystem

variable {f : Store} {first : String} {a : Address}

/-! ## Section 3: Two paths -/

/-- Texts behind one that denotes an address add their names to it. -/
theorem getPath_of_first (hne : first ≠ "") (h : Address.parse? first = some a)
    (more : List String) :
    f.getPath (.text first :: more.map .text) =
      .ok ⟨⟨a.bucket, a.segments ++ more.flatMap Address.namesIn⟩, .fileSystem f⟩ := by
  -- empty texts are not joined, but they have no names either
  have hkept : (Value.text first :: more.map .text).filter Value.truthy =
      (first :: more.filter fun t => t != "").map .text := by
    have hall := Value.filter_truthy_texts (first :: more)
    rwa [List.filter_cons_of_pos (by simpa using hne)] at hall
  have hjoined := Address.parse?_joined hne h (more.filter fun t => t != "")
  rw [Address.flatMap_namesIn_filter] at hjoined
  exact getPath_of_texts (List.cons_ne_nil _ _) hkept hjoined

theorem pathFromParts_of_ofNames? {bucket : Option String} {names : List String}
    (h : Address.ofNames? bucket names = some a) :
    f.pathFromParts (.ofText? bucket) (names.map .text) = .ok ⟨a, .fileSystem f⟩ := by
  rw [pathFromParts, Address.ofNamesAny_texts, h]
  rfl

/-- **Where cutting and erasing differ.** Given a bucket and any segments, both
    ways make a path of the bucket in the file system, and the segments of both
    paths put together are the same text. The paths are equal exactly if each
    text has at most one run. -/
theorem getPath_eq_pathFromParts_iff (f : Store) {bucket : String} (hne : bucket ≠ "")
    (hfree : '/' ∉ bucket.toList) (segments : List String) :
    ∃ p q, f.getPath (.text ("/" ++ bucket) :: segments.map .text) = .ok p ∧
      f.pathFromParts (.text bucket) (segments.map .text) = .ok q ∧
      p.bucket = some bucket ∧ q.bucket = some bucket ∧
      p.fileSystem = .fileSystem f ∧ q.fileSystem = .fileSystem f ∧
      String.join p.segments = String.join q.segments ∧
      ((p == q) = true ↔ ∀ s ∈ segments, Text.AtMostOneRun '/' s.toList) := by
  have hname : Address.IsName bucket := Address.isName_iff.mpr ⟨hne, hfree⟩
  have hfirst : "/" ++ bucket ≠ "" := by
    intro hempty
    exact hne (String.append_eq_empty_iff.mp hempty).2
  have hbuilt : Address.ofNames? (some bucket) segments =
      some ⟨some bucket, Address.segmentsOf segments⟩ := by
    rw [Address.ofNames?, Address.stripped_of_isName hname, if_neg hne]
  refine ⟨_, _, getPath_of_first hfirst (Address.parse?_bucket hname) segments,
    pathFromParts_of_ofNames? hbuilt, rfl, rfl, rfl, rfl, ?_, ?_⟩
  · exact Address.join_names_eq segments
  · rw [Path.beq_iff, Address.eq_iff]
    show some bucket = some bucket ∧
      [] ++ segments.flatMap Address.namesIn = Address.segmentsOf segments ↔ _
    rw [List.nil_append, and_iff_right rfl, eq_comm, Address.segmentsOf_eq_flatMap_iff]
    simp only [Address.length_namesIn_le_one_iff]
    exact Iff.rfl

/-- A text with separators at its ends and one of separators alone make no
    difference, but one with a separator inside does. -/
theorem getPath_eq_pathFromParts_iff_edges :
    let f : Store := ⟨.default, 0, []⟩
    "b" ≠ "" ∧ '/' ∉ "b".toList ∧
      (∃ p q, f.getPath [.text "/b", .text "//x/", .text "", .text "///"] = .ok p ∧
        f.pathFromParts (.text "b") [.text "//x/", .text "", .text "///"] = .ok q ∧
        (p == q) = true) ∧
      ∃ p q, f.getPath [.text "/b", .text "x/y"] = .ok p ∧
        f.pathFromParts (.text "b") [.text "x/y"] = .ok q ∧
        String.join p.segments = String.join q.segments ∧ ¬(p == q) = true := by
  intro f
  have hne : "b" ≠ "" := by decide
  have hfree : '/' ∉ "b".toList := by decide +kernel
  have hruns (s : String) :
      (Text.runs '/' s.toList).length ≤ 1 ↔ Text.AtMostOneRun '/' s.toList :=
    Text.length_runs_le_one_iff
  refine ⟨hne, hfree, ?_, ?_⟩
  · obtain ⟨p, q, hp, hq, -, -, -, -, -, hiff⟩ :=
      getPath_eq_pathFromParts_iff f hne hfree ["//x/", "", "///"]
    refine ⟨p, q, hp, hq, hiff.mpr ?_⟩
    simp only [← hruns]
    decide +kernel
  · obtain ⟨p, q, hp, hq, -, -, -, -, hjoin, hiff⟩ :=
      getPath_eq_pathFromParts_iff f hne hfree ["x/y"]
    refine ⟨p, q, hp, hq, hjoin, ?_⟩
    intro hsame
    have hone := (hruns "x/y").mpr (hiff.mp hsame "x/y" (List.mem_singleton_self _))
    exact absurd hone (by decide +kernel)

end FileSystem

end Keyspace
