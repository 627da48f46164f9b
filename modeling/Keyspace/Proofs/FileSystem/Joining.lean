import Keyspace.Proofs.Address.Joined
import Keyspace.Proofs.Path.Failing
import Keyspace.Proofs.Path.Operand
import Keyspace.Proofs.Path.Resolution

/-! # Paths of joined arguments

    A file system makes a path of any number of arguments: it leaves out those
    that count as false, joins the others, which must be texts, and parses the
    result once. What comes out is told here from the arguments themselves.

    * If one of them is no text, the first such is refused by its position
      among those that are left (`textsFrom_of_not_isText`).
    * Otherwise the names of the path are those of the arguments, one argument
      after the other, and the first one decides whether the path is absolute
      (`getPath_of_any`).
    * So it makes no difference whether the arguments are joined and parsed, or
      parsed one by one and resolved one after the other, as long as the first
      one makes a path and the others are kept from being absolute
      (`getPath_by_resolving`).
-/

namespace Keyspace

namespace Value

/-! ## Section 1: Arguments -/

/-- The values that count as false: null, false, zero and what is empty. -/
inductive IsFalsy : Value → Prop where
  | null : IsFalsy .null
  | bool : IsFalsy (.bool false)
  | int : IsFalsy (.int 0)
  | float {label : Nat} {x : Binary64} : x.exact = .finite 0 → IsFalsy (.float label x)
  | text : IsFalsy (.text "")
  | list {label : Option Nat} : IsFalsy (.list label [])
  | dict {label : Option Nat} : IsFalsy (.dict label [])

theorem truthy_eq_false_iff {v : Value} : v.truthy = false ↔ v.IsFalsy := by
  constructor
  · intro h
    cases v with
    | null => exact .null
    | bool b =>
      obtain rfl : b = false := h
      exact .bool
    | int i =>
      obtain rfl : i = 0 := by simpa [truthy] using h
      exact .int
    | float label x => exact .float (by simpa [truthy] using h)
    | text s =>
      obtain rfl : s = "" := by simpa [truthy] using h
      exact .text
    | list label items =>
      obtain rfl : items = [] := by simpa [truthy] using h
      exact .list
    | dict label entries =>
      obtain rfl : entries = [] := by simpa [truthy] using h
      exact .dict
    -- values of all other types count as true
    | _ => cases h
  · rintro (_ | _ | _ | hzero | _ | _ | _)
    case float => simp [truthy, hzero]
    all_goals rfl

/-- The value is a text. -/
def IsText (v : Value) : Prop := ∃ s, v = .text s

/-- Values are texts, or there is a first one among them that is none. -/
theorem texts_or_first_other (vs : List Value) :
    (∃ texts : List String, vs = texts.map .text) ∨
      ∃ (texts : List String) (v : Value) (rest : List Value),
        vs = texts.map .text ++ v :: rest ∧ ¬v.IsText := by
  induction vs with
  | nil => exact .inl ⟨[], rfl⟩
  | cons v vs ih =>
    by_cases hv : v.IsText
    · obtain ⟨s, rfl⟩ := hv
      rcases ih with ⟨texts, rfl⟩ | ⟨texts, w, rest, rfl, hw⟩
      · exact .inl ⟨s :: texts, rfl⟩
      · exact .inr ⟨s :: texts, w, rest, rfl, hw⟩
    · exact .inr ⟨[], v, vs, rfl, hv⟩

theorem filter_truthy_texts (texts : List String) :
    (texts.map Value.text).filter truthy = (texts.filter fun t => t != "").map .text :=
  List.filter_map

end Value

namespace FileSystem

theorem textsFrom_texts (position : Nat) (texts : List String) :
    textsFrom position (texts.map .text) = .ok texts := by
  induction texts generalizing position with
  | nil => rfl
  | cons t texts ih =>
    rw [List.map_cons, textsFrom, ih]
    rfl

/-- Texts in front of the first value that is none are counted. -/
theorem textsFrom_of_not_isText (position : Nat) (texts : List String) {v : Value}
    (hv : ¬v.IsText) (rest : List Value) :
    textsFrom position (texts.map .text ++ v :: rest) =
      .error (.notJoinable (position + texts.length) v.typeName) := by
  induction texts generalizing position with
  | nil =>
    cases v with
    | text s => exact absurd ⟨s, rfl⟩ hv
    | _ => rfl
  | cons t texts ih =>
    rw [List.map_cons, List.cons_append, textsFrom, ih]
    show Except.error (Misuse.notJoinable (position + 1 + texts.length) v.typeName) = _
    rw [List.length_cons, Nat.add_assoc, Nat.add_comm 1]

/-! ## Section 2: Outcomes -/

variable {f : Store} {vs ws : List Value} {texts : List String} {a : Address}

theorem getPath_def (hvs : vs ≠ []) :
    f.getPath vs =
      (misused (textsFrom 0 (vs.filter Value.truthy))).bind fun texts =>
        (Address.parseAny (.text (separatorText.intercalate texts))).map fun a =>
          { a with fileSystem := .fileSystem f } := by
  rw [getPath, if_neg]
  intro hempty
  exact hvs (List.isEmpty_iff.mp hempty)

/-- Only what does not count as false matters. -/
theorem getPath_congr (hvs : vs ≠ []) (hws : ws ≠ [])
    (h : ws.filter Value.truthy = vs.filter Value.truthy) : f.getPath ws = f.getPath vs := by
  rw [getPath_def hvs, getPath_def hws, h]

theorem getPath_of_texts (hvs : vs ≠ []) (h : vs.filter Value.truthy = texts.map .text)
    (hparse : Address.parse? (separatorText.intercalate texts) = some a) :
    f.getPath vs = .ok { a with fileSystem := .fileSystem f } := by
  rw [getPath_def hvs, h, textsFrom_texts]
  simp only [misused, Except.bind, Address.parseAny, hparse, Except.map]

theorem getPath_of_not_parse? (hvs : vs ≠ []) (h : vs.filter Value.truthy = texts.map .text)
    (hparse : Address.parse? (separatorText.intercalate texts) = none) :
    f.getPath vs = .error (.failure (.bucketMissing (separatorText.intercalate texts))) := by
  rw [getPath_def hvs, h, textsFrom_texts]
  simp only [misused, Except.bind, Address.parseAny, hparse, Except.map]

theorem getPath_of_not_isText {v : Value} {rest : List Value} (hvs : vs ≠ [])
    (h : vs.filter Value.truthy = texts.map .text ++ v :: rest) (hv : ¬v.IsText) :
    f.getPath vs = .error (.misuse (.notJoinable texts.length v.typeName)) := by
  rw [getPath_def hvs, h, textsFrom_of_not_isText 0 texts hv, Nat.zero_add]
  rfl

/-- Texts among the arguments that do not count as false are not empty. -/
theorem ne_empty_of_filter (h : vs.filter Value.truthy = texts.map .text) :
    ∀ t ∈ texts, t ≠ "" := by
  rintro t ht rfl
  have hmem : Value.text "" ∈ vs.filter Value.truthy := by
    rw [h]
    exact List.mem_map_of_mem ht
  exact absurd (List.mem_filter.mp hmem).2 (by decide)

theorem raises_invalidPath_getPath_iff (hvs : vs ≠ [])
    (h : vs.filter Value.truthy = texts.map .text) :
    Path.Raises .invalidPath (f.getPath vs) ↔
      Address.parse? (separatorText.intercalate texts) = none := by
  cases hparse : Address.parse? (separatorText.intercalate texts) with
  | none =>
    rw [getPath_of_not_parse? hvs h hparse]
    exact iff_of_true ⟨_, rfl, rfl⟩ rfl
  | some a =>
    rw [getPath_of_texts hvs h hparse]
    exact iff_of_false (Path.not_raises_ok _ _) (Option.some_ne_none a)

/-! ## Section 3: Arguments of any type -/

/-- **The path of any arguments.** What counts as false is ignored. If there is
    something else than texts among the rest, the first such is refused with
    its position there and its type. Otherwise an invalid path is refused
    exactly if the first argument that is left begins with a separator and
    there are no other characters; and if not, the path belongs to the file
    system, is absolute exactly if that argument begins with a separator, and
    has the runs of the arguments as names, in their order. -/
theorem getPath_of_any (f : Store) {vs : List Value} (hvs : vs ≠ []) :
    (∀ v : Value, v.truthy = false ↔ v.IsFalsy) ∧
      (∀ ws, ws ≠ [] → ws.filter Value.truthy = vs.filter Value.truthy →
        f.getPath ws = f.getPath vs) ∧
      ((∃ v ∈ vs.filter Value.truthy, ¬v.IsText) →
        ∃ (texts : List String) (v : Value) (rest : List Value) (m : Misuse),
          vs.filter Value.truthy = texts.map .text ++ v :: rest ∧ ¬v.IsText ∧
            f.getPath vs = .error (.misuse m) ∧ m.category.name = "TypeError" ∧
            m.message = "sequence item " ++ toString texts.length ++
              ": expected str instance, " ++ v.typeName ++ " found") ∧
      ∀ texts : List String, vs.filter Value.truthy = texts.map .text →
        (Path.Raises .invalidPath (f.getPath vs) ↔
          Address.BeginsAbsolute texts ∧ ∀ t ∈ texts, ∀ c ∈ t.toList, c = '/') ∧
        (¬Path.Raises .invalidPath (f.getPath vs) →
          ∃ p, f.getPath vs = .ok p ∧ p.fileSystem = .fileSystem f ∧
            (p.isAbsolute = true ↔ Address.BeginsAbsolute texts) ∧
            ∃ runs : String → List (List Char),
              (∀ t, Text.MaximalRuns '/' t.toList (runs t)) ∧
                (p.bucket.toList ++ p.segments).map String.toList = texts.flatMap runs) := by
  refine ⟨fun v => Value.truthy_eq_false_iff, fun ws hws h => getPath_congr hvs hws h, ?_, ?_⟩
  · rintro ⟨w, hw, hnot⟩
    rcases Value.texts_or_first_other (vs.filter Value.truthy) with
      ⟨texts, htexts⟩ | ⟨texts, v, rest, hsplit, hv⟩
    · -- they are all texts, and so is the one that is said to be none
      rw [htexts] at hw
      obtain ⟨s, -, rfl⟩ := List.mem_map.mp hw
      exact absurd ⟨s, rfl⟩ hnot
    · exact ⟨texts, v, rest, _, hsplit, hv, getPath_of_not_isText hvs hsplit hv, rfl, rfl⟩
  · intro texts htexts
    have hne := ne_empty_of_filter htexts
    have hraises := raises_invalidPath_getPath_iff (f := f) hvs htexts
    refine ⟨hraises.trans (Address.parse?_joined_eq_none_iff hne), ?_⟩
    intro hnot
    rw [hraises] at hnot
    obtain ⟨a, ha⟩ := Option.ne_none_iff_exists'.mp hnot
    refine ⟨_, getPath_of_texts hvs htexts ha, rfl, ?_, fun t => Text.runs '/' t.toList, ?_, ?_⟩
    · rw [← Address.head?_joined_iff hne]
      exact Address.isAbsolute_of_parse? ha
    · intro t
      exact Text.runs_maximal t.toList
    · -- joining puts separators between the texts, where no run can cross
      show a.names.map String.toList = _
      rw [Address.toList_names_of_parse? ha, Address.toList_joined, Text.runs_intercalate_flatMap,
        List.flatMap_map]
      rfl

/-- Empty arguments and zero do not count, and separators alone are no names.
    A number that does is refused as the second argument that is left. -/
theorem getPath_of_any_mixed :
    let f : Store := ⟨.default, 0, []⟩
    let vs : List Value := [.null, .text "", .text "//", .int 0, .list none [], .text "b//x"]
    let ws : List Value := [.null, .text "x", .int 3]
    vs ≠ [] ∧ ws ≠ [] ∧
      (∃ p, f.getPath vs = .ok p ∧ p.fileSystem = .fileSystem f ∧ p.isAbsolute = true) ∧
      ∃ m : Misuse, f.getPath ws = .error (.misuse m) ∧ m.category.name = "TypeError" := by
  intro f vs ws
  have hvs : vs ≠ [] := List.cons_ne_nil _ _
  have hws : ws ≠ [] := List.cons_ne_nil _ _
  refine ⟨hvs, hws, ?_, ?_⟩
  · obtain ⟨-, -, -, htexts⟩ := getPath_of_any f hvs
    obtain ⟨hraises, hpath⟩ := htexts ["//", "b//x"] rfl
    have hnot : ¬Path.Raises .invalidPath (f.getPath vs) := by
      intro h
      have hall := (hraises.mp h).2 "b//x" (by simp) 'b' (by decide +kernel)
      exact absurd hall (by decide)
    obtain ⟨p, hp, hfs, habsolute, -⟩ := hpath hnot
    exact ⟨p, hp, hfs, habsolute.mpr ⟨"//", rfl, by decide +kernel⟩⟩
  · obtain ⟨-, -, hother, -⟩ := getPath_of_any f hws
    have hint : ∃ v ∈ ws.filter Value.truthy, ¬v.IsText := by
      refine ⟨.int 3, List.mem_filter.mpr ⟨by simp [ws], rfl⟩, ?_⟩
      rintro ⟨s, hs⟩
      cases hs
    obtain ⟨-, -, -, m, -, -, hm, hname, -⟩ := hother hint
    exact ⟨m, hm, hname⟩

end FileSystem

/-! ## Section 4: Joining and resolving -/

namespace Path

variable {p : StorePath} {t : String} {names : List String}

/-- A text without a bucket extends the path by its names. -/
theorem resolveAny_of_parse? (h : Address.parse? t = some ⟨none, names⟩) :
    p.resolveAny (.text t) = .ok (p.extended names) := by
  rw [resolveAny, operand_of_parse? h]
  exact congrArg Except.ok (resolve_of_relative rfl)

/-- Resolves texts, one after the other. -/
def resolveTexts (p : StorePath) (texts : List String) : Except Fault StorePath :=
  texts.foldlM (fun q t => q.resolveAny (.text t)) p

theorem resolveTexts_withoutLeading (p : StorePath) (texts : List String) :
    p.resolveTexts (texts.map Address.withoutLeading) =
      .ok (p.extended (texts.flatMap Address.namesIn)) := by
  -- each text extends the path that the texts before it have made of `p`
  induction texts generalizing p with
  | nil => exact congrArg Except.ok (extended_nil p).symm
  | cons t texts ih =>
    have hstep := resolveAny_of_parse? (p := p) (Address.parse?_withoutLeading t)
    rw [List.map_cons, resolveTexts, List.foldlM_cons, hstep]
    show (p.extended (Address.namesIn t)).resolveTexts _ = _
    rw [ih, extended_extended, List.flatMap_cons]

end Path

namespace FileSystem

/-- **Joining agrees with resolving.** If the first of the texts is not empty
    and makes a path, joining all of them makes one as well. It is the path
    that the first text makes in the file system, with the other texts
    resolved against it one after the other, once their leading separators are
    removed. -/
theorem getPath_by_resolving (f : Store) (r r' : Registry) {first : String}
    (hne : first ≠ "") (hfirst : ∃ p, (r.path (.text first) .null).1 = .ok p)
    (more : List String) :
    ∃ start p, (r'.path (.text first) (.fileSystem f)).1 = .ok start ∧
      f.getPath (.text first :: more.map .text) = .ok p ∧
      start.resolveTexts (more.map Address.withoutLeading) = .ok p := by
  obtain ⟨q, hq⟩ := hfirst
  have hparse : Address.parse? first = some q.toAddress := Registry.parse?_of_path hq
  have hstart := Registry.path_in_fileSystem hparse r' f
  refine ⟨_, _, hstart, ?_, Path.resolveTexts_withoutLeading _ more⟩
  -- empty texts are not joined, but they have no names that could be missing
  have hkept : (Value.text first :: more.map .text).filter Value.truthy =
      (first :: more.filter fun t => t != "").map .text := by
    have hall := Value.filter_truthy_texts (first :: more)
    rwa [List.filter_cons_of_pos (by simpa using hne)] at hall
  have hjoined := Address.parse?_joined hne hparse (more.filter fun t => t != "")
  rw [Address.flatMap_namesIn_filter] at hjoined
  exact getPath_of_texts (List.cons_ne_nil _ _) hkept hjoined

/-- Texts that are empty, or all separators, or begin or end with some. -/
theorem getPath_by_resolving_separators :
    let f : Store := ⟨.default, 0, []⟩
    "/b//" ≠ "" ∧ (∃ p, (Registry.empty.path (.text "/b//") .null).1 = .ok p) ∧
      ∃ start p, (Registry.empty.path (.text "/b//") (.fileSystem f)).1 = .ok start ∧
        f.getPath [.text "/b//", .text "", .text "//x/", .text "///", .text "y//z"] = .ok p ∧
        start.resolveTexts ["", "x/", "", "y//z"] = .ok p := by
  intro f
  have hne : "/b//" ≠ "" := by decide
  have hfirst : ∃ p, (Registry.empty.path (.text "/b//") .null).1 = .ok p :=
    ⟨_, Registry.path_of_parse? (a := ⟨some "b", []⟩) (by decide +kernel) _⟩
  have hstripped : ["", "//x/", "///", "y//z"].map Address.withoutLeading =
      ["", "x/", "", "y//z"] := by decide +kernel
  obtain ⟨start, p, hstart, hp, hfold⟩ :=
    getPath_by_resolving f Registry.empty Registry.empty hne hfirst ["", "//x/", "///", "y//z"]
  rw [hstripped] at hfold
  exact ⟨hne, hfirst, start, p, hstart, hp, hfold⟩

end FileSystem

end Keyspace
