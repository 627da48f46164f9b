import Keyspace.Collection
import Keyspace.PathError.Arguments
import Keyspace.Value.Record
import Keyspace.Proofs.Value.Paths
import Keyspace.Proofs.Sorting.Permutation

/-! # Well-formed values stay well-formed

    Most operations on values make no paths: those in their results come from
    the values that they are given. So the results are well-formed if these
    values are. Here this is shown for dictionaries and what is shared among
    them, for plain data, in which there are no paths at all, for what is built
    from arguments, and for collections.
-/

namespace Keyspace

/-! ## Section 1: Dictionaries -/

theorem Value.wellFormed_getD {v? : Option Value} {absent : Value}
    (h : ∀ v ∈ v?, v.WellFormed) (habsent : absent.WellFormed) :
    (v?.getD absent).WellFormed := by
  cases v? with
  | none => exact habsent
  | some v => exact h v rfl

namespace Entries

theorem mem_of_get? {entries : List (String × Value)} {key : String} {v : Value}
    (h : get? entries key = some v) : (key, v) ∈ entries := by
  induction entries with
  | nil => simp [get?] at h
  | cons e rest ih =>
    obtain ⟨k, w⟩ := e
    by_cases hk : k = key
    · subst hk
      simp only [get?, if_pos] at h
      obtain rfl := Option.some.inj h
      exact List.mem_cons_self
    · simp only [get?, if_neg hk] at h
      exact List.mem_cons_of_mem _ (ih h)

theorem mem_insert {entries : List (String × Value)} {key : String} {v : Value}
    {e : String × Value} (h : e ∈ insert entries key v) : e = (key, v) ∨ e ∈ entries := by
  induction entries with
  | nil => exact Or.inl (List.mem_singleton.mp h)
  | cons f rest ih =>
    obtain ⟨k, w⟩ := f
    by_cases hk : k = key
    · simp only [insert, if_pos hk, List.mem_cons] at h
      rcases h with rfl | h
      · exact Or.inl (by rw [hk])
      · exact Or.inr (List.mem_cons_of_mem _ h)
    · simp only [insert, if_neg hk, List.mem_cons] at h
      rcases h with rfl | h
      · exact Or.inr List.mem_cons_self
      · exact (ih h).imp_right (List.mem_cons_of_mem _)

/-- What holds of no entries and is kept by setting each pair holds of all of
    them together. -/
theorem ofList_induction {pairs : List (String × Value)}
    {motive : List (String × Value) → Prop} (nil : motive [])
    (insert : ∀ entries, motive entries → ∀ p ∈ pairs, motive (insert entries p.1 p.2)) :
    motive (ofList pairs) := by
  suffices hfold : ∀ entries, motive entries →
      motive (pairs.foldl (fun entries p => Entries.insert entries p.1 p.2) entries) from
    hfold [] nil
  induction pairs with
  | nil => exact fun _ h => h
  | cons p rest ih =>
    intro entries h
    have hp := insert entries h p List.mem_cons_self
    exact ih (fun entries h q hq => insert entries h q (List.mem_cons_of_mem p hq)) _ hp

/-- Each entry was set. -/
theorem mem_ofList {pairs : List (String × Value)} {e : String × Value}
    (h : e ∈ ofList pairs) : e ∈ pairs := by
  refine ofList_induction (motive := fun entries => ∀ e ∈ entries, e ∈ pairs) nofun ?_ e h
  intro entries hentries p hp e he
  rcases mem_insert he with rfl | he
  · exact hp
  · exact hentries e he

/-- Entries are well-formed when all their values are. -/
def WellFormed (entries : List (String × Value)) : Prop := ∀ e ∈ entries, e.2.WellFormed

theorem wellFormed_nil : WellFormed [] := by simp [WellFormed]

theorem wellFormed_insert {entries : List (String × Value)} {v : Value} (key : String)
    (h : WellFormed entries) (hv : v.WellFormed) : WellFormed (insert entries key v) := by
  intro e he
  rcases mem_insert he with rfl | he
  · exact hv
  · exact h e he

theorem wellFormed_ofList {pairs : List (String × Value)} (h : WellFormed pairs) :
    WellFormed (ofList pairs) :=
  fun e he => h e (mem_ofList he)

theorem wellFormed_getD {entries : List (String × Value)} {absent : Value} (key : String)
    (h : WellFormed entries) (habsent : absent.WellFormed) :
    ((get? entries key).getD absent).WellFormed := by
  refine Value.wellFormed_getD (fun v hv => ?_) habsent
  exact h _ (mem_of_get? hv)

end Entries

/-! ## Section 2: Shared dictionaries -/

/-- Shared dictionaries are well-formed when all their entries are. -/
def Dictionaries.WellFormed (ds : Dictionaries) : Prop := ∀ d ∈ ds, Entries.WellFormed d.2

namespace Dictionaries

theorem wellFormed_entries {ds : Dictionaries} (h : ds.WellFormed) (label : Nat) :
    Entries.WellFormed (ds.entries label) := by
  unfold entries
  cases hfind : ds.find? fun d => d.1 == some label with
  | none => exact Entries.wellFormed_nil
  | some d => exact h d (List.mem_of_find?_eq_some hfind)

theorem wellFormed_set {ds : Dictionaries} {v : Value} (h : ds.WellFormed) (hv : v.WellFormed)
    (label : Nat) (key : String) : (ds.set label key v).WellFormed := by
  intro d hd
  rcases List.mem_cons.mp hd with rfl | hd
  · exact Entries.wellFormed_insert key (wellFormed_entries h label) hv
  · exact h d (List.mem_filter.mp hd).1

end Dictionaries

namespace Value

theorem itemsWithShared_eq (f : Nat → Value) (items : List Value) :
    itemsWithShared f items = items.map (withShared f) := by
  induction items with
  | nil => rfl
  | cons v rest ih => rw [itemsWithShared, ih, List.map_cons]

theorem entriesWithShared_eq (f : Nat → Value) (entries : List (String × Value)) :
    entriesWithShared f entries = entries.map fun e => (e.1, e.2.withShared f) := by
  induction entries with
  | nil => rfl
  | cons e rest ih => rw [entriesWithShared, ih, List.map_cons]

theorem contents_detailWithShared (f : Nat → Value) (d : ErrorDetail Value) :
    (detailWithShared f d).contents = d.contents.map (withShared f) := by
  cases d <;> rfl

/-- Putting well-formed values in place of the shared dictionaries of a value
    keeps it well-formed. -/
theorem wellFormed_withShared {f : Nat → Value} (hf : ∀ l, (f l).WellFormed) {v : Value}
    (hv : v.WellFormed) : (v.withShared f).WellFormed := by
  induction v using Value.induction with
  | list l items ih =>
    rw [wellFormed_list] at hv
    simp only [withShared, itemsWithShared_eq, wellFormed_list, List.forall_mem_map]
    exact fun v hmem => ih v hmem (hv v hmem)
  | pair a b iha ihb =>
    rw [wellFormed_pair] at hv
    exact wellFormed_pair.mpr ⟨iha hv.1, ihb hv.2⟩
  | dict l entries ih =>
    cases l with
    | none =>
      rw [wellFormed_dict] at hv
      simp only [withShared, entriesWithShared_eq, wellFormed_dict, List.forall_mem_map]
      exact fun e hmem => ih e hmem (hv e hmem)
    | some l => exact hf l
  | enclosing l => exact hf l
  | path p ihe iho =>
    obtain ⟨hp, he, ho⟩ := wellFormed_path.mp hv
    obtain ⟨a, ⟨e, o, l⟩ | ⟨⟨e, o, l⟩, n, ls⟩⟩ := p <;>
      exact wellFormed_path.mpr ⟨hp, ihe he, iho ho⟩
  | fileSystem s ihe iho =>
    obtain ⟨he, ho⟩ := wellFormed_fileSystem.mp hv
    exact wellFormed_fileSystem.mpr ⟨ihe he, iho ho⟩
  | config c ihe iho =>
    obtain ⟨he, ho⟩ := wellFormed_config.mp hv
    exact wellFormed_config.mpr ⟨ihe he, iho ho⟩
  | location label l ih =>
    rw [wellFormed_location] at hv
    exact wellFormed_location.mpr (ih hv)
  | error label e ihm ihp ihb ihd =>
    obtain ⟨hm, hp, hb, hd⟩ := wellFormed_error.mp hv
    refine wellFormed_error.mpr ⟨ihm hm, ihp hp, ihb hb, ?_⟩
    rw [contents_detailWithShared, List.forall_mem_map]
    exact fun v hmem => ihd v hmem (hd v hmem)
  | null => exact hv
  | bool b => exact hv
  | int i => exact hv
  | float l x => exact hv
  | text s => exact hv

theorem wellFormed_unfold {ds : Dictionaries} (h : ds.WellFormed) (depth : Nat)
    (around : List Nat) (l : Nat) : (ds.unfold depth around l).WellFormed := by
  induction depth generalizing around l with
  | zero => exact wellFormed_enclosing l
  | succ n ih =>
    unfold Dictionaries.unfold
    split
    · exact wellFormed_enclosing l
    · rw [wellFormed_dict, entriesWithShared_eq, List.forall_mem_map]
      intro e he
      exact wellFormed_withShared (ih (l :: around)) (Dictionaries.wellFormed_entries h l e he)

/-- A value stays well-formed when its shared dictionaries are brought up to
    date. -/
theorem wellFormed_current {ds : Dictionaries} {v : Value} (h : ds.WellFormed)
    (hv : v.WellFormed) : (v.current ds).WellFormed :=
  wellFormed_withShared (wellFormed_unfold h (ds.length + 1) []) hv

theorem itemDictionaries_eq (items : List Value) :
    itemDictionaries items = items.flatMap dictionaries := by
  induction items with
  | nil => rfl
  | cons v rest ih => rw [itemDictionaries, ih, List.flatMap_cons]

theorem entryDictionaries_eq (entries : List (String × Value)) :
    entryDictionaries entries = entries.flatMap fun e => e.2.dictionaries := by
  induction entries with
  | nil => rfl
  | cons e rest ih => rw [entryDictionaries, ih, List.flatMap_cons]

theorem detailDictionaries_eq (d : ErrorDetail Value) :
    detailDictionaries d = d.contents.flatMap dictionaries := by
  cases d <;> simp [detailDictionaries, ErrorDetail.contents]

/-- The dictionaries in a well-formed value are well-formed. -/
theorem wellFormed_dictionaries {v : Value} (hv : v.WellFormed) :
    Dictionaries.WellFormed v.dictionaries := by
  induction v using Value.induction with
  | list l items ih =>
    rw [wellFormed_list] at hv
    intro d hd
    rw [dictionaries, itemDictionaries_eq, List.mem_flatMap] at hd
    obtain ⟨v, hmem, hd⟩ := hd
    exact ih v hmem (hv v hmem) d hd
  | pair a b iha ihb =>
    rw [wellFormed_pair] at hv
    exact List.forall_mem_append.mpr ⟨iha hv.1, ihb hv.2⟩
  | dict l entries ih =>
    rw [wellFormed_dict] at hv
    intro d hd
    rw [dictionaries, entryDictionaries_eq, List.mem_cons, List.mem_flatMap] at hd
    rcases hd with rfl | ⟨e, hmem, hd⟩
    · exact hv
    · exact ih e hmem (hv e hmem) d hd
  | path p ihe iho =>
    obtain ⟨-, he, ho⟩ := wellFormed_path.mp hv
    obtain ⟨a, ⟨e, o, l⟩ | ⟨⟨e, o, l⟩, n, ls⟩⟩ := p <;>
      exact List.forall_mem_append.mpr ⟨ihe he, iho ho⟩
  | fileSystem s ihe iho =>
    obtain ⟨he, ho⟩ := wellFormed_fileSystem.mp hv
    exact List.forall_mem_append.mpr ⟨ihe he, iho ho⟩
  | config c ihe iho =>
    obtain ⟨he, ho⟩ := wellFormed_config.mp hv
    exact List.forall_mem_append.mpr ⟨ihe he, iho ho⟩
  | location label l ih =>
    rw [wellFormed_location] at hv
    exact ih hv
  | error label e ihm ihp ihb ihd =>
    obtain ⟨hm, hp, hb, hd⟩ := wellFormed_error.mp hv
    obtain ⟨detail, m, p, b⟩ := e
    have hdetail : Dictionaries.WellFormed (detailDictionaries detail) := by
      intro d hmem
      rw [detailDictionaries_eq, List.mem_flatMap] at hmem
      obtain ⟨v, hv, hmem⟩ := hmem
      exact ihd v hv (hd v hv) d hmem
    simp only [dictionaries, Dictionaries.WellFormed, List.forall_mem_append]
    exact ⟨⟨⟨ihm hm, ihp hp⟩, ihb hb⟩, hdetail⟩
  | _ => intro d hd; exact absurd hd List.not_mem_nil

theorem wellFormed_entries? {v : Value} {entries : List (String × Value)} (hv : v.WellFormed)
    (h : v.entries? = some entries) : Entries.WellFormed entries := by
  unfold entries? at h
  split at h
  · next l es =>
    obtain rfl := Option.some.inj h
    intro e he
    obtain ⟨f, hf, rfl⟩ := List.mem_map.mp he
    exact wellFormed_current (wellFormed_dictionaries hv) (wellFormed_dict.mp hv f hf)
  · simp at h

/-- A value that is no dictionary counts as one without entries. -/
theorem wellFormed_entriesOrNone {v : Value} (hv : v.WellFormed) :
    Entries.WellFormed (v.entries?.getD []) := by
  cases hentries : v.entries? with
  | none => exact Entries.wellFormed_nil
  | some entries => exact wellFormed_entries? hv hentries

/-! ## Section 3: Plain data -/

theorem taggedItems_eq (ds : Dictionaries) (items : List Value) :
    taggedItems ds items = items.map (taggedIn ds) := by
  induction items with
  | nil => rfl
  | cons v rest ih => rw [taggedItems, ih, List.map_cons]

theorem taggedEntries_eq (ds : Dictionaries) (entries : List (String × Value)) :
    taggedEntries ds entries =
      entries.map fun e => .list none [.text e.1, e.2.taggedIn ds] := by
  induction entries with
  | nil => rfl
  | cons e rest ih => rw [taggedEntries, ih, List.map_cons]

theorem wellFormed_record {entries : List (String × Value)} :
    (record entries).WellFormed ↔ Entries.WellFormed entries := wellFormed_dict

theorem wellFormed_texts (ss : List String) : (texts ss).WellFormed := by
  simp [texts]

theorem wellFormed_ofText? (s? : Option String) : (ofText? s?).WellFormed := by
  cases s? <;> simp [ofText?]

theorem wellFormed_taggedFileSystem (uri : String) {config : Value} (h : config.WellFormed)
    (n : Nat) : (taggedFileSystem uri config n).WellFormed := by
  induction n with
  | zero => simp [taggedFileSystem, wellFormed_record, Entries.WellFormed, h]
  | succ n ih => simp [taggedFileSystem, wellFormed_record, Entries.WellFormed, ih]

theorem wellFormed_taggedDetail {ds : Dictionaries} {d : ErrorDetail Value}
    (h : ∀ v ∈ d.contents, (v.taggedIn ds).WellFormed) :
    Entries.WellFormed (taggedDetail ds d) := by
  cases d <;> simp_all [taggedDetail, ErrorDetail.contents, Entries.WellFormed]

/-- There are no paths in plain data. -/
theorem wellFormed_taggedIn (ds : Dictionaries) (v : Value) : (v.taggedIn ds).WellFormed := by
  induction v using Value.induction with
  | list l items ih =>
    rw [taggedIn, taggedItems_eq, wellFormed_list, List.forall_mem_map]
    exact ih
  | pair a b iha ihb => simp [taggedIn, iha, ihb]
  | dict l entries ih =>
    simp only [taggedIn, taggedEntries_eq, wellFormed_record, Entries.WellFormed,
      List.forall_mem_singleton, wellFormed_list, List.forall_mem_map, List.forall_mem_cons,
      wellFormed_text, true_and]
    exact ih
  | path p =>
    simp [taggedIn, wellFormed_record, Entries.WellFormed, wellFormed_texts, wellFormed_ofText?]
  | fileSystem f ihe iho =>
    refine wellFormed_taggedFileSystem _ ?_ f.inner.length
    simp [wellFormed_record, Entries.WellFormed, ihe, iho]
  | config c ihe iho => simp [taggedIn, wellFormed_record, Entries.WellFormed, ihe, iho]
  | location label l ih => simp [taggedIn, wellFormed_record, Entries.WellFormed, ih]
  | error label e ihm ihp ihb ihd =>
    have hd := wellFormed_taggedDetail ihd
    simp only [taggedIn, wellFormed_record, Entries.WellFormed, List.forall_mem_cons,
      List.cons_append, List.nil_append, wellFormed_text, wellFormed_texts, true_and]
    exact ⟨⟨ihp, ihb, hd⟩, by simp⟩
  | float l x => simp [taggedIn, wellFormed_record, Entries.WellFormed]
  | _ => simp [taggedIn]

theorem wellFormed_told {v w : Value} (h : v.told = .ok w) : w.WellFormed := by
  unfold told at h
  split at h
  · simp at h
  split at h
  · obtain rfl := Except.ok.inj h
    exact wellFormed_taggedIn _ v
  · simp at h

end Value

/-! ## Section 4: What is built from arguments -/

theorem Config.wellFormed_ofValue {data : Value} {c : Config Value} (hdata : data.WellFormed)
    (h : ofValue data = .ok c) : c.WellFormed := by
  unfold ofValue at h
  split at h
  · simp at h
  · next entries hentries =>
    have hwf := Value.wellFormed_entries? hdata hentries
    split at h
    · simp at h
    · next options hoptions =>
      obtain ⟨endpoint, -, rfl⟩ := map_eq_ok.mp h
      have hget : ((Entries.get? entries "options").getD .emptyDict).WellFormed :=
        Entries.wellFormed_getD "options" hwf (by simp [Value.emptyDict])
      exact ⟨Value.wellFormed_text _, Value.wellFormed_dict.mpr
        (Value.wellFormed_entries? hget hoptions)⟩

theorem Location.wellFormed_ofArguments {bucket key : Option Value} {l : Location Value}
    (hbucket : ∀ b ∈ bucket, b.WellFormed) (h : ofArguments bucket key = .ok l) :
    l.bucket.WellFormed := by
  unfold ofArguments at h
  split at h
  · simp at h
  · next b k _ =>
    obtain rfl := Except.ok.inj h
    exact hbucket b rfl
  · split at h
    · simp at h
    · split at h <;> simp at h

theorem PathError.wellFormed_build {kind : ErrorKind} {positional : List Value}
    {named : List (String × Value)} {e : PathError Value}
    (hpositional : ∀ v ∈ positional, v.WellFormed) (hnamed : Entries.WellFormed named)
    (h : build kind positional named = .ok e) (label : Nat) :
    (Value.error label e).WellFormed := by
  obtain ⟨_, -, h⟩ := bind_eq_ok.mp h
  split at h
  · simp at h
  · obtain rfl := Except.ok.inj h
    have hargument {absent : Value} (name : String) (habsent : absent.WellFormed) :
        (argument named name absent).WellFormed := Entries.wellFormed_getD name hnamed habsent
    refine Value.wellFormed_error.mpr ⟨?_, hargument "path" (by simp),
      hargument "bucket" (by simp), ?_⟩
    · cases positional with
      | nil => exact hargument "message" (by simp)
      | cons v rest => exact hpositional v List.mem_cons_self
    · cases kind <;> simp [detailOf, ErrorDetail.contents, hargument]

/-! ## Section 5: Collections -/

namespace Collection

theorem sort_perm_items {reverse : Bool} {items out : List Value}
    (h : sort reverse items = .ok out) : out.Perm items := by
  unfold sort at h
  split at h
  · obtain ⟨ascending, hsort, rfl⟩ := map_eq_ok.mp h
    exact (List.reverse_perm _).trans ((Sorting.sort_perm hsort).trans (List.reverse_perm _))
  · exact Sorting.sort_perm h

theorem extremeFrom_mem {e : Extreme} {best v : Value} {items : List Value}
    (h : extremeFrom e best items = .ok v) : v ∈ best :: items := by
  induction items generalizing best with
  | nil =>
    obtain rfl := Except.ok.inj h
    exact List.mem_cons_self
  | cons w rest ih =>
    obtain ⟨better, -, h⟩ := bind_eq_ok.mp h
    have hmem := ih h
    cases better with
    | true => exact List.mem_cons_of_mem _ hmem
    | false =>
      rcases List.mem_cons.mp hmem with rfl | hmem
      · exact List.mem_cons_self
      · exact List.mem_cons_of_mem _ (List.mem_cons_of_mem _ hmem)

theorem extreme_mem {e : Extreme} {v : Value} {items : List Value}
    (h : extreme e items = .ok v) : v ∈ items := by
  cases items with
  | nil => simp [extreme] at h
  | cons w rest => exact extremeFrom_mem h

theorem distinctFrom_sublist {seen : List (HashKey × Value)} {items out : List Value}
    (h : distinctFrom seen items = .ok out) : out.Sublist items := by
  induction items generalizing seen out with
  | nil =>
    obtain rfl := Except.ok.inj h
    exact List.Sublist.refl _
  | cons v rest ih =>
    obtain ⟨key, -, h⟩ := bind_eq_ok.mp h
    obtain ⟨known, -, h⟩ := bind_eq_ok.mp h
    split at h
    · exact (ih h).cons v
    · obtain ⟨tail, htail, rfl⟩ := map_eq_ok.mp h
      exact (ih htail).cons_cons v

end Collection

end Keyspace
