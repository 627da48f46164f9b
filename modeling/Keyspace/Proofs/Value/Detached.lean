import Keyspace.Value.Hash
import Keyspace.Value.Quotient
import Keyspace.Proofs.Path.Moved
import Keyspace.Proofs.Value.WellFormed
import Keyspace.Proofs.Value.Writable

/-! # Values without the file systems of paths

    A value is detached by moving all paths in it to one and the same file
    system, wherever they lie. Two values that are equal when detached differ
    in nothing but the file systems of paths.

    Types, truth, numbers and hashes are the same of a detached value, and so
    are its texts. Bringing shared dictionaries up to date, looking up a key
    and setting one commute with detaching.
-/

namespace Keyspace

/-! ## Section 1: Detaching -/

/-- The path of the same address in the file system that detached paths share. -/
def Path.detached (p : StorePath) : StorePath := p.movedTo (.config .default)

mutual

/-- The value with all paths in it detached. -/
def Value.detached : Value → Value
  | .list l items => .list l (itemsDetached items)
  | .pair a b => .pair a.detached b.detached
  | .dict l entries => .dict l (entriesDetached entries)
  | .path p => .path p.detached
  | .fileSystem ⟨⟨e, o, l⟩, n, ls⟩ => .fileSystem ⟨⟨e.detached, o.detached, l⟩, n, ls⟩
  | .config ⟨e, o, l⟩ => .config ⟨e.detached, o.detached, l⟩
  | .location l ⟨b, k⟩ => .location l ⟨b.detached, k⟩
  | .error l ⟨d, m, p, b⟩ => .error l ⟨detailDetached d, m.detached, p.detached, b.detached⟩
  | v => v

/-- The items of a list, detached. -/
def Value.itemsDetached : List Value → List Value
  | [] => []
  | v :: rest => v.detached :: itemsDetached rest

/-- The entries of a dictionary, detached. -/
def Value.entriesDetached : List (String × Value) → List (String × Value)
  | [] => []
  | (k, v) :: rest => (k, v.detached) :: entriesDetached rest

/-- The detail of an error, detached. -/
def Value.detailDetached : ErrorDetail Value → ErrorDetail Value
  | .indexOutOfRange i => .indexOutOfRange i.detached
  | .incompatible o r => .incompatible o.detached r.detached
  | .unsupported o => .unsupported o.detached
  | d => d

end

/-- An error without the file systems of paths in it. -/
def PathError.detached (e : PathError Value) : PathError Value :=
  ⟨Value.detailDetached e.detail, e.message.detached, e.path.detached, e.bucket.detached⟩

/-- Entries without the file systems of paths in them. -/
def Entries.detached (entries : List (String × Value)) : List (String × Value) :=
  entries.map fun e => (e.1, e.2.detached)

/-- Dictionaries without the file systems of paths in them. -/
def Dictionaries.detached (ds : Dictionaries) : Dictionaries :=
  ds.map fun d => (d.1, Entries.detached d.2)

namespace Value

theorem itemsDetached_eq (items : List Value) : itemsDetached items = items.map detached := by
  induction items with
  | nil => rfl
  | cons v rest ih => rw [itemsDetached, ih, List.map_cons]

theorem entriesDetached_eq (entries : List (String × Value)) :
    entriesDetached entries = Entries.detached entries := by
  induction entries with
  | nil => rfl
  | cons e rest ih => rw [entriesDetached, ih, Entries.detached, Entries.detached, List.map_cons]

@[simp] theorem detached_list (l : Option Nat) (items : List Value) :
    (list l items).detached = list l (items.map detached) := by
  rw [detached, itemsDetached_eq]

@[simp] theorem detached_dict (l : Option Nat) (entries : List (String × Value)) :
    (dict l entries).detached = dict l (Entries.detached entries) := by
  rw [detached, entriesDetached_eq]

@[simp] theorem detached_path (p : StorePath) : (path p).detached = path p.detached := by
  rw [detached]

theorem detached_error (l : Nat) (e : PathError Value) :
    (error l e).detached = error l e.detached := by
  rw [detached, PathError.detached]

/-! ## Section 2: Types, truth, numbers and hashes -/

@[simp] theorem kind_detailDetached (d : ErrorDetail Value) : (detailDetached d).kind = d.kind := by
  cases d <;> rfl

@[simp] theorem typeName_detached (v : Value) : v.detached.typeName = v.typeName := by
  cases v with
  | error l e => rw [detached_error]; exact congrArg ErrorKind.name (kind_detailDetached e.detail)
  | _ => rfl

@[simp] theorem number?_detached (v : Value) : v.detached.number? = v.number? := by
  cases v <;> rfl

@[simp] theorem integer?_detached (v : Value) : v.detached.integer? = v.integer? := by
  cases v <;> rfl

@[simp] theorem isNull_detached (v : Value) : v.detached.isNull = v.isNull := by
  cases v <;> rfl

@[simp] theorem truthy_detached (v : Value) : v.detached.truthy = v.truthy := by
  cases v with
  | list l items => rw [detached_list]; cases items <;> rfl
  | dict l entries => rw [detached_dict]; cases entries <;> rfl
  | _ => rfl

@[simp] theorem float?_detached (v : Value) : v.detached.float? = v.float? := by
  cases v <;> rfl

@[simp] theorem quotientOfNumbers?_detached (v w : Value) :
    v.detached.quotientOfNumbers? w.detached = v.quotientOfNumbers? w := by
  simp only [quotientOfNumbers?, integer?_detached, float?_detached]

/-- A hash depends on the addresses of paths only. -/
@[simp] theorem hashKey_detached (v : Value) : v.detached.hashKey = v.hashKey := by
  induction v using Value.induction with
  | pair a b iha ihb => simp only [detached, hashKey, iha, ihb]
  | fileSystem s ihe iho =>
    -- only the innermost file system has an endpoint, whose hash it takes
    obtain ⟨⟨e, o, l⟩, n, _ | ⟨l', ls⟩⟩ := s
    · exact ihe
    · rfl
  | config c ihe iho =>
    obtain ⟨e, o, l⟩ := c
    dsimp only at ihe iho
    simp only [detached, hashKey, ihe, iho]
  | location label l ih =>
    obtain ⟨b, k⟩ := l
    dsimp only at ih
    simp only [detached, hashKey, ih]
  | _ => rfl

/-! ## Section 3: Texts -/

theorem writtenItems_detached {around : List Nat} {items : List Value}
    (h : ∀ v ∈ items, v.detached.writtenIn around .literal = v.writtenIn around .literal) :
    writtenItems around (items.map detached) = writtenItems around items := by
  induction items with
  | nil => rfl
  | cons v rest ih =>
    obtain ⟨hv, hrest⟩ := List.forall_mem_cons.mp h
    rw [List.map_cons, writtenItems, writtenItems, hv, ih hrest]

theorem writtenEntries_detached {around : List Nat} {entries : List (String × Value)}
    (h : ∀ e ∈ entries, e.2.detached.writtenIn around .literal = e.2.writtenIn around .literal) :
    writtenEntries around (Entries.detached entries) = writtenEntries around entries := by
  induction entries with
  | nil => rfl
  | cons e rest ih =>
    obtain ⟨he, hrest⟩ := List.forall_mem_cons.mp h
    show writtenEntries around ((e.1, e.2.detached) :: Entries.detached rest) = _
    rw [writtenEntries, writtenEntries, he, ih hrest]

theorem writtenDetail_detached {around : List Nat} {d : ErrorDetail Value}
    (h : ∀ v ∈ d.contents, v.detached.writtenIn around .literal = v.writtenIn around .literal) :
    writtenDetail around (detailDetached d) = writtenDetail around d := by
  cases d <;> simp_all [detailDetached, writtenDetail, ErrorDetail.contents]

/-- No text of a value tells the file system of a path. -/
theorem writtenIn_detached (around : List Nat) (form : Form) (v : Value) :
    v.detached.writtenIn around form = v.writtenIn around form := by
  induction v using Value.induction generalizing around form with
  | list l items ih =>
    rw [detached_list, writtenIn, writtenIn, writtenItems_detached fun v hv => ih v hv _ _]
  | pair a b iha ihb => simp only [detached, writtenIn, iha, ihb]
  | dict l entries ih =>
    rw [detached_dict, writtenIn, writtenIn, writtenEntries_detached fun e he => ih e he _ _]
  | path p => rfl
  | fileSystem s ihe iho =>
    obtain ⟨⟨e, o, l⟩, n, ls⟩ := s
    dsimp only at ihe
    simp only [detached, writtenIn, ihe]
  | config c ihe iho =>
    obtain ⟨e, o, l⟩ := c
    dsimp only at ihe iho
    simp only [detached, writtenIn, ihe, iho]
  | location label l ih =>
    obtain ⟨b, k⟩ := l
    dsimp only at ih
    simp only [detached, writtenIn, ih]
  | error label e ihm ihp ihb ihd =>
    obtain ⟨d, m, p, b⟩ := e
    dsimp only at ihm ihp ihb
    simp only [detached, writtenIn, isNull_detached, kind_detailDetached, ihm, ihp, ihb,
      writtenDetail_detached fun v hv => ihd v hv around .literal]
  | _ => rfl

theorem all_eq_all_of_forall_mem {α : Type} {xs : List α} {f g : α → Bool}
    (h : ∀ x ∈ xs, f x = g x) : xs.all f = xs.all g := by
  rw [Bool.eq_iff_iff, List.all_eq_true, List.all_eq_true]
  exact forall₂_congr fun x hx => by rw [h x hx]

theorem contents_detailDetached (d : ErrorDetail Value) :
    (detailDetached d).contents = d.contents.map detached := by
  cases d <;> rfl

/-- What keeps a value from being written is not the file system of a path. -/
theorem isWritableIn_detached (around : List Nat) (v : Value) :
    v.detached.isWritableIn around = v.isWritableIn around := by
  induction v using Value.induction generalizing around with
  | list l items ih =>
    rw [detached_list, isWritableIn, isWritableIn, itemsWritable_eq_all, itemsWritable_eq_all,
      List.all_map]
    exact congrArg _ (all_eq_all_of_forall_mem fun v hv => ih v hv _)
  | pair a b iha ihb => simp only [detached, isWritableIn, iha, ihb]
  | dict l entries ih =>
    rw [detached_dict, isWritableIn, isWritableIn, entriesWritable_eq_all,
      entriesWritable_eq_all, Entries.detached, List.all_map]
    exact congrArg _ (all_eq_all_of_forall_mem fun e he => ih e he _)
  | path p => rfl
  | fileSystem s ihe iho =>
    obtain ⟨⟨e, o, l⟩, n, ls⟩ := s
    exact ihe around
  | config c ihe iho =>
    obtain ⟨e, o, l⟩ := c
    dsimp only at ihe iho
    simp only [detached, isWritableIn, ihe, iho]
  | location label l ih =>
    obtain ⟨b, k⟩ := l
    dsimp only at ih
    simp only [detached, isWritableIn, ih]
  | error label e ihm ihp ihb ihd =>
    obtain ⟨d, m, p, b⟩ := e
    dsimp only at ihm ihp ihb ihd
    have hdetail : detailWritable around (detailDetached d) = detailWritable around d := by
      rw [detailWritable_eq_all, detailWritable_eq_all, contents_detailDetached, List.all_map]
      exact all_eq_all_of_forall_mem fun v hv => ihd v hv around
    simp only [detached, isWritableIn, ihm, ihp, ihb, hdetail]
  | _ => rfl

@[simp] theorem spelled_detached (form : Form) (v : Value) :
    v.detached.spelled form = v.spelled form := writtenIn_detached [] form v

@[simp] theorem isWritable_detached (v : Value) : v.detached.isWritable = v.isWritable :=
  isWritableIn_detached [] v

@[simp] theorem written_detached (form : Form) (v : Value) :
    v.detached.written form = v.written form := by
  rw [written, written, isWritable_detached, spelled_detached]

/-! ## Section 4: Dictionaries -/

theorem anyEndless_detached {items : List Value}
    (h : ∀ v ∈ items, v.detached.isEndless = v.isEndless) :
    anyEndless (items.map detached) = anyEndless items := by
  induction items with
  | nil => rfl
  | cons v rest ih =>
    obtain ⟨hv, hrest⟩ := List.forall_mem_cons.mp h
    rw [List.map_cons, anyEndless, anyEndless, hv, ih hrest]

theorem anyEntryEndless_detached {entries : List (String × Value)}
    (h : ∀ e ∈ entries, e.2.detached.isEndless = e.2.isEndless) :
    anyEntryEndless (Entries.detached entries) = anyEntryEndless entries := by
  induction entries with
  | nil => rfl
  | cons e rest ih =>
    obtain ⟨he, hrest⟩ := List.forall_mem_cons.mp h
    show anyEntryEndless ((e.1, e.2.detached) :: Entries.detached rest) = _
    rw [anyEntryEndless, anyEntryEndless, he, ih hrest]

theorem detailEndless_detached {d : ErrorDetail Value}
    (h : ∀ v ∈ d.contents, v.detached.isEndless = v.isEndless) :
    detailEndless (detailDetached d) = detailEndless d := by
  cases d <;> simp_all [detailDetached, detailEndless, ErrorDetail.contents]

/-- What the file system of a path contains is told by its URI only, so it does
    not make a tagged form endless. -/
@[simp] theorem isEndless_detached (v : Value) : v.detached.isEndless = v.isEndless := by
  induction v using Value.induction with
  | list l items ih => rw [detached_list, isEndless, isEndless, anyEndless_detached ih]
  | pair a b iha ihb => simp only [detached, isEndless, iha, ihb]
  | dict l entries ih => rw [detached_dict, isEndless, isEndless, anyEntryEndless_detached ih]
  | fileSystem s ihe iho =>
    obtain ⟨⟨e, o, l⟩, n, ls⟩ := s
    dsimp only at ihe iho
    simp only [detached, isEndless, ihe, iho]
  | config c ihe iho =>
    obtain ⟨e, o, l⟩ := c
    dsimp only at ihe iho
    simp only [detached, isEndless, ihe, iho]
  | location label l ih =>
    obtain ⟨b, k⟩ := l
    dsimp only at ih
    simp only [detached, isEndless, ih]
  | error label e ihm ihp ihb ihd =>
    obtain ⟨d, m, p, b⟩ := e
    dsimp only at ihp ihb
    simp only [detached, isEndless, ihp, ihb, detailEndless_detached ihd]
  | _ => rfl

theorem detailWithShared_detached {f : Nat → Value} {d : ErrorDetail Value}
    (h : ∀ v ∈ d.contents,
      (v.withShared f).detached = v.detached.withShared fun l => (f l).detached) :
    detailDetached (detailWithShared f d) =
      detailWithShared (fun l => (f l).detached) (detailDetached d) := by
  cases d <;> simp_all [detailDetached, detailWithShared, ErrorDetail.contents]

/-- Detached values stand in place of the shared dictionaries of a detached
    value. -/
theorem withShared_detached (f : Nat → Value) (v : Value) :
    (v.withShared f).detached = v.detached.withShared fun l => (f l).detached := by
  induction v using Value.induction with
  | list l items ih =>
    simp only [withShared, itemsWithShared_eq, detached_list, List.map_map]
    exact congrArg _ (List.map_congr_left ih)
  | pair a b iha ihb => simp only [withShared, detached, iha, ihb]
  | dict l entries ih =>
    cases l with
    | none =>
      simp only [withShared, entriesWithShared_eq, detached_dict, Entries.detached, List.map_map]
      exact congrArg _ (List.map_congr_left fun e he => congrArg (Prod.mk e.1) (ih e he))
    | some l => rw [detached_dict]; rfl
  | enclosing l => rfl
  | path p ihe iho =>
    -- what is put in place of dictionaries ends up in a file system that is left
    obtain ⟨a, ⟨e, o, l⟩ | ⟨⟨e, o, l⟩, n, ls⟩⟩ := p <;> rfl
  | fileSystem s ihe iho =>
    obtain ⟨⟨e, o, l⟩, n, ls⟩ := s
    dsimp only at ihe iho
    simp only [withShared, detached, ihe, iho]
  | config c ihe iho =>
    obtain ⟨e, o, l⟩ := c
    dsimp only at ihe iho
    simp only [withShared, detached, ihe, iho]
  | location label l ih =>
    obtain ⟨b, k⟩ := l
    dsimp only at ih
    simp only [withShared, detached, ih]
  | error label e ihm ihp ihb ihd =>
    obtain ⟨d, m, p, b⟩ := e
    dsimp only at ihm ihp ihb
    simp only [withShared, detached, ihm, ihp, ihb, detailWithShared_detached ihd]
  | _ => rfl

end Value

namespace Entries

theorem get?_detached (entries : List (String × Value)) (key : String) :
    get? (detached entries) key = (get? entries key).map Value.detached := by
  induction entries with
  | nil => rfl
  | cons e rest ih =>
    obtain ⟨k, v⟩ := e
    show get? ((k, v.detached) :: detached rest) key = _
    rw [get?, get?, ih]
    split <;> rfl

theorem insert_detached (entries : List (String × Value)) (key : String) (v : Value) :
    detached (insert entries key v) = insert (detached entries) key v.detached := by
  induction entries with
  | nil => rfl
  | cons e rest ih =>
    obtain ⟨k, w⟩ := e
    show _ = insert ((k, w.detached) :: detached rest) key v.detached
    rw [insert, insert]
    split
    · rfl
    · rw [← ih]
      rfl

theorem ofList_detached (pairs : List (String × Value)) :
    detached (ofList pairs) = ofList (detached pairs) := by
  suffices h : ∀ entries, detached (pairs.foldl (fun es e => insert es e.1 e.2) entries) =
      (detached pairs).foldl (fun es e => insert es e.1 e.2) (detached entries) from h []
  induction pairs with
  | nil => exact fun _ => rfl
  | cons e rest ih =>
    intro entries
    obtain ⟨k, v⟩ := e
    rw [List.foldl_cons, ih, insert_detached]
    rfl

end Entries

namespace Dictionaries

theorem entries_detached (ds : Dictionaries) (label : Nat) :
    ds.detached.entries label = Entries.detached (ds.entries label) := by
  rw [entries, entries, detached, List.find?_map]
  show ((ds.find? fun d => d.1 == some label).map _ |>.map _).getD [] = _
  cases ds.find? fun d => d.1 == some label <;> rfl

theorem unfold_detached (ds : Dictionaries) (depth : Nat) (around : List Nat) (l : Nat) :
    (ds.unfold depth around l).detached = ds.detached.unfold depth around l := by
  induction depth generalizing around l with
  | zero => rfl
  | succ n ih =>
    unfold unfold
    split
    · rfl
    · -- the entries are unfolded alike one place further in
      have hentries : Entries.detached
          (Value.entriesWithShared (ds.unfold n (l :: around)) (ds.entries l)) =
          Value.entriesWithShared (ds.detached.unfold n (l :: around))
            (Entries.detached (ds.entries l)) := by
        simp only [Value.entriesWithShared_eq, Entries.detached, List.map_map]
        refine List.map_congr_left fun e _ => congrArg (Prod.mk e.1) ?_
        show (e.2.withShared _).detached = e.2.detached.withShared _
        rw [Value.withShared_detached, funext (ih (l :: around))]
      rw [Value.detached_dict, hentries, entries_detached]

end Dictionaries

theorem Value.current_detached (ds : Dictionaries) (v : Value) :
    (v.current ds).detached = v.detached.current ds.detached := by
  have hlength : ds.detached.length = ds.length := List.length_map _
  rw [current, current, withShared_detached, hlength,
    funext (Dictionaries.unfold_detached ds (ds.length + 1) [])]

end Keyspace
