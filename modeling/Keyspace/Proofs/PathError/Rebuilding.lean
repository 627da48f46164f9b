import Keyspace.PathError.Arguments
import Keyspace.Proofs.Value.Literal
import Keyspace.Proofs.Value.Entries
import Keyspace.Proofs.Value.Writable

/-! # Errors from their literal forms

    The literal form of an error is a call: the name of its kind, the message,
    and by name what the error has besides (`literal_eq`). Nothing is lost by
    what the form leaves out, since the same arguments build the error again
    (`build_context`). So errors whose contents are texts, integers and pairs of
    integers can be told apart by their literal forms (`literal_inj`), as long
    as these can be written: the integers must be short
    (`IsWorded.isWritable_iff`).
-/

namespace Keyspace

/-! ## Section 1: Errors of texts and indices -/

namespace Value

/-- A text, or null where there is none. -/
def IsTextOrNull (v : Value) : Prop := ∃ s? : Option String, v = .ofText? s?

/-- An integer or the two bounds of a range, or null where there is none. -/
def IsIndex (v : Value) : Prop :=
  v = .null ∨ (∃ i, v = .int i) ∨ ∃ i j, v = .pair (.int i) (.int j)

/-- The integers of an index are short. -/
def HasShortBounds : Value → Prop
  | .int i => Text.isShort i = true
  | .pair (.int i) (.int j) => Text.isShort i = true ∧ Text.isShort j = true
  | _ => True

theorem IsTextOrNull.isWritable {v : Value} (h : v.IsTextOrNull) : v.isWritable = true := by
  obtain ⟨s?, rfl⟩ := h
  exact isWritable_ofText? s?

theorem isWritable_of_text {v : Value} (h : ∃ s, v = .text s) : v.isWritable = true := by
  obtain ⟨s, rfl⟩ := h
  exact isWritable_text s

theorem IsIndex.isWritable_iff {v : Value} (h : v.IsIndex) :
    v.isWritable = true ↔ v.HasShortBounds := by
  obtain rfl | ⟨i, rfl⟩ | ⟨i, j, rfl⟩ := h
  · simp [HasShortBounds]
  · simp [HasShortBounds]
  · simp [HasShortBounds]

theorem isSimple_of_text {v : Value} (h : ∃ s, v = .text s) : v.IsSimple := by
  obtain ⟨s, rfl⟩ := h
  exact .text s

theorem IsTextOrNull.isSimple {v : Value} (h : v.IsTextOrNull) (hv : v.isNull = false) :
    v.IsSimple := by
  obtain ⟨s?, rfl⟩ := h
  cases s? with
  | none => cases hv
  | some s => exact .text s

theorem IsIndex.isSimple {v : Value} (h : v.IsIndex) (hv : v.isNull = false) : v.IsSimple := by
  obtain rfl | ⟨i, rfl⟩ | ⟨i, j, rfl⟩ := h
  · cases hv
  · exact .int i
  · exact .range i j

theorem eq_null_of_isNull {v : Value} (h : v.isNull = true) : v = .null := by
  cases v with
  | null => rfl
  | _ => cases h

/-- Of all texts only the empty one counts as false. -/
theorem eq_empty_of_text {v : Value} (h : ∃ s, v = .text s) (hv : v.truthy = false) :
    v = .text "" := by
  obtain ⟨s, rfl⟩ := h
  rw [show s = "" by simpa [truthy] using hv]

end Value

/-- The contents of a detail are a text, a text or null, or an index, as its
    arguments are meant to be. -/
def ErrorDetail.IsWorded : ErrorDetail Value → Prop
  | .indexOutOfRange i => i.IsIndex
  | .incompatible o r => o.IsTextOrNull ∧ ∃ s, r = .text s
  | .unsupported o => ∃ s, o = .text s
  | _ => True

/-- The integers of an index that a detail holds are short. -/
def ErrorDetail.HasShortBounds : ErrorDetail Value → Prop
  | .indexOutOfRange i => i.HasShortBounds
  | _ => True

theorem ErrorDetail.IsWorded.isWritable_iff {d : ErrorDetail Value} (h : d.IsWorded) :
    d.contents.all Value.isWritable = true ↔ d.HasShortBounds := by
  cases d with
  | indexOutOfRange i => simpa [contents, HasShortBounds] using Value.IsIndex.isWritable_iff h
  | incompatible o r =>
    exact iff_of_true (by simp [contents, h.1.isWritable, Value.isWritable_of_text h.2]) trivial
  | unsupported o => exact iff_of_true (by simp [contents, Value.isWritable_of_text h]) trivial
  | _ => exact iff_of_true rfl trivial

/-- The contents of an error are what its arguments are meant to be: the message
    a text, path and bucket texts or null. -/
structure PathError.IsWorded (e : PathError Value) : Prop where
  message : ∃ m, e.message = .text m
  path : e.path.IsTextOrNull
  bucket : e.bucket.IsTextOrNull
  detail : e.detail.IsWorded

/-- Of such an error only the integers of an index may be too long to be
    written. -/
theorem PathError.IsWorded.isWritable_iff {e : PathError Value} (h : e.IsWorded) (label : Nat) :
    (Value.error label e).isWritable = true ↔ e.detail.HasShortBounds := by
  rw [Value.isWritable_error, Value.isWritable_of_text h.message, h.path.isWritable,
    h.bucket.isWritable]
  exact h.detail.isWritable_iff

/-- A named argument is what its name says. -/
def PathError.Suits (name : String) (v : Value) : Prop :=
  if name = "index" then v.IsIndex
  else if name ∈ ["message", "reason", "operation"] then ∃ s, v = .text s
  else v.IsTextOrNull

namespace PathError

variable {kind : ErrorKind} {positional : List Value} {named : List (String × Value)}
  {e : PathError Value}

theorem suits_argument {name : String} {absent : Value} (hnamed : ∀ a ∈ named, Suits a.1 a.2)
    (habsent : Suits name absent) : Suits name (argument named name absent) := by
  rw [argument]
  cases hget : Entries.get? named name with
  | none => exact habsent
  | some v => exact hnamed _ (Entries.mem_of_get? hget)

/-- What suitable arguments build has suitable contents; an argument that is not
    given does no harm. -/
theorem isWorded_of_build (hpositional : ∀ v ∈ positional, ∃ s, v = .text s)
    (hnamed : ∀ a ∈ named, Suits a.1 a.2) (h : build kind positional named = .ok e) :
    e.IsWorded := by
  obtain ⟨_, -, h⟩ := bind_eq_ok.mp h
  split at h
  · cases h
  obtain rfl := Except.ok.inj h
  have hnull (name : String) (hname : Suits name .null) :
      Suits name (argument named name .null) := suits_argument hnamed hname
  have hempty (name : String) (hname : Suits name (.text "")) :
      Suits name (argument named name (.text "")) := suits_argument hnamed hname
  have hnone : Value.IsTextOrNull .null := ⟨none, rfl⟩
  have htext : ∃ s, Value.text "" = .text s := ⟨"", rfl⟩
  refine ⟨?_, hnull "path" hnone, hnull "bucket" hnone, ?_⟩
  · cases positional with
    | nil => exact hempty "message" htext
    | cons v rest => exact hpositional v List.mem_cons_self
  · cases kind with
    | indexOutOfRange => exact hnull "index" (.inl rfl)
    | incompatible => exact ⟨hnull "other" hnone, hempty "reason" htext⟩
    | unsupported => exact hempty "operation" htext
    | _ => trivial

end PathError

/-! ## Section 2: The arguments in a literal form -/

/-- A named argument, unless it is left out. -/
def Form.shown (wanted : Bool) (name : String) (v : Value) : List (String × Value) :=
  if wanted then [(name, v)] else []

/-- The named arguments for a detail. -/
def ErrorDetail.context : ErrorDetail Value → List (String × Value)
  | .indexOutOfRange i => Form.shown (!i.isNull) "index" i
  | .incompatible o r => Form.shown (!o.isNull) "other" o ++ Form.shown r.truthy "reason" r
  | .unsupported o => Form.shown o.truthy "operation" o
  | _ => []

/-- The named arguments that the literal form of an error shows. -/
def PathError.context (e : PathError Value) : List (String × Value) :=
  Form.shown (!e.path.isNull) "path" e.path ++
    (Form.shown (!e.bucket.isNull) "bucket" e.bucket ++ e.detail.context)

theorem Form.map_shown (wanted : Bool) (name : String) (v : Value) :
    (shown wanted name v).map (fun a => named a.1 (a.2.spelled .literal)) =
      namedIf wanted name (v.spelled .literal) := by
  cases wanted <;> rfl

theorem Form.forall_mem_shown {wanted : Bool} {name : String} {v : Value}
    (hname : '=' ∉ name.toList) (h : wanted = true → v.IsSimple) :
    ∀ a ∈ shown wanted name v, IsArgument a := by
  cases wanted with
  | false => exact fun a ha => absurd ha List.not_mem_nil
  | true =>
    intro a ha
    obtain rfl := List.mem_singleton.mp ha
    exact ⟨hname, h rfl⟩

theorem ErrorDetail.map_context (d : ErrorDetail Value) :
    d.context.map (fun a => Form.named a.1 (a.2.spelled .literal)) = Value.writtenDetail [] d := by
  cases d with
  | indexOutOfRange i => exact Form.map_shown _ _ _
  | incompatible o r =>
    rw [context, List.map_append, Form.map_shown, Form.map_shown]
    rfl
  | unsupported o => exact Form.map_shown _ _ _
  | _ => rfl

theorem ErrorDetail.isArgument_context {d : ErrorDetail Value} (h : d.IsWorded) :
    ∀ a ∈ d.context, IsArgument a := by
  cases d with
  | indexOutOfRange i =>
    exact Form.forall_mem_shown (by simp) fun hi => Value.IsIndex.isSimple h (by simpa using hi)
  | incompatible o r =>
    refine List.forall_mem_append.mpr ⟨?_, ?_⟩
    · exact Form.forall_mem_shown (by simp) fun ho => h.1.isSimple (by simpa using ho)
    · exact Form.forall_mem_shown (by simp) fun _ => Value.isSimple_of_text h.2
  | unsupported o => exact Form.forall_mem_shown (by simp) fun _ => Value.isSimple_of_text h
  | _ => exact fun a ha => absurd ha List.not_mem_nil

namespace PathError

variable {e e₁ e₂ : PathError Value}

theorem isArgument_context (h : e.IsWorded) : ∀ a ∈ e.context, IsArgument a := by
  refine List.forall_mem_append.mpr ⟨?_, List.forall_mem_append.mpr ⟨?_, ?_⟩⟩
  · exact Form.forall_mem_shown (by simp) fun hp => h.path.isSimple (by simpa using hp)
  · exact Form.forall_mem_shown (by simp) fun hb => h.bucket.isSimple (by simpa using hb)
  · exact ErrorDetail.isArgument_context h.detail

/-- The literal form of an error is a call. -/
theorem literal_eq {m : String} (label : Nat) (h : e.message = .text m) :
    (Value.error label e).spelled .literal = Form.callWith e.kind.name m e.context := by
  obtain ⟨d, _, p, b⟩ := e
  obtain rfl := h
  simp only [Form.callWith, context, List.map_append, Form.map_shown, ErrorDetail.map_context,
    ← List.append_assoc]
  rfl

/-! ## Section 3: Building an error again -/

theorem get?_shown_append {wanted : Bool} {name key : String} {v : Value}
    {rest : List (String × Value)} (hne : name ≠ key) :
    Entries.get? (Form.shown wanted name v ++ rest) key = Entries.get? rest key := by
  cases wanted with
  | false => rfl
  | true => exact if_neg hne

/-- An argument that is shown is found, and for one that is left out stands what
    it is when it is not given. -/
theorem argument_shown_append {wanted : Bool} {name : String} {v absent : Value}
    {rest : List (String × Value)} (habsent : wanted = false → v = absent)
    (hrest : Entries.get? rest name = none) :
    argument (Form.shown wanted name v ++ rest) name absent = v := by
  cases wanted with
  | false =>
    rw [argument, Form.shown, if_neg (by decide), List.nil_append, hrest, habsent rfl]
    rfl
  | true =>
    rw [argument, Form.shown, if_pos rfl, List.singleton_append, Entries.get?, if_pos rfl]
    rfl

theorem argument_shown {wanted : Bool} {name : String} {v absent : Value}
    (habsent : wanted = false → v = absent) :
    argument (Form.shown wanted name v) name absent = v := by
  rw [← List.append_nil (Form.shown wanted name v)]
  exact argument_shown_append habsent rfl

theorem argument_shown_append_of_ne {wanted : Bool} {name key : String} {v absent : Value}
    {rest : List (String × Value)} (hne : name ≠ key) :
    argument (Form.shown wanted name v ++ rest) key absent = argument rest key absent := by
  rw [argument, argument, get?_shown_append hne]

theorem name_of_mem_shown {wanted : Bool} {name : String} {v : Value} {a : String × Value}
    (h : a ∈ Form.shown wanted name v) : a.1 = name := by
  cases wanted with
  | false => cases h
  | true =>
    obtain rfl := List.mem_singleton.mp h
    rfl

/-- A detail shows nothing but the arguments that its kind adds. -/
theorem name_of_mem_detail_context {d : ErrorDetail Value} {a : String × Value}
    (h : a ∈ d.context) : a.1 ∈ detailArguments d.kind := by
  cases d with
  | indexOutOfRange i => exact List.mem_singleton.mpr (name_of_mem_shown h)
  | incompatible o r =>
    rcases List.mem_append.mp h with h | h
    · exact List.mem_cons.mpr (.inl (name_of_mem_shown h))
    · exact List.mem_cons_of_mem _ (List.mem_singleton.mpr (name_of_mem_shown h))
  | unsupported o => exact List.mem_singleton.mpr (name_of_mem_shown h)
  | _ => cases h

theorem name_of_mem_context {a : String × Value} (h : a ∈ e.context) :
    a.1 ∈ namedArguments e.kind := by
  rcases List.mem_append.mp h with h | h
  · exact List.mem_append_left _ (List.mem_cons.mpr (.inl (name_of_mem_shown h)))
  rcases List.mem_append.mp h with h | h
  · exact List.mem_append_left _ (List.mem_cons_of_mem _ (List.mem_singleton.mpr
      (name_of_mem_shown h)))
  · exact List.mem_append_right _ (name_of_mem_detail_context h)

/-- What a kind adds has names of its own. -/
theorem not_mem_detailArguments (kind : ErrorKind) :
    ∀ name ∈ ["path", "bucket"], name ∉ detailArguments kind := by
  cases kind <;> decide

theorem get?_detail_context {key : String} (h : key ∈ ["path", "bucket"])
    (d : ErrorDetail Value) : Entries.get? d.context key = none := by
  refine Entries.get?_eq_none fun a ha heq => ?_
  exact not_mem_detailArguments d.kind key h (heq ▸ name_of_mem_detail_context ha)

theorem eq_null_of_not_shown {v : Value} (h : (!v.isNull) = false) : v = .null :=
  Value.eq_null_of_isNull (by simpa using h)

theorem argument_path (e : PathError Value) : argument e.context "path" .null = e.path := by
  refine argument_shown_append eq_null_of_not_shown ?_
  rw [get?_shown_append (by decide), get?_detail_context (by simp)]

theorem argument_bucket (e : PathError Value) : argument e.context "bucket" .null = e.bucket := by
  rw [context, argument_shown_append_of_ne (by decide)]
  exact argument_shown_append eq_null_of_not_shown (get?_detail_context (by simp) _)

theorem argument_detail {key : String} (h : key ∉ ["path", "bucket"]) (absent : Value)
    (e : PathError Value) :
    argument e.context key absent = argument e.detail.context key absent := by
  have hpath : "path" ≠ key := fun heq => h (heq ▸ by decide)
  have hbucket : "bucket" ≠ key := fun heq => h (heq ▸ by decide)
  rw [context, argument_shown_append_of_ne hpath, argument_shown_append_of_ne hbucket]

theorem detailOf_context (h : e.detail.IsWorded) : detailOf e.kind e.context = e.detail := by
  rw [kind]
  cases hd : e.detail with
  | indexOutOfRange i =>
    refine congrArg ErrorDetail.indexOutOfRange ?_
    rw [argument_detail (by decide), hd]
    exact argument_shown eq_null_of_not_shown
  | incompatible o r =>
    rw [hd] at h
    have hother : argument e.context "other" .null = o := by
      rw [argument_detail (by decide), hd]
      exact argument_shown_append eq_null_of_not_shown
        (Entries.get?_eq_none fun a ha => by rw [name_of_mem_shown ha]; decide)
    have hreason : argument e.context "reason" (.text "") = r := by
      rw [argument_detail (by decide), hd, ErrorDetail.context,
        argument_shown_append_of_ne (by decide)]
      exact argument_shown (Value.eq_empty_of_text h.2)
    exact congr (congrArg ErrorDetail.incompatible hother) hreason
  | unsupported o =>
    rw [hd] at h
    refine congrArg ErrorDetail.unsupported ?_
    rw [argument_detail (by decide), hd]
    exact argument_shown (Value.eq_empty_of_text h)
  | _ => rfl

/-- The error itself and the message are not given by name alone. -/
theorem not_mem_namedArguments (kind : ErrorKind) :
    "self" ∉ namedArguments kind ∧ "message" ∉ namedArguments kind := by
  cases kind <;> decide

theorem checkNames_eq_ok {kind : ErrorKind} {messageGiven : Bool} {names : List String}
    (h : ∀ n ∈ names, n ∈ namedArguments kind) :
    checkNames kind messageGiven names = .ok () := by
  induction names with
  | nil => rfl
  | cons n names ih =>
    obtain ⟨hn, hnames⟩ := List.forall_mem_cons.mp h
    have hself : n ≠ "self" := fun heq => (not_mem_namedArguments kind).1 (heq ▸ hn)
    have hmessage : n ≠ "message" := fun heq => (not_mem_namedArguments kind).2 (heq ▸ hn)
    have hcheck : checkName kind messageGiven n = .ok () := by
      rw [checkName, if_neg (by simp [hself, hmessage]), if_pos (.inr hn)]
    rw [checkNames, hcheck]
    exact ih hnames

/-- **An error is built again by the arguments of its literal form.** -/
theorem build_context (h : e.IsWorded) : build e.kind [e.message] e.context = .ok e := by
  have hnames : checkNames e.kind true (e.context.map (·.1)) = .ok () := by
    apply checkNames_eq_ok
    simp only [List.forall_mem_map]
    exact fun a ha => name_of_mem_context ha
  have hbuild : build e.kind [e.message] e.context =
      .ok ⟨detailOf e.kind e.context, e.message, argument e.context "path" .null,
        argument e.context "bucket" .null⟩ := by
    rw [build, List.isEmpty_cons, Bool.not_false, hnames]
    rfl
  rw [hbuild, detailOf_context h.detail, argument_path, argument_bucket]

/-! ## Section 4: Telling errors apart -/

theorem kind_name_inj {k₁ k₂ : ErrorKind} (h : k₁.name = k₂.name) : k₁ = k₂ := by
  revert h
  cases k₁ <;> cases k₂ <;> decide

theorem not_mem_kind_name (k : ErrorKind) : '(' ∉ k.name.toList := by
  cases k <;> decide

/-- **Errors with the same literal form are the same.** -/
theorem literal_inj (label : Nat) (h₁ : e₁.IsWorded) (h₂ : e₂.IsWorded) :
    (Value.error label e₁).spelled .literal = (Value.error label e₂).spelled .literal ↔
      e₁ = e₂ := by
  refine ⟨fun h => ?_, fun h => by rw [h]⟩
  obtain ⟨m₁, hm₁⟩ := h₁.message
  obtain ⟨m₂, hm₂⟩ := h₂.message
  rw [literal_eq label hm₁, literal_eq label hm₂] at h
  obtain ⟨hname, hm, hcontext⟩ := callWith_inj (not_mem_kind_name _) (not_mem_kind_name _)
    (isArgument_context h₁) (isArgument_context h₂) h
  have hkind := kind_name_inj hname
  have hmessage : e₁.message = e₂.message := by rw [hm₁, hm₂, hm]
  -- the same arguments build both errors
  have hbuild : (.ok e₁ : Except Misuse (PathError Value)) = .ok e₂ := by
    rw [← build_context h₁, ← build_context h₂, hkind, hmessage, hcontext]
  exact Except.ok.inj hbuild

end PathError

end Keyspace
