import Keyspace.Value.Written
import Keyspace.Proofs.Text.Integers
import Keyspace.Proofs.Text.Unquoting

/-! # Literal forms of calls

    A call in literal form is a name with arguments between parentheses, one
    message and then named arguments. If the message is a text, and the other
    arguments are texts, integers or pairs of integers, the call can be read
    back: its text tells the name, the message, and the named arguments in order
    (`callWith_inj`).

    What carries this is that each argument shows where it ends. A quoted text
    does so by itself, a pair by its parenthesis, and an integer because a comma
    or a parenthesis follows it (`delimited_literal`).
-/

namespace Keyspace

/-! ## Section 1: Integers -/

namespace Text

/-- What follows an argument of a call: another argument, or the end. -/
def EndsArgument (r : List Char) : Prop := r.head? = some ',' ∨ r.head? = some ')'

theorem delimited_toString :
    Delimited (fun _ => True) EndsArgument fun i : Int => (toString i).toList := by
  apply delimited_of_characters
  · intro i j _ _ h
    exact toList_toString_inj h
  · intro i _ c hc
    exact isNumeral_of_mem_toString hc
  · intro r hr c hc
    -- neither the comma nor the parenthesis occurs in an integer
    rcases hr with hr | hr
    · obtain rfl : ',' = c := by simpa [hr] using hc
      rfl
    · obtain rfl : ')' = c := by simpa [hr] using hc
      rfl

end Text

/-! ## Section 2: Values -/

namespace Value

/-- A text, an integer, or a pair of integers. -/
inductive IsSimple : Value → Prop where
  | text (s : String) : IsSimple (.text s)
  | int (i : Int) : IsSimple (.int i)
  | range (i j : Int) : IsSimple (.pair (.int i) (.int j))

theorem toList_literal_text (s : String) : ((text s).spelled .literal).toList = Text.quoteChars s.toList :=
  Text.toList_quote s

theorem toList_literal_range (i j : Int) (r : List Char) :
    ((pair (int i) (int j)).spelled .literal).toList ++ r =
      '(' :: ((toString i).toList ++ ',' :: ' ' :: ((toString j).toList ++ ')' :: r)) := by
  show ("(" ++ (toString i ++ ", " ++ toString j) ++ ")").toList ++ r = _
  simp

/-- The characters that the literal form of such a value may begin with. -/
def Begins (c : Char) : Value → Prop
  | .text _ => Text.IsQuote c
  | .int _ => Text.isNumeral c = true
  | _ => c = '('

theorem literal_begins {v : Value} (h : v.IsSimple) :
    ∃ c rest, (v.spelled .literal).toList = c :: rest ∧ Begins c v := by
  cases h with
  | text s =>
    rw [toList_literal_text, Text.quoteChars_eq]
    exact ⟨_, _, rfl, Text.isQuote_quoteFor s.toList⟩
  | int i =>
    obtain ⟨c, rest, hi⟩ := List.exists_cons_of_ne_nil (Text.toList_toString_ne_nil i)
    have hc : c ∈ (toString i).toList := by
      rw [hi]
      exact List.mem_cons_self
    exact ⟨c, rest, hi, Text.isNumeral_of_mem_toString hc⟩
  | range i j =>
    have hrange := toList_literal_range i j []
    rw [List.append_nil] at hrange
    exact ⟨_, _, hrange, rfl⟩

/-- The first character tells what kind of value it is. -/
theorem begins_disjoint {v w : Value} {c : Char} (hv : v.IsSimple) (hw : w.IsSimple)
    (hvc : Begins c v) (hwc : Begins c w) :
    (∃ s t, v = .text s ∧ w = .text t) ∨ (∃ i j, v = .int i ∧ w = .int j) ∨
      ∃ i j k l, v = .pair (.int i) (.int j) ∧ w = .pair (.int k) (.int l) := by
  have hquote : Text.IsQuote c → Text.isNumeral c = false ∧ c ≠ '(' := by
    rintro (rfl | rfl) <;> decide
  have hnumeral : Text.isNumeral c = true → c ≠ '(' := by
    rintro h rfl
    exact absurd h (by decide)
  cases hv with
  | text s =>
    cases hw with
    | text t => exact .inl ⟨s, t, rfl, rfl⟩
    | int j => exact absurd hwc (by simp [Begins, (hquote hvc).1])
    | range k l => exact absurd hwc (hquote hvc).2
  | int i =>
    cases hw with
    | text t => exact absurd hvc (by simp [Begins, (hquote hwc).1])
    | int j => exact .inr (.inl ⟨i, j, rfl, rfl⟩)
    | range k l => exact absurd hwc (hnumeral hvc)
  | range i j =>
    cases hw with
    | text t => exact absurd hvc (hquote hwc).2
    | int k => exact absurd hvc (hnumeral hwc)
    | range k l => exact .inr (.inr ⟨i, j, k, l, rfl, rfl⟩)

/-- **Arguments are delimited.** -/
theorem delimited_literal :
    Text.Delimited IsSimple Text.EndsArgument fun v => (v.spelled .literal).toList := by
  intro v w hv hw r s hr hs heq
  dsimp only at heq
  obtain ⟨c, cs, hvc, hbegins⟩ := literal_begins hv
  obtain ⟨d, ds, hwd, hbegins'⟩ := literal_begins hw
  obtain rfl : c = d := by
    rw [hvc, hwd] at heq
    exact (List.cons.inj heq).1
  rcases begins_disjoint hv hw hbegins hbegins' with
    ⟨t, u, rfl, rfl⟩ | ⟨i, j, rfl, rfl⟩ | ⟨i, j, k, l, rfl, rfl⟩
  · rw [toList_literal_text, toList_literal_text] at heq
    obtain ⟨htu, hrs⟩ := Text.delimited_quoteChars trivial trivial trivial trivial heq
    exact ⟨by rw [String.toList_inj.mp htu], hrs⟩
  · obtain ⟨rfl, hrs⟩ := Text.delimited_toString trivial trivial hr hs heq
    exact ⟨rfl, hrs⟩
  · -- a comma follows the first integer, and the parenthesis the second
    simp only [toList_literal_range, List.cons.injEq, true_and] at heq
    obtain ⟨hik, hcomma⟩ := Text.delimited_toString trivial trivial (.inl rfl) (.inl rfl) heq
    simp only [List.cons.injEq, true_and] at hcomma
    obtain ⟨hjl, hclosed⟩ := Text.delimited_toString trivial trivial (.inr rfl) (.inr rfl) hcomma
    exact ⟨by rw [hik, hjl], (List.cons.inj hclosed).2⟩

end Value

/-! ## Section 3: Calls -/

/-- A named argument, as it stands behind another argument. -/
def writeArgument (a : String × Value) : List Char :=
  ',' :: ' ' :: (a.1.toList ++ '=' :: (a.2.spelled .literal).toList)

/-- A name without an equals sign, and a value that shows where it ends. -/
def IsArgument (a : String × Value) : Prop := '=' ∉ a.1.toList ∧ a.2.IsSimple

theorem delimited_name (mark : Char) :
    Text.Delimited (fun s : String => mark ∉ s.toList) (fun r => r.head? = some mark)
      String.toList := by
  apply Text.delimited_of_characters (p := (· != mark))
  · intro s t _ _ h
    exact String.toList_inj.mp h
  · intro s hs c hc
    exact bne_iff_ne.mpr fun h => hs (h ▸ hc)
  · intro r hr c hc
    obtain rfl : mark = c := by simpa [hr] using hc
    simp

theorem delimited_argument : Text.Delimited IsArgument Text.EndsArgument writeArgument := by
  intro a b ha hb r s hr hs heq
  simp only [writeArgument, List.cons_append, List.append_assoc, List.cons.injEq, true_and] at heq
  obtain ⟨hname, heq⟩ := delimited_name '=' ha.1 hb.1 rfl rfl heq
  obtain ⟨hvalue, hrs⟩ := Value.delimited_literal ha.2 hb.2 hr hs (List.cons.inj heq).2
  exact ⟨Prod.ext hname hvalue, hrs⟩

/-- A call with a message and named arguments. -/
def Form.callWith (name message : String) (arguments : List (String × Value)) : String :=
  call name (Text.quote message :: arguments.map fun a => named a.1 (a.2.spelled .literal))

theorem toList_intercalate_cons (s : String) (ss : List String) :
    (", ".intercalate (s :: ss)).toList =
      s.toList ++ ss.flatMap fun t => ',' :: ' ' :: t.toList := by
  induction ss generalizing s with
  | nil => simp
  | cons t ss ih =>
    rw [String.intercalate_cons_cons, String.toList_append, ih]
    simp

theorem toList_callWith (name message : String) (arguments : List (String × Value)) :
    (Form.callWith name message arguments).toList =
      name.toList ++ '(' ::
        (Text.quoteChars message.toList ++ Text.writeUpTo ')' writeArgument arguments) := by
  simp only [Form.callWith, Form.call, Form.enclosed, String.toList_append,
    toList_intercalate_cons, Text.toList_quote, List.flatMap_map, Text.writeUpTo]
  have hwrite : writeArgument = fun a => ',' :: ' ' :: (Form.named a.1 (a.2.spelled .literal)).toList := by
    funext a
    simp [Form.named, writeArgument]
  simp [hwrite]

/-- **Calls can be read back.** -/
theorem callWith_inj {n n' m m' : String} {as as' : List (String × Value)}
    (hn : '(' ∉ n.toList) (hn' : '(' ∉ n'.toList) (has : ∀ a ∈ as, IsArgument a)
    (has' : ∀ a ∈ as', IsArgument a) (h : Form.callWith n m as = Form.callWith n' m' as') :
    n = n' ∧ m = m' ∧ as = as' := by
  rw [← String.toList_inj, toList_callWith, toList_callWith] at h
  obtain ⟨hname, h⟩ := delimited_name '(' hn hn' rfl rfl h
  obtain ⟨hmessage, h⟩ :=
    Text.delimited_quoteChars trivial trivial trivial trivial (List.cons.inj h).2
  have harguments : Text.Delimited (fun as => ∀ a ∈ as, IsArgument a) (fun _ => True)
      (Text.writeUpTo ')' writeArgument) :=
    delimited_argument.sequence (fun a _ => ⟨_, _, rfl, by decide⟩)
      (fun a _ r => .inl rfl) fun r => .inr rfl
  refine ⟨hname, String.toList_inj.mp hmessage, ?_⟩
  apply harguments.eq (r := []) has has' trivial
  rw [List.append_nil, List.append_nil, h]

end Keyspace
