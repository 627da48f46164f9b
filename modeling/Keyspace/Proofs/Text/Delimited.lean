/-! # Delimited texts

    A way of writing things down is delimited when it shows where each of them
    ends: from a text that begins with something written and goes on with what
    may follow it, both the thing and the rest can be told (`Delimited`).

    There are three ways to come by one. A reader that takes one thing off the
    beginning of every text makes it so (`delimited_of_reader`). So does a set of
    characters that everything written consists of and that nothing following
    begins with (`delimited_of_characters`). And delimited things, one after the
    other up to a character that none of them begins with, are a delimited
    sequence (`Delimited.sequence`).
-/

namespace Keyspace.Text

variable {α : Type} {P : α → Prop} {follow : List Char → Prop} {write : α → List Char}

/-- Whatever is written for things that satisfy `P`, with texts after it that
    satisfy `follow`: equal texts begin with the same thing and have the same
    rest. -/
def Delimited (P : α → Prop) (follow : List Char → Prop) (write : α → List Char) : Prop :=
  ∀ ⦃a b : α⦄, P a → P b → ∀ ⦃r s : List Char⦄, follow r → follow s →
    write a ++ r = write b ++ s → a = b ∧ r = s

/-- What is written is then different for different things, with the same text
    after it. -/
theorem Delimited.eq {a b : α} {r : List Char} (h : Delimited P follow write) (ha : P a)
    (hb : P b) (hr : follow r) (heq : write a ++ r = write b ++ r) : a = b :=
  (h ha hb hr hr heq).1

theorem delimited_of_reader {read? : List Char → Option (α × List Char)}
    (h : ∀ a, P a → ∀ r, follow r → read? (write a ++ r) = some (a, r)) :
    Delimited P follow write := by
  intro a b ha hb r s hr hs heq
  have hread : some (a, r) = some (b, s) := by
    rw [← h a ha r hr, heq, h b hb s hs]
  exact Prod.mk.inj (Option.some.inj hread)

theorem delimited_of_characters {p : Char → Bool}
    (hinj : ∀ a b, P a → P b → write a = write b → a = b)
    (hwrite : ∀ a, P a → ∀ c ∈ write a, p c = true)
    (hfollow : ∀ r, follow r → ∀ c ∈ r.head?, p c = false) : Delimited P follow write := by
  -- what is written is all that comes before the first character of another kind
  have hread : ∀ a, P a → ∀ r, follow r → (write a ++ r).takeWhile p = write a := by
    intro a ha r hr
    have hnone : r.takeWhile p = [] := by
      cases r with
      | nil => rfl
      | cons c cs => exact List.takeWhile_cons_of_neg (by simp [hfollow _ hr c rfl])
    rw [List.takeWhile_append_of_pos (hwrite a ha), hnone, List.append_nil]
  intro a b ha hb r s hr hs heq
  have hwritten : write a = write b := by
    rw [← hread a ha r hr, heq, hread b hb s hs]
  refine ⟨hinj a b ha hb hwritten, ?_⟩
  rw [hwritten] at heq
  exact List.append_cancel_left heq

/-- Things one after the other, up to a character. -/
def writeUpTo (last : Char) (write : α → List Char) (as : List α) : List Char :=
  as.flatMap write ++ [last]

theorem writeUpTo_cons_append (last : Char) (write : α → List Char) (a : α) (as : List α)
    (r : List Char) :
    writeUpTo last write (a :: as) ++ r = write a ++ (writeUpTo last write as ++ r) := by
  simp only [writeUpTo, List.flatMap_cons, List.append_assoc]

theorem Delimited.sequence {last : Char} (h : Delimited P follow write)
    (hfirst : ∀ a, P a → ∃ c cs, write a = c :: cs ∧ c ≠ last)
    (hnext : ∀ a, P a → ∀ r, follow (write a ++ r)) (hlast : ∀ r, follow (last :: r)) :
    Delimited (fun as : List α => ∀ a ∈ as, P a) (fun _ => True) (writeUpTo last write) := by
  have hne : ∀ {a : α} {r s : List Char}, P a → write a ++ r ≠ last :: s := by
    intro a r s ha heq
    obtain ⟨c, cs, hc, hne⟩ := hfirst a ha
    rw [hc] at heq
    exact hne (List.cons.inj heq).1
  -- behind each thing stands another one, or the last character
  have hfollow : ∀ {as : List α}, (∀ a ∈ as, P a) → ∀ r, follow (writeUpTo last write as ++ r) := by
    intro as has r
    cases as with
    | nil => exact hlast r
    | cons a as =>
      rw [writeUpTo_cons_append]
      exact hnext a (has a List.mem_cons_self) _
  intro as
  induction as with
  | nil =>
    intro bs _ hbs r s _ _ heq
    cases bs with
    | nil => exact ⟨rfl, (List.cons.inj heq).2⟩
    | cons b bs =>
      rw [writeUpTo_cons_append] at heq
      exact absurd heq.symm (hne (hbs b List.mem_cons_self))
  | cons a as ih =>
    intro bs has hbs r s _ _ heq
    obtain ⟨ha, has'⟩ := List.forall_mem_cons.mp has
    rw [writeUpTo_cons_append] at heq
    cases bs with
    | nil => exact absurd heq (hne ha)
    | cons b bs =>
      obtain ⟨hb, hbs'⟩ := List.forall_mem_cons.mp hbs
      rw [writeUpTo_cons_append] at heq
      obtain ⟨hab, hrest⟩ := h ha hb (hfollow has' r) (hfollow hbs' s) heq
      obtain ⟨hasbs, hrs⟩ := ih has' hbs' trivial trivial hrest
      exact ⟨by rw [hab, hasbs], hrs⟩

end Keyspace.Text
