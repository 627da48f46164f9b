/-! # Outcomes that succeed

    Operations that may fail are put together with `bind` and `map`. An
    outcome of such a composition is a success exactly if all its parts are;
    the laws here take an outcome apart, so that no proof has to look into
    the composition itself.

    In the other direction, `Yields` says that an outcome is a success whose
    result has a property, and has a rule for each way of putting operations
    together.
-/

namespace Keyspace

variable {ε α β : Type}

/-! ## Section 1: Taking an outcome apart -/

theorem bind_eq_ok {x : Except ε α} {f : α → Except ε β} {b : β} :
    x.bind f = .ok b ↔ ∃ a, x = .ok a ∧ f a = .ok b := by
  cases x <;> simp [Except.bind]

/-- A composition fails in its first part, or in its second. -/
theorem bind_eq_error {x : Except ε α} {f : α → Except ε β} {e : ε} :
    x.bind f = .error e ↔ x = .error e ∨ ∃ a, x = .ok a ∧ f a = .error e := by
  cases x <;> simp [Except.bind]

theorem map_eq_ok {x : Except ε α} {f : α → β} {b : β} :
    x.map f = .ok b ↔ ∃ a, x = .ok a ∧ f a = b := by
  cases x <;> simp [Except.map]

/-- A function on results makes no failures. -/
theorem map_eq_error {x : Except ε α} {f : α → β} {e : ε} :
    x.map f = .error e ↔ x = .error e := by
  cases x <;> simp [Except.map]

/-! ## Section 2: Successes with a property -/

/-- The outcome is a success, and its result satisfies `Q`. -/
def Yields (x : Except ε α) (Q : α → Prop) : Prop := ∃ a, x = .ok a ∧ Q a

namespace Yields

variable {x : Except ε α} {Q : α → Prop} {R : β → Prop}

theorem ok {a : α} (h : Q a) : Yields (.ok a : Except ε α) Q := ⟨a, rfl, h⟩

theorem bind {f : α → Except ε β} (hx : Yields x Q) (hf : ∀ a, Q a → Yields (f a) R) :
    Yields (x.bind f) R := by
  obtain ⟨a, rfl, ha⟩ := hx
  exact hf a ha

theorem map {f : α → β} (hx : Yields x Q) (hf : ∀ a, Q a → R (f a)) : Yields (x.map f) R := by
  obtain ⟨a, rfl, ha⟩ := hx
  exact ⟨f a, rfl, hf a ha⟩

/-- What is known of every success is known of this one. -/
theorem and {Q' : α → Prop} (hx : Yields x Q) (h : ∀ a, x = .ok a → Q' a) :
    Yields x fun a => Q a ∧ Q' a := by
  obtain ⟨a, ha, hQ⟩ := hx
  exact ⟨a, ha, hQ, h a ha⟩

end Yields

end Keyspace
