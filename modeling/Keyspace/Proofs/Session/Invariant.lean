import Keyspace.Session.Run

/-! # Invariants of sessions

    An action keeps an invariant when it leads from every session in which the
    invariant holds to one in which it holds, whether the action succeeds or
    fails; what happened before a failure stays. `Keeps` says this together
    with a condition on the result, and has a rule for each way in which
    actions are put together.

    An invariant that all steps keep holds after every run (`steps_keep`).
-/

namespace Keyspace.Session

/-! ## Section 1: Rules for actions -/

/-- The second action of a composition runs after the first one, unless that
    one fails. -/
theorem run_bind {α β : Type} (x : Action α) (f : α → Action β) (s : Session) :
    (x >>= f).run s =
      match x.run s with
      | (.ok a, s') => (f a).run s'
      | (.error e, s') => (.error e, s') := by
  show (ExceptT.bindCont f (x.run s).1) (x.run s).2 = _
  rcases x.run s with ⟨_ | _, _⟩ <;> rfl

theorem run_bind_of_ok {α β : Type} {x : Action α} {s s' : Session} {a : α}
    (h : x.run s = (.ok a, s')) (f : α → Action β) : (x >>= f).run s = (f a).run s' := by
  rw [run_bind, h]

theorem run_get (s : Session) : (get : Action Session).run s = (.ok s, s) := rfl

/-- A composition succeeds if both actions do. -/
theorem run_bind_eq_ok {α β : Type} {x : Action α} {f : α → Action β} {s : Session} {b : β} :
    ((x >>= f).run s).1 = .ok b ↔ ∃ a s', x.run s = (.ok a, s') ∧ ((f a).run s').1 = .ok b := by
  rw [run_bind]
  constructor
  · intro h
    rcases hx : x.run s with ⟨e | a, s'⟩
    · rw [hx] at h
      cases h
    · rw [hx] at h
      exact ⟨a, s', rfl, h⟩
  · rintro ⟨a, s', hx, hf⟩
    rw [hx]
    exact hf

/-- A composition fails where its first action does, or else the second. -/
theorem cases_of_run_bind_error {α β : Type} {x : Action α} {f : α → Action β} {s : Session}
    {e : StepFault} (h : ((x >>= f).run s).1 = .error e) :
    (x.run s).1 = .error e ∨ ∃ a s', x.run s = (.ok a, s') ∧ ((f a).run s').1 = .error e := by
  rw [run_bind] at h
  rcases hx : x.run s with ⟨e' | a, s'⟩
  · rw [hx] at h
    obtain rfl := Except.error.inj h
    exact .inl rfl
  · rw [hx] at h
    exact .inr ⟨a, s', rfl, h⟩

theorem eq_ok_of_run_lift {α : Type} {x : Except Fault α} {s s' : Session} {a : α}
    (h : (lift x).run s = (.ok a, s')) : x = .ok a := by
  cases x with
  | ok b => cases h; rfl
  | error f => cases h

theorem eq_error_of_run_lift {α : Type} {x : Except Fault α} {s : Session} {f : Fault}
    (h : ((lift x).run s).1 = .error (.fault f)) : x = .error f := by
  cases x with
  | ok b => cases h
  | error f' => cases h; rfl

theorem run_withRegistry {α : Type} {operation : Registry → Registry.Outcome α} {s : Session}
    {a : α} {r : Registry} (h : operation s.registry = (.ok a, r)) :
    (withRegistry operation).run s = (.ok a, { s with registry := r }) := by
  show (lift (operation s.registry).1 : Action α).run
    { s with registry := (operation s.registry).2 } = _
  rw [h]
  rfl

/-- From a session in which `I` holds, the action leads to one in which `I`
    holds, and its result, if there is one, satisfies `Q`. -/
def Keeps {α : Type} (I : Session → Prop) (x : Action α) (Q : α → Prop) : Prop :=
  ∀ s, I s → I (x.run s).2 ∧ ∀ a, (x.run s).1 = .ok a → Q a

namespace Keeps

variable {α β : Type} {I : Session → Prop} {Q : α → Prop} {R : β → Prop}

theorem pure {a : α} (h : Q a) : Keeps I (pure a : Action α) Q := by
  intro s hs
  refine ⟨hs, fun b hb => ?_⟩
  obtain rfl := Except.ok.inj hb
  exact h

theorem throw (e : StepFault) : Keeps I (throw e : Action α) Q := by
  intro s hs
  refine ⟨hs, fun b hb => ?_⟩
  cases hb

theorem bind {x : Action α} {f : α → Action β} (hx : Keeps I x Q)
    (hf : ∀ a, Q a → Keeps I (f a) R) : Keeps I (x >>= f) R := by
  intro s hs
  obtain ⟨hs', hQ⟩ := hx s hs
  rw [run_bind]
  rcases hres : x.run s with ⟨e | a, s'⟩
  · -- a failure ends the composition
    rw [hres] at hs'
    exact ⟨hs', by simp⟩
  · rw [hres] at hs' hQ
    exact hf a (hQ a rfl) s' hs'

theorem mono {x : Action α} {Q' : α → Prop} (hx : Keeps I x Q) (h : ∀ a, Q a → Q' a) :
    Keeps I x Q' := by
  intro s hs
  obtain ⟨hs', hQ⟩ := hx s hs
  exact ⟨hs', fun a ha => h a (hQ a ha)⟩

theorem get : Keeps I (get : Action Session) I := by
  intro s hs
  refine ⟨hs, fun t ht => ?_⟩
  obtain rfl := Except.ok.inj ht
  exact hs

theorem set {t : Session} (h : I t) : Keeps I (set t : Action Unit) fun _ => True :=
  fun _ _ => ⟨h, fun _ _ => trivial⟩

theorem modify {f : Session → Session} (h : ∀ s, I s → I (f s)) :
    Keeps I (modify f : Action Unit) fun _ => True :=
  fun s hs => ⟨h s hs, fun _ _ => trivial⟩

theorem lift {x : Except Fault α} (h : ∀ a, x = .ok a → Q a) :
    Keeps I (lift x) Q := by
  cases x with
  | ok a => exact Keeps.pure (h a rfl)
  | error e => exact Keeps.throw _

theorem liftMisuse {x : Except Misuse α} (h : ∀ a, x = .ok a → Q a) :
    Keeps I (liftMisuse x) Q := by
  cases x with
  | ok a => exact Keeps.pure (h a rfl)
  | error m => exact Keeps.throw _

/-- Only the registry changes, and what the operation answers with depends on
    nothing else. -/
theorem withRegistry {operation : Registry → Registry.Outcome α}
    (hI : ∀ s, I s → I { s with registry := (operation s.registry).2 })
    (hQ : ∀ s, I s → ∀ a, (operation s.registry).1 = .ok a → Q a) :
    Keeps I (withRegistry operation) Q := by
  refine Keeps.bind Keeps.get fun s hs => ?_
  exact Keeps.bind (Keeps.set (hI s hs)) fun _ _ => Keeps.lift (hQ s hs)

end Keeps

/-! ## Section 2: Runs -/

/-- An invariant that every step keeps holds after every sequence of steps. -/
theorem steps_keep {I : Session → Prop} (hstep : ∀ s st, I s → I (s.step st).2)
    {s : Session} (hs : I s) (sts : List Step) : I (s.steps sts).2 := by
  induction sts generalizing s with
  | nil => exact hs
  | cons st rest ih => exact ih (hstep s st hs)

end Keyspace.Session
