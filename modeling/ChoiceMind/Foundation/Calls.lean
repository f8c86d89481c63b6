import Mathlib.Tactic.TypeStar

/-!
# Calls that change a state and may fail

`ExceptT ε (StateM σ)`: the state after a failed call is the one that its steps left, not
the one before it.
-/

set_option autoImplicit false

namespace Calls

variable {ε σ α β : Type} {x : ExceptT ε (StateM σ) α} {f : α → ExceptT ε (StateM σ) β}
  {a : α} {error : ε} {s s' s'' : σ}

theorem run_bind_ok (h : x.run s = (.ok a, s')) : (x >>= f).run s = (f a).run s' := by
  simp only [ExceptT.run] at h ⊢
  simp only [bind, ExceptT.bind, ExceptT.mk, StateT.bind, h]
  rfl

theorem run_bind_error (h : x.run s = (.error error, s')) :
    (x >>= f).run s = (.error error, s') := by
  simp only [ExceptT.run] at h ⊢
  simp only [bind, ExceptT.bind, ExceptT.mk, StateT.bind, h]
  rfl

/-- A sequence that succeeds succeeds in both of its parts. -/
theorem run_bind_eq_ok {b : β} :
    (x >>= f).run s = (.ok b, s'') ↔
      ∃ a s', x.run s = (.ok a, s') ∧ (f a).run s' = (.ok b, s'') := by
  cases hx : x.run s with
  | mk result s' =>
    cases result with
    | ok a =>
      rw [run_bind_ok hx]
      constructor
      · intro h
        exact ⟨a, s', rfl, h⟩
      · rintro ⟨_, _, heq, h⟩
        cases heq
        exact h
    | error error =>
      rw [run_bind_error hx]
      constructor
      · intro h
        cases h
      · rintro ⟨_, _, heq, -⟩
        cases heq

/-- A sequence ends with its first part, or goes on with the second one. -/
theorem run_bind_cases (x : ExceptT ε (StateM σ) α) (f : α → ExceptT ε (StateM σ) β) (s : σ) :
    (∃ a s', x.run s = (.ok a, s') ∧ (x >>= f).run s = (f a).run s') ∨
      ∃ error s', x.run s = (.error error, s') ∧ (x >>= f).run s = (.error error, s') := by
  cases hx : x.run s with
  | mk result s' =>
    cases result with
    | ok a => exact .inl ⟨a, s', rfl, run_bind_ok hx⟩
    | error error => exact .inr ⟨error, s', rfl, run_bind_error hx⟩

/-- A second part that leaves the state leaves what the first part made of it. -/
theorem run_bind_silent (h : ∀ a s', ((f a).run s').2 = s') :
    ((x >>= f).run s).2 = (x.run s).2 := by
  rcases run_bind_cases x f s with ⟨a, s', hx, hrun⟩ | ⟨error, s', hx, hrun⟩
  · rw [hrun, hx, h]
  · rw [hrun, hx]

@[simp] theorem run_pure (a : α) (s : σ) : (pure a : ExceptT ε (StateM σ) α).run s = (.ok a, s) := rfl

@[simp] theorem run_throw (error : ε) (s : σ) :
    (throw error : ExceptT ε (StateM σ) α).run s = (.error error, s) := rfl

end Calls
