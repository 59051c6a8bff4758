import Mathlib.Tactic.Common

/-!
# Computations that may raise an exception

How the results of composed computations come about.
-/

namespace Fallible

universe u

variable {ε ε' : Type} {α β : Type u} {x : Except ε α} {e : ε} {a : α} {b : β}

@[simp] theorem ok_bind (a : α) (f : α → Except ε β) : (Except.ok a).bind f = f a := rfl

@[simp] theorem error_bind (e : ε) (f : α → Except ε β) : (Except.error e).bind f = .error e := rfl

@[simp] theorem map_ok (a : α) (f : α → β) : (Except.ok a : Except ε α).map f = .ok (f a) := rfl

@[simp] theorem map_error (e : ε) (f : α → β) : (Except.error e).map f = .error e := rfl

/-- What a sequence results in. -/
theorem bind_eq_ok_iff {f : α → Except ε β} : x.bind f = .ok b ↔ ∃ a, x = .ok a ∧ f a = .ok b := by
  cases x with
  | error e => simp
  | ok a => simp

theorem map_eq_ok_iff {f : α → β} : x.map f = .ok b ↔ ∃ a, x = .ok a ∧ f a = b := by
  cases x with
  | error e => simp
  | ok a => simp

theorem mapError_eq_ok_iff {f : ε → ε'} : x.mapError f = .ok a ↔ x = .ok a := by
  cases x with
  | error e => simp [Except.mapError]
  | ok a => simp [Except.mapError]

/-- Where the exception of a sequence comes from. -/
theorem bind_eq_error_iff {f : α → Except ε β} :
    x.bind f = .error e ↔ x = .error e ∨ ∃ a, x = .ok a ∧ f a = .error e := by
  cases x with
  | error e' => simp
  | ok a => simp

theorem map_eq_error_iff {f : α → β} : x.map f = .error e ↔ x = .error e := by
  cases x with
  | error e' => simp
  | ok a => simp

theorem mapError_eq_error_iff {f : ε → ε'} {e : ε'} :
    x.mapError f = .error e ↔ ∃ e', x = .error e' ∧ f e' = e := by
  cases x with
  | error e' => simp [Except.mapError]
  | ok a => simp [Except.mapError]

/-- A choice has the result of one of its branches. -/
theorem of_ite {c : Prop} [Decidable c] {x y z : Except ε α} (h : (if c then x else y) = z) :
    x = z ∨ y = z := by
  by_cases hc : c
  · rw [if_pos hc] at h
    exact .inl h
  · rw [if_neg hc] at h
    exact .inr h

theorem foldlM_cons {σ : Type u} {γ : Type} (step : σ → γ → Except ε σ) (s : σ) (c : γ)
    (l : List γ) : (c :: l).foldlM step s = (step s c).bind fun s => l.foldlM step s := rfl

end Fallible
