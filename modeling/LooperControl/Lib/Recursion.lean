import Mathlib.Data.Fintype.Card
import Mathlib.Data.Set.Finite.Basic
import Mathlib.Logic.Relation
import Mathlib.Order.WellFounded
import Mathlib.Tactic.Common

/-!
# Recursion that may not return

A recursive function is given by a body that calls whatever function it is handed. Unrolled to a
depth, it has a result where its calls go no deeper. A call without a result at any depth never
returns.

* `unroll_of_le`: a result stays the same at every greater depth.
* `unroll_eq_none`: calls that always lead to one another never return.
* `exists_transGen_self`: who can always go on within a finite set comes back.

A call may also raise an exception: `andThen` goes on after one that has neither.
-/

namespace Recursion

variable {σ ρ : Type}

/-- Every result of the one function is one of the other. -/
def Extends (f g : σ → Option ρ) : Prop := ∀ s r, f s = some r → g s = some r

/-- A body that has more results when the function that it calls has. -/
def IsMonotone (body : (σ → Option ρ) → σ → Option ρ) : Prop :=
  ∀ f g, Extends f g → Extends (body f) (body g)

/-- A recursive function, with as many calls inside one another as it is unrolled. -/
def unroll (body : (σ → Option ρ) → σ → Option ρ) : ℕ → σ → Option ρ
  | 0, _ => none
  | n + 1, s => body (unroll body n) s

variable {body : (σ → Option ρ) → σ → Option ρ} {s : σ} {m n : ℕ} {r r' : ρ}

theorem extends_unroll_succ (h : IsMonotone body) (n : ℕ) :
    Extends (unroll body n) (unroll body (n + 1)) := by
  induction n with
  | zero =>
    intro s r hr
    cases hr
  | succ n ih => exact h _ _ ih

theorem unroll_of_le (h : IsMonotone body) (hmn : m ≤ n) (hr : unroll body m s = some r) :
    unroll body n s = some r := by
  induction n, hmn using Nat.le_induction with
  | base => exact hr
  | succ n _ ih => exact extends_unroll_succ h n s r ih

/-- **Calls that never return**: each of them needs another one of them. -/
theorem unroll_eq_none {P : σ → Prop}
    (h : ∀ n s, P s → (∀ t, P t → unroll body n t = none) → unroll body (n + 1) s = none)
    (hs : P s) (n : ℕ) : unroll body n s = none := by
  induction n generalizing s with
  | zero => rfl
  | succ n ih => exact h n s hs fun t ht => ih ht

/-- **Who can always go on within a finite set comes back** to a place where they have been. -/
theorem exists_transGen_self {r : σ → σ → Prop} {S : Set σ} (hfin : S.Finite) (hs : s ∈ S)
    (h : ∀ a ∈ S, ∃ b ∈ S, r a b) : ∃ a ∈ S, Relation.TransGen r a a := by
  by_contra hne
  push Not at hne
  have : Finite S := hfin
  -- Without a way back, being behind is well-founded on the finite set.
  let behind : S → S → Prop := fun a b => Relation.TransGen r b.1 a.1
  have : IsTrans S behind := ⟨fun _ _ _ hab hbc => hbc.trans hab⟩
  have : Std.Irrefl behind := ⟨fun a => hne a.1 a.2⟩
  have hwf : WellFounded behind := Finite.wellFounded_of_trans_of_irrefl behind
  obtain ⟨a, -, hmin⟩ := hwf.has_min Set.univ ⟨⟨s, hs⟩, trivial⟩
  obtain ⟨b, hb, hab⟩ := h a.1 a.2
  exact hmin ⟨b, hb⟩ trivial (.single hab)

/-! ### Exceptions -/

variable {ε α β : Type}

/-- What comes after a call that returns a value. -/
def andThen (x : Option (Except ε α)) (f : α → Option (Except ε β)) : Option (Except ε β) :=
  match x with
  | some (.ok a) => f a
  | some (.error e) => some (.error e)
  | none => none

@[simp] theorem some_ok_andThen (a : α) (f : α → Option (Except ε β)) :
    andThen (some (.ok a)) f = f a := rfl

@[simp] theorem some_error_andThen (e : ε) (f : α → Option (Except ε β)) :
    andThen (some (.error e)) f = some (.error e) := rfl

@[simp] theorem none_andThen (f : α → Option (Except ε β)) : andThen none f = none := rfl

variable {x y : Option (Except ε α)} {f g : α → Option (Except ε β)}

theorem andThen_eq_some_ok_iff {b : β} :
    andThen x f = some (.ok b) ↔ ∃ a, x = some (.ok a) ∧ f a = some (.ok b) := by
  rcases x with _ | e | a <;> simp

theorem andThen_eq_some_error_iff {e : ε} : andThen x f = some (.error e) ↔
    x = some (.error e) ∨ ∃ a, x = some (.ok a) ∧ f a = some (.error e) := by
  rcases x with _ | e' | a <;> simp

theorem andThen_eq_none_iff :
    andThen x f = none ↔ x = none ∨ ∃ a, x = some (.ok a) ∧ f a = none := by
  rcases x with _ | e | a <;> simp

/-- A sequence has more results when its parts have. -/
theorem andThen_extends (hx : ∀ r, x = some r → y = some r) (hf : Extends f g)
    {r : Except ε β} (h : andThen x f = some r) : andThen y g = some r := by
  rcases x with _ | e | a
  · cases h
  · rw [hx _ rfl]
    exact h
  · rw [hx _ rfl]
    exact hf a r h

end Recursion
