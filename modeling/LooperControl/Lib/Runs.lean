import Mathlib.Logic.Relation

/-!
# Runs of labelled transition systems

`Run step s es t` says that the labels `es`, taken in order, lead from `s` to `t`. The
module carries the run rules the development uses:

* **Composition**: runs append, and the runs of a partial function are its folds.
* **Invariants**: a predicate kept by every step is kept by every run
  (`Run.invariant`); with a guard on the steps (`guarded`) the predicate only has to be
  kept by the steps that pass the guard.
* **Exactness**: where a guard decides the postcondition of every single step, it decides it
  for whole runs (`run_guarded_iff_checked`). Where it decides whether a step keeps a property
  that is never regained, it decides whether a run ends with it (`ends_iff_guarded`).
* **Reachability**: `Reachable init step t`, with the induction rule `Reachable.induct`.
-/

namespace Runs

universe u v w

variable {σ : Type u} {ε : Type v} {τ : Type w}

/-- The labels `es` lead from `s` to `t`, one step each. -/
inductive Run (step : σ → ε → σ → Prop) : σ → List ε → σ → Prop
  | nil (s : σ) : Run step s [] s
  | cons {s t u : σ} {e : ε} {es : List ε} :
      step s e t → Run step t es u → Run step s (e :: es) u

/-- A partial step function as a step relation. -/
def ofFun (f : σ → ε → Option σ) : σ → ε → σ → Prop := fun s e t => f s e = some t

/-- The steps that are allowed by a guard on the state before the step and its label. -/
def guarded (guard : σ → ε → Prop) (step : σ → ε → σ → Prop) : σ → ε → σ → Prop :=
  fun s e t => guard s e ∧ step s e t

/-- The steps after which a postcondition holds. -/
def checked (post : σ → ε → σ → Prop) (step : σ → ε → σ → Prop) : σ → ε → σ → Prop :=
  fun s e t => step s e t ∧ post s e t

variable {step : σ → ε → σ → Prop} {s t u : σ} {e : ε} {es fs : List ε}

@[simp] theorem run_nil_iff : Run step s [] t ↔ s = t := by
  constructor
  · intro h
    cases h
    rfl
  · rintro rfl
    exact .nil s

@[simp] theorem run_cons_iff :
    Run step s (e :: es) u ↔ ∃ t, step s e t ∧ Run step t es u := by
  constructor
  · intro h
    cases h with
    | cons h₁ h₂ => exact ⟨_, h₁, h₂⟩
  · rintro ⟨t, h₁, h₂⟩
    exact .cons h₁ h₂

/-- Runs compose. -/
theorem Run.append (h₁ : Run step s es t) (h₂ : Run step t fs u) : Run step s (es ++ fs) u := by
  induction h₁ with
  | nil s => exact h₂
  | cons hs _ ih => exact .cons hs (ih h₂)

/-- One step more at the end of a run. -/
theorem Run.snoc (h₁ : Run step s es t) (h₂ : step t e u) : Run step s (es ++ [e]) u :=
  h₁.append (.cons h₂ (.nil u))

/-- Steps that are steps of another system make runs of it. -/
theorem Run.mono {step' : σ → ε → σ → Prop} (hstep : ∀ s e t, step s e t → step' s e t)
    (h : Run step s es t) : Run step' s es t := by
  induction h with
  | nil s => exact .nil s
  | cons hst _ ih => exact .cons (hstep _ _ _ hst) ih

/-- **The invariant rule**: what every step keeps, every run keeps. -/
theorem Run.invariant {P : σ → Prop} (hstep : ∀ s e t, P s → step s e t → P t)
    (h : Run step s es t) (hs : P s) : P t := by
  induction h with
  | nil s => exact hs
  | cons hst _ ih => exact ih (hstep _ _ _ hs hst)

/-- What every step brings about while an invariant holds is brought about throughout a run. -/
theorem Run.checked_of {P : σ → Prop} {post : σ → ε → σ → Prop}
    (hpost : ∀ s e t, P s → step s e t → post s e t) (hkeep : ∀ s e t, P s → step s e t → P t)
    (h : Run step s es t) (hs : P s) : Run (checked post step) s es t := by
  induction h with
  | nil s => exact .nil s
  | @cons s t u e es hst _ ih => exact .cons ⟨hst, hpost s e t hs hst⟩ (ih (hkeep s e t hs hst))

/-- **The exactness rule**: a guard that decides the postcondition of a step, in the states that
checked steps lead to, decides it for every step of a run. -/
theorem run_guarded_iff_checked {P : σ → Prop} {guard : σ → ε → Prop} {post : σ → ε → σ → Prop}
    (hexact : ∀ s e t, P s → step s e t → (guard s e ↔ post s e t))
    (hkeep : ∀ s e t, P s → step s e t → post s e t → P t) (hs : P s) :
    Run (guarded guard step) s es t ↔ Run (checked post step) s es t := by
  constructor
  · intro h
    induction h with
    | nil s => exact .nil s
    | @cons s t u e es hst _ ih =>
      have hpost := (hexact s e t hs hst.2).mp hst.1
      exact .cons ⟨hst.2, hpost⟩ (ih (hkeep s e t hs hst.2 hpost))
  · intro h
    induction h with
    | nil s => exact .nil s
    | @cons s t u e es hst _ ih =>
      have hguard := (hexact s e t hs hst.1).mpr hst.2
      exact .cons ⟨hguard, hst.1⟩ (ih (hkeep s e t hs hst.1 hst.2))

/-- **The exactness rule for what is never regained**, for a partial step function: where a step
ends with a property exactly if it starts with it and passes the guard, so does a run. -/
theorem ends_iff_guarded {f : σ → ε → Option σ} {I W : σ → Prop} {guard : σ → ε → Prop}
    (hexact : ∀ s e t, I s → f s e = some t → (W t ↔ W s ∧ guard s e))
    (hkeep : ∀ s e t, I s → f s e = some t → I t) (h : Run (ofFun f) s es t) (hs : I s) :
    W t ↔ W s ∧ Run (guarded guard (ofFun f)) s es t := by
  induction h with
  | nil s => exact ⟨fun hw => ⟨hw, .nil s⟩, fun hw => hw.1⟩
  | @cons s t u e es hst _ ih =>
    rw [ih (hkeep s e t hs hst), hexact s e t hs hst]
    constructor
    · rintro ⟨⟨hw, hguard⟩, hrun⟩
      exact ⟨hw, .cons ⟨hguard, hst⟩ hrun⟩
    · rintro ⟨hw, hrun⟩
      obtain ⟨t', ⟨hguard, hst'⟩, hrun⟩ := run_cons_iff.mp hrun
      obtain rfl : t = t' := Option.some.inj (hst.symm.trans hst')
      exact ⟨⟨hw, hguard⟩, hrun⟩

/-- The runs of a partial step function are its folds. -/
theorem run_ofFun_iff {f : σ → ε → Option σ} : Run (ofFun f) s es t ↔ es.foldlM f s = some t := by
  induction es generalizing s with
  | nil => rw [run_nil_iff, List.foldlM_nil, Option.pure_def, Option.some_inj]
  | cons e es ih =>
    rw [run_cons_iff, List.foldlM_cons, Option.bind_eq_bind, Option.bind_eq_some_iff]
    simp only [ofFun, ih]

/-- The runs that pass a decidable guard can be computed. -/
theorem run_guarded_ofFun_iff {f : σ → ε → Option σ} {guard : σ → ε → Prop}
    [∀ s e, Decidable (guard s e)] : Run (guarded guard (ofFun f)) s es t ↔
      es.foldlM (fun s e => if guard s e then f s e else none) s = some t := by
  have hstep : guarded guard (ofFun f) = ofFun fun s e => if guard s e then f s e else none := by
    funext s e t
    rw [guarded, ofFun, ofFun, Option.ite_none_right_eq_some]
  rw [hstep, run_ofFun_iff]

/-- The states a system can get to from its initial ones. -/
def Reachable (init : σ → Prop) (step : σ → ε → σ → Prop) (t : σ) : Prop :=
  ∃ s es, init s ∧ Run step s es t

variable {init : σ → Prop}

theorem Reachable.of_init (h : init s) : Reachable init step s := ⟨s, [], h, .nil s⟩

theorem Reachable.next (h : Reachable init step s) (hst : step s e t) :
    Reachable init step t := by
  obtain ⟨s₀, es, h₀, hrun⟩ := h
  exact ⟨s₀, es ++ [e], h₀, hrun.snoc hst⟩

/-- **Induction over reachable states**: initial states have the property and every step
keeps it. -/
theorem Reachable.induct {P : σ → Prop} (hinit : ∀ s, init s → P s)
    (hstep : ∀ s e t, P s → step s e t → P t) (h : Reachable init step t) : P t := by
  obtain ⟨s₀, es, h₀, hrun⟩ := h
  exact hrun.invariant hstep (hinit s₀ h₀)

end Runs
