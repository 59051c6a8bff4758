import Mathlib.Logic.Relation

/-!
# State with exceptions that keep the state

`Effect ε σ α` is a computation over a state `σ` that may raise an `ε`. A raise keeps the
state changes made before it, as in an imperative language with exceptions: the exception
layer sits outside the state layer. `Effect.exec` runs a computation, and the lemmas below
evaluate it one operation at a time. Loops over flattened lists are nested loops, and a loop
whose rounds never raise is a fold.
-/

universe u

/-- A computation over the state `σ` that may raise an `ε`. -/
abbrev Effect (ε σ : Type) : Type → Type := ExceptT ε (StateM σ)

namespace Effect

variable {ε σ α β : Type}

/-- The outcome of a computation from a state, and the state it leaves. -/
def exec (m : Effect ε σ α) (s : σ) : Except ε α × σ := Id.run (StateT.run (ExceptT.run m) s)

@[simp] theorem exec_pure (a : α) (s : σ) : exec (pure a : Effect ε σ α) s = (.ok a, s) := rfl

@[simp] theorem exec_get (s : σ) : exec (get : Effect ε σ σ) s = (.ok s, s) := rfl

@[simp] theorem exec_modify (f : σ → σ) (s : σ) :
    exec (modify f : Effect ε σ PUnit) s = (.ok ⟨⟩, f s) := rfl

/-- A step of a sequence runs only when the one before it did not raise. -/
theorem exec_bind (m : Effect ε σ α) (f : α → Effect ε σ β) (s : σ) :
    exec (m >>= f) s = match exec m s with
      | (.ok a, t) => exec (f a) t
      | (.error e, t) => (.error e, t) := by
  have hunfold : exec (m >>= f) s = ExceptT.bindCont f (exec m s).1 (exec m s).2 := rfl
  rw [hunfold]
  rcases exec m s with ⟨_ | _, _⟩ <;> rfl

/-- The handler runs in the state in which the exception was raised. -/
theorem exec_tryCatch (m : Effect ε σ α) (h : ε → Effect ε σ α) (s : σ) :
    exec (tryCatch m h) s = match exec m s with
      | (.ok a, t) => (.ok a, t)
      | (.error e, t) => exec (h e) t := by
  have hunfold : exec (tryCatch m h) s = exec (match (exec m s).1 with
      | .ok a => (pure a : Effect ε σ α)
      | .error e => h e) (exec m s).2 := rfl
  rw [hunfold]
  rcases exec m s with ⟨_ | _, _⟩ <;> rfl

theorem exec_map (f : α → β) (m : Effect ε σ α) (s : σ) :
    exec (f <$> m) s = ((exec m s).1.map f, (exec m s).2) := by
  rw [map_eq_pure_bind, exec_bind]
  rcases exec m s with ⟨_ | _, _⟩ <;> rfl

theorem exec_bind_ok {m : Effect ε σ α} {f : α → Effect ε σ β} {s t : σ} {a : α}
    (h : exec m s = (.ok a, t)) : exec (m >>= f) s = exec (f a) t := by
  rw [exec_bind, h]

theorem toOption_eq_some_iff {x : Except ε α} {a : α} : x.toOption = some a ↔ x = .ok a := by
  cases x <;> simp [Except.toOption]

/-- A pure computation that may raise. -/
def lift : Except ε α → Effect ε σ α
  | .ok a => pure a
  | .error e => throw e

@[simp] theorem exec_lift (x : Except ε α) (s : σ) : exec (lift x : Effect ε σ α) s = (x, s) := by
  cases x <;> rfl

/-! ### What is returned -/

/-- Whatever a computation returns has a property. -/
def Returns (P : α → Prop) (m : Effect ε σ α) : Prop := ∀ s a t, exec m s = (.ok a, t) → P a

namespace Returns

variable {P : α → Prop} {Q : β → Prop}

theorem pure {a : α} (h : P a) : Returns P (Pure.pure a : Effect ε σ α) := by
  intro s b t hb
  obtain rfl := Except.ok.inj (congrArg Prod.fst hb)
  exact h

theorem bind {m : Effect ε σ α} {f : α → Effect ε σ β} (h : ∀ a, Returns Q (f a)) :
    Returns Q (m >>= f) := by
  intro s b t hb
  rw [exec_bind] at hb
  rcases hm : exec m s with ⟨e | a, u⟩
  · rw [hm] at hb
    cases hb
  · rw [hm] at hb
    exact h a u b t hb

theorem tryCatch {m : Effect ε σ α} {f : ε → Effect ε σ α} (hm : Returns P m)
    (hf : ∀ e, Returns P (f e)) : Returns P (MonadExcept.tryCatch m f) := by
  intro s b t hb
  rw [exec_tryCatch] at hb
  rcases h : exec m s with ⟨e | a, u⟩
  · rw [h] at hb
    exact hf e u b t hb
  · rw [h] at hb
    obtain rfl := Except.ok.inj (congrArg Prod.fst hb)
    exact hm s a u h

theorem map {m : Effect ε σ α} {f : α → β} (h : Returns (fun a => Q (f a)) m) :
    Returns Q (f <$> m) := by
  intro s b t hb
  rw [exec_map] at hb
  rcases hm : exec m s with ⟨e | a, u⟩
  · rw [hm] at hb
    cases hb
  · rw [hm] at hb
    obtain rfl := Except.ok.inj (congrArg Prod.fst hb)
    exact h s a u hm

end Returns

/-! ### Loops -/

/-- A loop over a flattened list is a nested loop. -/
theorem foldlM_flatMap {m : Type → Type} [Monad m] [LawfulMonad m] {γ : Type}
    (f : β → α → m β) (g : γ → List α) (l : List γ) (b : β) :
    (l.flatMap g).foldlM f b = l.foldlM (fun b c => (g c).foldlM f b) b := by
  induction l generalizing b with
  | nil => rfl
  | cons c l ih =>
    rw [List.flatMap_cons, List.foldlM_append, List.foldlM_cons]
    exact bind_congr fun b' => ih b'

/-- A loop without a result over a flattened list is a nested loop. -/
theorem forM_flatMap {m : Type → Type} [Monad m] [LawfulMonad m] {γ : Type}
    (f : α → m PUnit) (g : γ → List α) (l : List γ) :
    (l.flatMap g).forM f = l.forM fun c => (g c).forM f := by
  induction l with
  | nil => rfl
  | cons c l ih =>
    rw [List.flatMap_cons]
    exact List.forM_append.trans (bind_congr fun _ => ih)

/-- A loop whose rounds never raise runs them one after the other. -/
theorem exec_forM_of_ok {f : α → Effect ε σ PUnit} {l : List α}
    (h : ∀ a ∈ l, ∀ s, (exec (f a) s).1 = .ok ⟨⟩) (s : σ) :
    exec (l.forM f) s = (.ok ⟨⟩, l.foldl (fun s a => (exec (f a) s).2) s) := by
  induction l generalizing s with
  | nil => rfl
  | cons a l ih =>
    have ha : exec (f a) s = (.ok ⟨⟩, (exec (f a) s).2) :=
      Prod.ext (h a List.mem_cons_self s) rfl
    calc exec ((a :: l).forM f) s
        = exec (f a >>= fun _ => l.forM f) s := rfl
      _ = exec (l.forM f) (exec (f a) s).2 := exec_bind_ok ha
      _ = _ := ih (fun a' ha' => h a' (List.mem_cons_of_mem a ha')) _

end Effect
