import LooperControl.Lib.Dict
import Mathlib.Data.List.Induction

/-!
# Stores that ignore small changes

A `Store` is written to in three ways (`Store.Write`): a value is put under a key, a value
updates the one under a key unless that one is near it already, or a key is removed. The
relation `near` is arbitrary. In particular it need not be transitive, so that a value may be
near to its predecessor in a long row of updates and far from the first one.

`Store.near_pushed`: what a store holds after any number of writes is the value pushed last for
its key, or near to it. An ignored update lets the store lag by one comparison, and never by more.
-/

universe u v

namespace Store

variable {κ : Type u} {ν : Type v}

/-- A write into a store. -/
inductive Write (κ : Type u) (ν : Type v)
  | put (k : κ) (value : ν)
  | update (k : κ) (value : ν)
  | remove (k : κ)

/-- The pair that a write pushes. -/
def Write.pair? : Write κ ν → Option (κ × ν)
  | put k value => some (k, value)
  | update k value => some (k, value)
  | remove _ => none

variable [DecidableEq κ]

/-- The values pushed last, key by key. -/
def pushed (ws : List (Write κ ν)) : Store κ ν := replay (fun _ => none) (ws.filterMap Write.pair?)

/-- The value that an update leaves: the old one, if it is near to the new one. -/
def settle (near : ν → ν → Bool) (old : Option ν) (value : ν) : ν :=
  match old with
  | some old => if near old value then old else value
  | none => value

/-- The store after a write. -/
def write (near : ν → ν → Bool) (m : Store κ ν) : Write κ ν → Store κ ν
  | .put k value => m.put (k, value)
  | .update k value => m.put (k, settle near (m k) value)
  | .remove k => Function.update m k none

variable {near : ν → ν → Bool}

theorem settle_eq_or_near (old : Option ν) (value : ν) :
    settle near old value = value ∨ near (settle near old value) value = true := by
  rcases old with _ | old
  · exact .inl rfl
  · rw [settle]
    split
    · rename_i hnear
      exact .inr hnear
    · exact .inl rfl

theorem pushed_concat (ws : List (Write κ ν)) (w : Write κ ν) :
    pushed (ws ++ [w]) = match w.pair? with
      | some p => (pushed ws).put p
      | none => pushed ws := by
  rw [pushed, List.filterMap_append, replay, List.foldl_append]
  cases w <;> rfl

/-- What a store holds under a key, measured against what it held before the writes and against
the value pushed last. -/
def Lags (near : ν → ν → Bool) (start now last : Store κ ν) : Prop :=
  ∀ k held, now k = some held →
    (∃ value, last k = some value ∧ (held = value ∨ near held value = true)) ∨
      (last k = none ∧ start k = some held)

/-- One write: the key it names is compared anew, and the others are as they were. -/
theorem Lags.write {start now last : Store κ ν} (h : Lags near start now last) (w : Write κ ν) :
    Lags near start (now.write near w) (match w.pair? with
      | some p => last.put p
      | none => last) := by
  intro k held hheld
  cases w with
  | put k' value =>
    rw [Store.write, put_apply] at hheld
    simp only [Write.pair?, put_apply]
    split
    · rename_i hk
      rw [if_pos hk, Option.some_inj] at hheld
      exact .inl ⟨value, rfl, .inl hheld.symm⟩
    · rename_i hk
      rw [if_neg hk] at hheld
      exact h k held hheld
  | update k' value =>
    rw [Store.write, put_apply] at hheld
    simp only [Write.pair?, put_apply]
    split
    · rename_i hk
      rw [if_pos hk, Option.some_inj] at hheld
      subst hheld
      exact .inl ⟨value, rfl, settle_eq_or_near _ _⟩
    · rename_i hk
      rw [if_neg hk] at hheld
      exact h k held hheld
  | remove k' =>
    rw [Store.write, Function.update_apply] at hheld
    split at hheld
    · cases hheld
    · exact h k held hheld

/-- **No accumulation.** After any number of writes a store holds values that were pushed last or
are near to those, and for keys nothing was pushed for what it held before. -/
theorem near_pushed (m : Store κ ν) (ws : List (Write κ ν)) :
    Lags near m (ws.foldl (write near) m) (pushed ws) := by
  induction ws using List.reverseRecOn with
  | nil => exact fun k held hheld => .inr ⟨rfl, hheld⟩
  | append_singleton ws w ih =>
    rw [List.foldl_append, pushed_concat]
    exact ih.write w

end Store
