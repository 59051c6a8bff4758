import Mathlib.Data.List.Basic

/-!
# Lists with repeated keys

The items of a list are looked up by a key that several of them may have. A writer that takes the
first item of a key and a reader that takes the last one look at the same item only if there is no
other.

* `named_modify_first`: writing to the first item of a key replaces the head of the items with it.
* `last_modify_first`: what the reader finds afterwards.
-/

namespace Repeated

variable {α κ ν : Type} {key : α → κ} {value : α → ν}

/-- The first item of a list with a key, and its place. -/
structure FirstAt (key : α → κ) (l : List α) (n : ℕ) (a : α) (k : κ) : Prop where
  get : l[n]? = some a
  key_eq : key a = k
  first : ∀ m b, m < n → l[m]? = some b → key b ≠ k

variable {l : List α} {n : ℕ} {a : α} {k : κ}

/-- Behind an item with another key the first one is one place nearer. -/
theorem FirstAt.of_cons {b : α} (h : FirstAt key (b :: l) (n + 1) a k) :
    key b ≠ k ∧ FirstAt key l n a k :=
  ⟨h.first 0 b (Nat.succ_pos n) rfl, h.get, h.key_eq,
    fun m c hm hc => h.first (m + 1) c (Nat.succ_lt_succ hm) hc⟩

variable [DecidableEq κ]

/-- The values of the items with a key, in order. -/
def valuesOf (key : α → κ) (value : α → ν) (k : κ) (l : List α) : List ν :=
  (l.filter fun a => key a = k).map value

theorem valuesOf_cons (k : κ) (a : α) (l : List α) : valuesOf key value k (a :: l) =
    if key a = k then value a :: valuesOf key value k l else valuesOf key value k l := by
  rw [valuesOf, List.filter_cons]
  by_cases h : key a = k <;> simp [h, valuesOf]

/-- **Writing to the first item of a key** replaces the head of its values. -/
theorem valuesOf_modify_first (h : FirstAt key l n a k) {f : α → α} (hf : ∀ b, key (f b) = key b) :
    valuesOf key value k (l.modify n f) = value (f a) :: (valuesOf key value k l).tail := by
  induction l generalizing n with
  | nil => cases h.get
  | cons b l ih =>
    rcases n with _ | n
    · obtain rfl := Option.some.inj h.get
      rw [List.modify_zero_cons, valuesOf_cons, valuesOf_cons, hf, if_pos h.key_eq, if_pos h.key_eq]
      rfl
    · obtain ⟨hb, h⟩ := h.of_cons
      rw [List.modify_succ_cons, valuesOf_cons, valuesOf_cons, if_neg hb, if_neg hb]
      exact ih h

/-- Writing to an item of one key leaves the items of another alone. -/
theorem valuesOf_modify_of_ne (hget : l[n]? = some a) {k' : κ} (hne : key a ≠ k') {f : α → α}
    (hf : ∀ b, key (f b) = key b) :
    valuesOf key value k' (l.modify n f) = valuesOf key value k' l := by
  induction l generalizing n with
  | nil => cases hget
  | cons b l ih =>
    rcases n with _ | n
    · obtain rfl := Option.some.inj hget
      rw [List.modify_zero_cons, valuesOf_cons, valuesOf_cons, hf, if_neg hne, if_neg hne]
    · rw [List.modify_succ_cons, valuesOf_cons, valuesOf_cons, ih hget]

/-- **First written, last read.** The reader finds the last of the further items, if there is one,
and what was written otherwise. -/
theorem last_modify_first (h : FirstAt key l n a k) {f : α → α} (hf : ∀ b, key (f b) = key b) :
    (valuesOf key value k (l.modify n f)).getLast? =
      some ((valuesOf key value k l).tail.getLast?.getD (value (f a))) := by
  rw [valuesOf_modify_first h hf, List.getLast?_cons]

/-- The reader agrees with the writer exactly if the last of the further items shows the same. -/
theorem shown_last_modify_first {μ : Type} (value : α → ν) (h : FirstAt key l n a k) (f : α → α)
    (hf : ∀ b, key (f b) = key b) (shown : ν → μ) (default : μ) :
    ((valuesOf key value k (l.modify n f)).getLast?.map shown).getD default =
        shown (value (f a)) ↔
      ∀ v, (valuesOf key value k l).tail.getLast? = some v → shown v = shown (value (f a)) := by
  rw [last_modify_first h hf, Option.map_some, Option.getD_some]
  rcases (valuesOf key value k l).tail.getLast? with _ | v
  · simp
  · simp

end Repeated
