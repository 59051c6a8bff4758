import Mathlib.Algebra.Order.Ring.Int
import Mathlib.Tactic.Common

/-!
# Retrying with a capped exponential backoff

A program tries again and again until it succeeds or gives up. After its failures it waits: `first`
after the first one, twice as long after each further one, and never longer than `cap`.

* `delay_mono`: the delays never decrease.
* `Kept` is what such a policy promises of the attempts made. A number of failures keeps it, and so
  does a success behind them (`kept_failures`, `kept_success`).
-/

namespace Backoff

variable (first cap : ℤ)

/-- The delay behind the failure with the number `k`, counted from 0. -/
def delay (k : ℕ) : ℤ := min (first * 2 ^ k) cap

/-- An attempt: whether it succeeded, and the delay after which the next one is scheduled. -/
structure Attempt where
  succeeded : Bool
  delay : Option ℤ
  deriving DecidableEq

/-- A number of attempts that all failed. -/
def failures (n : ℕ) : List Attempt :=
  (List.range n).map fun k => ⟨false, some (delay first cap k)⟩

/-- The promises of the policy, with at most `max` attempts. -/
structure Kept (max : ℕ) (attempts : List Attempt) : Prop where
  bounded : attempts.length ≤ max
  last : ∀ before a after, attempts = before ++ a :: after → a.succeeded = true → after = []
  scheduled : ∀ k a, (attempts.filter fun a => !a.succeeded)[k]? = some a →
    a.delay = some (delay first cap k)
  ordered : (attempts.filterMap Attempt.delay).Pairwise (· ≤ ·)

variable {first cap}

theorem delay_zero (h : first ≤ cap) : delay first cap 0 = first := by
  rw [delay, pow_zero, mul_one, min_eq_left h]

/-- A capped delay stays where it is. -/
theorem delay_of_le (h : 0 ≤ first) {j k : ℕ} (hjk : j ≤ k) (hcap : cap ≤ first * 2 ^ j) :
    delay first cap k = cap :=
  min_eq_right (hcap.trans (mul_le_mul_of_nonneg_left (pow_le_pow_right₀ (by decide) hjk) h))

/-- **Delays never decrease.** -/
theorem delay_mono (h : 0 ≤ first) {j k : ℕ} (hjk : j ≤ k) :
    delay first cap j ≤ delay first cap k :=
  min_le_min_right cap (mul_le_mul_of_nonneg_left (pow_le_pow_right₀ (by decide) hjk) h)

theorem failures_succ (n : ℕ) : failures first cap (n + 1) =
    failures first cap n ++ [⟨false, some (delay first cap n)⟩] := by
  rw [failures, List.range_succ, List.map_append]
  rfl

@[simp] theorem length_failures (n : ℕ) : (failures first cap n).length = n := by
  rw [failures, List.length_map, List.length_range]

theorem filter_failures (n : ℕ) :
    (failures first cap n).filter (fun a => !a.succeeded) = failures first cap n := by
  refine List.filter_eq_self.mpr fun a ha => ?_
  obtain ⟨k, -, rfl⟩ := List.mem_map.mp ha
  rfl

theorem filterMap_failures (n : ℕ) :
    (failures first cap n).filterMap Attempt.delay = (List.range n).map (delay first cap) := by
  rw [failures, List.filterMap_map]
  exact List.filterMap_eq_map' ▸ rfl

theorem not_succeeded_of_mem {n : ℕ} {a : Attempt} (h : a ∈ failures first cap n) :
    a.succeeded ≠ true := by
  obtain ⟨k, -, rfl⟩ := List.mem_map.mp h
  exact Bool.false_ne_true

theorem delay_of_getElem? {n k : ℕ} {a : Attempt} (h : (failures first cap n)[k]? = some a) :
    a.delay = some (delay first cap k) := by
  rw [failures, List.getElem?_map] at h
  obtain ⟨j, hj, rfl⟩ := Option.map_eq_some_iff.mp h
  obtain ⟨_, heq⟩ := List.getElem?_eq_some_iff.mp hj
  rw [List.getElem_range] at heq
  rw [heq]

/-- The delays of a number of failures. -/
theorem ordered_failures (h : 0 ≤ first) (n : ℕ) :
    ((failures first cap n).filterMap Attempt.delay).Pairwise (· ≤ ·) := by
  rw [filterMap_failures, List.pairwise_map]
  exact List.pairwise_lt_range.imp fun hlt => delay_mono h hlt.le

/-- **Failures** keep the policy, up to the greatest number of attempts. -/
theorem kept_failures (h : 0 ≤ first) {max n : ℕ} (hn : n ≤ max) :
    Kept first cap max (failures first cap n) where
  bounded := by rwa [length_failures]
  last before a after heq ha := by
    have hmem : a ∈ failures first cap n := by
      rw [heq]
      exact List.mem_append_right _ List.mem_cons_self
    exact absurd ha (not_succeeded_of_mem hmem)
  scheduled k a hk := by
    rw [filter_failures] at hk
    exact delay_of_getElem? hk
  ordered := ordered_failures h n

/-- **A success** behind failures keeps the policy too. -/
theorem kept_success (h : 0 ≤ first) {max n : ℕ} (hn : n < max) :
    Kept first cap max (failures first cap n ++ [⟨true, none⟩]) where
  bounded := by
    rw [List.length_append, length_failures]
    exact hn
  last before a after heq ha := by
    rcases List.eq_nil_or_concat after with rfl | ⟨rest, b, rfl⟩
    · rfl
    · -- Something is behind `a`, which is then one of the failures.
      rw [List.concat_eq_append, ← List.cons_append, ← List.append_assoc] at heq
      have hmem : a ∈ failures first cap n := by
        rw [(List.append_inj' heq rfl).1]
        exact List.mem_append_right _ List.mem_cons_self
      exact absurd ha (not_succeeded_of_mem hmem)
  scheduled k a hk := by
    rw [List.filter_append, filter_failures] at hk
    refine delay_of_getElem? (n := n) ?_
    rwa [show List.filter (fun a : Attempt => !a.succeeded) [⟨true, none⟩] = [] from rfl,
      List.append_nil] at hk
  ordered := by
    rw [List.filterMap_append]
    exact (List.append_nil _).symm ▸ ordered_failures h n

end Backoff
