import LooperControl.Plugin.ReconnectTimer

/-!
# Reconnecting

`startReconnectTimer` makes an attempt at once, and every tick of the timer makes another one until
one succeeds or fifty have failed. What is free on the machine may be different at every callback,
so that any sequence of failures and successes can happen.

`run_bounded` says that a run is an exponential backoff as `Backoff.Kept` has it, and that it leaves
nothing behind. Its invariant is `Standing`: a run that is not over has had failures only.
-/

namespace LooperControl

namespace Reconnecting

variable (J : Juce)

/-- What a callback meets: the ports that are free, and the id of the hello it would send. -/
structure Surroundings where
  free : ℕ → Bool
  uuid : String

/-- The timer is started, and will tick. -/
def ticking (r : Reconnecting) : Bool := r.reconnectTimer.join.isSome

/-- A run from `startReconnectTimer` on, after a number of ticks. A timer that is gone does not
tick. -/
def run (around : ℕ → Surroundings) (r : Reconnecting) : ℕ → Option Reconnected
  | 0 => startReconnectTimer J (around 0).free (around 0).uuid r
  | n + 1 =>
    match run around r n with
    | none => none
    | some before =>
      if before.state.ticking then
        (onReconnectTimer J (around (n + 1)).free (around (n + 1)).uuid before.state).map fun now =>
          { state := now.state
            attempts := before.attempts ++ now.attempts
            sent := before.sent ++ now.sent }
      else some before

/-! ### The delay -/

/-- The loop, from a delay that has been doubled some times and is not capped yet. -/
theorem delayLoop_eq (i k : ℕ) (h : initialReconnectDelayMs * 2 ^ k ≤ 30000) :
    delayLoop i (Backoff.delay initialReconnectDelayMs 30000 k) =
      some (Backoff.delay initialReconnectDelayMs 30000 (k + i)) := by
  induction i generalizing k with
  | zero => rfl
  | succ i ih =>
    have hdelay : Backoff.delay initialReconnectDelayMs 30000 k = initialReconnectDelayMs * 2 ^ k :=
      min_eq_left h
    have hdouble : Backoff.delay initialReconnectDelayMs 30000 k * 2 =
        initialReconnectDelayMs * 2 ^ (k + 1) := by
      rw [hdelay, pow_succ, mul_assoc]
    rw [delayLoop, if_neg (by omega)]
    by_cases hcap : Backoff.delay initialReconnectDelayMs 30000 k * 2 > 30000
    · -- The break. All later delays are the cap as well.
      have hlater : Backoff.delay initialReconnectDelayMs 30000 (k + (i + 1)) = 30000 :=
        Backoff.delay_of_le (j := k + 1) (by decide) (by omega) (by omega)
      rw [if_pos hcap, hlater]
    · have hnext : Backoff.delay initialReconnectDelayMs 30000 (k + 1) =
          initialReconnectDelayMs * 2 ^ (k + 1) := min_eq_left (by omega)
      rw [if_neg hcap, hdouble, ← hnext, ih (k + 1) (by omega), Nat.add_right_comm k 1 i]
      rfl

/-- **The delay** is computed without overflow, however many attempts have failed. -/
theorem delayLoop_initial (k : ℕ) : delayLoop k initialReconnectDelayMs =
    some (min (500 * 2 ^ k) 30000) := by
  have h := delayLoop_eq k 0 (by decide)
  rwa [Nat.zero_add, Backoff.delay_zero (by decide)] at h

/-! ### One callback -/

variable {J}

/-- A callback that comes after fifty failures ends the run. -/
theorem onReconnectTimer_last {r : Reconnecting} (h : r.reconnectAttempt = maxReconnectAttempts)
    (free : ℕ → Bool) (uuid : String) :
    onReconnectTimer J free uuid r = some { state := r.stopReconnectTimer } := by
  rw [onReconnectTimer, if_pos h.ge]

/-- An attempt that succeeds ends the run, and one that fails sets the timer, if there is one. -/
theorem onReconnectTimer_attempt {r : Reconnecting} (h : r.reconnectAttempt < maxReconnectAttempts)
    {interval : Option ℤ} (htimer : r.reconnectTimer = some interval) (free : ℕ → Bool)
    (uuid : String) : ∃ now, onReconnectTimer J free uuid r = some now ∧
      ((now.attempts = [⟨true, none⟩] ∧ now.state.reconnectTimer = none ∧
          now.state.reconnectAttempt = 0) ∨
        ∃ delayMs, delayMs = Backoff.delay initialReconnectDelayMs 30000 r.reconnectAttempt ∧
          now.attempts = [⟨false, some delayMs⟩] ∧
          now.state.reconnectTimer = some (some delayMs) ∧
          now.state.reconnectAttempt = r.reconnectAttempt + 1) := by
  rw [onReconnectTimer, if_neg h.not_ge, delayLoop_initial]
  rcases BridgeClient.connect J free uuid r.client with ⟨_ | _, client, sent⟩
  · refine ⟨_, rfl, .inr ⟨_, rfl, ?_⟩⟩
    simp [startTimer, htimer, Backoff.delay, initialReconnectDelayMs]
  · exact ⟨_, rfl, .inl ⟨rfl, rfl, rfl⟩⟩

/-! ### The whole run -/

/-- Where a run stands after a number of ticks: it goes on after failures, and then the timer is set
to the delay behind the last of them, or it is over and has left nothing behind. -/
inductive Standing (n : ℕ) (attempts : List Backoff.Attempt) (state : Reconnecting) : Prop
  | waiting (hn : n < maxReconnectAttempts)
      (failed : attempts = Backoff.failures initialReconnectDelayMs 30000 (n + 1))
      (timer : state.reconnectTimer =
        some (some (Backoff.delay initialReconnectDelayMs 30000 n)))
      (attempt : state.reconnectAttempt = n + 1)
  | ended (made : attempts = Backoff.failures initialReconnectDelayMs 30000 maxReconnectAttempts ∨
        ∃ k < maxReconnectAttempts,
          attempts = Backoff.failures initialReconnectDelayMs 30000 k ++ [⟨true, none⟩])
      (timer : state.reconnectTimer = none) (attempt : state.reconnectAttempt = 0)

/-- **The step lemma**, for the callbacks that make an attempt: `k` attempts have failed before. -/
theorem standing_attempt {r : Reconnecting} {k : ℕ} (hk : k < maxReconnectAttempts)
    (hattempt : r.reconnectAttempt = k) {interval : Option ℤ}
    (htimer : r.reconnectTimer = some interval) (free : ℕ → Bool) (uuid : String) :
    ∃ now, onReconnectTimer J free uuid r = some now ∧ Standing k
      (Backoff.failures initialReconnectDelayMs 30000 k ++ now.attempts) now.state := by
  obtain ⟨now, hnow, hcase⟩ := onReconnectTimer_attempt (hattempt ▸ hk) htimer free uuid
  refine ⟨now, hnow, ?_⟩
  rcases hcase with ⟨hattempts, hgone, hzero⟩ | ⟨delayMs, rfl, hattempts, hset, hnext⟩
  · exact .ended (.inr ⟨k, hk, by rw [hattempts]⟩) hgone hzero
  · rw [hattempt] at hattempts hset hnext
    exact .waiting hk (by rw [hattempts, Backoff.failures_succ]) hset hnext

/-- Every run stands somewhere. -/
theorem standing_run (around : ℕ → Surroundings) (r : Reconnecting) (n : ℕ) :
    ∃ now, run J around r n = some now ∧ Standing n now.attempts now.state := by
  induction n with
  | zero =>
    exact standing_attempt (k := 0) (r := { r.stopReconnectTimer with
      reconnectAttempt := 0, reconnectTimer := some none }) (by decide) rfl rfl _ _
  | succ n ih =>
    obtain ⟨before, hbefore, hstanding⟩ := ih
    rw [run, hbefore]
    dsimp only
    cases hstanding with
    | waiting hn hattempts htimer hattempt =>
      have hticking : before.state.ticking = true := by rw [ticking, htimer]; rfl
      rw [if_pos hticking, hattempts]
      rcases Nat.lt_or_eq_of_le (Nat.succ_le_of_lt hn) with hlt | heq
      · obtain ⟨now, hnow, hstanding⟩ := standing_attempt (J := J) hlt hattempt htimer
          (around (n + 1)).free (around (n + 1)).uuid
        rw [hnow]
        exact ⟨_, rfl, hstanding⟩
      · -- This is the tick after the last failure.
        have hlast : n + 1 = maxReconnectAttempts := heq
        rw [onReconnectTimer_last (hattempt.trans hlast), hlast]
        exact ⟨_, rfl, .ended (.inl (List.append_nil _)) rfl rfl⟩
    | ended hattempts htimer hattempt =>
      have hticking : before.state.ticking = false := by rw [ticking, htimer]; rfl
      rw [hticking, if_neg Bool.false_ne_true]
      exact ⟨before, rfl, .ended hattempts htimer hattempt⟩

/-- What holds of a run after a number of ticks. -/
structure Bounded (n : ℕ) (now : Reconnected) : Prop where
  /-- It waits behind a failed attempt, for a tick after the delay of that attempt, or is over. -/
  standing : Standing n now.attempts now.state
  kept : Backoff.Kept initialReconnectDelayMs 30000 maxReconnectAttempts now.attempts
  /-- While the run goes on, the timer is set to the delay behind the last attempt. -/
  set : now.state.ticking = true →
    ∃ a, now.attempts.getLast? = some a ∧ now.state.reconnectTimer = some a.delay
  /-- When it is over, nothing is left of it. -/
  clean : now.state.ticking = false →
    now.state.reconnectTimer = none ∧ now.state.reconnectAttempt = 0
  ends : maxReconnectAttempts ≤ n → now.state.ticking = false

theorem Standing.bounded {n : ℕ} {now : Reconnected}
    (h : Standing n now.attempts now.state) : Bounded n now := by
  have hstanding := h
  cases h with
  | waiting hn hattempts htimer hattempt =>
    have hticking : now.state.ticking = true := by rw [ticking, htimer]; rfl
    refine ⟨hstanding, ?_, fun _ => ?_, fun h => ?_, fun h => absurd hn h.not_gt⟩
    · rw [hattempts]
      exact Backoff.kept_failures (by decide) hn
    · rw [hattempts, Backoff.failures_succ, List.getLast?_concat]
      exact ⟨_, rfl, htimer⟩
    · rw [hticking] at h
      cases h
  | ended hattempts htimer hattempt =>
    have hticking : now.state.ticking = false := by rw [ticking, htimer]; rfl
    refine ⟨hstanding, ?_, fun h => ?_, fun _ => ⟨htimer, hattempt⟩, fun _ => hticking⟩
    · rcases hattempts with hattempts | ⟨k, hk, hattempts⟩
      · rw [hattempts]
        exact Backoff.kept_failures (by decide) le_rfl
      · rw [hattempts]
        exact Backoff.kept_success (by decide) hk
    · rw [hticking] at h
      cases h

/-- **Reconnecting is bounded**, whatever a client has been through before and whatever its attempts
meet: the delays are computed without overflow, and after any number of ticks the run so far is a
backoff of at most fifty attempts. While all of them have failed it waits for the next tick, set to
the delay of the last one, and when it is over it leaves neither a timer nor a count behind. -/
theorem run_bounded (around : ℕ → Surroundings) (r : Reconnecting) :
    (∀ k, delayLoop k initialReconnectDelayMs = some (min (500 * 2 ^ k) 30000)) ∧
      ∀ n, ∃ now, run J around r n = some now ∧ Bounded n now := by
  refine ⟨delayLoop_initial, fun n => ?_⟩
  obtain ⟨now, hnow, hstanding⟩ := standing_run (J := J) around r n
  exact ⟨now, hnow, hstanding.bounded⟩

/-- A port is free from the third attempt on. -/
example : ((run .plain (fun n => ⟨fun _ => 2 ≤ n, "u"⟩) {} 9).map Reconnected.attempts) =
    some [⟨false, some 500⟩, ⟨false, some 1000⟩, ⟨true, none⟩] := by
  decide +kernel

end Reconnecting

end LooperControl
