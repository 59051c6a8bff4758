import LooperControl.Lib.Tolerant
import Mathlib.Algebra.Order.Ring.Rat
import Mathlib.Tactic.Common
import Std.Data.ExtTreeMap

/-!
# `LooperState` and `LooperTracker`

The plugin's shadow state: a map from track ids to the states last pushed for them, kept in
key order, a connection flag, and one change callback. A callback is known by the identity
of the object it captures, and `notified` lists the calls, so that what a call observes and
whom it reaches can be stated.

Numbers are exact: `feedback` is the number a float stands for.
-/

namespace LooperControl

/-- `LooperState::State`. -/
inductive State
  | stopped
  | recording
  | playing
  | overdubbing
  deriving DecidableEq

/-- `LooperState`, with the defaults of its members. -/
structure LooperState where
  trackId : String := ""
  trackName : String := ""
  deviceId : String := ""
  deviceName : String := ""
  className : String := ""
  state : State := .stopped
  feedback : ℚ := 1 / 2
  reverse : Bool := false
  loopLengthBars : ℤ := 0
  cycleCount : ℤ := 0
  deriving DecidableEq

namespace LooperState

/-- `operator==`: feedback is compared up to a tolerance. -/
def same (a b : LooperState) : Bool :=
  a.trackId == b.trackId && a.trackName == b.trackName && a.deviceId == b.deviceId &&
    a.deviceName == b.deviceName && a.className == b.className && a.state == b.state &&
      decide (|a.feedback - b.feedback| < 1 / 1000) && a.reverse == b.reverse &&
        a.loopLengthBars == b.loopLengthBars && a.cycleCount == b.cycleCount

/-- `stateToString`. -/
def stateToString : State → String
  | .stopped => "Stopped"
  | .recording => "Recording"
  | .playing => "Playing"
  | .overdubbing => "Overdubbing"

/-- `stringToState`. -/
def stringToState (s : String) : State :=
  if s = "Recording" then .recording
  else if s = "Playing" then .playing
  else if s = "Overdubbing" then .overdubbing
  else .stopped

/-- States that compare equal differ in nothing but feedback, and there by little. -/
theorem eq_of_same {a b : LooperState} (h : a.same b = true) :
    a = { b with feedback := a.feedback } ∧ |a.feedback - b.feedback| < 1 / 1000 := by
  obtain ⟨trackId, trackName, deviceId, deviceName, className, state, feedback, reverse,
    loopLengthBars, cycleCount⟩ := a
  simp only [same, Bool.and_eq_true, beq_iff_eq, decide_eq_true_eq] at h
  obtain ⟨⟨⟨⟨⟨⟨⟨⟨⟨rfl, rfl⟩, rfl⟩, rfl⟩, rfl⟩, rfl⟩, hfeedback⟩, rfl⟩, rfl⟩, rfl⟩ := h
  exact ⟨rfl, hfeedback⟩

theorem same_self (a : LooperState) : a.same a = true := by
  simp only [same, beq_self_eq_true, sub_self, abs_zero, Bool.and_true, Bool.true_and,
    decide_eq_true_eq]
  decide +kernel

end LooperState

/-- `LooperTracker`. A registered callback is the identity of the object it captures. -/
structure LooperTracker where
  loopers : Std.ExtTreeMap String LooperState compare := ∅
  connected : Bool := false
  onChange : Option ℕ := none
  notified : List ℕ := []

namespace LooperTracker

/-- `notifyChange`. -/
def notifyChange (t : LooperTracker) : LooperTracker :=
  { t with notified := t.notified ++ t.onChange.toList }

/-- `addLooper`. -/
def addLooper (t : LooperTracker) (state : LooperState) : LooperTracker :=
  { t with loopers := t.loopers.insert state.trackId state }.notifyChange

/-- `removeLooper`. -/
def removeLooper (t : LooperTracker) (trackId : String) : LooperTracker :=
  if trackId ∈ t.loopers then { t with loopers := t.loopers.erase trackId }.notifyChange else t

/-- `updateState`. -/
def updateState (t : LooperTracker) (trackId : String) (newState : LooperState) : LooperTracker :=
  match t.loopers[trackId]? with
  | some old =>
    if old.same newState then t
    else { t with loopers := t.loopers.insert trackId newState }.notifyChange
  | none => { t with loopers := t.loopers.insert trackId newState }.notifyChange

/-- `setConnected`. -/
def setConnected (t : LooperTracker) (connected : Bool) : LooperTracker :=
  if t.connected = connected then t else { t with connected := connected }.notifyChange

/-- `incrementCycleCount`. -/
def incrementCycleCount (t : LooperTracker) (trackId : String) : LooperTracker :=
  match t.loopers[trackId]? with
  | some old =>
    let state := { old with cycleCount := old.cycleCount + 1 }
    { t with loopers := t.loopers.insert trackId state }.notifyChange
  | none => t

/-- `onStateChange`. -/
def onStateChange (t : LooperTracker) (owner : ℕ) : LooperTracker :=
  { t with onChange := some owner }

/-- The entry under a track id: `getLooper`. -/
def getLooper (t : LooperTracker) (trackId : String) : Option LooperState := t.loopers[trackId]?

/-- `getAllLoopers`: the entries in the order of their keys. -/
def getAllLoopers (t : LooperTracker) : List LooperState := t.loopers.toList.map Prod.snd

/-- `getLooperCount`, of a map whose size fits into an `int`. -/
def getLooperCount (t : LooperTracker) : ℕ := t.loopers.size

@[simp] theorem notifyChange_loopers (t : LooperTracker) : t.notifyChange.loopers = t.loopers :=
  rfl

@[simp] theorem setConnected_connected (t : LooperTracker) (connected : Bool) :
    (t.setConnected connected).connected = connected := by
  rw [setConnected]
  split
  · assumption
  · rfl

@[simp] theorem setConnected_loopers (t : LooperTracker) (connected : Bool) :
    (t.setConnected connected).loopers = t.loopers := by
  rw [setConnected]
  split <;> rfl

@[simp] theorem addLooper_connected (t : LooperTracker) (state : LooperState) :
    (t.addLooper state).connected = t.connected := rfl

@[simp] theorem removeLooper_connected (t : LooperTracker) (trackId : String) :
    (t.removeLooper trackId).connected = t.connected := by
  rw [removeLooper]
  split <;> rfl

@[simp] theorem updateState_connected (t : LooperTracker) (trackId : String)
    (newState : LooperState) : (t.updateState trackId newState).connected = t.connected := by
  rw [updateState]
  split
  · split <;> rfl
  · rfl

private theorem getElem?_put (m : Std.ExtTreeMap String LooperState compare) (trackId : String)
    (state : LooperState) (k : String) :
    (m.insert trackId state)[k]? = if k = trackId then some state else m[k]? := by
  rw [Std.ExtTreeMap.getElem?_insert]
  by_cases h : trackId = k
  · simp [h]
  · simp [h, Ne.symm h]

theorem getLooper_addLooper (t : LooperTracker) (state : LooperState) (k : String) :
    (t.addLooper state).getLooper k = if k = state.trackId then some state else t.getLooper k :=
  getElem?_put t.loopers state.trackId state k

theorem getLooper_removeLooper (t : LooperTracker) (trackId k : String) :
    (t.removeLooper trackId).getLooper k = if k = trackId then none else t.getLooper k := by
  rw [removeLooper, getLooper, getLooper]
  split
  · rw [notifyChange_loopers, Std.ExtTreeMap.getElem?_erase]
    by_cases h : trackId = k
    · simp [h]
    · simp [h, Ne.symm h]
  · rename_i hmem
    split
    · rename_i hk
      rw [hk]
      exact Std.ExtTreeMap.getElem?_eq_none hmem
    · rfl

theorem getLooper_incrementCycleCount (t : LooperTracker) (trackId k : String) :
    (t.incrementCycleCount trackId).getLooper k = if k = trackId then
      (t.getLooper k).map fun state => { state with cycleCount := state.cycleCount + 1 }
    else t.getLooper k := by
  simp only [getLooper, incrementCycleCount]
  rcases hold : t.loopers[trackId]? with _ | old
  · dsimp only
    split
    · rename_i hk
      rw [hk, hold]
      rfl
    · rfl
  · dsimp only
    rw [notifyChange_loopers, getElem?_put]
    split
    · rename_i hk
      rw [hk, hold]
      rfl
    · rfl

/-- The entry that an update leaves: the old one, if it compares equal to the one pushed. -/
def updated (old : Option LooperState) (newState : LooperState) : LooperState :=
  match old with
  | some old => if old.same newState then old else newState
  | none => newState

/-- An update changes the entry under its own id and no other. -/
theorem getLooper_updateState (t : LooperTracker) (trackId : String) (newState : LooperState)
    (k : String) : (t.updateState trackId newState).getLooper k =
      if k = trackId then some (updated (t.getLooper trackId) newState) else t.getLooper k := by
  simp only [getLooper, updateState]
  rcases hold : t.loopers[trackId]? with _ | old
  · exact getElem?_put _ _ _ _
  · rw [updated]
    dsimp only
    by_cases hsame : old.same newState = true
    · rw [if_pos hsame, if_pos hsame]
      split
      · rename_i hk
        rw [hk, hold]
      · rfl
    · rw [if_neg hsame, if_neg hsame]
      exact getElem?_put _ _ _ _

/-- An update settles between the old entry and the new one. -/
theorem updated_eq_settle (old : Option LooperState) (newState : LooperState) :
    updated old newState = Store.settle LooperState.same old newState := by
  rcases old with _ | old <;> rfl

/-- After an update the entry compares equal to the state pushed, if it is not that state. -/
theorem updated_eq_or_same (old : Option LooperState) (newState : LooperState) :
    updated old newState = newState ∨ (updated old newState).same newState = true := by
  rw [updated_eq_settle]
  exact Store.settle_eq_or_near old newState

/-! ### When nothing changes -/

theorem loopers_eq_iff {t u : LooperTracker} :
    t.loopers = u.loopers ↔ ∀ k, t.getLooper k = u.getLooper k := by
  constructor
  · intro h k
    rw [getLooper, getLooper, h]
  · exact fun h => Std.ExtTreeMap.ext_getElem? @h

theorem addLooper_loopers_eq_iff {t : LooperTracker} {state : LooperState} :
    (t.addLooper state).loopers = t.loopers ↔ t.getLooper state.trackId = some state := by
  rw [loopers_eq_iff]
  simp only [getLooper_addLooper]
  constructor
  · intro h
    rw [← h, if_pos rfl]
  · intro h k
    split
    · rename_i hk
      rw [hk, h]
    · rfl

theorem updateState_loopers_eq_iff {t : LooperTracker} {trackId : String}
    {newState : LooperState} : (t.updateState trackId newState).loopers = t.loopers ↔
      ∃ old, t.getLooper trackId = some old ∧ old.same newState = true := by
  rw [loopers_eq_iff]
  simp only [getLooper_updateState]
  constructor
  · intro h
    have hentry := h trackId
    rw [if_pos rfl] at hentry
    refine ⟨_, hentry.symm, ?_⟩
    rcases updated_eq_or_same (t.getLooper trackId) newState with heq | hsame
    · rw [heq]
      exact LooperState.same_self newState
    · exact hsame
  · rintro ⟨old, hold, hsame⟩ k
    split
    · rename_i hk
      rw [hk, hold, updated]
      exact congrArg some (if_pos hsame)
    · rfl

theorem removeLooper_loopers_eq_iff {t : LooperTracker} {trackId : String} :
    (t.removeLooper trackId).loopers = t.loopers ↔ t.getLooper trackId = none := by
  rw [loopers_eq_iff]
  simp only [getLooper_removeLooper]
  constructor
  · intro h
    rw [← h, if_pos rfl]
  · intro h k
    split
    · rename_i hk
      rw [hk, h]
    · rfl

end LooperTracker

end LooperControl
