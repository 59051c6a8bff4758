import LooperControl.Plugin.LooperTracker

/-!
# `TransportButton`

The button remembers one click time. A click that comes soon after it stops the looper and puts the
time back to the epoch, and any other click asks for the next state of the cycle. Times are counted
in milliseconds from the epoch.
-/

namespace LooperControl

/-- `doubleClickMs_`. -/
def doubleClickMs : ℤ := 400

/-- `TransportButton`. `onClick` says whether the callback is set. -/
structure TransportButton where
  trackId : String := ""
  state : State := .stopped
  lastClickTime : ℤ := 0
  onClick : Bool := false
  deriving DecidableEq

namespace TransportButton

/-- `setState`. -/
def setState (newState : State) (b : TransportButton) : TransportButton :=
  if b.state ≠ newState then { b with state := newState } else b

/-- `setTrackId`. -/
def setTrackId (trackId : String) (b : TransportButton) : TransportButton :=
  { b with trackId := trackId }

/-- `getNextState`. -/
def getNextState : State → String
  | .stopped => LooperState.stateToString .recording
  | .recording => LooperState.stateToString .playing
  | .playing => LooperState.stateToString .overdubbing
  | .overdubbing => LooperState.stateToString .playing

/-- `onClick(trackId_, targetState)`: what the callback is called with, if there is one. -/
def click (targetState : String) (b : TransportButton) : List (String × String) :=
  if b.onClick then [(b.trackId, targetState)] else []

/-- `mouseDown` at a time: the button afterwards, and what its callback has been called with. -/
def mouseDown (now : ℤ) (b : TransportButton) : TransportButton × List (String × String) :=
  let elapsed := now - b.lastClickTime
  if elapsed < doubleClickMs then
    ({ b with lastClickTime := 0 }, b.click (LooperState.stateToString .stopped))
  else ({ b with lastClickTime := now }, b.click (getNextState b.state))

/-- The state is the new one, whether the button had it already or not. -/
theorem setState_eq (newState : State) (b : TransportButton) :
    b.setState newState = { b with state := newState } := by
  rw [setState]
  split
  · rfl
  · rename_i h
    rw [← of_not_not h]

end TransportButton

end LooperControl
