import LooperControl.Lib.Backoff
import LooperControl.Plugin.BridgeClient

/-!
# The reconnect timer of a `BridgeClient`

A client that has lost its connection tries to connect on the callbacks of a timer, which every
failure sets to a longer delay. `delayMs` is an `int` that is doubled in a loop, so a doubling past
its range is modelled as `none`.
-/

namespace LooperControl

/-- `MAX_RECONNECT_ATTEMPTS`. -/
def maxReconnectAttempts : ℕ := 50

/-- `INITIAL_RECONNECT_DELAY_MS`. -/
def initialReconnectDelayMs : ℤ := 500

/-- A client with its reconnect state: `reconnectTimer_`, with the interval it is started with, and
`reconnectAttempt_`. -/
structure Reconnecting where
  client : BridgeClient := {}
  reconnectTimer : Option (Option ℤ) := none
  reconnectAttempt : ℕ := 0

/-- What callbacks leave behind: the client, the calls of `connect`, each with the delay that the
timer has behind it, and the datagrams that left. -/
structure Reconnected where
  state : Reconnecting
  attempts : List Backoff.Attempt := []
  sent : List Datagram := []

namespace Reconnecting

/-- `stopReconnectTimer`. -/
def stopReconnectTimer (r : Reconnecting) : Reconnecting :=
  { r with reconnectTimer := none, reconnectAttempt := 0 }

/-- `startTimer`, on the timer if there is one. -/
def startTimer (delayMs : ℤ) (r : Reconnecting) : Reconnecting :=
  { r with reconnectTimer := r.reconnectTimer.map fun _ => some delayMs }

/-- The loop over `delayMs`, with the iterations that are left. -/
def delayLoop : ℕ → ℤ → Option ℤ
  | 0, delayMs => some delayMs
  | i + 1, delayMs =>
    let delayMs := delayMs * 2
    if delayMs > 2147483647 then none
    else if delayMs > 30000 then some 30000
    else delayLoop i delayMs

variable (J : Juce)

/-- `onReconnectTimer`. -/
def onReconnectTimer (free : ℕ → Bool) (uuid : String) (r : Reconnecting) : Option Reconnected :=
  if r.reconnectAttempt ≥ maxReconnectAttempts then some { state := r.stopReconnectTimer }
  else
    match delayLoop r.reconnectAttempt initialReconnectDelayMs with
    | none => none
    | some delayMs =>
      match BridgeClient.connect J free uuid r.client with
      | (true, client, sent) => some
        { state := { r with client := client }.stopReconnectTimer
          attempts := [⟨true, none⟩]
          sent := sent }
      | (false, client, sent) =>
        let r := { r with client := client, reconnectAttempt := r.reconnectAttempt + 1 }
        let r := r.startTimer delayMs
        some { state := r, attempts := [⟨false, r.reconnectTimer.join⟩], sent := sent }

/-- `startReconnectTimer`. -/
def startReconnectTimer (free : ℕ → Bool) (uuid : String) (r : Reconnecting) :
    Option Reconnected :=
  onReconnectTimer J free uuid { r.stopReconnectTimer with
    reconnectAttempt := 0, reconnectTimer := some none }

end Reconnecting

end LooperControl
