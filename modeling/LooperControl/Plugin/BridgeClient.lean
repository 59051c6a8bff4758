import LooperControl.Plugin.LooperTracker
import LooperControl.Plugin.MessageProtocol

/-!
# `BridgeClient`

The plugin's end of the bridge: it binds a port of its own range, says hello to the first
port of the script's range, and applies the events it receives to the tracker. A call that
sends returns the client and the datagrams that leave.

JUCE's sender is taken to send: the failure of `sendToIPAddress`, of which the code takes no notice,
is left out. A sender that fails because it has never been connected lets nothing leave.

`oscMessageReceived` takes what the JSON parser makes of the first argument. What it does
with a message of the script depends on the event's name alone (`oscMessageReceived_event`).
-/

namespace LooperControl

open MessageProtocol

/-- `PLUGIN_PORT_START`. -/
def pluginPortStart : ℕ := 7010

/-- `SCRIPT_PORT_START`. -/
def scriptPortStart : ℕ := 7011

/-- `BridgeClient`. `receiver` is the port the OSC receiver is bound to, `listening` says
whether the client is registered as its listener. -/
structure BridgeClient where
  tracker : LooperTracker := {}
  receiver : Option ℕ := none
  listening : Bool := false
  localPort : ℕ := 0
  remotePort : ℤ := 0
  connected : Bool := false

namespace BridgeClient

variable (J : Juce)

/-! ### Sending -/

/-- `sendCommand`. -/
def sendCommand (c : BridgeClient) (msg : Message) : List Datagram :=
  if c.connected = false ∨ c.localPort = 0 then []
  else [⟨c.remotePort, "/loopercontrol", messageToJson msg⟩]

/-- `sendSetState`. -/
def sendSetState (uuid trackId targetState : String) (c : BridgeClient) : List Datagram :=
  c.sendCommand (createSetState J uuid trackId targetState)

/-- `sendUndo`. -/
def sendUndo (uuid trackId : String) (c : BridgeClient) : List Datagram :=
  c.sendCommand (createUndo J uuid trackId)

/-- `sendRedo`. -/
def sendRedo (uuid trackId : String) (c : BridgeClient) : List Datagram :=
  c.sendCommand (createRedo J uuid trackId)

/-- `sendSetFeedback`. -/
def sendSetFeedback (uuid trackId : String) (feedbackValue : ℚ) (c : BridgeClient) :
    List Datagram :=
  c.sendCommand (createSetFeedback J uuid trackId feedbackValue)

/-- `sendHello`. -/
def sendHello (uuid : String) (c : BridgeClient) : BridgeClient × List Datagram :=
  let msg := createHello J uuid c.localPort
  let c := { c with remotePort := scriptPortStart }
  (c, c.sendCommand msg)

/-- `bindToPortRange`, on the plugin's ports. Every attempt drops the binding before. -/
def bindToPortRange (free : ℕ → Bool) (c : BridgeClient) : Bool × BridgeClient :=
  match (List.range' pluginPortStart 10).find? free with
  | some port => (true, { c with receiver := some port, localPort := port })
  | none => (false, { c with receiver := none })

/-- `connect`. -/
def connect (free : ℕ → Bool) (uuid : String) (c : BridgeClient) :
    Bool × BridgeClient × List Datagram :=
  match bindToPortRange free c with
  | (false, c) => (false, c, [])
  | (true, c) =>
    (true, sendHello J uuid { c with
      listening := true, connected := true, tracker := c.tracker.setConnected true })

/-- `disconnect`. -/
def disconnect (c : BridgeClient) : BridgeClient :=
  { c with
    listening := false
    receiver := none
    connected := false
    localPort := 0
    remotePort := 0
    tracker := c.tracker.setConnected false }

/-! ### Receiving -/

/-- The text fields of an event's data. -/
def readState (data : Json) : LooperState :=
  { trackId := J.toText (property "track_id" data)
    trackName := J.toText (property "track_name" data)
    deviceId := J.toText (property "device_id" data)
    deviceName := J.toText (property "device_name" data)
    className := J.toText (property "class_name" data)
    state := LooperState.stringToState (J.toText (property "state" data)) }

/-- The counters of an event's data, 0 where they are missing. -/
def readCounter (key : String) (data : Json) : ℤ :=
  if property key data = .null then 0 else J.toInt (property key data)

/-- The state that `handleLooperDiscovered` makes of an event's data. -/
def discoveredState (data : Json) : LooperState :=
  if data.isObj then
    { readState J data with
      feedback := J.toFloat (property "feedback" data)
      reverse := J.toBool (property "reverse" data)
      loopLengthBars := readCounter J "loop_length_bars" data
      cycleCount := readCounter J "cycle_count" data }
  else {}

/-- The state that `handleLooperStateChanged` makes of an event's data. -/
def changedState (data : Json) : LooperState :=
  if data.isObj then
    { readState J data with
      feedback := if property "feedback" data = .null then 1 / 2
        else J.toFloat (property "feedback" data)
      reverse := if property "reverse" data = .null then false
        else J.toBool (property "reverse" data)
      loopLengthBars := readCounter J "loop_length_bars" data
      cycleCount := readCounter J "cycle_count" data }
  else {}

/-- `handleLooperDiscovered`. -/
def handleLooperDiscovered (c : BridgeClient) (event : BridgeEvent) : BridgeClient :=
  { c with tracker := c.tracker.addLooper (discoveredState J event.data) }

/-- `handleLooperStateChanged`. -/
def handleLooperStateChanged (c : BridgeClient) (event : BridgeEvent) : BridgeClient :=
  let state := changedState J event.data
  { c with tracker := c.tracker.updateState state.trackId state }

/-- `handleLooperRemoved`. -/
def handleLooperRemoved (c : BridgeClient) (event : BridgeEvent) : BridgeClient :=
  if event.data.isObj then
    { c with tracker := c.tracker.removeLooper (J.toText (property "track_id" event.data)) }
  else c

/-- `handleResult`. Whether it reports success makes no difference. -/
def handleResult (c : BridgeClient) (data : Json) : BridgeClient :=
  if data.isObj ∧ J.isInt (property "port" data) then
    { c with remotePort := J.toInt (property "port" data) }
  else c

/-- `handleEvent`. -/
def handleEvent (c : BridgeClient) (event : BridgeEvent) : BridgeClient :=
  if event.event = "looper_discovered" then handleLooperDiscovered J c event
  else if event.event = "looper_state_changed" then handleLooperStateChanged J c event
  else if event.event = "looper_removed" then handleLooperRemoved J c event
  else if event.event = "result" then handleResult J c event.data
  else c

/-- `oscMessageReceived`, on what the parser makes of the first argument. -/
def oscMessageReceived (c : BridgeClient) (parsed : Json) : BridgeClient :=
  let event := jsonToEvent J parsed
  if event.event ≠ "" then handleEvent J c event
  else
    let responseMsg := jsonToMessage J parsed
    if responseMsg.name ≠ "" then handleResult J c responseMsg.args else c

/-- An argument of an OSC message that reaches the plugin: a string, or one of another type. -/
inductive OscValue
  | string (text : String)
  | other

/-- `oscMessageReceived`, from the arguments of the message on. `getString` gives an empty text for
an argument that is no string. -/
def oscArgumentsReceived (c : BridgeClient) : List OscValue → BridgeClient
  | [] => c
  | .string text :: _ => oscMessageReceived J c (J.parse text)
  | .other :: _ => oscMessageReceived J c (J.parse "")

/-- What a received text is taken for. -/
inductive Dispatch
  | event (event : BridgeEvent)
  | response (resultEvent : BridgeEvent)
  | nothing
  deriving DecidableEq

/-- How `oscMessageReceived` decides: for an event if there is one, else for a response. -/
def dispatch (parsed : Json) : Dispatch :=
  let event := jsonToEvent J parsed
  if event.event ≠ "" then .event event
  else
    let responseMsg := jsonToMessage J parsed
    if responseMsg.name ≠ "" then
      .response { event := "result", data := responseMsg.args, version := responseMsg.version }
    else .nothing

/-- What `oscMessageReceived` does then. -/
def handle (c : BridgeClient) : Dispatch → BridgeClient
  | .event event => handleEvent J c event
  | .response resultEvent => handleResult J c resultEvent.data
  | .nothing => c

/-- Datagrams received in order. -/
def deliver (c : BridgeClient) (sent : List Datagram) : BridgeClient :=
  sent.foldl (fun c d => oscMessageReceived J c (received d.payload)) c

/-! ### What a received message does -/

variable {J}

/-- A received text is handled as what it is taken for. -/
theorem oscMessageReceived_eq_handle (c : BridgeClient) (parsed : Json) :
    oscMessageReceived J c parsed = handle J c (dispatch J parsed) := by
  rw [oscMessageReceived, dispatch]
  dsimp only
  split
  · rfl
  split
  · rfl
  · rfl

/-- A message with an event name is handled as that event. -/
theorem oscMessageReceived_event (c : BridgeClient) {parsed : Json} {name : String}
    (hobj : parsed.isObj = true) (hname : parsed.get? "event" = some (.str name))
    (hne : name ≠ "") :
    oscMessageReceived J c parsed = handleEvent J c
      { uuid := J.toText (property "uuid" parsed)
        event := name
        data := property "data" parsed
        version := J.toInt (property "version" parsed) } := by
  have hevent : jsonToEvent J parsed =
      { uuid := J.toText (property "uuid" parsed)
        event := name
        data := property "data" parsed
        version := J.toInt (property "version" parsed) } := by
    rw [jsonToEvent, if_pos hobj]
    have hprop : property "event" parsed = .str name := by rw [property, hname, Option.getD_some]
    rw [hprop, J.toText_str]
  rw [oscMessageReceived, hevent]
  simp only
  rw [if_pos hne]

/-- What a received message leaves alone. -/
structure SameConnection (c d : BridgeClient) : Prop where
  receiver : d.receiver = c.receiver
  listening : d.listening = c.listening
  localPort : d.localPort = c.localPort
  connected : d.connected = c.connected
  shown : d.tracker.connected = c.tracker.connected

theorem sameConnection_handleResult (c : BridgeClient) (data : Json) :
    SameConnection c (handleResult J c data) := by
  rw [handleResult]
  split <;> exact ⟨rfl, rfl, rfl, rfl, rfl⟩

theorem sameConnection_handleEvent (c : BridgeClient) (event : BridgeEvent) :
    SameConnection c (handleEvent J c event) := by
  unfold handleEvent
  split
  · exact ⟨rfl, rfl, rfl, rfl, LooperTracker.addLooper_connected _ _⟩
  split
  · exact ⟨rfl, rfl, rfl, rfl, LooperTracker.updateState_connected _ _ _⟩
  split
  · rw [handleLooperRemoved]
    split
    · exact ⟨rfl, rfl, rfl, rfl, LooperTracker.removeLooper_connected _ _⟩
    · exact ⟨rfl, rfl, rfl, rfl, rfl⟩
  split
  · exact sameConnection_handleResult c event.data
  · exact ⟨rfl, rfl, rfl, rfl, rfl⟩

/-- **No message touches the connection**: neither the binding nor a flag. -/
theorem sameConnection_oscMessageReceived (c : BridgeClient) (parsed : Json) :
    SameConnection c (oscMessageReceived J c parsed) := by
  rw [oscMessageReceived]
  split
  · exact sameConnection_handleEvent c _
  · dsimp only
    split
    · exact sameConnection_handleResult c _
    · exact ⟨rfl, rfl, rfl, rfl, rfl⟩

/-- A result leaves the tracker alone. -/
@[simp] theorem tracker_handleResult (c : BridgeClient) (data : Json) :
    (handleResult J c data).tracker = c.tracker := by
  rw [handleResult]
  split <;> rfl

theorem deliver_append (c : BridgeClient) (l₁ l₂ : List Datagram) :
    deliver J c (l₁ ++ l₂) = deliver J (deliver J c l₁) l₂ := List.foldl_append

/-- What JSON cannot carry is not received. -/
theorem oscMessageReceived_null (c : BridgeClient) : oscMessageReceived J c .null = c := rfl

end BridgeClient

end LooperControl
