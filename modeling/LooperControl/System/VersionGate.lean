import LooperControl.System.Responses
import LooperControl.System.StatePush

/-!
# Messages of another protocol version

Both sides put a version into every message. The script compares it before anything else, and a
message of another version changes nothing there (`scriptGate`). The plugin reads the version of
what it receives and never looks at it: `versionGate_iff` says which messages of another version
change nothing in a client, and those are the ones that would change nothing with the right
version either.
-/

namespace LooperControl

open MessageProtocol BridgeClient LooperControlSurface BridgeServer Script

/-- An object without a version, or with the number of another one. -/
structure ForeignVersion (message : Json) : Prop where
  isObj : message.isObj = true
  version : message.get? "version" = none ∨
    ∃ n : ℤ, message.get? "version" = some (.int n) ∧ n ≠ protocolVersion

/-- Between two states of the script a message has changed nothing, and the one thing that may have
been sent is the answer that the versions do not match. -/
structure ScriptGate (s t : Script) (message : Json) : Prop where
  pluginPort : t.server.pluginPort = s.server.pluginPort
  discoveredLoopers : t.discoveredLoopers = s.discoveredLoopers
  attached : t.live.attached = s.live.attached
  paramListeners : t.discovery.paramListeners = s.discovery.paramListeners
  song : t.live.song = s.live.song
  assigned : t.live.assigned = s.live.assigned
  sent : t.sent = s.sent ++ responses s.server (uuidOf message) versionMismatch

/-- Between two states of a client a message has changed nothing of the shadow state and nothing
of the connection. -/
structure PluginGate (c d : BridgeClient) : Prop where
  loopers : d.tracker.loopers = c.tracker.loopers
  remotePort : d.remotePort = c.remotePort
  connected : d.connected = c.connected
  shown : d.tracker.connected = c.tracker.connected

/-- The script does not take a message of another version for a hello or a command. -/
theorem ForeignVersion.not_current {message : Json} (h : ForeignVersion message) :
    ¬pyEqInt ((message.get? "version").getD (.int 0)) protocolVersion = true := by
  rcases h.version with hnone | ⟨n, hsome, hne⟩
  · rw [hnone]
    decide
  · rw [hsome]
    simpa [pyEqInt] using hne

/-- **The script's gate**: a message of another version is answered, and nothing else. -/
theorem scriptGate {message : Json} (h : ForeignVersion message) (s : Script)
    (rest : List OscArg) : ScriptGate s (s.handled (.json message :: rest)) message := by
  rw [handled, exec_onOscMessage, exec_handleMessage_mismatch h.isObj
    (fun hhello => h.not_current hhello.1) fun hcommand => h.not_current hcommand.1]
  exact ⟨rfl, rfl, rfl, rfl, rfl, rfl, rfl⟩

variable (J : Juce)

/-- The message says nothing new: its event is a discovery of the very entry that is held, a change
that compares equal to it, the removal of an id without an entry, a result without a new port, or
none of these. -/
def SaysNothingNew (c : BridgeClient) (parsed : Json) : Prop :=
  let event := jsonToEvent J parsed
  let samePort (data : Json) : Prop := data.isObj = true → J.isInt (property "port" data) = true →
    J.toInt (property "port" data) = c.remotePort
  if event.event = "looper_discovered" then
    c.tracker.getLooper (discoveredState J event.data).trackId =
      some (discoveredState J event.data)
  else if event.event = "looper_state_changed" then
    ∃ old, c.tracker.getLooper (changedState J event.data).trackId = some old ∧
      old.same (changedState J event.data) = true
  else if event.event = "looper_removed" then
    event.data.isObj = true →
      c.tracker.getLooper (J.toText (property "track_id" event.data)) = none
  else if event.event = "result" then samePort event.data
  else if event.event = "" ∧ (jsonToMessage J parsed).name ≠ "" then
    samePort (jsonToMessage J parsed).args
  else True

variable {J}

/-- What a result leaves of the port. -/
theorem remotePort_handleResult_iff {c : BridgeClient} {data : Json} :
    (handleResult J c data).remotePort = c.remotePort ↔
      (data.isObj = true → J.isInt (property "port" data) = true →
        J.toInt (property "port" data) = c.remotePort) := by
  rw [handleResult]
  split
  · rename_i h
    exact ⟨fun heq _ _ => heq, fun heq => heq h.1 h.2⟩
  · rename_i h
    exact iff_of_true rfl fun hobj hint => absurd ⟨hobj, hint⟩ h

/-- **What a message changes** of the shadow state and the remembered port: nothing, exactly when it
says nothing new. -/
theorem saysNothingNew_iff {c : BridgeClient} {parsed : Json} :
    SaysNothingNew J c parsed ↔
      (oscMessageReceived J c parsed).tracker.loopers = c.tracker.loopers ∧
        (oscMessageReceived J c parsed).remotePort = c.remotePort := by
  rw [SaysNothingNew, oscMessageReceived]
  generalize jsonToEvent J parsed = event
  dsimp only
  by_cases hempty : event.event = ""
  · simp only [hempty, ne_eq, not_true_eq_false, if_false, true_and]
    simp only [String.reduceEq, if_false]
    split
    · rw [remotePort_handleResult_iff, tracker_handleResult]
      exact (and_iff_right rfl).symm
    · exact iff_of_true trivial ⟨rfl, rfl⟩
  · rw [if_pos hempty, handleEvent]
    -- One event name after the other.
    split
    · exact (LooperTracker.addLooper_loopers_eq_iff.symm.trans (and_iff_left rfl).symm)
    split
    · exact (LooperTracker.updateState_loopers_eq_iff.symm.trans (and_iff_left rfl).symm)
    split
    · rw [handleLooperRemoved]
      split
      · rename_i hobj
        rw [forall_prop_of_true hobj, ← LooperTracker.removeLooper_loopers_eq_iff]
        exact (and_iff_left rfl).symm
      · rename_i hobj
        exact iff_of_true (fun h => absurd h hobj) ⟨rfl, rfl⟩
    split
    · rw [remotePort_handleResult_iff, tracker_handleResult]
      exact (and_iff_right rfl).symm
    · rw [if_neg fun h => hempty h.1]
      exact iff_of_true trivial ⟨rfl, rfl⟩

/-- **The version gate.** A message of another version changes nothing on either side exactly when
it has nothing new to say to the plugin. -/
theorem versionGate_iff {message : Json} (h : ForeignVersion message) (s : Script)
    (rest : List OscArg) (c : BridgeClient) :
    (ScriptGate s (s.handled (.json message :: rest)) message ∧
      PluginGate c (oscMessageReceived J c message)) ↔ SaysNothingNew J c message := by
  have hsame := sameConnection_oscMessageReceived (J := J) c message
  rw [saysNothingNew_iff]
  constructor
  · rintro ⟨-, hgate⟩
    exact ⟨hgate.loopers, hgate.remotePort⟩
  · rintro ⟨hloopers, hport⟩
    exact ⟨scriptGate h s rest, hloopers, hport, hsame.connected, hsame.shown⟩

/-- A discovery of a later protocol version. -/
def foreignDiscovery : Json :=
  .obj [("uuid", .null), ("event", .str "looper_discovered"),
    ("data", (pushedInfo "Playing").toJson), ("version", .int 2)]

theorem foreignVersion_foreignDiscovery : ForeignVersion foreignDiscovery :=
  ⟨rfl, .inr ⟨2, rfl, by decide⟩⟩

/-- A client that holds the entry already is not changed by it. -/
theorem versionGate_known :
    let c := oscMessageReceived .plain {} (discoveredEvent (pushedInfo "Playing"))
    ScriptGate (begun .empty) ((begun .empty).handled [.json foreignDiscovery]) foreignDiscovery ∧
      PluginGate c (oscMessageReceived .plain c foreignDiscovery) := by
  refine (versionGate_iff foreignVersion_foreignDiscovery (begun .empty) [] _).mpr ?_
  rw [SaysNothingNew]
  dsimp only
  rw [if_pos (by decide +kernel)]
  decide +kernel

/-- **The plugin takes what it does not understand**: a discovery of another version is entered. -/
theorem not_versionGate : ¬∀ (J : Juce) (s : Script) (rest : List OscArg) (c : BridgeClient)
    (message : Json), Reachable s → ForeignVersion message →
      ScriptGate s (s.handled (.json message :: rest)) message ∧
        PluginGate c (oscMessageReceived J c message) := by
  intro h
  obtain ⟨-, hgate⟩ := h .plain (begun .empty) [] {} foreignDiscovery
    (.of_init (started_begun rfl)) foreignVersion_foreignDiscovery
  have hentry : (oscMessageReceived .plain {} foreignDiscovery).tracker.getLooper "0" =
      some ((pushedInfo "Playing").toState .plain) := by
    decide +kernel
  rw [LooperTracker.getLooper, hgate.loopers] at hentry
  cases hentry

end LooperControl
