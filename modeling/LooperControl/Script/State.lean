import LooperControl.Lib.Dict
import LooperControl.Script.LiveApi
import LooperControl.Script.Python
import LooperControl.Wire

/-!
# The state of the remote script

The script is three objects that hold each other (`LooperControlSurface`, its
`LooperDiscovery` and its `BridgeServer`) inside a Live process. `Script` is their
fields in one record, together with the part of Live they act on and with everything the
server's socket has sent. A method of any of the three is a `Py` computation over it.
-/

namespace LooperControl

/-- The dictionary `_read_looper_state` returns. -/
structure LooperInfo where
  trackId : String
  trackName : String
  deviceId : String
  deviceName : String
  className : String
  state : String
  feedback : Double
  reverse : Bool
  deriving DecidableEq

/-- The dictionary as the JSON object it is sent as. -/
def LooperInfo.toJson (info : LooperInfo) : Json :=
  .obj [("track_id", .str info.trackId), ("track_name", .str info.trackName),
    ("device_id", .str info.deviceId), ("device_name", .str info.deviceName),
    ("class_name", .str info.className), ("state", .str info.state),
    ("feedback", .float info.feedback), ("reverse", .bool info.reverse)]

/-- A closure made by `start_listening`: a fresh function object that captures the track
and the parameter, and with the parameter its device. -/
structure Listener where
  id : ℕ
  track : ℕ
  param : ParamId
  deriving DecidableEq

/-- The part of Live the script acts on: the song, the listeners attached to parameter
objects (on devices in the song or out of it), the next fresh function object, and every
assignment to a parameter that was stored, oldest first. -/
structure Live where
  song : Song
  attached : List Listener := []
  nextListener : ℕ := 0
  assigned : List (ParamId × Double) := []

/-- The fields of `LooperDiscovery`: the cache `_loopers` and the record
`_param_listeners`, by device identity. -/
structure LooperDiscovery where
  loopers : Dict String LooperInfo := ∅
  paramListeners : Dict ℕ (List Listener) := ∅

/-- The fields of `BridgeServer`: `_port`, the port of the socket `_server` holds, and
`_plugin_port`, which is whatever value the last `hello` carried. -/
structure BridgeServer where
  port : ℕ
  server : Option ℕ := none
  pluginPort : Json := .null

/-- The remote script inside its Live process. -/
structure Script where
  live : Live
  discovery : LooperDiscovery
  server : BridgeServer
  discoveredLoopers : Dict String LooperInfo := ∅
  sent : List Datagram := []

/-- A method of the script: it may raise, and keeps its effects when it does. -/
abbrev Py : Type → Type := Effect PyExc Script

/-- The listeners recorded in `_param_listeners`, over all devices. -/
def LooperDiscovery.recorded (d : LooperDiscovery) : List Listener :=
  d.paramListeners.values.flatten

/-! ### Parameter objects -/

/-- `param.add_value_listener(listener)`. -/
def addValueListener (param : Param) (listener : Listener) : Py Unit :=
  if param.listenable then
    modify fun s => { s with live := { s.live with attached := s.live.attached ++ [listener] } }
  else throw (.liveError "could not add listener")

/-- `param.remove_value_listener(listener)`. -/
def removeValueListener (listener : Listener) : Py Unit :=
  modify fun s => { s with live := { s.live with attached := s.live.attached.erase listener } }

/-- A value stored by the setter of the parameter at a position. -/
def Script.store (s : Script) (i j k : ℕ) (param : Param) (v : Double) : Script :=
  { s with live := { s.live with
    song := s.live.song.setValue i j k v
    assigned := s.live.assigned ++ [(param.id, v)] } }

/-- The listeners attached to a parameter, in the order they were attached. -/
def Live.listenersOf (live : Live) (param : ParamId) : List Listener :=
  live.attached.filter fun listener => listener.param = param

/-- `param.value = v` on the parameter at a position: the setter stores the value and then
calls the listeners of the parameter, each inside its own `try`. -/
def assignValue (notify : Listener → Double → Py Unit) (i j k : ℕ) (param : Param) (v : Double) :
    Py Unit := do
  if param.stores v then
    modify fun s => s.store i j k param v
    let s ← get
    (s.live.listenersOf param.id).forM fun listener =>
      tryCatch (notify listener v) fun _ => pure ()
  else throw (.liveError "value out of range")

open Effect in
/-- An assignment the setter accepts stores the value and runs the listeners, whatever they
raise. -/
theorem exec_assignValue (notify : Listener → Double → Py Unit) (i j k : ℕ) (param : Param)
    (v : Double) (s : Script) (h : param.stores v = true) :
    exec (assignValue notify i j k param v) s =
      (.ok (), (s.live.listenersOf param.id).foldl (fun t l => (exec (notify l v) t).2)
        (s.store i j k param v)) := by
  have hcaught : ∀ l t, exec (tryCatch (notify l v) fun _ => pure ()) t =
      (.ok (), (exec (notify l v) t).2) := by
    intro l t
    rw [exec_tryCatch]
    rcases exec (notify l v) t with ⟨_ | _, _⟩ <;> rfl
  rw [assignValue, if_pos h, exec_bind, exec_modify]
  simp only [exec_bind, exec_get]
  rw [exec_forM_of_ok fun l _ t => by rw [hcaught]]
  simp only [hcaught]
  rfl

open Effect in
/-- An assignment the setter refuses changes nothing. -/
theorem exec_assignValue_refused (notify : Listener → Double → Py Unit) (i j k : ℕ)
    (param : Param) (v : Double) (s : Script) (h : param.stores v = false) :
    exec (assignValue notify i j k param v) s = (.error (.liveError "value out of range"), s) := by
  rw [assignValue, h]
  rfl

end LooperControl
