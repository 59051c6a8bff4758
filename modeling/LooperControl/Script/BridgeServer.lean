import LooperControl.Script.State

/-!
# `BridgeServer`

The server binds the first free port of its range, remembers one plugin port, and answers
every OSC message inside a `try` that catches everything. Two descriptions of what it sends
are kept apart: `sendToPlugin` follows the code with its three ways of not sending, and
`Script.emit` says what comes of it.

* `exec_sendToPlugin`: sending never raises, and adds a datagram exactly when the server has
  a socket and the remembered value is a port (`BridgeServer.target`).
* `exec_onOscMessage_hello`, `exec_onOscMessage_mismatch`, `exec_onOscMessage_command`: the
  three ways a message that is an object is handled.

A result or an event is taken to fit into a datagram.
-/

namespace LooperControl

open Effect

/-- `PROTOCOL_VERSION`. -/
def protocolVersion : ℤ := 1

/-- `OSC_PREFIX`. -/
def oscPrefix : String := "/loopercontrol"

/-- `DEFAULT_PORT`. -/
def defaultPort : ℕ := 7011

/-- The callback `on_command(ns, nsid, name, args)`, which returns a dictionary or `None`. -/
abbrev CommandHandler : Type := Json → Json → Json → Json → Py (Option Json)

/-- The port that `sendto` accepts a value as: an integer in range, `True` among them. -/
def asPort? : Json → Option ℤ
  | .int n => if 0 < n ∧ n < 65536 then some n else none
  | .bool b => if b then some 1 else none
  | _ => none

/-- The message of an event. -/
def eventMessage (eventType : String) (data : Json) : Json :=
  .obj [("uuid", .null), ("event", .str eventType), ("data", data),
    ("version", .int protocolVersion)]

/-- The message of a response. -/
def responseMessage (requestUuid data : Json) : Json :=
  .obj [("uuid", requestUuid), ("event", .str "result"), ("data", data),
    ("version", .int protocolVersion)]

namespace BridgeServer

/-- `start`: the first port of the range that can be bound. -/
def start (free : ℕ → Bool) (b : BridgeServer) : BridgeServer :=
  match (List.range' b.port 10).find? free with
  | some port => { b with server := some port, port := port }
  | none => b

/-- `send_to_plugin`. Without a socket, and with a value that is no port, `sendto` raises
inside its `try`. -/
def sendToPlugin (address : String) (data : Json) : Py Unit := do
  let s ← get
  if s.server.pluginPort = .null then pure ()
  else
    match s.server.server, asPort? s.server.pluginPort with
    | some _, some port => modify fun s => { s with sent := s.sent ++ [⟨port, address, data⟩] }
    | _, _ => pure ()

/-- `send_event`. -/
def sendEvent (eventType : String) (data : Json) : Py Unit :=
  sendToPlugin (oscPrefix ++ "/event") (eventMessage eventType data)

/-- `send_response`. -/
def sendResponse (requestUuid data : Json) : Py Unit :=
  sendToPlugin (oscPrefix ++ "/response") (responseMessage requestUuid data)

/-- The data of the answer to a message of another protocol version. -/
def versionMismatch : Json := .obj [("success", .bool false), ("error", .str "version_mismatch")]

/-- The data of the answer to a hello. -/
def helloResult (port : ℕ) : Json :=
  .obj [("success", .bool true), ("version", .int protocolVersion), ("port", .int port)]

/-- The `hello` branch of `_on_osc_message`. -/
def handleHello (onCommand : Option CommandHandler) (message msgArgs : Json) : Py Unit := do
  let pluginPort ← lift (pyGet msgArgs "port" (.int 7010))
  modify fun s => { s with server := { s.server with pluginPort := pluginPort } }
  let requestUuid ← lift (pyItem message "uuid")
  let s ← get
  sendResponse requestUuid (helloResult s.server.port)
  match onCommand with
  | some handler => do
    let _ ← handler (.str "system") (.str "") (.str "hello") msgArgs
    pure ()
  | none => pure ()

/-- The body of the `try` in `_on_osc_message`, from the decoded message on. -/
def handleMessage (onCommand : Option CommandHandler) (message : Json) : Py Unit := do
  let version ← lift (pyGet message "version" (.int 0))
  if pyEqInt version protocolVersion then do
    let ns ← lift (pyGet message "ns" (.str ""))
    let nsid ← lift (pyGet message "nsid" (.str ""))
    let name ← lift (pyGet message "name" (.str ""))
    let msgArgs ← lift (pyGet message "args" (.obj []))
    if name = .str "hello" ∧ ns = .str "system" then handleHello onCommand message msgArgs
    else
      match onCommand with
      | some handler => do
        match ← handler ns nsid name msgArgs with
        | some result => do
          let requestUuid ← lift (pyGet message "uuid" .null)
          sendResponse requestUuid result
        | none => pure ()
      | none => pure ()
  else do
    let requestUuid ← lift (pyGet message "uuid" .null)
    sendResponse requestUuid versionMismatch

/-- `_on_osc_message`. The first argument is decoded, the others are ignored, and nothing
that is raised gets out. -/
def onOscMessage (onCommand : Option CommandHandler) (args : List OscArg) : Py Unit :=
  tryCatch (match args with
    | [] => pure ()
    | .other :: _ => throw (.valueError "not a JSON text")
    | .json message :: _ => handleMessage onCommand message) fun _ => pure ()

/-- Where messages to the plugin go: nowhere without a socket or without a port. -/
def target (b : BridgeServer) : Option ℤ := b.server.bind fun _ => asPort? b.pluginPort

end BridgeServer

/-! ### Sending -/

/-- The script after a message to the plugin. -/
def Script.emit (s : Script) (address : String) (data : Json) : Script :=
  { s with sent := s.sent ++ (s.server.target.map fun port => ⟨port, address, data⟩).toList }

/-- Nothing but sending: the script is as before, with more datagrams sent. -/
def OnlySent (s t : Script) : Prop := ∃ new, t = { s with sent := s.sent ++ new }

theorem onlySent_emit (s : Script) (address : String) (data : Json) :
    OnlySent s (s.emit address data) := ⟨_, rfl⟩

namespace BridgeServer

/-- Sending never raises. -/
@[simp] theorem exec_sendToPlugin (address : String) (data : Json) (s : Script) :
    exec (sendToPlugin address data) s = (.ok (), s.emit address data) := by
  have hnone : s.server.target = none → s.emit address data = s := by
    intro h
    rw [Script.emit, h]
    simp
  rw [sendToPlugin, exec_bind, exec_get]
  simp only
  -- The three ways of not sending: no port, no socket, a value that is no port.
  by_cases hnull : s.server.pluginPort = .null
  · rw [if_pos hnull, exec_pure, hnone]
    rw [target, hnull]
    cases s.server.server <;> rfl
  · rw [if_neg hnull]
    rcases hs : s.server.server with _ | socket
    · rw [hnone (by rw [target, hs]; rfl)]
      rfl
    · rcases hp : asPort? s.server.pluginPort with _ | port
      · rw [hnone (by rw [target, hs, Option.bind_some, hp])]
        rfl
      · have htarget : s.server.target = some port := by rw [target, hs, Option.bind_some, hp]
        rw [Script.emit, htarget]
        rfl

@[simp] theorem exec_sendEvent (eventType : String) (data : Json) (s : Script) :
    exec (sendEvent eventType data) s =
      (.ok (), s.emit (oscPrefix ++ "/event") (eventMessage eventType data)) :=
  exec_sendToPlugin _ _ s

@[simp] theorem exec_sendResponse (requestUuid data : Json) (s : Script) :
    exec (sendResponse requestUuid data) s =
      (.ok (), s.emit (oscPrefix ++ "/response") (responseMessage requestUuid data)) :=
  exec_sendToPlugin _ _ s

/-! ### `_on_osc_message` -/

/-- The script after a hello has announced a value as the plugin's port. -/
def announce (s : Script) (pluginPort : Json) : Script :=
  { s with server := { s.server with pluginPort := pluginPort } }

/-- The script after a response. -/
def respond (s : Script) (requestUuid data : Json) : Script :=
  s.emit (oscPrefix ++ "/response") (responseMessage requestUuid data)

/-- A message is a hello of this protocol version. -/
def isHello (message : Json) : Prop :=
  pyEqInt ((message.get? "version").getD (.int 0)) protocolVersion = true ∧
    (message.get? "name").getD (.str "") = .str "hello" ∧
      (message.get? "ns").getD (.str "") = .str "system"

/-- A message is one for the command handler. -/
def isCommand (message : Json) : Prop :=
  pyEqInt ((message.get? "version").getD (.int 0)) protocolVersion = true ∧
    ¬((message.get? "name").getD (.str "") = .str "hello" ∧
      (message.get? "ns").getD (.str "") = .str "system")

instance (message : Json) : Decidable (isHello message) :=
  inferInstanceAs (Decidable (_ ∧ _ ∧ _))

instance (message : Json) : Decidable (isCommand message) :=
  inferInstanceAs (Decidable (_ ∧ ¬_))

/-- The arguments of a message. -/
def argsOf (message : Json) : Json := (message.get? "args").getD (.obj [])

/-- What a request is answered under. -/
def uuidOf (message : Json) : Json := (message.get? "uuid").getD .null

variable {onCommand : Option CommandHandler} {message : Json} {s : Script}

/-- Whatever is raised on the way, `_on_osc_message` returns in the state of the raise. -/
theorem exec_onOscMessage (onCommand : Option CommandHandler) (message : Json)
    (rest : List OscArg) (s : Script) :
    exec (onOscMessage onCommand (.json message :: rest)) s =
      (.ok (), (exec (handleMessage onCommand message) s).2) := by
  rw [onOscMessage, exec_tryCatch]
  -- The catch-all only logs.
  rcases exec (handleMessage onCommand message) s with ⟨_ | _, _⟩ <;> rfl

/-- Without an argument that decodes nothing happens. -/
theorem exec_onOscMessage_undecoded (onCommand : Option CommandHandler) {args : List OscArg}
    (h : ∀ message rest, args ≠ .json message :: rest) (s : Script) :
    exec (onOscMessage onCommand args) s = (.ok (), s) := by
  rcases args with _ | ⟨_ | _, rest⟩
  · rfl
  · exact absurd rfl (h _ _)
  · rfl

/-- A message that is no object raises before it does anything. -/
theorem exec_handleMessage_not_isObj (h : message.isObj = false) :
    (exec (handleMessage onCommand message) s).2 = s := by
  obtain ⟨e, he⟩ := pyGet_of_not_isObj h "version" (.int 0)
  rw [handleMessage, exec_bind, exec_lift, he]

/-- A message of another version is answered with an error. -/
theorem exec_handleMessage_mismatch (hobj : message.isObj = true) (hhello : ¬isHello message)
    (hcommand : ¬isCommand message) :
    exec (handleMessage onCommand message) s =
      (.ok (), respond s (uuidOf message) versionMismatch) := by
  have hversion : ¬pyEqInt ((message.get? "version").getD (.int 0)) protocolVersion = true := by
    intro hv
    exact hcommand ⟨hv, fun h => hhello ⟨hv, h⟩⟩
  rw [handleMessage, exec_bind, exec_lift, pyGet_of_isObj hobj]
  simp only
  rw [if_neg hversion, exec_bind, exec_lift, pyGet_of_isObj hobj]
  exact exec_sendResponse _ _ s

theorem exec_handleMessage_hello (hobj : message.isObj = true) (h : isHello message) :
    exec (handleMessage onCommand message) s =
      exec (handleHello onCommand message (argsOf message)) s := by
  rw [handleMessage]
  simp only [exec_bind, exec_lift, pyGet_of_isObj hobj]
  rw [if_pos h.1]
  simp only [exec_bind, exec_lift]
  rw [if_pos h.2]
  rfl

theorem exec_handleMessage_command {handler : CommandHandler} (hobj : message.isObj = true)
    (h : isCommand message) :
    exec (handleMessage (some handler) message) s =
      match exec (handler ((message.get? "ns").getD (.str ""))
        ((message.get? "nsid").getD (.str "")) ((message.get? "name").getD (.str ""))
          (argsOf message)) s with
      | (.ok (some result), t) => (.ok (), respond t (uuidOf message) result)
      | (.ok none, t) => (.ok (), t)
      | (.error e, t) => (.error e, t) := by
  rw [handleMessage, argsOf, uuidOf]
  simp only [exec_bind, exec_lift, pyGet_of_isObj hobj]
  rw [if_pos h.1]
  simp only [exec_bind, exec_lift]
  rw [if_neg h.2]
  simp only [exec_bind]
  generalize exec (handler _ _ _ _) s = outcome
  rcases outcome with ⟨_ | _ | result, t⟩
  · rfl
  · rfl
  · simp only [exec_bind, exec_lift]
    exact exec_sendResponse _ _ t

/-- A hello without an object of arguments raises before it does anything. -/
theorem exec_handleHello_not_isObj {msgArgs : Json} (h : msgArgs.isObj = false) :
    (exec (handleHello onCommand message msgArgs) s).2 = s := by
  obtain ⟨e, he⟩ := pyGet_of_not_isObj h "port" (.int 7010)
  unfold handleHello
  rw [exec_bind, exec_lift, he]

/-- A hello without a uuid sets the plugin port and then raises. -/
theorem exec_handleHello_no_uuid {msgArgs : Json} (hargs : msgArgs.isObj = true)
    (huuid : message.get? "uuid" = none) :
    (exec (handleHello onCommand message msgArgs) s).2 =
      announce s ((msgArgs.get? "port").getD (.int 7010)) := by
  have hitem : pyItem message "uuid" = .error (.keyError (pyRepr "uuid")) := by
    rw [pyItem, huuid]
  unfold handleHello
  simp only [exec_bind, exec_lift, pyGet_of_isObj hargs, exec_modify, hitem]
  rfl

/-- A hello that can be answered sets the plugin port, sends the result there, and then runs
the command handler, whose result is dropped. -/
theorem exec_handleHello {handler : CommandHandler} {msgArgs requestUuid : Json}
    (hargs : msgArgs.isObj = true) (huuid : message.get? "uuid" = some requestUuid) :
    (exec (handleHello (some handler) message msgArgs) s).2 =
      (exec (handler (.str "system") (.str "") (.str "hello") msgArgs)
        (respond (announce s ((msgArgs.get? "port").getD (.int 7010))) requestUuid
          (helloResult s.server.port))).2 := by
  have hitem : pyItem message "uuid" = .ok requestUuid := by rw [pyItem, huuid]
  unfold handleHello
  rw [respond, announce]
  simp only [exec_bind, exec_lift, pyGet_of_isObj hargs, exec_modify, hitem, exec_get,
    exec_sendResponse]
  generalize exec (handler _ _ _ _) _ = outcome
  rcases outcome with ⟨_ | _, _⟩ <;> rfl

end BridgeServer

end LooperControl
