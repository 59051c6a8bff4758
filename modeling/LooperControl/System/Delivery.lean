import LooperControl.Plugin.BridgeClient
import LooperControl.Script.Dispatcher
import LooperControl.Script.Steps

/-!
# Whether a command reaches its handler

The plugin sends every message to the address `/loopercontrol`, and the server registers its
handler for `/loopercontrol/*`. The two do not fit in either direction of the dispatcher's
comparison: `not_invokedOnce`. An address that goes on after the prefix is handled, as the
answers of the script would be (`dispatched_below`).
-/

namespace LooperControl

open BridgeServer LooperControlSurface

/-- The dispatcher that `BridgeServer.__init__` sets up. -/
def BridgeServer.dispatcher (onCommand : Option CommandHandler) :
    Dispatcher (List OscArg → Py Unit) :=
  Dispatcher.register {} (oscPrefix ++ "/*") (onOscMessage onCommand)

/-- The script after an OSC message has arrived at its socket: every handler that the dispatcher
finds is invoked. -/
def Script.dispatched (s : Script) (d : Datagram) : Script :=
  (((dispatcher (some handleCommand)).handlersForAddress d.address).getD []).foldl
    (fun s handler => (Effect.exec (handler [.json d.payload]) s).2) s

/-- What handles the addresses of ordinary characters. -/
theorem handlers_dispatcher (onCommand : Option CommandHandler) {address : String}
    (h : Dispatcher.Ordinary address.toList) :
    (dispatcher onCommand).handlersForAddress address =
      some (if (oscPrefix ++ "/").toList <+: address.toList then [onOscMessage onCommand]
        else []) := by
  have haddr : oscPrefix ++ "/*" = (oscPrefix ++ "/") ++ "*" := by decide
  rw [dispatcher, haddr]
  exact Dispatcher.handlersForAddress_eq (by decide) h

/-- The plugin's address is not handled. -/
theorem handlers_oscPrefix (onCommand : Option CommandHandler) :
    (dispatcher onCommand).handlersForAddress oscPrefix = some [] := by
  rw [handlers_dispatcher onCommand (by decide), if_neg (by decide)]

/-- A message that a client sends makes the script's handler run once, on its text. -/
def InvokedOnce (onCommand : Option CommandHandler) (c : BridgeClient) (msg : Message) : Prop :=
  ∃ d, c.sendCommand msg = [d] ∧
    (dispatcher onCommand).handlersForAddress d.address = some [onOscMessage onCommand] ∧
      d.payload = MessageProtocol.messageToJson msg

/-- What a client sends goes to the prefix. -/
theorem address_of_mem_sendCommand {c : BridgeClient} {msg : Message} {d : Datagram}
    (h : d ∈ c.sendCommand msg) : d.address = oscPrefix := by
  rw [BridgeClient.sendCommand] at h
  split at h
  · cases h
  · obtain rfl := List.mem_singleton.mp h
    rfl

/-- **No message reaches the handler**, whatever the client and the message. -/
theorem not_invokedOnce (onCommand : Option CommandHandler) (c : BridgeClient) (msg : Message) :
    ¬InvokedOnce onCommand c msg := by
  rintro ⟨d, hsent, hfound, -⟩
  have hmem : d ∈ c.sendCommand msg := by
    rw [hsent]
    exact List.mem_singleton_self d
  rw [address_of_mem_sendCommand hmem, handlers_oscPrefix, Option.some_inj] at hfound
  cases hfound

/-- A client that is connected says hello, and the handler is not invoked. -/
theorem not_invokedOnce_hello : ¬∀ (J : Juce) (onCommand : Option CommandHandler)
    (c : BridgeClient) (uuid : String), c.connected = true → c.localPort ≠ 0 →
      InvokedOnce onCommand c (MessageProtocol.createHello J uuid c.localPort) := by
  intro h
  obtain ⟨d, hsent, hfound, -⟩ := h .plain (some handleCommand)
    { receiver := some 7010, listening := true, localPort := 7010, remotePort := 7011
      connected := true } "u" rfl (by decide)
  have haddress : d.address = oscPrefix := by
    rw [← List.head_eq_of_cons_eq hsent]
    rfl
  rw [haddress, handlers_oscPrefix, Option.some_inj] at hfound
  cases hfound

/-- Nothing that a plugin sends changes the script. -/
theorem dispatched_sendCommand {c : BridgeClient} {msg : Message} {d : Datagram}
    (h : d ∈ c.sendCommand msg) (s : Script) : s.dispatched d = s := by
  rw [Script.dispatched, address_of_mem_sendCommand h, handlers_oscPrefix]
  rfl

/-- A message to an address below the prefix is handled. -/
theorem dispatched_below {d : Datagram} (h : Dispatcher.Ordinary d.address.toList)
    (hbelow : (oscPrefix ++ "/").toList <+: d.address.toList) (s : Script) :
    s.dispatched d = s.handled [.json d.payload] := by
  rw [Script.dispatched, handlers_dispatcher _ h, if_pos hbelow]
  rfl

end LooperControl
