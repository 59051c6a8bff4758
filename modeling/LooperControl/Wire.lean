import LooperControl.Lib.Json

/-!
# What travels between script and plugin

Both sides send OSC messages over UDP on the loopback interface: one string argument, the
JSON text of the message. JSON texts are identified with the values they stand for, with
one difference between the two sides: Python's `json.dumps` spells infinities and NaN out,
and the plugin's parser rejects such a text as a whole (`received`).
-/

namespace LooperControl

/-- An OSC message on its way: the UDP port it is sent to, the OSC address, and the JSON
value its string argument stands for. -/
structure Datagram where
  port : ℤ
  address : String
  payload : Json
  deriving DecidableEq

/-- An argument of an OSC message that reaches the script: a string with the JSON text of a
value, or anything that `json.loads` rejects. -/
inductive OscArg
  | json (value : Json)
  | other

/-- What the plugin's JSON parser makes of a text written by `json.dumps`: an empty value
when the text spells a number JSON has no numeral for. -/
def received (payload : Json) : Json := if payload.isFinite then payload else .null

theorem received_of_isFinite {payload : Json} (h : payload.isFinite = true) :
    received payload = payload := if_pos h

end LooperControl
