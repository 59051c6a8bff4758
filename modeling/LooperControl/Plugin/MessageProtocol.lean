import LooperControl.Wire
import Mathlib.Tactic.Common

/-!
# `MessageProtocol`

Messages to the script and events from it, with the conversions between them and JSON.
JUCE is not part of the repository: `Juce` is its JSON parser and the conversions of its
`var`, with what their documentation says about the values this protocol uses, and what a
component does when its size is set. A missing property reads as an empty value, here `null`.
-/

namespace LooperControl

/-- What the plugin uses of JUCE: `JSON::parse`, `String(float)`, the conversions and the
type test of `var`, and the order in which a component is resized. -/
structure Juce where
  /-- `JSON::parse`. -/
  parse : String → Json
  /-- `String(float)`. -/
  floatText : ℚ → String
  /-- `var::toString`. -/
  toText : Json → String
  /-- `static_cast<float>(var)`. -/
  toFloat : Json → ℚ
  /-- `static_cast<bool>(var)`. -/
  toBool : Json → Bool
  /-- `static_cast<int>(var)`. -/
  toInt : Json → ℤ
  /-- `var::isInt`. -/
  isInt : Json → Bool
  /-- `Component::setSize` calls `resized` before it returns, as it is documented to. -/
  resizesAtOnce : Bool
  /-- The text of an object with one integer member is read as that object. -/
  parse_port : ∀ n : ℕ, parse ("\x7b\"port\": " ++ toString n ++ "\x7d") = .obj [("port", .int n)]
  /-- A string converts to itself. -/
  toText_str : ∀ s, toText (.str s) = s
  /-- An integer of 32 bits converts to itself. -/
  toInt_int : ∀ n : ℤ, -2147483648 ≤ n → n < 2147483648 → toInt (.int n) = n
  /-- An integer of 32 bits is an `int`. -/
  isInt_int : ∀ n : ℤ, -2147483648 ≤ n → n < 2147483648 → isInt (.int n) = true

namespace Juce

private def portPrefix : List Char := "\x7b\"port\": ".toList

/-- A stand-in that reads the texts of objects with one integer member, and no others. -/
def plain : Juce where
  parse text :=
    if text.toList.take portPrefix.length = portPrefix then
      .obj [("port", .int (Nat.ofDigitChars 10 (text.toList.drop portPrefix.length).dropLast 0))]
    else .null
  floatText q := toString q.num
  toText
    | .str s => s
    | _ => ""
  toFloat
    | .float (.finite q) => q
    | .int n => n
    | _ => 0
  toBool
    | .bool b => b
    | _ => false
  toInt
    | .int n => n
    | _ => 0
  isInt
    | .int _ => true
    | _ => false
  resizesAtOnce := true
  parse_port n := by
    have htext : ("\x7b\"port\": " ++ toString n ++ "\x7d").toList =
        portPrefix ++ (Nat.toDigits 10 n ++ ['}']) := by
      rw [String.toList_append, String.toList_append, Nat.toString_eq_repr, Nat.toList_repr,
        List.append_assoc]
      rfl
    rw [htext, List.take_left, if_pos rfl, List.drop_left, List.dropLast_concat,
      Nat.ofDigitChars_ten_toDigits]
  toText_str _ := rfl
  toInt_int _ _ _ := rfl
  isInt_int _ _ _ := rfl

end Juce

/-- `Message`. -/
structure Message where
  uuid : String
  ns : String
  nsid : String
  name : String
  args : Json
  version : ℤ := 1
  deriving DecidableEq

/-- `Event`, with the defaults of its members. -/
structure BridgeEvent where
  uuid : String := ""
  event : String := ""
  data : Json := .null
  version : ℤ := 1
  deriving DecidableEq

namespace MessageProtocol

/-- `DynamicObject::getProperty`. -/
def property (key : String) (j : Json) : Json := (j.get? key).getD .null

/-! ### Message creation -/

variable (J : Juce) (uuid : String)

/-- `createHello`. -/
def createHello (localPort : ℕ) : Message :=
  { uuid := uuid, ns := "system", nsid := "", name := "hello"
    args := J.parse ("\x7b\"port\": " ++ toString localPort ++ "\x7d") }

/-- `createDiscover`. -/
def createDiscover (nsid : String) : Message :=
  { uuid := uuid, ns := "looper", nsid := nsid, name := "discover", args := .null }

/-- `createSetState`. -/
def createSetState (trackId targetState : String) : Message :=
  { uuid := uuid, ns := "looper", nsid := trackId, name := "set_state"
    args := J.parse ("\x7b\"track_id\": \"" ++ trackId ++ "\", \"target_state\": \"" ++
      targetState ++ "\"\x7d") }

/-- `createUndo`. -/
def createUndo (trackId : String) : Message :=
  { uuid := uuid, ns := "looper", nsid := trackId, name := "undo"
    args := J.parse ("\x7b\"track_id\": \"" ++ trackId ++ "\"\x7d") }

/-- `createRedo`. -/
def createRedo (trackId : String) : Message :=
  { uuid := uuid, ns := "looper", nsid := trackId, name := "redo"
    args := J.parse ("\x7b\"track_id\": \"" ++ trackId ++ "\"\x7d") }

/-- `createSetFeedback`. -/
def createSetFeedback (trackId : String) (feedbackValue : ℚ) : Message :=
  { uuid := uuid, ns := "looper", nsid := trackId, name := "set_feedback"
    args := J.parse ("\x7b\"track_id\": \"" ++ trackId ++ "\", \"feedback\": " ++
      J.floatText feedbackValue ++ "\x7d") }

/-! ### Serialization -/

/-- `messageToJson`. -/
def messageToJson (msg : Message) : Json :=
  .obj [("uuid", .str msg.uuid), ("ns", .str msg.ns), ("nsid", .str msg.nsid),
    ("name", .str msg.name), ("args", msg.args), ("version", .int msg.version)]

/-- `jsonToMessage`, on what the parser makes of the text. -/
def jsonToMessage (parsed : Json) : Message :=
  if parsed.isObj then
    { uuid := J.toText (property "uuid" parsed)
      ns := J.toText (property "ns" parsed)
      nsid := J.toText (property "nsid" parsed)
      name := J.toText (property "name" parsed)
      args := property "args" parsed
      version := J.toInt (property "version" parsed) }
  else { uuid := "", ns := "", nsid := "", name := "", args := .null }

/-- `eventToJson`. An empty uuid is left out. -/
def eventToJson (evt : BridgeEvent) : Json :=
  .obj ((if evt.uuid ≠ "" then [("uuid", .str evt.uuid)] else []) ++
    [("event", .str evt.event), ("data", evt.data), ("version", .int evt.version)])

/-- `jsonToEvent`, on what the parser makes of the text. -/
def jsonToEvent (parsed : Json) : BridgeEvent :=
  if parsed.isObj then
    { uuid := J.toText (property "uuid" parsed)
      event := J.toText (property "event" parsed)
      data := property "data" parsed
      version := J.toInt (property "version" parsed) }
  else {}

@[simp] theorem property_obj (key : String) (members : List (String × Json)) :
    property key (.obj members) = (Json.get? key (.obj members)).getD .null := rfl

theorem args_createHello (localPort : ℕ) :
    (createHello J uuid localPort).args = .obj [("port", .int localPort)] :=
  J.parse_port localPort

end MessageProtocol

end LooperControl
