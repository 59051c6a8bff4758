import LooperControl.Plugin.BridgeClient
import LooperControl.Plugin.JuceJson

/-!
# Messages and events as texts

Messages and events travel over one channel as JSON texts, and a text does not say which of the two
it is. `comesThrough` says that nothing is lost and nothing confused: each is read back as it was
written, and is dispatched as what it is. What stands inside the arguments or the data does not
matter, keys such as `event` and `name` included.
-/

namespace LooperControl

open MessageProtocol BridgeClient

/-- A message is read back, and received as a response if it has a name. -/
structure Message.ComesThrough (J : Juce) (text : Json → String) (m : Message) : Prop where
  read : jsonToMessage J (J.parse (text (messageToJson m))) = m
  dispatched : m.name ≠ "" → dispatch J (J.parse (text (messageToJson m))) =
    .response { event := "result", data := m.args, version := m.version }
  received : m.name ≠ "" → ∀ c : BridgeClient,
    c.oscArgumentsReceived J [.string (text (messageToJson m))] = c.handleResult J m.args

/-- An event is read back, and received as that event if it has a name. -/
structure BridgeEvent.ComesThrough (J : Juce) (text : Json → String) (e : BridgeEvent) : Prop where
  read : jsonToEvent J (J.parse (text (eventToJson e))) = e
  dispatched : e.event ≠ "" → dispatch J (J.parse (text (eventToJson e))) = .event e
  received : e.event ≠ "" → ∀ c : BridgeClient,
    c.oscArgumentsReceived J [.string (text (eventToJson e))] = c.handleEvent J e

variable {J : Juce} {text : Json → String}

/-! ### Messages -/

/-- The value that stands for a message can be written. -/
theorem representable_messageToJson {m : Message} (hversion : Juce.IsInt m.version)
    (hargs : Juce.Representable m.args) : Juce.Representable (messageToJson m) := by
  have hkeys : ["uuid", "ns", "nsid", "name", "args", "version"].Nodup ∧
      ∀ key ∈ ["uuid", "ns", "nsid", "name", "args", "version"], key ≠ "" := by decide
  refine .obj hkeys.1 hkeys.2 ?_
  simp only [List.forall_mem_cons]
  exact ⟨.str _, .str _, .str _, .str _, hargs, .int hversion.isInt64, nofun⟩

/-- A message is read back from its properties. -/
theorem jsonToMessage_messageToJson {m : Message} (hversion : Juce.IsInt m.version) :
    jsonToMessage J (messageToJson m) = m := by
  have hread : jsonToMessage J (messageToJson m) =
      { uuid := J.toText (.str m.uuid), ns := J.toText (.str m.ns), nsid := J.toText (.str m.nsid)
        name := J.toText (.str m.name), args := m.args, version := J.toInt (.int m.version) } := rfl
  rw [hread]
  simp only [J.toText_str, J.toInt_int _ hversion.1 hversion.2]

/-- No message is taken for an event: it has no property of that name, whatever is inside its
arguments. -/
theorem event_messageToJson (h : J.toText .null = "") (m : Message) :
    (jsonToEvent J (messageToJson m)).event = "" := by
  have hread : (jsonToEvent J (messageToJson m)).event = J.toText .null := rfl
  rw [hread, h]

/-- What a message is taken for. -/
theorem dispatch_messageToJson (h : J.toText .null = "") {m : Message}
    (hversion : Juce.IsInt m.version) (hname : m.name ≠ "") : dispatch J (messageToJson m) =
      .response { event := "result", data := m.args, version := m.version } := by
  rw [dispatch]
  dsimp only
  rw [if_neg (not_not.mpr (event_messageToJson h m)), jsonToMessage_messageToJson hversion,
    if_pos hname]

/-! ### Events -/

/-- The value that stands for an event can be written. -/
theorem representable_eventToJson {e : BridgeEvent} (hversion : Juce.IsInt e.version)
    (hdata : Juce.Representable e.data) : Juce.Representable (eventToJson e) := by
  have hkeys : ["uuid", "event", "data", "version"].Nodup ∧
      ∀ key ∈ ["uuid", "event", "data", "version"], key ≠ "" := by decide
  rw [eventToJson]
  split
  · refine .obj hkeys.1 hkeys.2 ?_
    simp only [List.cons_append, List.nil_append, List.forall_mem_cons]
    exact ⟨.str _, .str _, hdata, .int hversion.isInt64, nofun⟩
  · refine .obj (List.nodup_cons.mp hkeys.1).2 (List.forall_mem_cons.mp hkeys.2).2 ?_
    simp only [List.nil_append, List.forall_mem_cons]
    exact ⟨.str _, hdata, .int hversion.isInt64, nofun⟩

/-- An event is read back from its properties, and an empty uuid from a missing one. -/
theorem jsonToEvent_eventToJson (h : J.toText .null = "") {e : BridgeEvent}
    (hversion : Juce.IsInt e.version) : jsonToEvent J (eventToJson e) = e := by
  have hread : jsonToEvent J (eventToJson e) =
      { uuid := J.toText (if e.uuid ≠ "" then .str e.uuid else .null)
        event := J.toText (.str e.event), data := e.data
        version := J.toInt (.int e.version) } := by
    rw [eventToJson]
    split <;> rfl
  have huuid : J.toText (if e.uuid ≠ "" then .str e.uuid else .null) = e.uuid := by
    split
    · exact J.toText_str e.uuid
    · rename_i hempty
      rw [h, not_not.mp hempty]
  rw [hread, huuid, J.toText_str, J.toInt_int _ hversion.1 hversion.2]

/-- What an event is taken for. -/
theorem dispatch_eventToJson (h : J.toText .null = "") {e : BridgeEvent}
    (hversion : Juce.IsInt e.version) (hname : e.event ≠ "") :
    dispatch J (eventToJson e) = .event e := by
  rw [dispatch]
  dsimp only
  rw [jsonToEvent_eventToJson h hversion, if_pos hname]

/-! ### Both -/

theorem Message.ComesThrough.of_prints (h : J.Prints text) {m : Message}
    (hversion : Juce.IsInt m.version) (hargs : Juce.Representable m.args) :
    m.ComesThrough J text := by
  have hparse : J.parse (text (messageToJson m)) = messageToJson m :=
    h.parse_text _ (representable_messageToJson hversion hargs)
  refine ⟨?_, fun hname => ?_, fun hname c => ?_⟩
  · rw [hparse, jsonToMessage_messageToJson hversion]
  · rw [hparse, dispatch_messageToJson h.toText_null hversion hname]
  · rw [oscArgumentsReceived, hparse, oscMessageReceived_eq_handle,
      dispatch_messageToJson h.toText_null hversion hname, handle]

theorem BridgeEvent.ComesThrough.of_prints (h : J.Prints text) {e : BridgeEvent}
    (hversion : Juce.IsInt e.version) (hdata : Juce.Representable e.data) :
    e.ComesThrough J text := by
  have hparse : J.parse (text (eventToJson e)) = eventToJson e :=
    h.parse_text _ (representable_eventToJson hversion hdata)
  refine ⟨?_, fun hname => ?_, fun hname c => ?_⟩
  · rw [hparse, jsonToEvent_eventToJson h.toText_null hversion]
  · rw [hparse, dispatch_eventToJson h.toText_null hversion hname]
  · rw [oscArgumentsReceived, hparse, oscMessageReceived_eq_handle,
      dispatch_eventToJson h.toText_null hversion hname, handle]

/-- **Messages and events come through**, whatever their texts, arguments and data. -/
theorem comesThrough (h : J.Prints text) :
    (∀ m : Message, Juce.IsInt m.version → Juce.Representable m.args → m.ComesThrough J text) ∧
      ∀ e : BridgeEvent, Juce.IsInt e.version → Juce.Representable e.data →
        e.ComesThrough J text :=
  ⟨fun _ => .of_prints h, fun _ => .of_prints h⟩

/-- Arguments that look like an event. -/
def disguised : Json :=
  .obj [("event", .str "looper_removed"), ("name", .str "undo"),
    ("feedback", .float (.finite (1 / 2)))]

theorem representable_disguised : Juce.Representable disguised := by
  refine .obj (by decide) (by decide) ?_
  simp only [List.forall_mem_cons]
  refine ⟨.str _, .str _, .float ⟨1, -1, by decide, by decide, by decide, by decide, ?_⟩, nofun⟩
  rw [Int.cast_one, one_mul, zpow_neg_one, one_div]

/-- A message and an event without a uuid that carry them. -/
theorem comesThrough_disguised :
    Message.ComesThrough .standard Juce.standardText ⟨"u", "looper", "0", "undo", disguised, 1⟩ ∧
      BridgeEvent.ComesThrough .standard Juce.standardText ⟨"", "result", disguised, 1⟩ :=
  ⟨(comesThrough Juce.prints_standard).1 _ ⟨by decide, by decide⟩ representable_disguised,
    (comesThrough Juce.prints_standard).2 _ ⟨by decide, by decide⟩ representable_disguised⟩

end LooperControl
