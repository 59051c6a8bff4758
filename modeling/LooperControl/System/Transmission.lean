import LooperControl.Osc.MessageBuilder
import LooperControl.System.Payloads
import LooperControl.System.Reception

/-!
# Messages as bytes

`send_to_plugin` spells a message out with `json.dumps` and wraps the text in an OSC message. The
steps of the script keep the message itself, and the plugin's side takes what is received of it
(`received`). Both are read off the bytes here:

* `oscMessage_eq`: the bytes of a message are its address, the tag of one string, and the text.
* `received_of_run`: whatever a script has sent in a run, a plugin that reads the bytes gets to the
  same state as one that is handed what is received of the messages.
* `receive_textDgram`: a script that reads the bytes of a message gets to the same state as one that
  is handed the message.

The plugin's OSC receiver and Live's numerals are parameters, with what is relied on of them.
-/

namespace LooperControl

open OscTypes Fallible BridgeServer

/-! ### What is sent -/

/-- A string as `write_string` writes it. -/
def OscTypes.padded (s : String) : Bytes :=
  Bytes.ofText s ++ List.replicate (4 - (Bytes.ofText s).length % 4) 0

/-- The bytes of a message with one string. -/
def OscMessage.textDgram (address text : String) : Bytes :=
  padded address ++ padded ",s" ++ padded text

/-- What is relied on of `float.__repr__`, here `spell`: it prints doubles as numerals that are read
back. `double` is the number that the reader takes a numeral for. -/
def Spelling (spell : ℚ → List Char) (double : List Char → Double) : Prop :=
  ∀ q, Juce.IsDouble q → JsonText.isNumber (spell q) = true ∧
    JsonText.numberValue double (spell q) = .float (.finite q)

variable (spell : ℚ → List Char)

/-- `json.dumps`. -/
def jsonDumps (data : Json) : String := String.ofList (JsonText.dumps spell data)

/-- The message that `send_to_plugin` builds. -/
def BridgeServer.oscMessage (address : String) (data : Json) : Except OscExc OscMessage :=
  (OscMessageBuilder.addArg { address := some address } (.str (jsonDumps spell data)) .none).bind
    OscMessageBuilder.build

variable {spell} {double : List Char → Double} {address text : String} {data : Json}

theorem addArg_str (b : OscMessageBuilder) (s : String) :
    b.addArg (.str s) .none = .ok { b with args := b.args ++ [("s", .str s)] } := by
  rw [OscMessageBuilder.addArg_none]
  rfl

/-- A message with one string is built of its address and the string. -/
theorem build_text (hne : address ≠ "") (haddress : Char.ofNat 0 ∉ address.toList)
    (htext : Char.ofNat 0 ∉ text.toList) :
    OscMessageBuilder.build { address := some address, args := [("s", .str text)] } =
      .ok ⟨OscMessage.textDgram address text, address, [.str text]⟩ := by
  have hguessed := OscMessageBuilder.guessed_leaf (v := .str text) (t := "s") rfl
  rw [OscMessageBuilder.build_eq_ok_iff rfl hne haddress hguessed.entries (hguessed.nulFree htext)]
  have htags :
      String.ofList (',' :: OscMessageBuilder.tagsOf [("s", OscValue.str text)]) = ",s" := by
    simp [OscMessageBuilder.tagsOf]
  exact ⟨rfl, rfl, padded address, padded ",s", rfl, by rw [htags, writeString, padded], rfl⟩

/-- A message with one string is read back. -/
theorem parse_textDgram (hne : address ≠ "") (haddress : Char.ofNat 0 ∉ address.toList)
    (htext : Char.ofNat 0 ∉ text.toList) :
    OscMessage.parse (OscMessage.textDgram address text) =
      .ok ⟨OscMessage.textDgram address text, address, [.str text]⟩ :=
  (OscMessageBuilder.parse_of_build rfl haddress
    (OscMessageBuilder.guessed_leaf (v := .str text) (t := "s") rfl) htext
      (build_text hne haddress htext)).1

theorem nulFree_jsonDumps (hspell : Spelling spell double) (hdata : data.Exact) :
    Char.ofNat 0 ∉ (jsonDumps spell data).toList := by
  intro h
  rw [jsonDumps, String.toList_ofList] at h
  have hprintable := JsonText.isPrintable_dumps (fun q hq => (hspell q hq).1) hdata _ h
  exact absurd hprintable (by decide)

/-- **The bytes of a message**: its address, the tag of a string, and its text. -/
theorem oscMessage_eq (hspell : Spelling spell double) (hne : address ≠ "")
    (haddress : Char.ofNat 0 ∉ address.toList) (hdata : data.Exact) :
    oscMessage spell address data = .ok ⟨OscMessage.textDgram address (jsonDumps spell data),
      address, [.str (jsonDumps spell data)]⟩ := by
  rw [oscMessage, addArg_str, ok_bind]
  exact build_text hne haddress (nulFree_jsonDumps hspell hdata)

/-! ### What the plugin gets -/

/-- The plugin's OSC receiver: what it hands on of the arguments in a datagram. A message with one
string is read as that string. -/
structure OscReceiver where
  read : Bytes → Option (List BridgeClient.OscValue)
  read_textDgram : ∀ {address text : String}, Char.ofNat 0 ∉ address.toList →
    Char.ofNat 0 ∉ text.toList → address ≠ "" →
      read (OscMessage.textDgram address text) = some [.string text]

/-- A plugin after the bytes of a datagram. -/
def OscReceiver.receive (R : OscReceiver) (J : Juce) (c : BridgeClient) (dgram : Bytes) :
    BridgeClient :=
  match R.read dgram with
  | some args => c.oscArgumentsReceived J args
  | none => c

/-- The bytes that `send_to_plugin` sends for a message, if it can build it. -/
def Datagram.bytes? (spell : ℚ → List Char) (d : Datagram) : Option Bytes :=
  (oscMessage spell d.address d.payload).toOption.map OscMessage.dgram

/-- What the plugin's parser makes of the text of a dictionary is what is received of it. -/
theorem parse_jsonDumps {J : Juce} (hJ : J.Standard double) (hspell : Spelling spell double)
    (hdata : data.Exact) (hobj : data.isObj = true) :
    J.parse (jsonDumps spell data) = received data := by
  have hparse := JsonText.parse_dumps hspell hdata
  obtain ⟨body, hbody⟩ : ∃ body, JsonText.dumps spell data = '\x7b' :: body := by
    cases data with
    | obj members => exact ⟨_, by rw [JsonText.dumps]⟩
    | _ => cases hobj
  rw [jsonDumps, hJ.parse_object _ body (by rw [String.toList_ofList, hbody]), hparse, received]
  split <;> rfl

/-- A message arrives as what is received of it. -/
theorem receive_bytes? (R : OscReceiver) {J : Juce} (hJ : J.Standard double)
    (hspell : Spelling spell double) {d : Datagram} (hd : d.Exact) :
    ∃ bytes, d.bytes? spell = some bytes ∧
      ∀ c, R.receive J c bytes = c.oscMessageReceived J (received d.payload) := by
  obtain ⟨haddress, hobj, hdata⟩ := hd
  have hne : d.address ≠ "" := by rcases haddress with h | h <;> rw [h] <;> decide
  have hzero : Char.ofNat 0 ∉ d.address.toList := by
    rcases haddress with h | h <;> rw [h] <;> decide
  refine ⟨_, by rw [Datagram.bytes?, oscMessage_eq hspell hne hzero hdata]; rfl, fun c => ?_⟩
  rw [OscReceiver.receive, R.read_textDgram hzero (nulFree_jsonDumps hspell hdata) hne]
  simp only
  rw [BridgeClient.oscArgumentsReceived, parse_jsonDumps hJ hspell hdata hobj]

/-- **What a script has sent in a run** can be built, and a plugin that reads the bytes one after
the other gets to the state of one that is handed what is received of the messages. -/
theorem received_of_run (R : OscReceiver) {J : Juce} (hJ : J.Standard double)
    (hspell : Spelling spell double) {s t : Script} {es : List Script.Event} (hs : s.Exact)
    (hes : ∀ e ∈ es, e.Exact) (h : Runs.Run (Runs.ofFun Script.step) s es t) :
    ∃ dgrams, t.sent.mapM (Datagram.bytes? spell) = some dgrams ∧
      ∀ c, dgrams.foldl (R.receive J) c = c.deliver J t.sent := by
  have hsent := (Script.exact_of_run h hs hes).sent
  generalize t.sent = sent at hsent
  induction sent with
  | nil => exact ⟨[], rfl, fun c => rfl⟩
  | cons d sent ih =>
    rw [List.forall_mem_cons] at hsent
    obtain ⟨bytes, hbytes, hreceive⟩ := receive_bytes? R hJ hspell hsent.1
    obtain ⟨dgrams, hdgrams, hdeliver⟩ := ih hsent.2
    refine ⟨bytes :: dgrams, by simp [hbytes, hdgrams], fun c => ?_⟩
    rw [List.foldl_cons, hreceive, hdeliver, BridgeClient.deliver, BridgeClient.deliver,
      List.foldl_cons]

/-- A receiver that reads what the script's own parser reads. -/
def OscReceiver.byGrammar : OscReceiver where
  read dgram := (OscMessage.parse dgram).toOption.map fun m => m.params.map fun v =>
    match v with
    | .str text => .string text
    | _ => .other
  read_textDgram haddress htext hne := by
    rw [parse_textDgram hne haddress htext]
    rfl

/-- Doubles spelled with all their decimals. -/
theorem spelling_decimalText : Spelling JsonText.decimalText Juce.decimal := fun _ hq =>
  ⟨JsonText.isNumber_decimalText _,
    Juce.numberValue_decimalText (Juce.exists_den_eq_of_isDouble hq)⟩

open Script

theorem exact_oneLooper : oneLooper.Exact := by
  intro t ht d hd p hp
  obtain rfl := List.mem_singleton.mp ht
  obtain rfl := List.mem_singleton.mp hd
  rcases List.mem_cons.mp hp with rfl | hp
  · rintro q ⟨⟩
    exact ⟨0, 0, by decide, by decide, by decide, by decide, by norm_num⟩
  · obtain rfl := List.mem_singleton.mp hp
    rintro q ⟨⟩
    exact ⟨1, -1, by decide, by decide, by decide, by decide, by norm_num⟩

theorem exact_helloMessage : helloMessage.Exact := by
  rw [helloMessage]
  refine .obj (by decide) ?_
  simp only [List.forall_mem_cons]
  refine ⟨.str _, .str _, .str _, .obj (by decide) ?_, .int _, List.forall_mem_nil _⟩
  rw [List.forall_mem_singleton]
  exact .int _

theorem exact_begun {song : Song} {found : Dict String LooperInfo} (hsong : song.Exact)
    (h : LooperDiscovery.scanResult song = .ok found) : (begun song).Exact := by
  refine @exact_of_started _ (fun _ => true) song hsong (Prod.ext ?_ rfl)
  rw [LooperControlSurface.init, Effect.exec_bind, Effect.exec_modify]
  simp only [Effect.exec_bind, Effect.exec_modify]
  rw [@LooperControlSurface.exec_fullScan_ok _ found h]

/-- A script that has handled a hello. -/
theorem received_of_run_hello :
    ∃ dgrams, (met oneLooper).sent.mapM (Datagram.bytes? JsonText.decimalText) = some dgrams ∧
      ∀ c, dgrams.foldl (OscReceiver.byGrammar.receive .standard) c =
        c.deliver .standard (met oneLooper).sent := by
  have hsocket : (begun oneLooper).server.server.isSome = true := rfl
  have hstep : (begun oneLooper).step (.message [.json helloMessage]) = some (met oneLooper) := by
    rw [Script.step, if_pos hsocket, met]
  refine received_of_run OscReceiver.byGrammar Juce.standard_standard spelling_decimalText
    (exact_begun exact_oneLooper rfl) (List.forall_mem_singleton.mpr ?_) (.cons hstep (.nil _))
  intro message rest heq
  obtain ⟨hmessage, -⟩ := List.cons.inj heq
  obtain rfl := OscArg.json.inj hmessage
  exact exact_helloMessage

/-! ### What the script gets -/

/-- **A script that reads the bytes of a message** handles the value of its text. -/
theorem receive_textDgram (loads : JsonLoads) {d : Datagram}
    (hslash : d.address.toList.head? = some '/') (haddress : Char.ofNat 0 ∉ d.address.toList)
    (htext : Char.ofNat 0 ∉ text.toList) (hloads : loads.text text = some d.payload) (now : ℚ)
    (n : ℕ) (s : Script) :
    OscServer.receive loads now n (OscMessage.textDgram d.address text) s =
      some (s.dispatched d) := by
  have hne : d.address ≠ "" := by
    rintro hempty
    rw [hempty] at hslash
    cases hslash
  have hparse := parse_textDgram hne haddress htext
  have hmessage : OscMessage.dgramIsMessage (OscMessage.textDgram d.address text) = true :=
    (OscMessage.dgramIsMessage_iff hparse).mpr hslash
  have hbundle : OscBundle.dgramIsBundle (OscMessage.textDgram d.address text) = false := by
    rw [← Bool.not_eq_true, OscBundle.dgramIsBundle_iff hparse]
    intro hbundle
    have haddress : d.address = "#bundle" := hbundle
    rw [haddress] at hslash
    cases hslash
  have hpacket : OscPacket.parse now n (OscMessage.textDgram d.address text) =
      some (.ok [⟨now, OscMessage.textDgram d.address text, d.address, [.str text]⟩]) := by
    rw [OscPacket.parse, OscPacket.messages, hbundle, hmessage, hparse]
    rfl
  rw [OscServer.receive, OscServer.handle, OscServer.isValidRequest, hmessage, Bool.or_true,
    if_pos rfl, OscServer.callHandlersForPacket, hpacket]
  simp only [Option.map_some, OscServer.invocations, Script.dispatched,
    OscServer.handlersForAddress_dispatcher, Option.getD_some, List.append_nil, List.map_cons,
    List.map_nil, OscArg.ofValue, hloads]
  by_cases hreaches : Dispatcher.reaches (oscPrefix ++ "/") d.address = true
  · rw [if_pos hreaches]
    exact congrArg some (OscServer.runAll_onMessage [[.json d.payload]] s)
  · rw [if_neg hreaches]
    rfl

/-- A `json.loads` that reads the text of JSON. -/
def JsonLoads.byGrammar : JsonLoads := ⟨JsonText.parse Juce.decimal, fun _ => none⟩

theorem receive_textDgram_hello :
    OscServer.receive .byGrammar 0 0 (OscMessage.textDgram "/loopercontrol/command"
        (jsonDumps JsonText.decimalText helloMessage)) (begun oneLooper) =
      some ((begun oneLooper).dispatched ⟨7011, "/loopercontrol/command", helloMessage⟩) := by
  have hslash : (⟨7011, "/loopercontrol/command", helloMessage⟩ : Datagram).address.toList.head? =
      some '/' := by
    simp only []
    decide
  have hzero : Char.ofNat 0 ∉
      (⟨7011, "/loopercontrol/command", helloMessage⟩ : Datagram).address.toList := by
    simp only []
    decide
  have hloads : JsonLoads.byGrammar.text (jsonDumps JsonText.decimalText helloMessage) =
      some (⟨7011, "/loopercontrol/command", helloMessage⟩ : Datagram).payload := by
    have htext : JsonLoads.byGrammar.text = JsonText.parse Juce.decimal := rfl
    have hfinite : helloMessage.isFinite = true := rfl
    rw [htext, jsonDumps, JsonText.parse_dumps (fun q hq => spelling_decimalText q hq)
      exact_helloMessage, hfinite, if_pos rfl]
  exact receive_textDgram .byGrammar hslash hzero
    (nulFree_jsonDumps spelling_decimalText exact_helloMessage) hloads 0 0 (begun oneLooper)

end LooperControl
