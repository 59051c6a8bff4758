import LooperControl.Plugin.BridgeClient
import LooperControl.Script.Steps

/-!
# Requests and their answers

A message to the script makes it send events and results. `Handling.results` counts the
results: none or one, under the uuid of the message, sent to the port remembered after the
message. Two questions are answered from it.

* **Is every request answered once?** `answeredOnce_iff`: exactly the requests of
  `Answerable`. The others raise outside the handlers' own `try` blocks, or have no port to
  be answered at.
* **Does the answer go back to the requester?** `resultsReturned_of_run`: in every run in
  which commands are handled only while the remembered port is that of the instance that
  sent them.
-/

namespace LooperControl

open Effect LooperControlSurface BridgeServer Script

/-- A datagram carries a result. -/
def Datagram.isResult (d : Datagram) : Bool :=
  decide (d.payload.get? "event" = some (.str "result"))

/-- The uuid a datagram carries. -/
def Datagram.uuid? (d : Datagram) : Option Json := d.payload.get? "uuid"

/-- The datagram that a response becomes, if there is where to send it. -/
def responses (b : BridgeServer) (requestUuid data : Json) : List Datagram :=
  (b.target.map fun port =>
    ⟨port, oscPrefix ++ "/response", responseMessage requestUuid data⟩).toList

/-! ### Counting results -/

theorem isResult_response (port : ℤ) (address : String) (requestUuid data : Json) :
    Datagram.isResult ⟨port, address, responseMessage requestUuid data⟩ = true := by
  simp [Datagram.isResult, responseMessage]

theorem filter_responses (b : BridgeServer) (requestUuid data : Json) :
    (responses b requestUuid data).filter Datagram.isResult = responses b requestUuid data := by
  rw [responses]
  rcases b.target with _ | port
  · rfl
  · simp [isResult_response]

private theorem filter_announcements (b : BridgeServer) (items : List (String × LooperInfo)) :
    (announcements b items).filter Datagram.isResult = [] := by
  rw [List.filter_eq_nil_iff]
  intro d hd
  simp only [announcements, List.mem_flatMap, List.mem_map] at hd
  obtain ⟨port, -, item, -, rfl⟩ := hd
  simp [Datagram.isResult, discoveredEvent, eventMessage]

private theorem filter_reports (b : BridgeServer) (song : Song) (listeners : List Listener) :
    (reports b song listeners).filter Datagram.isResult = [] := by
  rw [List.filter_eq_nil_iff]
  intro d hd
  simp only [reports, List.mem_flatMap, List.mem_map] at hd
  obtain ⟨port, -, info, -, rfl⟩ := hd
  simp [Datagram.isResult, changedEvent, eventMessage]

/-- A command sends no result itself, and leaves the server's fields alone. -/
theorem LooperControlSurface.Outcome.results {s t : Script} {ns name args : Json}
    {r : Except PyExc (Option Json)} (h : Outcome s ns name args (r, t)) :
    t.server = s.server ∧
      ∃ events, t.sent = s.sent ++ events ∧ events.filter Datagram.isResult = [] := by
  cases h with
  | discovered found hns hname h =>
    exact ⟨scanned_server, _, scanned_sent, filter_announcements _ _⟩
  | scanRaised => exact ⟨rfl, [], (List.append_nil _).symm, rfl⟩
  | noArgs => exact ⟨rfl, [], (List.append_nil _).symm, rfl⟩
  | refused => exact ⟨rfl, [], (List.append_nil _).symm, rfl⟩
  | wrote =>
    rw [assigned_eq]
    exact ⟨rfl, _, rfl, filter_reports _ _ _⟩
  | other => exact ⟨rfl, [], (List.append_nil _).symm, rfl⟩

/-- The port remembered after a message: a hello with arguments sets it. -/
def pluginPortAfter (b : BridgeServer) (message : Json) : Json :=
  if isHello message ∧ (argsOf message).isObj = true then
    ((argsOf message).get? "port").getD (.int 7010)
  else b.pluginPort

/-- **The results of a message**: what it leaves remembered, and what of the datagrams it
makes the script send are results. -/
theorem Script.Handling.results {s t : Script} {message : Json} (h : Handling s message t) :
    t.server = { s.server with pluginPort := pluginPortAfter s.server message } ∧
      ∃ new, t.sent = s.sent ++ new ∧
        (new.filter Datagram.isResult = [] ∨ ∃ answer,
          new.filter Datagram.isResult = responses t.server (uuidOf message) answer) := by
  have hsame : ∀ t' : Script, t'.server = s.server → ¬isHello message →
      t'.server = { s.server with pluginPort := pluginPortAfter s.server message } := by
    intro t' h hne
    rw [h, pluginPortAfter, if_neg fun hh => hne hh.1]
  cases h with
  | notObject hobj =>
    refine ⟨hsame _ rfl ?_, [], (List.append_nil _).symm, .inl rfl⟩
    rintro ⟨hversion, -⟩
    rcases message <;> simp_all [Json.get?, pyEqInt, protocolVersion, Json.isObj]
  | mismatch hobj hhello hcommand =>
    exact ⟨hsame _ rfl hhello, _, rfl, .inr ⟨_, filter_responses _ _ _⟩⟩
  | helloNoArgs hobj hhello hargs =>
    refine ⟨?_, [], (List.append_nil _).symm, .inl rfl⟩
    rw [pluginPortAfter, if_neg fun hh => by simp [hargs] at hh]
  | helloNoUuid hobj hhello hargs huuid =>
    refine ⟨?_, [], (List.append_nil _).symm, .inl rfl⟩
    rw [pluginPortAfter, if_pos ⟨hhello, hargs⟩]
    rfl
  | hello requestUuid hobj hhello hargs huuid =>
    refine ⟨?_, _, rfl, .inr ⟨helloResult s.server.port, ?_⟩⟩
    · rw [pluginPortAfter, if_pos ⟨hhello, hargs⟩]
      rfl
    · rw [uuidOf, huuid]
      exact filter_responses _ _ _
  | answered answer t' hobj hcommand hout =>
    obtain ⟨hserver, events, hsent, hevents⟩ := hout.results
    refine ⟨hsame _ hserver fun hh => hcommand.2 hh.2, ?_⟩
    refine ⟨events ++ responses t'.server (uuidOf message) answer, ?_, .inr ⟨answer, ?_⟩⟩
    · rw [← List.append_assoc, ← hsent]
      rfl
    · rw [List.filter_append, hevents, List.nil_append]
      exact filter_responses _ _ _
  | raised e t' hobj hcommand hout =>
    obtain ⟨hserver, events, hsent, hevents⟩ := hout.results
    exact ⟨hsame _ hserver fun hh => hcommand.2 hh.2, events, hsent, .inl hevents⟩

/-! ### Every request answered once -/

/-- Between two states exactly one result is sent, and it carries the uuid. -/
def AnsweredOnce (s t : Script) (requestUuid : Json) : Prop :=
  ∃ new d, t.sent = s.sent ++ new ∧ new.filter Datagram.isResult = [d] ∧
    d.uuid? = some requestUuid

/-- There is a port to answer at, and nothing outside the handlers' `try` blocks raises: a
hello and a command that writes have an object of arguments, and a `discover` meets no looper
that it cannot read. -/
structure Answerable (s : Script) (message : Json) : Prop where
  port : (asPort? (pluginPortAfter s.server message)).isSome
  hello : isHello message → (argsOf message).isObj = true
  discover : isCommand message → message.get? "ns" = some (.str "looper") →
    message.get? "name" = some (.str "discover") → LooperDiscovery.AllReadable s.live.song
  write : isCommand message → message.get? "ns" = some (.str "looper") →
    (writeOf ((message.get? "name").getD (.str "")) (argsOf message)).isSome →
      (argsOf message).isObj = true

private theorem not_answeredOnce {s t : Script} {new : List Datagram} {requestUuid : Json}
    (hsent : t.sent = s.sent ++ new) (hnew : new.filter Datagram.isResult = []) :
    ¬AnsweredOnce s t requestUuid := by
  rintro ⟨new', d, hsent', hone, -⟩
  rw [hsent, List.append_cancel_left_eq] at hsent'
  rw [← hsent', hnew] at hone
  cases hone

private theorem answeredOnce_responses {s t : Script} {new : List Datagram}
    {requestUuid answer : Json} (hsent : t.sent = s.sent ++ new)
    (hnew : new.filter Datagram.isResult = responses t.server requestUuid answer) :
    AnsweredOnce s t requestUuid ↔ t.server.target.isSome := by
  constructor
  · rintro ⟨new', d, hsent', hone, -⟩
    rw [hsent, List.append_cancel_left_eq] at hsent'
    rw [← hsent', hnew, responses] at hone
    rcases htarget : t.server.target with _ | port
    · simp [htarget] at hone
    · rfl
  · intro h
    obtain ⟨port, hport⟩ := Option.isSome_iff_exists.mp h
    refine ⟨new, ⟨port, oscPrefix ++ "/response", responseMessage requestUuid answer⟩, hsent, ?_,
      ?_⟩
    · rw [hnew, responses, hport]
      rfl
    · simp [Datagram.uuid?, responseMessage]

private theorem get?_of_getD {message : Json} {key name : String} (hne : name ≠ "")
    (h : (message.get? key).getD (.str "") = .str name) :
    message.get? key = some (.str name) := by
  rcases hk : message.get? key with _ | v
  · rw [hk, Option.getD_none, Json.str.injEq] at h
    exact absurd h.symm hne
  · rw [hk, Option.getD_some] at h
    rw [h]

/-- **A request is answered exactly once if and only if it is answerable.** -/
theorem answeredOnce_iff {s : Script} (hs : Reachable s) (hport : s.server.pluginPort ≠ .null)
    {message requestUuid : Json} (hobj : message.isObj = true)
    (huuid : message.get? "uuid" = some requestUuid) (rest : List OscArg) :
    AnsweredOnce s (s.handled (.json message :: rest)) requestUuid ↔ Answerable s message := by
  have hsocket : s.server.server.isSome := hs.consistent.socket hport
  have hhandling := handling_handled s message rest
  obtain ⟨hserver, -⟩ := hhandling.results
  have huuid' : uuidOf message = requestUuid := by rw [uuidOf, huuid]; rfl
  generalize s.handled (.json message :: rest) = t at hhandling hserver ⊢
  have htarget : t.server.target = asPort? (pluginPortAfter s.server message) := by
    rw [hserver]
    obtain ⟨socket, hsocket⟩ := Option.isSome_iff_exists.mp hsocket
    change (s.server.server.bind fun _ => asPort? (pluginPortAfter s.server message)) = _
    rw [hsocket, Option.bind_some]
  -- The two ways without an answer are a hello without an object of arguments and a command that
  -- raises; every other one sends a result, as far as there is a port.
  cases hhandling with
  | notObject hnot => exact absurd hobj (by simp [hnot])
  | mismatch _ hhello hcommand =>
    rw [← huuid', answeredOnce_responses rfl (filter_responses _ _ _), htarget]
    exact ⟨fun h => ⟨h, fun hh => absurd hh hhello, fun hc => absurd hc hcommand,
      fun hc => absurd hc hcommand⟩, fun h => h.port⟩
  | helloNoArgs _ hhello hargs =>
    refine iff_of_false (not_answeredOnce (List.append_nil _).symm rfl) fun h => ?_
    exact absurd (h.hello hhello) (by simp [hargs])
  | helloNoUuid _ _ _ hnone => exact absurd hnone (by simp [huuid])
  | hello requestUuid' _ hhello hargs hsome =>
    rw [huuid, Option.some_inj] at hsome
    subst hsome
    rw [answeredOnce_responses rfl (filter_responses _ _ _), htarget]
    exact ⟨fun h => ⟨h, fun _ => hargs, fun hc => absurd hhello.2 hc.2,
      fun hc => absurd hhello.2 hc.2⟩, fun h => h.port⟩
  | answered answer t' _ hcommand hout =>
    obtain ⟨hserver', events, hsent, hevents⟩ := hout.results
    have hnew : (respond t' (uuidOf message) answer).sent =
        s.sent ++ (events ++ responses t'.server (uuidOf message) answer) := by
      rw [← List.append_assoc, ← hsent]
      rfl
    have hfilter : (events ++ responses t'.server (uuidOf message) answer).filter
        Datagram.isResult = responses t'.server (uuidOf message) answer := by
      rw [List.filter_append, hevents, List.nil_append, filter_responses]
    rw [← huuid', answeredOnce_responses hnew hfilter, htarget]
    refine ⟨fun h => ⟨h, fun hh => absurd hh.2 hcommand.2, fun _ hns hname => ?_,
      fun _ hns hwrite => ?_⟩, fun h => h.port⟩
    · rw [hns, hname] at hout
      cases hout with
      | discovered found _ _ h => exact LooperDiscovery.allReadable_of_scanResult h
      | refused _ _ hwrite => simp [writeOf] at hwrite
      | wrote _ _ _ _ _ _ _ _ _ _ _ hwrite => simp [writeOf] at hwrite
      | other _ h => exact absurd ⟨rfl, .inl rfl⟩ h
    · rw [hns] at hout
      cases hout with
      | discovered _ _ hname => simp [hname, writeOf] at hwrite
      | refused _ _ _ hargs => exact hargs
      | wrote _ _ _ _ _ _ _ _ _ _ _ _ hargs => exact hargs
      | other _ h => exact absurd ⟨rfl, .inr hwrite⟩ h
  | raised e t' _ hcommand hout =>
    obtain ⟨-, events, hsent, hevents⟩ := hout.results
    refine iff_of_false (not_answeredOnce hsent hevents) fun h => ?_
    cases hout with
    | scanRaised e hns hname hscan =>
      exact LooperDiscovery.not_allReadable_of_scanResult hscan
        (h.discover hcommand (get?_of_getD (by decide) hns) (get?_of_getD (by decide) hname))
    | noArgs e hns hwrite hargs =>
      have hargs' := h.write hcommand (get?_of_getD (by decide) hns) hwrite
      exact absurd hargs' (by simp [hargs])

/-- A ping is answered. -/
theorem answeredOnce_ping : AnsweredOnce (met .empty)
    ((met .empty).handled [.json (.obj [("uuid", .str "p"), ("ns", .str "system"),
      ("name", .str "ping"), ("version", .int 1)])]) (.str "p") :=
  (answeredOnce_iff (reachable_met rfl rfl) (by decide) rfl rfl []).mpr
    ⟨by decide, by decide, fun _ hns => absurd hns (by decide), by decide⟩

/-- **An `undo` whose arguments are no object is never answered.** -/
theorem not_answeredOnce_undo : ¬∀ (s : Script) (message requestUuid : Json) (rest : List OscArg),
    Reachable s → s.server.pluginPort ≠ .null → message.isObj = true →
      message.get? "uuid" = some requestUuid →
        AnsweredOnce s (s.handled (.json message :: rest)) requestUuid := by
  intro h
  obtain ⟨new, d, hsent, hone, -⟩ := h (met .empty)
    (.obj [("uuid", .str "u"), ("ns", .str "looper"), ("name", .str "undo"), ("args", .str "0"),
      ("version", .int 1)]) (.str "u") []
    (reachable_met rfl rfl) (by decide) rfl rfl
  have hsame : ((met .empty).handled [.json (.obj [("uuid", .str "u"), ("ns", .str "looper"),
      ("name", .str "undo"), ("args", .str "0"), ("version", .int 1)])]).sent =
        (met .empty).sent := by
    decide
  rw [hsame, List.self_eq_append_right] at hsent
  rw [hsent] at hone
  cases hone

/-! ### Answers back to the requester -/

/-- Plugin instances with their local ports, no port shared. -/
structure Instances (ι : Type) where
  localPort : ι → ℕ
  distinct : Function.Injective localPort

/-- What plugin instances ask of the script. A command is any message that is no hello. -/
inductive Request (ι : Type)
  | hello (i : ι) (uuid : String)
  | command (i : ι) (msg : Message) (notHello : ¬(msg.name = "hello" ∧ msg.ns = "system"))

namespace Request

variable {ι : Type}

/-- The instance that made a request. -/
def issuer : Request ι → ι
  | hello i _ => i
  | command i _ _ => i

/-- The message of a request. -/
def message (J : Juce) (P : Instances ι) : Request ι → Message
  | hello i uuid => MessageProtocol.createHello J uuid (P.localPort i)
  | command _ msg _ => msg

/-- The uuid of a request. -/
def uuid : Request ι → String
  | hello _ uuid => uuid
  | command _ msg _ => msg.uuid

end Request

/-- What reaches the script: requests, and what goes on in Live between them. -/
inductive Traffic (ι : Type)
  | request (r : Request ι)
  | edit (e : SongEdit)
  | setParam (i j k : ℕ) (v : Double)

namespace Traffic

variable {ι : Type}

/-- The script's event. -/
def event (J : Juce) (P : Instances ι) : Traffic ι → Script.Event
  | request r => .message [.json (MessageProtocol.messageToJson (r.message J P))]
  | edit e => .edit e
  | setParam i j k v => .setParam i j k v

/-- One event of the traffic at the script. -/
def step (J : Juce) (P : Instances ι) (s : Script) (e : Traffic ι) (t : Script) : Prop :=
  s.step (e.event J P) = some t

/-- The requests among the traffic. -/
def requests : List (Traffic ι) → List (Request ι)
  | [] => []
  | request r :: es => r :: requests es
  | _ :: es => requests es

/-- A command is handled while no port is remembered, or the port of its own instance. -/
def ToOwnPort (P : Instances ι) (s : Script) : Traffic ι → Prop
  | request (.command i _ _) => ∀ port, s.server.target = some port → port = P.localPort i
  | _ => True

end Traffic

variable {ι : Type} {P : Instances ι} {J : Juce}

/-- A result belongs to one of some requests and goes to the instance that made it. -/
def Returned (P : Instances ι) (rs : List (Request ι)) (d : Datagram) : Prop :=
  ∃ r ∈ rs, d.uuid? = some (.str r.uuid) ∧ d.port = P.localPort r.issuer

private theorem filter_rescanned (s : Script) :
    ∃ new, s.rescanned.sent = s.sent ++ new ∧ new.filter Datagram.isResult = [] := by
  rcases h : LooperDiscovery.scanResult s.live.song with e | found
  · rw [(rescanned_error_same h).1]
    exact ⟨[], (List.append_nil _).symm, rfl⟩
  · rw [(rescanned_ok_pushes h).1]
    exact ⟨_, rfl, filter_announcements _ _⟩

private theorem port_of_mem_responses {b : BridgeServer} {requestUuid answer : Json}
    {d : Datagram} (h : d ∈ responses b requestUuid answer) :
    b.target = some d.port ∧ d.uuid? = some requestUuid := by
  rw [responses] at h
  rcases hb : b.target with _ | port
  · simp [hb] at h
  · rw [hb] at h
    obtain rfl := List.mem_singleton.mp h
    exact ⟨rfl, by simp [Datagram.uuid?, responseMessage]⟩

/-- The server remembers a hello's port, and nothing else of a request. -/
private theorem target_request {s t : Script} {r : Request ι} {port : ℤ}
    (hserver : t.server = { s.server with
      pluginPort := pluginPortAfter s.server (MessageProtocol.messageToJson (r.message J P)) })
    (hport : t.server.target = some port) (hown : Traffic.ToOwnPort P s (.request r)) :
    port = P.localPort r.issuer := by
  cases r with
  | hello i uuid =>
    have hafter : pluginPortAfter s.server (MessageProtocol.messageToJson
        ((Request.hello i uuid).message J P)) = .int (P.localPort i) := by
      have hargs := MessageProtocol.args_createHello J uuid (P.localPort i)
      rw [pluginPortAfter, if_pos]
      · simp [argsOf, MessageProtocol.messageToJson, Request.message, hargs]
      · refine ⟨⟨rfl, rfl, rfl⟩, ?_⟩
        simp [argsOf, MessageProtocol.messageToJson, Request.message, hargs]
    rw [hserver, hafter, target, Option.bind_eq_some_iff] at hport
    obtain ⟨-, -, hport⟩ := hport
    simp only [asPort?] at hport
    split at hport
    · exact (Option.some.inj hport).symm
    · cases hport
  | command i msg notHello =>
    have hne : ¬isHello (MessageProtocol.messageToJson msg) := by
      rintro ⟨-, hname, hns⟩
      simp only [MessageProtocol.messageToJson, Json.get?_obj_cons] at hname hns
      exact notHello ⟨by simpa using hname, by simpa using hns⟩
    have hsame : t.server = s.server := by
      rw [hserver, pluginPortAfter, if_neg fun h => hne h.1]
    exact hown port (hsame ▸ hport)

/-- **The step lemma**: what a step sends as results answers its own request, at the port of
the instance that made it. -/
theorem returned_of_step {s t : Script} {e : Traffic ι} (hown : e.ToOwnPort P s)
    (h : e.step J P s t) : ∃ new, t.sent = s.sent ++ new ∧
      ∀ d ∈ new, d.isResult = true → Returned P (Traffic.requests [e]) d := by
  have hnone : ∀ {new : List Datagram}, new.filter Datagram.isResult = [] →
      ∀ d ∈ new, d.isResult = true → Returned P (Traffic.requests [e]) d := by
    intro new hnew d hd hres
    have hmem : d ∈ new.filter Datagram.isResult := List.mem_filter.mpr ⟨hd, hres⟩
    rw [hnew] at hmem
    cases hmem
  rw [Traffic.step] at h
  cases e with
  | request r =>
    obtain ⟨-, rfl⟩ := step_message h
    obtain ⟨hserver, new, hsent, hnew⟩ := (handling_handled s _ []).results
    refine ⟨new, hsent, ?_⟩
    rcases hnew with hnew | ⟨answer, hnew⟩
    · exact hnone hnew
    · -- The one result goes to the remembered port, which the guard ties to the requester.
      intro d hd hres
      have hmem : d ∈ new.filter Datagram.isResult := List.mem_filter.mpr ⟨hd, hres⟩
      rw [hnew] at hmem
      obtain ⟨hport, huuid⟩ := port_of_mem_responses hmem
      refine ⟨r, List.mem_singleton_self r, ?_, target_request hserver hport hown⟩
      rw [huuid]
      cases r <;> rfl
  | edit e =>
    obtain ⟨song, -, ⟨-, rfl⟩ | ⟨-, rfl⟩⟩ := step_edit h
    · obtain ⟨new, hsent, hnew⟩ := filter_rescanned (s.edited song)
      exact ⟨new, hsent, hnone hnew⟩
    · exact ⟨[], (List.append_nil _).symm, hnone rfl⟩
  | setParam i j k v =>
    obtain ⟨p, -, rfl⟩ := step_setParam h
    rw [assigned_eq]
    exact ⟨_, rfl, hnone (filter_reports _ _ _)⟩

/-- The run lemma: the same over a whole run. -/
theorem returned_of_run {s t : Script} {es : List (Traffic ι)}
    (h : Runs.Run (Runs.guarded (Traffic.ToOwnPort P) (Traffic.step J P)) s es t) :
    ∃ new, t.sent = s.sent ++ new ∧
      ∀ d ∈ new, d.isResult = true → Returned P (Traffic.requests es) d := by
  induction h with
  | nil s => exact ⟨[], (List.append_nil _).symm, fun d hd => absurd hd List.not_mem_nil⟩
  | @cons s t u e es hstep _ ih =>
    obtain ⟨hown, hst⟩ := hstep
    obtain ⟨new₁, hsent₁, hnew₁⟩ := returned_of_step hown hst
    obtain ⟨new₂, hsent₂, hnew₂⟩ := ih
    have hrequests : Traffic.requests (e :: es) =
        Traffic.requests [e] ++ Traffic.requests es := by
      cases e <;> rfl
    refine ⟨new₁ ++ new₂, by rw [hsent₂, hsent₁, List.append_assoc], fun d hd hres => ?_⟩
    rw [hrequests]
    rcases List.mem_append.mp hd with hd | hd
    · obtain ⟨r, hr, hback⟩ := hnew₁ d hd hres
      exact ⟨r, List.mem_append_left _ hr, hback⟩
    · obtain ⟨r, hr, hback⟩ := hnew₂ d hd hres
      exact ⟨r, List.mem_append_right _ hr, hback⟩

/-- Every result sent between two states goes to the instance that made the request it
answers, and none goes to an instance that did not make it. -/
def ResultsReturned (P : Instances ι) (s t : Script) (rs : List (Request ι)) : Prop :=
  ∃ new, t.sent = s.sent ++ new ∧ ∀ d ∈ new, d.isResult = true →
    (∀ r ∈ rs, d.uuid? = some (.str r.uuid) → d.port = P.localPort r.issuer) ∧
      ∀ i, d.port = P.localPort i → ∃ r ∈ rs, r.issuer = i ∧ d.uuid? = some (.str r.uuid)

/-- **Results go back to the requester** in every run in which each command is handled while
no port is remembered or the port of the instance that sent it. -/
theorem resultsReturned_of_run {s t : Script} {es : List (Traffic ι)}
    (h : Runs.Run (Runs.guarded (Traffic.ToOwnPort P) (Traffic.step J P)) s es t)
    (huuid : ((Traffic.requests es).map Request.uuid).Nodup) :
    ResultsReturned P s t (Traffic.requests es) := by
  obtain ⟨new, hsent, hnew⟩ := returned_of_run h
  refine ⟨new, hsent, fun d hd hres => ?_⟩
  obtain ⟨r, hr, hd', hport⟩ := hnew d hd hres
  constructor
  · intro r' hr' hd''
    rw [hd', Option.some_inj, Json.str.injEq] at hd''
    rw [hport, List.inj_on_of_nodup_map huuid hr hr' hd'']
  · intro i hi
    rw [hport] at hi
    exact ⟨r, hr, P.distinct (by exact_mod_cast hi), hd'⟩

/-- Two instances. -/
def twoInstances : Instances Bool where
  localPort second := if second then 7012 else 7010
  distinct a b h := by
    revert a b
    decide

/-- A ping of an instance. -/
def ping (i : Bool) : Request Bool :=
  .command i { uuid := "p", ns := "system", nsid := "", name := "ping", args := .null } (by decide)

/-- An instance that says hello and then pings. -/
theorem resultsReturned_ping : ∃ t, ResultsReturned twoInstances (begun .empty) t
    (Traffic.requests [.request (.hello false "h"), .request (ping false)]) := by
  refine ⟨_, resultsReturned_of_run (J := .plain) (.cons ⟨trivial, rfl⟩ (.cons ⟨?_, rfl⟩ (.nil _)))
    (by decide)⟩
  have htarget : ((begun .empty).handled [.json (MessageProtocol.messageToJson
      ((Request.hello false "h").message .plain twoInstances))]).server.target =
        some 7010 := by decide
  intro port hport
  exact (Option.some.inj (htarget.symm.trans hport)).symm

/-- **The last hello takes every answer**: the first instance's ping is answered at the port
of the second. -/
theorem not_resultsReturned : ¬∀ (J : Juce) (P : Instances Bool) (s t : Script)
    (es : List (Traffic Bool)), Reachable s → Runs.Run (Traffic.step J P) s es t →
      ((Traffic.requests es).map Request.uuid).Nodup →
        ResultsReturned P s t (Traffic.requests es) := by
  intro h
  obtain ⟨new, hsent, hnew⟩ := h .plain twoInstances (begun .empty) _
    [.request (.hello false "a"), .request (.hello true "b"), .request (ping false)]
    (.of_init (started_begun rfl)) (.cons rfl (.cons rfl (.cons rfl (.nil _)))) (by decide)
  have hsent₀ : (begun .empty).sent = [] := rfl
  rw [hsent₀, List.nil_append] at hsent
  -- The third datagram carries the answer to the ping, which the first instance made.
  have hmem : (⟨7012, "/loopercontrol/response", responseMessage (.str "p")
      (.obj [("success", .bool true), ("pong", .bool true)])⟩ : Datagram) ∈ new := by
    rw [← hsent]
    decide
  obtain ⟨hport, -⟩ := hnew _ hmem (by decide)
  exact absurd (hport (ping false) (by simp [Traffic.requests]) (by decide)) (by decide)

end LooperControl
