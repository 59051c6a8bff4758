import LooperControl.System.Addresses
import LooperControl.System.Shadow

/-!
# Commands in flight

Script and plugin are connected by two channels that keep the order of what is sent. The
plugin names a looper by its track id, a position in the track list, and by the time the
script handles the command the id may lead to another looper.

* **What the user saw**: an event describes the device that stands at its two positions when
  it is sent (`described`), and `Session.shown` is the device that the tracker's entry under
  an id was last written for (`mem_loopers_iff_of_run`).
* **The run theorem**: `actsOnSeen_of_run`. A command acts on the looper that was seen if it
  was sent while the script would take it for that looper, and no edit made while it is in
  flight lets its id lead to another one.
-/

namespace LooperControl

open Effect MessageProtocol BridgeClient LooperControlSurface BridgeServer Script LooperDiscovery

/-! ### The looper an id leads to -/

/-- The looper-like device at the address recorded under a track id. -/
def Script.target? (s : Script) (trackId : String) : Option ℕ :=
  ((s.recordedDevice? trackId).filter fun d => isLooperDevice d).map Device.id

/-- A value is no place. -/
theorem target?_setValue {s t : Script} (hs : Consistent s) {a b n : ℕ} {v : Double}
    (hfound : t.discoveredLoopers = s.discoveredLoopers)
    (hsong : t.live.song = s.live.song.setValue a b n v) (trackId : String) :
    t.target? trackId = s.target? trackId := by
  rw [Script.target?, Script.target?, Script.recordedDevice?, Script.recordedDevice?, hfound,
    hsong]
  rcases hinfo : s.discoveredLoopers.get? trackId with _ | info
  · rfl
  obtain ⟨i, j, rfl, -, hj⟩ := hs.entries trackId info hinfo
  rw [Option.bind_some, Option.bind_some, hj, deviceUnder?_toString, deviceUnder?_toString,
    deviceAt?_setValue]
  rcases s.live.song.deviceAt? i j with _ | d
  · rfl
  · have hsame : ∀ d' : Device, d'.id = d.id → isLooperDevice d' = isLooperDevice d →
        ((some d').filter fun d => isLooperDevice d).map Device.id =
          ((some d).filter fun d => isLooperDevice d).map Device.id := by
      intro d' hid hloop
      rw [Option.filter_some, Option.filter_some, hloop]
      split
      · rw [Option.map_some, Option.map_some, hid]
      · rfl
    rw [Option.map_some]
    refine hsame _ ?_ ?_
    · split <;> rfl
    · split
      · exact isLooperDevice_withValue n v d
      · rfl

/-- The looper an id leads to once a song has been rescanned: the last one on its track or, when
the scan raises, the one at the address recorded before. -/
def Script.targetIn? (s : Script) (song : Song) (trackId : String) : Option ℕ :=
  if AllReadable song then (lastLooper? song trackId).map fun f => f.device.id
  else (s.edited song).target? trackId

/-- A rescan makes the ids lead where its song says. -/
theorem target?_rescanned (s : Script) (song : Song) (trackId : String) :
    (s.edited song).rescanned.target? trackId = s.targetIn? song trackId := by
  rw [Script.targetIn?]
  rcases hscan : scanResult song with e | found
  · rw [if_neg (not_allReadable_of_scanResult hscan), rescanned_error (s := s.edited song) hscan]
    rfl
  rw [if_pos (allReadable_of_scanResult hscan), Script.target?, Script.recordedDevice?,
    rescanned_ok (s := s.edited song) hscan, scanned_discoveredLoopers, scanned_song]
  rcases hlast : lastLooper? song trackId with _ | f
  · have hnone : found.get? trackId = none := by
      rw [Option.eq_none_iff_forall_ne_some]
      intro info hinfo
      obtain ⟨f, hf, -⟩ := (get?_scanResult_iff hscan).mp hinfo
      rw [hlast] at hf
      cases hf
    rw [hnone]
    rfl
  · -- The entry of the last looper leads back to where the scan has just read it.
    obtain ⟨hf, rfl⟩ := mem_lastLooper? hlast
    obtain ⟨info, hread⟩ := exists_read_iff.mpr
      (allReadable_iff.mp (allReadable_of_scanResult hscan) f hf)
    have hunder := Traced.deviceUnder?_of_read hf hread
    rw [(read_ids hread).1] at hunder
    rw [(get?_scanResult_iff hscan).mpr ⟨f, hlast, hread⟩, Option.bind_some]
    change ((song.deviceUnder? _ _).filter _).map _ = _
    rw [hunder, Option.filter_some, if_pos (mem_looperDevices.mp hf).2.2]
    rfl

/-- A message that asks the script to write a parameter of the looper under a track id. -/
structure Asks (msg : Message) (trackId : String) : Prop where
  ns : msg.ns = "looper"
  name : msg.name ∈ writingNames
  version : msg.version = 1
  isObj : msg.args.isObj = true
  trackId : msg.args.get? "track_id" = some (.str trackId)

/-- What the command handler returns is sent as the answer. -/
private theorem handled_of_exec {s t : Script} {message answer : Json}
    (hobj : message.isObj = true) (hcommand : isCommand message)
    (h : exec (handleCommand ((message.get? "ns").getD (.str ""))
      ((message.get? "nsid").getD (.str "")) ((message.get? "name").getD (.str ""))
        (argsOf message)) s = (.ok (some answer), t)) :
    s.handled [.json message] = respond t (uuidOf message) answer := by
  rw [Script.handled, exec_onOscMessage, exec_handleMessage_command hobj hcommand, h]

/-- What an asking message does: it is refused, or a parameter of the looper that the id leads
to is assigned. -/
theorem handled_asks {s : Script} {msg : Message} {trackId : String} (h : Asks msg trackId) :
    (∃ answer, s.handled [.json (messageToJson msg)] = respond s (.str msg.uuid) answer ∧
      answer.get? "success" = some (.bool false)) ∨
    ∃ i j k p v, s.target? trackId = some p.id.device ∧
      s.handled [.json (messageToJson msg)] =
        respond (assigned s i j k p v) (.str msg.uuid) succeeded := by
  obtain ⟨uuid, ns, nsid, name, args, version⟩ := msg
  obtain ⟨hns, hname, hversion, hargs, htrack⟩ := h
  dsimp only at hns hname hversion hargs htrack
  subst hns hversion
  have hcommand : isCommand (messageToJson ⟨uuid, "looper", nsid, name, args, 1⟩) :=
    ⟨rfl, fun h => absurd h.2 (by simp [messageToJson])⟩
  rcases exec_handleCommand_write s (.str nsid) hname hargs with ⟨answer, hexec, hanswer⟩ |
    ⟨key, device, i, j, k, p, v, hkey, hrecorded, hloop, hat, hp, hexec⟩
  · exact .inl ⟨answer, handled_of_exec rfl hcommand hexec, hanswer⟩
  · have heq : key = trackId := by
      rw [trackIdOf, htrack] at hkey
      exact (Json.str.inj hkey).symm
    refine .inr ⟨i, j, k, p, v, ?_, handled_of_exec rfl hcommand hexec⟩
    rw [Script.target?, ← heq, hrecorded, Option.filter_some, if_pos hloop, Option.map_some,
      device_of_deviceAt? hat hp]

/-! ### What an event describes -/

/-- What the script sends in a song: an event with what it has read from a device there, or a
response. -/
inductive Emitted (song : Song) : Json → Prop
  | event (name : String) (f : FoundDevice) (info : LooperInfo)
      (hname : name = "looper_discovered" ∨ name = "looper_state_changed")
      (hf : f ∈ looperDevices song.tracks) (hread : f.read = .ok info) :
      Emitted song (eventMessage name info.toJson)
  | response (requestUuid answer : Json) : Emitted song (responseMessage requestUuid answer)

private theorem emitted_announcements {song : Song} {found : Dict String LooperInfo}
    (h : scanResult song = .ok found) (b : BridgeServer) :
    ∀ d ∈ announcements b found.items, Emitted song d.payload := by
  intro d hd
  rw [announcements, List.mem_flatMap] at hd
  obtain ⟨port, -, hd⟩ := hd
  obtain ⟨item, hitem, rfl⟩ := List.mem_map.mp hd
  obtain ⟨f, hf, hread, -⟩ := mem_scanResult h (Dict.get?_eq_some_iff.mpr hitem)
  exact .event _ f _ (.inl rfl) hf hread

private theorem emitted_reports (b : BridgeServer) (song : Song) (listeners : List Listener) :
    ∀ d ∈ reports b song listeners, Emitted song d.payload := by
  intro d hd
  rw [reports, List.mem_flatMap] at hd
  obtain ⟨port, -, hd⟩ := hd
  obtain ⟨info, hmem, rfl⟩ := List.mem_map.mp hd
  obtain ⟨l, -, hinfo⟩ := List.mem_filterMap.mp hmem
  obtain ⟨trackName, -, deviceName, -, f, hf, hok⟩ := reported_eq_some_iff.mp hinfo
  rw [findByName_eq] at hf
  exact .event _ f info (.inr rfl) (List.mem_of_find?_eq_some hf) hok

private theorem emitted_responses (b : BridgeServer) (song : Song) (requestUuid answer : Json) :
    ∀ d ∈ responses b requestUuid answer, Emitted song d.payload := by
  intro d hd
  rw [responses, Option.mem_toList, Option.map_eq_some_iff] at hd
  obtain ⟨port, -, rfl⟩ := hd
  exact .response requestUuid answer

/-- What a rescan sends. -/
private theorem emitted_rescanned (s : Script) : ∃ new, s.rescanned.sent = s.sent ++ new ∧
    ∀ d ∈ new, Emitted s.rescanned.live.song d.payload := by
  rcases h : scanResult s.live.song with e | found
  · rw [rescanned_error h]
    exact ⟨[], (List.append_nil _).symm, fun d hd => absurd hd List.not_mem_nil⟩
  · rw [rescanned_ok h, scanned_sent, scanned_song]
    exact ⟨_, rfl, emitted_announcements h _⟩

/-- What a command sends before it is answered. -/
private theorem emitted_outcome {s t : Script} {ns name args : Json}
    {r : Except PyExc (Option Json)} (h : Outcome s ns name args (r, t)) :
    ∃ new, t.sent = s.sent ++ new ∧ ∀ d ∈ new, Emitted t.live.song d.payload := by
  cases h with
  | discovered found _ _ h =>
    rw [← rescanned_ok h]
    exact emitted_rescanned s
  | scanRaised e _ _ h =>
    rw [← rescanned_error h]
    exact emitted_rescanned s
  | wrote key paramName info trackIdx deviceIdx i j k p v =>
    rw [assigned_eq]
    exact ⟨_, rfl, emitted_reports _ _ _⟩
  | _ => exact ⟨[], (List.append_nil _).symm, fun d hd => absurd hd List.not_mem_nil⟩

/-- An answer comes after what the command has sent. -/
private theorem emitted_respond {s t : Script} {new : List Datagram}
    (hsent : t.sent = s.sent ++ new) (hnew : ∀ d ∈ new, Emitted t.live.song d.payload)
    (requestUuid answer : Json) : ∃ new, (respond t requestUuid answer).sent = s.sent ++ new ∧
      ∀ d ∈ new, Emitted (respond t requestUuid answer).live.song d.payload := by
  refine ⟨new ++ responses t.server requestUuid answer, ?_, fun d hd => ?_⟩
  · rw [← List.append_assoc, ← hsent]
    rfl
  · rcases List.mem_append.mp hd with hd | hd
    · exact hnew d hd
    · exact emitted_responses _ _ _ _ d hd

/-- **Everything the script sends** is an event with what stands in its song at that time, or a
response. -/
theorem emitted_step {s t : Script} {e : Script.Event} (h : s.step e = some t) :
    ∃ new, t.sent = s.sent ++ new ∧ ∀ d ∈ new, Emitted t.live.song d.payload := by
  have hsilent : ∀ u : Script, u.sent = s.sent →
      ∃ new, u.sent = s.sent ++ new ∧ ∀ d ∈ new, Emitted u.live.song d.payload :=
    fun u hu => ⟨[], by rw [hu, List.append_nil], fun d hd => absurd hd List.not_mem_nil⟩
  cases e with
  | edit e =>
    obtain ⟨song, -, ⟨-, rfl⟩ | ⟨-, rfl⟩⟩ := step_edit h
    · exact emitted_rescanned (s.edited song)
    · exact hsilent _ rfl
  | setParam i j k v =>
    obtain ⟨p, -, rfl⟩ := step_setParam h
    rw [assigned_eq]
    exact ⟨_, rfl, emitted_reports _ _ _⟩
  | message args =>
    obtain ⟨-, rfl⟩ := step_message h
    rcases handled_cases s args with ⟨message, rest, rfl, hhandling⟩ | ⟨-, hsame⟩
    · generalize s.handled (.json message :: rest) = t at hhandling ⊢
      cases hhandling with
      | notObject => exact hsilent s rfl
      | helloNoArgs => exact hsilent s rfl
      | helloNoUuid => exact hsilent _ rfl
      | mismatch =>
        obtain ⟨new, hsent, hnew⟩ := hsilent s rfl
        exact emitted_respond hsent hnew _ _
      | hello =>
        obtain ⟨new, hsent, hnew⟩ := hsilent
          (announce s (((argsOf message).get? "port").getD (.int 7010))) rfl
        exact emitted_respond hsent hnew _ _
      | answered answer t' _ _ hout =>
        obtain ⟨new, hsent, hnew⟩ := emitted_outcome hout
        exact emitted_respond hsent hnew _ _
      | raised e t' _ _ hout => exact emitted_outcome hout
    · rw [hsame]
      exact hsilent s rfl

/-- The id that a message is written under and the device it describes, for a message sent in
a song: the one at the two positions it gives. -/
def described (song : Song) (message : Json) : Option (String × ℕ) :=
  if message.get? "event" = some (.str "looper_discovered") ∨
      message.get? "event" = some (.str "looper_state_changed") then
    match property "track_id" (property "data" message),
      property "device_id" (property "data" message) with
    | .str trackId, .str deviceId =>
      (song.deviceUnder? trackId deviceId).map fun d => (trackId, d.id)
    | _, _ => none
  else none

theorem described_event {song : Song} {name : String} {f : FoundDevice} {info : LooperInfo}
    (hname : name = "looper_discovered" ∨ name = "looper_state_changed")
    (hf : f ∈ looperDevices song.tracks) (hread : f.read = .ok info) :
    described song (eventMessage name info.toJson) = some (info.trackId, f.device.id) := by
  have hunder := Traced.deviceUnder?_of_read hf hread
  rw [described, if_pos]
  · simp [eventMessage, LooperInfo.toJson, hunder]
  · rcases hname with rfl | rfl
    · exact .inl (by simp [eventMessage])
    · exact .inr (by simp [eventMessage])

variable {J : Juce}

/-- The tracker writes an entry under the id that a received message describes, and otherwise
none. -/
theorem rows_received {song : Song} {payload : Json} (h : Emitted song payload)
    (c : BridgeClient) (k : String) :
    (rows (oscMessageReceived J c (received payload)) k).isSome ↔
      (∃ p, described song (received payload) = some p ∧ p.1 = k) ∨ (rows c k).isSome := by
  cases h with
  | event name f info hname hf hread =>
    rcases hfinite : info.feedback.isFinite with _ | _
    · -- `Infinity` and `NaN` are no JSON, and the plugin ignores the whole message.
      have hnull : received (eventMessage name info.toJson) = .null := by
        rw [received, if_neg]
        rw [isFinite_eventMessage, hfinite]
        exact Bool.false_ne_true
      rw [oscMessageReceived_not_finite hfinite, hnull]
      simp [described, Json.get?]
    · have hsame : received (eventMessage name info.toJson) = eventMessage name info.toJson :=
        received_of_isFinite ((isFinite_eventMessage name info).trans hfinite)
      have hput : rows (oscMessageReceived J c (received (eventMessage name info.toJson))) =
          (rows c).put (info.trackId, info.identity) := by
        rcases hname with rfl | rfl
        · exact rows_discovered hfinite c
        · exact rows_changed hfinite c
      rw [hput, hsame, described_event hname hf hread, Store.put_apply]
      by_cases hk : k = info.trackId
      · simp [hk]
      · rw [if_neg hk]
        constructor
        · exact .inr
        · rintro (⟨p, hp, rfl⟩ | hrow)
          · cases hp
            exact absurd rfl hk
          · exact hrow
  | response requestUuid answer =>
    rw [rows_response]
    have hnone : described song (received (responseMessage requestUuid answer)) = none := by
      rw [received]
      split
      · rw [described, if_neg]
        simp [responseMessage]
      · rfl
    rw [hnone]
    simp

/-! ### Sessions -/

/-- A command on its way, with the id it names and the device that the tracker's entry under
that id described when it was sent. -/
structure Command where
  message : Message
  trackId : String
  seen : Option ℕ
  asks : Asks message trackId

/-- A script and a plugin with what is on its way between them. An event is on its way with the
id and the device it describes; `shown` are the devices that the tracker's entries describe. -/
structure Session where
  script : Script
  client : BridgeClient
  shown : Store String ℕ := fun _ => none
  events : List (Datagram × Option (String × ℕ)) := []
  commands : List Command := []

/-- What goes on in a session: the track list is edited, a parameter is changed in Live, the
plugin's request to rescan is handled, the oldest event arrives at the plugin, a command is
sent, or the oldest command arrives at the script. -/
inductive Action
  | edit (e : SongEdit) (trackList : e.changesTrackList = true)
  | setParam (i j k : ℕ) (v : Double)
  | discover (uuid nsid : String)
  | deliver
  | send (trackId : String) (message : Message) (asks : Asks message trackId)
  | handle

namespace Session

/-- A session that starts: nothing is on its way, and the tracker is empty. -/
structure Starts (s : Session) : Prop where
  reachable : Script.Reachable s.script
  loopers : s.client.tracker.loopers = ∅
  shown : ∀ k, s.shown k = none
  events : s.events = []
  commands : s.commands = []

/-- The session after the script has come to a new state, and what it has sent is on its way. -/
def advance (s : Session) (script : Script) : Session :=
  { s with
    script := script
    events := s.events ++ (script.sent.drop s.script.sent.length).map fun d =>
      (d, described script.live.song (received d.payload)) }

variable (J) in
/-- The session after an action, if the action can happen. -/
def step (s : Session) : Action → Option Session
  | .edit e _ => (s.script.step (.edit e)).map s.advance
  | .setParam i j k v => (s.script.step (.setParam i j k v)).map s.advance
  | .discover uuid nsid =>
    (s.script.step (.message [.json (messageToJson (createDiscover uuid nsid))])).map s.advance
  | .deliver =>
    match s.events with
    | [] => none
    | (d, p) :: events => some { s with
        client := oscMessageReceived J s.client (received d.payload)
        shown := s.shown.replay p.toList
        events := events }
  | .send trackId message asks =>
    some { s with commands := s.commands ++ [⟨message, trackId, s.shown trackId, asks⟩] }
  | .handle =>
    match s.commands with
    | [] => none
    | c :: commands =>
      (s.script.step (.message [.json (messageToJson c.message)])).map fun script =>
        { s.advance script with commands := commands }

/-- Between two states the oldest command acts on the device that was seen when it was sent, and
on nothing else, or it is refused. -/
def ActsOnSeen (s t : Session) : Prop :=
  ∀ c ∈ s.commands.head?,
    (∃ p v, t.script.live.assigned = s.script.live.assigned ++ [(p, v)] ∧
      c.seen = some p.device) ∨
    ∃ answer, t.script = respond s.script (.str c.message.uuid) answer ∧
      answer.get? "success" = some (.bool false)

/-- In a song that is rescanned the id of each command on its way leads to the device that was
seen, or to none. -/
def Leaves (s : Session) (song : Song) : Prop :=
  ∀ c ∈ s.commands,
    s.script.targetIn? song c.trackId = none ∨ s.script.targetIn? song c.trackId = c.seen

/-- The condition on an action: a command is sent while its id leads the script to the device
that is shown, or to none, and the songs that are rescanned while the command is on its way
leave it so. -/
def Steady (s : Session) : Action → Prop
  | .edit e _ => ∀ song, e.apply s.script.live.song = some song → s.Leaves song
  | .discover _ _ => s.Leaves s.script.live.song
  | .send trackId _ _ =>
    s.script.target? trackId = none ∨ s.script.target? trackId = s.shown trackId
  | _ => True

/-! ### What every action keeps -/

/-- What is shown is the domain of the tracker, now and after every event on its way. -/
structure Showing (s : Session) : Prop where
  rows : ∀ k, (rows s.client k).isSome ↔ (s.shown k).isSome
  events : ∀ d ∈ s.events, ∃ song, Emitted song d.1.payload ∧
    d.2 = described song (received d.1.payload)

private theorem Showing.advance {s : Session} {script : Script} {e : Script.Event}
    (hs : Showing s) (h : s.script.step e = some script) : Showing (s.advance script) := by
  obtain ⟨new, hsent, hnew⟩ := emitted_step h
  refine ⟨hs.rows, fun d hd => ?_⟩
  rw [Session.advance, hsent, List.drop_left] at hd
  rcases List.mem_append.mp hd with hd | hd
  · exact hs.events d hd
  · obtain ⟨d', hd', rfl⟩ := List.mem_map.mp hd
    exact ⟨script.live.song, hnew d' hd', rfl⟩

/-- Every action keeps what is shown in step with the tracker. -/
theorem Showing.step {s t : Session} {a : Action} (hs : Showing s) (h : s.step J a = some t) :
    Showing t := by
  cases a with
  | edit e _ =>
    obtain ⟨script, hscript, rfl⟩ := Option.map_eq_some_iff.mp h
    exact hs.advance hscript
  | setParam i j k v =>
    obtain ⟨script, hscript, rfl⟩ := Option.map_eq_some_iff.mp h
    exact hs.advance hscript
  | discover uuid nsid =>
    obtain ⟨script, hscript, rfl⟩ := Option.map_eq_some_iff.mp h
    exact hs.advance hscript
  | deliver =>
    rw [Session.step] at h
    rcases hevents : s.events with _ | ⟨⟨d, p⟩, events⟩
    · rw [hevents] at h
      cases h
    rw [hevents] at h
    cases h
    obtain ⟨song, hemitted, hp⟩ := hs.events (d, p) (by rw [hevents]; exact List.mem_cons_self)
    refine ⟨fun k => ?_, fun d' hd' => hs.events d' (by
      rw [hevents]
      exact List.mem_cons_of_mem _ hd')⟩
    rw [rows_received hemitted, Store.isSome_replay, hs.rows k]
    dsimp only at hp
    rw [← hp]
    cases p with
    | none => simp
    | some p => simp [@eq_comm _ k p.1]
  | send trackId message asks =>
    cases h
    exact ⟨hs.rows, hs.events⟩
  | handle =>
    rw [Session.step] at h
    rcases hcommands : s.commands with _ | ⟨c, commands⟩
    · rw [hcommands] at h
      cases h
    rw [hcommands] at h
    obtain ⟨script, hscript, rfl⟩ := Option.map_eq_some_iff.mp h
    exact ⟨(hs.advance hscript).rows, (hs.advance hscript).events⟩

/-- **What is shown is what the tracker has entries for**, in every run of a session. -/
theorem mem_loopers_iff_of_run {s t : Session} {as : List Action} (hs : Starts s)
    (hrun : Runs.Run (Runs.ofFun (step J)) s as t) (k : String) :
    k ∈ t.client.tracker.loopers ↔ (t.shown k).isSome := by
  have hstart : Showing s := by
    refine ⟨fun k => ?_, fun d hd => absurd hd (by rw [hs.events]; exact List.not_mem_nil)⟩
    rw [isSome_rows_iff, hs.loopers, hs.shown k]
    simp
  have hend : Showing t := hrun.invariant (fun _ _ _ hu h => hu.step h) hstart
  rw [← isSome_rows_iff, hend.rows k]

/-- The script is consistent, and the id of each command on its way leads to the device that was
seen, or to none. -/
structure Aligned (s : Session) : Prop where
  consistent : Consistent s.script
  commands : ∀ c ∈ s.commands,
    s.script.target? c.trackId = none ∨ s.script.target? c.trackId = c.seen

/-- A command at the head of its channel acts on what was seen, and leads no other astray. -/
private theorem handled_command {s : Session} (hs : Aligned s) {c : Command}
    (hc : c ∈ s.commands) :
    ((∃ p v, (s.script.handled [.json (messageToJson c.message)]).live.assigned =
        s.script.live.assigned ++ [(p, v)] ∧ c.seen = some p.device) ∨
      ∃ answer, s.script.handled [.json (messageToJson c.message)] =
        respond s.script (.str c.message.uuid) answer ∧
          answer.get? "success" = some (.bool false)) ∧
    ∀ trackId, (s.script.handled [.json (messageToJson c.message)]).target? trackId =
      s.script.target? trackId := by
  rcases handled_asks (s := s.script) c.asks with ⟨answer, heq, hanswer⟩ |
    ⟨i, j, k, p, v, htarget, heq⟩
  · refine ⟨.inr ⟨answer, heq, hanswer⟩, fun trackId => ?_⟩
    rw [heq]
    rfl
  · -- It writes, so that its id leads to a looper, and that is the one that was seen.
    have hseen : c.seen = some p.id.device := by
      rcases hs.commands c hc with hnone | hsome
      · rw [hnone] at htarget
        cases htarget
      · rw [← hsome, htarget]
    refine ⟨.inl ⟨p.id, v, ?_, hseen⟩, fun trackId => ?_⟩
    · rw [heq, assigned_eq]
      rfl
    · refine target?_setValue hs.consistent (a := i) (b := j) (n := k) (v := v) ?_ ?_ trackId
      · rw [heq, assigned_eq]
        rfl
      · rw [heq, assigned_eq]
        rfl

/-- **The step lemma**: a steady action keeps the commands on their way aligned. -/
theorem Aligned.step {s t : Session} {a : Action} (hs : Aligned s) (ha : s.Steady a)
    (h : s.step J a = some t) : Aligned t := by
  cases a with
  | edit e hlist =>
    obtain ⟨script, hscript, rfl⟩ := Option.map_eq_some_iff.mp h
    refine ⟨kept_consistent.step hs.consistent hscript, fun c hc => ?_⟩
    obtain ⟨song, hsong, ⟨-, rfl⟩ | ⟨hnot, -⟩⟩ := step_edit hscript
    · change (s.script.edited song).rescanned.target? c.trackId = none ∨
        (s.script.edited song).rescanned.target? c.trackId = c.seen
      rw [target?_rescanned]
      exact ha song hsong c hc
    · rw [hlist] at hnot
      cases hnot
  | setParam i j k v =>
    obtain ⟨script, hscript, rfl⟩ := Option.map_eq_some_iff.mp h
    refine ⟨kept_consistent.step hs.consistent hscript, fun c hc => ?_⟩
    obtain ⟨p, -, rfl⟩ := step_setParam hscript
    have htarget : (s.advance (assigned s.script i j k p v)).script.target? c.trackId =
        s.script.target? c.trackId := by
      refine target?_setValue hs.consistent (a := i) (b := j) (n := k) (v := v) ?_ ?_ _
      · change (assigned s.script i j k p v).discoveredLoopers = _
        rw [assigned_eq]
        rfl
      · change (assigned s.script i j k p v).live.song = _
        rw [assigned_eq]
        rfl
    rw [htarget]
    exact hs.commands c hc
  | discover uuid nsid =>
    obtain ⟨script, hscript, rfl⟩ := Option.map_eq_some_iff.mp h
    refine ⟨kept_consistent.step hs.consistent hscript, fun c hc => ?_⟩
    obtain ⟨-, hscript⟩ := step_message hscript
    have htarget : script.target? c.trackId = s.script.rescanned.target? c.trackId := by
      rcases handled_discover s.script uuid nsid with ⟨found, -, heq⟩ | ⟨err, -, heq⟩
      · rw [hscript, heq]
        rfl
      · rw [hscript, heq]
    change script.target? c.trackId = none ∨ script.target? c.trackId = c.seen
    rw [htarget]
    exact target?_rescanned s.script s.script.live.song c.trackId ▸ ha c hc
  | deliver =>
    rw [Session.step] at h
    split at h
    · cases h
    · cases h
      exact ⟨hs.consistent, hs.commands⟩
  | send trackId message asks =>
    cases h
    refine ⟨hs.consistent, fun c hc => ?_⟩
    rcases List.mem_append.mp hc with hc | hc
    · exact hs.commands c hc
    · obtain rfl := List.mem_singleton.mp hc
      exact ha
  | handle =>
    rw [Session.step] at h
    rcases hcommands : s.commands with _ | ⟨c, commands⟩
    · rw [hcommands] at h
      cases h
    rw [hcommands] at h
    obtain ⟨script, hscript, rfl⟩ := Option.map_eq_some_iff.mp h
    refine ⟨kept_consistent.step hs.consistent hscript, fun c' hc' => ?_⟩
    have hmem : c ∈ s.commands := by
      rw [hcommands]
      exact List.mem_cons_self
    obtain ⟨-, rfl⟩ := step_message hscript
    have htarget := (handled_command hs hmem).2 c'.trackId
    change (s.script.handled _).target? c'.trackId = none ∨
      (s.script.handled _).target? c'.trackId = _
    rw [htarget]
    exact hs.commands c' (by rw [hcommands]; exact List.mem_cons_of_mem _ hc')

/-- **A command acts on the looper the user saw**, or it is refused, in every run of steady
actions. -/
theorem actsOnSeen_of_run {s t u : Session} {as : List Action} (hs : Starts s)
    (hrun : Runs.Run (Runs.guarded Steady (Runs.ofFun (step J))) s as t)
    (hstep : t.step J .handle = some u) : ActsOnSeen t u := by
  have hstart : Aligned s :=
    ⟨hs.reachable.consistent, fun c hc => absurd hc (by rw [hs.commands]; exact List.not_mem_nil)⟩
  have ht : Aligned t := hrun.invariant (fun _ _ _ hu h => hu.step h.1 h.2) hstart
  intro c hc
  rw [Option.mem_def] at hc
  have hmem : c ∈ t.commands := List.mem_of_mem_head? hc
  rw [Session.step] at hstep
  rcases hcommands : t.commands with _ | ⟨c', commands⟩
  · rw [hcommands] at hc
    cases hc
  rw [hcommands] at hc hstep
  obtain rfl := Option.some.inj hc
  obtain ⟨script, hscript, rfl⟩ := Option.map_eq_some_iff.mp hstep
  obtain ⟨-, rfl⟩ := step_message hscript
  exact (handled_command ht hmem).1

/-- A command that sets the feedback of the looper under id 0. -/
def quarter : Message :=
  { uuid := "c", ns := "looper", nsid := "0", name := "set_feedback"
    args := .obj [("track_id", .str "0"), ("feedback", .float (.finite (1 / 4)))] }

theorem asks_quarter : Asks quarter "0" := ⟨rfl, by decide, rfl, rfl, rfl⟩

/-- A looper that is found, shown, and asked to change. -/
theorem actsOnSeen_oneLooper : ∃ t u, ActsOnSeen t u ∧ u.script.live.assigned.length = 1 := by
  have hstart : Starts ⟨met oneLooper, {}, fun _ => none, [], []⟩ :=
    ⟨@reachable_met oneLooper _ rfl (by decide +kernel), rfl, fun _ => rfl, rfl, rfl⟩
  -- The script and the tracker agree on the looper under id 0 when the command is sent.
  have hfacts : ((step .plain ⟨met oneLooper, {}, fun _ => none, [], []⟩ (.discover "u" "")).bind
      fun s₁ => (step .plain s₁ .deliver).bind fun s₂ => (step .plain s₂ .deliver).bind
        fun s₃ => (step .plain s₃ (.send "0" quarter asks_quarter)).bind fun t =>
          (step .plain t .handle).map fun u =>
            (decide (s₃.script.target? "0" = s₃.shown "0"), u.script.live.assigned.length)) =
              some (true, 1) := by
    decide +kernel
  obtain ⟨s₁, h₁, hfacts⟩ := Option.bind_eq_some_iff.mp hfacts
  obtain ⟨s₂, h₂, hfacts⟩ := Option.bind_eq_some_iff.mp hfacts
  obtain ⟨s₃, h₃, hfacts⟩ := Option.bind_eq_some_iff.mp hfacts
  obtain ⟨t, ht, hfacts⟩ := Option.bind_eq_some_iff.mp hfacts
  obtain ⟨u, hu, hfacts⟩ := Option.map_eq_some_iff.mp hfacts
  obtain ⟨hshown, hlength⟩ := Prod.mk.inj hfacts
  have hrun : Runs.Run (Runs.guarded Steady (Runs.ofFun (step .plain))) _
      [.discover "u" "", .deliver, .deliver, .send "0" quarter asks_quarter] t :=
    .cons ⟨fun c hc => absurd hc List.not_mem_nil, h₁⟩ (.cons ⟨trivial, h₂⟩
      (.cons ⟨trivial, h₃⟩ (.cons ⟨.inr (of_decide_eq_true hshown), ht⟩ (.nil t))))
  exact ⟨t, u, actsOnSeen_of_run hstart hrun hu, hlength⟩

end Session

/-- A song with a looper on each of two tracks. -/
def guitarAndBass : Song :=
  ⟨[⟨0, "Guitar", [⟨0, "Looper", "Looper", [⟨⟨0, 0⟩, "Feedback", .finite 1, fun _ => true, true⟩],
      true⟩]⟩,
    ⟨1, "Bass", [⟨1, "Looper", "Looper", [⟨⟨1, 0⟩, "Feedback", .finite 1, fun _ => true, true⟩],
      true⟩]⟩], by decide⟩

namespace Session

/-- **A track is deleted while a command is on its way**: it acts on the next track's looper. -/
theorem not_actsOnSeen : ¬∀ (J : Juce) (s t u : Session) (as : List Action), Starts s →
    Runs.Run (Runs.ofFun (step J)) s as t → t.step J .handle = some u → ActsOnSeen t u := by
  intro h
  have hstart : Starts ⟨met guitarAndBass, {}, fun _ => none, [], []⟩ :=
    ⟨@reachable_met guitarAndBass _ rfl (by decide +kernel), rfl, fun _ => rfl, rfl, rfl⟩
  let actions : List Action := [.discover "u" "", .deliver, .deliver, .deliver,
    .send "0" quarter asks_quarter, .edit (.deleteTrack 0) rfl]
  -- The command saw device 0, and the one parameter assigned is of device 1.
  have hfacts : ((actions.foldlM (step .plain) ⟨met guitarAndBass, {}, fun _ => none, [], []⟩).bind
      fun t => (t.step .plain .handle).map fun u => (t.commands.head?.map Command.seen,
        t.script.live.assigned.length, u.script.live.assigned.map Prod.fst)) =
          some (some (some 0), 0, [⟨1, 0⟩]) := by
    decide +kernel
  obtain ⟨t, ht, hfacts⟩ := Option.bind_eq_some_iff.mp hfacts
  obtain ⟨u, hu, hfacts⟩ := Option.map_eq_some_iff.mp hfacts
  obtain ⟨hseen, hbefore, hafter⟩ : t.commands.head?.map Command.seen = some (some 0) ∧
      t.script.live.assigned = [] ∧ u.script.live.assigned.map Prod.fst = [⟨1, 0⟩] := by
    simpa using hfacts
  obtain ⟨c, hc, hseen⟩ := Option.map_eq_some_iff.mp hseen
  have hacts := h .plain _ t u actions hstart (Runs.run_ofFun_iff.mpr ht) hu c hc
  rw [hbefore] at hacts
  obtain ⟨p, v, hassigned, hdevice⟩ | ⟨answer, hanswer, -⟩ := hacts
  · rw [hassigned] at hafter
    obtain rfl : p = ⟨1, 0⟩ := by simpa using hafter
    rw [hseen] at hdevice
    exact absurd hdevice (by decide)
  · have hsame : u.script.live.assigned = t.script.live.assigned := by
      rw [hanswer]
      rfl
    rw [hsame, hbefore] at hafter
    cases hafter

end Session

end LooperControl
