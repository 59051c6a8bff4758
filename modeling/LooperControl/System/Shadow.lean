import LooperControl.System.ParamChange
import LooperControl.System.Responses
import LooperControl.System.StatePush

/-!
# The shadow state

The plugin's tracker is meant to be a copy of the script's discovered loopers. Both are seen
here as stores from track ids to what identifies the device (`Identity`), and every datagram
of the script is a write to the tracker's store.

* **The abstract copy**: a pushed scan replays all items of a dictionary, a reported change
  writes one pair (`rows_deliver_announcements`, `rows_deliver_reports`).
* **The run theorem**: `agree_of_run`. The copy is exact after a scan when the tracker holds
  no id that the scan lost (no removal is ever sent), and stays exact when the changes
  reported are those of recorded devices (`Faithful`).
-/

namespace LooperControl

open MessageProtocol BridgeClient LooperControlSurface BridgeServer Script LooperDiscovery

/-- What identifies the device of an entry: its `deviceId` and its `deviceName`. -/
abbrev Identity : Type := String × String

/-- The identity in a dictionary of the script. -/
def LooperInfo.identity (info : LooperInfo) : Identity := (info.deviceId, info.deviceName)

/-- The identity in a state of the plugin. -/
def LooperState.identity (state : LooperState) : Identity := (state.deviceId, state.deviceName)

/-- The tracker as a store of identities. -/
def rows (c : BridgeClient) : Store String Identity :=
  Store.through LooperState.identity c.tracker.getLooper

/-- The discovered loopers as a store of identities. -/
def entries (found : Dict String LooperInfo) : Store String Identity :=
  Store.through LooperInfo.identity found.view

theorem isSome_rows_iff {c : BridgeClient} {k : String} :
    (rows c k).isSome ↔ k ∈ c.tracker.loopers := by
  rw [rows, Store.through, Option.isSome_map, Std.ExtTreeMap.mem_iff_isSome_getElem?]
  rfl

/-! ### What an event writes -/

variable {J : Juce}

/-- A pushed entry is written under its track id. -/
theorem rows_discovered {info : LooperInfo} (h : info.feedback.isFinite = true)
    (c : BridgeClient) :
    rows (oscMessageReceived J c (received (discoveredEvent info))) =
      (rows c).put (info.trackId, info.identity) := by
  rw [oscMessageReceived_discovered h]
  funext k
  rw [rows, Store.put_apply, Store.through, LooperTracker.getLooper_addLooper,
    LooperInfo.toState_trackId]
  by_cases hk : k = info.trackId
  · rw [if_pos hk, if_pos hk]
    rfl
  · rw [if_neg hk, if_neg hk]
    rfl

/-- A reported change is written under its track id. -/
theorem rows_changed {info : LooperInfo} (h : info.feedback.isFinite = true) (c : BridgeClient) :
    rows (oscMessageReceived J c (received (changedEvent info))) =
      (rows c).put (info.trackId, info.identity) := by
  rw [oscMessageReceived_changed h]
  funext k
  rw [rows, Store.put_apply, Store.through, LooperTracker.getLooper_updateState]
  by_cases hk : k = info.trackId
  · -- The entry kept may be the old one, but then it compares equal to the one reported.
    rw [if_pos hk, if_pos hk, Option.map_some]
    rcases LooperTracker.updated_eq_or_same (c.tracker.getLooper info.trackId)
      (info.toState J) with heq | hsame
    · rw [heq]
      rfl
    · rw [(LooperState.eq_of_same hsame).1]
      rfl
  · rw [if_neg hk, if_neg hk]
    rfl

theorem rows_response (c : BridgeClient) (requestUuid answer : Json) :
    rows (oscMessageReceived J c (received (responseMessage requestUuid answer))) = rows c := by
  rw [rows, tracker_response]
  rfl

/-! ### What a list of datagrams writes -/

/-- **A pushed scan replays its items.** -/
theorem rows_deliver_announcements {b : BridgeServer} {port : ℤ} (hb : b.target = some port)
    {items : List (String × LooperInfo)} (hkeys : ∀ item ∈ items, item.1 = item.2.trackId)
    (hfinite : ∀ item ∈ items, item.2.feedback.isFinite = true) (c : BridgeClient) :
    rows (deliver J c (announcements b items)) =
      (rows c).replay (items.map fun item => (item.1, item.2.identity)) := by
  have hmap : announcements b items = items.map fun item =>
      ⟨port, oscPrefix ++ "/event", discoveredEvent item.2⟩ := by
    rw [announcements, hb]
    simp
  rw [hmap]
  clear hmap
  induction items generalizing c with
  | nil => rfl
  | cons item items ih =>
    have hput : (rows c).put (item.2.trackId, item.2.identity) =
        (rows c).put (item.1, item.2.identity) := by rw [hkeys item List.mem_cons_self]
    rw [List.map_cons, List.map_cons, Store.replay_cons, ← hput,
      ← rows_discovered (J := J) (hfinite item List.mem_cons_self)]
    exact ih (fun item' h => hkeys item' (List.mem_cons_of_mem item h))
      (fun item' h => hfinite item' (List.mem_cons_of_mem item h)) _

/-- **Reported changes** write the identities reported, as far as they can be received. -/
theorem rows_deliver_reports (b : BridgeServer) (song : Song) (listeners : List Listener)
    (c : BridgeClient) : ∃ infos : List LooperInfo,
      (∀ info ∈ infos, info.feedback.isFinite = true ∧
        ∃ l ∈ listeners, reported song l = some info) ∧
      rows (deliver J c (reports b song listeners)) =
        (rows c).replay (infos.map fun info => (info.trackId, info.identity)) := by
  rcases hb : b.target with _ | port
  · refine ⟨[], fun info h => absurd h List.not_mem_nil, ?_⟩
    rw [reports, hb]
    rfl
  have hmap : reports b song listeners = (listeners.filterMap (reported song)).map fun info =>
      ⟨port, oscPrefix ++ "/event", changedEvent info⟩ := by
    rw [reports, hb]
    simp
  refine ⟨(listeners.filterMap (reported song)).filter fun info => info.feedback.isFinite, ?_, ?_⟩
  · intro info hinfo
    obtain ⟨hmem, hfin⟩ := List.mem_filter.mp hinfo
    exact ⟨hfin, List.mem_filterMap.mp hmem⟩
  · rw [hmap]
    clear hmap
    induction listeners.filterMap (reported song) generalizing c with
    | nil => rfl
    | cons info infos ih =>
      rw [List.map_cons, List.filter_cons]
      by_cases hfin : info.feedback.isFinite = true
      · rw [if_pos hfin, List.map_cons, Store.replay_cons, ← rows_changed (J := J) hfin]
        exact ih _
      · have hskip : oscMessageReceived J c (received (changedEvent info)) = c :=
          oscMessageReceived_not_finite (by simpa using hfin) c
        rw [if_neg hfin, ← ih c]
        change rows (deliver J (oscMessageReceived J c (received (changedEvent info))) _) = _
        rw [hskip]

theorem rows_deliver_responses (b : BridgeServer) (requestUuid answer : Json) (c : BridgeClient) :
    rows (deliver J c (responses b requestUuid answer)) = rows c := by
  rw [responses]
  rcases b.target with _ | port
  · rfl
  · exact rows_response c requestUuid answer

/-! ### Requests to rescan -/

/-- A discover command rescans, and answers when the scan does not raise. -/
theorem handled_discover (s : Script) (uuid nsid : String) :
    (∃ found, scanResult s.live.song = .ok found ∧
      s.handled [.json (messageToJson (createDiscover uuid nsid))] =
        respond s.rescanned (.str uuid) (discoverResult found)) ∨
    ∃ e, scanResult s.live.song = .error e ∧
      s.handled [.json (messageToJson (createDiscover uuid nsid))] = s.rescanned := by
  have hhandling := handling_handled s (messageToJson (createDiscover uuid nsid)) []
  generalize s.handled [.json (messageToJson (createDiscover uuid nsid))] = t at hhandling ⊢
  have hcommand : isCommand (messageToJson (createDiscover uuid nsid)) :=
    ⟨rfl, fun h => by simp [messageToJson, createDiscover] at h⟩
  cases hhandling with
  | notObject hnot => cases hnot
  | mismatch _ _ hne => exact absurd hcommand hne
  | helloNoArgs _ hhello => exact absurd hhello.2 hcommand.2
  | helloNoUuid _ hhello => exact absurd hhello.2 hcommand.2
  | hello _ _ hhello => exact absurd hhello.2 hcommand.2
  | answered answer t' _ _ hout =>
    left
    cases hout with
    | discovered found _ _ h => exact ⟨found, h, by rw [rescanned_ok h]; rfl⟩
    | refused _ _ hwrite => cases hwrite
    | wrote _ _ _ _ _ _ _ _ _ _ _ hwrite => cases hwrite
    | other _ hne => exact absurd ⟨rfl, .inl rfl⟩ hne
  | raised e t' _ _ hout =>
    right
    cases hout with
    | scanRaised e _ _ h => exact ⟨e, h, by rw [rescanned_error h]⟩
    | noArgs _ _ hwrite => cases hwrite

theorem handled_discover_ok {s : Script} {found : Dict String LooperInfo} (uuid nsid : String)
    (h : scanResult s.live.song = .ok found) :
    s.handled [.json (messageToJson (createDiscover uuid nsid))] =
      respond s.rescanned (.str uuid) (discoverResult found) := by
  rcases handled_discover s uuid nsid with ⟨found', hscan, heq⟩ | ⟨e, hscan, -⟩
  · rw [h, Except.ok.injEq] at hscan
    rw [heq, hscan]
  · rw [h] at hscan
    cases hscan

theorem handled_discover_error {s : Script} {e : PyExc} (uuid nsid : String)
    (h : scanResult s.live.song = .error e) :
    s.handled [.json (messageToJson (createDiscover uuid nsid))] = s.rescanned := by
  rcases handled_discover s uuid nsid with ⟨found, hscan, -⟩ | ⟨e', -, heq⟩
  · rw [h] at hscan
    cases hscan
  · exact heq

/-! ### Script and plugin together -/

/-- A script and the client its events are delivered to, and whether a full scan has been
completed since they were put together. -/
structure Shadow where
  script : Script
  client : BridgeClient
  scanned : Bool := false

/-- The changes of a song, and the plugin's request to rescan. -/
inductive Change
  | edit (e : SongEdit)
  | setParam (i j k : ℕ) (v : Double)
  | discover (uuid nsid : String)

namespace Change

/-- The script's event. -/
def event : Change → Script.Event
  | edit e => .edit e
  | setParam i j k v => .setParam i j k v
  | discover uuid nsid => .message [.json (messageToJson (createDiscover uuid nsid))]

/-- The song that a change makes the script scan, if it makes it scan one. -/
def rescans (song : Song) : Change → Option Song
  | edit e => if e.changesTrackList then e.apply song else none
  | setParam _ _ _ _ => none
  | discover _ _ => some song

end Change

namespace Shadow

/-- Whether a change makes the script complete a full scan. -/
def completes (song : Song) (e : Change) : Bool :=
  ((e.rescans song).map fun song => (scanResult song).isOk).getD false

/-- The script handles a change, and all it sends is delivered in order. -/
def step (J : Juce) (s : Shadow) (e : Change) (t : Shadow) : Prop :=
  ∃ script, s.script.step e.event = some script ∧
    t = { script := script
          client := deliver J s.client (script.sent.drop s.script.sent.length)
          scanned := s.scanned || completes s.script.live.song e }

/-- The tracker's ids are those of the discovered loopers, and each entry identifies the
device that its id was discovered for. -/
structure Agree (s : Shadow) : Prop where
  ids : ∀ k, k ∈ s.client.tracker.loopers ↔ k ∈ s.script.discoveredLoopers.keys
  devices : ∀ k info, s.script.discoveredLoopers.get? k = some info →
    ∃ state, s.client.tracker.getLooper k = some state ∧ state.deviceId = info.deviceId ∧
      state.deviceName = info.deviceName

/-- A song covers a tracker: each id is that of a track with a looper-like device, and the last
such device of a track has a feedback that JSON can carry. -/
structure Covers (song : Song) (c : BridgeClient) : Prop where
  ids : ∀ k ∈ c.tracker.loopers, ∃ f ∈ looperDevices song.tracks, k = toString f.trackIdx
  finite : ∀ k f, lastLooper? song k = some f → (feedbackOf f.device).isFinite = true

/-- A device is the one that is recorded for its track. -/
def RecordedAs (found : Dict String LooperInfo) (f : FoundDevice) : Prop :=
  ∃ info, found.get? (toString f.trackIdx) = some info ∧ info.deviceId = toString f.deviceIdx ∧
    info.deviceName = f.device.name

/-- The condition on a change: a song that it makes the script rescan covers the tracker, if its
loopers can be read, and a device whose change is reported is the one recorded for its track.
Reported is the device that is the first to bear the names of the track and the device that the
listener captured, if it can be read and sent. -/
def Faithful (s : Shadow) : Change → Prop
  | .setParam i j k v => ∀ p, s.script.live.song.paramAt? i j k = some p →
      ∀ l ∈ s.script.live.listenersOf p.id, ∀ trackName deviceName,
        s.script.live.song.trackName? l.track = some trackName →
          s.script.live.song.deviceName? l.param.device = some deviceName →
            ∀ f ∈ looperDevices (s.script.live.song.setValue i j k v).tracks,
              f.track.name = trackName → f.device.name = deviceName →
                FirstNamed s.script.live.song trackName deviceName f.trackIdx f.deviceIdx →
                  readable f.device = true → (feedbackOf f.device).isFinite = true →
                    RecordedAs s.script.discoveredLoopers f
  | e => ∀ song, e.rescans s.script.live.song = some song → AllReadable song →
      Covers song s.client

/-! ### What every step keeps -/

/-- The server has somewhere to send to, and after a scan the tracker is an exact copy. -/
structure InSync (s : Shadow) : Prop where
  consistent : Consistent s.script
  target : s.script.server.target.isSome
  all : s.scanned = true → rows s.client = entries s.script.discoveredLoopers

/-- Writes of discovered identities keep a shadow in step. -/
private theorem InSync.writes {s : Shadow} (hs : InSync s) {script : Script} {c : BridgeClient}
    (log : List (String × Identity)) (hconsistent : Consistent script)
    (hserver : script.server = s.script.server)
    (hfound : script.discoveredLoopers = s.script.discoveredLoopers)
    (hrows : rows c = (rows s.client).replay log)
    (hlog : ∀ p ∈ log, entries s.script.discoveredLoopers p.1 = some p.2) :
    InSync ⟨script, c, s.scanned⟩ where
  consistent := hconsistent
  target := by
    rw [hserver]
    exact hs.target
  all hscanned := by
    change rows c = entries script.discoveredLoopers
    have hall := hs.all hscanned
    rw [hrows, hfound, hall]
    exact Store.replay_eq_self hlog

/-- A pushed scan that covers the tracker makes the copy exact. -/
private theorem InSync.pushes {s : Shadow} (hs : InSync s) {script : Script}
    {found : Dict String LooperInfo} (responses : List Datagram) {song : Song}
    (hscan : scanResult song = .ok found) (hconsistent : Consistent script)
    (hserver : script.server = s.script.server) (hfound : script.discoveredLoopers = found)
    (hcovers : Covers song s.client)
    (hresponses : ∀ c : BridgeClient, rows (deliver J c responses) = rows c) :
    InSync ⟨script, deliver J s.client (announcements s.script.server found.items ++ responses),
      true⟩ := by
  obtain ⟨port, htarget⟩ := Option.isSome_iff_exists.mp hs.target
  have hkeys : ∀ item ∈ found.items, item.1 = item.2.trackId := by
    intro item hitem
    obtain ⟨i, j, hk, ht, -⟩ := entryOk_of_scanResult hscan (Dict.get?_eq_some_iff.mpr hitem)
    rw [hk, ht]
  have hfinite : ∀ item ∈ found.items, item.2.feedback.isFinite = true := by
    intro item hitem
    obtain ⟨f, hlast, hread⟩ :=
      (get?_scanResult_iff hscan).mp (Dict.get?_eq_some_iff.mpr hitem)
    rw [read_feedback hread]
    exact hcovers.finite item.1 f hlast
  have hexact : rows (deliver J s.client (announcements s.script.server found.items ++ responses)) =
      entries found := by
    -- The answer writes nothing, and the pushed items are a replay of the dictionary.
    rw [deliver_append, hresponses, rows_deliver_announcements htarget hkeys hfinite,
      entries, ← Dict.view_mapValues]
    refine (Dict.replay_items_eq_iff (d := found.mapValues LooperInfo.identity)).mpr ?_
    intro k hk
    have hmem : k ∈ found.keys := Dict.isSome_get?_iff.mp
      ((isSome_scanResult_iff hscan).mpr (hcovers.ids k (isSome_rows_iff.mp hk)))
    rw [Dict.keys] at hmem ⊢
    simpa [Dict.mapValues, List.map_map, Function.comp_def] using hmem
  refine ⟨hconsistent, ?_, fun _ => ?_⟩
  · rw [hserver]
    exact hs.target
  · rw [hexact, hfound]

/-- What a reported change writes is discovered, if the change is a faithful one. -/
private theorem recorded_of_reported {s : Shadow} {i j k : ℕ} {v : Double} {p : Param}
    (hp : s.script.live.song.paramAt? i j k = some p) (h : s.Faithful (.setParam i j k v))
    {l : Listener} (hl : l ∈ s.script.live.listenersOf p.id) {info : LooperInfo}
    (hfinite : info.feedback.isFinite = true)
    (hinfo : reported (s.script.live.song.setValue i j k v) l = some info) :
    entries s.script.discoveredLoopers info.trackId = some info.identity := by
  rw [reported_eq_some_iff, trackName?_setValue, deviceName?_setValue] at hinfo
  obtain ⟨trackName, ht, deviceName, hd, f, hf, hok⟩ := hinfo
  have hfind := hf
  rw [findByName_eq] at hf
  have hmem := List.mem_of_find?_eq_some hf
  have hnames : f.track.name = trackName ∧ f.device.name = deviceName := by
    simpa using List.find?_some hf
  -- The search by names ends at the first device that bears them, before and after the change.
  have hfirst := (firstNamed_setValue _ i j k v).mp
    ((findByName_eq_some_iff hmem hnames.1 hnames.2).mp hfind)
  obtain ⟨info', hget, hid, hname⟩ :=
    h p hp l hl trackName deviceName ht hd f hmem hnames.1 hnames.2 hfirst
      (exists_read_iff.mp ⟨info, hok⟩) (by rwa [← read_feedback hok])
  obtain ⟨htrack, -, hdevice, hdname, -⟩ := read_ids hok
  rw [entries, Store.through, Dict.view, htrack, hget, Option.map_some, LooperInfo.identity,
    LooperInfo.identity, hid, hname, hdevice, hdname]

/-- A script that completes no scan and sends nothing stays in step. -/
private theorem InSync.quiet {s : Shadow} (hs : InSync s) {script : Script}
    (hconsistent : Consistent script) (hsent : script.sent = s.script.sent)
    (hserver : script.server = s.script.server)
    (hfound : script.discoveredLoopers = s.script.discoveredLoopers) :
    InSync ⟨script, deliver J s.client (script.sent.drop s.script.sent.length), s.scanned⟩ := by
  refine hs.writes [] hconsistent hserver hfound ?_ fun p hp => absurd hp List.not_mem_nil
  rw [hsent, List.drop_length]
  rfl

/-- A rescan of a song that covers the tracker keeps the two in step: one that raises sends
nothing, and one that does not pushes all it has found. -/
private theorem InSync.rescan {s : Shadow} (hs : InSync s) {script : Script} {song : Song}
    (hcovers : AllReadable song → Covers song s.client) (hconsistent : Consistent script)
    (hserver : script.server = s.script.server)
    (herror : ∀ e, scanResult song = .error e → script.sent = s.script.sent ∧
      script.discoveredLoopers = s.script.discoveredLoopers)
    (hok : ∀ found, scanResult song = .ok found → script.discoveredLoopers = found ∧
      ∃ responses, script.sent =
          s.script.sent ++ (announcements s.script.server found.items ++ responses) ∧
        ∀ c : BridgeClient, rows (deliver J c responses) = rows c) :
    InSync ⟨script, deliver J s.client (script.sent.drop s.script.sent.length),
      s.scanned || (scanResult song).isOk⟩ := by
  rcases hscan : scanResult song with e | found
  · obtain ⟨hsent, hfound⟩ := herror e hscan
    have hnone : (s.scanned || (Except.error e : Except PyExc (Dict String LooperInfo)).isOk) =
        s.scanned := Bool.or_false _
    rw [hnone]
    exact hs.quiet hconsistent hsent hserver hfound
  · obtain ⟨hfound, responses, hsent, hresponses⟩ := hok found hscan
    have hsome : (s.scanned || (Except.ok found : Except PyExc (Dict String LooperInfo)).isOk) =
        true := Bool.or_true _
    rw [hsome, hsent, List.drop_left]
    exact hs.pushes responses hscan hconsistent hserver hfound
      (hcovers (allReadable_of_scanResult hscan)) hresponses

theorem completes_of_rescans {song song' : Song} {e : Change} (h : e.rescans song = some song') :
    completes song e = (scanResult song').isOk := by
  rw [completes, h]
  rfl

/-- **The step lemma**: a faithful change keeps script and plugin in step. -/
theorem InSync.step {s t : Shadow} {e : Change} (hs : InSync s) (he : s.Faithful e)
    (h : s.step J e t) : InSync t := by
  obtain ⟨script, hscript, rfl⟩ := h
  have hconsistent : Consistent script := kept_consistent.step hs.consistent hscript
  cases e with
  | edit e =>
    obtain ⟨song, hsong, ⟨hlist, rfl⟩ | ⟨hlist, rfl⟩⟩ := step_edit hscript
    · have hrescans : (Change.edit e).rescans s.script.live.song = some song := by
        rw [Change.rescans, if_pos hlist, hsong]
      rw [completes_of_rescans hrescans]
      refine hs.rescan (he song hrescans) hconsistent ?_ (fun err hscan => ?_)
        fun found hscan => ?_
      · exact rescanned_server (s.script.edited song)
      · exact rescanned_error_same (s := s.script.edited song) hscan
      · obtain ⟨hsent, hfound⟩ := rescanned_ok_pushes (s := s.script.edited song) hscan
        refine ⟨hfound, [], ?_, fun _ => rfl⟩
        rw [List.append_nil]
        exact hsent
    · have hcompletes : completes s.script.live.song (.edit e) = false := by
        rw [completes, Change.rescans, if_neg (by rw [hlist]; exact Bool.false_ne_true)]
        rfl
      rw [hcompletes, Bool.or_false]
      exact hs.quiet hconsistent rfl rfl rfl
  | setParam i j k v =>
    have hcompletes : completes s.script.live.song (.setParam i j k v) = false := rfl
    rw [hcompletes, Bool.or_false]
    obtain ⟨p, hp, rfl⟩ := step_setParam hscript
    -- What is reported has been recorded already, so that the writes change no identity.
    obtain ⟨infos, hinfos, hrows⟩ := rows_deliver_reports (J := J) s.script.server
      (s.script.live.song.setValue i j k v) (s.script.live.listenersOf p.id) s.client
    refine hs.writes (infos.map fun info => (info.trackId, info.identity)) hconsistent
      (by rw [assigned_eq]; rfl) (by rw [assigned_eq]; rfl) ?_ ?_
    · rw [assigned_eq]
      change rows (deliver J s.client ((s.script.sent ++ _).drop s.script.sent.length)) = _
      rw [List.drop_left]
      exact hrows
    · rw [List.forall_mem_map]
      intro info hinfo
      obtain ⟨hfinite, l, hl, hreported⟩ := hinfos info hinfo
      exact recorded_of_reported hp he hl hfinite hreported
  | discover uuid nsid =>
    have hrescans : (Change.discover uuid nsid).rescans s.script.live.song =
        some s.script.live.song := rfl
    obtain ⟨-, rfl⟩ := step_message hscript
    rw [completes_of_rescans hrescans]
    refine hs.rescan (he _ hrescans) hconsistent ?_ (fun err hscan => ?_) fun found hscan => ?_
    · rcases handled_discover s.script uuid nsid with ⟨found, -, heq⟩ | ⟨err, -, heq⟩
      · rw [heq]
        exact rescanned_server s.script
      · rw [heq]
        exact rescanned_server s.script
    · rw [handled_discover_error uuid nsid hscan]
      exact rescanned_error_same hscan
    · obtain ⟨hsent, hfound⟩ := rescanned_ok_pushes hscan
      rw [handled_discover_ok uuid nsid hscan]
      -- The answer follows what the scan has pushed, and writes nothing.
      refine ⟨hfound, responses s.script.rescanned.server (.str uuid) (discoverResult found), ?_,
        fun c => rows_deliver_responses _ _ _ c⟩
      rw [← List.append_assoc, ← hsent]
      rfl

/-- Stores that are equal agree key by key. -/
private theorem InSync.agree {s : Shadow} (hs : InSync s) (hscanned : s.scanned = true) :
    Agree s := by
  have hall := hs.all hscanned
  constructor
  · intro k
    rw [← isSome_rows_iff, hall, entries, Store.through, Option.isSome_map]
    exact Dict.isSome_get?_iff
  · intro k info hk
    have hrow : rows s.client k = some info.identity := by
      rw [hall, entries, Store.through]
      change (s.script.discoveredLoopers.get? k).map _ = _
      rw [hk, Option.map_some]
    rw [rows, Store.through, Option.map_eq_some_iff] at hrow
    obtain ⟨state, hstate, hid⟩ := hrow
    exact ⟨state, hstate, (Prod.mk.inj hid).1, (Prod.mk.inj hid).2⟩

/-- **Shadow-state agreement.** From any reachable script that knows a plugin port and any
client, after every run of faithful changes in which a full scan was completed, the tracker
agrees with the discovered loopers. -/
theorem agree_of_run {s : Script} {c : BridgeClient} {t : Shadow} {es : List Change}
    (hs : Reachable s) (htarget : s.server.target.isSome)
    (hrun : Runs.Run (Runs.guarded Faithful (step J)) ⟨s, c, false⟩ es t)
    (hscanned : t.scanned = true) : Agree t := by
  have hstart : InSync ⟨s, c, false⟩ := ⟨hs.consistent, htarget, fun h => by cases h⟩
  have hend : InSync t :=
    hrun.invariant (fun _ _ _ hs hst => hs.step hst.1 hst.2) hstart
  exact hend.agree hscanned

/-- One looper, found again at the plugin's request. -/
theorem agree_oneLooper : ∃ t, Agree t ∧ t.script.discoveredLoopers.keys = ["0"] := by
  let s : Shadow := ⟨met oneLooper, {}, false⟩
  have hfinite : ∀ f ∈ looperDevices (met oneLooper).live.song.tracks,
      (feedbackOf f.device).isFinite = true := by decide +kernel
  have hfaithful : s.Faithful (.discover "u" "") := by
    intro song hsong _
    cases hsong
    refine ⟨fun k hk => ?_, fun k f hlast => hfinite f (mem_lastLooper? hlast).1⟩
    exact absurd hk Std.ExtTreeMap.not_mem_empty
  refine ⟨_, agree_of_run (J := .plain) (@reachable_met oneLooper _ rfl (by decide +kernel))
    (by decide +kernel) (.cons ⟨hfaithful, _, rfl, rfl⟩ (.nil _)) (by decide +kernel), ?_⟩
  decide +kernel

/-- **A deleted looper stays in the tracker**: the script never says that a looper is gone. -/
theorem not_agree : ¬∀ (J : Juce) (s : Script) (c : BridgeClient) (t : Shadow) (es : List Change),
    Script.Reachable s → s.server.target.isSome → c.tracker.loopers = ∅ →
      Runs.Run (step J) ⟨s, c, false⟩ es t → t.scanned = true → Agree t := by
  intro h
  let sent : Script → Script → List Datagram := fun s t => t.sent.drop s.sent.length
  -- The tracker has id 0 in the end, and the script has discovered nothing.
  have hfacts : (((met oneLooper).step (Change.event (.discover "u" ""))).bind fun s₁ =>
      (s₁.step (Change.event (.edit (.deleteTrack 0)))).map fun s₂ =>
        (decide ("0" ∈ (deliver .plain (deliver .plain {} (sent (met oneLooper) s₁))
          (sent s₁ s₂)).tracker.loopers), s₂.discoveredLoopers.keys)) = some (true, []) := by
    decide +kernel
  obtain ⟨s₁, h₁, hfacts⟩ := Option.bind_eq_some_iff.mp hfacts
  obtain ⟨s₂, h₂, hfacts⟩ := Option.map_eq_some_iff.mp hfacts
  obtain ⟨hkept, hkeys⟩ := Prod.mk.inj hfacts
  have hscanned : completes (met oneLooper).live.song (.discover "u" "") = true := by
    decide +kernel
  obtain ⟨ids, -⟩ := h .plain (met oneLooper) {} _ [.discover "u" "", .edit (.deleteTrack 0)]
    (@reachable_met oneLooper _ rfl (by decide +kernel)) (by decide +kernel) rfl
    (.cons ⟨s₁, h₁, rfl⟩ (.cons ⟨s₂, h₂, rfl⟩ (.nil _)))
    (by rw [Bool.or_eq_true, Bool.or_eq_true]; exact .inl (.inr hscanned))
  have hfound := (ids "0").mp (of_decide_eq_true hkept)
  change "0" ∈ s₂.discoveredLoopers.keys at hfound
  rw [hkeys] at hfound
  cases hfound

end Shadow

end LooperControl
