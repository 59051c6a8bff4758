import LooperControl.Lib.Runs
import LooperControl.Script.LooperControlSurface

/-!
# The script as a system

`Script.step` takes the script from one state to the next: the song is edited, a parameter
is changed in Live, or an OSC message arrives. What a message does is said once, by
`handling_onOscMessage`, and what a step can do to an invariant once, by `step_preserves`.

The invariant of every state a started script can get to is `Consistent`: the attached
listeners are the recorded ones, no parameter has two, every discovered entry stands under
its track id and names positions by decimal numerals, and a known plugin port means that
there is a socket.
-/

namespace LooperControl

open Effect

namespace Script

open LooperControlSurface BridgeServer

/-- The script in a song, before its constructor has run. -/
def fresh (song : Song) : Script :=
  { live := { song := song }, discovery := {}, server := { port := defaultPort } }

/-- What happens to a script: the song is edited, a parameter is changed in Live, or an OSC
message arrives. -/
inductive Event
  | edit (e : SongEdit)
  | setParam (i j k : ℕ) (v : Double)
  | message (args : List OscArg)

/-- The script after its song has been replaced by an edited one. -/
def edited (s : Script) (song : Song) : Script := { s with live := { s.live with song := song } }

/-- The script after the tracks listener has run. -/
def rescanned (s : Script) : Script := (exec onTracksChanged s).2

/-- The script after an OSC message has been handled. -/
def handled (s : Script) (args : List OscArg) : Script :=
  (exec (onOscMessage (some handleCommand) args) s).2

/-- The script after an event, if the event can happen: the edit is possible, the parameter
exists and accepts the value, and there is a socket for the message to arrive at. -/
def step (s : Script) : Event → Option Script
  | .edit e => (e.apply s.live.song).map fun song =>
      if e.changesTrackList then (s.edited song).rescanned else s.edited song
  | .setParam i j k v => (s.live.song.paramAt? i j k).bind fun p =>
      if p.stores v then some (assigned s i j k p v) else none
  | .message args => if s.server.server.isSome then some (s.handled args) else none

/-- A script whose constructor has just returned. -/
def Started (s : Script) : Prop :=
  ∃ free song, exec (init free) (fresh song) = (.ok (), s)

/-- The states that a started script can get to. -/
def Reachable : Script → Prop := Runs.Reachable Started (Runs.ofFun step)

/-! ### What a message does -/

/-- The ends of `_on_osc_message` on a decoded message. -/
inductive Handling (s : Script) (message : Json) : Script → Prop
  | notObject (hobj : message.isObj = false) : Handling s message s
  | mismatch (hobj : message.isObj = true) (hhello : ¬isHello message)
      (hcommand : ¬isCommand message) :
      Handling s message (respond s (uuidOf message) versionMismatch)
  | helloNoArgs (hobj : message.isObj = true) (hhello : isHello message)
      (hargs : (argsOf message).isObj = false) : Handling s message s
  | helloNoUuid (hobj : message.isObj = true) (hhello : isHello message)
      (hargs : (argsOf message).isObj = true) (huuid : message.get? "uuid" = none) :
      Handling s message (announce s (((argsOf message).get? "port").getD (.int 7010)))
  | hello (requestUuid : Json) (hobj : message.isObj = true) (hhello : isHello message)
      (hargs : (argsOf message).isObj = true) (huuid : message.get? "uuid" = some requestUuid) :
      Handling s message
        (respond (announce s (((argsOf message).get? "port").getD (.int 7010))) requestUuid
          (helloResult s.server.port))
  | answered (answer : Json) (t : Script) (hobj : message.isObj = true)
      (hcommand : isCommand message)
      (h : Outcome s ((message.get? "ns").getD (.str "")) ((message.get? "name").getD (.str ""))
        (argsOf message) (.ok (some answer), t)) :
      Handling s message (respond t (uuidOf message) answer)
  | raised (e : PyExc) (t : Script) (hobj : message.isObj = true) (hcommand : isCommand message)
      (h : Outcome s ((message.get? "ns").getD (.str "")) ((message.get? "name").getD (.str ""))
        (argsOf message) (.error e, t)) :
      Handling s message t

private theorem outcome_isSome {s t : Script} {ns name args : Json} {result : Option Json}
    (h : Outcome s ns name args (.ok result, t)) : ∃ answer, result = some answer := by
  cases h <;> exact ⟨_, rfl⟩

/-- **What a message does**: whatever the message, `_on_osc_message` ends in one of the ways
of `Handling`. -/
theorem handling_handled (s : Script) (message : Json) (rest : List OscArg) :
    Handling s message (s.handled (.json message :: rest)) := by
  rw [handled, exec_onOscMessage]
  -- First what raises on a message that is no object, then the version, then hello or command.
  rcases hobj : message.isObj with _ | _
  · rw [exec_handleMessage_not_isObj hobj]
    exact .notObject hobj
  by_cases hhello : isHello message
  · rw [exec_handleMessage_hello hobj hhello]
    rcases hargs : (argsOf message).isObj with _ | _
    · rw [exec_handleHello_not_isObj hargs]
      exact .helloNoArgs hobj hhello hargs
    · rcases huuid : message.get? "uuid" with _ | requestUuid
      · rw [exec_handleHello_no_uuid hargs huuid]
        exact .helloNoUuid hobj hhello hargs huuid
      · rw [exec_handleHello hargs huuid]
        exact .hello requestUuid hobj hhello hargs huuid
  · by_cases hcommand : isCommand message
    · rw [exec_handleMessage_command hobj hcommand]
      have hout := outcome_handleCommand s ((message.get? "ns").getD (.str ""))
        ((message.get? "nsid").getD (.str "")) ((message.get? "name").getD (.str ""))
        (argsOf message)
      generalize exec (handleCommand _ _ _ _) s = outcome at hout ⊢
      rcases outcome with ⟨e | result, t⟩
      · exact .raised e t hobj hcommand hout
      · obtain ⟨answer, rfl⟩ := outcome_isSome hout
        exact .answered answer t hobj hcommand hout
    · rw [exec_handleMessage_mismatch hobj hhello hcommand]
      exact .mismatch hobj hhello hcommand

/-- Arguments that do not start with a decodable message change nothing. -/
theorem handled_undecoded (s : Script) {args : List OscArg}
    (h : ∀ message rest, args ≠ .json message :: rest) : s.handled args = s := by
  rw [handled, exec_onOscMessage_undecoded _ h]

/-- A message is decoded and ends in one of the ways of `Handling`, or it changes nothing. -/
theorem handled_cases (s : Script) (args : List OscArg) :
    (∃ message rest, args = .json message :: rest ∧ Handling s message (s.handled args)) ∨
      ((∀ message rest, args ≠ .json message :: rest) ∧ s.handled args = s) := by
  by_cases hdec : ∃ message rest, args = .json message :: rest
  · obtain ⟨message, rest, rfl⟩ := hdec
    exact .inl ⟨message, rest, rfl, handling_handled s message rest⟩
  · have hnot : ∀ message rest, args ≠ .json message :: rest :=
      fun message rest heq => hdec ⟨message, rest, heq⟩
    exact .inr ⟨hnot, handled_undecoded s hnot⟩

/-! ### What a step does -/

/-- An edit replaces the song, and one of the track list makes the script rescan it. -/
theorem step_edit {s t : Script} {e : SongEdit} (h : s.step (.edit e) = some t) :
    ∃ song, e.apply s.live.song = some song ∧
      ((e.changesTrackList = true ∧ t = (s.edited song).rescanned) ∨
        (e.changesTrackList = false ∧ t = s.edited song)) := by
  rw [step, Option.map_eq_some_iff] at h
  obtain ⟨song, hsong, rfl⟩ := h
  refine ⟨song, hsong, ?_⟩
  rcases hlist : e.changesTrackList with _ | _
  · exact .inr ⟨rfl, rfl⟩
  · exact .inl ⟨rfl, rfl⟩

/-- A change in Live assigns the parameter at its position. -/
theorem step_setParam {s t : Script} {i j k : ℕ} {v : Double}
    (h : s.step (.setParam i j k v) = some t) :
    ∃ p, s.live.song.paramAt? i j k = some p ∧ t = assigned s i j k p v := by
  rw [step, Option.bind_eq_some_iff] at h
  obtain ⟨p, hp, h⟩ := h
  split at h
  · exact ⟨p, hp, (Option.some.inj h).symm⟩
  · cases h

/-- A message arrives at a socket and is handled. -/
theorem step_message {s t : Script} {args : List OscArg} (h : s.step (.message args) = some t) :
    s.server.server.isSome ∧ t = s.handled args := by
  rw [step] at h
  split at h
  · rename_i hserver
    exact ⟨hserver, (Option.some.inj h).symm⟩
  · cases h

/-! ### What every step keeps -/

theorem rescanned_ok {s : Script} {found : Dict String LooperInfo}
    (h : LooperDiscovery.scanResult s.live.song = .ok found) :
    s.rescanned = scanned (LooperDiscovery.silenced s) found := by
  rw [rescanned, exec_onTracksChanged, exec_fullScan_ok (s := LooperDiscovery.silenced s) h]

theorem rescanned_error {s : Script} {e : PyExc}
    (h : LooperDiscovery.scanResult s.live.song = .error e) :
    s.rescanned = cached (LooperDiscovery.silenced s) := by
  rw [rescanned, exec_onTracksChanged, exec_fullScan_error (s := LooperDiscovery.silenced s) h]

/-- A rescan leaves the server's fields alone. -/
theorem rescanned_server (s : Script) : s.rescanned.server = s.server := by
  rcases h : LooperDiscovery.scanResult s.live.song with e | found
  · rw [rescanned_error h]
    rfl
  · rw [rescanned_ok h, scanned_server]
    rfl

/-- A rescan that raises pushes nothing and records nothing. -/
theorem rescanned_error_same {s : Script} {e : PyExc}
    (h : LooperDiscovery.scanResult s.live.song = .error e) :
    s.rescanned.sent = s.sent ∧ s.rescanned.discoveredLoopers = s.discoveredLoopers := by
  rw [rescanned_error h]
  exact ⟨rfl, rfl⟩

/-- A rescan that does not raise pushes what it found, and records it. -/
theorem rescanned_ok_pushes {s : Script} {found : Dict String LooperInfo}
    (h : LooperDiscovery.scanResult s.live.song = .ok found) :
    s.rescanned.sent = s.sent ++ announcements s.server found.items ∧
      s.rescanned.discoveredLoopers = found := by
  rw [rescanned_ok h, scanned_sent, scanned_discoveredLoopers]
  exact ⟨rfl, rfl⟩

/-- The parameter a write addresses stands where the write says. -/
theorem paramAt?_of_addressed {song : Song} {trackIdx deviceIdx : ℤ} {paramName : String}
    {i j k : ℕ} {p : Param}
    (h : LooperDiscovery.addressed song trackIdx deviceIdx paramName = some (i, j, k, p)) :
    song.paramAt? i j k = some p := by
  obtain ⟨-, track, device, ht, -, hd, -, hp⟩ := LooperDiscovery.addressed_eq_some h
  rw [Song.paramAt?, Song.deviceAt?, ht, Option.bind_some, hd, Option.bind_some, hp.get]

/-- A property that survives everything a script does. -/
structure Kept (P : Script → Prop) : Prop where
  sent : ∀ s t, OnlySent s t → P s → P t
  announce : ∀ s pluginPort, s.server.server.isSome → P s → P (BridgeServer.announce s pluginPort)
  store : ∀ s i j k p v, s.live.song.paramAt? i j k = some p → P s → P (s.store i j k p v)
  edited : ∀ s song, P s → P (s.edited song)
  rescanned : ∀ s, P s → P s.rescanned

theorem Kept.outcome {P : Script → Prop} (hP : Kept P) {s t : Script} {ns name args : Json}
    {r : Except PyExc (Option Json)} (hs : P s) (h : Outcome s ns name args (r, t)) : P t := by
  cases h with
  | discovered found hns hname h =>
    rw [← rescanned_ok h]
    exact hP.rescanned s hs
  | scanRaised e hns hname h =>
    rw [← rescanned_error h]
    exact hP.rescanned s hs
  | wrote key paramName info trackIdx deviceIdx i j k p v hns hwrite hargs hkey hinfo ht hd hv hp =>
    exact hP.sent _ _ (onlySent_assigned s i j k p v)
      (hP.store s i j k p v (paramAt?_of_addressed hp) hs)
  | _ => exact hs

theorem Kept.handling {P : Script → Prop} (hP : Kept P) {s t : Script} {message : Json}
    (hserver : s.server.server.isSome) (hs : P s) (h : Handling s message t) : P t := by
  cases h with
  | mismatch => exact hP.sent _ _ (onlySent_emit _ _ _) hs
  | helloNoUuid => exact hP.announce _ _ hserver hs
  | hello => exact hP.sent _ _ (onlySent_emit _ _ _) (hP.announce _ _ hserver hs)
  | answered answer t' hobj hcommand hout =>
    exact hP.sent _ _ (onlySent_emit _ _ _) (hP.outcome hs hout)
  | raised e t' hobj hcommand hout => exact hP.outcome hs hout
  | _ => exact hs

/-- **The step rule**: a property that survives what a script does survives every step. -/
theorem Kept.step {P : Script → Prop} (hP : Kept P) {s t : Script} {e : Event} (hs : P s)
    (h : s.step e = some t) : P t := by
  cases e with
  | edit e =>
    obtain ⟨song, -, ⟨-, rfl⟩ | ⟨-, rfl⟩⟩ := step_edit h
    · exact hP.rescanned _ (hP.edited s song hs)
    · exact hP.edited s song hs
  | setParam i j k v =>
    obtain ⟨p, hp, rfl⟩ := step_setParam h
    exact hP.sent _ _ (onlySent_assigned s i j k p v) (hP.store s i j k p v hp hs)
  | message args =>
    obtain ⟨hserver, rfl⟩ := step_message h
    rcases handled_cases s args with ⟨message, -, -, hhandling⟩ | ⟨-, hsame⟩
    · exact hP.handling hserver hs hhandling
    · rw [hsame]
      exact hs

/-! ### The invariant -/

/-- An entry stands under its track id, and its ids are decimal numerals of positions. -/
def EntryOk (k : String) (info : LooperInfo) : Prop :=
  ∃ i j : ℕ, k = toString i ∧ info.trackId = toString i ∧ info.deviceId = toString j

/-- What holds of a script in every state it can get to. -/
structure Consistent (s : Script) : Prop where
  /-- The attached listeners are the recorded ones. -/
  recorded : LooperDiscovery.Recorded s
  /-- No parameter has two listeners. -/
  once : (s.live.attached.map Listener.param).Nodup
  /-- Entries stand under their track ids. -/
  entries : ∀ k info, s.discoveredLoopers.get? k = some info → EntryOk k info
  /-- A plugin port is known only when there is a socket. -/
  socket : s.server.pluginPort ≠ .null → s.server.server.isSome

theorem entryOk_of_scanResult {song : Song} {found : Dict String LooperInfo} {k : String}
    {info : LooperInfo} (h : LooperDiscovery.scanResult song = .ok found)
    (hk : found.get? k = some info) : EntryOk k info := by
  obtain ⟨f, -, hread, rfl⟩ := LooperDiscovery.mem_scanResult h hk
  obtain ⟨ht, -, hd, -⟩ := LooperDiscovery.read_ids hread
  exact ⟨f.trackIdx, f.deviceIdx, rfl, ht, hd⟩

/-- A full scan without listeners attached before it. -/
theorem consistent_scanned {s : Script} {found : Dict String LooperInfo}
    (h : LooperDiscovery.scanResult s.live.song = .ok found)
    (hattached : s.live.attached = []) (hrecorded : LooperDiscovery.Recorded s)
    (hsocket : s.server.pluginPort ≠ .null → s.server.server.isSome) :
    Consistent (scanned s found) where
  recorded := LooperDiscovery.recorded_foldl (s := pushed s found) hrecorded _
  once := by
    have hnil : (pushed s found).live.attached = [] := hattached
    -- A listener is attached once for each watched parameter, and no parameter is watched twice.
    rw [scanned, LooperDiscovery.params_foldl, hnil, List.map_nil, List.nil_append]
    exact (LooperDiscovery.nodup_watchedParams s.live.song).sublist
      (List.filter_sublist.map _)
  entries k info hk := by
    rw [scanned_discoveredLoopers] at hk
    exact entryOk_of_scanResult h hk
  socket := by
    rw [scanned_server]
    exact hsocket

theorem kept_consistent : Kept Consistent where
  sent := by
    rintro s t ⟨new, rfl⟩ hs
    exact ⟨hs.recorded, hs.once, hs.entries, hs.socket⟩
  announce s pluginPort hserver hs := ⟨hs.recorded, hs.once, hs.entries, fun _ => hserver⟩
  store s i j k p v _ hs := ⟨hs.recorded, hs.once, hs.entries, hs.socket⟩
  edited s song hs := ⟨hs.recorded, hs.once, hs.entries, hs.socket⟩
  rescanned s hs := by
    have hnil := LooperDiscovery.attached_silenced hs.recorded
    have hrec := LooperDiscovery.recorded_silenced hs.recorded
    rcases h : LooperDiscovery.scanResult s.live.song with e | found
    · rw [rescanned_error h]
      refine ⟨hrec, ?_, hs.entries, hs.socket⟩
      change ((LooperDiscovery.silenced s).live.attached.map Listener.param).Nodup
      rw [hnil]
      exact List.nodup_nil
    · rw [rescanned_ok h]
      exact consistent_scanned (s := LooperDiscovery.silenced s) h hnil hrec hs.socket

/-- A started script has just made its first full scan. -/
theorem started_eq {s : Script} (h : Started s) : ∃ free song found,
    LooperDiscovery.scanResult song = .ok found ∧
      s = scanned { fresh song with server := BridgeServer.start free (fresh song).server }
        found := by
  obtain ⟨free, song, h⟩ := h
  rw [init, exec_bind, exec_modify] at h
  simp only [exec_bind, exec_modify] at h
  rcases hscan : LooperDiscovery.scanResult song with e | found
  · rw [exec_fullScan_error (e := e) hscan] at h
    cases h
  · rw [@exec_fullScan_ok _ found hscan] at h
    exact ⟨free, song, found, hscan, (congrArg Prod.snd h).symm⟩

theorem consistent_of_started {s : Script} (h : Started s) : Consistent s := by
  obtain ⟨free, song, found, hscan, rfl⟩ := started_eq h
  refine consistent_scanned hscan rfl (List.Perm.refl []) fun hport => absurd ?_ hport
  change (BridgeServer.start free { port := defaultPort }).pluginPort = .null
  rw [BridgeServer.start]
  split <;> rfl

/-- **Every reachable script is consistent.** -/
theorem Reachable.consistent {s : Script} (h : Reachable s) : Consistent s :=
  Runs.Reachable.induct (fun _ => consistent_of_started)
    (fun _ _ _ hs hst => kept_consistent.step hs hst) h

/-! ### Scripts in given songs -/

/-- A script that has started in a song, with every port free. -/
def begun (song : Song) : Script := (exec (init fun _ => true) (fresh song)).2

theorem started_begun {song : Song} {found : Dict String LooperInfo}
    (h : LooperDiscovery.scanResult song = .ok found) : Started (begun song) := by
  refine ⟨fun _ => true, song, Prod.ext ?_ rfl⟩
  rw [init, exec_bind, exec_modify]
  simp only [exec_bind, exec_modify]
  rw [@exec_fullScan_ok _ found h]

/-- A hello of a plugin on port 7010. -/
def helloMessage : Json :=
  .obj [("uuid", .str "h"), ("ns", .str "system"), ("name", .str "hello"),
    ("args", .obj [("port", .int 7010)]), ("version", .int 1)]

/-- A script that has started in a song and then handled a hello. -/
def met (song : Song) : Script := (begun song).handled [.json helloMessage]

theorem reachable_met {song : Song} {found : Dict String LooperInfo}
    (h : LooperDiscovery.scanResult song = .ok found)
    (hsocket : (begun song).server.server.isSome) :
    Reachable (met song) := by
  have hstep : (begun song).step (.message [.json helloMessage]) = some (met song) := by
    rw [Script.step, if_pos hsocket]
    rfl
  exact (Runs.Reachable.of_init (started_begun h)).next hstep

end Script

/-- A song with one looper. -/
def oneLooper : Song :=
  ⟨[⟨0, "Guitar", [⟨0, "Looper", "Looper", [⟨⟨0, 0⟩, "State", .finite 0, fun _ => true, true⟩,
    ⟨⟨0, 1⟩, "Feedback", .finite (1 / 2), fun _ => true, true⟩], true⟩]⟩], by decide⟩

end LooperControl
