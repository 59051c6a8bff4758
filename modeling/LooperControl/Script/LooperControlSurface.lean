import LooperControl.Script.BridgeServer
import LooperControl.Script.Listening

/-!
# `LooperControlSurface`

The control surface ties discovery and server together: it scans, pushes what it found, and
answers commands. The four commands that write a parameter (`set_state`, `undo`, `redo`,
`set_feedback`) share one body, `writeCommand`, and differ in the parameter they name and in
the value they compute.

* `exec_fullScan_ok`, `exec_fullScan_error`: a full scan records, pushes and listens, or
  raises with nothing recorded and nothing pushed.
* `assigned_eq`: an assignment stores its value, and each listener of the parameter sends
  the dictionary of the device that its names lead to.
* `outcome_handleCommand`: every command ends in one of the outcomes of `Outcome`.
-/

namespace LooperControl

open Effect

namespace LooperControlSurface

/-- `_full_scan`. -/
def fullScan : Py Unit := do
  let discovered ← LooperDiscovery.scanAllTracks
  modify fun s => { s with discoveredLoopers := discovered }
  discovered.items.forM fun item =>
    BridgeServer.sendEvent "looper_discovered" item.2.toJson
  LooperDiscovery.startListening

/-- `_full_scan`, up to the call of `start_listening`. -/
def scanAndSend : Py Unit := do
  let discovered ← LooperDiscovery.scanAllTracks
  modify fun s => { s with discoveredLoopers := discovered }
  discovered.items.forM fun item =>
    BridgeServer.sendEvent "looper_discovered" item.2.toJson

/-- `_on_tracks_changed`. -/
def onTracksChanged : Py Unit := do
  LooperDiscovery.stopListening
  fullScan

/-- The search of `_on_looper_param_changed`: the first looper-like device with a given name
on a track with a given name. -/
def findByName (tracks : List Track) (trackName deviceName : String) :
    Option LooperDiscovery.FoundDevice :=
  tracks.zipIdx.findSome? fun t =>
    if t.1.name = trackName then
      t.1.devices.zipIdx.findSome? fun d =>
        if d.1.name = deviceName then
          if LooperDiscovery.isLooperDevice d.1 then some ⟨t.1, t.2, d.1, d.2⟩ else none
        else none
    else none

/-- `_on_looper_param_changed`, called by a listener with the track and the device it
captured. The name of an object that has left the song cannot be read. -/
def onLooperParamChanged (listener : Listener) (_value : Double) : Py Unit := do
  let s ← get
  match s.live.song.trackName? listener.track, s.live.song.deviceName? listener.param.device with
  | some trackName, some deviceName =>
    match findByName s.live.song.tracks trackName deviceName with
    | some found => do
      let looperInfo ← lift found.read
      BridgeServer.sendEvent "looper_state_changed" looperInfo.toJson
    | none => pure ()
  | _, _ => throw (.liveError "object does not exist any more")

/-! ### Commands -/

/-- The answer to a command that was carried out. -/
def succeeded : Json := .obj [("success", .bool true)]

/-- The answer to a command that was not, with the reason. -/
def failed (error : String) : Json := .obj [("success", .bool false), ("error", .str error)]

/-- `self._discovered_loopers.get(track_id)`: the keys are strings. -/
def recordedUnder (loopers : Dict String LooperInfo) : Json → Option LooperInfo
  | .str trackId => loopers.get? trackId
  | _ => none

/-- The body of the `try` in the commands that write a parameter. -/
def writeParam (trackId : Json) (paramName : String) (value : Except PyExc Double) : Py Json := do
  let trackIdx ← lift (pyInt trackId)
  let s ← get
  match recordedUnder s.discoveredLoopers trackId with
  | none => pure (failed "looper_not_found")
  | some looperInfo => do
    let deviceIdx ← lift (pyInt (.str looperInfo.deviceId))
    let value ← lift value
    let done ← LooperDiscovery.setLooperParam onLooperParamChanged trackIdx deviceIdx paramName
      value
    pure (if done then succeeded else failed "parameter_set_failed")

/-- A command that writes a parameter, from the track id on. -/
def writeCommand (trackId : Json) (paramName : String) (value : Except PyExc Double) : Py Json :=
  tryCatch (writeParam trackId paramName value) fun e => pure (failed e.str)

/-- `discover`. -/
def discover : Py Json := do
  LooperDiscovery.stopListening
  fullScan
  let s ← get
  pure (.obj [("success", .bool true), ("loopers_found", .int s.discoveredLoopers.size)])

/-- `set_state`. The reverse map it looks a value up in is looked for on the class
`LooperDiscovery`, which has no such attribute: it is a name of the module. -/
def setState (args : Json) : Py Json := do
  let trackId ← lift (pyGet args "track_id" (.str ""))
  let _targetState ← lift (pyGet args "target_state" (.str "Stopped"))
  writeCommand trackId "State" (.error (.attributeError
    "type object 'LooperDiscovery' has no attribute 'ABLETON_LOOPER_STATE_REVERSE_MAP'"))

/-- `undo`. -/
def undo (args : Json) : Py Json := do
  let trackId ← lift (pyGet args "track_id" (.str ""))
  writeCommand trackId "Undo" (.ok (.finite 1))

/-- `redo`. -/
def redo (args : Json) : Py Json := do
  let trackId ← lift (pyGet args "track_id" (.str ""))
  writeCommand trackId "Redo" (.ok (.finite 1))

/-- `set_feedback`. -/
def setFeedback (args : Json) : Py Json := do
  let trackId ← lift (pyGet args "track_id" (.str ""))
  let feedback ← lift (pyGet args "feedback" (.float (.finite (1 / 2))))
  writeCommand trackId "Feedback" (pyFloat feedback)

/-- `_handle_command`. -/
def handleCommand (ns _nsid name args : Json) : Py (Option Json) :=
  if ns = .str "looper" then
    if name = .str "discover" then some <$> discover
    else if name = .str "set_state" then some <$> setState args
    else if name = .str "undo" then some <$> undo args
    else if name = .str "redo" then some <$> redo args
    else if name = .str "set_feedback" then some <$> setFeedback args
    else pure (some (failed "unknown_command"))
  else if ns = .str "system" ∧ name = .str "ping" then
    pure (some (.obj [("success", .bool true), ("pong", .bool true)]))
  else pure (some (failed "unknown_command"))

/-- `__init__`, up to the tracks listener. -/
def init (free : ℕ → Bool) : Py Unit := do
  modify fun s => { s with server := BridgeServer.start free s.server }
  modify fun s => { s with discoveredLoopers := ∅ }
  fullScan

/-! ### What a full scan does -/

/-- The script after a scan has filled the cache. -/
def cached (s : Script) : Script :=
  { s with discovery := { s.discovery with
    loopers := LooperDiscovery.rememberAll s.discovery.loopers
      (LooperDiscovery.looperDevices s.live.song.tracks) } }

/-- The event that pushes a dictionary. -/
def discoveredEvent (info : LooperInfo) : Json := eventMessage "looper_discovered" info.toJson

/-- The datagrams that push the entries of a scan. -/
def announcements (b : BridgeServer) (items : List (String × LooperInfo)) : List Datagram :=
  b.target.toList.flatMap fun port =>
    items.map fun item => ⟨port, oscPrefix ++ "/event", discoveredEvent item.2⟩

/-- The script after a scan has been recorded and pushed. -/
def pushed (s : Script) (discovered : Dict String LooperInfo) : Script :=
  { cached s with
    discoveredLoopers := discovered
    sent := s.sent ++ announcements s.server discovered.items }

/-- The script after a full scan. -/
def scanned (s : Script) (discovered : Dict String LooperInfo) : Script :=
  (LooperDiscovery.watchedParams s.live.song.tracks).foldl LooperDiscovery.listening
    (pushed s discovered)

private theorem foldl_emit (s : Script) (l : List (String × LooperInfo)) :
    l.foldl (fun s item => s.emit (oscPrefix ++ "/event") (discoveredEvent item.2)) s =
      { s with sent := s.sent ++ announcements s.server l } := by
  induction l generalizing s with
  | nil =>
    rw [announcements]
    rcases s.server.target with _ | port <;> simp
  | cons item l ih =>
    rw [List.foldl_cons, ih, Script.emit]
    simp only [announcements]
    rcases s.server.target with _ | port <;> simp

variable {s : Script} {discovered : Dict String LooperInfo}

theorem fullScan_eq : fullScan = scanAndSend >>= fun _ => LooperDiscovery.startListening := by
  simp only [fullScan, scanAndSend, bind_assoc]

/-- A scan that reads every looper records what it found and pushes it entry by entry. -/
theorem exec_scanAndSend_ok (h : LooperDiscovery.scanResult s.live.song = .ok discovered) :
    exec scanAndSend s = (.ok (), pushed s discovered) := by
  rw [scanAndSend, exec_bind, LooperDiscovery.exec_scanAllTracks, h]
  simp only [exec_bind, exec_modify]
  -- No round of the loop that pushes raises, so that it is a fold.
  rw [exec_forM_of_ok fun item _ t => by rw [BridgeServer.exec_sendEvent]]
  simp only [BridgeServer.exec_sendEvent]
  exact congrArg (Prod.mk _) (foldl_emit _ _)

/-- A scan that meets a looper it cannot read raises, and records and pushes nothing. -/
theorem exec_scanAndSend_error {e : PyExc}
    (h : LooperDiscovery.scanResult s.live.song = .error e) :
    exec scanAndSend s = (.error e, cached s) := by
  rw [scanAndSend, exec_bind, LooperDiscovery.exec_scanAllTracks, h]
  rfl

/-- **A full scan that reads every looper** records what it found, pushes it entry by entry,
and listens to the watched parameters. -/
theorem exec_fullScan_ok (h : LooperDiscovery.scanResult s.live.song = .ok discovered) :
    exec fullScan s = (.ok (), scanned s discovered) := by
  have hread : ∀ f ∈ LooperDiscovery.looperDevices s.live.song.tracks,
      LooperDiscovery.readable f.device = true :=
    LooperDiscovery.allReadable_iff.mp (LooperDiscovery.allReadable_of_scanResult h)
  rw [fullScan_eq, exec_bind, exec_scanAndSend_ok h]
  exact LooperDiscovery.exec_startListening (pushed s discovered) hread

/-- A full scan that meets a looper it cannot read raises, and records and pushes nothing. -/
theorem exec_fullScan_error {e : PyExc}
    (h : LooperDiscovery.scanResult s.live.song = .error e) :
    exec fullScan s = (.error e, cached s) := by
  rw [fullScan_eq, exec_bind, exec_scanAndSend_error h]

theorem exec_onTracksChanged (s : Script) :
    exec onTracksChanged s = exec fullScan (LooperDiscovery.silenced s) := by
  rw [onTracksChanged, exec_bind, LooperDiscovery.exec_stopListening]

theorem onlyListeners_scanned (s : Script) (discovered : Dict String LooperInfo) :
    LooperDiscovery.OnlyListeners (pushed s discovered) (scanned s discovered) :=
  LooperDiscovery.onlyListeners_foldl _ _

@[simp] theorem scanned_song : (scanned s discovered).live.song = s.live.song :=
  (onlyListeners_scanned s discovered).song

@[simp] theorem scanned_server : (scanned s discovered).server = s.server :=
  (onlyListeners_scanned s discovered).server

@[simp] theorem scanned_discoveredLoopers : (scanned s discovered).discoveredLoopers = discovered :=
  (onlyListeners_scanned s discovered).discoveredLoopers

@[simp] theorem scanned_sent :
    (scanned s discovered).sent = s.sent ++ announcements s.server discovered.items :=
  (onlyListeners_scanned s discovered).sent

/-! ### What a reported change does -/

/-- The search by names finds the first looper-like device that has both. -/
theorem findByName_eq (tracks : List Track) (trackName deviceName : String) :
    findByName tracks trackName deviceName =
      (LooperDiscovery.looperDevices tracks).find? fun f =>
        f.track.name = trackName ∧ f.device.name = deviceName := by
  have hdevices : ∀ (t : Track × ℕ) (l : List (Device × ℕ)), (if t.1.name = trackName then
      l.findSome? fun d => if d.1.name = deviceName then
        if LooperDiscovery.isLooperDevice d.1 then
          some (⟨t.1, t.2, d.1, d.2⟩ : LooperDiscovery.FoundDevice) else none
        else none
      else none) = ((l.filter fun d => LooperDiscovery.isLooperDevice d.1).map fun d =>
        (⟨t.1, t.2, d.1, d.2⟩ : LooperDiscovery.FoundDevice)).find? fun f =>
          f.track.name = trackName ∧ f.device.name = deviceName := by
    intro t l
    induction l with
    | nil => simp
    | cons d l ih =>
      rw [List.filter_cons, List.findSome?_cons]
      by_cases ht : t.1.name = trackName
      · rw [if_pos ht] at ih ⊢
        by_cases hloop : LooperDiscovery.isLooperDevice d.1 = true
        · by_cases hd : d.1.name = deviceName
          · simp [ht, hloop, hd]
          · simp [ht, hloop, hd, ih]
        · by_cases hd : d.1.name = deviceName <;> simp [hloop, hd, ih]
      · rw [if_neg ht]
        symm
        rw [List.find?_eq_none]
        intro f hf
        have hft : f.track = t.1 := by
          split at hf
          · rw [List.map_cons, List.mem_cons, List.mem_map] at hf
            rcases hf with rfl | ⟨d', -, rfl⟩ <;> rfl
          · obtain ⟨d', -, rfl⟩ := List.mem_map.mp hf
            rfl
        simp [hft, ht]
  rw [findByName, LooperDiscovery.looperDevices, List.find?_flatMap]
  simp only [hdevices]

/-- The dictionary that a listener reports in a song: that of the device its names lead to,
if that one can be read. -/
def reported (song : Song) (listener : Listener) : Option LooperInfo :=
  (song.trackName? listener.track).bind fun trackName =>
    (song.deviceName? listener.param.device).bind fun deviceName =>
      (findByName song.tracks trackName deviceName).bind fun found => found.read.toOption

theorem reported_eq_some_iff {song : Song} {listener : Listener} {info : LooperInfo} :
    reported song listener = some info ↔
      ∃ trackName, song.trackName? listener.track = some trackName ∧
        ∃ deviceName, song.deviceName? listener.param.device = some deviceName ∧
          ∃ f, findByName song.tracks trackName deviceName = some f ∧ f.read = .ok info := by
  simp only [reported, Option.bind_eq_some_iff, toOption_eq_some_iff]

/-- The event that reports a change. -/
def changedEvent (info : LooperInfo) : Json := eventMessage "looper_state_changed" info.toJson

/-- The datagrams that some listeners report a change with. -/
def reports (b : BridgeServer) (song : Song) (listeners : List Listener) : List Datagram :=
  b.target.toList.flatMap fun port =>
    (listeners.filterMap (reported song)).map fun info =>
      ⟨port, oscPrefix ++ "/event", changedEvent info⟩

theorem reports_nil (b : BridgeServer) (song : Song) : reports b song [] = [] := by
  rw [reports]
  rcases b.target with _ | port <;> rfl

/-- A listener sends its report, if it has one, and does nothing else. -/
theorem exec_onLooperParamChanged (listener : Listener) (v : Double) (s : Script) :
    (exec (onLooperParamChanged listener v) s).2 =
      { s with sent := s.sent ++ reports s.server s.live.song [listener] } := by
  have hnone : reported s.live.song listener = none →
      { s with sent := s.sent ++ reports s.server s.live.song [listener] } = s := by
    intro h
    have hreports : reports s.server s.live.song [listener] =
        reports s.server s.live.song [] := by
      rw [reports, reports, List.filterMap_cons, h]
    rw [hreports, reports_nil, List.append_nil]
  rw [onLooperParamChanged, exec_bind, exec_get]
  simp only
  -- One case for each way the callback ends before it sends: two names, the search, the read.
  rcases ht : s.live.song.trackName? listener.track with _ | trackName
  · rw [hnone (by rw [reported, ht]; rfl)]
    rfl
  rcases hd : s.live.song.deviceName? listener.param.device with _ | deviceName
  · rw [hnone (by rw [reported, ht, hd]; rfl)]
    rfl
  rcases hf : findByName s.live.song.tracks trackName deviceName with _ | found
  · rw [hnone (by simp [reported, ht, hd, hf])]
    simp [hf]
  rcases hr : found.read with e | info
  · rw [hnone (by simp [reported, ht, hd, hf, hr, Except.toOption])]
    simp [hf, hr, exec_bind]
  · have hsome : reported s.live.song listener = some info := by
      simp [reported, ht, hd, hf, hr, Except.toOption]
    simp only [hf, exec_bind, exec_lift, hr, BridgeServer.exec_sendEvent, Script.emit, reports,
      List.filterMap_cons, hsome, List.filterMap_nil]
    rcases s.server.target with _ | port <;> rfl

/-- The script after a parameter has been assigned and its listeners have been told. -/
def assigned (s : Script) (i j k : ℕ) (p : Param) (v : Double) : Script :=
  (s.live.listenersOf p.id).foldl (fun t l => (exec (onLooperParamChanged l v) t).2)
    (s.store i j k p v)

/-- **What an assignment does**: it stores the value, and each listener of the parameter
sends its report. -/
theorem assigned_eq (s : Script) (i j k : ℕ) (p : Param) (v : Double) :
    assigned s i j k p v =
      { s.store i j k p v with
        sent := s.sent ++ reports s.server (s.live.song.setValue i j k v)
          (s.live.listenersOf p.id) } := by
  have hfold : ∀ (ls : List Listener) (t : Script),
      ls.foldl (fun t l => (exec (onLooperParamChanged l v) t).2) t =
        { t with sent := t.sent ++ reports t.server t.live.song ls } := by
    intro ls
    induction ls with
    | nil =>
      intro t
      rw [reports_nil, List.append_nil]
      rfl
    | cons l ls ih =>
      intro t
      rw [List.foldl_cons, ih, exec_onLooperParamChanged]
      simp only [reports, List.filterMap_cons, List.filterMap_nil, List.append_assoc]
      rcases t.server.target with _ | port
      · simp
      · rcases reported t.live.song l with _ | info <;> simp
  exact hfold _ _

theorem onlySent_assigned (s : Script) (i j k : ℕ) (p : Param) (v : Double) :
    OnlySent (s.store i j k p v) (assigned s i j k p v) := by
  rw [assigned_eq]
  exact ⟨_, rfl⟩

/-! ### What a command does -/

/-- **The commands that write**, whatever they are given: they answer without changing the
script, or they report success and have assigned one parameter, of the command's name, on the
device their track id leads to. -/
theorem exec_writeCommand (trackId : Json) (paramName : String) (value : Except PyExc Double)
    (s : Script) :
    (∃ answer, exec (writeCommand trackId paramName value) s = (.ok answer, s) ∧
      answer.get? "success" = some (.bool false)) ∨
    ∃ key info trackIdx deviceIdx i j k p v, trackId = .str key ∧
      s.discoveredLoopers.get? key = some info ∧ pyInt trackId = .ok trackIdx ∧
        pyInt (.str info.deviceId) = .ok deviceIdx ∧ value = .ok v ∧ p.stores v = true ∧
          LooperDiscovery.addressed s.live.song trackIdx deviceIdx paramName =
            some (i, j, k, p) ∧
          exec (writeCommand trackId paramName value) s =
            (.ok succeeded, assigned s i j k p v) := by
  -- Everything that raises here is inside of the handler's own `try`.
  rw [writeCommand, exec_tryCatch, writeParam, exec_bind, exec_lift]
  rcases hi : pyInt trackId with e | trackIdx
  · exact .inl ⟨_, rfl, rfl⟩
  simp only [exec_bind, exec_get]
  -- The positions come from the id and the entry, and the song may have changed since.
  rcases hrec : recordedUnder s.discoveredLoopers trackId with _ | info
  · exact .inl ⟨_, rfl, rfl⟩
  simp only [exec_bind, exec_lift]
  rcases hj : pyInt (.str info.deviceId) with e | deviceIdx
  · exact .inl ⟨_, rfl, rfl⟩
  simp only
  rcases value with e | v
  · exact .inl ⟨_, rfl, rfl⟩
  simp only [LooperDiscovery.exec_setLooperParam]
  rcases hp : LooperDiscovery.addressed s.live.song trackIdx deviceIdx paramName with
    _ | ⟨i, j, k, p⟩
  · exact .inl ⟨_, rfl, rfl⟩
  by_cases hv : p.stores v = true
  · right
    obtain ⟨key, rfl⟩ : ∃ key, trackId = .str key := by
      cases trackId with
      | str key => exact ⟨key, rfl⟩
      | _ => cases hrec
    refine ⟨key, info, trackIdx, deviceIdx, i, j, k, p, v, rfl, hrec, rfl, hj, rfl, hv, hp, ?_⟩
    simp only [hv, if_true, exec_pure, exec_assignValue _ _ _ _ _ _ _ hv]
    rfl
  · left
    refine ⟨failed "parameter_set_failed", ?_, rfl⟩
    simp [hv]

/-- The track id a command names. -/
def trackIdOf (args : Json) : Json := (args.get? "track_id").getD (.str "")

/-- The parameter a command writes and the value it computes, for the commands that write. -/
def writeOf (name args : Json) : Option (String × Except PyExc Double) :=
  if name = .str "set_state" then
    some ("State", .error (.attributeError
      "type object 'LooperDiscovery' has no attribute 'ABLETON_LOOPER_STATE_REVERSE_MAP'"))
  else if name = .str "undo" then some ("Undo", .ok (.finite 1))
  else if name = .str "redo" then some ("Redo", .ok (.finite 1))
  else if name = .str "set_feedback" then
    some ("Feedback", pyFloat ((args.get? "feedback").getD (.float (.finite (1 / 2)))))
  else none

/-- A writing command comes to its common body, or raises when its arguments are no object. -/
theorem exec_handleCommand_of_writeOf {name args : Json} {paramName : String}
    {value : Except PyExc Double} (hwrite : writeOf name args = some (paramName, value))
    (nsid : Json) (s : Script) :
    (args.isObj = true → exec (handleCommand (.str "looper") nsid name args) s =
      exec (some <$> writeCommand (trackIdOf args) paramName value) s) ∧
    (args.isObj = false → ∃ e, exec (handleCommand (.str "looper") nsid name args) s =
      (.error e, s)) := by
  have hget : args.isObj = true → ∀ (key : String) (default : Json) (f : Json → Py Json),
      exec (lift (pyGet args key default) >>= f) s = exec (f ((args.get? key).getD default)) s := by
    intro hargs key default f
    rw [exec_bind, exec_lift, pyGet_of_isObj hargs]
  have hbody : ∀ m : Py Json, exec m s = exec (writeCommand (trackIdOf args) paramName value) s →
      exec (some <$> m) s = exec (some <$> writeCommand (trackIdOf args) paramName value) s := by
    intro m hm
    rw [exec_map, exec_map, hm]
  have hraises : args.isObj = false → ∀ (key : String) (default : Json) (f : Json → Py Json),
      ∃ e, exec (some <$> (lift (pyGet args key default) >>= f)) s = (.error e, s) := by
    intro hargs key default f
    obtain ⟨e, he⟩ := pyGet_of_not_isObj hargs key default
    exact ⟨e, by rw [he]; rfl⟩
  rw [handleCommand, if_pos rfl]
  unfold writeOf at hwrite
  -- One case for each of the four names, as in the table of what they write.
  by_cases hstate : name = .str "set_state"
  · subst hstate
    cases hwrite
    exact ⟨fun h => hbody _ (by rw [setState, hget h, hget h]; rfl), fun h => hraises h _ _ _⟩
  by_cases hundo : name = .str "undo"
  · subst hundo
    cases hwrite
    exact ⟨fun h => hbody _ (by rw [undo, hget h]; rfl), fun h => hraises h _ _ _⟩
  by_cases hredo : name = .str "redo"
  · subst hredo
    cases hwrite
    exact ⟨fun h => hbody _ (by rw [redo, hget h]; rfl), fun h => hraises h _ _ _⟩
  by_cases hfeedback : name = .str "set_feedback"
  · subst hfeedback
    cases hwrite
    exact ⟨fun h => hbody _ (by rw [setFeedback, hget h, hget h]; rfl), fun h => hraises h _ _ _⟩
  · simp [hstate, hundo, hredo, hfeedback] at hwrite

/-- What a command returns that is none of the known ones. -/
theorem exec_handleCommand_unknown {s : Script} {ns nsid name args : Json}
    (hlooper : ¬(ns = .str "looper" ∧ (name = .str "discover" ∨ (writeOf name args).isSome)))
    (hping : ¬(ns = .str "system" ∧ name = .str "ping")) :
    exec (handleCommand ns nsid name args) s = (.ok (some (failed "unknown_command")), s) := by
  rw [handleCommand]
  by_cases hns : ns = .str "looper"
  · have hname := fun h => hlooper ⟨hns, h⟩
    have hwrite : ∀ known, (writeOf (.str known) args).isSome → name ≠ .str known := by
      rintro known hsome rfl
      exact hname (.inr hsome)
    rw [if_pos hns, if_neg fun h => hname (.inl h), if_neg (hwrite _ rfl), if_neg (hwrite _ rfl),
      if_neg (hwrite _ rfl), if_neg (hwrite _ rfl)]
    rfl
  · rw [if_neg hns, if_neg hping]
    rfl

/-- What the answer to a `discover` says. -/
def discoverResult (discovered : Dict String LooperInfo) : Json :=
  .obj [("success", .bool true), ("loopers_found", .int discovered.size)]

/-- The outcomes of a command, one for each way through `_handle_command`. -/
inductive Outcome (s : Script) (ns name args : Json) : Except PyExc (Option Json) × Script → Prop
  | discovered (found : Dict String LooperInfo) (hns : ns = .str "looper")
      (hname : name = .str "discover")
      (h : LooperDiscovery.scanResult s.live.song = .ok found) :
      Outcome s ns name args
        (.ok (some (discoverResult found)), scanned (LooperDiscovery.silenced s) found)
  | scanRaised (e : PyExc) (hns : ns = .str "looper") (hname : name = .str "discover")
      (h : LooperDiscovery.scanResult s.live.song = .error e) :
      Outcome s ns name args (.error e, cached (LooperDiscovery.silenced s))
  | noArgs (e : PyExc) (hns : ns = .str "looper") (hwrite : (writeOf name args).isSome)
      (hargs : args.isObj = false) : Outcome s ns name args (.error e, s)
  | refused (answer : Json) (hns : ns = .str "looper") (hwrite : (writeOf name args).isSome)
      (hargs : args.isObj = true) (hanswer : answer.get? "success" = some (.bool false)) :
      Outcome s ns name args (.ok (some answer), s)
  | wrote (key paramName : String) (info : LooperInfo) (trackIdx deviceIdx : ℤ) (i j k : ℕ)
      (p : Param) (v : Double) (hns : ns = .str "looper")
      (hwrite : writeOf name args = some (paramName, .ok v)) (hargs : args.isObj = true)
      (hkey : trackIdOf args = .str key) (hinfo : s.discoveredLoopers.get? key = some info)
      (htrack : pyInt (.str key) = .ok trackIdx)
      (hdevice : pyInt (.str info.deviceId) = .ok deviceIdx) (hv : p.stores v = true)
      (hp : LooperDiscovery.addressed s.live.song trackIdx deviceIdx paramName =
        some (i, j, k, p)) :
      Outcome s ns name args (.ok (some succeeded), assigned s i j k p v)
  | other (answer : Json)
      (h : ¬(ns = .str "looper" ∧ (name = .str "discover" ∨ (writeOf name args).isSome))) :
      Outcome s ns name args (.ok (some answer), s)

private theorem outcome_discover (s : Script) (args : Json) :
    Outcome s (.str "looper") (.str "discover") args (exec (some <$> discover) s) := by
  rw [exec_map, discover, exec_bind, LooperDiscovery.exec_stopListening]
  simp only [exec_bind]
  rcases h : LooperDiscovery.scanResult s.live.song with e | found
  · rw [exec_fullScan_error (s := LooperDiscovery.silenced s) h]
    exact .scanRaised e rfl rfl h
  · rw [exec_fullScan_ok (s := LooperDiscovery.silenced s) h]
    simp only [exec_get, exec_pure, scanned_discoveredLoopers]
    exact .discovered found rfl rfl h

/-- **What a command does**: every run of `_handle_command` is one of the outcomes. -/
theorem outcome_handleCommand (s : Script) (ns nsid name args : Json) :
    Outcome s ns name args (exec (handleCommand ns nsid name args) s) := by
  by_cases hlooper : ns = .str "looper" ∧ (name = .str "discover" ∨ (writeOf name args).isSome)
  · obtain ⟨rfl, rfl | hsome⟩ := hlooper
    · exact outcome_discover s args
    obtain ⟨⟨paramName, value⟩, hwrite⟩ := Option.isSome_iff_exists.mp hsome
    obtain ⟨hbody, hraises⟩ := exec_handleCommand_of_writeOf hwrite nsid s
    rcases hargs : args.isObj with _ | _
    · obtain ⟨e, he⟩ := hraises hargs
      rw [he]
      exact .noArgs e rfl hsome hargs
    · rw [hbody hargs, exec_map]
      rcases exec_writeCommand (trackIdOf args) paramName value s with ⟨answer, h, hanswer⟩ |
        ⟨key, info, trackIdx, deviceIdx, i, j, k, p, v, hkey, hinfo, ht, hd, rfl, hv, hp, h⟩
      · rw [h]
        exact .refused answer rfl hsome hargs hanswer
      · rw [h]
        exact .wrote key paramName info trackIdx deviceIdx i j k p v rfl hwrite hargs hkey hinfo
          (hkey ▸ ht) hd hv hp
  · by_cases hping : ns = .str "system" ∧ name = .str "ping"
    · obtain ⟨rfl, rfl⟩ := hping
      exact .other _ hlooper
    · rw [exec_handleCommand_unknown hlooper hping]
      exact .other _ hlooper

end LooperControlSurface

end LooperControl
