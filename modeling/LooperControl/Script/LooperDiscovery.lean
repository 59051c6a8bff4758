import LooperControl.Lib.Repeated
import LooperControl.Script.State

/-!
# `LooperDiscovery`

Looper-like devices are found by parameter patterns, read into dictionaries, and listened
to. The nested loops over tracks and devices all visit the same devices in the same order:
`looperDevices` lists them with their positions, and the specification of each method is
stated over that list.

* `exec_scanAllTracks`: a scan returns what reading the listed devices one by one returns,
  keyed by track id, and touches nothing but the cache.
* `exec_setLooperParam`: a write assigns the parameter it addresses (`addressed`) when there
  is one that accepts the value, and otherwise leaves the script as it is.
-/

namespace LooperControl

open Effect

namespace LooperDiscovery

/-- The names in the patterns of `LOOPER_PARAMETER_PATTERNS`. -/
def looperParameterPatterns : List (List String) :=
  [["State", "Feedback"], ["Record", "Play", "Stop"], ["Record", "Overdub", "Play"]]

/-- `ABLETON_LOOPER_STATE_MAP`. -/
def abletonLooperStateMap : ℤ → Option String
  | 0 => some "Stopped"
  | 1 => some "Recording"
  | 2 => some "Playing"
  | 3 => some "Overdubbing"
  | _ => none

/-- The parameter names `start_listening` watches. -/
def watchedNames : List String :=
  ["State", "Feedback", "Reverse", "Record", "Play", "Stop", "Overdub"]

/-- `device.parameters`, raising on a device that cannot be read. -/
def readParameters (device : Device) : Except PyExc (List Param) :=
  match device.parameters with
  | some params => .ok params
  | none => .error (.liveError "device is not accessible")

/-- `_is_looper_device`. A device that cannot be read counts as one without parameters. -/
def isLooperDevice (device : Device) : Bool :=
  let paramNames := match device.parameters with
    | some params => params.map Param.name
    | none => []
  looperParameterPatterns.any (fun required => required.all fun name => name ∈ paramNames) ||
    device.className == "Looper"

/-- `x > q` on doubles. -/
def exceeds : Double → ℚ → Bool
  | .finite x, q => q < x
  | .infinite negative, _ => !negative
  | .nan, _ => false

/-- One round of the loop over the parameters in `_read_looper_state`. -/
def readParam (info : LooperInfo) (param : Param) : Except PyExc LooperInfo :=
  if param.name = "State" then
    (pyInt (.float param.value)).map fun stateVal =>
      { info with state := (abletonLooperStateMap stateVal).getD "Stopped" }
  else if param.name = "Feedback" then .ok { info with feedback := param.value }
  else if param.name = "Reverse" then .ok { info with reverse := exceeds param.value (1 / 2) }
  else .ok info

/-- `_read_looper_state`. -/
def readLooperState (track : Track) (trackIdx : ℕ) (device : Device) (deviceIdx : ℕ) :
    Except PyExc LooperInfo :=
  (readParameters device).bind fun params =>
    params.foldlM readParam
      { trackId := toString trackIdx
        trackName := track.name
        deviceId := toString deviceIdx
        deviceName := device.name
        className := device.className
        state := "Stopped"
        feedback := .finite (1 / 2)
        reverse := false }

/-- One device of the nested loops of `scan_all_tracks`. -/
def scanDevice (track : Track) (trackIdx : ℕ) (discovered : Dict String LooperInfo)
    (entry : Device × ℕ) : Py (Dict String LooperInfo) :=
  if isLooperDevice entry.1 then do
    let looperInfo ← lift (readLooperState track trackIdx entry.1 entry.2)
    modify fun s => { s with discovery := { s.discovery with
      loopers := s.discovery.loopers.insert track.name looperInfo } }
    pure (discovered.insert looperInfo.trackId looperInfo)
  else pure discovered

/-- `scan_all_tracks`. -/
def scanAllTracks : Py (Dict String LooperInfo) := do
  let s ← get
  s.live.song.tracks.zipIdx.foldlM (fun discovered entry =>
    entry.1.devices.zipIdx.foldlM (scanDevice entry.1 entry.2) discovered) ∅

/-- `get_discovered_loopers`. The copy is as good as the dictionary, which cannot be changed. -/
def getDiscoveredLoopers : Py (Dict String LooperInfo) := do
  let s ← get
  pure s.discovery.loopers

/-- The body of the `try` in `start_listening`: make a listener, attach it, record it. -/
def listenTo (track : Track) (device : Device) (param : Param) : Py Unit := do
  let s ← get
  let listener : Listener := ⟨s.live.nextListener, track.id, param.id⟩
  modify fun s => { s with live := { s.live with nextListener := s.live.nextListener + 1 } }
  addValueListener param listener
  modify fun s => { s with discovery := { s.discovery with
    paramListeners := s.discovery.paramListeners.insert device.id
      ((s.discovery.paramListeners.get? device.id).getD [] ++ [listener]) } }

/-- `start_listening`. -/
def startListening : Py Unit := do
  let s ← get
  s.live.song.tracks.forM fun track =>
    track.devices.forM fun device =>
      if isLooperDevice device then do
        let params ← lift (readParameters device)
        params.forM fun param =>
          if param.name ∈ watchedNames then
            tryCatch (listenTo track device param) fun _ => pure ()
          else pure ()
      else pure ()

/-- `stop_listening`. -/
def stopListening : Py Unit := do
  let s ← get
  s.discovery.paramListeners.values.forM fun listeners =>
    listeners.forM fun listener =>
      tryCatch (removeValueListener listener) fun _ => pure ()
  modify fun s => { s with discovery := { s.discovery with paramListeners := ∅ } }

/-- `_set_looper_param`. -/
def setLooperParam (notify : Listener → Double → Py Unit) (trackIdx deviceIdx : ℤ)
    (paramName : String) (value : Double) : Py Bool :=
  tryCatch (do
    let s ← get
    let i ← lift (pyIndex s.live.song.tracks.length trackIdx)
    let devices := (s.live.song.tracks[i]?.map Track.devices).getD []
    let j ← lift (pyIndex devices.length deviceIdx)
    match devices[j]? with
    | none => pure false
    | some device =>
      if isLooperDevice device then do
        let params ← lift (readParameters device)
        match params.zipIdx.find? fun entry => entry.1.name = paramName with
        | some (param, k) => do
          assignValue notify i j k param value
          pure true
        | none => pure false
      else pure false) fun _ => pure false

/-! ### The devices the loops visit -/

/-- A looper-like device with the track it is on and both positions. -/
structure FoundDevice where
  track : Track
  trackIdx : ℕ
  device : Device
  deviceIdx : ℕ

/-- Reading a found device. -/
def FoundDevice.read (f : FoundDevice) : Except PyExc LooperInfo :=
  readLooperState f.track f.trackIdx f.device f.deviceIdx

/-- The looper-like devices of a list of tracks in the order the nested loops visit them. -/
def looperDevices (tracks : List Track) : List FoundDevice :=
  tracks.zipIdx.flatMap fun t =>
    (t.1.devices.zipIdx.filter fun d => isLooperDevice d.1).map fun d => ⟨t.1, t.2, d.1, d.2⟩

/-- A device is listed at a position exactly when it stands there and is looper-like. -/
theorem mem_looperDevices {tracks : List Track} {f : FoundDevice} :
    f ∈ looperDevices tracks ↔
      tracks[f.trackIdx]? = some f.track ∧ f.track.devices[f.deviceIdx]? = some f.device ∧
        isLooperDevice f.device = true := by
  obtain ⟨t, i, d, j⟩ := f
  simp only [looperDevices, List.mem_flatMap, List.mem_map, List.mem_filter,
    List.mem_zipIdx_iff_getElem?, FoundDevice.mk.injEq]
  constructor
  · rintro ⟨⟨t', i'⟩, ht, ⟨d', j'⟩, ⟨hd, hl⟩, rfl, rfl, rfl, rfl⟩
    exact ⟨ht, hd, hl⟩
  · rintro ⟨ht, hd, hl⟩
    exact ⟨(t, i), ht, (d, j), ⟨hd, hl⟩, rfl, rfl, rfl, rfl⟩

/-- The position of a found device. -/
def FoundDevice.position (f : FoundDevice) : ℕ × ℕ := (f.trackIdx, f.deviceIdx)

/-- The order in which the nested loops visit positions. -/
def Precedes (a b : ℕ × ℕ) : Prop := a.1 < b.1 ∨ a.1 = b.1 ∧ a.2 < b.2

theorem pairwise_zipIdx {α : Type} (l : List α) : l.zipIdx.Pairwise fun a b => a.2 < b.2 := by
  refine List.pairwise_map.mp ?_
  rw [List.zipIdx_map_snd]
  exact List.pairwise_lt_range'

/-- The devices are listed in the order of their positions. -/
theorem pairwise_looperDevices (tracks : List Track) :
    (looperDevices tracks).Pairwise fun f g => Precedes f.position g.position := by
  rw [looperDevices, List.pairwise_flatMap]
  constructor
  · rintro t -
    rw [List.pairwise_map]
    refine ((pairwise_zipIdx t.1.devices).filter _).imp fun {a b} hab => ?_
    exact .inr ⟨rfl, hab⟩
  · refine (pairwise_zipIdx tracks).imp fun {a b} hab f hf g hg => ?_
    obtain ⟨d, -, rfl⟩ := List.mem_map.mp hf
    obtain ⟨e, -, rfl⟩ := List.mem_map.mp hg
    exact .inl hab

/-- No position is listed twice. -/
theorem nodup_positions (tracks : List Track) :
    ((looperDevices tracks).map FoundDevice.position).Nodup := by
  refine List.pairwise_map.mpr ((pairwise_looperDevices tracks).imp fun {f g} h heq => ?_)
  rw [heq] at h
  rcases h with h | ⟨-, h⟩
  · exact Nat.lt_irrefl _ h
  · exact Nat.lt_irrefl _ h

/-- Reading found devices one after the other, up to the first that raises. -/
def readAll : List FoundDevice → Except PyExc (List LooperInfo)
  | [] => .ok []
  | f :: l => f.read.bind fun info => (readAll l).map (info :: ·)

/-- The pairs a scan writes into its result: each dictionary under its track id. -/
def byTrackId (infos : List LooperInfo) : List (String × LooperInfo) :=
  infos.map fun info => (info.trackId, info)

/-- What `scan_all_tracks` returns or raises. -/
def scanResult (song : Song) : Except PyExc (Dict String LooperInfo) :=
  (readAll (looperDevices song.tracks)).map fun infos =>
    (∅ : Dict String LooperInfo).insertAll (byTrackId infos)

/-- The cache after the found devices have been read, up to the first that raises. -/
def rememberAll (cache : Dict String LooperInfo) : List FoundDevice → Dict String LooperInfo
  | [] => cache
  | f :: l =>
    match f.read with
    | .ok info => rememberAll (cache.insert f.track.name info) l
    | .error _ => cache

theorem readAll_ok_iff {l : List FoundDevice} {infos : List LooperInfo} :
    readAll l = .ok infos ↔ List.Forall₂ (fun f info => f.read = .ok info) l infos := by
  induction l generalizing infos with
  | nil =>
    rw [readAll, List.forall₂_nil_left_iff, Except.ok.injEq]
    exact eq_comm
  | cons f l ih =>
    rw [readAll, List.forall₂_cons_left_iff]
    rcases hf : f.read with e | info
    · simp [Except.bind]
    · rcases hl : readAll l with e | infos'
      · have hno : ∀ infos', ¬List.Forall₂ (fun f info => f.read = .ok info) l infos' :=
          fun infos' h => by simp [ih.mpr h] at hl
        simp [Except.bind, Except.map, hno]
      · simp only [Except.bind, Except.map, Except.ok.injEq]
        constructor
        · rintro rfl
          exact ⟨info, infos', rfl, ih.mp hl, rfl⟩
        · rintro ⟨info₁, infos₁, rfl, h, rfl⟩
          rw [← ih, hl, Except.ok.injEq] at h
          rw [h]

/-- A list of found devices reads without raising when each of them does. -/
theorem exists_readAll_iff {l : List FoundDevice} :
    (∃ infos, readAll l = .ok infos) ↔ ∀ f ∈ l, ∃ info, f.read = .ok info := by
  induction l with
  | nil => simp [readAll]
  | cons f l ih =>
    rw [List.forall_mem_cons, ← ih, readAll]
    rcases f.read with e | info
    · simp [Except.bind]
    · rcases readAll l with e | infos <;> simp [Except.bind, Except.map]

/-! ### `_read_looper_state` -/

/-- The loop over the parameters never touches the identifying fields. -/
theorem readParam_ids {info info' : LooperInfo} {param : Param}
    (h : readParam info param = .ok info') :
    info'.trackId = info.trackId ∧ info'.trackName = info.trackName ∧
      info'.deviceId = info.deviceId ∧ info'.deviceName = info.deviceName ∧
        info'.className = info.className := by
  unfold readParam at h
  split at h
  · rcases hv : pyInt (.float param.value) with e | v
    · simp [hv, Except.map] at h
    · rw [hv, Except.map, Except.ok.injEq] at h
      subst h
      exact ⟨rfl, rfl, rfl, rfl, rfl⟩
  · split at h
    · rw [Except.ok.injEq] at h
      subst h
      exact ⟨rfl, rfl, rfl, rfl, rfl⟩
    · split at h <;>
      · rw [Except.ok.injEq] at h
        subst h
        exact ⟨rfl, rfl, rfl, rfl, rfl⟩

/-- What every round of the loop keeps, the loop keeps. -/
private theorem foldlM_readParam_keeps {P : LooperInfo → Prop}
    (hkeep : ∀ info info' param, P info → readParam info param = .ok info' → P info')
    {params : List Param} {info info' : LooperInfo} (h : params.foldlM readParam info = .ok info')
    (hinfo : P info) : P info' := by
  induction params generalizing info with
  | nil =>
    rw [List.foldlM_nil] at h
    cases h
    exact hinfo
  | cons p params ih =>
    rw [List.foldlM_cons] at h
    rcases hp : readParam info p with e | info₁
    · rw [hp] at h
      cases h
    · rw [hp] at h
      exact ih h (hkeep info info₁ p hinfo hp)

/-- What is read from a device is the outcome of the loop over its parameters. -/
private theorem foldlM_of_read {f : FoundDevice} {info : LooperInfo} (h : f.read = .ok info) :
    f.device.params.foldlM readParam
      { trackId := toString f.trackIdx
        trackName := f.track.name
        deviceId := toString f.deviceIdx
        deviceName := f.device.name
        className := f.device.className
        state := "Stopped"
        feedback := .finite (1 / 2)
        reverse := false } = .ok info := by
  unfold FoundDevice.read readLooperState readParameters Device.parameters at h
  by_cases hr : f.device.readable = true
  · rw [if_pos hr] at h
    exact h
  · rw [if_neg hr] at h
    cases h

/-- **What a dictionary identifies**: the two positions, as decimal numerals, and the names
of the objects there. -/
theorem read_ids {f : FoundDevice} {info : LooperInfo} (h : f.read = .ok info) :
    info.trackId = toString f.trackIdx ∧ info.trackName = f.track.name ∧
      info.deviceId = toString f.deviceIdx ∧ info.deviceName = f.device.name ∧
        info.className = f.device.className := by
  refine foldlM_readParam_keeps (P := fun info => info.trackId = toString f.trackIdx ∧
    info.trackName = f.track.name ∧ info.deviceId = toString f.deviceIdx ∧
      info.deviceName = f.device.name ∧ info.className = f.device.className) ?_
    (foldlM_of_read h) ⟨rfl, rfl, rfl, rfl, rfl⟩
  rintro info₁ info₂ param ⟨h1, h2, h3, h4, h5⟩ hread
  obtain ⟨g1, g2, g3, g4, g5⟩ := readParam_ids hread
  exact ⟨g1.trans h1, g2.trans h2, g3.trans h3, g4.trans h4, g5.trans h5⟩

/-- The names of the states that a dictionary can carry. -/
def stateNames : List String := ["Stopped", "Recording", "Playing", "Overdubbing"]

private theorem readParam_state {info info' : LooperInfo} {param : Param}
    (hinfo : info.state ∈ stateNames) (h : readParam info param = .ok info') :
    info'.state ∈ stateNames := by
  unfold readParam at h
  split at h
  · rcases hv : pyInt (.float param.value) with e | v
    · rw [hv] at h
      cases h
    · rw [hv] at h
      cases h
      dsimp only
      unfold abletonLooperStateMap
      split <;> decide
  · split at h
    · cases h
      exact hinfo
    · split at h <;>
      · cases h
        exact hinfo

/-- A dictionary carries one of the four states. -/
theorem read_state {f : FoundDevice} {info : LooperInfo} (h : f.read = .ok info) :
    info.state ∈ stateNames :=
  foldlM_readParam_keeps (P := fun info => info.state ∈ stateNames)
    (fun _ _ _ => readParam_state) (foldlM_of_read h) List.mem_cons_self

/-- A device reads without raising when its parameter list does and no value of a parameter
named State is an infinity or NaN. -/
def readable (device : Device) : Bool :=
  match device.parameters with
  | some params => params.all fun p => p.name != "State" || p.value.isFinite
  | none => false

theorem exists_readParam_iff {info : LooperInfo} {param : Param} :
    (∃ info', readParam info param = .ok info') ↔
      param.name ≠ "State" ∨ param.value.isFinite = true := by
  unfold readParam
  split
  · rename_i hname
    rcases hv : param.value with q | b | _ <;> simp [pyInt, Except.map, Double.isFinite, hname]
  · rename_i hname
    split
    · simp [hname]
    · split <;> simp [hname]

private theorem exists_foldlM_readParam_iff {params : List Param} {info : LooperInfo} :
    (∃ info', params.foldlM readParam info = .ok info') ↔
      ∀ p ∈ params, p.name ≠ "State" ∨ p.value.isFinite = true := by
  induction params generalizing info with
  | nil => simp [pure, Except.pure]
  | cons p params ih =>
    rw [List.forall_mem_cons, List.foldlM_cons]
    rcases hp : readParam info p with e | info₁
    · have hno : ¬(p.name ≠ "State" ∨ p.value.isFinite = true) := by
        rw [← @exists_readParam_iff info p]
        rintro ⟨info', h⟩
        rw [hp] at h
        cases h
      simp [bind, Except.bind, hno]
    · have hyes : p.name ≠ "State" ∨ p.value.isFinite = true :=
        exists_readParam_iff.mp ⟨info₁, hp⟩
      rw [← @ih info₁]
      simp [bind, Except.bind, hyes]

theorem exists_read_iff {f : FoundDevice} :
    (∃ info, f.read = .ok info) ↔ readable f.device = true := by
  unfold FoundDevice.read readLooperState readParameters readable
  rcases f.device.parameters with _ | params
  · simp [Except.bind]
  · simp only [Except.bind]
    rw [exists_foldlM_readParam_iff, List.all_eq_true]
    simp

/-- The feedback a device has: the value of its last parameter named Feedback. -/
def feedbackOf (device : Device) : Double :=
  ((device.params.filter fun p => p.name = "Feedback").getLast?.map Param.value).getD
    (.finite (1 / 2))

/-- The values of the parameters of a device with a name, in order. -/
def valuesOf (device : Device) (name : String) : List Double :=
  Repeated.valuesOf Param.name Param.value name device.params

/-- A device reads without raising exactly if its parameters can be read and its states are
finite. -/
theorem readable_iff {device : Device} : readable device = true ↔
    device.readable = true ∧ ∀ x ∈ valuesOf device "State", x.isFinite = true := by
  rw [readable, Device.parameters]
  rcases device.readable with _ | _
  · simp
  · simp only [valuesOf, Repeated.valuesOf, List.forall_mem_map, List.mem_filter,
      List.all_eq_true, Bool.or_eq_true, bne_iff_ne, decide_eq_true_eq, and_imp, true_and,
      if_true, ← imp_iff_not_or, ne_eq]

/-- The state that a value of a parameter named State is read as. -/
def shownState (x : Double) : String :=
  match pyInt (.float x) with
  | .ok stateVal => (abletonLooperStateMap stateVal).getD "Stopped"
  | .error _ => "Stopped"

/-- The state a device has: that of its last parameter named State. -/
def stateOf (device : Device) : String :=
  ((valuesOf device "State").getLast?.map shownState).getD "Stopped"

/-- Whether a device is reversed: by its last parameter named Reverse. -/
def reverseOf (device : Device) : Bool :=
  ((valuesOf device "Reverse").getLast?.map fun x => exceeds x (1 / 2)).getD false

theorem feedbackOf_eq (device : Device) :
    feedbackOf device = ((valuesOf device "Feedback").getLast?.map id).getD (.finite (1 / 2)) := by
  rw [feedbackOf, valuesOf, Repeated.valuesOf, List.getLast?_map, Option.map_id]
  rfl

/-- One round of the loop over the parameters, field by field. -/
private theorem readParam_fields {info info' : LooperInfo} {param : Param}
    (h : readParam info param = .ok info') :
    info'.state = (if param.name = "State" then shownState param.value else info.state) ∧
      info'.feedback = (if param.name = "Feedback" then param.value else info.feedback) ∧
        info'.reverse =
          if param.name = "Reverse" then exceeds param.value (1 / 2) else info.reverse := by
  unfold readParam at h
  by_cases hstate : param.name = "State"
  · rw [if_pos hstate] at h
    rw [hstate, if_pos rfl, if_neg (by decide), if_neg (by decide), shownState]
    rcases hv : pyInt (.float param.value) with e | v
    · rw [hv] at h
      cases h
    · rw [hv] at h
      cases h
      exact ⟨rfl, rfl, rfl⟩
  rw [if_neg hstate] at h ⊢
  by_cases hfeedback : param.name = "Feedback"
  · rw [if_pos hfeedback] at h
    cases h
    rw [hfeedback, if_pos rfl, if_neg (by decide)]
    exact ⟨rfl, rfl, rfl⟩
  rw [if_neg hfeedback] at h ⊢
  split at h <;> rename_i hreverse <;> cases h
  · rw [if_pos hreverse]
    exact ⟨rfl, rfl, rfl⟩
  · rw [if_neg hreverse]
    exact ⟨rfl, rfl, rfl⟩

/-- A field that a round of the loop takes from parameters of one name is taken from the last of
them. -/
private theorem foldlM_readParam_last {α : Type} (field : LooperInfo → α) (shown : Double → α)
    {name : String}
    (hround : ∀ {info info' : LooperInfo} {param : Param}, readParam info param = .ok info' →
      field info' = if param.name = name then shown param.value else field info)
    {params : List Param} {info info' : LooperInfo} (h : params.foldlM readParam info = .ok info') :
    field info' =
      ((Repeated.valuesOf Param.name Param.value name params).getLast?.map shown).getD
        (field info) := by
  induction params generalizing info with
  | nil =>
    rw [List.foldlM_nil] at h
    cases h
    rfl
  | cons p params ih =>
    rw [List.foldlM_cons] at h
    rcases hp : readParam info p with e | info₁
    · rw [hp] at h
      cases h
    · rw [hp] at h
      rw [ih h, hround hp, Repeated.valuesOf_cons]
      by_cases hname : p.name = name
      · rw [if_pos hname, if_pos hname, List.getLast?_cons, Option.map_some, Option.getD_some]
        generalize List.getLast? _ = last
        rcases last with _ | x <;> rfl
      · rw [if_neg hname, if_neg hname]

/-- **What a dictionary carries as feedback.** -/
theorem read_feedback {f : FoundDevice} {info : LooperInfo} (h : f.read = .ok info) :
    info.feedback = feedbackOf f.device := by
  rw [feedbackOf_eq]
  exact foldlM_readParam_last LooperInfo.feedback id (fun hread => (readParam_fields hread).2.1)
    (foldlM_of_read h)

/-- What a dictionary carries as the state. -/
theorem read_stateOf {f : FoundDevice} {info : LooperInfo} (h : f.read = .ok info) :
    info.state = stateOf f.device :=
  foldlM_readParam_last LooperInfo.state shownState (fun hread => (readParam_fields hread).1)
    (foldlM_of_read h)

/-- What a dictionary carries as the direction. -/
theorem read_reverseOf {f : FoundDevice} {info : LooperInfo} (h : f.read = .ok info) :
    info.reverse = reverseOf f.device :=
  foldlM_readParam_last LooperInfo.reverse (fun x => exceeds x (1 / 2))
    (fun hread => (readParam_fields hread).2.2) (foldlM_of_read h)

/-- The feedback of a device whose values are finite is. -/
theorem isFinite_feedbackOf {device : Device} (h : ∀ p ∈ device.params, p.value.isFinite = true) :
    (feedbackOf device).isFinite = true := by
  rw [feedbackOf]
  generalize hlast : List.getLast? _ = last
  rcases last with _ | p
  · rfl
  · exact h p (List.mem_of_mem_filter (List.mem_of_getLast? hlast))

/-! ### `scan_all_tracks` -/

/-- One looper-like device of a scan. -/
private def scanFound (discovered : Dict String LooperInfo) (f : FoundDevice) :
    Py (Dict String LooperInfo) := do
  let looperInfo ← lift f.read
  modify fun s => { s with discovery := { s.discovery with
    loopers := s.discovery.loopers.insert f.track.name looperInfo } }
  pure (discovered.insert looperInfo.trackId looperInfo)

private theorem foldlM_scanDevice (track : Track) (trackIdx : ℕ) (l : List (Device × ℕ))
    (discovered : Dict String LooperInfo) :
    l.foldlM (scanDevice track trackIdx) discovered =
      ((l.filter fun d => isLooperDevice d.1).map fun d =>
        (⟨track, trackIdx, d.1, d.2⟩ : FoundDevice)).foldlM scanFound discovered := by
  rw [List.foldlM_map, List.foldlM_filter]
  rfl

private theorem foldlM_scanAll (tracks : List Track) (discovered : Dict String LooperInfo) :
    tracks.zipIdx.foldlM (fun discovered entry =>
        entry.1.devices.zipIdx.foldlM (scanDevice entry.1 entry.2) discovered) discovered =
      (looperDevices tracks).foldlM scanFound discovered := by
  rw [looperDevices, foldlM_flatMap]
  simp only [foldlM_scanDevice]

private theorem exec_foldlM_scanFound (l : List FoundDevice) (discovered : Dict String LooperInfo)
    (s : Script) :
    exec (l.foldlM scanFound discovered) s =
      ((readAll l).map fun infos => discovered.insertAll (byTrackId infos),
        { s with discovery := { s.discovery with
          loopers := rememberAll s.discovery.loopers l } }) := by
  induction l generalizing discovered s with
  | nil => rfl
  | cons f l ih =>
    rw [List.foldlM_cons, exec_bind, scanFound, exec_bind, exec_lift, readAll, rememberAll]
    rcases f.read with e | info
    · rfl
    · simp only [exec_bind, exec_modify, exec_pure, ih, Except.bind]
      rcases readAll l with e | infos <;> rfl

/-- **What a scan does**: it returns the dictionaries of the looper-like devices under their
track ids, raises when reading one of them does, and fills the cache on the way. -/
theorem exec_scanAllTracks (s : Script) :
    exec scanAllTracks s = (scanResult s.live.song, { s with discovery := { s.discovery with
      loopers := rememberAll s.discovery.loopers (looperDevices s.live.song.tracks) } }) := by
  rw [scanAllTracks, exec_bind, exec_get]
  simp only [foldlM_scanAll, exec_foldlM_scanFound]
  rfl

/-! ### What a scan returns -/

/-- A song whose looper-like devices can all be read. -/
def AllReadable (song : Song) : Prop :=
  ∀ t ∈ song.tracks, ∀ d ∈ t.devices, isLooperDevice d = true → readable d = true

instance (song : Song) : Decidable (AllReadable song) :=
  inferInstanceAs (Decidable (∀ t ∈ song.tracks, ∀ d ∈ t.devices, _ → _))

theorem allReadable_iff {song : Song} :
    AllReadable song ↔ ∀ f ∈ looperDevices song.tracks, readable f.device = true := by
  constructor
  · intro h f hf
    obtain ⟨ht, hd, hloop⟩ := mem_looperDevices.mp hf
    exact h _ (List.mem_of_getElem? ht) _ (List.mem_of_getElem? hd) hloop
  · intro h t ht d hd hloop
    obtain ⟨i, hi⟩ := List.getElem?_of_mem ht
    obtain ⟨j, hj⟩ := List.getElem?_of_mem hd
    exact h ⟨t, i, d, j⟩ (mem_looperDevices.mpr ⟨hi, hj, hloop⟩)

/-- The looper-like device that a scan records under a track id: the last one on its track. -/
def lastLooper? (song : Song) (trackId : String) : Option FoundDevice :=
  ((looperDevices song.tracks).filter fun f => toString f.trackIdx = trackId).getLast?

theorem mem_lastLooper? {song : Song} {k : String} {f : FoundDevice}
    (h : lastLooper? song k = some f) :
    f ∈ looperDevices song.tracks ∧ k = toString f.trackIdx := by
  obtain ⟨hf, hk⟩ := List.mem_filter.mp (List.mem_of_getLast? h)
  exact ⟨hf, (of_decide_eq_true hk).symm⟩

theorem isSome_lastLooper?_iff {song : Song} {k : String} :
    (lastLooper? song k).isSome ↔ ∃ f ∈ looperDevices song.tracks, k = toString f.trackIdx := by
  constructor
  · intro h
    obtain ⟨f, hf⟩ := Option.isSome_iff_exists.mp h
    exact ⟨f, mem_lastLooper? hf⟩
  · rintro ⟨f, hf, rfl⟩
    rw [lastLooper?, List.getLast?_isSome]
    exact List.ne_nil_of_mem (List.mem_filter.mpr ⟨hf, decide_eq_true rfl⟩)

/-- A lookup after the pairs of read devices have been written finds the last on its track. -/
private theorem replay_byTrackId {l : List FoundDevice} {infos : List LooperInfo}
    (h : List.Forall₂ (fun f info => f.read = .ok info) l infos) (m : Store String LooperInfo)
    (k : String) : m.replay (byTrackId infos) k =
      ((l.filter fun f => toString f.trackIdx = k).getLast?.map fun f =>
        f.read.toOption).getD (m k) := by
  induction h generalizing m with
  | nil => rfl
  | @cons f info l infos hread hall ih =>
    have hid := (read_ids hread).1
    rw [byTrackId, List.map_cons, Store.replay_cons, ← byTrackId, ih, Store.put_apply,
      List.filter_cons]
    by_cases hk : toString f.trackIdx = k
    · -- The pair written now is overwritten when another device of the track follows.
      have hk' : k = info.trackId := by rw [hid, hk]
      simp only [hk, decide_true, if_true, List.getLast?_cons, if_pos hk']
      generalize List.getLast? _ = last
      rcases last with _ | g
      · simp [hread, Except.toOption]
      · rfl
    · have hk' : ¬k = info.trackId := fun h => hk (by rw [h, hid])
      simp only [hk, decide_false, Bool.false_eq_true, if_false, if_neg hk']

/-- **What a scan records** under an id: the last looper-like device on the track, as read. -/
theorem get?_scanResult_iff {song : Song} {discovered : Dict String LooperInfo} {k : String}
    {info : LooperInfo} (h : scanResult song = .ok discovered) :
    discovered.get? k = some info ↔ ∃ f, lastLooper? song k = some f ∧ f.read = .ok info := by
  rw [scanResult] at h
  rcases hr : readAll (looperDevices song.tracks) with e | infos
  · rw [hr] at h
    cases h
  rw [hr] at h
  cases h
  have hget := replay_byTrackId (readAll_ok_iff.mp hr) (fun _ => none) k
  change Dict.view _ k = some info ↔ _
  rw [Dict.view_insertAll, Dict.view_empty, hget]
  change ((lastLooper? song k).map _).getD none = some info ↔ _
  rcases lastLooper? song k with _ | f
  · simp
  · simp [toOption_eq_some_iff]

/-- Every entry of a scan is the dictionary of a looper-like device, under its track id. -/
theorem mem_scanResult {song : Song} {discovered : Dict String LooperInfo} {k : String}
    {info : LooperInfo} (h : scanResult song = .ok discovered)
    (hk : discovered.get? k = some info) :
    ∃ f ∈ looperDevices song.tracks, f.read = .ok info ∧ k = toString f.trackIdx := by
  obtain ⟨f, hlast, hread⟩ := (get?_scanResult_iff h).mp hk
  obtain ⟨hf, hkf⟩ := mem_lastLooper? hlast
  exact ⟨f, hf, hread, hkf⟩

/-- A scan raises exactly when some looper-like device cannot be read. -/
theorem exists_scanResult_iff {song : Song} :
    (∃ discovered, scanResult song = .ok discovered) ↔ AllReadable song := by
  have hread : (∃ discovered, scanResult song = .ok discovered) ↔
      ∃ infos, readAll (looperDevices song.tracks) = .ok infos := by
    rw [scanResult]
    rcases readAll (looperDevices song.tracks) with e | infos <;> simp [Except.map]
  rw [hread, exists_readAll_iff, allReadable_iff]
  simp only [exists_read_iff]

theorem allReadable_of_scanResult {song : Song} {discovered : Dict String LooperInfo}
    (h : scanResult song = .ok discovered) : AllReadable song :=
  exists_scanResult_iff.mp ⟨discovered, h⟩

theorem not_allReadable_of_scanResult {song : Song} {e : PyExc} (h : scanResult song = .error e) :
    ¬AllReadable song := by
  intro hread
  obtain ⟨discovered, hscan⟩ := exists_scanResult_iff.mpr hread
  rw [h] at hscan
  cases hscan

/-- The keys of a scan are the ids of the tracks with a looper-like device. -/
theorem isSome_scanResult_iff {song : Song} {discovered : Dict String LooperInfo} {k : String}
    (h : scanResult song = .ok discovered) :
    (discovered.get? k).isSome ↔ ∃ f ∈ looperDevices song.tracks, k = toString f.trackIdx := by
  rw [← isSome_lastLooper?_iff]
  constructor
  · intro hk
    obtain ⟨info, hinfo⟩ := Option.isSome_iff_exists.mp hk
    obtain ⟨f, hlast, -⟩ := (get?_scanResult_iff h).mp hinfo
    rw [hlast]
    rfl
  · intro hk
    obtain ⟨f, hlast⟩ := Option.isSome_iff_exists.mp hk
    obtain ⟨info, hread⟩ := exists_read_iff.mpr
      (allReadable_iff.mp (allReadable_of_scanResult h) f (mem_lastLooper? hlast).1)
    rw [(get?_scanResult_iff h).mpr ⟨f, hlast, hread⟩]
    rfl

/-! ### `_set_looper_param` -/

/-- The parameter that a write to a named parameter at a pair of indices assigns, with its
position. -/
def addressed (song : Song) (trackIdx deviceIdx : ℤ) (paramName : String) :
    Option (ℕ × ℕ × ℕ × Param) :=
  match pyIndex song.tracks.length trackIdx with
  | .error _ => none
  | .ok i =>
    let devices := (song.tracks[i]?.map Track.devices).getD []
    match pyIndex devices.length deviceIdx with
    | .error _ => none
    | .ok j =>
      devices[j]?.bind fun device =>
        if isLooperDevice device then
          device.parameters.bind fun params =>
            (params.zipIdx.find? fun entry => entry.1.name = paramName).map fun entry =>
              (i, j, entry.2, entry.1)
        else none

/-- A parameter is the first one of a list with its name. -/
structure IsFirst (params : List Param) (k : ℕ) (p : Param) (name : String) : Prop where
  get : params[k]? = some p
  named : p.name = name
  first : ∀ k' q, k' < k → params[k']? = some q → q.name ≠ name

theorem find?_eq_some_iff_isFirst {params : List Param} {k : ℕ} {p : Param} {name : String} :
    (params.zipIdx.find? fun entry => entry.1.name = name) = some (p, k) ↔
      IsFirst params k p name := by
  rw [List.find?_eq_some_iff_getElem]
  constructor
  · rintro ⟨hname, i, hi, heq, hbefore⟩
    rw [List.getElem_zipIdx, Prod.mk.injEq, Nat.zero_add] at heq
    obtain ⟨hp, rfl⟩ := heq
    rw [List.length_zipIdx] at hi
    refine ⟨by rw [List.getElem?_eq_getElem hi, hp], by simpa using hname, fun k' q hk' hq => ?_⟩
    obtain ⟨hlt, rfl⟩ := List.getElem?_eq_some_iff.mp hq
    simpa using hbefore k' hk'
  · rintro ⟨hget, hname, hfirst⟩
    obtain ⟨hk, hp⟩ := List.getElem?_eq_some_iff.mp hget
    refine ⟨by simpa using hname, k, by simpa using hk, ?_, fun k' hk' => ?_⟩
    · rw [List.getElem_zipIdx, hp, Nat.zero_add]
    · have hlt : k' < params.length := hk'.trans hk
      rw [List.getElem_zipIdx]
      simpa using hfirst k' _ hk' (List.getElem?_eq_getElem hlt)

/-- Where an addressed parameter is: at the indices' positions, on a looper-like device that can
be read, and the first one there with the name asked for. -/
theorem addressed_eq_some_iff {song : Song} {trackIdx deviceIdx : ℤ} {paramName : String}
    {i j k : ℕ} {p : Param} : addressed song trackIdx deviceIdx paramName = some (i, j, k, p) ↔
      pyIndex song.tracks.length trackIdx = .ok i ∧
        ∃ track device, song.tracks[i]? = some track ∧
          pyIndex track.devices.length deviceIdx = .ok j ∧ track.devices[j]? = some device ∧
            isLooperDevice device = true ∧ device.readable = true ∧
              IsFirst device.params k p paramName := by
  constructor
  · intro h
    unfold addressed at h
    rcases hi : pyIndex song.tracks.length trackIdx with e | i'
    · simp [hi] at h
    rcases ht : song.tracks[i']? with _ | track
    · rcases hj : pyIndex 0 deviceIdx with e | j' <;> simp [hi, ht, hj] at h
    simp only [hi, ht, Option.map_some, Option.getD_some] at h
    rcases hj : pyIndex track.devices.length deviceIdx with e | j'
    · simp [hj] at h
    simp only [hj, Option.bind_eq_some_iff] at h
    obtain ⟨device, hd, h⟩ := h
    obtain ⟨hloop, h⟩ := Option.ite_none_right_eq_some.mp h
    obtain ⟨params, hparams, h⟩ := Option.bind_eq_some_iff.mp h
    obtain ⟨hreadable, hparams⟩ := Option.ite_none_right_eq_some.mp hparams
    obtain ⟨⟨p', k'⟩, hfind, heq⟩ := Option.map_eq_some_iff.mp h
    cases heq
    cases hparams
    exact ⟨rfl, track, device, ht, hj, hd, hloop, hreadable, find?_eq_some_iff_isFirst.mp hfind⟩
  · rintro ⟨hi, track, device, ht, hj, hd, hloop, hreadable, hfirst⟩
    rw [addressed, hi]
    simp only [ht, Option.map_some, Option.getD_some, hj, hd, Option.bind_some]
    rw [if_pos hloop, Device.parameters, if_pos hreadable, Option.bind_some,
      find?_eq_some_iff_isFirst.mpr hfirst]
    rfl

theorem addressed_eq_some {song : Song} {trackIdx deviceIdx : ℤ} {paramName : String}
    {i j k : ℕ} {p : Param} (h : addressed song trackIdx deviceIdx paramName = some (i, j, k, p)) :
    pyIndex song.tracks.length trackIdx = .ok i ∧
      ∃ track device, song.tracks[i]? = some track ∧
        pyIndex track.devices.length deviceIdx = .ok j ∧ track.devices[j]? = some device ∧
          isLooperDevice device = true ∧ IsFirst device.params k p paramName := by
  obtain ⟨hi, track, device, ht, hj, hd, hloop, -, hfirst⟩ := addressed_eq_some_iff.mp h
  exact ⟨hi, track, device, ht, hj, hd, hloop, hfirst⟩

/-- **What a write does**: it assigns the parameter it addresses and reports success, or
changes nothing and reports failure. -/
theorem exec_setLooperParam (notify : Listener → Double → Py Unit) (trackIdx deviceIdx : ℤ)
    (paramName : String) (v : Double) (s : Script) :
    exec (setLooperParam notify trackIdx deviceIdx paramName v) s =
      match addressed s.live.song trackIdx deviceIdx paramName with
      | some (i, j, k, p) =>
        if p.stores v then (.ok true, (exec (assignValue notify i j k p v) s).2)
        else (.ok false, s)
      | none => (.ok false, s) := by
  -- What raises on the way is caught: an index out of range, a device that cannot be read.
  rw [setLooperParam, exec_tryCatch, exec_bind, exec_get, addressed]
  simp only [exec_bind, exec_lift]
  rcases pyIndex s.live.song.tracks.length trackIdx with e | i
  · rfl
  simp only
  rcases pyIndex _ deviceIdx with e | j
  · rfl
  simp only
  rcases ((s.live.song.tracks[i]?.map Track.devices).getD [])[j]? with _ | device
  · rfl
  simp only [Option.bind_some]
  by_cases hloop : isLooperDevice device = true
  · rw [if_pos hloop, if_pos hloop, exec_bind, exec_lift, readParameters]
    rcases device.parameters with _ | params
    · rfl
    simp only [Option.bind_some]
    generalize List.find? _ params.zipIdx = found
    rcases found with _ | ⟨p, k⟩
    · rfl
    simp only [Option.map_some]
    by_cases hv : p.stores v = true
    · rw [if_pos hv, exec_bind, exec_assignValue _ _ _ _ _ _ _ hv]
      rfl
    · rw [if_neg hv, exec_bind, exec_assignValue_refused _ _ _ _ _ _ _ (by simpa using hv)]
      rfl
  · rw [if_neg hloop, if_neg hloop]
    rfl

end LooperDiscovery

end LooperControl
