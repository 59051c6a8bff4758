import LooperControl.Lib.JsonDumps
import LooperControl.Osc.Dates
import LooperControl.Plugin.JuceJson
import LooperControl.Script.Steps

/-!
# What the script's messages are made of

The dictionaries that the script sends carry numbers of three kinds: whole numbers that it counts,
values of Live's parameters, and whatever stands in the uuid of a request. As long as those from
outside are doubles (`Script.Event.Exact`), every message is a dictionary without repeated keys
whose floats are doubles, for one of two addresses: `exact_of_run`.
-/

/-- A value of a `float`: a finite one is a double. -/
def Double.Exact (x : Double) : Prop := ∀ q, x = .finite q → LooperControl.Juce.IsDouble q

/-- A value of a Python program. -/
abbrev Json.Exact : Json → Prop := Json.Keyed LooperControl.Juce.IsDouble

namespace LooperControl

open Effect BridgeServer LooperControlSurface LooperDiscovery

/-! ### Doubles -/

theorem Juce.isDouble_intCast {n : ℤ} (h : |n| < 2 ^ 53) : Juce.IsDouble n := by
  rw [abs_lt] at h
  exact ⟨n, 0, by omega, by omega, by norm_num, by norm_num, by simp⟩

/-- A number of few steps that is below the bound of the format. -/
theorem Juce.isDouble_of_steps {c e : ℤ} (hc : |c| < 2 ^ 53) (he : -1074 ≤ e)
    (hbound : |(c : ℚ) * 2 ^ e| < 2 ^ 1024) : Juce.IsDouble (c * 2 ^ e) := by
  by_cases hhigh : e ≤ 971
  · rw [abs_lt] at hc
    exact ⟨c, e, by omega, by omega, he, hhigh, rfl⟩
  · -- The steps are wider than those of the format, and there are fewer of them.
    obtain ⟨n, rfl⟩ : ∃ n : ℕ, e = 971 + n := Int.le.dest (by omega) |>.imp fun n h => h.symm
    have hpow : (2 : ℚ) ^ (971 + n : ℤ) = 2 ^ n * 2 ^ (971 : ℤ) := by
      rw [add_comm, zpow_add₀ (by norm_num), zpow_natCast]
    have hlt : |(c : ℚ) * 2 ^ n| < 2 ^ 53 := by
      have htop : (2 : ℚ) ^ 1024 = 2 ^ 53 * 2 ^ (971 : ℤ) := by
        rw [← zpow_natCast (2 : ℚ) 1024, ← zpow_natCast (2 : ℚ) 53, ← zpow_add₀ (by norm_num)]
        congr 1
      rw [hpow, ← mul_assoc, abs_mul, htop, abs_of_pos (zpow_pos (by norm_num : (0 : ℚ) < 2) _)]
        at hbound
      exact lt_of_mul_lt_mul_right hbound (zpow_pos (by norm_num) _).le
    have hint : |c * 2 ^ n| < 2 ^ 53 := by exact_mod_cast hlt
    rw [abs_lt] at hint
    refine ⟨c * 2 ^ n, 971, by omega, by omega, by norm_num, by norm_num, ?_⟩
    rw [hpow, Int.cast_mul, Int.cast_pow, Int.cast_ofNat, mul_assoc]

/-- A rounded number is a double. -/
theorem exact_roundToDouble (q : ℚ) : (roundToDouble q).Exact := by
  intro r hr
  rw [OscTypes.roundToDouble_eq] at hr
  split at hr
  · cases hr
  · rename_i hbound
    obtain rfl := Double.finite.inj hr
    obtain ⟨c, e, hround, hc, he⟩ := Binary.exists_steps_round (f := .double)
      OscTypes.roundHalfEven_le_roundHalfEven OscTypes.roundHalfEven_intCast q
    rw [hround] at hbound ⊢
    exact Juce.isDouble_of_steps hc he (not_le.mp hbound)

theorem exact_unsignedDouble? {negative : Bool} {l : List Char} {x : Double}
    (h : unsignedDouble? negative l = some x) : x.Exact := by
  rw [unsignedDouble?] at h
  split_ifs at h
  · obtain rfl := Option.some.inj h
    intro q hq
    cases hq
  · obtain rfl := Option.some.inj h
    intro q hq
    cases hq
  all_goals
    obtain ⟨q, -, rfl⟩ := Option.map_eq_some_iff.mp h
    exact exact_roundToDouble _

/-- **What a value converts to** is a double. -/
theorem exact_pyFloat {v : Json} (hv : v.Exact) {x : Double} (h : pyFloat v = .ok x) : x.Exact := by
  cases hv with
  | finite hq =>
    obtain rfl := Except.ok.inj h
    intro r hr
    obtain rfl := Double.finite.inj hr
    exact hq
  | infinite =>
    obtain rfl := Except.ok.inj h
    intro r hr
    cases hr
  | nan =>
    obtain rfl := Except.ok.inj h
    intro r hr
    cases hr
  | int n =>
    rw [pyFloat] at h
    split at h
    · rename_i q hround
      obtain rfl := Except.ok.inj h
      rw [← hround]
      exact exact_roundToDouble _
    · cases h
  | bool b =>
    obtain rfl := Except.ok.inj h
    intro r hr
    obtain rfl := Double.finite.inj hr
    cases b with
    | false => exact_mod_cast Juce.isDouble_intCast (n := 0) (by norm_num)
    | true => exact_mod_cast Juce.isDouble_intCast (n := 1) (by norm_num)
  | str s =>
    rw [pyFloat] at h
    split at h
    · rename_i y hy
      obtain rfl := Except.ok.inj h
      obtain ⟨l, -, hl⟩ := Option.bind_eq_some_iff.mp hy
      split at hl
      all_goals exact exact_unsignedDouble? hl
    · cases h
  | null => cases h
  | arr => cases h
  | obj => cases h

/-! ### Values and their members -/

theorem exact_float {x : Double} (h : x.Exact) : (Json.float x).Exact := by
  cases x with
  | finite q => exact .finite (h q rfl)
  | infinite negative => exact .infinite negative
  | nan => exact .nan

/-- A member of a value. -/
theorem exact_get? {v w : Json} (hv : v.Exact) {key : String} (h : v.get? key = some w) :
    w.Exact := by
  cases hv with
  | obj hnd hmembers =>
    obtain ⟨l₁, l₂, hsplit, -⟩ := List.lookup_eq_some_iff.mp h
    exact hmembers (key, w) (by rw [hsplit]; simp)
  | _ => cases h

theorem exact_getD {v d : Json} (hv : v.Exact) (hd : d.Exact) (key : String) :
    ((v.get? key).getD d).Exact := by
  rcases h : v.get? key with _ | w
  · exact hd
  · exact exact_get? hv h

theorem LooperInfo.exact_toJson {info : LooperInfo} (h : info.feedback.Exact) :
    info.toJson.Exact := by
  refine .obj (by simp) ?_
  simp only [List.forall_mem_cons, List.not_mem_nil, false_implies, implies_true, and_true]
  exact ⟨.str _, .str _, .str _, .str _, .str _, .str _, exact_float h, .bool _⟩

theorem exact_eventMessage (eventType : String) {data : Json} (h : data.Exact) :
    (eventMessage eventType data).Exact := by
  refine .obj (by simp) ?_
  simp only [List.forall_mem_cons, List.not_mem_nil, false_implies, implies_true, and_true]
  exact ⟨.null, .str _, h, .int _⟩

theorem exact_responseMessage {requestUuid data : Json} (huuid : requestUuid.Exact)
    (h : data.Exact) : (responseMessage requestUuid data).Exact := by
  refine .obj (by simp) ?_
  simp only [List.forall_mem_cons, List.not_mem_nil, false_implies, implies_true, and_true]
  exact ⟨huuid, .str _, h, .int _⟩

theorem exact_succeeded : succeeded.Exact := by
  refine .obj (by simp) ?_
  simp only [List.forall_mem_cons, List.not_mem_nil, false_implies, implies_true, and_true]
  exact .bool _

theorem exact_failed (error : String) : (failed error).Exact := by
  refine .obj (by simp) ?_
  simp only [List.forall_mem_cons, List.not_mem_nil, false_implies, implies_true, and_true]
  exact ⟨.bool _, .str _⟩

theorem exact_discoverResult (found : Dict String LooperInfo) : (discoverResult found).Exact := by
  refine .obj (by simp) ?_
  simp only [List.forall_mem_cons, List.not_mem_nil, false_implies, implies_true, and_true]
  exact ⟨.bool _, .int _⟩

theorem exact_helloResult (port : ℕ) : (helloResult port).Exact := by
  refine .obj (by simp) ?_
  simp only [List.forall_mem_cons, List.not_mem_nil, false_implies, implies_true, and_true]
  exact ⟨.bool _, .int _, .int _⟩

/-! ### Answers -/

/-- The commands that write answer whether they have succeeded. -/
theorem returns_writeCommand (trackId : Json) (paramName : String)
    (value : Except PyExc Double) : Returns Json.Exact (writeCommand trackId paramName value) := by
  refine .tryCatch (.bind fun trackIdx => .bind fun s => ?_) fun e => .pure (exact_failed _)
  split
  · exact .pure (exact_failed _)
  · refine .bind fun deviceIdx => .bind fun value => .bind fun done => .pure ?_
    cases done with
    | false => exact exact_failed _
    | true => exact exact_succeeded

/-- **Every answer** to a command is a dictionary without numbers from outside. -/
theorem returns_handleCommand (ns nsid name args : Json) :
    Returns (fun result => ∀ answer, result = some answer → answer.Exact)
      (handleCommand ns nsid name args) := by
  have hsome : ∀ {c : Py Json}, Returns Json.Exact c →
      Returns (fun result => ∀ answer, result = some answer → answer.Exact) (some <$> c) := by
    intro c hc
    refine .map fun s a t ha answer hanswer => ?_
    obtain rfl := Option.some.inj hanswer
    exact hc s a t ha
  have hpure : ∀ {answer : Json}, answer.Exact →
      Returns (fun result => ∀ answer, result = some answer → answer.Exact)
        (pure (some answer) : Py (Option Json)) := by
    intro answer h
    refine .pure fun answer' hanswer => ?_
    obtain rfl := Option.some.inj hanswer
    exact h
  rw [handleCommand]
  split_ifs
  · exact hsome (.bind fun _ => .bind fun _ => .bind fun s => .pure (exact_discoverResult _))
  · exact hsome (.bind fun _ => .bind fun _ => returns_writeCommand _ _ _)
  · exact hsome (.bind fun _ => returns_writeCommand _ _ _)
  · exact hsome (.bind fun _ => returns_writeCommand _ _ _)
  · exact hsome (.bind fun _ => .bind fun _ => returns_writeCommand _ _ _)
  · exact hpure (exact_failed _)
  · refine hpure (.obj (by simp) ?_)
    simp only [List.forall_mem_cons, List.not_mem_nil, false_implies, implies_true, and_true]
    exact ⟨.bool _, .bool _⟩
  · exact hpure (exact_failed _)

/-! ### Songs -/

/-- The values of a device are doubles. -/
def Device.Exact (d : Device) : Prop := ∀ p ∈ d.params, p.value.Exact

/-- The values on a track are doubles. -/
def Track.Exact (t : Track) : Prop := ∀ d ∈ t.devices, d.Exact

/-- The values in a song are doubles. -/
def Song.Exact (song : Song) : Prop := ∀ t ∈ song.tracks, t.Exact

/-- The values of what an edit inserts are doubles. -/
def SongEdit.Exact : SongEdit → Prop
  | .insertTrack _ t => t.Exact
  | .insertDevice _ _ d => d.Exact
  | _ => True

section Lists

variable {α : Type} {P : α → Prop} {l l' : List α}

theorem forall_mem_insertAt {i : ℕ} {a : α} (h : insertAt l i a = some l') (hl : ∀ b ∈ l, P b)
    (ha : P a) : ∀ b ∈ l', P b := by
  rw [insertAt] at h
  split at h
  · rename_i hle
    obtain rfl := Option.some.inj h
    intro b hb
    rcases (List.mem_insertIdx hle).mp hb with rfl | hb
    · exact ha
    · exact hl b hb
  · cases h

theorem forall_mem_deleteAt {i : ℕ} (h : deleteAt l i = some l') (hl : ∀ b ∈ l, P b) :
    ∀ b ∈ l', P b := by
  rw [deleteAt] at h
  split at h
  · obtain rfl := Option.some.inj h
    exact fun b hb => hl b (List.mem_of_mem_eraseIdx hb)
  · cases h

theorem forall_mem_moveAt {i j : ℕ} (h : moveAt l i j = some l') (hl : ∀ b ∈ l, P b) :
    ∀ b ∈ l', P b := by
  obtain ⟨a, ha, h⟩ := Option.bind_eq_some_iff.mp h
  refine forall_mem_insertAt h (fun b hb => hl b (List.mem_of_mem_eraseIdx hb)) ?_
  exact hl a (List.mem_of_getElem? ha)

theorem forall_mem_editAt {i : ℕ} {f : α → Option α} (h : editAt l i f = some l')
    (hl : ∀ b ∈ l, P b) (hf : ∀ a b, P a → f a = some b → P b) : ∀ b ∈ l', P b := by
  obtain ⟨a, ha, h⟩ := Option.bind_eq_some_iff.mp h
  obtain ⟨b, hb, rfl⟩ := Option.map_eq_some_iff.mp h
  intro c hc
  rcases List.mem_or_eq_of_mem_set hc with hc | rfl
  · exact hl c hc
  · exact hf a c (hl a (List.mem_of_getElem? ha)) hb

theorem forall_mem_modify {f : α → α} {i : ℕ} (hl : ∀ b ∈ l, P b) (hf : ∀ a, P a → P (f a)) :
    ∀ b ∈ l.modify i f, P b := by
  intro b hb
  obtain ⟨j, hj⟩ := List.getElem?_of_mem hb
  rw [List.getElem?_modify, Option.map_eq_map, Option.map_eq_some_iff] at hj
  obtain ⟨a, ha, hab⟩ := hj
  have hpa := hl a (List.mem_of_getElem? ha)
  split at hab
  · exact hab ▸ hf a hpa
  · exact hab ▸ hpa

end Lists

/-- An edit leaves the values as they are. -/
theorem exact_apply {e : SongEdit} {song song' : Song} (h : e.apply song = some song')
    (hsong : song.Exact) (he : e.Exact) : song'.Exact := by
  obtain ⟨tracks, htracks, h⟩ := Option.bind_eq_some_iff.mp h
  have hexact : ∀ t ∈ tracks, t.Exact := by
    cases e with
    | insertTrack i t => exact forall_mem_insertAt htracks hsong he
    | deleteTrack i => exact forall_mem_deleteAt htracks hsong
    | moveTrack source target => exact forall_mem_moveAt htracks hsong
    | renameTrack i name =>
      refine forall_mem_editAt htracks hsong fun t t' ht ht' => ?_
      obtain rfl := Option.some.inj ht'
      exact ht
    | insertDevice i j d =>
      refine forall_mem_editAt htracks hsong fun t t' ht ht' => ?_
      obtain ⟨devices, hdevices, rfl⟩ := Option.map_eq_some_iff.mp ht'
      exact forall_mem_insertAt hdevices ht he
    | deleteDevice i j =>
      refine forall_mem_editAt htracks hsong fun t t' ht ht' => ?_
      obtain ⟨devices, hdevices, rfl⟩ := Option.map_eq_some_iff.mp ht'
      exact forall_mem_deleteAt hdevices ht
    | moveDevice i source target =>
      refine forall_mem_editAt htracks hsong fun t t' ht ht' => ?_
      obtain ⟨devices, hdevices, rfl⟩ := Option.map_eq_some_iff.mp ht'
      exact forall_mem_moveAt hdevices ht
    | renameDevice i j name =>
      refine forall_mem_editAt htracks hsong fun t t' ht ht' => ?_
      obtain ⟨devices, hdevices, rfl⟩ := Option.map_eq_some_iff.mp ht'
      refine forall_mem_editAt hdevices ht fun d d' hd hd' => ?_
      obtain rfl := Option.some.inj hd'
      exact hd
  split at h
  · obtain rfl := Option.some.inj h
    exact hexact
  · cases h

theorem exact_setValue {song : Song} (hsong : song.Exact) (i j k : ℕ) {v : Double}
    (hv : v.Exact) : (song.setValue i j k v).Exact :=
  forall_mem_modify hsong fun _ ht => forall_mem_modify ht fun _ hd =>
    forall_mem_modify hd fun _ _ => hv

/-- What is read of a song is made of its values. -/
theorem exact_read {song : Song} (hsong : song.Exact) {f : FoundDevice}
    (hf : f ∈ looperDevices song.tracks) {info : LooperInfo} (h : f.read = .ok info) :
    info.toJson.Exact := by
  obtain ⟨ht, hd, -⟩ := mem_looperDevices.mp hf
  have hdevice := hsong _ (List.mem_of_getElem? ht) _ (List.mem_of_getElem? hd)
  refine LooperInfo.exact_toJson ?_
  rw [read_feedback h, feedbackOf]
  generalize hlast : List.getLast? _ = last
  rcases last with _ | p
  · intro q hq
    obtain rfl := Double.finite.inj hq
    exact ⟨1, -1, by decide, by decide, by decide, by decide, by norm_num⟩
  · exact hdevice p (List.mem_of_mem_filter (List.mem_of_getLast? hlast))

/-! ### The script -/

/-- A message of the script: to one of two addresses, a dictionary whose keys are not repeated and
whose floats are doubles. -/
def Datagram.Exact (d : Datagram) : Prop :=
  (d.address = oscPrefix ++ "/event" ∨ d.address = oscPrefix ++ "/response") ∧
    d.payload.isObj = true ∧ d.payload.Exact

namespace Script

/-- The values in the song of a script and in what it has sent are doubles. -/
structure Exact (s : Script) : Prop where
  song : s.live.song.Exact
  sent : ∀ d ∈ s.sent, d.Exact

/-- What comes from outside is made of doubles. -/
def Event.Exact : Event → Prop
  | .edit e => e.Exact
  | .setParam _ _ _ v => v.Exact
  | .message args => ∀ message rest, args = .json message :: rest → message.Exact

variable {s t : Script}

theorem exact_emit (hs : s.Exact) {address : String}
    (haddress : address = oscPrefix ++ "/event" ∨ address = oscPrefix ++ "/response") {data : Json}
    (hobj : data.isObj = true) (hdata : data.Exact) : (s.emit address data).Exact := by
  refine ⟨hs.song, fun d hd => ?_⟩
  rcases List.mem_append.mp hd with hd | hd
  · exact hs.sent d hd
  · obtain ⟨port, -, rfl⟩ := Option.map_eq_some_iff.mp (Option.mem_toList.mp hd)
    exact ⟨haddress, hobj, hdata⟩

theorem exact_respond (hs : s.Exact) {requestUuid data : Json} (huuid : requestUuid.Exact)
    (hdata : data.Exact) : (respond s requestUuid data).Exact :=
  exact_emit hs (.inr rfl) rfl (exact_responseMessage huuid hdata)

/-- The values that a script assigns are told to its listeners. -/
theorem exact_assigned (hs : s.Exact) (i j k : ℕ) (p : Param) {v : Double} (hv : v.Exact) :
    (assigned s i j k p v).Exact := by
  have hsong := exact_setValue hs.song i j k hv
  rw [assigned_eq]
  refine ⟨hsong, fun d hd => ?_⟩
  rcases List.mem_append.mp hd with hd | hd
  · exact hs.sent d hd
  · rw [reports] at hd
    obtain ⟨port, -, hd⟩ := List.mem_flatMap.mp hd
    obtain ⟨info, hinfo, rfl⟩ := List.mem_map.mp hd
    obtain ⟨listener, -, hreported⟩ := List.mem_filterMap.mp hinfo
    obtain ⟨trackName, -, deviceName, -, f, hfound, hread⟩ := reported_eq_some_iff.mp hreported
    rw [findByName_eq] at hfound
    have hmem := List.mem_of_find?_eq_some hfound
    exact ⟨.inl rfl, rfl, exact_eventMessage _ (exact_read hsong hmem hread)⟩

/-- A scan pushes what it has read. -/
theorem exact_scanned (hs : s.Exact) {found : Dict String LooperInfo}
    (h : scanResult s.live.song = .ok found) : (scanned s found).Exact := by
  refine ⟨by rw [scanned_song]; exact hs.song, fun d hd => ?_⟩
  rw [scanned_sent, List.mem_append] at hd
  rcases hd with hd | hd
  · exact hs.sent d hd
  · rw [announcements] at hd
    obtain ⟨port, -, hd⟩ := List.mem_flatMap.mp hd
    obtain ⟨item, hitem, rfl⟩ := List.mem_map.mp hd
    obtain ⟨f, hf, hread, -⟩ := mem_scanResult h (Dict.get?_eq_some_iff.mpr hitem)
    exact ⟨.inl rfl, rfl, exact_eventMessage _ (exact_read hs.song hf hread)⟩

theorem exact_rescanned (hs : s.Exact) : s.rescanned.Exact := by
  rcases h : scanResult s.live.song with e | found
  · rw [rescanned_error h]
    exact ⟨hs.song, hs.sent⟩
  · rw [rescanned_ok h]
    exact exact_scanned (s := silenced s) ⟨hs.song, hs.sent⟩ h

/-- What a command leaves behind. -/
theorem exact_outcome (hs : s.Exact) {ns name args : Json} (hargs : args.Exact)
    {r : Except PyExc (Option Json)} (h : Outcome s ns name args (r, t)) : t.Exact := by
  cases h with
  | discovered found _ _ h => exact exact_scanned (s := silenced s) ⟨hs.song, hs.sent⟩ h
  | scanRaised e _ _ h => exact ⟨hs.song, hs.sent⟩
  | wrote key paramName info trackIdx deviceIdx i j k p v _ hwrite =>
    refine exact_assigned hs i j k p ?_
    rw [writeOf] at hwrite
    split_ifs at hwrite
    · cases hwrite
    · cases hwrite
      intro q hq
      obtain rfl := Double.finite.inj hq
      exact_mod_cast Juce.isDouble_intCast (n := 1) (by norm_num)
    · cases hwrite
      intro q hq
      obtain rfl := Double.finite.inj hq
      exact_mod_cast Juce.isDouble_intCast (n := 1) (by norm_num)
    · have hvalue := congrArg Prod.snd (Option.some.inj hwrite)
      refine exact_pyFloat (exact_getD hargs (.finite ?_) _) hvalue
      exact ⟨1, -1, by decide, by decide, by decide, by decide, by norm_num⟩
  | _ => exact hs

/-- **A message** is answered with doubles if it has none but doubles. -/
theorem exact_handled (hs : s.Exact) {message : Json} (hmessage : message.Exact)
    (rest : List OscArg) : (s.handled (.json message :: rest)).Exact := by
  have huuid : (uuidOf message).Exact := exact_getD hmessage .null _
  have hargs : (argsOf message).Exact := exact_getD hmessage (.obj (by simp) (by simp)) _
  rw [handled, exec_onOscMessage]
  rcases hobj : message.isObj with _ | _
  · rw [exec_handleMessage_not_isObj hobj]
    exact hs
  by_cases hhello : isHello message
  · rw [exec_handleMessage_hello hobj hhello]
    rcases hargsObj : (argsOf message).isObj with _ | _
    · rw [exec_handleHello_not_isObj hargsObj]
      exact hs
    · rcases hrequest : message.get? "uuid" with _ | requestUuid
      · rw [exec_handleHello_no_uuid hargsObj hrequest]
        exact ⟨hs.song, hs.sent⟩
      · rw [exec_handleHello hargsObj hrequest]
        have hannounced : (announce s (((argsOf message).get? "port").getD (.int 7010))).Exact :=
          ⟨hs.song, hs.sent⟩
        have hanswered := exact_respond hannounced (exact_get? hmessage hrequest)
          (exact_helloResult s.server.port)
        generalize respond _ _ _ = u at hanswered ⊢
        have hout := outcome_handleCommand u (.str "system") (.str "") (.str "hello")
          (argsOf message)
        rcases hexec : exec (handleCommand _ _ _ _) u with ⟨r, t⟩
        rw [hexec] at hout
        exact exact_outcome hanswered hargs hout
  by_cases hcommand : isCommand message
  · rw [exec_handleMessage_command hobj hcommand]
    have hout := outcome_handleCommand s ((message.get? "ns").getD (.str ""))
      ((message.get? "nsid").getD (.str "")) ((message.get? "name").getD (.str "")) (argsOf message)
    have hanswer := returns_handleCommand ((message.get? "ns").getD (.str ""))
      ((message.get? "nsid").getD (.str "")) ((message.get? "name").getD (.str ""))
      (argsOf message) s
    generalize exec (handleCommand _ _ _ _) s = outcome at hout hanswer ⊢
    rcases outcome with ⟨e | _ | answer, t⟩
    · exact exact_outcome hs hargs hout
    · exact exact_outcome hs hargs hout
    · exact exact_respond (exact_outcome hs hargs hout) huuid (hanswer _ _ rfl _ rfl)
  · rw [exec_handleMessage_mismatch hobj hhello hcommand]
    exact exact_respond hs huuid (exact_failed _)

/-- **The step lemma**: what comes from outside as doubles stays so. -/
theorem exact_step (hs : s.Exact) {e : Event} (he : e.Exact) (h : s.step e = some t) : t.Exact := by
  cases e with
  | edit e =>
    obtain ⟨song, hsong, ⟨-, rfl⟩ | ⟨-, rfl⟩⟩ := step_edit h
    · exact exact_rescanned ⟨exact_apply hsong hs.song he, hs.sent⟩
    · exact ⟨exact_apply hsong hs.song he, hs.sent⟩
  | setParam i j k v =>
    obtain ⟨p, -, rfl⟩ := step_setParam h
    exact exact_assigned hs i j k p he
  | message args =>
    obtain ⟨-, rfl⟩ := step_message h
    rcases handled_cases s args with ⟨message, rest, rfl, -⟩ | ⟨-, hsame⟩
    · exact exact_handled hs (he message rest rfl) rest
    · rw [hsame]
      exact hs

/-- A script that has started in a song of doubles. -/
theorem exact_of_started {free : ℕ → Bool} {song : Song} (hsong : song.Exact)
    (h : exec (init free) (fresh song) = (.ok (), s)) : s.Exact := by
  rw [init, exec_bind, exec_modify] at h
  simp only [exec_bind, exec_modify] at h
  rcases hscan : scanResult song with e | found
  · rw [exec_fullScan_error (e := e) hscan] at h
    cases h
  · rw [@exec_fullScan_ok _ found hscan] at h
    obtain rfl := congrArg Prod.snd h
    exact exact_scanned ⟨hsong, by simp [fresh]⟩ hscan

/-- **The run lemma**: in every run in which what comes from outside is made of doubles, so is every
message that is sent. -/
theorem exact_of_run {es : List Event} (h : Runs.Run (Runs.ofFun step) s es t) (hs : s.Exact)
    (hes : ∀ e ∈ es, e.Exact) : t.Exact := by
  induction h with
  | nil s => exact hs
  | cons hstep _ ih =>
    rw [List.forall_mem_cons] at hes
    exact ih (exact_step hs hes.1 hstep) hes.2

end Script

end LooperControl
