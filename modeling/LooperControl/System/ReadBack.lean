import LooperControl.Script.Steps

/-!
# Writing a parameter and reading it back

A write goes to the first parameter of its name, and stops there. Reading goes through all of them,
and the last one counts. `readsBack_iff` says on which devices the one agrees with the other: where
the last parameter of the name is the one written, or shows the same already.

`setState_iff` is what becomes of the command that sets the state: it never gets as far as to write.
-/

namespace LooperControl

open Effect LooperControlSurface Script LooperDiscovery

/-! ### Reading at a position -/

/-- The device at a position, with the track it is on. -/
def foundAt? (song : Song) (i j : ℕ) : Option FoundDevice :=
  song.tracks[i]?.bind fun track => track.devices[j]?.map fun device => ⟨track, i, device, j⟩

/-- What `_read_looper_state` reports of the device at a position, if it does not raise. -/
def reportAt (song : Song) (i j : ℕ) : Option LooperInfo :=
  (foundAt? song i j).bind fun f => f.read.toOption

variable {song : Song} {i j k : ℕ} {f : FoundDevice}

theorem foundAt?_eq_some_iff : foundAt? song i j = some f ↔
    song.tracks[i]? = some f.track ∧ f.track.devices[j]? = some f.device ∧ f.trackIdx = i ∧
      f.deviceIdx = j := by
  obtain ⟨track, trackIdx, device, deviceIdx⟩ := f
  simp only [foundAt?, Option.bind_eq_some_iff, Option.map_eq_some_iff, FoundDevice.mk.injEq]
  constructor
  · rintro ⟨track', htrack, device', hdevice, rfl, rfl, rfl, rfl⟩
    exact ⟨htrack, hdevice, rfl, rfl⟩
  · rintro ⟨htrack, hdevice, rfl, rfl⟩
    exact ⟨track, htrack, device, hdevice, rfl, rfl, rfl, rfl⟩

/-- A value replaced on a device shows when the device is looked for. -/
theorem foundAt?_setValue (hf : foundAt? song i j = some f) (k : ℕ) (v : Double) :
    foundAt? (song.setValue i j k v) i j =
      some ⟨f.track.withValue j k v, i, f.device.withValue k v, j⟩ := by
  obtain ⟨htrack, hdevice, -, -⟩ := foundAt?_eq_some_iff.mp hf
  rw [foundAt?_eq_some_iff]
  refine ⟨?_, ?_, rfl, rfl⟩
  · change (song.tracks.modify i (Track.withValue j k v))[i]? = _
    rw [List.getElem?_modify_eq, htrack]
    rfl
  · change (f.track.devices.modify j (Device.withValue k v))[j]? = _
    rw [List.getElem?_modify_eq, hdevice]
    rfl

/-! ### Reading after a write -/

/-- Two reports of one device, all but the field that a parameter name stands for. -/
structure SameBut (paramName : String) (info info' : LooperInfo) : Prop where
  trackId : info'.trackId = info.trackId
  trackName : info'.trackName = info.trackName
  deviceId : info'.deviceId = info.deviceId
  deviceName : info'.deviceName = info.deviceName
  className : info'.className = info.className
  state : paramName ≠ "State" → info'.state = info.state
  feedback : paramName ≠ "Feedback" → info'.feedback = info.feedback
  reverse : paramName ≠ "Reverse" → info'.reverse = info.reverse

/-- What a device reports after a write of a value to a parameter of some name, compared with what
it reported before: feedback and state are those written, and the rest is as it was. -/
structure ReadsBack (before after : Option LooperInfo) (paramName : String) (v : Double) :
    Prop where
  feedback : paramName = "Feedback" → ∃ info, after = some info ∧ info.feedback = v
  state : paramName = "State" → ∀ n state, v = .finite (n : ℤ) →
    abletonLooperStateMap n = some state → ∃ info, after = some info ∧ info.state = state
  others : ∀ info info', before = some info → after = some info' → SameBut paramName info info'

/-- The condition on the device before a write: no other state on it is an infinity or NaN, and the
last of the further parameters of the name, if there are any, shows the value already. -/
structure LastAgrees (device : Device) (paramName : String) (v : Double) : Prop where
  feedback : paramName = "Feedback" → (∀ x ∈ valuesOf device "State", x.isFinite = true) ∧
    ∀ x, (valuesOf device "Feedback").tail.getLast? = some x → x = v
  state : paramName = "State" → ∀ n state, v = .finite (n : ℤ) →
    abletonLooperStateMap n = some state →
      (∀ x ∈ (valuesOf device "State").tail, x.isFinite = true) ∧
        ∀ x, (valuesOf device "State").tail.getLast? = some x → shownState x = state

variable {p : Param} {paramName : String} {v : Double}

theorem LooperDiscovery.IsFirst.firstAt {params : List Param}
    (h : IsFirst params k p paramName) : Repeated.FirstAt Param.name params k p paramName :=
  ⟨h.get, h.named, h.first⟩

/-- The values of the name that was written. -/
theorem valuesOf_withValue {device : Device} (h : IsFirst device.params k p paramName) :
    valuesOf (device.withValue k v) paramName = v :: (valuesOf device paramName).tail :=
  Repeated.valuesOf_modify_first h.firstAt fun _ => rfl

/-- The values of another name. -/
theorem valuesOf_withValue_of_ne {device : Device} (h : IsFirst device.params k p paramName)
    {name : String} (hne : paramName ≠ name) :
    valuesOf (device.withValue k v) name = valuesOf device name :=
  Repeated.valuesOf_modify_of_ne h.get (fun heq => hne (h.named.symm.trans heq)) fun _ => rfl

/-- What the last parameter of the name that was written shows. -/
theorem shown_withValue_iff {α : Type} {device : Device}
    (h : IsFirst device.params k p paramName) (shown : Double → α) (default : α) :
    ((valuesOf (device.withValue k v) paramName).getLast?.map shown).getD default = shown v ↔
      ∀ x, (valuesOf device paramName).tail.getLast? = some x → shown x = shown v :=
  Repeated.shown_last_modify_first Param.value h.firstAt (fun p => { p with value := v })
    (fun _ => rfl) shown default

theorem shownState_finite {n : ℤ} {state : String} (h : abletonLooperStateMap n = some state) :
    shownState (.finite n) = state := by
  rw [shownState, pyInt, Rat.num_intCast, Rat.den_intCast, Nat.cast_one, Int.tdiv_one]
  dsimp only
  rw [h, Option.getD_some]

theorem reportAt_eq_some_iff (hf : foundAt? song i j = some f) {info : LooperInfo} :
    reportAt song i j = some info ↔ f.read = .ok info := by
  rw [reportAt, hf, Option.bind_some, toOption_eq_some_iff]

/-- A field of a report is that of the device, if the device reports at all. -/
theorem exists_reportAt_iff (hf : foundAt? song i j = some f) (hreadable : f.device.readable)
    {P : LooperInfo → Prop} {Q : Prop} (hPQ : ∀ info, f.read = .ok info → (P info ↔ Q)) :
    (∃ info, reportAt song i j = some info ∧ P info) ↔
      (∀ x ∈ valuesOf f.device "State", x.isFinite = true) ∧ Q := by
  have hreads : (∃ info, f.read = .ok info) ↔
      ∀ x ∈ valuesOf f.device "State", x.isFinite = true := by
    rw [exists_read_iff, readable_iff]
    exact and_iff_right hreadable
  rw [← hreads]
  simp only [reportAt_eq_some_iff hf]
  constructor
  · rintro ⟨info, hread, hP⟩
    exact ⟨⟨info, hread⟩, (hPQ info hread).mp hP⟩
  · rintro ⟨⟨info, hread⟩, hQ⟩
    exact ⟨info, hread, (hPQ info hread).mpr hQ⟩

section

variable (hf : foundAt? song i j = some f) (hreadable : f.device.readable)
  (hfirst : IsFirst f.device.params k p paramName)

include hf hfirst

/-- Fields of other names are reported as before. -/
theorem sameBut_setValue {info info' : LooperInfo} (hinfo : reportAt song i j = some info)
    (hinfo' : reportAt (song.setValue i j k v) i j = some info') :
    SameBut paramName info info' := by
  rw [reportAt_eq_some_iff hf] at hinfo
  rw [reportAt_eq_some_iff (foundAt?_setValue hf k v)] at hinfo'
  obtain ⟨-, -, hi, hj⟩ := foundAt?_eq_some_iff.mp hf
  obtain ⟨h₁, h₂, h₃, h₄, h₅⟩ := read_ids hinfo
  obtain ⟨h₁', h₂', h₃', h₄', h₅'⟩ := read_ids hinfo'
  refine ⟨?_, h₂'.trans h₂.symm, ?_, h₄'.trans h₄.symm, h₅'.trans h₅.symm, ?_, ?_, ?_⟩
  · rw [h₁', h₁, hi]
  · rw [h₃', h₃, hj]
  · intro hne
    rw [read_stateOf hinfo', read_stateOf hinfo, stateOf, stateOf,
      valuesOf_withValue_of_ne hfirst hne]
  · intro hne
    rw [read_feedback hinfo', read_feedback hinfo, feedbackOf_eq, feedbackOf_eq,
      valuesOf_withValue_of_ne hfirst hne]
  · intro hne
    rw [read_reverseOf hinfo', read_reverseOf hinfo, reverseOf, reverseOf,
      valuesOf_withValue_of_ne hfirst hne]

include hreadable

/-- When a feedback that was written is read back. -/
theorem feedback_setValue_iff (hname : paramName = "Feedback") :
    (∃ info, reportAt (song.setValue i j k v) i j = some info ∧ info.feedback = v) ↔
      (∀ x ∈ valuesOf f.device "State", x.isFinite = true) ∧
        ∀ x, (valuesOf f.device "Feedback").tail.getLast? = some x → x = v := by
  subst hname
  have hstates : valuesOf (f.device.withValue k v) "State" = valuesOf f.device "State" :=
    valuesOf_withValue_of_ne hfirst (by decide)
  rw [← hstates]
  refine exists_reportAt_iff (foundAt?_setValue hf k v) hreadable fun info hread => ?_
  rw [read_feedback hread, feedbackOf_eq]
  exact shown_withValue_iff hfirst id _

/-- When a state that was written is read back. -/
theorem state_setValue_iff (hname : paramName = "State") {n : ℤ} {state : String}
    (hv : v = .finite n) (hn : abletonLooperStateMap n = some state) :
    (∃ info, reportAt (song.setValue i j k v) i j = some info ∧ info.state = state) ↔
      (∀ x ∈ (valuesOf f.device "State").tail, x.isFinite = true) ∧
        ∀ x, (valuesOf f.device "State").tail.getLast? = some x → shownState x = state := by
  subst hname hv
  have hstates : (∀ x ∈ valuesOf (f.device.withValue k (.finite n)) "State",
      x.isFinite = true) ↔ ∀ x ∈ (valuesOf f.device "State").tail, x.isFinite = true := by
    rw [valuesOf_withValue hfirst, List.forall_mem_cons]
    exact and_iff_right rfl
  rw [← hstates]
  refine exists_reportAt_iff (foundAt?_setValue hf k _) hreadable fun info hread => ?_
  rw [read_stateOf hread, ← shownState_finite hn]
  exact shown_withValue_iff hfirst shownState _

/-- Reading back on the device that a write is to, whatever it writes. -/
theorem readsBack_setValue_iff :
    ReadsBack (reportAt song i j) (reportAt (song.setValue i j k v) i j) paramName v ↔
      LastAgrees f.device paramName v := by
  constructor
  · intro h
    exact ⟨fun hname => (feedback_setValue_iff hf hreadable hfirst hname).mp (h.feedback hname),
      fun hname n state hv hn => (state_setValue_iff hf hreadable hfirst hname hv hn).mp
        (h.state hname n state hv hn)⟩
  · intro h
    exact ⟨fun hname => (feedback_setValue_iff hf hreadable hfirst hname).mpr (h.feedback hname),
      fun hname n state hv hn => (state_setValue_iff hf hreadable hfirst hname hv hn).mpr
        (h.state hname n state hv hn), fun _ _ => sameBut_setValue hf hfirst⟩

end

/-- **Reading back what was written.** A write that reports success is read back exactly if the last
parameter of its name agrees with the first one. -/
theorem readsBack_iff {s t : Script} {trackIdx deviceIdx : ℤ} {i j : ℕ} {f : FoundDevice}
    (paramName : String) (v : Double)
    (hi : pyIndex s.live.song.tracks.length trackIdx = .ok i)
    (hj : pyIndex f.track.devices.length deviceIdx = .ok j)
    (hf : foundAt? s.live.song i j = some f)
    (hdone : exec (setLooperParam onLooperParamChanged trackIdx deviceIdx paramName v) s =
      (.ok true, t)) :
    ReadsBack (reportAt s.live.song i j) (reportAt t.live.song i j) paramName v ↔
      LastAgrees f.device paramName v := by
  obtain ⟨htrack, hdevice, -, -⟩ := foundAt?_eq_some_iff.mp hf
  rw [exec_setLooperParam] at hdone
  rcases hp : addressed s.live.song trackIdx deviceIdx paramName with _ | ⟨i', j', k, p⟩
  · rw [hp] at hdone
    cases hdone
  simp only [hp] at hdone
  by_cases hv : p.stores v = true
  · rw [if_pos hv, exec_assignValue _ _ _ _ _ _ _ hv] at hdone
    have hsong : t.live.song = s.live.song.setValue i' j' k v := by
      have ht : assigned s i' j' k p v = t := congrArg Prod.snd hdone
      rw [← ht, assigned_eq]
      rfl
    -- The write goes to the device at the position.
    obtain ⟨hi', track, device, ht, hj', hd, -, hreadable, hfirst⟩ := addressed_eq_some_iff.mp hp
    obtain rfl := Except.ok.inj (hi.symm.trans hi')
    obtain rfl := Option.some.inj (htrack.symm.trans ht)
    obtain rfl := Except.ok.inj (hj.symm.trans hj')
    obtain rfl := Option.some.inj (hdevice.symm.trans hd)
    rw [hsong]
    exact readsBack_setValue_iff hf hreadable hfirst
  · rw [if_neg hv] at hdone
    cases hdone

/-- The feedback of the only looper. -/
theorem readsBack_oneLooper : ∃ f, foundAt? (begun oneLooper).live.song 0 0 = some f ∧
    (ReadsBack (reportAt (begun oneLooper).live.song 0 0)
        (reportAt (exec (setLooperParam onLooperParamChanged 0 0 "Feedback" (.finite 1))
          (begun oneLooper)).2.live.song 0 0) "Feedback" (.finite 1) ↔
      LastAgrees f.device "Feedback" (.finite 1)) := by
  have hdone : (exec (setLooperParam onLooperParamChanged 0 0 "Feedback" (.finite 1))
      (begun oneLooper)).1 = .ok true := by
    rw [exec_setLooperParam]
    rfl
  exact ⟨_, rfl, readsBack_iff "Feedback" (.finite 1) rfl rfl rfl (Prod.ext hdone rfl)⟩

/-- A song with a looper that has two parameters named Feedback. -/
def twoFeedbacks : Song :=
  ⟨[⟨0, "Guitar", [⟨0, "Delay", "", [⟨⟨0, 0⟩, "State", .finite 0, fun _ => true, true⟩,
    ⟨⟨0, 1⟩, "Feedback", .finite (1 / 2), fun _ => true, true⟩,
    ⟨⟨0, 2⟩, "Feedback", .finite (1 / 4), fun _ => true, true⟩], true⟩]⟩], by decide⟩

/-- **The first is written and the last is read.** -/
theorem not_readsBack : ¬∀ (s t : Script) (trackIdx deviceIdx : ℤ) (i j : ℕ) (f : FoundDevice)
    (paramName : String) (v : Double), pyIndex s.live.song.tracks.length trackIdx = .ok i →
      pyIndex f.track.devices.length deviceIdx = .ok j → foundAt? s.live.song i j = some f →
        exec (setLooperParam onLooperParamChanged trackIdx deviceIdx paramName v) s =
          (.ok true, t) →
        ReadsBack (reportAt s.live.song i j) (reportAt t.live.song i j) paramName v := by
  intro h
  have hdone : (exec (setLooperParam onLooperParamChanged 0 0 "Feedback" (.finite 1))
      (fresh twoFeedbacks)).1 = .ok true := by
    rw [exec_setLooperParam]
    decide +kernel
  obtain ⟨info, hinfo, hfeedback⟩ := (h (fresh twoFeedbacks)
    (exec (setLooperParam onLooperParamChanged 0 0 "Feedback" (.finite 1)) (fresh twoFeedbacks)).2
    0 0 0 0 _ "Feedback" (.finite 1) rfl rfl rfl (Prod.ext hdone rfl)).feedback rfl
  have hread : (reportAt (exec (setLooperParam onLooperParamChanged 0 0 "Feedback" (.finite 1))
      (fresh twoFeedbacks)).2.live.song 0 0).map LooperInfo.feedback =
        some (.finite (1 / 4)) := by
    rw [exec_setLooperParam]
    decide +kernel
  rw [hinfo, Option.map_some, hfeedback] at hread
  exact absurd hread (by decide +kernel)

/-! ### Setting the state -/

/-- The arguments of a command that sets the state. -/
def setStateArgs (trackId targetState : String) : Json :=
  .obj [("track_id", .str trackId), ("target_state", .str targetState)]

/-- A device has one parameter named State, at a place. -/
structure OnlyState (device : Device) (k : ℕ) : Prop where
  first : ∃ p, IsFirst device.params k p "State"
  single : (valuesOf device "State").length = 1

/-- Between two states of the script the state of the device at a position has been set as asked,
and the answer says so: one of the four states is reported afterwards and nothing else is different,
or nothing is different at all. -/
structure StateSet (s t : Script) (answer : Except PyExc (Option Json)) (i j k : ℕ)
    (targetState : String) : Prop where
  known : targetState ∈ stateNames →
    (∃ result, answer = .ok (some result) ∧ result.get? "success" = some (.bool true)) ∧
      (reportAt t.live.song i j).map LooperInfo.state = some targetState ∧
        ∀ i' j' k', (i', j', k') ≠ (i, j, k) →
          t.live.song.paramAt? i' j' k' = s.live.song.paramAt? i' j' k'
  unknown : targetState ∉ stateNames →
    (∃ result, answer = .ok (some result) ∧ result.get? "success" = some (.bool false)) ∧
      t.live.song = s.live.song

/-- The command ends in a failure, with nothing touched: the table it looks the value up in is not
where it looks. -/
theorem exec_setState (nsid : Json) (trackId targetState : String) (s : Script) :
    ∃ result, exec (handleCommand (.str "looper") nsid (.str "set_state")
        (setStateArgs trackId targetState)) s = (.ok (some result), s) ∧
      result.get? "success" = some (.bool false) := by
  have hwrite : writeOf (.str "set_state") (setStateArgs trackId targetState) = some _ := rfl
  rw [(exec_handleCommand_of_writeOf hwrite nsid s).1 rfl, exec_map]
  rcases exec_writeCommand (trackIdOf (setStateArgs trackId targetState)) "State" _ s with
    ⟨answer, hexec, hsuccess⟩ | ⟨_, _, _, _, _, _, _, _, v, -, -, -, -, hvalue, -⟩
  · rw [hexec]
    exact ⟨answer, rfl, hsuccess⟩
  · cases hvalue

/-- **Setting the state** does what it says exactly if it is not to set one of the four states. -/
theorem stateSet_iff (s : Script) (nsid : Json) (trackId targetState : String) (i j k : ℕ) :
    StateSet s (exec (handleCommand (.str "looper") nsid (.str "set_state")
        (setStateArgs trackId targetState)) s).2
      (exec (handleCommand (.str "looper") nsid (.str "set_state")
        (setStateArgs trackId targetState)) s).1 i j k targetState ↔
      targetState ∉ stateNames := by
  obtain ⟨result, hexec, hsuccess⟩ := exec_setState nsid trackId targetState s
  rw [hexec]
  constructor
  · intro h hknown
    obtain ⟨⟨result', hresult, htrue⟩, -⟩ := h.known hknown
    cases hresult
    rw [hsuccess] at htrue
    cases htrue
  · intro h
    exact ⟨fun hknown => absurd hknown h, fun _ => ⟨⟨result, rfl, hsuccess⟩, rfl⟩⟩

/-- The only looper of a song does not start to play. -/
theorem not_stateSet : ¬∀ (s : Script) (nsid : Json) (trackId targetState : String)
    (f : FoundDevice) (k : ℕ), Reachable s → scanResult s.live.song = .ok s.discoveredLoopers →
      lastLooper? s.live.song trackId = some f → OnlyState f.device k →
        StateSet s (exec (handleCommand (.str "looper") nsid (.str "set_state")
            (setStateArgs trackId targetState)) s).2
          (exec (handleCommand (.str "looper") nsid (.str "set_state")
            (setStateArgs trackId targetState)) s).1 f.trackIdx f.deviceIdx k targetState := by
  intro h
  have hlast : lastLooper? (begun oneLooper).live.song "0" = some ⟨⟨0, "Guitar", [⟨0, "Looper",
      "Looper", [⟨⟨0, 0⟩, "State", .finite 0, fun _ => true, true⟩,
        ⟨⟨0, 1⟩, "Feedback", .finite (1 / 2), fun _ => true, true⟩], true⟩]⟩, 0, ⟨0, "Looper",
      "Looper", [⟨⟨0, 0⟩, "State", .finite 0, fun _ => true, true⟩,
        ⟨⟨0, 1⟩, "Feedback", .finite (1 / 2), fun _ => true, true⟩], true⟩, 0⟩ := rfl
  have honly : OnlyState ⟨0, "Looper", "Looper", [⟨⟨0, 0⟩, "State", .finite 0, fun _ => true, true⟩,
      ⟨⟨0, 1⟩, "Feedback", .finite (1 / 2), fun _ => true, true⟩], true⟩ 0 :=
    ⟨⟨_, rfl, rfl, nofun⟩, rfl⟩
  have hset := h (begun oneLooper) (.str "0") "0" "Playing" _ 0 (.of_init (started_begun rfl)) rfl
    hlast honly
  obtain ⟨⟨result, hresult, htrue⟩, -⟩ := hset.known (by decide)
  obtain ⟨result', hexec, hsuccess⟩ := exec_setState (.str "0") "0" "Playing" (begun oneLooper)
  rw [hexec] at hresult
  cases hresult
  rw [hsuccess] at htrue
  cases htrue

end LooperControl
