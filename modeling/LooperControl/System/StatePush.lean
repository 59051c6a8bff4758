import LooperControl.Lib.Runs
import LooperControl.Plugin.BridgeClient
import LooperControl.Script.LooperControlSurface

/-!
# A pushed state

The script writes the state of a looper into a dictionary, and the plugin makes a state of its
own of it. The two handlers that decode it make the same state (`LooperInfo.toState`), and put
it under the looper's track id: `oscMessageReceived_discovered` overwrites the entry there,
`oscMessageReceived_changed` keeps one that compares equal.

* **The trip**: `survives_of_read`. What the script has read is what the tracker holds.
* **Cycle counts**: `cycleCounts_iff`. A pushed state carries no cycle count, and is decoded as
  one with the count 0. Nothing counts the entries into Playing, and a push undoes what has been
  counted by hand.
-/

namespace LooperControl

open MessageProtocol BridgeClient LooperControlSurface LooperDiscovery

/-- Numbers and booleans are converted exactly. -/
structure Juce.Exact (J : Juce) : Prop where
  toFloat_finite : ∀ q : ℚ, J.toFloat (.float (.finite q)) = q
  toBool_bool : ∀ b : Bool, J.toBool (.bool b) = b

theorem Juce.exact_plain : Juce.plain.Exact := ⟨fun _ => rfl, fun _ => rfl⟩

/-! ### What an event writes -/

variable {J : Juce}

/-- The state that a dictionary is decoded as. -/
def LooperInfo.toState (J : Juce) (info : LooperInfo) : LooperState :=
  { trackId := info.trackId
    trackName := info.trackName
    deviceId := info.deviceId
    deviceName := info.deviceName
    className := info.className
    state := LooperState.stringToState info.state
    feedback := J.toFloat (.float info.feedback)
    reverse := J.toBool (.bool info.reverse)
    loopLengthBars := 0
    cycleCount := 0 }

@[simp] theorem LooperInfo.toState_trackId (info : LooperInfo) :
    (info.toState J).trackId = info.trackId := rfl

theorem discoveredState_toJson (info : LooperInfo) :
    discoveredState J info.toJson = info.toState J := by
  simp [discoveredState, readState, readCounter, LooperInfo.toJson, property, J.toText_str,
    LooperInfo.toState]

theorem changedState_toJson (info : LooperInfo) :
    changedState J info.toJson = info.toState J := by
  simp [changedState, readState, readCounter, LooperInfo.toJson, property, J.toText_str,
    LooperInfo.toState]

theorem isFinite_eventMessage (name : String) (info : LooperInfo) :
    (eventMessage name info.toJson).isFinite = info.feedback.isFinite := by
  simp [eventMessage, LooperInfo.toJson, Json.isFinite, Json.isFiniteMembers]

private theorem receive_event {name : String} (hne : name ≠ "") {info : LooperInfo}
    (h : info.feedback.isFinite = true) (c : BridgeClient) : ∃ uuid version,
      oscMessageReceived J c (received (eventMessage name info.toJson)) =
        handleEvent J c ⟨uuid, name, info.toJson, version⟩ := by
  rw [received_of_isFinite ((isFinite_eventMessage name info).trans h)]
  exact ⟨_, _, oscMessageReceived_event c rfl rfl hne⟩

/-- A discovery overwrites the entry under its track id. -/
theorem oscMessageReceived_discovered {info : LooperInfo} (h : info.feedback.isFinite = true)
    (c : BridgeClient) : oscMessageReceived J c (received (discoveredEvent info)) =
      { c with tracker := c.tracker.addLooper (info.toState J) } := by
  obtain ⟨uuid, version, heq⟩ := @receive_event J "looper_discovered" (by decide) info h c
  rw [discoveredEvent, heq, ← discoveredState_toJson]
  rfl

/-- A change updates the entry under its track id. -/
theorem oscMessageReceived_changed {info : LooperInfo} (h : info.feedback.isFinite = true)
    (c : BridgeClient) : oscMessageReceived J c (received (changedEvent info)) =
      { c with tracker := c.tracker.updateState info.trackId (info.toState J) } := by
  obtain ⟨uuid, version, heq⟩ := @receive_event J "looper_state_changed" (by decide) info h c
  have htrack : info.trackId = (changedState J info.toJson).trackId := by
    rw [changedState_toJson]
    rfl
  rw [changedEvent, heq, ← changedState_toJson, htrack]
  rfl

/-- An event with a number JSON cannot spell is not received. -/
theorem oscMessageReceived_not_finite {name : String} {info : LooperInfo}
    (h : info.feedback.isFinite = false) (c : BridgeClient) :
    oscMessageReceived J c (received (eventMessage name info.toJson)) = c := by
  have hnot : ¬(eventMessage name info.toJson).isFinite = true := by
    rw [isFinite_eventMessage, h]
    exact Bool.false_ne_true
  rw [received, if_neg hnot, oscMessageReceived_null]

/-- A response writes nothing. -/
theorem tracker_response (c : BridgeClient) (requestUuid answer : Json) :
    (oscMessageReceived J c (received (responseMessage requestUuid answer))).tracker =
      c.tracker := by
  rw [received]
  split
  · rw [oscMessageReceived_event c rfl rfl (by decide)]
    exact tracker_handleResult c _
  · rfl

/-! ### The trip of a state -/

/-- A state is what a dictionary says, but for the feedback. -/
structure Describes (info : LooperInfo) (held : LooperState) : Prop where
  trackId : held.trackId = info.trackId
  trackName : held.trackName = info.trackName
  deviceId : held.deviceId = info.deviceId
  deviceName : held.deviceName = info.deviceName
  className : held.className = info.className
  state : LooperState.stateToString held.state = info.state
  reverse : held.reverse = info.reverse
  loopLengthBars : held.loopLengthBars = 0
  cycleCount : held.cycleCount = 0

/-- The entry under the id of a dictionary is what it says, with a feedback near its own. -/
abbrev Entered (near : ℚ → ℚ → Prop) (info : LooperInfo) (c : BridgeClient) : Prop :=
  ∃ state q, c.tracker.getLooper info.trackId = some state ∧ Describes info state ∧
    info.feedback = .finite q ∧ near state.feedback q

/-- A dictionary has arrived: it is entered, and no other entry has changed. -/
structure Survives (near : ℚ → ℚ → Prop) (info : LooperInfo) (c d : BridgeClient) : Prop where
  entry : Entered near info d
  others : ∀ k, k ≠ info.trackId → d.tracker.getLooper k = c.tracker.getLooper k

/-- The names of the states are read back. -/
theorem stateToString_stringToState {name : String} (h : name ∈ stateNames) :
    LooperState.stateToString (LooperState.stringToState name) = name := by
  revert name
  decide

theorem describes_toState (hJ : J.Exact) {info : LooperInfo} (h : info.state ∈ stateNames) :
    Describes info (info.toState J) :=
  ⟨rfl, rfl, rfl, rfl, rfl, stateToString_stringToState h, hJ.toBool_bool _, rfl, rfl⟩

/-- What compares equal to a described state is described, and its feedback is near. -/
theorem Describes.of_same {info : LooperInfo} {a b : LooperState} (hb : Describes info b)
    (h : a.same b = true) : Describes info a ∧ |a.feedback - b.feedback| < 1 / 1000 := by
  obtain ⟨heq, hnear⟩ := LooperState.eq_of_same h
  refine ⟨?_, hnear⟩
  rw [heq]
  exact ⟨hb.trackId, hb.trackName, hb.deviceId, hb.deviceName, hb.className, hb.state, hb.reverse,
    hb.loopLengthBars, hb.cycleCount⟩

section Survives

variable {info : LooperInfo} {q : ℚ}

/-- A discovery arrives as it is. -/
theorem survives_discovered (hJ : J.Exact) (hstate : info.state ∈ stateNames)
    (hq : info.feedback = .finite q) (c : BridgeClient) :
    Survives Eq info c (oscMessageReceived J c (received (discoveredEvent info))) := by
  rw [oscMessageReceived_discovered (by rw [hq]; rfl)]
  refine ⟨⟨info.toState J, q, ?_, describes_toState hJ hstate, hq, ?_⟩, fun k hk => ?_⟩
  · exact (LooperTracker.getLooper_addLooper _ _ _).trans (if_pos rfl)
  · rw [LooperInfo.toState, hq, hJ.toFloat_finite]
  · exact (LooperTracker.getLooper_addLooper _ _ _).trans (if_neg hk)

/-- A change arrives with the feedback it has, or leaves one that is near. -/
theorem survives_changed (hJ : J.Exact) (hstate : info.state ∈ stateNames)
    (hq : info.feedback = .finite q) (c : BridgeClient) :
    Survives (fun a b => |a - b| < 1 / 1000) info c
      (oscMessageReceived J c (received (changedEvent info))) := by
  have hfeedback : (info.toState J).feedback = q := by
    rw [LooperInfo.toState, hq, hJ.toFloat_finite]
  rw [oscMessageReceived_changed (by rw [hq]; rfl)]
  refine ⟨⟨_, q, (LooperTracker.getLooper_updateState _ _ _ _).trans (if_pos rfl), ?_⟩,
    fun k hk => (LooperTracker.getLooper_updateState _ _ _ _).trans (if_neg hk)⟩
  have hdescribes := describes_toState hJ hstate
  rcases LooperTracker.updated_eq_or_same (c.tracker.getLooper info.trackId)
    (info.toState J) with heq | hsame
  · rw [heq, hfeedback]
    exact ⟨hdescribes, hq, by norm_num⟩
  · rw [← hfeedback]
    obtain ⟨hdescribes', hnear⟩ := hdescribes.of_same hsame
    exact ⟨hdescribes', hq.trans (by rw [hfeedback]), hnear⟩

/-- A change of a looper without an entry arrives as it is. -/
theorem survives_changed_new (hJ : J.Exact) (hstate : info.state ∈ stateNames)
    (hq : info.feedback = .finite q) {c : BridgeClient}
    (hnew : c.tracker.getLooper info.trackId = none) :
    Survives Eq info c (oscMessageReceived J c (received (changedEvent info))) := by
  rw [oscMessageReceived_changed (by rw [hq]; rfl)]
  refine ⟨⟨info.toState J, q, ?_, describes_toState hJ hstate, hq, ?_⟩,
    fun k hk => (LooperTracker.getLooper_updateState _ _ _ _).trans (if_neg hk)⟩
  · rw [LooperTracker.getLooper_updateState, if_pos rfl, hnew]
    rfl
  · rw [LooperInfo.toState, hq, hJ.toFloat_finite]

end Survives

/-- **A looper's state survives the trip**: what the script has read of a device with finite values
is what the tracker holds after a discovery, and after a change up to the tolerance of the
comparison with an entry it had before. -/
theorem survives_of_read (hJ : J.Exact) {f : FoundDevice} {info : LooperInfo}
    (hread : f.read = .ok info) (hfinite : ∀ p ∈ f.device.params, p.value.isFinite = true)
    (c : BridgeClient) :
    Survives Eq info c (oscMessageReceived J c (received (discoveredEvent info))) ∧
      Survives (fun a b => |a - b| < 1 / 1000) info c
        (oscMessageReceived J c (received (changedEvent info))) ∧
      (c.tracker.getLooper info.trackId = none →
        Survives Eq info c (oscMessageReceived J c (received (changedEvent info)))) := by
  have hstate := read_state hread
  have hfeedback := isFinite_feedbackOf hfinite
  rw [← read_feedback hread] at hfeedback
  obtain ⟨q, hq⟩ := Double.exists_of_isFinite hfeedback
  exact ⟨survives_discovered hJ hstate hq c, survives_changed hJ hstate hq c,
    survives_changed_new hJ hstate hq⟩

/-- A looper in overdub, its feedback turned up. -/
def overdubbingLooper : FoundDevice :=
  ⟨⟨0, "Guitar", []⟩, 0, ⟨0, "Looper", "Looper",
    [⟨⟨0, 0⟩, "State", .finite 3, fun _ => true, true⟩,
      ⟨⟨0, 1⟩, "Feedback", .finite (9 / 10), fun _ => true, true⟩], true⟩, 0⟩

/-- What is read of it arrives. -/
theorem survives_overdubbing : ∃ info, overdubbingLooper.read = .ok info ∧
    Survives Eq info {} (oscMessageReceived .plain {} (received (discoveredEvent info))) := by
  refine ⟨⟨"0", "Guitar", "0", "Looper", "Looper", "Overdubbing", .finite (9 / 10), false⟩,
    by decide +kernel,
    (survives_of_read Juce.exact_plain (f := overdubbingLooper) (by decide +kernel) ?_ {}).1⟩
  decide

/-! ### Cycle counts -/

/-- The events a looper's state is pushed with, as the script sends them. -/
inductive Push
  | discovered (info : LooperInfo)
  | changed (info : LooperInfo)
  | removed (trackId : String)

namespace Push

/-- The message. -/
def payload : Push → Json
  | discovered info => discoveredEvent info
  | changed info => changedEvent info
  | removed trackId => eventMessage "looper_removed" (.obj [("track_id", .str trackId)])

/-- The dictionary that is pushed, if JSON can carry it. -/
def info? : Push → Option LooperInfo
  | discovered info => if info.feedback.isFinite then some info else none
  | changed info => if info.feedback.isFinite then some info else none
  | removed _ => none

end Push

/-- The client after a push. -/
def BridgeClient.push (J : Juce) (c : BridgeClient) (e : Push) : BridgeClient :=
  oscMessageReceived J c (received e.payload)

theorem push_removed (c : BridgeClient) (trackId : String) :
    c.push J (.removed trackId) = { c with tracker := c.tracker.removeLooper trackId } := by
  have hfinite : (Push.removed trackId).payload.isFinite = true := rfl
  rw [BridgeClient.push, received_of_isFinite hfinite,
    @oscMessageReceived_event J c (Push.removed trackId).payload "looper_removed" rfl rfl
      (by decide)]
  simp [handleEvent, handleLooperRemoved, Push.payload, eventMessage, J.toText_str]

/-- What is left of the tracker when a state that counts nothing is written or an entry goes. -/
theorem updated_cycleCount {old : Option LooperState} {newState : LooperState} :
    (LooperTracker.updated old newState).cycleCount = newState.cycleCount := by
  rcases LooperTracker.updated_eq_or_same old newState with heq | hsame
  · rw [heq]
  · rw [(LooperState.eq_of_same hsame).1]

/-- **What a push does to the counts**: it puts an entry with the count 0, or leaves each entry as
it was, if it leaves it. -/
theorem push_cases (c : BridgeClient) (e : Push) :
    (∃ info held, e.info? = some info ∧ held.cycleCount = 0 ∧
      ∀ k, (c.push J e).tracker.getLooper k =
        if k = info.trackId then some held else c.tracker.getLooper k) ∨
    (e.info? = none ∧ ∀ k held, (c.push J e).tracker.getLooper k = some held →
      c.tracker.getLooper k = some held) := by
  cases e with
  | discovered info =>
    rw [Push.info?, BridgeClient.push, Push.payload]
    by_cases hfinite : info.feedback.isFinite = true
    · left
      rw [oscMessageReceived_discovered hfinite]
      exact ⟨info, info.toState J, if_pos hfinite, rfl, LooperTracker.getLooper_addLooper _ _⟩
    · right
      rw [discoveredEvent, oscMessageReceived_not_finite (by simpa using hfinite)]
      exact ⟨if_neg hfinite, fun _ _ h => h⟩
  | changed info =>
    rw [Push.info?, BridgeClient.push, Push.payload]
    by_cases hfinite : info.feedback.isFinite = true
    · left
      rw [oscMessageReceived_changed hfinite]
      exact ⟨info, _, if_pos hfinite, updated_cycleCount.trans rfl,
        LooperTracker.getLooper_updateState _ _ _⟩
    · right
      rw [changedEvent, oscMessageReceived_not_finite (by simpa using hfinite)]
      exact ⟨if_neg hfinite, fun _ _ h => h⟩
  | removed trackId =>
    right
    refine ⟨rfl, fun k held h => ?_⟩
    rw [push_removed] at h
    have h := (LooperTracker.getLooper_removeLooper _ _ _).symm.trans h
    split at h
    · cases h
    · exact h

/-- A looper enters Playing: it is pushed as playing, and was pushed before as not playing. -/
def enters (before : Option State) (now : State) : Bool :=
  now == .playing && before.any fun state => state != .playing

/-- A client, the state that each looper was pushed with last, and how often each has entered
Playing. -/
structure Tally where
  client : BridgeClient
  last : String → Option State
  entries : String → ℕ

namespace Tally

/-- Before the first push. -/
def start (c : BridgeClient) : Tally := ⟨c, fun _ => none, fun _ => 0⟩

/-- A push, tallied. -/
def next (J : Juce) (s : Tally) (e : Push) : Tally :=
  match e.info? with
  | some info =>
    let now := LooperState.stringToState info.state
    { client := s.client.push J e
      last := Function.update s.last info.trackId (some now)
      entries := Function.update s.entries info.trackId
        (s.entries info.trackId + if enters (s.last info.trackId) now then 1 else 0) }
  | none => { s with client := s.client.push J e }

/-- A push as a step. -/
def step (J : Juce) (s : Tally) (e : Push) (t : Tally) : Prop := t = s.next J e

/-- Each entry counts how often its looper has entered Playing. -/
def Counted (_ : Tally) (_ : Push) (t : Tally) : Prop :=
  ∀ k held, t.client.tracker.getLooper k = some held → held.cycleCount = t.entries k

/-- The condition on a push: no looper enters Playing. -/
def NoneEnters (s : Tally) (e : Push) : Prop :=
  ∀ info, e.info? = some info →
    enters (s.last info.trackId) (LooperState.stringToState info.state) = false

/-- Nothing has been counted, and there was nothing to count. -/
structure Uncounted (s : Tally) : Prop where
  counts : ∀ k held, s.client.tracker.getLooper k = some held → held.cycleCount = 0
  entries : ∀ k, s.entries k = 0

theorem client_next (s : Tally) (e : Push) : (s.next J e).client = s.client.push J e := by
  rw [next]
  split <;> rfl

/-- A push counts nothing. -/
theorem Uncounted.counts_push {s : Tally} (hs : Uncounted s) (e : Push) :
    ∀ k held, (s.client.push J e).tracker.getLooper k = some held → held.cycleCount = 0 := by
  intro k held h
  rcases push_cases (J := J) s.client e with ⟨info, held', -, hzero, hget⟩ | ⟨-, hget⟩
  · rw [hget] at h
    split at h
    · rw [← Option.some.inj h, hzero]
    · exact hs.counts k held h
  · exact hs.counts k held (hget k held h)

/-- **The step lemma for counts**: they are right after a push exactly when no looper has entered
Playing with it. -/
theorem noneEnters_iff_counted {s t : Tally} {e : Push} (hs : Uncounted s) (h : s.step J e t) :
    NoneEnters s e ↔ Counted s e t := by
  obtain rfl := h
  have hcounts := hs.counts_push (J := J) e
  rw [NoneEnters, Counted, client_next]
  rcases push_cases (J := J) s.client e with ⟨info, held, hinfo, hzero, hget⟩ | ⟨hnone, -⟩
  · have hentries : (s.next J e).entries info.trackId = if enters (s.last info.trackId)
        (LooperState.stringToState info.state) then 1 else 0 := by
      simp [next, hinfo, hs.entries]
    constructor
    · intro hno k held' hk
      have hother : (s.next J e).entries k = 0 := by
        by_cases hki : k = info.trackId
        · rw [hki, hentries, hno info hinfo]
          rfl
        · simp [next, hinfo, hki, hs.entries]
      rw [hcounts k held' hk, hother, Nat.cast_zero]
    · rintro hcounted info' hinfo'
      -- The entry that has just been written has the count 0.
      rw [hinfo, Option.some_inj] at hinfo'
      have hcount := hcounted info.trackId held ((hget _).trans (if_pos rfl))
      rw [hzero, hentries] at hcount
      rw [← hinfo', Bool.eq_false_iff]
      intro henters
      rw [if_pos henters] at hcount
      cases hcount
  · refine iff_of_true (fun info hinfo => ?_) fun k held hk => ?_
    · rw [hnone] at hinfo
      cases hinfo
    · have hentries : (s.next J e).entries = s.entries := by
        simp [next, hnone]
      rw [hcounts k held hk, hentries, hs.entries, Nat.cast_zero]

end Tally

/-- What happens to a client's counts: a push, or a cycle that is counted by hand. -/
inductive Play
  | push (e : Push)
  | cycle (trackId : String)

/-- The client afterwards. -/
def BridgeClient.play (J : Juce) (c : BridgeClient) : Play → BridgeClient
  | .push e => c.push J e
  | .cycle trackId => { c with tracker := c.tracker.incrementCycleCount trackId }

/-- What happens as a step. -/
def BridgeClient.playStep (J : Juce) (c : BridgeClient) (e : Play) (d : BridgeClient) : Prop :=
  d = c.play J e

/-- No looper's count goes down. -/
def NotLowered (c : BridgeClient) (_ : Play) (d : BridgeClient) : Prop :=
  ∀ k old new, c.tracker.getLooper k = some old → d.tracker.getLooper k = some new →
    old.cycleCount ≤ new.cycleCount

/-- The condition on a push: it is not for a looper whose count has been raised. -/
def NotRaised (c : BridgeClient) : Play → Prop
  | .push e => ∀ info, e.info? = some info →
      ∀ held, c.tracker.getLooper info.trackId = some held → ¬0 < held.cycleCount
  | .cycle _ => True

/-- **The step lemma for raised counts**: a push lowers one exactly when it is for its looper. -/
theorem notRaised_iff_notLowered {c d : BridgeClient} {e : Play} (h : c.playStep J e d) :
    NotRaised c e ↔ NotLowered c e d := by
  obtain rfl := h
  cases e with
  | push e =>
    change (∀ info, _ → _) ↔ _
    rw [NotLowered, BridgeClient.play]
    rcases push_cases (J := J) c e with ⟨info, held, hinfo, hzero, hget⟩ | ⟨hnone, hget⟩
    · constructor
      · intro hraised k old new hold hnew
        rw [hget] at hnew
        split at hnew
        · rename_i hk
          rw [hk] at hold
          rw [← Option.some.inj hnew, hzero]
          exact not_lt.mp (hraised info hinfo old hold)
        · rw [hold, Option.some_inj] at hnew
          exact le_of_eq (congrArg _ hnew)
      · intro hlowered info' hinfo' old hold
        rw [hinfo, Option.some_inj] at hinfo'
        rw [← hinfo'] at hold
        have hle := hlowered info.trackId old held hold ((hget _).trans (if_pos rfl))
        rw [hzero] at hle
        exact not_lt.mpr hle
    · refine iff_of_true (fun info hinfo => ?_) fun k old new hold hnew => ?_
      · rw [hnone] at hinfo
        cases hinfo
      · have hsame := hget k new hnew
        rw [hold, Option.some_inj] at hsame
        exact le_of_eq (congrArg _ hsame)
  | cycle trackId =>
    refine iff_of_true trivial fun k old new hold hnew => ?_
    have hnew := (LooperTracker.getLooper_incrementCycleCount _ _ _).symm.trans hnew
    rw [hold] at hnew
    split at hnew
    · rw [← Option.some.inj hnew]
      exact Int.le_add_one (le_refl _)
    · rw [Option.some.inj hnew]

/-- **Cycle counting**, on a client without entries. The counts are those of the entries into
Playing exactly in the runs in which no looper enters Playing; and no count is lowered exactly in
the runs in which no push is for a looper with a raised count. -/
theorem cycleCounts_iff {c : BridgeClient} (hc : ∀ k, c.tracker.getLooper k = none) :
    (∀ es t, Runs.Run (Runs.guarded Tally.NoneEnters (Tally.step J)) (.start c) es t ↔
      Runs.Run (Runs.checked Tally.Counted (Tally.step J)) (.start c) es t) ∧
    (∀ es d, Runs.Run (Runs.guarded NotRaised (playStep J)) c es d ↔
      Runs.Run (Runs.checked NotLowered (playStep J)) c es d) := by
  constructor
  · intro es t
    refine Runs.run_guarded_iff_checked (P := Tally.Uncounted)
      (fun _ _ _ => Tally.noneEnters_iff_counted) (fun s e t hs h hpost => ?_)
      ⟨fun k held h => ?_, fun _ => rfl⟩
    · have hno := (Tally.noneEnters_iff_counted hs h).mpr hpost
      obtain rfl := h
      refine ⟨by rw [Tally.client_next]; exact hs.counts_push e, fun k => ?_⟩
      rw [Tally.next]
      split
      · rename_i info hinfo
        by_cases hk : k = info.trackId
        · simp [hk, hno info hinfo, hs.entries]
        · simp [hk, hs.entries]
      · exact hs.entries k
    · exact absurd ((hc k).symm.trans h) (by simp)
  · intro es d
    exact Runs.run_guarded_iff_checked (P := fun _ => True)
      (fun _ _ _ _ => notRaised_iff_notLowered) (fun _ _ _ _ _ _ => trivial) trivial

/-- A looper on the first track, in a given state. -/
def pushedInfo (state : String) : LooperInfo :=
  ⟨"0", "Guitar", "0", "Looper", "Looper", state, .finite (1 / 2), false⟩

/-- A looper that is discovered while it plays, and one whose cycle is counted after the last
push. -/
theorem cycleCounts_quiet :
    (∃ t, Runs.Run (Runs.checked Tally.Counted (Tally.step .plain)) (.start {})
      [.discovered (pushedInfo "Playing"), .changed (pushedInfo "Stopped")] t) ∧
    (∃ d, Runs.Run (Runs.checked NotLowered (playStep .plain)) {}
      [.push (.discovered (pushedInfo "Playing")), .cycle "0"] d) := by
  obtain ⟨hcounted, hlowered⟩ := cycleCounts_iff (J := .plain) (c := {}) fun _ => rfl
  refine ⟨⟨_, (hcounted _ _).mp (.cons ⟨?_, rfl⟩ (.cons ⟨?_, rfl⟩ (.nil _)))⟩,
    ⟨_, (hlowered _ _).mp (.cons ⟨?_, rfl⟩ (.cons ⟨trivial, rfl⟩ (.nil _)))⟩⟩
  · intro info hinfo
    obtain rfl := Option.some.inj hinfo
    decide
  · intro info hinfo
    obtain rfl := Option.some.inj hinfo
    decide
  · intro info _ held hheld
    cases hheld

/-- **A looper that starts to play is not counted.** -/
theorem not_cycleCounts : ¬∀ (J : Juce) (c : BridgeClient),
    (∀ k, c.tracker.getLooper k = none) →
      (∀ es t, Runs.Run (Tally.step J) (.start c) es t →
        Runs.Run (Runs.checked Tally.Counted (Tally.step J)) (.start c) es t) ∧
      (∀ es d, Runs.Run (playStep J) c es d →
        Runs.Run (Runs.checked NotLowered (playStep J)) c es d) := by
  intro h
  have hrun := (h .plain {} fun _ => rfl).1
    [.discovered (pushedInfo "Stopped"), .changed (pushedInfo "Playing")] _
    (.cons rfl (.cons rfl (.nil _)))
  obtain ⟨s, ⟨rfl, -⟩, hrest⟩ := Runs.run_cons_iff.mp hrun
  obtain ⟨t, ⟨rfl, hcounted⟩, -⟩ := Runs.run_cons_iff.mp hrest
  have hentry := hcounted "0" ((pushedInfo "Playing").toState .plain) (by decide +kernel)
  revert hentry
  decide +kernel

end LooperControl
