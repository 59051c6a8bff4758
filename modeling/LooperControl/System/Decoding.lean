import LooperControl.Plugin.JuceJson
import LooperControl.System.ChangeCallback

/-!
# What becomes of an event's data

The handlers of the plugin turn the data of an event into a state of a looper. Each has a default
for data that it can make nothing of, and each has its own.

* `intact_iff`: which malformed events leave the tracker alone. A discovery or a change without data
  is stored like any other, as a looper without an id.
* `handlers_agree_iff`: the handlers of a discovery and of a change make the same of an object,
  unless it says nothing about feedback.
-/

namespace LooperControl

open MessageProtocol

namespace BridgeClient

variable (J : Juce)

/-! ### Malformed events -/

/-- A text that is no object, or an event whose data is none, or data without the id of a track. -/
def Malformed (text : String) : Prop :=
  let data := property "data" (J.parse text)
  (J.parse text).isObj = false ∨ data.isObj = false ∨
    ∀ trackId, data.get? "track_id" = some (.str trackId) → trackId = ""

/-- The shadow state is as before, and nobody has been told otherwise. -/
structure Intact (c d : BridgeClient) : Prop where
  loopers : d.tracker.loopers = c.tracker.loopers
  notified : d.tracker.notified = c.tracker.notified

/-- An event that finds nothing to do: the discovery of the very entry that is held, with nobody to
tell, a change that compares equal to it, the removal of an id without an entry, or an event that
carries no state. -/
def Harmless (c : BridgeClient) (event : BridgeEvent) : Prop :=
  if event.event = "looper_discovered" then
    c.tracker.onChange = none ∧ c.tracker.getLooper (discoveredState J event.data).trackId =
      some (discoveredState J event.data)
  else if event.event = "looper_state_changed" then
    ∃ old, c.tracker.getLooper (changedState J event.data).trackId = some old ∧
      old.same (changedState J event.data) = true
  else if event.event = "looper_removed" then
    event.data.isObj = true →
      c.tracker.getLooper (J.toText (property "track_id" event.data)) = none
  else True

variable {J} {c : BridgeClient}

namespace Intact

/-- What changes nothing calls nobody back, unless it calls in any case. -/
theorem of_reports {d : BridgeClient} {changed : Prop}
    (hreports : Reports changed c.tracker d.tracker) :
    Intact c d ↔ (¬changed ∨ c.tracker.onChange = none) ∧
      d.tracker.loopers = c.tracker.loopers := by
  obtain ⟨-, n, hnotified, hchanged⟩ := hreports
  have hsilent : d.tracker.notified = c.tracker.notified ↔
      ¬changed ∨ c.tracker.onChange = none := by
    rw [hnotified, List.append_right_eq_self, hchanged, not_not]
    rcases c.tracker.onChange with _ | owner
    · simp
    · rcases n with _ | n <;> simp [List.replicate_succ]
  exact ⟨fun h => ⟨hsilent.mp h.notified, h.loopers⟩, fun h => ⟨h.2, hsilent.mpr h.1⟩⟩

end Intact

theorem intact_handleLooperDiscovered (event : BridgeEvent) :
    Intact c (handleLooperDiscovered J c event) ↔ c.tracker.onChange = none ∧
      c.tracker.getLooper (discoveredState J event.data).trackId =
        some (discoveredState J event.data) := by
  rw [Intact.of_reports (d := handleLooperDiscovered J c event) (.addLooper c.tracker _),
    not_true_eq_false, false_or]
  exact and_congr_right' LooperTracker.addLooper_loopers_eq_iff

theorem intact_handleLooperStateChanged (event : BridgeEvent) :
    Intact c (handleLooperStateChanged J c event) ↔
      ∃ old, c.tracker.getLooper (changedState J event.data).trackId = some old ∧
        old.same (changedState J event.data) = true := by
  rw [Intact.of_reports (d := handleLooperStateChanged J c event) (.updateState c.tracker _ _)]
  have hloopers : (handleLooperStateChanged J c event).tracker.loopers = c.tracker.loopers ↔
      ∃ old, c.tracker.getLooper (changedState J event.data).trackId = some old ∧
        old.same (changedState J event.data) = true := LooperTracker.updateState_loopers_eq_iff
  rw [← hloopers]
  refine and_iff_right_of_imp fun h => .inl fun hchanged => ?_
  obtain ⟨old, hold, hsame⟩ := hloopers.mp h
  exact Bool.false_ne_true ((hchanged old hold).symm.trans hsame)

theorem intact_handleLooperRemoved (event : BridgeEvent) :
    Intact c (handleLooperRemoved J c event) ↔ (event.data.isObj = true →
      c.tracker.getLooper (J.toText (property "track_id" event.data)) = none) := by
  rw [handleLooperRemoved]
  split
  · rename_i hobj
    rw [forall_prop_of_true hobj, ← LooperTracker.removeLooper_loopers_eq_iff,
      Intact.of_reports (.removeLooper c.tracker _)]
    refine and_iff_right_of_imp fun h => .inl fun hmem => ?_
    rw [LooperTracker.removeLooper_loopers_eq_iff] at h
    rw [Std.ExtTreeMap.mem_iff_isSome_getElem?] at hmem
    rw [LooperTracker.getLooper] at h
    rw [h] at hmem
    cases hmem
  · rename_i hobj
    exact iff_of_true ⟨rfl, rfl⟩ fun h => absurd h hobj

/-- An event leaves the tracker alone exactly if it finds nothing to do. -/
theorem intact_handleEvent_iff (event : BridgeEvent) :
    Intact c (handleEvent J c event) ↔ Harmless J c event := by
  rw [handleEvent, Harmless]
  split
  · exact intact_handleLooperDiscovered event
  split
  · exact intact_handleLooperStateChanged event
  split
  · exact intact_handleLooperRemoved event
  refine iff_of_true ?_ trivial
  split
  · have htracker := tracker_handleResult (J := J) c event.data
    exact ⟨by rw [htracker], by rw [htracker]⟩
  · exact ⟨rfl, rfl⟩

theorem intact_oscMessageReceived_iff (parsed : Json) :
    Intact c (oscMessageReceived J c parsed) ↔ Harmless J c (jsonToEvent J parsed) := by
  rw [oscMessageReceived]
  split
  · exact intact_handleEvent_iff _
  · rename_i hempty
    rw [ne_eq, not_not] at hempty
    have hharmless : Harmless J c (jsonToEvent J parsed) := by
      simp [Harmless, hempty]
    refine iff_of_true ?_ hharmless
    dsimp only
    split
    · have htracker := tracker_handleResult (J := J) c (jsonToMessage J parsed).args
      exact ⟨by rw [htracker], by rw [htracker]⟩
    · exact ⟨rfl, rfl⟩

/-- **Malformed events.** A malformed payload leaves the shadow state alone exactly if the event in
it finds nothing to do. -/
theorem intact_iff (J : Juce) (c : BridgeClient) (text : String) (rest : List OscValue) :
    (Malformed J text → Intact c (oscArgumentsReceived J c (.string text :: rest))) ↔
      (Malformed J text → Harmless J c (jsonToEvent J (J.parse text))) :=
  imp_congr_right fun _ => intact_oscMessageReceived_iff _

/-- **A discovery without data is a looper**: it enters the tracker under the empty id. -/
theorem not_intact_discovery : ¬∀ (c : BridgeClient) (text : String) (rest : List OscValue),
    Malformed Juce.standard text →
      Intact c (oscArgumentsReceived Juce.standard c (.string text :: rest)) := by
  intro h
  have hparse : Juce.standard.parse "\x7b\"event\": \"looper_discovered\", \"data\": 5\x7d" =
      .obj [("event", .str "looper_discovered"), ("data", .int 5)] := by decide +kernel
  have hmalformed : Malformed Juce.standard
      "\x7b\"event\": \"looper_discovered\", \"data\": 5\x7d" := by
    rw [Malformed, hparse]
    exact .inr (.inl rfl)
  have hentry := (h {} _ [] hmalformed).loopers
  rw [oscArgumentsReceived, hparse] at hentry
  have hsome : (oscMessageReceived Juce.standard {}
      (.obj [("event", .str "looper_discovered"), ("data", .int 5)])).tracker.getLooper "" =
        some {} := by decide +kernel
  rw [LooperTracker.getLooper, hentry] at hsome
  cases hsome

/-! ### Two handlers, one object -/

/-- The discovery of an object. -/
def discovered (event : BridgeEvent) (data : Json) : BridgeEvent :=
  { event with event := "looper_discovered", data := data }

/-- The change of an object. -/
def changed (event : BridgeEvent) (data : Json) : BridgeEvent :=
  { event with event := "looper_state_changed", data := data }

theorem trackId_discoveredState {data : Json} (hobj : data.isObj = true) :
    (discoveredState J data).trackId = J.toText (property "track_id" data) := by
  rw [discoveredState, if_pos hobj]
  rfl

theorem trackId_changedState {data : Json} (hobj : data.isObj = true) :
    (changedState J data).trackId = J.toText (property "track_id" data) := by
  rw [changedState, if_pos hobj]
  rfl

/-- A value that is decoded as it is, and one that has a default for nothing. -/
theorem eq_ite_null_iff {α : Type} (decode : Json → α) (default : α) (value : Json) :
    (decode value = if value = .null then default else decode value) ↔
      (value = .null → decode .null = default) := by
  split
  · rename_i hnull
    rw [hnull, forall_prop_of_true rfl]
  · rename_i hsome
    exact iff_of_true rfl fun h => absurd h hsome

/-- The two decodings differ in the defaults of two fields. -/
theorem discoveredState_eq_changedState_iff {data : Json} (hobj : data.isObj = true) :
    discoveredState J data = changedState J data ↔
      (property "feedback" data = .null → J.toFloat .null = 1 / 2) ∧
        (property "reverse" data = .null → J.toBool .null = false) := by
  rw [discoveredState, if_pos hobj, changedState, if_pos hobj]
  simp only [LooperState.mk.injEq, true_and, and_true]
  exact and_congr (eq_ite_null_iff J.toFloat _ _) (eq_ite_null_iff J.toBool _ _)

/-- Without an entry both handlers store what they decoded. -/
theorem loopers_eq_iff_of_new {t : LooperTracker} {a b : LooperState}
    (hid : a.trackId = b.trackId) (hnew : t.getLooper b.trackId = none) :
    (t.addLooper a).loopers = (t.updateState b.trackId b).loopers ↔ a = b := by
  rw [LooperTracker.loopers_eq_iff]
  simp only [LooperTracker.getLooper_addLooper, LooperTracker.getLooper_updateState, hnew, hid]
  constructor
  · intro h
    have hentry := h b.trackId
    rw [if_pos rfl, if_pos rfl] at hentry
    exact Option.some.inj hentry
  · rintro rfl k
    rfl

/-- **Both handlers decode alike** what an object says, and an object that says nothing about
feedback differently. -/
theorem handlers_agree_iff (J : Juce) (hfloat : J.toFloat .null = 0)
    (hbool : J.toBool .null = false) (c : BridgeClient) (event : BridgeEvent) (data : Json)
    (hobj : data.isObj = true)
    (hnew : c.tracker.getLooper (J.toText (property "track_id" data)) = none) :
    (handleEvent J c (discovered event data)).tracker.loopers =
        (handleEvent J c (changed event data)).tracker.loopers ↔
      property "feedback" data ≠ .null := by
  have hdiscovered : (handleEvent J c (discovered event data)).tracker =
      c.tracker.addLooper (discoveredState J data) := rfl
  have hchanged : (handleEvent J c (changed event data)).tracker =
      c.tracker.updateState (changedState J data).trackId (changedState J data) := rfl
  rw [← trackId_changedState hobj] at hnew
  rw [hdiscovered, hchanged, loopers_eq_iff_of_new
    ((trackId_discoveredState hobj).trans (trackId_changedState hobj).symm) hnew,
    discoveredState_eq_changedState_iff hobj, hfloat, hbool]
  have hhalf : (0 : ℚ) ≠ 1 / 2 := by decide +kernel
  constructor
  · exact fun h hnull => hhalf (h.1 hnull)
  · exact fun h => ⟨fun hnull => absurd hnull h, fun _ => rfl⟩

theorem handlers_agree_half :
    (handleEvent .standard {} (discovered {}
        (.obj [("track_id", .str "0"), ("feedback", .float (.finite (1 / 2)))]))).tracker.loopers =
      (handleEvent .standard {} (changed {}
        (.obj [("track_id", .str "0"), ("feedback", .float (.finite (1 / 2)))]))).tracker.loopers :=
  (handlers_agree_iff .standard rfl rfl {} {} _ rfl (Std.ExtTreeMap.getElem?_empty)).mpr
    (by decide +kernel)

/-- **Feedback that is not there** is zero in a discovery, and one half in a change. -/
theorem not_handlers_agree : ¬∀ (c : BridgeClient) (event : BridgeEvent) (data : Json),
    data.isObj = true →
      c.tracker.getLooper (Juce.standard.toText (property "track_id" data)) = none →
        (handleEvent .standard c (discovered event data)).tracker.loopers =
          (handleEvent .standard c (changed event data)).tracker.loopers := by
  intro h
  have heq := h {} {} (.obj [("track_id", .str "0")]) rfl Std.ExtTreeMap.getElem?_empty
  have hdiscovered : ((handleEvent .standard {} (discovered {}
      (.obj [("track_id", .str "0")]))).tracker.getLooper "0").map LooperState.feedback =
        some 0 := by decide +kernel
  have hchanged : ((handleEvent .standard {} (changed {}
      (.obj [("track_id", .str "0")]))).tracker.getLooper "0").map LooperState.feedback =
        some (1 / 2) := by decide +kernel
  rw [LooperTracker.getLooper, heq] at hdiscovered
  rw [LooperTracker.getLooper, hdiscovered] at hchanged
  exact absurd hchanged (by decide +kernel)

end BridgeClient

end LooperControl
