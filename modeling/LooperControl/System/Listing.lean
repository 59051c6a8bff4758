import LooperControl.Plugin.BridgeClient
import LooperControl.Plugin.JuceJson

/-!
# What the tracker lists

The tracker keeps its entries under keys, and hands them out as a list of states that carry an id
of their own. That the two are the same is an invariant (`Keyed`) which every handler has to keep,
also for data it could make little of. With it the list is a faithful picture of the map:

* `Keyed.listed`: the ids are listed in strictly increasing order, none is missing, and a lookup
  finds what is listed.
* `listed_of_uses`: this holds after any messages, connections and counted cycles.
-/

namespace LooperControl

open MessageProtocol

namespace LooperTracker

variable {t : LooperTracker}

/-- Every entry stands under its own track id. -/
def Keyed (t : LooperTracker) : Prop := ∀ k state, t.getLooper k = some state → state.trackId = k

/-- The list of a tracker is a picture of its map. -/
structure Listed (t : LooperTracker) : Prop where
  ordered : t.getAllLoopers.Pairwise fun a b => a.trackId < b.trackId
  count : t.getAllLoopers.length = t.getLooperCount
  lookup : ∀ trackId state, t.getLooper trackId = some state ↔
    state ∈ t.getAllLoopers ∧ state.trackId = trackId

theorem mem_getAllLoopers {state : LooperState} :
    state ∈ t.getAllLoopers ↔ ∃ k, t.getLooper k = some state := by
  simp only [getAllLoopers, List.mem_map, Prod.exists, exists_eq_right,
    Std.ExtTreeMap.mem_toList_iff_getElem?_eq_some, getLooper]

/-- **A keyed tracker is listed.** -/
theorem Keyed.listed (h : Keyed t) : Listed t where
  ordered := by
    rw [getAllLoopers, List.pairwise_map]
    refine Std.ExtTreeMap.ordered_keys_toList.imp_of_mem fun {a b} ha hb hab => ?_
    rw [h a.1 a.2 (Std.ExtTreeMap.mem_toList_iff_getElem?_eq_some.mp ha),
      h b.1 b.2 (Std.ExtTreeMap.mem_toList_iff_getElem?_eq_some.mp hb)]
    exact compareOfLessAndEq_eq_lt.mp hab
  count := by
    rw [getAllLoopers, List.length_map, Std.ExtTreeMap.length_toList]
    rfl
  lookup trackId state := by
    rw [mem_getAllLoopers]
    constructor
    · intro hk
      exact ⟨⟨trackId, hk⟩, h trackId state hk⟩
    · rintro ⟨⟨k, hk⟩, rfl⟩
      rwa [h k state hk]

/-- A keyed tracker lists no id twice. -/
theorem Keyed.nodup (h : Keyed t) : (t.getAllLoopers.map LooperState.trackId).Nodup := by
  refine List.pairwise_map.mpr (h.listed.ordered.imp fun hlt heq => ?_)
  rw [heq] at hlt
  exact String.lt_irrefl _ hlt

/-! ### What keeps the entries under their ids -/

theorem keyed_of_isEmpty (h : t.loopers = ∅) : Keyed t := by
  intro k state hk
  rw [getLooper, h, Std.ExtTreeMap.getElem?_empty] at hk
  cases hk

theorem Keyed.addLooper (h : Keyed t) (state : LooperState) : Keyed (t.addLooper state) := by
  intro k held hk
  rw [getLooper_addLooper] at hk
  split at hk
  · rename_i hkey
    rw [← Option.some.inj hk, hkey]
  · exact h k held hk

theorem Keyed.removeLooper (h : Keyed t) (trackId : String) : Keyed (t.removeLooper trackId) := by
  intro k held hk
  rw [getLooper_removeLooper] at hk
  split at hk
  · cases hk
  · exact h k held hk

/-- Key and state are two arguments of an update. They have to agree. -/
theorem Keyed.updateState (h : Keyed t) (state : LooperState) :
    Keyed (t.updateState state.trackId state) := by
  intro k held hk
  rw [getLooper_updateState] at hk
  split at hk
  · rename_i hkey
    rw [← Option.some.inj hk, hkey]
    -- What is left is the state itself or one that compares equal to it.
    rcases updated_eq_or_same (t.getLooper state.trackId) state with heq | hsame
    · rw [heq]
    · rw [(LooperState.eq_of_same hsame).1]
  · exact h k held hk

theorem Keyed.incrementCycleCount (h : Keyed t) (trackId : String) :
    Keyed (t.incrementCycleCount trackId) := by
  intro k held hk
  rw [getLooper_incrementCycleCount] at hk
  split at hk
  · obtain ⟨old, hold, rfl⟩ := Option.map_eq_some_iff.mp hk
    exact h k old hold
  · exact h k held hk

theorem Keyed.setConnected (h : Keyed t) (connected : Bool) : Keyed (t.setConnected connected) := by
  intro k state hk
  rw [getLooper, setConnected_loopers] at hk
  exact h k state hk

end LooperTracker

namespace BridgeClient

open LooperTracker

/-- What a client and its tracker are used for. -/
inductive Use
  | receive (args : List OscValue)
  | connect (free : ℕ → Bool) (uuid : String)
  | disconnect
  | incrementCycleCount (trackId : String)

/-- The client after a use. -/
def use (J : Juce) (c : BridgeClient) : Use → BridgeClient
  | .receive args => oscArgumentsReceived J c args
  | .connect free uuid => (connect J free uuid c).2.1
  | .disconnect => c.disconnect
  | .incrementCycleCount trackId => { c with tracker := c.tracker.incrementCycleCount trackId }

variable {J : Juce} {c : BridgeClient}

/-- Each handler writes a state under the id it carries, whatever it could make of the data. -/
theorem keyed_handleEvent (h : Keyed c.tracker) (event : BridgeEvent) :
    Keyed (handleEvent J c event).tracker := by
  unfold handleEvent
  split
  · exact h.addLooper _
  split
  · exact h.updateState _
  split
  · rw [handleLooperRemoved]
    split
    · exact h.removeLooper _
    · exact h
  split
  · rw [tracker_handleResult]
    exact h
  · exact h

theorem keyed_oscMessageReceived (h : Keyed c.tracker) (parsed : Json) :
    Keyed (oscMessageReceived J c parsed).tracker := by
  rw [oscMessageReceived]
  split
  · exact keyed_handleEvent h _
  · dsimp only
    split
    · rw [tracker_handleResult]
      exact h
    · exact h

theorem keyed_use (h : Keyed c.tracker) (e : Use) : Keyed (use J c e).tracker := by
  cases e with
  | receive args =>
    match args with
    | [] => exact h
    | .string text :: _ => exact keyed_oscMessageReceived h _
    | .other :: _ => exact keyed_oscMessageReceived h _
  | connect free uuid =>
    rw [use, connect, bindToPortRange]
    rcases List.find? free (List.range' pluginPortStart 10) with _ | port
    · exact h
    · exact h.setConnected true
  | disconnect => exact h.setConnected false
  | incrementCycleCount trackId => exact h.incrementCycleCount trackId

theorem keyed_uses (h : Keyed c.tracker) (es : List Use) : Keyed (es.foldl (use J) c).tracker := by
  induction es generalizing c with
  | nil => exact h
  | cons e es ih => exact ih (keyed_use h e)

/-- **The tracker's representation invariant.** Whatever a client with an empty tracker is used
for, its entries stand under their ids, and the tracker lists them by their ids. -/
theorem listed_of_uses (J : Juce) {c : BridgeClient} (hc : c.tracker.loopers = ∅) (es : List Use) :
    Keyed (es.foldl (use J) c).tracker ∧ Listed (es.foldl (use J) c).tracker :=
  have hkeyed := keyed_uses (keyed_of_isEmpty hc) es
  ⟨hkeyed, hkeyed.listed⟩

/-- A new client that receives a discovery without data, a message without arguments and a count. -/
theorem listed_malformed :
    Listed ([.receive [.string "\x7b\"event\": \"looper_discovered\"\x7d"], .receive [],
      .incrementCycleCount ""].foldl (use .standard) {}).tracker :=
  (listed_of_uses .standard (c := {}) rfl _).2

end BridgeClient

end LooperControl
