import LooperControl.Plugin.LooperTracker

/-!
# A tolerance that does not accumulate

`updateState` ignores a state that compares equal to the one it has, and equality allows feedback a
tolerance. A row of small steps can therefore be ignored step by step. `getLooper_call` shows the
tracker to be a store that ignores small changes, and `withinTolerance_lastPushed` is what that
means for it: an ignored state is compared with the entry itself, not with the state before, so
that the entry stays within one tolerance of the state pushed last.
-/

namespace LooperControl

/-- Two states agree but for feedback, which differs by less than the tolerance. -/
structure LooperState.WithinTolerance (held pushed : LooperState) : Prop where
  fields : held = { pushed with feedback := held.feedback }
  feedback : |held.feedback - pushed.feedback| < 1 / 1000

theorem LooperState.WithinTolerance.refl (a : LooperState) : a.WithinTolerance a :=
  ⟨rfl, (eq_of_same (same_self a)).2⟩

theorem LooperState.WithinTolerance.of_same {a b : LooperState} (h : a.same b = true) :
    a.WithinTolerance b :=
  ⟨(eq_of_same h).1, (eq_of_same h).2⟩

namespace LooperTracker

/-- The calls that push a state or remove one. A state is updated under its own id. -/
inductive Call
  | addLooper (state : LooperState)
  | updateState (state : LooperState)
  | removeLooper (trackId : String)

/-- The tracker after a call. -/
def call (t : LooperTracker) : Call → LooperTracker
  | .addLooper state => t.addLooper state
  | .updateState state => t.updateState state.trackId state
  | .removeLooper trackId => t.removeLooper trackId

/-- A call as a write into a store. -/
def Call.toWrite : Call → Store.Write String LooperState
  | addLooper state => .put state.trackId state
  | updateState state => .update state.trackId state
  | removeLooper trackId => .remove trackId

/-- **The tracker is a store that ignores small changes.** -/
theorem getLooper_call (t : LooperTracker) (e : Call) :
    (t.call e).getLooper = Store.write LooperState.same t.getLooper e.toWrite := by
  funext k
  cases e with
  | addLooper state =>
    rw [Call.toWrite, Store.write, Store.put_apply]
    exact getLooper_addLooper t state k
  | updateState state =>
    rw [Call.toWrite, Store.write, Store.put_apply, ← updated_eq_settle]
    exact getLooper_updateState t state.trackId state k
  | removeLooper trackId =>
    rw [Call.toWrite, Store.write, Function.update_apply]
    exact getLooper_removeLooper t trackId k

theorem getLooper_calls (t : LooperTracker) (es : List Call) :
    (es.foldl call t).getLooper =
      (es.map Call.toWrite).foldl (Store.write LooperState.same) t.getLooper := by
  induction es generalizing t with
  | nil => rfl
  | cons e es ih => rw [List.foldl_cons, ih, getLooper_call, List.map_cons, List.foldl_cons]

/-- The states pushed last, id by id. -/
def lastPushed (es : List Call) : Store String LooperState := Store.pushed (es.map Call.toWrite)

/-- **The tolerance does not accumulate.** An entry is within the tolerance of the state pushed last
for its id, however many pushes have been ignored. An entry that nothing has been pushed for is the
one the tracker started with. -/
theorem withinTolerance_lastPushed (t : LooperTracker) (es : List Call) {k : String}
    {held : LooperState} (h : (es.foldl call t).getLooper k = some held) :
    (∃ state, lastPushed es k = some state ∧ held.WithinTolerance state) ∨
      (lastPushed es k = none ∧ t.getLooper k = some held) := by
  rw [getLooper_calls] at h
  rcases Store.near_pushed t.getLooper _ k held h with ⟨state, hlast, rfl | hsame⟩ | hnone
  · exact .inl ⟨held, hlast, .refl held⟩
  · exact .inl ⟨state, hlast, .of_same hsame⟩
  · exact .inr hnone

/-- Three steps of which two are ignored. -/
def smallSteps : List Call :=
  [.addLooper { trackId := "0", feedback := 1 / 2 },
    .updateState { trackId := "0", feedback := 5009 / 10000 },
    .updateState { trackId := "0", feedback := 5018 / 10000 },
    .updateState { trackId := "0", feedback := 5027 / 10000 }]

/-- After the small steps the entry lags behind the last one, and by less than the tolerance. -/
theorem withinTolerance_smallSteps :
    ∃ held state, (smallSteps.foldl call {}).getLooper "0" = some held ∧
      lastPushed smallSteps "0" = some state ∧ held.feedback < state.feedback ∧
        held.WithinTolerance state := by
  have hheld : (smallSteps.foldl call {}).getLooper "0" =
      some { trackId := "0", feedback := 5018 / 10000 } := by
    rw [getLooper_calls]
    decide +kernel
  have hlast : lastPushed smallSteps "0" = some { trackId := "0", feedback := 5027 / 10000 } := by
    decide +kernel
  rcases withinTolerance_lastPushed {} smallSteps hheld with ⟨state, hstate, hnear⟩ | ⟨hnone, -⟩
  · obtain rfl := Option.some.inj (hlast.symm.trans hstate)
    exact ⟨_, _, hheld, hlast, by decide +kernel, hnear⟩
  · cases hlast.symm.trans hnone

end LooperTracker

end LooperControl
