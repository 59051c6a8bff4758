import LooperControl.System.Window

/-!
# The rows of a window

While a window is open, messages arrive and change the tracker, rows are expanded and clicked on,
and the timer refreshes the view. `reconciles_of_run` says that every refresh makes the rows agree
with the tracker and keeps those that it can keep, and that the controls of a row send the commands
for its id.

The invariant is `Sound`. What one refresh does to a row is `Made`.
-/

namespace LooperControl

namespace Window

open LooperListView LooperTrackComponent MessageProtocol

variable (J : Juce)

/-! ### What a refresh is to bring about -/

/-- A row shows a state. -/
structure Shows (looper : LooperState) (row : LooperTrackComponent) : Prop where
  state : row.state = looper ∧ row.detailSection.state = looper
  name : row.trackNameLabel = looper.trackName ++ " — " ++ looper.deviceName
  loopLength : row.detailSection.loopLengthLabel =
    if looper.loopLengthBars > 0 then toString looper.loopLengthBars ++ " bars" else "Free"
  cycleCount : row.detailSection.cycleCountLabel = "Cycle: " ++ toString looper.cycleCount
  button : row.transportButton.state = looper.state
  slider : row.detailSection.feedbackSlider.value = Slider.constrained looper.feedback

/-- What a click on the transport button of a row asks for: to stop, soon after another click, and
otherwise the state that comes next. -/
def targetState (looper : LooperState) (row : LooperTrackComponent) (now : ℤ) : String :=
  if now - row.transportButton.lastClickTime < doubleClickMs then
    LooperState.stateToString .stopped
  else TransportButton.getNextState looper.state

/-- The controls of a row send the four commands for the id of a looper: the transport button when
it is clicked at any time, undo and redo when they are clicked, and the slider when it is dragged to
another value, or says that it has changed. -/
structure Issues (p : LiveLooperProcessor) (looper : LooperState) (row : LooperTrackComponent) :
    Prop where
  transport : ∀ uuid now, asked J uuid p (row.touch (.transportClick now)).2 =
    p.send (createSetState J uuid looper.trackId (targetState looper row now))
  undo : ∀ uuid, asked J uuid p (row.touch .undoClick).2 =
    p.send (createUndo J uuid looper.trackId)
  redo : ∀ uuid, asked J uuid p (row.touch .redoClick).2 =
    p.send (createRedo J uuid looper.trackId)
  feedback : ∀ uuid value, Slider.constrained value ≠ Slider.constrained looper.feedback →
    asked J uuid p (row.touch (.drag value)).2 =
      p.send (createSetFeedback J uuid looper.trackId (Slider.constrained value))
  pending : ∀ uuid, asked J uuid p row.deliver.2 =
    p.send (createSetFeedback J uuid looper.trackId (Slider.constrained looper.feedback))

/-- Two views before and after a refresh. -/
structure Reconciled (p : LiveLooperProcessor) (before after : LooperListView) : Prop where
  keys : ∀ k : String, k ∈ after.trackComponents ↔ ∃ looper ∈ p.tracker.getAllLoopers,
    looper.trackId = k
  shown : ∀ (k : String) row, after.trackComponents[k]? = some row →
    ∃ looper, p.tracker.getLooper k = some looper ∧ looper.trackId = k ∧ Shows looper row ∧
      Issues J p looper row
  kept : ∀ (k : String) old row, before.trackComponents[k]? = some old →
    after.trackComponents[k]? = some row → row.ident = old.ident ∧ row.expanded = old.expanded
  made : ∀ (k : String) row, before.trackComponents[k]? = none →
    after.trackComponents[k]? = some row → row.expanded = false ∧ row.callbacks = .all ∧
      ∀ (k' : String) old, before.trackComponents[k']? = some old → old.ident ≠ row.ident
  label : after.emptyStateLabel = true ↔ ∀ k : String, k ∉ after.trackComponents

/-- Every refresh reconciles the rows with the tracker. -/
def Reconciles (w : Window) (e : Event) (w' : Window) : Prop :=
  e = .tick → ∃ before ∈ w.editor, ∃ after ∈ w'.editor,
    Reconciled J w.processor before.looperListView after.looperListView

/-! ### One refresh -/

variable {J} {p : LiveLooperProcessor} {w w' : Window}

theorem shows_setState (looper : LooperState) (row : LooperTrackComponent) :
    Shows looper (row.setState looper) where
  state := ⟨rfl, rfl⟩
  name := rfl
  loopLength := rfl
  cycleCount := rfl
  button := by
    rw [LooperTrackComponent.setState, TransportButton.setState_eq]
    rfl
  slider := by
    simp only [LooperTrackComponent.setState, ExpandableDetailSection.setState,
      ExpandableDetailSection.setTrackId, Slider.setValue]
    split
    · rename_i h
      exact h.symm
    · rfl

theorem shows_of_made {callbacks : Callbacks} {before : TrackComponents} {nextIdent : ℕ}
    {looper : LooperState} {row : LooperTrackComponent}
    (h : Made callbacks before nextIdent looper row) : Shows looper row := by
  -- Neither bounds nor callbacks are shown.
  rcases h with ⟨old, bounds, -, rfl⟩ | ⟨-, ident, bounds, -, rfl⟩
  · have hold := shows_setState looper old
    exact ⟨hold.state, hold.name, hold.loopLength, hold.cycleCount, hold.button, hold.slider⟩
  · have hnew := shows_setState looper { ident := ident }
    exact ⟨hnew.state, hnew.name, hnew.loopLength, hnew.cycleCount, hnew.button, hnew.slider⟩

/-- The callbacks of a row and of its controls are set. -/
structure Wired (row : LooperTrackComponent) : Prop where
  callbacks : row.callbacks = .all
  onClick : row.transportButton.onClick = true
  onUndo : row.detailSection.onUndo = true
  onRedo : row.detailSection.onRedo = true
  onFeedbackChange : row.detailSection.onFeedbackChange = true

/-- The slider may move. -/
theorem Wired.slide {row : LooperTrackComponent} (h : Wired row) (slider : Slider) :
    Wired { row with detailSection.feedbackSlider := slider } :=
  ⟨h.callbacks, h.onClick, h.onUndo, h.onRedo, h.onFeedbackChange⟩

/-- A state wires all controls of a row. -/
theorem wired_setState (looper : LooperState) {row : LooperTrackComponent}
    (h : row.callbacks = .all) : Wired (row.setState looper) :=
  ⟨h, rfl, rfl, rfl, rfl⟩

theorem wired_of_made {before : TrackComponents} {nextIdent : ℕ} {looper : LooperState}
    {row : LooperTrackComponent} (hbefore : ∀ (k : String) row, before[k]? = some row → Wired row)
    (h : Made .all before nextIdent looper row) : Wired row := by
  rcases h with ⟨old, bounds, hold, rfl⟩ | ⟨-, ident, bounds, -, rfl⟩
  · have hwired := wired_setState looper (hbefore _ old hold).callbacks
    exact ⟨hwired.callbacks, hwired.onClick, hwired.onUndo, hwired.onRedo, hwired.onFeedbackChange⟩
  · exact ⟨rfl, rfl, rfl, rfl, rfl⟩

/-- The controls of a row know the id of a looper. -/
theorem trackId_of_made {callbacks : Callbacks} {before : TrackComponents} {nextIdent : ℕ}
    {looper : LooperState} {row : LooperTrackComponent}
    (h : Made callbacks before nextIdent looper row) :
    row.transportButton.trackId = looper.trackId ∧ row.detailSection.trackId = looper.trackId := by
  rcases h with ⟨old, bounds, -, rfl⟩ | ⟨-, ident, bounds, -, rfl⟩ <;> exact ⟨rfl, rfl⟩

/-- What a row asks for when its slider says that it has changed. -/
theorem valueChanged_eq {row : LooperTrackComponent} (h : Wired row) : row.valueChanged =
    [.feedbackChange row.detailSection.trackId row.detailSection.feedbackSlider.value] := by
  rw [LooperTrackComponent.valueChanged, h.callbacks, ExpandableDetailSection.valueChanged,
    if_pos h.onFeedbackChange]
  rfl

/-- **The controls of a row**, once its callbacks are set, send commands for the id that they
know. -/
theorem issues_of_wired {looper : LooperState} {row : LooperTrackComponent} (hwired : Wired row)
    (hids : row.transportButton.trackId = looper.trackId ∧
      row.detailSection.trackId = looper.trackId)
    (hshows : Shows looper row) : Issues J p looper row where
  transport uuid now := by
    have hclicks : (row.transportButton.mouseDown now).2 =
        [(looper.trackId, targetState looper row now)] := by
      rw [TransportButton.mouseDown, targetState]
      simp only [TransportButton.click, hwired.onClick, if_true, hids.1, hshows.button]
      split <;> rfl
    rw [LooperTrackComponent.touch, transportClick, hwired.callbacks]
    simp only [hclicks, Callbacks.all, if_true, List.map_cons, List.map_nil]
    exact asked_singleton uuid p _
  undo uuid := by
    rw [LooperTrackComponent.touch, LooperTrackComponent.undoClick, hwired.callbacks,
      ExpandableDetailSection.undoClick, if_pos hwired.onUndo, hids.2]
    exact asked_singleton uuid p _
  redo uuid := by
    rw [LooperTrackComponent.touch, LooperTrackComponent.redoClick, hwired.callbacks,
      ExpandableDetailSection.redoClick, if_pos hwired.onRedo, hids.2]
    exact asked_singleton uuid p _
  feedback uuid value hvalue := by
    have hdragged : Wired { row with
        detailSection.feedbackSlider.value := Slider.constrained value } := hwired.slide _
    rw [LooperTrackComponent.touch, drag, hshows.slider, if_neg hvalue]
    rw [LooperTrackComponent.deliver, valueChanged_eq hdragged, ← hids.2]
    exact asked_singleton uuid p _
  pending uuid := by
    rw [LooperTrackComponent.deliver, valueChanged_eq hwired, hids.2, hshows.slider]
    exact asked_singleton uuid p _

/-- Every row that there is after a refresh was made for a looper of the tracker. -/
theorem exists_made {tracker : LooperTracker} {v : LooperListView} {k : String}
    {row : LooperTrackComponent} (hkeyed : LooperTracker.Keyed tracker)
    (hrow : (v.refreshFromTracker tracker).trackComponents[k]? = some row) :
    ∃ looper ∈ tracker.getAllLoopers, looper.trackId = k ∧
      Made v.callbacks v.trackComponents v.nextIdent looper row := by
  by_cases hk : k ∈ tracker.getAllLoopers.map LooperState.trackId
  · obtain ⟨looper, hmem, rfl⟩ := List.mem_map.mp hk
    obtain ⟨row', hrow', hmade⟩ := made_of_refreshFromTracker (v := v) hkeyed.nodup hmem
    obtain rfl := Option.some.inj (hrow.symm.trans hrow')
    exact ⟨looper, hmem, rfl, hmade⟩
  · rw [getElem?_refreshFromTracker_of_notMem hk] at hrow
    cases hrow

/-- What holds of an open view between events. -/
structure Ready (v : LooperListView) : Prop where
  callbacks : v.callbacks = .all
  numbered : Numbered v.trackComponents v.nextIdent
  wired : ∀ (k : String) row, v.trackComponents[k]? = some row → Wired row

/-- **One refresh** reconciles. -/
theorem reconciled_refreshFromTracker {v : LooperListView} (hkeyed : LooperTracker.Keyed p.tracker)
    (hv : Ready v) : Reconciled J p v (v.refreshFromTracker p.tracker) := by
  have hlisted := hkeyed.listed
  have hkeys : ∀ k : String, k ∈ (v.refreshFromTracker p.tracker).trackComponents ↔
      ∃ looper ∈ p.tracker.getAllLoopers, looper.trackId = k := by
    intro k
    rw [Std.ExtTreeMap.mem_iff_isSome_getElem?, Option.isSome_iff_exists]
    constructor
    · rintro ⟨row, hrow⟩
      obtain ⟨looper, hmem, hk, -⟩ := exists_made hkeyed hrow
      exact ⟨looper, hmem, hk⟩
    · rintro ⟨looper, hmem, rfl⟩
      obtain ⟨row, hrow, -⟩ := made_of_refreshFromTracker (v := v) hkeyed.nodup hmem
      exact ⟨row, hrow⟩
  refine ⟨hkeys, fun k row hrow => ?_, fun k old row hold hrow => ?_,
    fun k row hnone hrow => ?_, ?_⟩
  · obtain ⟨looper, hmem, rfl, hmade⟩ := exists_made hkeyed hrow
    have hshows := shows_of_made hmade
    have hids := trackId_of_made hmade
    rw [hv.callbacks] at hmade
    exact ⟨looper, (hlisted.lookup _ _).mpr ⟨hmem, rfl⟩, rfl, hshows,
      issues_of_wired (wired_of_made hv.wired hmade) hids hshows⟩
  · obtain ⟨looper, -, rfl, ⟨old', bounds, hold', rfl⟩ | ⟨hnone, -⟩⟩ :=
      exists_made hkeyed hrow
    · obtain rfl := Option.some.inj (hold.symm.trans hold')
      exact ⟨rfl, rfl⟩
    · exact absurd (hold.symm.trans hnone) nofun
  · obtain ⟨looper, -, rfl, ⟨old', bounds, hold', rfl⟩ | ⟨-, ident, bounds, hident, rfl⟩⟩ :=
      exists_made hkeyed hrow
    · exact absurd (hold'.symm.trans hnone) nofun
    · exact ⟨rfl, hv.callbacks,
        fun k' old hold => ((hv.numbered k' old hold).trans_le hident).ne⟩
  · simp only [hkeys]
    rw [refreshFromTracker_eq]
    simp [List.eq_nil_iff_forall_not_mem]

/-! ### Runs -/

/-- What holds between events. -/
structure Sound (w : Window) : Prop where
  keyed : LooperTracker.Keyed w.tracker
  ready : ∀ e ∈ w.editor, Ready e.looperListView

/-- A view without rows. -/
theorem ready_empty {v : LooperListView} (hcallbacks : v.callbacks = .all)
    (hempty : v.trackComponents = ∅) : Ready v := by
  have hnone : ∀ (P : LooperTrackComponent → Prop) (k : String) row,
      v.trackComponents[k]? = some row → P row := by
    intro P k row hrow
    rw [hempty, Std.ExtTreeMap.getElem?_empty] at hrow
    cases hrow
  exact ⟨hcallbacks, hnone _, hnone _⟩

theorem sound_opened : Sound opened where
  keyed := LooperTracker.keyed_of_isEmpty rfl
  ready e he := by
    obtain rfl := Option.some.inj he
    exact ready_empty rfl rfl

/-- A row is replaced by one with the same identity that is wired as it is. -/
theorem Ready.replace {v : LooperListView} (h : Ready v) {trackId : String}
    {old new : LooperTrackComponent} (hold : v.trackComponents[trackId]? = some old)
    (hident : new.ident = old.ident) (hwired : Wired old → Wired new) :
    Ready { v with trackComponents := v.trackComponents.insert trackId new } := by
  have hinsert : ∀ (P : LooperTrackComponent → Prop), P new →
      (∀ (k : String) row, v.trackComponents[k]? = some row → P row) →
      ∀ (k : String) row, (v.trackComponents.insert trackId new)[k]? = some row → P row := by
    intro P hnew hrows k row hrow
    rw [Std.ExtTreeMap.getElem?_insert] at hrow
    split at hrow
    · rw [← Option.some.inj hrow]
      exact hnew
    · exact hrows k row hrow
  exact ⟨h.callbacks, hinsert _ (hident ▸ h.numbered trackId old hold) h.numbered,
    hinsert _ (hwired (h.wired trackId old hold)) h.wired⟩

/-- A refresh keeps what holds between events. -/
theorem Ready.refreshFromTracker {tracker : LooperTracker} {v : LooperListView}
    (hkeyed : LooperTracker.Keyed tracker) (h : Ready v) :
    Ready (v.refreshFromTracker tracker) where
  callbacks := by
    rw [refreshFromTracker_eq]
    exact h.callbacks
  numbered := h.numbered.refreshFromTracker
  wired k row hrow := by
    obtain ⟨looper, -, -, hmade⟩ := exists_made hkeyed hrow
    rw [h.callbacks] at hmade
    exact wired_of_made h.wired hmade

/-- A touch leaves a row the one that it is, with its callbacks. -/
theorem touch_same (row : LooperTrackComponent) (g : Gesture) :
    (row.touch g).1.ident = row.ident ∧ (Wired row → Wired (row.touch g).1) := by
  cases g with
  | setExpanded expanded =>
    rw [touch, LooperTrackComponent.setExpanded]
    split
    · refine ⟨rfl, fun h => ?_⟩
      rcases expanded with _ | _ <;>
        exact ⟨h.callbacks, h.onClick, h.onUndo, h.onRedo, h.onFeedbackChange⟩
    · exact ⟨rfl, id⟩
  | transportClick now =>
    refine ⟨rfl, fun h => ⟨h.callbacks, ?_, h.onUndo, h.onRedo, h.onFeedbackChange⟩⟩
    rw [touch, LooperTrackComponent.transportClick, TransportButton.mouseDown]
    dsimp only
    split <;> exact h.onClick
  | undoClick => exact ⟨rfl, id⟩
  | redoClick => exact ⟨rfl, id⟩
  | drag value =>
    rw [touch, LooperTrackComponent.drag]
    split
    · exact ⟨rfl, id⟩
    · exact ⟨rfl, fun h => h.slide _⟩

/-- Something happens to a row, and leaves it the one that it is. -/
theorem Sound.onRow (h : Sound w) {uuid trackId : String} {row : LooperTrackComponent}
    (hrow : row ∈ w.row? trackId)
    {f : LooperTrackComponent → LooperTrackComponent × List RowRequest}
    (hf : (f row).1.ident = row.ident ∧ (Wired row → Wired (f row).1)) :
    Sound (w.onRow J uuid trackId f) := by
  obtain ⟨e, he, hold, heq⟩ := onRow_eq (J := J) uuid hrow f
  rw [heq]
  refine ⟨h.keyed, fun e' he' => ?_⟩
  obtain rfl := Option.some.inj he'
  exact (h.ready e he).replace hold hf.1 hf.2

/-- **The step lemma.** -/
theorem Sound.step (h : Sound w) {e : Event} (hstep : step J w e w') : Sound w' := by
  obtain ⟨⟨-, hcan⟩, rfl⟩ := hstep
  cases e with
  | prepareToPlay free uuid =>
    refine ⟨?_, h.ready⟩
    exact BridgeClient.keyed_use (J := J) (c := { tracker := w.processor.abandoned })
      (keyed_abandoned h.keyed) (.connect free uuid)
  | releaseResources => exact ⟨keyed_releaseResources h.keyed, h.ready⟩
  | use e => exact ⟨BridgeClient.keyed_use h.keyed e, h.ready⟩
  | openEditor =>
    rw [next]
    split
    · exact ⟨h.keyed, h.ready⟩
    · rename_i e p hcreate
      obtain ⟨rfl, rfl⟩ := LiveLooperEditor.eq_of_create hcreate
      refine ⟨h.keyed, fun e he => ?_⟩
      obtain rfl := Option.some.inj he
      exact ready_empty rfl rfl
  | closeEditor =>
    rw [next]
    split
    · exact h
    · exact ⟨h.keyed, nofun⟩
  | tick =>
    refine ⟨h.keyed, fun e he => ?_⟩
    obtain ⟨before, hbefore, rfl⟩ := Option.map_eq_some_iff.mp he
    have hready := h.ready before hbefore
    have hshown : Ready (before.looperListView.setConnected w.tracker.connected) :=
      ⟨hready.callbacks, hready.numbered, hready.wired⟩
    exact hshown.refreshFromTracker h.keyed
  | deliver uuid trackId =>
    obtain ⟨row, hrow, -⟩ := hcan
    exact h.onRow hrow ⟨rfl, fun hwired => hwired.slide _⟩
  | gesture uuid trackId g =>
    obtain ⟨row, hrow, -⟩ := hcan
    exact h.onRow hrow (touch_same row g)

/-- **Row reconciliation.** From an open window on, whatever arrives and is clicked on, every
refresh leaves the rows that the tracker calls for, with controls that send the commands for their
ids. -/
theorem reconciles_of_run {es : List Event} (h : Runs.Run (step J) opened es w) :
    Runs.Run (Runs.checked (Reconciles J) (step J)) opened es w := by
  refine h.checked_of (P := Sound) ?_ (fun w e w' hw hstep => hw.step hstep) sound_opened
  rintro w _ w' hw ⟨⟨-, hopen⟩, rfl⟩ rfl
  obtain ⟨before, hbefore⟩ := Option.isSome_iff_exists.mp hopen
  refine ⟨before, hbefore, before.timerCallback w.processor, ?_, ?_⟩
  · rw [next, hbefore]
    rfl
  · have hready := hw.ready before hbefore
    have h := reconciled_refreshFromTracker (J := J) (p := w.processor)
      (v := before.looperListView.setConnected w.tracker.connected) hw.keyed
      ⟨hready.callbacks, hready.numbered, hready.wired⟩
    exact ⟨h.keys, h.shown, h.kept, h.made, h.label⟩

/-- The event that a looper has been discovered on the first track. -/
def discoveredText : String :=
  "\x7b\"event\": \"looper_discovered\", \"data\": \x7b\"track_id\": \"0\"\x7d\x7d"

/-- An open window whose client has connected, that has received the event and made the row. -/
def withRow : Window :=
  next .standard (next .standard (next .standard opened (.prepareToPlay (fun _ => true) "u"))
    (.use (.receive [.string discoveredText]))) .tick

/-- The window with the row expanded. -/
def withExpandedRow : Window := next .standard withRow (.gesture "v" "0" (.setExpanded true))

/-- A looper is discovered, its row is made, expanded and clicked on, and the timer ticks again. -/
theorem reconciles_session : ∃ w, Runs.Run (Runs.checked (Reconciles .standard) (step .standard))
    opened [.prepareToPlay (fun _ => true) "u", .use (.receive [.string discoveredText]), .tick,
      .gesture "v" "0" (.setExpanded true), .gesture "w" "0" .undoClick, .tick] w := by
  have hrow : (withRow.row? "0").isSome = true := by decide +kernel
  have hexpanded : (withExpandedRow.row? "0").map LooperTrackComponent.expanded = some true := by
    decide +kernel
  obtain ⟨row, hrow⟩ := Option.isSome_iff_exists.mp hrow
  obtain ⟨row', hrow', hexpanded⟩ := Option.map_eq_some_iff.mp hexpanded
  have hrun : Runs.Run (step .standard) opened [.prepareToPlay (fun _ => true) "u",
      .use (.receive [.string discoveredText]), .tick] withRow :=
    .cons ⟨⟨rfl, trivial⟩, rfl⟩ (.cons ⟨⟨rfl, rfl, rfl⟩, rfl⟩
      (.cons ⟨⟨rfl, rfl⟩, rfl⟩ (.nil withRow)))
  have hclick : Runs.Run (step .standard) withExpandedRow [.gesture "w" "0" .undoClick, .tick]
      (next .standard (next .standard withExpandedRow (.gesture "w" "0" .undoClick)) .tick) :=
    .cons ⟨⟨rfl, row', hrow', hexpanded⟩, rfl⟩ (.cons ⟨⟨rfl, rfl⟩, rfl⟩ (.nil _))
  exact ⟨_, reconciles_of_run (hrun.append (.cons ⟨⟨rfl, row, hrow, trivial⟩, rfl⟩ hclick))⟩

end Window

end LooperControl
