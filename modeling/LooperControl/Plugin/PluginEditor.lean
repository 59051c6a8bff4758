import LooperControl.Plugin.LooperListView
import LooperControl.Plugin.PluginProcessor

/-!
# `LiveLooperEditor`

The constructor sets the size of the editor before it makes the view. A JUCE that resizes at once
calls `resized` there, which uses the pointer to the view while it is null, and this ends the
process: `create` is partial. With a JUCE that resizes later the editor is made with a view whose
four callbacks send commands through the processor's client, if it has one.

The timer of an editor refreshes the view from the processor's tracker. Between the ticks the user
touches the controls of a row, and JUCE delivers what is pending, which of all controls only a
slider can have.
-/

namespace LooperControl

/-- `LiveLooperEditor`, with its identity. The processor that it refers to is an argument. -/
structure LiveLooperEditor where
  ident : ℕ
  looperListView : LooperListView

namespace LiveLooperEditor

/-- `resized`: the view gets the size of the editor. The pointer to it must not be null. -/
def resized (width height : ℤ) (looperListView : Option LooperListView) : Option LooperListView :=
  looperListView.map fun v => { v with width := width, height := height }

variable (J : Juce)

/-- `setSize`, with a pointer to the view that may be null. -/
def setSize (width height : ℤ) (looperListView : Option LooperListView) :
    Option (Option LooperListView) :=
  if J.resizesAtOnce then (resized width height looperListView).map some else some looperListView

/-- The constructor: the size is set, the view is made and its callbacks are set, and the editor
registers. The view has the size of the editor already. -/
def create (p : LiveLooperProcessor) : Option (LiveLooperEditor × LiveLooperProcessor) := do
  -- There is no view yet.
  let _ ← setSize J 400 500 none
  let view : LooperListView := { callbacks := .all }
  pure ({ ident := p.nextEditor, looperListView := view }, p.registerEditor)

/-- The destructor, which leaves the processor. -/
def destroy (p : LiveLooperProcessor) (e : LiveLooperEditor) : LiveLooperProcessor :=
  p.destroyEditor e.ident

/-- `timerCallback`. -/
def timerCallback (p : LiveLooperProcessor) (e : LiveLooperEditor) : LiveLooperEditor :=
  { e with
    looperListView :=
      (e.looperListView.setConnected p.tracker.connected).refreshFromTracker p.tracker }

/-- The callbacks of the view: what leaves when one is called. -/
def call (uuid : String) (p : LiveLooperProcessor) (request : RowRequest) : List Datagram :=
  match p.getBridgeClient with
  | none => []
  | some bridge =>
    match request with
    | .transportClick trackId targetState => bridge.sendSetState J uuid trackId targetState
    | .undoClick trackId => bridge.sendUndo J uuid trackId
    | .redoClick trackId => bridge.sendRedo J uuid trackId
    | .feedbackChange trackId value => bridge.sendSetFeedback J uuid trackId value

/-- Something happens to the row of an id, if there is one. -/
def onRow (trackId : String) (f : LooperTrackComponent → LooperTrackComponent × List RowRequest)
    (e : LiveLooperEditor) : LiveLooperEditor × List RowRequest :=
  match e.looperListView.trackComponents[trackId]? with
  | none => (e, [])
  | some row => ({ e with looperListView.trackComponents :=
      e.looperListView.trackComponents.insert trackId (f row).1 }, (f row).2)

/-- An editor that is made has registered, and its view has its four callbacks and no row. -/
theorem eq_of_create {J : Juce} {p q : LiveLooperProcessor} {e : LiveLooperEditor}
    (h : create J p = some (e, q)) :
    e = ⟨p.nextEditor, { callbacks := .all }⟩ ∧ q = p.registerEditor := by
  rw [create, setSize] at h
  split at h
  · cases h
  · cases h
    exact ⟨rfl, rfl⟩

end LiveLooperEditor

/-- `LiveLooperProcessor::createEditor`. -/
def LiveLooperProcessor.createEditor (J : Juce) (p : LiveLooperProcessor) :
    Option (LiveLooperEditor × LiveLooperProcessor) := LiveLooperEditor.create J p

end LooperControl
