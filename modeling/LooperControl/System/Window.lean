import LooperControl.Lib.Runs
import LooperControl.Plugin.PluginEditor
import LooperControl.System.Listing

/-!
# A plugin and its window

While a plugin is loaded, its client is used, its window is opened and closed, the timer of the
window ticks, the user touches the controls of a row, and JUCE delivers what is pending. A plugin
starts as `loaded`.

A window with a JUCE that resizes at once is never open: the process ends when it is opened, and
only what has been sent is left. What the rows of a window do is the matter of its view, and is
stated from `opened` on, a window with a view whose callbacks are set, however it came to be.
-/

namespace LooperControl

/-- What leaves when the client, if there is one, is given a message. -/
def LiveLooperProcessor.send (p : LiveLooperProcessor) (msg : Message) : List Datagram :=
  match p.getBridgeClient with
  | none => []
  | some bridge => bridge.sendCommand msg

/-- What the user does to a row. -/
inductive Gesture
  | setExpanded (expanded : Bool)
  | transportClick (now : ℤ)
  | undoClick
  | redoClick
  | drag (value : ℚ)

/-- The controls of the detail section are there while the row is expanded. -/
def Gesture.Possible (row : LooperTrackComponent) : Gesture → Prop
  | .undoClick | .redoClick | .drag _ => row.expanded = true
  | _ => True

/-- The row after a gesture, and what it asks for. -/
def LooperTrackComponent.touch (row : LooperTrackComponent) :
    Gesture → LooperTrackComponent × List RowRequest
  | .setExpanded expanded => (row.setExpanded expanded, [])
  | .transportClick now => row.transportClick now
  | .undoClick => (row, row.undoClick)
  | .redoClick => (row, row.redoClick)
  | .drag value => row.drag value

/-- A plugin: its processor, its editor while the window is open, the datagrams that have left, and
whether the process has ended. -/
structure Window where
  processor : LiveLooperProcessor := {}
  editor : Option LiveLooperEditor := none
  sent : List Datagram := []
  ended : Bool := false

namespace Window

open MessageProtocol

variable (J : Juce)

/-- What happens while a plugin is loaded: audio is prepared and released, the client and its
tracker are used, the window is opened and closed, its timer ticks, JUCE delivers what is pending in
a row, or the user touches a row. -/
inductive Event
  | prepareToPlay (free : ℕ → Bool) (uuid : String)
  | releaseResources
  | use (e : BridgeClient.Use)
  | openEditor
  | closeEditor
  | tick
  | deliver (uuid trackId : String)
  | gesture (uuid trackId : String) (g : Gesture)

/-- A plugin that has just been loaded. -/
def loaded : Window := {}

/-- A plugin that has just been loaded, with an open window. -/
def opened : Window where
  processor := ({} : LiveLooperProcessor).registerEditor
  editor := some ⟨processorId + 1, { callbacks := .all }⟩

/-- The tracker. -/
def tracker (w : Window) : LooperTracker := w.processor.tracker

/-- The row of an id. -/
def row? (w : Window) (trackId : String) : Option LooperTrackComponent :=
  w.editor.bind fun e => e.looperListView.trackComponents[trackId]?

/-- What a client sends when it is used. -/
def sentByUse (c : BridgeClient) : BridgeClient.Use → List Datagram
  | .connect free uuid => (BridgeClient.connect J free uuid c).2.2
  | _ => []

/-- What leaves when a row asks for something. -/
def asked (uuid : String) (p : LiveLooperProcessor) (requests : List RowRequest) : List Datagram :=
  requests.flatMap (LiveLooperEditor.call J uuid p)

/-- Something happens to the row of an id. -/
def onRow (uuid trackId : String)
    (f : LooperTrackComponent → LooperTrackComponent × List RowRequest) (w : Window) : Window :=
  match w.editor with
  | none => w
  | some e =>
    { w with
      editor := some (e.onRow trackId f).1
      sent := w.sent ++ asked J uuid w.processor (e.onRow trackId f).2 }

/-- The plugin after an event. -/
def next (w : Window) : Event → Window
  | .prepareToPlay free uuid =>
    { w with
      processor := w.processor.prepareToPlay J free uuid
      sent := w.sent ++ sentByUse J { tracker := w.processor.abandoned } (.connect free uuid) }
  | .releaseResources => { w with processor := w.processor.releaseResources }
  | .use e =>
    { w with
      processor.client := w.processor.client.use J e
      sent := w.sent ++ sentByUse J w.processor.client e }
  | .openEditor =>
    match w.processor.createEditor J with
    | none => { w with ended := true }
    | some (e, p) => { w with processor := p, editor := some e }
  | .closeEditor =>
    match w.editor with
    | none => w
    | some e => { w with processor := e.destroy w.processor, editor := none }
  | .tick => { w with editor := w.editor.map (LiveLooperEditor.timerCallback w.processor) }
  | .deliver uuid trackId => w.onRow J uuid trackId LooperTrackComponent.deliver
  | .gesture uuid trackId g => w.onRow J uuid trackId fun row => row.touch g

/-- Nothing happens in a process that has ended. A client can be used if there is one, messages
reach it while it is listening, and what is delivered must be pending. -/
def CanHappen (w : Window) (e : Event) : Prop :=
  w.ended = false ∧
    match e with
    | .use (.receive _) => w.processor.hasClient = true ∧ w.processor.client.listening = true
    | .use _ => w.processor.hasClient = true
    | .openEditor => w.editor = none
    | .closeEditor | .tick => w.editor.isSome = true
    | .deliver _ trackId => ∃ row ∈ w.row? trackId,
        row.detailSection.feedbackSlider.pending = true
    | .gesture _ trackId g => ∃ row ∈ w.row? trackId, g.Possible row
    | _ => True

/-- An event as a step. -/
def step (w : Window) (e : Event) (w' : Window) : Prop := CanHappen w e ∧ next J w e = w'

variable {J} {w w' : Window}

theorem keyed_abandoned {p : LiveLooperProcessor} (h : LooperTracker.Keyed p.tracker) :
    LooperTracker.Keyed p.abandoned := by
  rw [LiveLooperProcessor.abandoned]
  split
  · exact h.setConnected false
  · exact h

theorem keyed_releaseResources {p : LiveLooperProcessor} (h : LooperTracker.Keyed p.tracker) :
    LooperTracker.Keyed p.releaseResources.tracker := by
  rw [LiveLooperProcessor.releaseResources]
  split
  · exact (LooperTracker.Keyed.setConnected h false).setConnected false
  · exact h

variable (J) in
/-- The message that a call of one of the view's callbacks sends. -/
def messageOf (uuid : String) : RowRequest → Message
  | .transportClick trackId targetState => createSetState J uuid trackId targetState
  | .undoClick trackId => createUndo J uuid trackId
  | .redoClick trackId => createRedo J uuid trackId
  | .feedbackChange trackId value => createSetFeedback J uuid trackId value

theorem call_eq_send (uuid : String) (p : LiveLooperProcessor) (request : RowRequest) :
    LiveLooperEditor.call J uuid p request = p.send (messageOf J uuid request) := by
  rw [LiveLooperEditor.call, LiveLooperProcessor.send]
  rcases p.getBridgeClient with _ | bridge
  · rfl
  · cases request <;> rfl

theorem asked_singleton (uuid : String) (p : LiveLooperProcessor) (request : RowRequest) :
    asked J uuid p [request] = p.send (messageOf J uuid request) := by
  rw [asked, List.flatMap_singleton, call_eq_send]

/-- The row that an event is about. -/
theorem onRow_eq (uuid : String) {trackId : String} {row : LooperTrackComponent}
    (h : row ∈ w.row? trackId) (f : LooperTrackComponent → LooperTrackComponent × List RowRequest) :
    ∃ e ∈ w.editor, e.looperListView.trackComponents[trackId]? = some row ∧
      w.onRow J uuid trackId f = { w with
        editor := some { e with looperListView.trackComponents :=
          e.looperListView.trackComponents.insert trackId (f row).1 }
        sent := w.sent ++ asked J uuid w.processor (f row).2 } := by
  obtain ⟨e, he, hrow⟩ := Option.bind_eq_some_iff.mp h
  refine ⟨e, he, hrow, ?_⟩
  rw [onRow, he]
  simp only [LiveLooperEditor.onRow, hrow]

end Window

end LooperControl
