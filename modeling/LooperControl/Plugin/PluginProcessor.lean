import LooperControl.Plugin.BridgeClient

/-!
# `LiveLooperProcessor` and its editors

The processor owns the tracker for as long as it lives. Between `prepareToPlay` and
`releaseResources` it also owns a client that refers to the tracker. Editors come and go, and both
the processor and each new editor register themselves as the tracker's one change callback. The
processor captures itself in its callback, and so does an editor: the owner of a callback is
`processorId` or the identity of an editor, of which no two are the same.
-/

namespace LooperControl

/-- The identity of the processor. -/
def processorId : ℕ := 0

/-- `LiveLooperProcessor`, with the editors that exist. The tracker is kept in `client`, also while
there is no client (`hasClient`). -/
structure LiveLooperProcessor where
  client : BridgeClient := {}
  hasClient : Bool := false
  editors : List ℕ := []
  nextEditor : ℕ := processorId + 1

namespace LiveLooperProcessor

/-- The processor's tracker: `getLooperTracker`. -/
def tracker (p : LiveLooperProcessor) : LooperTracker := p.client.tracker

/-- `getBridgeClient`. -/
def getBridgeClient (p : LiveLooperProcessor) : Option BridgeClient :=
  if p.hasClient then some p.client else none

/-- The tracker once the client is destroyed, whose destructor disconnects. -/
def abandoned (p : LiveLooperProcessor) : LooperTracker :=
  if p.hasClient then p.client.disconnect.tracker else p.tracker

variable (J : Juce)

/-- `prepareToPlay`: a client in place of the one before connects, and the processor registers. -/
def prepareToPlay (free : ℕ → Bool) (uuid : String) (p : LiveLooperProcessor) :
    LiveLooperProcessor :=
  let client := (BridgeClient.connect J free uuid { tracker := p.abandoned }).2.1
  { p with
    client := { client with tracker := client.tracker.onStateChange processorId }
    hasClient := true }

/-- `releaseResources`: the client disconnects and is destroyed. -/
def releaseResources (p : LiveLooperProcessor) : LiveLooperProcessor :=
  if p.hasClient then
    { p with
      client := { tracker := p.client.disconnect.disconnect.tracker }
      hasClient := false }
  else p

/-- A new editor registers. -/
def registerEditor (p : LiveLooperProcessor) : LiveLooperProcessor :=
  { p with
    client := { p.client with tracker := p.tracker.onStateChange p.nextEditor }
    editors := p.nextEditor :: p.editors
    nextEditor := p.nextEditor + 1 }

/-- `LiveLooperEditor::~LiveLooperEditor`: the timer is stopped, and the editor is gone. -/
def destroyEditor (editor : ℕ) (p : LiveLooperProcessor) : LiveLooperProcessor :=
  { p with editors := p.editors.erase editor }

/-- An object that a callback can capture has not been destroyed. -/
def Alive (p : LiveLooperProcessor) (owner : ℕ) : Prop :=
  owner = processorId ∨ owner ∈ p.editors

end LiveLooperProcessor

end LooperControl
