import LooperControl.Lib.Rect

/-!
# Where the controls are

The `resized` of the three containers: where each puts its children, inside the bounds that it has.
A container in which nothing is shown leaves some children where they were.

Numbers are exact, and a number that is no integer is rounded towards zero, as in the conversion
to `int`. The `float` product `width * 0.6f` is the exact one up to rounding: from a width of 3495258
on the width of a name may differ from its three fifths by a pixel.
-/

namespace LooperControl

/-- `getLocalBounds`. Every call makes a new rectangle. -/
def localBounds (width height : ℤ) : Rect := ⟨0, 0, width, height⟩

/-- `LooperTrackComponent::compactHeight`. -/
def compactHeight : ℤ := 44

/-- `LooperTrackComponent::detailHeight`. -/
def detailHeight : ℤ := 40

/-- The children of a `LooperListView`. -/
structure ListLayout where
  headerBar : Rect
  viewport : Rect

/-- `LooperListView::resized`. The strip is taken from a rectangle of its own. -/
def ListLayout.resized (width height : ℤ) : ListLayout where
  headerBar := ((localBounds width height).removeFromTop 32).1
  viewport := localBounds width height

/-- The children of a `LooperTrackComponent`. -/
structure RowLayout where
  trackNameLabel : Rect := ⟨0, 0, 0, 0⟩
  transportButton : Rect := ⟨0, 0, 0, 0⟩
  detailSection : Rect := ⟨0, 0, 0, 0⟩

/-- The name and the button in the bounds of a compact row. -/
def RowLayout.compact (compactBounds : Rect) (before : RowLayout) : RowLayout :=
  let nameWidth := (compactBounds.width * 3).tdiv 5
  let (name, rest) := compactBounds.removeFromLeft nameWidth
  { before with
    trackNameLabel := name
    transportButton := (rest.removeFromRight 36).1.reduced 4 }

/-- `LooperTrackComponent::resized`. -/
def RowLayout.resized (expanded : Bool) (width height : ℤ) (before : RowLayout) : RowLayout :=
  if expanded then
    let compactBounds := ((localBounds width height).removeFromTop compactHeight).1
    { compact compactBounds before with
      detailSection :=
        ((localBounds width height).removeFromTop compactHeight).1.withHeight detailHeight }
  else compact (localBounds width height) before

/-- The children of an `ExpandableDetailSection`. -/
structure DetailLayout where
  loopLengthLabel : Rect := ⟨0, 0, 0, 0⟩
  cycleCountLabel : Rect := ⟨0, 0, 0, 0⟩
  undoButton : Rect := ⟨0, 0, 0, 0⟩
  redoButton : Rect := ⟨0, 0, 0, 0⟩
  feedbackLabel : Rect := ⟨0, 0, 0, 0⟩
  feedbackSlider : Rect := ⟨0, 0, 0, 0⟩

/-- `ExpandableDetailSection::resized`. -/
def DetailLayout.resized (expanded : Bool) (width height : ℤ) (before : DetailLayout) :
    DetailLayout :=
  if expanded then
    let bounds := localBounds width height
    let padding := 8
    let buttonWidth := 50
    let y := bounds.centreY - 12
    { loopLengthLabel := ⟨bounds.x + padding, y, 60, 24⟩
      cycleCountLabel := ⟨bounds.x + padding + 70, y, 70, 24⟩
      undoButton := ⟨bounds.right - padding - buttonWidth * 2 - 120, y, buttonWidth, 24⟩
      redoButton := ⟨bounds.right - padding - buttonWidth - 60, y, buttonWidth, 24⟩
      feedbackLabel := ⟨bounds.right - padding - 130, y, 50, 24⟩
      feedbackSlider := ⟨bounds.right - padding - 75, y + 4, 70, 16⟩ }
  else before

end LooperControl
