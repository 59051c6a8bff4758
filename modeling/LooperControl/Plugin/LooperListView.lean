import LooperControl.Plugin.Layout
import LooperControl.Plugin.TransportButton

/-!
# The list of loopers

The rows of the window, from the slider of a detail section up to `LooperListView`. A row is known
by an identity, which it gets when it is made. Of a callback it is kept whether it is set, and of a
label what it says.

A control that is used calls its callback, which calls the one of the row, and this is the one of
the view: a `RowRequest` is what the view's callbacks are called with in the end.

JUCE is not part of the repository. A `Slider` holds its value inside its range, and posts one
asynchronous `onValueChange` when it is changed, unless it is told not to.

What a refresh makes of a row is `Made`, and what it does to all of them is said by
`made_of_refreshFromTracker` and `bounds_refreshFromTracker`.
-/

namespace LooperControl

/-! ### The slider -/

/-- `juce::Slider`, from 0 to 1, and whether an `onValueChange` is pending. -/
structure Slider where
  value : ℚ := 0
  pending : Bool := false
  deriving DecidableEq

/-- The number of the range that is nearest. -/
def Slider.constrained (value : ℚ) : ℚ := max 0 (min value 1)

/-- `setValue`. `notify` is false for `dontSendNotification`. -/
def Slider.setValue (newValue : ℚ) (notify : Bool) (slider : Slider) : Slider :=
  if constrained newValue = slider.value then slider
  else { value := constrained newValue, pending := slider.pending || notify }

/-! ### The detail section -/

/-- `ExpandableDetailSection`. -/
structure ExpandableDetailSection where
  trackId : String := ""
  state : LooperState := {}
  expanded : Bool := false
  loopLengthLabel : String := ""
  cycleCountLabel : String := ""
  feedbackSlider : Slider
  onUndo : Bool := false
  onRedo : Bool := false
  onFeedbackChange : Bool := false
  deriving DecidableEq

namespace ExpandableDetailSection

/-- The constructor, which sets the slider without saying how to notify. -/
def create : ExpandableDetailSection where
  feedbackSlider := ({} : Slider).setValue (1 / 2) true

/-- `setState`. -/
def setState (state : LooperState) (d : ExpandableDetailSection) : ExpandableDetailSection :=
  { d with
    state := state
    loopLengthLabel :=
      if state.loopLengthBars > 0 then toString state.loopLengthBars ++ " bars" else "Free"
    cycleCountLabel := "Cycle: " ++ toString state.cycleCount
    feedbackSlider := d.feedbackSlider.setValue state.feedback false }

/-- `setTrackId`. -/
def setTrackId (trackId : String) (d : ExpandableDetailSection) : ExpandableDetailSection :=
  { d with trackId := trackId }

/-- `expand`. -/
def expand (d : ExpandableDetailSection) : ExpandableDetailSection := { d with expanded := true }

/-- `collapse`. -/
def collapse (d : ExpandableDetailSection) : ExpandableDetailSection :=
  { d with expanded := false }

/-- `undoButton_.onClick`: what `onUndo` is called with, if it is set. -/
def undoClick (d : ExpandableDetailSection) : List String :=
  if d.onUndo then [d.trackId] else []

/-- `redoButton_.onClick`. -/
def redoClick (d : ExpandableDetailSection) : List String :=
  if d.onRedo then [d.trackId] else []

/-- `feedbackSlider_.onValueChange`. -/
def valueChanged (d : ExpandableDetailSection) : List (String × ℚ) :=
  if d.onFeedbackChange then [(d.trackId, d.feedbackSlider.value)] else []

end ExpandableDetailSection

/-! ### A row -/

/-- The four callbacks of a row, and of the view. -/
structure Callbacks where
  onTransportClick : Bool := false
  onUndoClick : Bool := false
  onRedoClick : Bool := false
  onFeedbackChange : Bool := false
  deriving DecidableEq

/-- All four callbacks are set. -/
def Callbacks.all : Callbacks := ⟨true, true, true, true⟩

/-- A call of one of the view's four callbacks. -/
inductive RowRequest
  | transportClick (trackId targetState : String)
  | undoClick (trackId : String)
  | redoClick (trackId : String)
  | feedbackChange (trackId : String) (feedbackValue : ℚ)
  deriving DecidableEq

/-- `LooperTrackComponent`. -/
structure LooperTrackComponent where
  ident : ℕ
  state : LooperState := {}
  expanded : Bool := false
  trackNameLabel : String := ""
  transportButton : TransportButton := {}
  detailSection : ExpandableDetailSection := .create
  callbacks : Callbacks := {}
  bounds : Rect := ⟨0, 0, 400, compactHeight⟩
  deriving DecidableEq

namespace LooperTrackComponent

/-- `setState`. It also sets the callbacks of the button and of the detail section. -/
def setState (state : LooperState) (row : LooperTrackComponent) : LooperTrackComponent :=
  { row with
    state := state
    trackNameLabel := state.trackName ++ " — " ++ state.deviceName
    transportButton :=
      { (row.transportButton.setState state.state).setTrackId state.trackId with onClick := true }
    detailSection :=
      { (row.detailSection.setState state).setTrackId state.trackId with
        onUndo := true, onRedo := true, onFeedbackChange := true } }

/-- The height of a row. -/
def rowHeight (expanded : Bool) : ℤ :=
  if expanded then compactHeight + detailHeight else compactHeight

/-- `setExpanded`. -/
def setExpanded (expanded : Bool) (row : LooperTrackComponent) : LooperTrackComponent :=
  if row.expanded ≠ expanded then
    { row with
      expanded := expanded
      detailSection := if expanded then row.detailSection.expand else row.detailSection.collapse
      bounds := { row.bounds with height := rowHeight expanded } }
  else row

/-- `setBounds`. -/
def setBounds (bounds : Rect) (row : LooperTrackComponent) : LooperTrackComponent :=
  { row with bounds := bounds }

/-- The transport button is clicked at a time: the row afterwards, and what it asks for. -/
def transportClick (now : ℤ) (row : LooperTrackComponent) :
    LooperTrackComponent × List RowRequest :=
  let (button, clicks) := row.transportButton.mouseDown now
  ({ row with transportButton := button },
    if row.callbacks.onTransportClick then
      clicks.map fun (trackId, targetState) => .transportClick trackId targetState
    else [])

/-- The undo button is clicked. -/
def undoClick (row : LooperTrackComponent) : List RowRequest :=
  if row.callbacks.onUndoClick then row.detailSection.undoClick.map .undoClick else []

/-- The redo button is clicked. -/
def redoClick (row : LooperTrackComponent) : List RowRequest :=
  if row.callbacks.onRedoClick then row.detailSection.redoClick.map .redoClick else []

/-- The slider says that it has changed. -/
def valueChanged (row : LooperTrackComponent) : List RowRequest :=
  if row.callbacks.onFeedbackChange then
    row.detailSection.valueChanged.map fun (trackId, value) => .feedbackChange trackId value
  else []

/-- JUCE delivers what is pending. -/
def deliver (row : LooperTrackComponent) : LooperTrackComponent × List RowRequest :=
  ({ row with detailSection.feedbackSlider.pending := false }, row.valueChanged)

/-- The slider is dragged to a value. If that changes it, it says so at once. -/
def drag (value : ℚ) (row : LooperTrackComponent) : LooperTrackComponent × List RowRequest :=
  if Slider.constrained value = row.detailSection.feedbackSlider.value then (row, [])
  else deliver { row with detailSection.feedbackSlider.value := Slider.constrained value }

end LooperTrackComponent

/-! ### The view -/

/-- The map `trackComponents_`. -/
abbrev TrackComponents : Type := Std.ExtTreeMap String LooperTrackComponent compare

/-- `LooperListView`: the size of the view and that of its content container, what the header
shows, and whether the label for an empty list is visible. -/
structure LooperListView where
  width : ℤ := 400
  height : ℤ := 500
  connected : Bool := false
  trackComponents : TrackComponents := ∅
  callbacks : Callbacks := {}
  containerWidth : ℤ := 0
  containerHeight : ℤ := 0
  emptyStateLabel : Bool := false
  nextIdent : ℕ := 0

namespace LooperListView

open LooperTrackComponent

/-- What the loop over the loopers carries. -/
structure Placing where
  trackComponents : TrackComponents
  nextIdent : ℕ
  yOffset : ℤ

/-- The row of a looper, which may have to be made. -/
def rowFor (callbacks : Callbacks) (s : Placing) (looper : LooperState) : LooperTrackComponent :=
  match s.trackComponents[looper.trackId]? with
  | none =>
    let trackComp : LooperTrackComponent := { ident := s.nextIdent }
    { trackComp.setState looper with callbacks := callbacks }
  | some row => row.setState looper

/-- One round of the loop over the loopers. -/
def placeRow (callbacks : Callbacks) (width : ℤ) (s : Placing) (looper : LooperState) : Placing :=
  let row := rowFor callbacks s looper
  let height := rowHeight row.expanded
  { trackComponents :=
      s.trackComponents.insert looper.trackId (row.setBounds ⟨0, s.yOffset, width, height⟩)
    nextIdent := if looper.trackId ∈ s.trackComponents then s.nextIdent else s.nextIdent + 1
    yOffset := s.yOffset + height }

/-- `refreshFromTracker`. A size that is negative is set to zero. -/
def refreshFromTracker (tracker : LooperTracker) (v : LooperListView) : LooperListView :=
  let loopers := tracker.getAllLoopers
  let currentTrackIds := loopers.map LooperState.trackId
  let kept := v.trackComponents.filter fun trackId _ => trackId ∈ currentTrackIds
  let placed := loopers.foldl (placeRow v.callbacks v.containerWidth) ⟨kept, v.nextIdent, 0⟩
  let v :=
    { v with
      trackComponents := placed.trackComponents
      nextIdent := placed.nextIdent
      containerWidth := max (v.width - 20) 0
      containerHeight := placed.yOffset }
  if loopers.isEmpty then
    { v with
      containerWidth := max (v.width - 20) 0
      containerHeight := 100
      emptyStateLabel := true }
  else { v with emptyStateLabel := false }

/-- `setConnected`. -/
def setConnected (connected : Bool) (v : LooperListView) : LooperListView :=
  { v with connected := connected }

/-! ### The loop over the loopers -/

/-- The row that a refresh makes of what was there under a looper's id, apart from its bounds: the
row that was there with the new state, or a new row with the callbacks of the view. -/
def Made (callbacks : Callbacks) (before : TrackComponents) (nextIdent : ℕ) (looper : LooperState)
    (row : LooperTrackComponent) : Prop :=
  (∃ old bounds, before[looper.trackId]? = some old ∧
      row = (old.setState looper).setBounds bounds) ∨
    (before[looper.trackId]? = none ∧ ∃ ident bounds, nextIdent ≤ ident ∧
      row = { setState looper { ident := ident } with callbacks := callbacks, bounds := bounds })

/-- Whether there is a row under an id that is expanded. -/
def expandedAt (rows : TrackComponents) (trackId : String) : Bool :=
  (rows[trackId]?.map expanded).getD false

/-- The heights of the rows of some loopers. -/
def heights (rows : TrackComponents) (loopers : List LooperState) : List ℤ :=
  loopers.map fun looper => rowHeight (expandedAt rows looper.trackId)

variable {callbacks : Callbacks} {width : ℤ} {s : Placing} {looper : LooperState}

theorem rowFor_expanded :
    (rowFor callbacks s looper).expanded = expandedAt s.trackComponents looper.trackId := by
  rw [rowFor, expandedAt]
  rcases s.trackComponents[looper.trackId]? with _ | row <;> rfl

theorem getElem?_placeRow (k : String) : (placeRow callbacks width s looper).trackComponents[k]? =
    if k = looper.trackId then some ((rowFor callbacks s looper).setBounds
      ⟨0, s.yOffset, width, rowHeight (expandedAt s.trackComponents looper.trackId)⟩)
    else s.trackComponents[k]? := by
  simp only [placeRow, rowFor_expanded]
  rw [Std.ExtTreeMap.getElem?_insert]
  by_cases h : looper.trackId = k
  · simp [h]
  · simp [h, Ne.symm h]

theorem nextIdent_le_placeRow : s.nextIdent ≤ (placeRow callbacks width s looper).nextIdent := by
  rw [placeRow]
  dsimp only
  split <;> omega

theorem yOffset_placeRow : (placeRow callbacks width s looper).yOffset =
    s.yOffset + rowHeight (expandedAt s.trackComponents looper.trackId) := by
  simp only [placeRow, rowFor_expanded]

/-- A round leaves the rows of other ids as high as they are. -/
theorem heights_placeRow {loopers : List LooperState}
    (h : looper.trackId ∉ loopers.map LooperState.trackId) :
    heights (placeRow callbacks width s looper).trackComponents loopers =
      heights s.trackComponents loopers := by
  refine List.map_congr_left fun other hmem => ?_
  have hne : other.trackId ≠ looper.trackId := by
    intro heq
    exact h (heq ▸ List.mem_map_of_mem hmem)
  rw [expandedAt, getElem?_placeRow, if_neg hne, expandedAt]

theorem made_rowFor (bounds : Rect) : Made callbacks s.trackComponents s.nextIdent looper
    ((rowFor callbacks s looper).setBounds bounds) := by
  rw [rowFor]
  rcases hold : s.trackComponents[looper.trackId]? with _ | old
  · exact .inr ⟨hold, s.nextIdent, bounds, le_rfl, rfl⟩
  · exact .inl ⟨old, bounds, hold, rfl⟩

/-- The ids that a round does not place keep their rows. -/
theorem getElem?_foldl_placeRow {loopers : List LooperState} {k : String}
    (h : k ∉ loopers.map LooperState.trackId) :
    (loopers.foldl (placeRow callbacks width) s).trackComponents[k]? = s.trackComponents[k]? := by
  induction loopers generalizing s with
  | nil => rfl
  | cons looper loopers ih =>
    rw [List.map_cons, List.mem_cons, not_or] at h
    rw [List.foldl_cons, ih h.2, getElem?_placeRow, if_neg h.1]

/-- **The rows of the loop.** Every looper has a row afterwards, made of what was there before. -/
theorem made_of_foldl_placeRow {loopers : List LooperState}
    (hnd : (loopers.map LooperState.trackId).Nodup) (hmem : looper ∈ loopers) :
    ∃ row, (loopers.foldl (placeRow callbacks width) s).trackComponents[looper.trackId]? =
      some row ∧ Made callbacks s.trackComponents s.nextIdent looper row := by
  induction loopers generalizing s with
  | nil => cases hmem
  | cons first loopers ih =>
    rw [List.map_cons, List.nodup_cons] at hnd
    rw [List.foldl_cons]
    rcases List.mem_cons.mp hmem with rfl | hmem
    · rw [getElem?_foldl_placeRow hnd.1, getElem?_placeRow, if_pos rfl]
      exact ⟨_, rfl, made_rowFor _⟩
    · -- The first round is about another id.
      have hne : looper.trackId ≠ first.trackId := by
        intro heq
        exact hnd.1 (heq ▸ List.mem_map_of_mem hmem)
      obtain ⟨row, hrow, hmade⟩ := ih hnd.2 hmem
      refine ⟨row, hrow, ?_⟩
      rw [Made, getElem?_placeRow, if_neg hne] at hmade
      rcases hmade with hkept | ⟨hnew, ident, bounds, hident, heq⟩
      · exact .inl hkept
      · exact .inr ⟨hnew, ident, bounds, nextIdent_le_placeRow.trans hident, heq⟩

/-- **The bounds of the loop** are a column. -/
theorem bounds_foldl_placeRow {loopers : List LooperState}
    (hnd : (loopers.map LooperState.trackId).Nodup) :
    loopers.map (fun looper => (loopers.foldl (placeRow callbacks width)
        s).trackComponents[looper.trackId]?.map LooperTrackComponent.bounds) =
      (Rect.column 0 width s.yOffset (heights s.trackComponents loopers)).map some := by
  induction loopers generalizing s with
  | nil => rfl
  | cons first loopers ih =>
    rw [List.map_cons, List.nodup_cons] at hnd
    rw [List.map_cons, List.foldl_cons, ih hnd.2, heights_placeRow hnd.1, yOffset_placeRow,
      getElem?_foldl_placeRow hnd.1, getElem?_placeRow, if_pos rfl]
    rfl

/-- Where the loop ends. -/
theorem yOffset_foldl_placeRow {loopers : List LooperState}
    (hnd : (loopers.map LooperState.trackId).Nodup) :
    (loopers.foldl (placeRow callbacks width) s).yOffset =
      s.yOffset + (heights s.trackComponents loopers).sum := by
  induction loopers generalizing s with
  | nil => exact (add_zero _).symm
  | cons first loopers ih =>
    rw [List.map_cons, List.nodup_cons] at hnd
    rw [List.foldl_cons, ih hnd.2, heights_placeRow hnd.1, yOffset_placeRow, add_assoc]
    rfl

/-- Rows have different identities than the ones still to be made. -/
def Numbered (rows : TrackComponents) (nextIdent : ℕ) : Prop :=
  ∀ (k : String) (row : LooperTrackComponent), rows[k]? = some row → row.ident < nextIdent

theorem Numbered.placeRow (h : Numbered s.trackComponents s.nextIdent) :
    Numbered (placeRow callbacks width s looper).trackComponents
      (placeRow callbacks width s looper).nextIdent := by
  intro k row hrow
  rw [getElem?_placeRow] at hrow
  split at hrow
  · obtain rfl := Option.some.inj hrow
    rw [rowFor, LooperListView.placeRow]
    rcases hold : s.trackComponents[looper.trackId]? with _ | old
    · have hnew : looper.trackId ∉ s.trackComponents := by
        rw [Std.ExtTreeMap.mem_iff_isSome_getElem?, hold]
        exact Bool.false_ne_true
      simp only [if_neg hnew]
      exact Nat.lt_succ_self s.nextIdent
    · have hmem : looper.trackId ∈ s.trackComponents := by
        rw [Std.ExtTreeMap.mem_iff_isSome_getElem?, hold]
        rfl
      simp only [if_pos hmem]
      exact h _ old hold
  · exact (h k row hrow).trans_le nextIdent_le_placeRow

theorem Numbered.foldl_placeRow (h : Numbered s.trackComponents s.nextIdent)
    (loopers : List LooperState) :
    Numbered (loopers.foldl (LooperListView.placeRow callbacks width) s).trackComponents
      (loopers.foldl (LooperListView.placeRow callbacks width) s).nextIdent := by
  induction loopers generalizing s with
  | nil => exact h
  | cons looper loopers ih => exact ih h.placeRow

/-! ### A refresh -/

/-- The outcome of the loop in a refresh. -/
def placed (tracker : LooperTracker) (v : LooperListView) : Placing :=
  tracker.getAllLoopers.foldl (placeRow v.callbacks v.containerWidth)
    ⟨v.trackComponents.filter fun trackId _ =>
      trackId ∈ tracker.getAllLoopers.map LooperState.trackId, v.nextIdent, 0⟩

variable {tracker : LooperTracker} {v : LooperListView}

theorem refreshFromTracker_eq : refreshFromTracker tracker v =
    { v with
      trackComponents := (placed tracker v).trackComponents
      nextIdent := (placed tracker v).nextIdent
      containerWidth := max (v.width - 20) 0
      containerHeight := if tracker.getAllLoopers.isEmpty then 100 else (placed tracker v).yOffset
      emptyStateLabel := tracker.getAllLoopers.isEmpty } := by
  rw [refreshFromTracker]
  rcases hempty : tracker.getAllLoopers.isEmpty with _ | _ <;> rfl

/-- The row of an id that stays is not removed before the loop. -/
private theorem getElem?_kept (k : String) (ids : List String) :
    (v.trackComponents.filter fun trackId _ => trackId ∈ ids)[k]? =
      if k ∈ ids then v.trackComponents[k]? else none := by
  rw [Std.ExtTreeMap.getElem?_filter']
  rcases v.trackComponents[k]? with _ | row
  · simp
  · by_cases h : k ∈ ids <;> simp [h]

/-- Rows whose ids disappeared are gone. -/
theorem getElem?_refreshFromTracker_of_notMem {k : String}
    (h : k ∉ tracker.getAllLoopers.map LooperState.trackId) :
    (refreshFromTracker tracker v).trackComponents[k]? = none := by
  rw [refreshFromTracker_eq]
  dsimp only
  rw [placed, getElem?_foldl_placeRow h, getElem?_kept, if_neg h]

/-- **The rows of a refresh.** -/
theorem made_of_refreshFromTracker (hnd : (tracker.getAllLoopers.map LooperState.trackId).Nodup)
    (hmem : looper ∈ tracker.getAllLoopers) :
    ∃ row, (refreshFromTracker tracker v).trackComponents[looper.trackId]? = some row ∧
      Made v.callbacks v.trackComponents v.nextIdent looper row := by
  obtain ⟨row, hrow, hmade⟩ := made_of_foldl_placeRow hnd hmem
  rw [refreshFromTracker_eq]
  refine ⟨row, hrow, ?_⟩
  rwa [Made, getElem?_kept, if_pos (List.mem_map_of_mem hmem)] at hmade

private theorem heights_kept :
    heights (v.trackComponents.filter fun trackId _ =>
        trackId ∈ tracker.getAllLoopers.map LooperState.trackId) tracker.getAllLoopers =
      heights v.trackComponents tracker.getAllLoopers := by
  refine List.map_congr_left fun looper hmem => ?_
  rw [expandedAt, getElem?_kept, if_pos (List.mem_map_of_mem hmem), expandedAt]

/-- **The bounds of a refresh** are a column, as wide as the container was before. -/
theorem bounds_refreshFromTracker (hnd : (tracker.getAllLoopers.map LooperState.trackId).Nodup) :
    tracker.getAllLoopers.map (fun looper => (refreshFromTracker tracker
        v).trackComponents[looper.trackId]?.map LooperTrackComponent.bounds) =
      (Rect.column 0 v.containerWidth 0
        (heights v.trackComponents tracker.getAllLoopers)).map some := by
  rw [refreshFromTracker_eq, ← heights_kept]
  exact bounds_foldl_placeRow hnd

/-- The height of the container after a refresh. -/
theorem containerHeight_refreshFromTracker
    (hnd : (tracker.getAllLoopers.map LooperState.trackId).Nodup) :
    (refreshFromTracker tracker v).containerHeight = if tracker.getAllLoopers.isEmpty then 100
      else (heights v.trackComponents tracker.getAllLoopers).sum := by
  rw [refreshFromTracker_eq, ← heights_kept]
  dsimp only
  rw [placed, yOffset_foldl_placeRow hnd, zero_add]

/-- A refresh keeps identities apart. -/
theorem Numbered.refreshFromTracker (h : Numbered v.trackComponents v.nextIdent) :
    Numbered (refreshFromTracker tracker v).trackComponents
      (LooperListView.refreshFromTracker tracker v).nextIdent := by
  rw [refreshFromTracker_eq]
  refine Numbered.foldl_placeRow (fun k row hrow => ?_) _
  rw [getElem?_kept] at hrow
  split at hrow
  · exact h k row hrow
  · cases hrow

end LooperListView

end LooperControl
