import LooperControl.Plugin.LooperListView
import LooperControl.System.Listing

/-!
# The layout of the rows

A refresh stacks the rows from the top of the content container down, each as wide as the container
is at that moment, and then gives the container the width that follows from the view.
`settled_iff` says when that is as good as one step: the widths agree before, or there are no rows.
-/

namespace LooperControl

namespace LooperListView

/-- The content container. -/
def container (v : LooperListView) : Rect := ⟨0, 0, v.containerWidth, v.containerHeight⟩

/-- The width that the container gets from the view. -/
def dueWidth (v : LooperListView) : ℤ := max (v.width - 20) 0

/-- A second refresh changes neither the bounds of a row nor the size of the container. -/
structure Idempotent (tracker : LooperTracker) (v : LooperListView) : Prop where
  bounds : ∀ k : String,
    (refreshFromTracker tracker (refreshFromTracker tracker v)).trackComponents[k]?.map
        LooperTrackComponent.bounds =
      (refreshFromTracker tracker v).trackComponents[k]?.map LooperTrackComponent.bounds
  container : (refreshFromTracker tracker (refreshFromTracker tracker v)).container =
    (refreshFromTracker tracker v).container

/-- The rows, in the order of the tracker, tile the container. -/
def Tiled (tracker : LooperTracker) (v : LooperListView) : Prop :=
  ∃ rects, tracker.getAllLoopers.map (fun looper =>
      v.trackComponents[looper.trackId]?.map LooperTrackComponent.bounds) = rects.map some ∧
    Rect.Tiles v.container rects

variable {tracker : LooperTracker} {v : LooperListView}

/-- A row is made with the expanded flag that it had, and a new one is collapsed. -/
theorem expanded_of_made {callbacks : Callbacks} {before : TrackComponents} {nextIdent : ℕ}
    {looper : LooperState} {row : LooperTrackComponent}
    (h : Made callbacks before nextIdent looper row) :
    row.expanded = expandedAt before looper.trackId := by
  rcases h with ⟨old, bounds, hold, rfl⟩ | ⟨hnone, ident, bounds, -, rfl⟩
  · rw [expandedAt, hold]
    rfl
  · rw [expandedAt, hnone]
    rfl

/-- A refresh leaves the rows as high as they are. -/
theorem heights_refreshFromTracker
    (hnd : (tracker.getAllLoopers.map LooperState.trackId).Nodup) :
    heights (refreshFromTracker tracker v).trackComponents tracker.getAllLoopers =
      heights v.trackComponents tracker.getAllLoopers := by
  refine List.map_congr_left fun looper hmem => ?_
  obtain ⟨row, hrow, hmade⟩ := made_of_refreshFromTracker (v := v) hnd hmem
  rw [← expanded_of_made hmade, expandedAt, hrow]
  rfl

theorem heights_nonneg (rows : TrackComponents) (loopers : List LooperState) :
    ∀ height ∈ heights rows loopers, 0 ≤ height := by
  refine List.forall_mem_map.mpr fun looper _ => ?_
  rcases expandedAt rows looper.trackId with _ | _ <;> decide

theorem container_refreshFromTracker
    (hnd : (tracker.getAllLoopers.map LooperState.trackId).Nodup) :
    (refreshFromTracker tracker v).container = ⟨0, 0, v.dueWidth,
      if tracker.getAllLoopers.isEmpty then 100
      else (heights v.trackComponents tracker.getAllLoopers).sum⟩ := by
  rw [container, containerHeight_refreshFromTracker hnd, refreshFromTracker_eq]
  rfl

/-- With the due width the next refresh finds everything in its place. -/
theorem idempotent_of_width (hnd : (tracker.getAllLoopers.map LooperState.trackId).Nodup)
    (h : tracker.getAllLoopers = [] ∨ v.containerWidth = v.dueWidth) : Idempotent tracker v where
  bounds k := by
    by_cases hk : k ∈ tracker.getAllLoopers.map LooperState.trackId
    · obtain ⟨looper, hmem, rfl⟩ := List.mem_map.mp hk
      have hwidth : (refreshFromTracker tracker v).containerWidth = v.containerWidth := by
        rw [refreshFromTracker_eq]
        exact (h.resolve_left (List.ne_nil_of_mem hmem)).symm
      have htwice := bounds_refreshFromTracker (v := refreshFromTracker tracker v) hnd
      rw [hwidth, heights_refreshFromTracker hnd, ← bounds_refreshFromTracker hnd] at htwice
      exact List.map_inj_left.mp htwice looper hmem
    · rw [getElem?_refreshFromTracker_of_notMem hk, getElem?_refreshFromTracker_of_notMem hk]
  container := by
    have hdue : (refreshFromTracker tracker v).dueWidth = v.dueWidth := by
      rw [refreshFromTracker_eq]
      rfl
    rw [container_refreshFromTracker hnd, heights_refreshFromTracker hnd, hdue,
      container_refreshFromTracker hnd]

/-- With the due width the rows tile the container. -/
theorem tiled_of_width (hnd : (tracker.getAllLoopers.map LooperState.trackId).Nodup)
    (hne : tracker.getAllLoopers ≠ []) (h : v.containerWidth = v.dueWidth) :
    Tiled tracker (refreshFromTracker tracker v) := by
  refine ⟨_, bounds_refreshFromTracker hnd, ?_⟩
  rw [container_refreshFromTracker hnd, ← h, if_neg (by simpa using hne)]
  exact Rect.tiles_column (heights_nonneg _ _)

/-- **The layout.** A refresh leaves nothing for a second one to do, and its rows tile the container
if there are any, exactly if there are none or the container has its due width before. -/
theorem settled_iff (h : LooperTracker.Keyed tracker) :
    (Idempotent tracker v ∧
        (tracker.getAllLoopers ≠ [] → Tiled tracker (refreshFromTracker tracker v))) ↔
      tracker.getAllLoopers = [] ∨ v.containerWidth = v.dueWidth := by
  have hnd := h.nodup
  constructor
  · rintro ⟨-, htiled⟩
    refine or_iff_not_imp_left.mpr fun hne => ?_
    obtain ⟨rects, hrects, htiles⟩ := htiled hne
    rw [bounds_refreshFromTracker hnd] at hrects
    obtain rfl := List.map_injective_iff.mpr (Option.some_injective _) hrects
    -- The first row is as wide as the container was before.
    obtain ⟨looper, loopers, hloopers⟩ := List.exists_cons_of_ne_nil hne
    rw [hloopers] at htiles
    have hwide := (htiles.wide _ List.mem_cons_self).2
    rw [container_refreshFromTracker hnd] at hwide
    exact hwide
  · intro hwidth
    exact ⟨idempotent_of_width hnd hwidth,
      fun hne => tiled_of_width hnd hne (hwidth.resolve_left hne)⟩

/-- A tracker with one looper. -/
def oneRow : LooperTracker := ({} : LooperTracker).addLooper { trackId := "0" }

theorem keyed_oneRow : LooperTracker.Keyed oneRow :=
  (LooperTracker.keyed_of_isEmpty rfl).addLooper { trackId := "0" }

/-- A view of the default size whose container has its due width. -/
theorem settled_default : Idempotent oneRow { containerWidth := 380 } ∧
    (oneRow.getAllLoopers ≠ [] →
      Tiled oneRow (refreshFromTracker oneRow { containerWidth := 380 })) :=
  (settled_iff keyed_oneRow).mpr (.inr (by decide))

/-- **The first refresh** of a window makes rows without width. -/
theorem not_settled : ¬∀ (tracker : LooperTracker) (v : LooperListView),
    LooperTracker.Keyed tracker → Idempotent tracker v ∧
      (tracker.getAllLoopers ≠ [] → Tiled tracker (refreshFromTracker tracker v)) := by
  intro h
  obtain ⟨hidempotent, -⟩ := h oneRow {} keyed_oneRow
  have hbounds := hidempotent.bounds "0"
  revert hbounds
  decide +kernel

end LooperListView

end LooperControl
