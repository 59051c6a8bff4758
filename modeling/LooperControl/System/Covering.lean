import LooperControl.Plugin.Layout

/-!
# Controls that cover each other

Each of the three containers puts a child where another one is, at every size: the viewport of the
list lies over the header as well, the detail section of a row begins where the row begins, and the
redo button reaches into the feedback controls. `covering` says so of all three.

The name and the button of a row are kept apart by the slicing (`disjoint_compact`).
-/

namespace LooperControl

/-- No two of the rectangles have a pixel in common. -/
def Apart (children : List Rect) : Prop :=
  children.Pairwise fun r s => Disjoint r.pixels s.pixels

/-- The children that can be clicked on: all of them. -/
def ListLayout.children (l : ListLayout) : List Rect := [l.headerBar, l.viewport]

/-- The children of an expanded row, where the detail section is visible. -/
def RowLayout.children (l : RowLayout) : List Rect :=
  [l.trackNameLabel, l.transportButton, l.detailSection]

/-- The children of an expanded detail section. -/
def DetailLayout.children (l : DetailLayout) : List Rect :=
  [l.loopLengthLabel, l.cycleCountLabel, l.undoButton, l.redoButton, l.feedbackLabel,
    l.feedbackSlider]

/-- Two of the rectangles have a pixel in common. -/
theorem not_apart_of_mem {children : List Rect} {r s : Rect} {p : ℤ × ℤ}
    (hsub : [r, s].Sublist children) (hr : p ∈ r.pixels) (hs : p ∈ s.pixels) :
    ¬Apart children := by
  intro h
  obtain ⟨hdisjoint, -⟩ := List.pairwise_cons.mp (h.sublist hsub)
  exact Rect.not_disjoint_of_mem hr hs (hdisjoint s (List.mem_singleton_self s))

/-- Whatever the size of a row, its name and its button are apart. -/
theorem disjoint_compact (compactBounds : Rect) (before : RowLayout) :
    Disjoint (RowLayout.compact compactBounds before).trackNameLabel.pixels
      (RowLayout.compact compactBounds before).transportButton.pixels := by
  -- The button is cut from what is left when the name has been taken.
  refine (Rect.disjoint_removeFromLeft _ _).mono_right ?_
  exact (Rect.reduced_subset (by decide) _).trans (Rect.removeFromRight_subset _ _)

/-- The header lies under the viewport. -/
theorem not_apart_list {width height : ℤ} (hwidth : 400 ≤ width) (hheight : 200 ≤ height) :
    ¬Apart (ListLayout.resized width height).children := by
  refine not_apart_of_mem (p := (0, 0)) (List.Sublist.refl _) ?_ ?_
  · simp only [ListLayout.resized, localBounds, Rect.removeFromTop, Rect.mem_pixels]
    omega
  · simp only [ListLayout.resized, localBounds, Rect.mem_pixels]
    omega

/-- The name of an expanded row lies under the detail section. -/
theorem not_apart_row {width height : ℤ} (hwidth : 380 ≤ width) (hheight : 0 < height)
    (before : RowLayout) : ¬Apart (RowLayout.resized true width height before).children := by
  have hname : (width * 3).tdiv 5 = width * 3 / 5 := Int.tdiv_eq_ediv_of_nonneg (by omega)
  refine not_apart_of_mem (p := (0, 0)) (.cons_cons _ (.cons _ (.refl _))) ?_ ?_
  · simp only [RowLayout.resized, if_true, RowLayout.compact, localBounds, compactHeight,
      Rect.removeFromTop, Rect.removeFromLeft, Rect.mem_pixels, hname]
    omega
  · simp only [RowLayout.resized, if_true, localBounds, compactHeight, detailHeight,
      Rect.removeFromTop, Rect.withHeight, Rect.mem_pixels]
    omega

/-- The redo button of an expanded detail section lies under the slider. -/
theorem not_apart_detail {width : ℤ} (height : ℤ) (before : DetailLayout) :
    ¬Apart (DetailLayout.resized true width height before).children := by
  refine not_apart_of_mem (p := (width - 70, (localBounds width height).centreY)) (r :=
    (DetailLayout.resized true width height before).redoButton) (s :=
    (DetailLayout.resized true width height before).feedbackSlider) ?_ ?_ ?_
  · exact .cons _ (.cons _ (.cons _ (.cons_cons _ (.cons _ (.refl _)))))
  · simp only [DetailLayout.resized, if_true, localBounds, Rect.right, Rect.mem_pixels]
    omega
  · simp only [DetailLayout.resized, if_true, localBounds, Rect.right, Rect.mem_pixels]
    omega

/-- **Controls cover each other**, in all three containers and at every size. -/
theorem covering {width height rowWidth rowHeight : ℤ} (hwidth : 400 ≤ width)
    (hheight : 200 ≤ height) (hrow : 380 ≤ rowWidth) (hrowHeight : 0 < rowHeight)
    (detailWidth detailHeight : ℤ) (row : RowLayout) (detail : DetailLayout) :
    ¬Apart (ListLayout.resized width height).children ∧
      ¬Apart (RowLayout.resized true rowWidth rowHeight row).children ∧
        ¬Apart (DetailLayout.resized true detailWidth detailHeight detail).children :=
  ⟨not_apart_list hwidth hheight, not_apart_row hrow hrowHeight row,
    not_apart_detail detailHeight detail⟩

/-- A window of the default size with an expanded row. -/
theorem covering_default : ¬Apart (ListLayout.resized 400 500).children ∧
    ¬Apart (RowLayout.resized true 380 84 {}).children ∧
      ¬Apart (DetailLayout.resized true 380 40 {}).children :=
  covering (by decide) (by decide) (by decide) (by decide) 380 40 {} {}

/-- **Redo and feedback**: a detail section as wide as the default window. -/
theorem not_apart : ¬∀ (width height rowWidth rowHeight detailWidth detailHeight : ℤ)
    (row : RowLayout) (detail : DetailLayout), 400 ≤ width → 200 ≤ height → 380 ≤ rowWidth →
      0 < rowHeight → 380 ≤ detailWidth →
        Apart (ListLayout.resized width height).children ∧
          Apart (RowLayout.resized true rowWidth rowHeight row).children ∧
            Apart (DetailLayout.resized true detailWidth detailHeight detail).children := by
  intro h
  obtain ⟨-, -, hdetail⟩ := h 400 500 380 84 380 40 {} {} (by decide) (by decide) (by decide)
    (by decide) (by decide)
  exact not_apart_detail 40 {} hdetail

end LooperControl
