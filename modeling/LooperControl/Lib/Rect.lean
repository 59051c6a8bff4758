import Mathlib.Algebra.Order.BigOperators.Group.List
import Mathlib.Algebra.Order.Ring.Int
import Mathlib.Data.Set.Lattice
import Mathlib.Order.CompletePartialOrder
import Mathlib.Tactic.Common

/-!
# Rectangles of pixels

A rectangle has a corner and a size, and stands for the set of its pixels. The operations are those
of a layout that slices a rectangle up: a strip is taken from one side, and the rest is left.

* A strip and the rest have no pixel in common (`disjoint_removeFromLeft`), and what is cut from a
  rectangle lies in it (`removeFromRight_subset`, `reduced_subset`).
* Rectangles in a column tile the one around them (`tiles_column`).
-/

/-- A rectangle: its corner and its size. -/
structure Rect where
  x : ℤ
  y : ℤ
  width : ℤ
  height : ℤ
  deriving DecidableEq

namespace Rect

/-- The pixels of a rectangle. -/
def pixels (r : Rect) : Set (ℤ × ℤ) :=
  {p | r.x ≤ p.1 ∧ p.1 < r.x + r.width ∧ r.y ≤ p.2 ∧ p.2 < r.y + r.height}

/-! ### Slicing -/

/-- The strip at the top, and the rest. -/
def removeFromTop (amount : ℤ) (r : Rect) : Rect × Rect :=
  ({ r with height := min amount r.height },
    { r with y := r.y + min amount r.height, height := r.height - min amount r.height })

/-- The strip at the left, and the rest. -/
def removeFromLeft (amount : ℤ) (r : Rect) : Rect × Rect :=
  ({ r with width := min amount r.width },
    { r with x := r.x + min amount r.width, width := r.width - min amount r.width })

/-- The strip at the right, and the rest. -/
def removeFromRight (amount : ℤ) (r : Rect) : Rect × Rect :=
  ({ r with x := r.x + r.width - min amount r.width, width := min amount r.width },
    { r with width := r.width - min amount r.width })

/-- The rectangle without a border. -/
def reduced (border : ℤ) (r : Rect) : Rect :=
  ⟨r.x + border, r.y + border, max 0 (r.width - border * 2), max 0 (r.height - border * 2)⟩

/-- The rectangle with another height. -/
def withHeight (height : ℤ) (r : Rect) : Rect := { r with height := height }

/-- The vertical centre, in whole pixels. -/
def centreY (r : Rect) : ℤ := r.y + r.height.tdiv 2

/-- The right edge. -/
def right (r : Rect) : ℤ := r.x + r.width

variable {r s : Rect} {p : ℤ × ℤ}

theorem mem_pixels : p ∈ r.pixels ↔
    r.x ≤ p.1 ∧ p.1 < r.x + r.width ∧ r.y ≤ p.2 ∧ p.2 < r.y + r.height := .rfl

/-- A common pixel. -/
theorem not_disjoint_of_mem (hr : p ∈ r.pixels) (hs : p ∈ s.pixels) :
    ¬Disjoint r.pixels s.pixels := Set.not_disjoint_iff.mpr ⟨p, hr, hs⟩

/-- A strip has no pixel in common with the rest. -/
theorem disjoint_removeFromLeft (amount : ℤ) (r : Rect) :
    Disjoint (r.removeFromLeft amount).1.pixels (r.removeFromLeft amount).2.pixels := by
  refine Set.disjoint_left.mpr fun p hp hq => ?_
  simp only [removeFromLeft, mem_pixels] at hp hq
  omega

/-- A strip is a part of the rectangle. -/
theorem removeFromRight_subset (amount : ℤ) (r : Rect) :
    (r.removeFromRight amount).1.pixels ⊆ r.pixels := by
  intro p hp
  simp only [removeFromRight, mem_pixels] at hp ⊢
  omega

/-- A rectangle without a border is a part of the rectangle. -/
theorem reduced_subset {border : ℤ} (h : 0 ≤ border) (r : Rect) :
    (r.reduced border).pixels ⊆ r.pixels := by
  intro p hp
  simp only [reduced, mem_pixels] at hp ⊢
  omega

/-! ### Columns -/

/-- Rectangles with given heights, one below the other. -/
def column (x width : ℤ) : ℤ → List ℤ → List Rect
  | _, [] => []
  | y, height :: heights => ⟨x, y, width, height⟩ :: column x width (y + height) heights

variable {x y width : ℤ} {heights : List ℤ}

theorem width_of_mem_column (h : r ∈ column x width y heights) : r.x = x ∧ r.width = width := by
  induction heights generalizing y with
  | nil => cases h
  | cons height heights ih =>
    rcases List.mem_cons.mp h with rfl | h
    · exact ⟨rfl, rfl⟩
    · exact ih h

/-- The pixels of a column. -/
theorem mem_iUnion_column (hpos : ∀ height ∈ heights, 0 ≤ height) :
    (∃ r ∈ column x width y heights, p ∈ r.pixels) ↔
      p ∈ (⟨x, y, width, heights.sum⟩ : Rect).pixels := by
  induction heights generalizing y with
  | nil =>
    refine iff_of_false (by simp [column]) fun hp => ?_
    simp only [mem_pixels, List.sum_nil] at hp
    omega
  | cons height heights ih =>
    obtain ⟨hheight, hpos⟩ := List.forall_mem_cons.mp hpos
    have hsum : 0 ≤ heights.sum := List.sum_nonneg hpos
    simp only [column, List.mem_cons, exists_eq_or_imp]
    rw [ih hpos]
    simp only [mem_pixels, List.sum_cons]
    omega

/-- **A column covers** the rectangle around it. -/
theorem iUnion_column (hpos : ∀ height ∈ heights, 0 ≤ height) :
    ⋃ r ∈ column x width y heights, r.pixels = (⟨x, y, width, heights.sum⟩ : Rect).pixels := by
  ext p
  simp only [Set.mem_iUnion, exists_prop]
  exact mem_iUnion_column hpos

/-- **A column does not overlap**: everything further down begins below the first one. -/
theorem disjoint_column (hpos : ∀ height ∈ heights, 0 ≤ height) :
    (column x width y heights).Pairwise fun r s => Disjoint r.pixels s.pixels := by
  induction heights generalizing y with
  | nil => exact .nil
  | cons height heights ih =>
    obtain ⟨-, hpos⟩ := List.forall_mem_cons.mp hpos
    refine List.pairwise_cons.mpr ⟨fun s hs => Set.disjoint_left.mpr fun p hp hq => ?_, ih hpos⟩
    have hbelow := (mem_iUnion_column hpos).mp ⟨s, hs, hq⟩
    simp only [mem_pixels] at hp hbelow
    omega

/-- In a column every rectangle is above the ones that follow. -/
theorem ordered_column (hpos : ∀ height ∈ heights, 0 ≤ height) :
    (column x width y heights).Pairwise fun r s => r.y + r.height ≤ s.y := by
  have hbelow : ∀ {heights : List ℤ} {y : ℤ}, (∀ height ∈ heights, 0 ≤ height) →
      ∀ s ∈ column x width y heights, y ≤ s.y := by
    intro heights
    induction heights with
    | nil => exact fun _ _ hs => absurd hs List.not_mem_nil
    | cons height heights ih =>
      intro y hpos s hs
      obtain ⟨hheight, hpos⟩ := List.forall_mem_cons.mp hpos
      rcases List.mem_cons.mp hs with rfl | hs
      · exact le_rfl
      · exact (le_add_of_nonneg_right hheight).trans (ih hpos s hs)
  induction heights generalizing y with
  | nil => exact .nil
  | cons height heights ih =>
    obtain ⟨-, hpos⟩ := List.forall_mem_cons.mp hpos
    exact List.pairwise_cons.mpr ⟨hbelow hpos, ih hpos⟩

/-- Rectangles tile a container from the top to the bottom: in order, without overlaps and gaps, and
each as wide as the container. -/
structure Tiles (container : Rect) (rects : List Rect) : Prop where
  ordered : rects.Pairwise fun r s => r.y + r.height ≤ s.y
  disjoint : rects.Pairwise fun r s => Disjoint r.pixels s.pixels
  cover : ⋃ r ∈ rects, r.pixels = container.pixels
  wide : ∀ r ∈ rects, r.x = container.x ∧ r.width = container.width
  total : (rects.map Rect.height).sum = container.height

/-- **A column tiles** the rectangle around it. -/
theorem tiles_column (hpos : ∀ height ∈ heights, 0 ≤ height) :
    Tiles ⟨x, y, width, heights.sum⟩ (column x width y heights) where
  ordered := ordered_column hpos
  disjoint := disjoint_column hpos
  cover := iUnion_column hpos
  wide _ hr := width_of_mem_column hr
  total := by
    have hheights : (column x width y heights).map Rect.height = heights := by
      clear hpos
      induction heights generalizing y with
      | nil => rfl
      | cons height heights ih => rw [column, List.map_cons, ih]
    rw [hheights]

end Rect
