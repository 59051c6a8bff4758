import Mathlib.Data.List.SplitBy
import Mathlib.Tactic.Common

/-!
# Items numbered within their burst

A list falls into bursts: the longest segments in which every item is close to the one before it.
`Bursts.image` maps each item together with its number in its burst, counted from 1.

`image_cons` computes it item by item (`imageAfter`). All that has to be known of the items before
is the last one and its number, so that a program which keeps less than that can be compared with
it by induction.
-/

universe u v

namespace Bursts

variable {α : Type u} {β : Type v} (close : α → α → Bool) (f : ℕ → α → β)

/-- A burst, each item with its number. -/
def imageBurst (burst : List α) : List β := burst.mapIdx fun i a => f (i + 1) a

/-- A list, each item with its number in its burst. -/
def image (l : List α) : List β := (l.splitBy close).flatMap (imageBurst f)

/-- The rest of a list behind an item that has the number `n` in its burst. -/
def imageAfter : α → ℕ → List α → List β
  | _, _, [] => []
  | a, n, b :: l =>
    let n := if close a b then n + 1 else 1
    f n b :: imageAfter b n l

variable {close f}

theorem imageBurst_concat (burst : List α) (a : α) :
    imageBurst f (burst ++ [a]) = imageBurst f burst ++ [f (burst.length + 1) a] := by
  rw [imageBurst, List.mapIdx_append, List.mapIdx_singleton, Nat.zero_add]
  rfl

/-- The loop of `splitBy`: what it has completed, the burst it is in, and the rest. -/
theorem flatMap_splitBy_loop (l : List α) (a : α) (burst : List α) (done : List (List α)) :
    (List.splitBy.loop close l a burst done).flatMap (imageBurst f) =
      done.reverse.flatMap (imageBurst f) ++
        (imageBurst f (a :: burst).reverse ++ imageAfter close f a (burst.length + 1) l) := by
  induction l generalizing a burst done with
  | nil => simp [List.splitBy.loop, imageAfter]
  | cons b l ih =>
    rw [List.splitBy.loop, imageAfter]
    rcases hclose : close a b with _ | _
    · -- The burst is complete, and `b` is the first item of the next one.
      dsimp only
      rw [ih, List.reverse_cons, List.flatMap_append, List.flatMap_singleton, List.append_assoc]
      rfl
    · dsimp only
      rw [ih, List.reverse_cons, imageBurst_concat, List.length_reverse, List.append_assoc]
      rfl

/-- **Item by item.** The first item has the number 1. -/
theorem image_cons (a : α) (l : List α) :
    image close f (a :: l) = f 1 a :: imageAfter close f a 1 l := by
  rw [image, List.splitBy, flatMap_splitBy_loop]
  rfl

end Bursts
