import Mathlib.Data.List.DropRight
import Mathlib.Data.List.Infix
import Mathlib.Tactic.Common

/-!
# Frames in a sequence

The operations on byte strings that frames are put together and taken apart with, for sequences of
anything: `strip` a mark off both ends, `replace` a sequence by another one, and `split` at a
sequence, the last two from the left and without overlaps.

`words d l` are the stretches of `l` between marks `d`, empty ones left out. They are the same
however a sequence is cut behind marks (`words_append`), and are what is left of the pieces between
double marks, as long as no mark stands by itself between two words (`words_eq_split`). In `frames`,
one after the other, none does (`doubled_frames`).
-/

namespace Framing

variable {α : Type*} {d : α}

/-! ### Frames -/

/-- No mark stands by itself between two other elements. -/
def Doubled (d : α) (l : List α) : Prop := ∀ x y, [x, d, y] <:+: l → x = d ∨ y = d

theorem Doubled.of_infix {l m : List α} (h : Doubled d m) (hl : l <:+: m) : Doubled d l :=
  fun x y hpart => h x y (hpart.trans hl)

theorem doubled_cons_iff {x : α} {l : List α} :
    Doubled d (x :: l) ↔ (∀ y, [d, y] <+: l → x = d ∨ y = d) ∧ Doubled d l := by
  constructor
  · intro h
    refine ⟨fun y hy => h x y ?_, h.of_infix (List.suffix_cons x l).isInfix⟩
    exact (List.cons_prefix_cons.mpr ⟨rfl, hy⟩).isInfix
  · rintro ⟨hfront, h⟩ a b hab
    rcases List.infix_cons_iff.mp hab with hprefix | hinfix
    · obtain ⟨rfl, hrest⟩ := List.cons_prefix_cons.mp hprefix
      exact hfront b hrest
    · exact h a b hinfix

/-- Between the marks of a frame no mark stands by itself, and the next one is behind another. -/
theorem doubled_append {w l : List α} (hw : d ∉ w) (hl : ∀ x ∈ l.head?, x = d)
    (h : Doubled d l) : Doubled d (w ++ d :: l) := by
  induction w with
  | nil => exact doubled_cons_iff.mpr ⟨fun _ _ => .inl rfl, h⟩
  | cons x w ih =>
    rw [List.mem_cons, not_or] at hw
    refine doubled_cons_iff.mpr ⟨fun y hy => .inr ?_, ih hw.2⟩
    rcases w with _ | ⟨z, w⟩
    · obtain ⟨r, rfl⟩ := (List.cons_prefix_cons.mp hy).2
      exact hl y rfl
    · have hz := (List.cons_prefix_cons.mp hy).1
      exact absurd (by rw [← hz]; exact List.mem_cons_self) hw.2

/-- Frames, one after the other. -/
def frames (d : α) (ws : List (List α)) : List α := ws.flatMap fun w => d :: w ++ [d]

theorem frames_cons (w : List α) (ws : List (List α)) :
    frames d (w :: ws) = d :: w ++ [d] ++ frames d ws := List.flatMap_cons

theorem doubled_frames {ws : List (List α)} (h : ∀ w ∈ ws, d ∉ w) : Doubled d (frames d ws) := by
  induction ws with
  | nil => exact fun x y hxy => absurd (List.infix_nil.mp hxy) (List.cons_ne_nil _ _)
  | cons w ws ih =>
    rw [List.forall_mem_cons] at h
    have hhead : ∀ x ∈ (frames d ws).head?, x = d := by
      intro x hx
      rcases ws with _ | ⟨v, ws⟩
      · cases hx
      · exact (Option.some.inj hx).symm
    rw [frames_cons, List.append_assoc, List.cons_append]
    exact doubled_cons_iff.mpr ⟨fun _ _ => .inl rfl, doubled_append h.1 hhead (ih h.2)⟩

variable [DecidableEq α]

/-! ### Marks at the ends -/

/-- A test for a mark. -/
def isMark (d x : α) : Bool := x = d

/-- A sequence without the marks at its ends. -/
def strip (d : α) (l : List α) : List α := (l.dropWhile (isMark d)).rdropWhile (isMark d)

theorem strip_frame {d : α} {w : List α} (h : d ∉ w) (a b : ℕ) :
    strip d (List.replicate a d ++ w ++ List.replicate b d) = w := by
  have hmarks : ∀ n, ∀ x ∈ List.replicate n d, isMark d x = true := by
    intro n x hx
    exact decide_eq_true (List.eq_of_mem_replicate hx)
  have hother : ∀ x ∈ w, ¬isMark d x = true := by
    intro x hx hmark
    rw [of_decide_eq_true hmark] at hx
    exact h hx
  rw [strip, List.append_assoc, List.dropWhile_append_of_pos (hmarks a)]
  rcases w with _ | ⟨x, w⟩
  · rw [List.nil_append, List.dropWhile_eq_nil_iff.mpr (hmarks b), List.rdropWhile_nil]
  · have hx := hother x List.mem_cons_self
    have hself : (x :: w).reverse.dropWhile (isMark d) = (x :: w).reverse := by
      rcases hrev : (x :: w).reverse with _ | ⟨y, l⟩
      · rfl
      · have hy : y ∈ (x :: w).reverse := by
          rw [hrev]
          exact List.mem_cons_self
        exact List.dropWhile_cons_of_neg (hother y (List.mem_reverse.mp hy))
    rw [List.cons_append, List.dropWhile_cons_of_neg hx, ← List.cons_append, List.rdropWhile,
      List.reverse_append, List.reverse_replicate, List.dropWhile_append_of_pos (hmarks b), hself,
      List.reverse_reverse]

/-- A sequence is what is left of it between marks. -/
theorem exists_strip (d : α) (l : List α) :
    ∃ a b, l = List.replicate a d ++ strip d l ++ List.replicate b d := by
  have hmarks : ∀ m : List α, (∀ x ∈ m, isMark d x = true) → ∃ n, m = List.replicate n d := by
    intro m hm
    exact ⟨_, List.eq_replicate_of_mem fun x hx => of_decide_eq_true (hm x hx)⟩
  obtain ⟨a, ha⟩ := hmarks (l.takeWhile (isMark d)) fun x hx => List.mem_takeWhile_imp hx
  obtain ⟨b, hb⟩ := hmarks ((l.dropWhile (isMark d)).rtakeWhile (isMark d)) fun x hx =>
    List.mem_rtakeWhile_imp hx
  refine ⟨a, b, ?_⟩
  rw [strip, ← ha, ← hb, List.append_assoc, List.rdropWhile_append_rtakeWhile,
    List.takeWhile_append_dropWhile]

/-! ### Replacing -/

/-- `replace`, with some elements to go of the occurrence that has been replaced. -/
def replaceFrom (old new : List α) : ℕ → List α → List α
  | _, [] => []
  | n + 1, _ :: l => replaceFrom old new n l
  | 0, x :: l =>
    if old.isPrefixOf (x :: l) then new ++ replaceFrom old new (old.length - 1) l
    else x :: replaceFrom old new 0 l

/-- A sequence with every occurrence of another one replaced, from the left and without overlaps. -/
def replace (old new l : List α) : List α := replaceFrom old new 0 l

variable {old new : List α}

@[simp] theorem replace_nil : replace old new [] = [] := rfl

theorem replaceFrom_eq_drop (n : ℕ) (l : List α) :
    replaceFrom old new n l = replace old new (l.drop n) := by
  induction n generalizing l with
  | zero => rfl
  | succ n ih =>
    rcases l with _ | ⟨x, l⟩
    · rfl
    · rw [replaceFrom, ih, List.drop_succ_cons]

/-- An occurrence at the front. -/
theorem replace_append (hne : old ≠ []) (l : List α) :
    replace old new (old ++ l) = new ++ replace old new l := by
  rcases old with _ | ⟨x, old⟩
  · exact absurd rfl hne
  · have hprefix : (x :: old).isPrefixOf (x :: (old ++ l)) = true :=
      List.isPrefixOf_iff_prefix.mpr (List.prefix_append (x :: old) l)
    rw [List.cons_append, replace, replaceFrom, if_pos hprefix, replaceFrom_eq_drop,
      List.length_cons, Nat.add_sub_cancel, List.drop_left]

/-- No occurrence at the front. -/
theorem replace_cons {x : α} {l : List α} (h : ¬old <+: x :: l) :
    replace old new (x :: l) = x :: replace old new l := by
  rw [replace, replaceFrom, if_neg fun hprefix => h (List.isPrefixOf_iff_prefix.mp hprefix)]
  rfl

/-- A single element is replaced wherever it stands. -/
theorem replace_singleton (d : α) (l : List α) :
    replace [d] new l = l.flatMap fun x => if x = d then new else [x] := by
  induction l with
  | nil => rfl
  | cons x l ih =>
    rw [List.flatMap_cons, ← ih]
    by_cases hx : x = d
    · rw [if_pos hx, hx]
      exact replace_append (List.cons_ne_nil d []) l
    · rw [if_neg hx]
      refine replace_cons fun hprefix => hx ?_
      exact (List.cons_prefix_cons.mp hprefix).1.symm

/-! ### Splitting -/

/-- `split`, with some elements to go of the separator that has been found, and the piece so far. -/
def splitFrom (sep : List α) : ℕ → List α → List α → List (List α)
  | _, piece, [] => [piece]
  | n + 1, piece, _ :: l => splitFrom sep n piece l
  | 0, piece, x :: l =>
    if sep.isPrefixOf (x :: l) then piece :: splitFrom sep (sep.length - 1) [] l
    else splitFrom sep 0 (piece ++ [x]) l

/-- The pieces of a sequence between the occurrences of another one, from the left and without
overlaps. -/
def split (sep l : List α) : List (List α) := splitFrom sep 0 [] l

variable {sep piece : List α}

theorem splitFrom_eq_drop (n : ℕ) (piece l : List α) :
    splitFrom sep n piece l = splitFrom sep 0 piece (l.drop n) := by
  induction n generalizing l with
  | zero => rfl
  | succ n ih =>
    rcases l with _ | ⟨x, l⟩
    · rw [splitFrom, List.drop_nil, splitFrom]
    · rw [splitFrom, ih, List.drop_succ_cons]

/-- A separator at the front. -/
theorem splitFrom_append (hne : sep ≠ []) (l : List α) :
    splitFrom sep 0 piece (sep ++ l) = piece :: split sep l := by
  rcases sep with _ | ⟨x, sep⟩
  · exact absurd rfl hne
  · have hprefix : (x :: sep).isPrefixOf (x :: (sep ++ l)) = true :=
      List.isPrefixOf_iff_prefix.mpr (List.prefix_append (x :: sep) l)
    rw [List.cons_append, splitFrom, if_pos hprefix, splitFrom_eq_drop, List.length_cons,
      Nat.add_sub_cancel, List.drop_left, split]

/-- No separator at the front. -/
theorem splitFrom_cons {x : α} {l : List α} (h : ¬sep <+: x :: l) :
    splitFrom sep 0 piece (x :: l) = splitFrom sep 0 (piece ++ [x]) l := by
  rw [splitFrom, if_neg fun hprefix => h (List.isPrefixOf_iff_prefix.mp hprefix)]

theorem split_ne_nil (sep l : List α) : split sep l ≠ [] := by
  have hne : ∀ n piece, splitFrom sep n piece l ≠ [] := by
    induction l with
    | nil =>
      intro n piece
      rw [splitFrom]
      exact List.cons_ne_nil _ _
    | cons x l ih =>
      intro n piece
      rcases n with _ | n
      · rw [splitFrom]
        split
        · exact List.cons_ne_nil _ _
        · exact ih _ _
      · rw [splitFrom]
        exact ih _ _
  exact hne 0 []

/-! ### Words -/

/-- The stretches between marks, with the one so far. -/
def wordsFrom (d : α) : List α → List α → List (List α)
  | w, [] => if w = [] then [] else [w]
  | w, x :: l =>
    if x = d then (if w = [] then wordsFrom d [] l else w :: wordsFrom d [] l)
    else wordsFrom d (w ++ [x]) l

/-- The stretches between marks that are not empty. -/
def words (d : α) (l : List α) : List (List α) := wordsFrom d [] l

theorem wordsFrom_append (w a b : List α) :
    wordsFrom d w (a ++ d :: b) = wordsFrom d w a ++ words d b := by
  induction a generalizing w with
  | nil =>
    rw [List.nil_append, wordsFrom.eq_2, if_pos rfl, wordsFrom.eq_1, words]
    split <;> rfl
  | cons x a ih =>
    rw [List.cons_append, wordsFrom, wordsFrom]
    by_cases hx : x = d
    · rw [if_pos hx, if_pos hx]
      split
      · exact ih []
      · rw [ih, List.cons_append]
    · rw [if_neg hx, if_neg hx]
      exact ih _

@[simp] theorem words_nil : words d [] = [] := rfl

theorem words_cons (l : List α) : words d (d :: l) = words d l := by
  have happend := wordsFrom_append (d := d) [] [] l
  exact happend

/-- Cut behind a mark, a sequence has the words of its parts. -/
theorem words_append {a : List α} (h : a.getLast? = some d) (b : List α) :
    words d (a ++ b) = words d a ++ words d b := by
  obtain ⟨a, rfl⟩ := List.getLast?_eq_some_iff.mp h
  have hword : words d (a ++ [d]) = wordsFrom d [] a := by
    rw [words, wordsFrom_append, words_nil, List.append_nil]
  rw [hword, List.append_assoc, List.singleton_append, words, wordsFrom_append]

/-- A stretch without marks. -/
theorem wordsFrom_of_notMem {w : List α} (h : d ∉ w) (v : List α) :
    wordsFrom d v w = if v ++ w = [] then [] else [v ++ w] := by
  induction w generalizing v with
  | nil => rw [wordsFrom, List.append_nil]
  | cons x w ih =>
    rw [List.mem_cons, not_or] at h
    rw [wordsFrom, if_neg (Ne.symm h.1), ih h.2, List.append_assoc, List.singleton_append]

/-- The word in a frame. -/
theorem words_frame {w : List α} (h : d ∉ w) :
    words d (d :: w ++ [d]) = if w = [] then [] else [w] := by
  rw [List.cons_append, words_cons, words, wordsFrom_append, wordsFrom_of_notMem h, words_nil,
    List.append_nil, List.nil_append]

/-- **Pieces between double marks**, with the marks at their ends stripped off, are the words. The
piece so far has one mark in front at most, after which there is another element. -/
private theorem words_eq_splitFrom {e w l : List α} (he : e = [] ∨ e = [d]) (hw : d ∉ w)
    (hmark : e ++ w = [d] → l.head? ≠ some d) (h : Doubled d (w ++ l)) :
    ((splitFrom [d, d] 0 (e ++ w) l).map (strip d)).filter (· ≠ []) = wordsFrom d w l := by
  induction hn : l.length using Nat.strong_induction_on generalizing e w l with
  | _ n ih =>
    have hstrip : ∀ b, strip d (e ++ w ++ List.replicate b d) = w := by
      intro b
      rcases he with rfl | rfl
      · exact strip_frame hw 0 b
      · exact strip_frame hw 1 b
    have hpiece := hstrip 0
    rw [List.replicate_zero, List.append_nil] at hpiece
    have hwords : ∀ m, wordsFrom d w (d :: m) = (if w = [] then [] else [w]) ++ words d m := by
      intro m
      rw [wordsFrom, if_pos rfl, words]
      split <;> rfl
    rcases l with _ | ⟨x, l⟩
    · rw [splitFrom, wordsFrom, List.map_singleton, hpiece]
      by_cases hnil : w = [] <;> simp [hnil]
    rw [List.length_cons] at hn
    by_cases hx : x = d
    · subst hx
      rcases l with _ | ⟨y, l⟩
      · -- A mark at the end.
        have hlast := hstrip 1
        rw [List.replicate_one] at hlast
        rw [splitFrom_cons (by simp), splitFrom, List.map_singleton, hlast, hwords, words_nil,
          List.append_nil]
        by_cases hnil : w = [] <;> simp [hnil]
      by_cases hy : y = x
      · subst hy
        have hrest := ih l.length (by rw [← hn, List.length_cons]; omega) (.inl rfl)
          (List.not_mem_nil : y ∉ []) (by simp) (h.of_infix ⟨w ++ [y, y], [], by simp⟩) rfl
        have hsep := @splitFrom_append _ _ [y, y] (e ++ w) (List.cons_ne_nil y [y]) l
        rw [List.cons_append, List.singleton_append] at hsep
        rw [hsep, hwords, words_cons, words, ← hrest, List.map_cons, List.filter_cons, hpiece]
        by_cases hnil : w = [] <;> simp [hnil, split]
      · -- A single mark: nothing stands in front of it.
        have hnil : w = [] := by
          rcases List.eq_nil_or_concat w with hnil | ⟨v, z, rfl⟩
          · exact hnil
          · have hmiddle := h z y ⟨v, l, by simp⟩
            refine absurd hmiddle (not_or.mpr ⟨?_, hy⟩)
            rintro rfl
            exact hw (by simp)
        subst hnil
        have hempty : e = [] := by
          rcases he with he | rfl
          · exact he
          · exact absurd rfl (hmark (List.append_nil _))
        subst hempty
        have hrest := ih (y :: l).length (by rw [← hn]; exact Nat.lt_succ_self _)
          (e := [x]) (w := []) (.inr rfl) List.not_mem_nil (fun _ => by simpa using hy)
          (h.of_infix ⟨[x], [], by simp⟩) rfl
        rw [splitFrom_cons (by simpa [eq_comm] using hy), hwords, words]
        exact hrest
    · have hrest := ih l.length (by rw [← hn]; exact Nat.lt_succ_self _) (e := e) (w := w ++ [x]) he
        (by simp [hw, Ne.symm hx]) (fun hmark => ?_)
        (by rwa [List.append_assoc, List.singleton_append]) rfl
      · rw [splitFrom_cons (by simp [Ne.symm hx]), wordsFrom, if_neg hx, List.append_assoc]
        exact hrest
      · have hlast := congrArg List.getLast? hmark
        rw [← List.append_assoc, List.getLast?_concat] at hlast
        exact absurd (Option.some.inj hlast) hx

/-- **Splitting at double marks** and stripping the marks off gives the words, as long as no mark
stands by itself between two other elements. -/
theorem words_eq_split {l : List α} (h : Doubled d l) :
    ((split [d, d] l).map (strip d)).filter (· ≠ []) = words d l :=
  words_eq_splitFrom (.inl rfl) List.not_mem_nil (by simp) h

/-- **The words in frames** are those that have been framed. -/
theorem words_frames {ws : List (List α)} (h : ∀ w ∈ ws, d ∉ w) :
    words d (frames d ws) = ws.filter (· ≠ []) := by
  induction ws with
  | nil => rfl
  | cons w ws ih =>
    rw [List.forall_mem_cons] at h
    rw [frames_cons, words_append (List.getLast?_concat ..), words_frame h.1, ih h.2,
      List.filter_cons]
    by_cases hw : w = [] <;> simp [hw]

/-- A mark at the end makes no difference. -/
theorem words_concat (l : List α) : words d (l ++ [d]) = words d l := by
  have happend := wordsFrom_append (d := d) [] l []
  rwa [words_nil, List.append_nil] at happend

end Framing
