import Mathlib.Data.List.Basic
import Mathlib.Tactic.Common

/-!
# Regular expressions

Patterns in the usual syntax, with literal characters, escaped punctuation, `.`, sets, groups,
alternatives, the anchors `^` and `$`, and the repetitions `*`, `+` and `?`, also lazy ones. What
matters of a match is whether there is one, so that greed makes no difference.

* **Meaning**: `Matches`, what an expression can take from the front of a text. `.` takes no
  line feed, and `$` also stands before a line feed at the end.
* **Matching**: `ends` lists what can be left over, and `mem_ends_iff` says that it is right.
* **Syntax**: `compile` reads a pattern from left to right, one character at a time, and is
  `none` where it is invalid. Counted repetitions, escaped letters and digits, and the `(?`
  extensions are not read.
-/

/-- A regular expression. A set lists ranges of characters. -/
inductive Regex
  | eps
  | set (negated : Bool) (ranges : List (Char × Char))
  | any
  | start
  | finish
  | seq (r s : Regex)
  | alt (r s : Regex)
  | star (r : Regex)
  deriving DecidableEq

namespace Regex

/-! ### Meaning -/

/-- Whether a character is in a set. -/
def inSet (negated : Bool) (ranges : List (Char × Char)) (c : Char) : Bool :=
  (ranges.any fun range => decide (range.1 ≤ c) && decide (c ≤ range.2)) != negated

/-- Whether `$` matches in front of a rest. -/
def atEnd (rest : List Char) : Bool := rest == [] || rest == ['\n']

/-- What an expression can take: in a text of `n` characters of which `s` is still to be
matched, it can match the front of `s` and leave `t`. -/
inductive Matches (n : ℕ) : Regex → List Char → List Char → Prop
  | eps (s : List Char) : Matches n .eps s s
  | set {negated : Bool} {ranges : List (Char × Char)} {c : Char} (s : List Char)
      (h : inSet negated ranges c = true) : Matches n (.set negated ranges) (c :: s) s
  | any {c : Char} (s : List Char) (h : c ≠ '\n') : Matches n .any (c :: s) s
  | start (s : List Char) (h : s.length = n) : Matches n .start s s
  | finish (s : List Char) (h : atEnd s = true) : Matches n .finish s s
  | seq {r r' : Regex} {s t u : List Char} (h : Matches n r s t) (h' : Matches n r' t u) :
      Matches n (.seq r r') s u
  | left {r r' : Regex} {s t : List Char} (h : Matches n r s t) : Matches n (.alt r r') s t
  | right {r r' : Regex} {s t : List Char} (h : Matches n r' s t) : Matches n (.alt r r') s t
  | done (r : Regex) (s : List Char) : Matches n (.star r) s s
  | more {r : Regex} {s t u : List Char} (h : Matches n r s t) (h' : Matches n (.star r) t u) :
      Matches n (.star r) s u

variable {n : ℕ} {r r' : Regex} {s t u : List Char}

/-- What is left is the end of what there was. -/
theorem Matches.suffix (h : Matches n r s t) : t <:+ s := by
  induction h with
  | eps s => exact List.suffix_rfl
  | set s _ => exact List.suffix_cons _ s
  | any s _ => exact List.suffix_cons _ s
  | start s _ => exact List.suffix_rfl
  | finish s _ => exact List.suffix_rfl
  | seq _ _ ih ih' => exact ih'.trans ih
  | left _ ih => exact ih
  | right _ ih => exact ih
  | done r s => exact List.suffix_rfl
  | more _ _ ih ih' => exact ih'.trans ih

theorem matches_seq_iff : Matches n (.seq r r') s u ↔ ∃ t, Matches n r s t ∧ Matches n r' t u := by
  constructor
  · intro h
    cases h with
    | seq h h' => exact ⟨_, h, h'⟩
  · rintro ⟨t, h, h'⟩
    exact .seq h h'

@[simp] theorem matches_eps_iff : Matches n .eps s t ↔ s = t := by
  constructor
  · intro h
    cases h
    rfl
  · rintro rfl
    exact .eps s

theorem matches_start_iff : Matches n .start s t ↔ s = t ∧ s.length = n := by
  constructor
  · intro h
    cases h with
    | start _ h => exact ⟨rfl, h⟩
  · rintro ⟨rfl, h⟩
    exact .start s h

theorem matches_finish_iff : Matches n .finish s t ↔ s = t ∧ atEnd s = true := by
  constructor
  · intro h
    cases h with
    | finish _ h => exact ⟨rfl, h⟩
  · rintro ⟨rfl, h⟩
    exact .finish s h

theorem matches_set_iff {negated : Bool} {ranges : List (Char × Char)} :
    Matches n (.set negated ranges) s t ↔ ∃ c, s = c :: t ∧ inSet negated ranges c = true := by
  constructor
  · intro h
    cases h with
    | set _ h => exact ⟨_, rfl, h⟩
  · rintro ⟨c, rfl, h⟩
    exact .set t h

theorem matches_alt_iff : Matches n (.alt r r') s t ↔ Matches n r s t ∨ Matches n r' s t := by
  constructor
  · intro h
    cases h with
    | left h => exact .inl h
    | right h => exact .inr h
  · rintro (h | h)
    · exact .left h
    · exact .right h

/-- A repetition takes characters that can be taken, one after the other. -/
theorem matches_star_iff {P : Char → Prop}
    (h : ∀ s t, Matches n r s t ↔ ∃ c, s = c :: t ∧ P c) :
    Matches n (.star r) s t ↔ ∃ w, s = w ++ t ∧ ∀ c ∈ w, P c := by
  constructor
  · intro hm
    generalize hr : Regex.star r = q at hm
    induction hm with
    | done _ s => exact ⟨[], rfl, List.forall_mem_nil P⟩
    | more hfirst _ _ ih =>
      cases hr
      obtain ⟨c, rfl, hc⟩ := (h _ _).mp hfirst
      obtain ⟨w, rfl, hw⟩ := ih rfl
      exact ⟨c :: w, rfl, List.forall_mem_cons.mpr ⟨hc, hw⟩⟩
    | _ => cases hr
  · rintro ⟨w, rfl, hw⟩
    induction w with
    | nil => exact .done r t
    | cons c w ih =>
      obtain ⟨hc, hw⟩ := List.forall_mem_cons.mp hw
      exact .more ((h _ _).mpr ⟨c, rfl, hc⟩) (ih hw)

theorem matches_any_iff : Matches n .any s t ↔ ∃ c, s = c :: t ∧ c ≠ '\n' := by
  constructor
  · intro h
    cases h with
    | any _ h => exact ⟨_, rfl, h⟩
  · rintro ⟨c, rfl, h⟩
    exact .any t h

/-- Any characters but line feeds can be taken one after the other. -/
theorem matches_star_any {w : List Char} (h : ∀ c ∈ w, c ≠ '\n') :
    Matches n (.star .any) (w ++ s) s := by
  induction w with
  | nil => exact .done _ s
  | cons c w ih =>
    obtain ⟨hc, hw⟩ := List.forall_mem_cons.mp h
    exact .more (.any _ hc) (ih hw)

/-! ### Matching -/

/-- What up to `k` rounds can leave, each of which takes something. -/
def iterate (f : List Char → List (List Char)) : ℕ → List Char → List (List Char)
  | 0, s => [s]
  | k + 1, s => s :: ((f s).filter fun t => t.length < s.length).flatMap (iterate f k)

/-- What an expression can leave of a rest. -/
def ends (n : ℕ) : Regex → List Char → List (List Char)
  | .eps, s => [s]
  | .set negated ranges, c :: s => if inSet negated ranges c then [s] else []
  | .set _ _, [] => []
  | .any, c :: s => if c = '\n' then [] else [s]
  | .any, [] => []
  | .start, s => if s.length = n then [s] else []
  | .finish, s => if atEnd s then [s] else []
  | .seq r r', s => (ends n r s).flatMap (ends n r')
  | .alt r r', s => ends n r s ++ ends n r' s
  | .star r, s => iterate (ends n r) s.length s

private theorem mem_iterate_of_matches {f : List Char → List (List Char)}
    (hf : ∀ s t, t ∈ f s ↔ Matches n r s t) (h : Matches n (.star r) s t) (k : ℕ)
    (hk : s.length ≤ k) : t ∈ iterate f k s := by
  generalize hr : Regex.star r = q at h
  induction h generalizing k with
  | done r' s => cases k <;> simp [iterate]
  | @more r' s t u h h' ih ih' =>
    cases hr
    rcases Nat.lt_or_eq_of_le h.suffix.length_le with hlt | heq
    · cases k with
      | zero => omega
      | succ k =>
        refine List.mem_cons_of_mem _ (List.mem_flatMap.mpr ⟨t, ?_, ih' k (by omega) rfl⟩)
        exact List.mem_filter.mpr ⟨(hf s t).mpr h, by simpa using hlt⟩
    · -- A round that takes nothing can be left out.
      obtain rfl := h.suffix.eq_of_length heq
      exact ih' k hk rfl
  | _ => cases hr

private theorem matches_of_mem_iterate {f : List Char → List (List Char)}
    (hf : ∀ s t, t ∈ f s ↔ Matches n r s t) (k : ℕ) (s : List Char)
    (h : t ∈ iterate f k s) : Matches n (.star r) s t := by
  induction k generalizing s with
  | zero =>
    obtain rfl := List.mem_singleton.mp h
    exact .done r t
  | succ k ih =>
    rcases List.mem_cons.mp h with rfl | h
    · exact .done r t
    · obtain ⟨u, hu, ht⟩ := List.mem_flatMap.mp h
      exact .more ((hf s u).mp (List.mem_filter.mp hu).1) (ih u ht)

/-- **`ends` is right**: it lists what an expression can leave. -/
theorem mem_ends_iff : t ∈ ends n r s ↔ Matches n r s t := by
  induction r generalizing s t with
  | eps => rw [ends, List.mem_singleton, matches_eps_iff, eq_comm]
  | set negated ranges =>
    rw [matches_set_iff]
    cases s with
    | nil => simp [ends]
    | cons c s =>
      rw [ends]
      split
      · rename_i h
        rw [List.mem_singleton]
        constructor
        · rintro rfl
          exact ⟨c, rfl, h⟩
        · rintro ⟨c', heq, -⟩
          exact ((List.cons.inj heq).2).symm
      · rename_i h
        refine iff_of_false List.not_mem_nil ?_
        rintro ⟨c', heq, h'⟩
        obtain ⟨rfl, -⟩ := List.cons.inj heq
        exact h h'
  | any =>
    cases s with
    | nil =>
      refine iff_of_false List.not_mem_nil fun h => ?_
      cases h
    | cons c s =>
      rw [ends]
      split
      · rename_i h
        refine iff_of_false List.not_mem_nil fun hm => ?_
        cases hm with
        | any _ hne => exact hne h
      · rename_i h
        rw [List.mem_singleton]
        constructor
        · rintro rfl
          exact .any t h
        · intro hm
          cases hm
          rfl
  | start =>
    rw [ends, matches_start_iff]
    split
    · rename_i h
      rw [List.mem_singleton, and_iff_left h, eq_comm]
    · rename_i h
      exact iff_of_false List.not_mem_nil fun hm => h hm.2
  | finish =>
    rw [ends, matches_finish_iff]
    split
    · rename_i h
      rw [List.mem_singleton, and_iff_left h, eq_comm]
    · rename_i h
      exact iff_of_false List.not_mem_nil fun hm => h hm.2
  | seq r r' ih ih' =>
    rw [ends, List.mem_flatMap, matches_seq_iff]
    simp only [ih, ih']
  | alt r r' ih ih' =>
    rw [ends, List.mem_append, ih, ih']
    constructor
    · rintro (h | h)
      · exact .left h
      · exact .right h
    · intro h
      cases h with
      | left h => exact .inl h
      | right h => exact .inr h
  | star r ih =>
    rw [ends]
    exact ⟨matches_of_mem_iterate (fun _ _ => ih) _ s,
      fun h => mem_iterate_of_matches (fun _ _ => ih) h _ (Nat.le_refl _)⟩

/-- Whether an expression matches at the beginning of a text. -/
def matchesFront (r : Regex) (s : List Char) : Bool := !(ends s.length r s).isEmpty

theorem matchesFront_iff : r.matchesFront s = true ↔ ∃ t, Matches s.length r s t := by
  rw [matchesFront, Bool.not_eq_true', List.isEmpty_eq_false_iff_exists_mem]
  simp only [mem_ends_iff]

/-! ### Syntax -/

/-- An expression that is being read: the alternatives that are complete and the items of the one
that is not, both latest first. -/
structure Frame where
  alternatives : List Regex := []
  items : List Regex := []
  deriving DecidableEq

/-- Items, latest first, one after the other. -/
def ofItems (items : List Regex) : Regex := items.foldl (fun r item => .seq item r) .eps

/-- The expression of a frame. -/
def Frame.regex (f : Frame) : Regex :=
  f.alternatives.foldl (fun r alternative => .alt alternative r) (ofItems f.items)

/-- What stands before the next character: nothing that can be repeated, an item that can, or
one that has just been repeated. -/
inductive Before
  | nothing
  | item
  | repeated
  deriving DecidableEq

/-- Where in a pattern the next character stands. In a set, `last` may still become the lower
end of a range, and does when a hyphen has followed it. -/
inductive Mode
  | plain (before : Before)
  | escape
  | opened
  | inSet (negated : Bool) (ranges : List (Char × Char)) (last : Option Char) (hyphen : Bool)
      (first : Bool)
  | inSetEscape (negated : Bool) (ranges : List (Char × Char)) (last : Option Char)
      (hyphen : Bool)
  deriving DecidableEq

/-- A pattern that has been read up to some character: the groups that are open, innermost
first. -/
structure Reading where
  frame : Frame := {}
  outer : List Frame := []
  mode : Mode := .plain .nothing
  deriving DecidableEq

namespace Reading

/-- One more item. -/
def push (p : Reading) (item : Regex) (before : Before) : Reading :=
  { p with frame := { p.frame with items := item :: p.frame.items }, mode := .plain before }

/-- The last item repeated. -/
def repeatLast (p : Reading) (f : Regex → Regex) : Option Reading :=
  match p.mode, p.frame.items with
  | .plain .item, item :: items =>
    some { p with frame := { p.frame with items := f item :: items }, mode := .plain .repeated }
  | _, _ => none

/-- A character of a set, and the set from then on. -/
def element (negated : Bool) (ranges : List (Char × Char)) (last : Option Char) (hyphen : Bool)
    (c : Char) : Option Mode :=
  match last, hyphen with
  | some a, true =>
    if a ≤ c then some (.inSet negated ((a, c) :: ranges) none false false) else none
  | some a, false => some (.inSet negated ((a, a) :: ranges) (some c) false false)
  | none, _ => some (.inSet negated ranges (some c) false false)

/-- The set that a bracket closes. -/
def closeSet (negated : Bool) (ranges : List (Char × Char)) (last : Option Char) (hyphen : Bool) :
    Regex :=
  .set negated
    ((last.toList.map fun a => (a, a)) ++ (if hyphen then [('-', '-')] else []) ++ ranges)

/-- One more character of a set. -/
def setStep (p : Reading) (negated : Bool) (ranges : List (Char × Char)) (last : Option Char)
    (hyphen first : Bool) (c : Char) : Option Reading :=
  if c = '\\' then some { p with mode := .inSetEscape negated ranges last hyphen }
  else if c = ']' ∧ first = false then
    some (p.push (closeSet negated ranges last hyphen) .item)
  else if c = '-' ∧ last.isSome ∧ hyphen = false then
    some { p with mode := .inSet negated ranges last true false }
  else (element negated ranges last hyphen c).map fun mode => { p with mode := mode }

/-- One more character outside of sets. -/
def plainStep (p : Reading) (before : Before) (c : Char) : Option Reading :=
  if c = '\\' then some { p with mode := .escape }
  else if c = '[' then some { p with mode := .opened }
  else if c = '.' then some (p.push .any .item)
  else if c = '^' then some (p.push .start .nothing)
  else if c = '$' then some (p.push .finish .nothing)
  else if c = '*' then p.repeatLast .star
  else if c = '+' then p.repeatLast fun r => .seq r (.star r)
  else if c = '?' then
    if before = .repeated then some { p with mode := .plain .nothing }
    else p.repeatLast fun r => .alt r .eps
  else if c = '(' then
    some { frame := {}, outer := p.frame :: p.outer, mode := .plain .nothing }
  else if c = '|' then
    some { p with
      frame := ⟨ofItems p.frame.items :: p.frame.alternatives, []⟩
      mode := .plain .nothing }
  else if c = ')' then
    match p.outer with
    | [] => none
    | frame :: outer =>
      some { frame := { frame with items := p.frame.regex :: frame.items }
             outer := outer
             mode := .plain .item }
  else some (p.push (.set false [(c, c)]) .item)

/-- One more character. -/
def step (p : Reading) (c : Char) : Option Reading :=
  match p.mode with
  | .plain before => p.plainStep before c
  | .escape => if c.isAlphanum then none else some (p.push (.set false [(c, c)]) .item)
  | .opened =>
    if c = '^' then some { p with mode := .inSet true [] none false true }
    else p.setStep false [] none false true c
  | .inSet negated ranges last hyphen first => p.setStep negated ranges last hyphen first c
  | .inSetEscape negated ranges last hyphen =>
    if c.isAlphanum then none
    else (element negated ranges last hyphen c).map fun mode => { p with mode := mode }

end Reading

/-- The expression of a pattern, if the pattern is valid. -/
def compile (pattern : List Char) : Option Regex :=
  (pattern.foldlM Reading.step {}).bind fun p =>
    match p.mode, p.outer with
    | .plain _, [] => some p.frame.regex
    | _, _ => none

/-- The character that stands for itself. -/
def literal (c : Char) : Regex := .set false [(c, c)]

/-- Literals, and then another expression. -/
def literals (l : List Char) (r : Regex) : Regex := l.foldr (fun c r => .seq (literal c) r) r

/-- The characters that do not stand for themselves. -/
def metacharacters : List Char := "\\[.^$*+?(|)".toList

@[simp] theorem matches_literal_iff {c : Char} : Matches n (literal c) s t ↔ s = c :: t := by
  have hself : ∀ c' : Char, inSet false [(c, c)] c' = true ↔ c' = c := by
    intro c'
    simp only [inSet, List.any_cons, List.any_nil, Bool.or_false, bne_iff_ne, ne_eq,
      Bool.not_eq_false, Bool.and_eq_true, decide_eq_true_eq]
    refine ⟨fun h => (Char.le_antisymm h.1 h.2).symm, fun h => ?_⟩
    rw [h]
    exact ⟨Char.le_refl c, Char.le_refl c⟩
  rw [literal, matches_set_iff]
  simp only [hself]
  constructor
  · rintro ⟨c', h, rfl⟩
    exact h
  · intro h
    exact ⟨c, h, rfl⟩

/-- Literals, and then something, match a text that begins with them. -/
theorem matches_literals_iff {l : List Char} :
    Matches n (literals l r) s t ↔
      ∃ u, s = l ++ u ∧ Matches n r u t := by
  induction l generalizing s with
  | nil => simp [literals]
  | cons c l ih =>
    rw [literals, List.foldr_cons, ← literals, matches_seq_iff]
    simp only [matches_literal_iff, ih]
    constructor
    · rintro ⟨_, rfl, u, rfl, h⟩
      exact ⟨u, rfl, h⟩
    · rintro ⟨u, rfl, h⟩
      exact ⟨l ++ u, rfl, u, rfl, h⟩

/-- A character that stands for itself is read as such. -/
theorem step_literal {p : Reading} {before : Before} {c : Char} (hp : p.mode = .plain before)
    (hc : c ∉ metacharacters) : p.step c = some (p.push (literal c) .item) := by
  have hmeta : metacharacters = ['\\', '[', '.', '^', '$', '*', '+', '?', '(', '|', ')'] := rfl
  rw [hmeta] at hc
  simp only [List.mem_cons, List.not_mem_nil, or_false, not_or] at hc
  rw [Reading.step, hp]
  simp only [Reading.plainStep, hc, if_false]
  rfl

/-- Characters that stand for themselves are read one after the other. -/
theorem foldlM_literals {l : List Char} (hl : ∀ c ∈ l, c ∉ metacharacters) {p : Reading}
    {before : Before} (hp : p.mode = .plain before) : ∃ after,
      l.foldlM Reading.step p = some
        { p with
          frame := { p.frame with items := l.reverse.map literal ++ p.frame.items }
          mode := .plain after } := by
  induction l generalizing p before with
  | nil =>
    refine ⟨before, ?_⟩
    rw [← hp]
    rfl
  | cons c l ih =>
    obtain ⟨hc, hl⟩ := List.forall_mem_cons.mp hl
    obtain ⟨after, h⟩ := ih hl (p := p.push (literal c) .item) rfl
    refine ⟨after, ?_⟩
    rw [List.foldlM_cons, step_literal hp hc]
    change l.foldlM Reading.step (p.push (literal c) .item) = _
    rw [h, List.reverse_cons, List.map_append, List.append_assoc]
    rfl

theorem ofItems_literals (l : List Char) (items : List Regex) :
    ofItems (items ++ l.reverse.map literal) =
      literals l (ofItems items) := by
  rw [ofItems, List.foldl_append, List.map_reverse, List.foldl_reverse, List.foldr_map]
  rfl

/-- **Anchored literals**: between `^` and `$` characters that stand for themselves match
themselves. -/
theorem compile_literals {l : List Char} (hl : ∀ c ∈ l, c ∉ metacharacters) :
    compile ('^' :: l ++ ['$']) =
      some (.seq .start (literals l (.seq .finish .eps))) := by
  have hstart : Reading.step {} '^' = some (({} : Reading).push .start .nothing) := rfl
  obtain ⟨after, h⟩ := foldlM_literals hl (p := ({} : Reading).push .start .nothing) rfl
  have hitems : ofItems (.finish :: (l.reverse.map literal ++ [.start])) =
      .seq .start (literals l (.seq .finish .eps)) := by
    have hfold := ofItems_literals l [.finish]
    rw [ofItems] at hfold ⊢
    rw [← List.cons_append, List.foldl_append, ← List.singleton_append, hfold]
    rfl
  rw [compile, List.cons_append, List.foldlM_cons, hstart, Option.bind_eq_bind, Option.bind_some,
    List.foldlM_append, h, Option.bind_eq_bind, Option.bind_some]
  exact congrArg some hitems

/-- Characters that stand for themselves, and then anything up to the end. -/
theorem compile_prefix {l : List Char} (hl : ∀ c ∈ l, c ∉ metacharacters) :
    compile (l ++ ['.', '*', '?', '$']) =
      some (literals l (.seq (.star .any) (.seq .finish .eps))) := by
  obtain ⟨after, h⟩ := foldlM_literals hl (p := ({} : Reading)) rfl
  have hitems := ofItems_literals l [.finish, .star .any]
  rw [compile, List.foldlM_append, h, Option.bind_eq_bind, Option.bind_some, List.append_nil]
  exact congrArg some hitems

/-- A text is matched by anchored literals when it consists of them, but for a line feed at the
end. -/
theorem matchesFront_anchored_iff {l : List Char} :
    (Regex.seq .start (literals l (.seq .finish .eps))).matchesFront s =
      true ↔ s = l ∨ s = l ++ ['\n'] := by
  rw [matchesFront_iff]
  simp only [matches_seq_iff, matches_start_iff, matches_literals_iff, matches_finish_iff,
    matches_eps_iff]
  constructor
  · rintro ⟨t, _, ⟨rfl, -⟩, u, rfl, _, ⟨-, hend⟩, -⟩
    rw [atEnd, Bool.or_eq_true, beq_iff_eq, beq_iff_eq] at hend
    rcases hend with rfl | rfl
    · exact .inl (List.append_nil l)
    · exact .inr rfl
  · intro h
    obtain ⟨t, rfl, hend⟩ : ∃ t, s = l ++ t ∧ atEnd t = true := by
      rcases h with rfl | rfl
      · exact ⟨[], (List.append_nil s).symm, rfl⟩
      · exact ⟨_, rfl, rfl⟩
    exact ⟨t, l ++ t, ⟨rfl, trivial⟩, t, rfl, t, ⟨rfl, hend⟩, rfl⟩

/-- A text without line feeds is matched by literals and anything when it begins with them. -/
theorem matchesFront_prefix_iff {l : List Char} (hs : ∀ c ∈ s, c ≠ '\n') :
    (literals l (.seq (.star .any) (.seq .finish .eps))).matchesFront s =
      true ↔ l <+: s := by
  rw [matchesFront_iff]
  simp only [matches_literals_iff, matches_seq_iff]
  constructor
  · rintro ⟨t, u, rfl, -⟩
    exact List.prefix_append l u
  · rintro ⟨u, rfl⟩
    have hu : Matches (l ++ u).length (.star .any) (u ++ []) [] :=
      matches_star_any fun c hc => hs c (List.mem_append_right l hc)
    rw [List.append_nil] at hu
    exact ⟨[], u, rfl, [], hu, [], .finish [] rfl, .eps []⟩

end Regex
