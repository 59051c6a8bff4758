import LooperControl.Script.Dispatcher

/-!
# Address patterns

What the characters of an OSC address pattern stand for, apart from how the dispatcher compares it:
`?` and `*` for characters but slashes, brackets for a character of a set, braces for one of several
strings. `handlers_for_address` translates a pattern to a regular expression.

* `Accepts`: the addresses that a pattern stands for.
* `compile_text`: the expression that a pattern is translated to matches these addresses, and also
  one of them with a line feed behind it.
* `handlersForAddress_text`: which handlers a message finds among addresses without a star.
* `handlersForAddress_register`: which messages reach a handler that is registered with a star.
* `handlersForAddress_register_text`: which patterns do.
-/

namespace LooperControl

open Regex

/-- An element of a set: a character or a range of characters. -/
inductive SetElement
  | char (c : Char)
  | range (low high : Char)

/-- A part of an address pattern. -/
inductive PatternPart
  | char (c : Char)
  | one
  | many
  | set (negated : Bool) (elements : List SetElement)
  | choice (first : List Char) (others : List (List Char))

namespace SetElement

/-- The characters of an element. -/
def Has : SetElement → Char → Prop
  | .char c, c' => c' = c
  | .range low high, c' => low ≤ c' ∧ c' ≤ high

/-- An element between brackets. -/
def text : SetElement → List Char
  | .char c => [c]
  | .range low high => [low, '-', high]

/-- A character that stands for itself between brackets. -/
def IsPlain (c : Char) : Prop := c ≠ ']' ∧ c ≠ '-'

/-- An element that can be written. -/
def WellFormed : SetElement → Prop
  | .char c => IsPlain c
  | .range low high => IsPlain low ∧ IsPlain high ∧ low ≤ high

end SetElement

namespace PatternPart

/-- The strings that a part stands for. -/
def Takes : PatternPart → List Char → Prop
  | .char c, w => w = [c]
  | .one, w => ∃ c, w = [c] ∧ c ≠ '/'
  | .many, w => '/' ∉ w
  | .set negated elements, w => ∃ c, w = [c] ∧ ((∃ e ∈ elements, e.Has c) ↔ negated = false)
  | .choice first others, w => w ∈ first :: others

/-- A part as it is written. -/
def text : PatternPart → List Char
  | .char c => [c]
  | .one => ['?']
  | .many => ['*']
  | .set negated elements =>
    '[' :: ((if negated then ['!'] else []) ++ elements.flatMap SetElement.text ++ [']'])
  | .choice first others =>
    '\x7b' :: (first ++ others.flatMap (fun l => ',' :: l) ++ ['\x7d'])

/-- A part that can be written: its own characters do not begin or end another part. -/
def WellFormed : PatternPart → Prop
  | .char c => c ∉ ['*', '?', '[', '\x7b']
  | .one => True
  | .many => True
  | .set negated elements => elements ≠ [] ∧ (∀ e ∈ elements, e.WellFormed) ∧
      (negated = false → (elements.flatMap SetElement.text).head? ≠ some '!')
  | .choice first others => ∀ l ∈ first :: others, ∀ c ∈ l, c ∉ [',', '\x7d']

/-- The addresses that a pattern stands for. -/
def Accepts : List PatternPart → List Char → Prop
  | [], w => w = []
  | p :: ps, w => ∃ u v, w = u ++ v ∧ p.Takes u ∧ Accepts ps v

end PatternPart

namespace Dispatcher

/-! ### Sets -/

/-- The characters of a set that is being read. -/
def Covers (ranges : List (Char × Char)) (last : Option Char) (c : Char) : Prop :=
  (∃ range ∈ ranges, range.1 ≤ c ∧ c ≤ range.2) ∨ last = some c

/-- The set that a bracket closes matches its characters, or the others. -/
theorem matches_closeSet_iff {n : ℕ} {negated : Bool} {ranges : List (Char × Char)}
    {last : Option Char} {s t : List Char} :
    Matches n (Reading.closeSet negated ranges last false) s t ↔
      ∃ c, s = c :: t ∧ (Covers ranges last c ↔ negated = false) := by
  rw [Reading.closeSet, matches_set_iff]
  refine exists_congr fun c => and_congr_right fun _ => ?_
  have hcovers : (((last.toList.map fun a => (a, a)) ++ (if false then [('-', '-')] else []) ++
      ranges).any fun range => decide (range.1 ≤ c) && decide (c ≤ range.2)) = true ↔
        Covers ranges last c := by
    have hself : ∀ a : Char, a ≤ c ∧ c ≤ a ↔ a = c := fun a =>
      ⟨fun h => Char.le_antisymm h.1 h.2, fun h => h ▸ ⟨Char.le_refl a, Char.le_refl a⟩⟩
    rw [Covers]
    cases last with
    | none => simp
    | some a => simp [hself, or_comm]
  rw [inSet, ← hcovers]
  generalize List.any _ _ = covered
  cases covered <;> cases negated <;> simp

/-- A pattern that has been read into a set. -/
def Stands (p : Reading) (negated : Bool) (ranges : List (Char × Char)) (last : Option Char)
    (hyphen : Bool) : Prop :=
  ∃ first, ∀ c, c ≠ '^' → p.step c = p.setStep negated ranges last hyphen first c

/-- Punctuation that gets a backslash. -/
theorem notAlphanum_of_mem (special : String)
    (h : (special.toList.all fun c => !c.isAlphanum) = true) :
    ∀ c ∈ special.toList, c.isAlphanum = false := by
  simpa using h

/-- The characters that get a backslash between brackets. -/
def bracketSpecial : String := "\\^$.|()+*?"

/-- A character of a set is read as one, with its backslash if it has one. -/
theorem foldlM_bracketChar {p : Reading} {negated hyphen : Bool} {ranges : List (Char × Char)}
    {last : Option Char} (hp : Stands p negated ranges last hyphen) {c : Char}
    (hc : SetElement.IsPlain c) :
    (escape bracketSpecial c).foldlM Reading.step p =
      (Reading.element negated ranges last hyphen c).map fun mode => { p with mode := mode } := by
  obtain ⟨first, hp⟩ := hp
  have hspecial := notAlphanum_of_mem bracketSpecial (by decide)
  rw [escape]
  split
  · rename_i hmem
    have hback : p.step '\\' = some { p with mode := .inSetEscape negated ranges last hyphen } := by
      rw [hp _ (by decide), Reading.setStep, if_pos rfl]
    rw [List.foldlM_cons, hback, Option.bind_eq_bind, Option.bind_some, List.foldlM_cons,
      Reading.step]
    simp only [hspecial c hmem, Bool.false_eq_true, if_false]
    cases Reading.element negated ranges last hyphen c <;> rfl
  · rename_i hmem
    have hne : ∀ c' ∈ bracketSpecial.toList, c ≠ c' := fun c' hc' heq => hmem (heq ▸ hc')
    rw [List.foldlM_cons, hp c (hne '^' (by decide)), Reading.setStep,
      if_neg (hne '\\' (by decide)), if_neg fun h => hc.1 h.1, if_neg fun h => hc.2 h.1]
    cases Reading.element negated ranges last hyphen c <;> rfl

theorem stands_inSet (p : Reading) (negated : Bool) (ranges : List (Char × Char))
    (last : Option Char) (hyphen : Bool) :
    Stands { p with mode := .inSet negated ranges last hyphen false } negated ranges last hyphen :=
  ⟨false, fun _ _ => rfl⟩

/-- What `]` and the characters in front of it are translated to. -/
def bracketText (l : List Char) : List Char := l.flatMap (escape bracketSpecial)

theorem bracketText_cons (c : Char) (l : List Char) :
    bracketText (c :: l) = escape bracketSpecial c ++ bracketText l := List.flatMap_cons

theorem bracketText_append (l l' : List Char) :
    bracketText (l ++ l') = bracketText l ++ bracketText l' := List.flatMap_append

/-- A single character joins a set. -/
theorem foldlM_setChar {p : Reading} {negated : Bool} {ranges : List (Char × Char)}
    {last : Option Char} (hp : Stands p negated ranges last false) {c : Char}
    (hc : SetElement.IsPlain c) : ∃ ranges',
      (escape bracketSpecial c).foldlM Reading.step p =
        some { p with mode := .inSet negated ranges' (some c) false false } ∧
      ∀ c', (∃ range ∈ ranges', range.1 ≤ c' ∧ c' ≤ range.2) ↔ Covers ranges last c' := by
  rw [foldlM_bracketChar hp hc]
  cases last with
  | none => exact ⟨ranges, rfl, fun c' => by simp [Covers]⟩
  | some a =>
    refine ⟨(a, a) :: ranges, rfl, fun c' => ?_⟩
    have hself : a ≤ c' ∧ c' ≤ a ↔ a = c' :=
      ⟨fun h => Char.le_antisymm h.1 h.2, fun h => h ▸ ⟨Char.le_refl a, Char.le_refl a⟩⟩
    simp [Covers, hself, or_comm]

/-- An element joins a set. -/
theorem foldlM_element {p : Reading} {negated : Bool} {ranges : List (Char × Char)}
    {last : Option Char} (hp : Stands p negated ranges last false) {e : SetElement}
    (he : e.WellFormed) : ∃ ranges' last',
      (bracketText e.text).foldlM Reading.step p =
        some { p with mode := .inSet negated ranges' last' false false } ∧
      ∀ c, Covers ranges' last' c ↔ Covers ranges last c ∨ e.Has c := by
  cases e with
  | char c =>
    obtain ⟨ranges', hread, hcovers⟩ := foldlM_setChar hp he
    refine ⟨ranges', some c, ?_, fun c' => ?_⟩
    · rw [bracketText, SetElement.text, List.flatMap_singleton]
      exact hread
    · rw [Covers, hcovers, SetElement.Has, Option.some_inj, eq_comm (a := c)]
  | range low high =>
    obtain ⟨hlow, hhigh, hle⟩ := he
    obtain ⟨ranges', hread, hcovers⟩ := foldlM_setChar hp hlow
    let q : Reading := { p with mode := .inSet negated ranges' (some low) false false }
    have hhyphen : q.step '-' =
        some { q with mode := .inSet negated ranges' (some low) true false } := rfl
    have hread' := foldlM_bracketChar (stands_inSet q negated ranges' (some low) true) hhigh
    have helement : Reading.element negated ranges' (some low) true high =
        some (.inSet negated ((low, high) :: ranges') none false false) := if_pos hle
    rw [helement] at hread'
    refine ⟨(low, high) :: ranges', none, ?_, fun c => ?_⟩
    · have htext : bracketText (SetElement.range low high).text =
          escape bracketSpecial low ++ ('-' :: escape bracketSpecial high) := by
        simp [bracketText, SetElement.text, show escape bracketSpecial '-' = ['-'] by decide]
      rw [htext, List.foldlM_append, hread, Option.bind_eq_bind, Option.bind_some, List.foldlM_cons,
        hhyphen, Option.bind_eq_bind, Option.bind_some]
      exact hread'
    · rw [← hcovers, Covers, SetElement.Has]
      simp [or_comm]

/-- The elements of a set, one after the other. -/
theorem foldlM_elements {elements : List SetElement} (hne : elements ≠ [])
    (h : ∀ e ∈ elements, e.WellFormed) {p : Reading} {negated : Bool}
    {ranges : List (Char × Char)} {last : Option Char} (hp : Stands p negated ranges last false) :
    ∃ ranges' last', (bracketText (elements.flatMap SetElement.text)).foldlM Reading.step p =
        some { p with mode := .inSet negated ranges' last' false false } ∧
      ∀ c, Covers ranges' last' c ↔ Covers ranges last c ∨ ∃ e ∈ elements, e.Has c := by
  induction elements generalizing p ranges last with
  | nil => exact absurd rfl hne
  | cons e elements ih =>
    rw [List.forall_mem_cons] at h
    obtain ⟨ranges', last', hread, hcovers⟩ := foldlM_element hp h.1
    rw [List.flatMap_cons, bracketText_append]
    rcases elements with _ | ⟨e', elements⟩
    · refine ⟨ranges', last', ?_, fun c => ?_⟩
      · rw [List.flatMap_nil, show bracketText [] = [] from rfl, List.append_nil]
        exact hread
      · rw [hcovers]
        simp
    · obtain ⟨ranges'', last'', hread', hcovers'⟩ := ih (List.cons_ne_nil _ _) h.2
        (stands_inSet p negated ranges' last' false)
      refine ⟨ranges'', last'', ?_, fun c => ?_⟩
      · rw [List.foldlM_append, hread, Option.bind_eq_bind, Option.bind_some]
        exact hread'
      · rw [hcovers', hcovers]
        simp [or_assoc]

/-! ### Braces -/

/-- A character outside of sets, with its backslash if it has one. -/
theorem foldlM_escape {special : String} (hspecial : ∀ c ∈ special.toList, c.isAlphanum = false)
    {c : Char} (hc : c ∈ metacharacters → c ∈ special.toList) {p : Reading} {before : Before}
    (hp : p.mode = .plain before) :
    (escape special c).foldlM Reading.step p = some (p.push (literal c) .item) := by
  rw [escape]
  split
  · rename_i hmem
    have hback : p.step '\\' = some { p with mode := .escape } := by
      rw [Reading.step, hp]
      rfl
    have hread : Reading.step { p with mode := .escape } c = some (p.push (literal c) .item) := by
      simp only [Reading.step, hspecial c hmem, Bool.false_eq_true, if_false]
      rfl
    rw [List.foldlM_cons, hback, Option.bind_eq_bind, Option.bind_some, List.foldlM_cons, hread]
    rfl
  · rename_i hmem
    rw [List.foldlM_cons, step_literal hp fun h => hmem (hc h)]
    rfl

/-- The characters that get a backslash between braces. -/
def braceSpecial : String := "\\^$.|()[]+*?"

/-- What the characters of one of several strings are translated to. -/
def braceText (l : List Char) : List Char := l.flatMap (escape braceSpecial)

theorem braceText_cons (c : Char) (l : List Char) :
    braceText (c :: l) = escape braceSpecial c ++ braceText l := List.flatMap_cons

/-- The characters of a string, one after the other. -/
theorem foldlM_braceText (l : List Char) {p : Reading} {before : Before}
    (hp : p.mode = .plain before) : ∃ after, (braceText l).foldlM Reading.step p = some
      { p with
        frame := { p.frame with items := l.reverse.map literal ++ p.frame.items }
        mode := .plain after } := by
  have hspecial := notAlphanum_of_mem braceSpecial (by decide)
  have hmeta : metacharacters ⊆ braceSpecial.toList := by decide
  induction l generalizing p before with
  | nil =>
    refine ⟨before, ?_⟩
    rw [← hp]
    rfl
  | cons c l ih =>
    obtain ⟨after, h⟩ := ih (p := p.push (literal c) .item) rfl
    refine ⟨after, ?_⟩
    rw [braceText_cons, List.foldlM_append, foldlM_escape hspecial (fun h => hmeta h) hp,
      Option.bind_eq_bind, Option.bind_some, h, List.reverse_cons, List.map_append,
      List.append_assoc]
    rfl

/-- A frame matches what its last alternative or one of the others does. -/
theorem matches_frame_iff {n : ℕ} {f : Frame} {s t : List Char} : Matches n f.regex s t ↔
    Matches n (ofItems f.items) s t ∨ ∃ r ∈ f.alternatives, Matches n r s t := by
  have hfold : ∀ (l : List Regex) (r : Regex),
      Matches n (l.foldl (fun r alternative => .alt alternative r) r) s t ↔
        Matches n r s t ∨ ∃ r' ∈ l, Matches n r' s t := by
    intro l
    induction l with
    | nil => simp
    | cons r' l ih =>
      intro r
      rw [List.foldl_cons, ih, matches_alt_iff]
      simp only [List.mem_cons, exists_eq_or_imp]
      tauto
  exact hfold _ _

/-- Literals alone match a string that begins with them. -/
theorem matches_ofItems_iff {n : ℕ} {l s t : List Char} :
    Matches n (ofItems (l.reverse.map literal)) s t ↔ s = l ++ t := by
  have hitems := ofItems_literals l []
  rw [List.nil_append] at hitems
  rw [hitems, matches_literals_iff]
  constructor
  · rintro ⟨u, rfl, h⟩
    rw [matches_eps_iff.mp h]
  · rintro rfl
    exact ⟨t, rfl, .eps t⟩

/-- Further strings between braces are further alternatives. -/
theorem foldlM_choice (others : List (List Char)) {p : Reading} {before : Before}
    (hp : p.mode = .plain before) : ∃ f after,
      (others.flatMap fun l => '|' :: braceText l).foldlM Reading.step p =
        some { p with frame := f, mode := .plain after } ∧
      ∀ n s t, Matches n f.regex s t ↔
        Matches n p.frame.regex s t ∨ ∃ l ∈ others, s = l ++ t := by
  induction others generalizing p before with
  | nil =>
    refine ⟨p.frame, before, ?_, fun n s t => by simp⟩
    rw [← hp]
    rfl
  | cons l others ih =>
    let q : Reading := { p with
      frame := ⟨ofItems p.frame.items :: p.frame.alternatives, []⟩
      mode := .plain .nothing }
    have hbar : p.step '|' = some q := by
      rw [Reading.step, hp]
      rfl
    obtain ⟨after, hread⟩ := foldlM_braceText l (p := q) rfl
    rw [List.append_nil] at hread
    obtain ⟨f, after', hrest, hmatches⟩ := ih (p := { q with
      frame := { q.frame with items := l.reverse.map literal }
      mode := .plain after }) rfl
    refine ⟨f, after', ?_, fun n s t => ?_⟩
    · rw [List.flatMap_cons, List.cons_append, List.foldlM_cons, hbar, Option.bind_eq_bind,
        Option.bind_some, List.foldlM_append, hread, Option.bind_eq_bind, Option.bind_some, hrest]
    · rw [hmatches, matches_frame_iff, matches_frame_iff, matches_ofItems_iff]
      simp only [q, List.mem_cons, exists_eq_or_imp]
      exact or_assoc.trans or_left_comm

/-! ### Parts -/

/-- The characters that get a backslash outside of brackets and braces. -/
def outerSpecial : String := "\\^$.|()[]+?"

/-- What a part is translated to. -/
def partText : PatternPart → List Char
  | .char c => escape outerSpecial c
  | .one => "[^/]".toList
  | .many => "[^/]*".toList
  | .set negated elements => '[' :: ((if negated then ['^'] else []) ++
      bracketText (elements.flatMap SetElement.text) ++ [']'])
  | .choice first others =>
    '(' :: (braceText first ++ (others.flatMap fun l => '|' :: braceText l) ++ [')'])

theorem translate_inBrackets {l : List Char} (h : ']' ∉ l) (rest : List Char) :
    translate .inBrackets (l ++ ']' :: rest) = bracketText l ++ ']' :: translate .outer rest := by
  induction l with
  | nil => rfl
  | cons c l ih =>
    rw [List.mem_cons, not_or] at h
    have hchar : translateChar .inBrackets c = (escape bracketSpecial c, .inBrackets) :=
      if_neg (Ne.symm h.1)
    rw [List.cons_append, translate, hchar, ih h.2, bracketText_cons, List.append_assoc]

theorem translate_bracket {l : List Char} (hne : l ≠ []) (h : ']' ∉ l) (hfirst : l.head? ≠ some '!')
    (rest : List Char) :
    translate .bracket (l ++ ']' :: rest) = bracketText l ++ ']' :: translate .outer rest := by
  rcases l with _ | ⟨c, l⟩
  · exact absurd rfl hne
  · rw [List.mem_cons, not_or] at h
    have hchar : translateChar .bracket c = (escape bracketSpecial c, .inBrackets) := by
      rw [translateChar, if_neg fun heq => hfirst (congrArg some heq), if_neg (Ne.symm h.1)]
      rfl
    rw [List.cons_append, translate, hchar, translate_inBrackets h.2, bracketText_cons,
      List.append_assoc]

theorem translate_inBraces {l : List Char} (h : ∀ c ∈ l, c ∉ [',', '\x7d']) (rest : List Char) :
    translate .inBraces (l ++ rest) = braceText l ++ translate .inBraces rest := by
  induction l with
  | nil => rfl
  | cons c l ih =>
    rw [List.forall_mem_cons] at h
    have hne : ∀ c' ∈ [',', '\x7d'], c ≠ c' := fun c' hc' heq => h.1 (heq ▸ hc')
    have hchar : translateChar .inBraces c = (escape braceSpecial c, .inBraces) := by
      rw [translateChar, if_neg (hne '\x7d' (by decide)), if_neg (hne ',' (by decide))]
      rfl
    rw [List.cons_append, translate, hchar, ih h.2, braceText_cons, List.append_assoc]

theorem translate_choice {others : List (List Char)}
    (h : ∀ l ∈ others, ∀ c ∈ l, c ∉ [',', '\x7d']) (rest : List Char) :
    translate .inBraces ((others.flatMap fun l => ',' :: l) ++ '\x7d' :: rest) =
      (others.flatMap fun l => '|' :: braceText l) ++ ')' :: translate .outer rest := by
  induction others with
  | nil => rfl
  | cons l others ih =>
    rw [List.forall_mem_cons] at h
    have hcomma : translateChar .inBraces ',' = (['|'], .inBraces) := rfl
    rw [List.flatMap_cons, List.flatMap_cons, List.append_assoc, List.append_assoc,
      List.cons_append, List.cons_append, translate, hcomma, translate_inBraces h.1, ih h.2]
    rfl

/-- Brackets do not stand in the elements of a set. -/
theorem notMem_text {elements : List SetElement} (h : ∀ e ∈ elements, e.WellFormed) :
    ']' ∉ elements.flatMap SetElement.text := by
  rw [List.mem_flatMap]
  rintro ⟨e, he, hmem⟩
  have hwf := h e he
  cases e with
  | char c =>
    rw [SetElement.text, List.mem_singleton] at hmem
    exact hwf.1 hmem.symm
  | range low high =>
    simp only [SetElement.text, List.mem_cons, List.not_mem_nil, or_false] at hmem
    obtain ⟨hlow, hhigh, -⟩ := hwf
    rcases hmem with rfl | hmem | rfl
    · exact hlow.1 rfl
    · exact absurd hmem (by decide)
    · exact hhigh.1 rfl

/-- Parts are translated one after the other. -/
theorem translate_part {part : PatternPart} (h : part.WellFormed) (rest : List Char) :
    translate .outer (part.text ++ rest) = partText part ++ translate .outer rest := by
  cases part with
  | char c =>
    have hne : ∀ c' ∈ ['*', '?', '[', '\x7b'], c ≠ c' := fun c' hc' heq => h (heq ▸ hc')
    have hchar : translateChar .outer c = (escape outerSpecial c, .outer) := by
      rw [translateChar, if_neg (hne '*' (by decide)), if_neg (hne '?' (by decide)),
        if_neg (hne '[' (by decide)), if_neg (hne '\x7b' (by decide))]
      rfl
    rw [PatternPart.text, List.singleton_append, translate, hchar, partText]
  | one => rfl
  | many => rfl
  | set negated elements =>
    obtain ⟨hne, hwf, hfirst⟩ := h
    have hempty : elements.flatMap SetElement.text ≠ [] := by
      obtain ⟨e, elements, rfl⟩ := List.exists_cons_of_ne_nil hne
      cases e <;> simp [SetElement.text]
    have hopen : translateChar .outer '[' = (['['], .bracket) := rfl
    cases negated with
    | false =>
      rw [PatternPart.text, partText, List.cons_append, translate, hopen]
      simp only [Bool.false_eq_true, if_false, List.nil_append, List.append_assoc,
        List.singleton_append]
      rw [translate_bracket hempty (notMem_text hwf) (hfirst rfl)]
      simp
    | true =>
      have hnot : translateChar .bracket '!' = (['^'], .inBrackets) := rfl
      rw [PatternPart.text, partText, List.cons_append, translate, hopen]
      simp only [if_true, List.append_assoc, List.singleton_append]
      rw [List.cons_append, translate, hnot, translate_inBrackets (notMem_text hwf)]
      simp
  | choice first others =>
    rw [PatternPart.WellFormed, List.forall_mem_cons] at h
    have hopen : translateChar .outer '\x7b' = (['('], .inBraces) := rfl
    rw [PatternPart.text, partText, List.cons_append, translate, hopen]
    simp only [List.append_assoc, List.singleton_append]
    rw [translate_inBraces h.1, translate_choice h.2]
    simp

/-! ### The expression -/

/-- Any character but a slash. -/
def noSlash : Regex := .set true [('/', '/')]

theorem matches_noSlash_iff {n : ℕ} {s t : List Char} :
    Matches n noSlash s t ↔ ∃ c, s = c :: t ∧ c ≠ '/' := by
  rw [noSlash, matches_set_iff]
  refine exists_congr fun c => and_congr_right fun _ => ?_
  have hself : '/' ≤ c ∧ c ≤ '/' ↔ c = '/' :=
    ⟨fun h => Char.le_antisymm h.2 h.1, fun h => h ▸ ⟨Char.le_refl _, Char.le_refl _⟩⟩
  rw [inSet, List.any_cons, List.any_nil, Bool.or_false, bne_iff_ne, ne_eq, Bool.not_eq_true,
    ← Bool.not_eq_true, Bool.and_eq_true, decide_eq_true_iff, decide_eq_true_iff, hself]

/-- A part is read as one item that takes what the part stands for. -/
theorem foldlM_part {part : PatternPart} (h : part.WellFormed) {p : Reading} {before : Before}
    (hp : p.mode = .plain before) : ∃ r after,
      (partText part).foldlM Reading.step p =
        some { p with
          frame := { p.frame with items := r :: p.frame.items }
          mode := .plain after } ∧
      ∀ n s t, Matches n r s t ↔ ∃ u, s = u ++ t ∧ part.Takes u := by
  obtain ⟨frame, outer, mode⟩ := p
  obtain rfl := hp
  cases part with
  | char c =>
    have hspecial := notAlphanum_of_mem outerSpecial (by decide)
    have hmeta : metacharacters ⊆ '*' :: outerSpecial.toList := by decide
    have hstar : c ≠ '*' := fun heq => h (by simp [heq])
    refine ⟨literal c, .item, foldlM_escape hspecial (fun hc => ?_) rfl, ?_⟩
    · exact (List.mem_cons.mp (hmeta hc)).resolve_left hstar
    intro n s t
    rw [matches_literal_iff]
    simp [PatternPart.Takes]
  | one =>
    refine ⟨noSlash, .item, rfl, fun n s t => ?_⟩
    rw [matches_noSlash_iff]
    constructor
    · rintro ⟨c, rfl, hc⟩
      exact ⟨[c], rfl, c, rfl, hc⟩
    · rintro ⟨_, rfl, c, rfl, hc⟩
      exact ⟨c, rfl, hc⟩
  | many =>
    refine ⟨.star noSlash, .repeated, rfl, fun n s t => ?_⟩
    rw [matches_star_iff fun s t => matches_noSlash_iff]
    refine exists_congr fun w => and_congr_right fun _ => ?_
    exact ⟨fun h hmem => h _ hmem rfl, fun h c hc heq => h (heq ▸ hc)⟩
  | set negated elements =>
    obtain ⟨hne, hwf, -⟩ := h
    let q : Reading := ⟨frame, outer, .opened⟩
    -- The circumflex of a negated set has been read, or there is none.
    obtain ⟨q', hq, hstands, hsame⟩ : ∃ q' : Reading,
        (if negated then ['^'] else []).foldlM Reading.step q = some q' ∧
          Stands q' negated [] none false ∧ { q' with mode := .opened } = q := by
      cases negated with
      | false => exact ⟨q, rfl, ⟨true, fun c hc => if_neg hc⟩, rfl⟩
      | true => exact ⟨_, rfl, ⟨true, fun _ _ => rfl⟩, rfl⟩
    obtain ⟨ranges, last, hread, hcovers⟩ := foldlM_elements hne hwf hstands
    have hframe : q'.frame = frame ∧ q'.outer = outer := by
      injection hsame with hframe houter
      exact ⟨hframe, houter⟩
    obtain ⟨rfl, rfl⟩ := hframe
    refine ⟨Reading.closeSet negated ranges last false, .item, ?_, fun n s t => ?_⟩
    · have hopen : Reading.step ⟨q'.frame, q'.outer, .plain before⟩ '[' = some q := rfl
      rw [partText, List.foldlM_cons, hopen, Option.bind_eq_bind, Option.bind_some,
        List.append_assoc, List.foldlM_append, hq, Option.bind_eq_bind, Option.bind_some,
        List.foldlM_append, hread]
      rfl
    · rw [matches_closeSet_iff]
      have hempty : ∀ c, ¬Covers [] none c := by simp [Covers]
      simp only [hcovers, hempty, false_or, PatternPart.Takes]
      constructor
      · rintro ⟨c, rfl, hc⟩
        exact ⟨[c], rfl, c, rfl, hc⟩
      · rintro ⟨_, rfl, c, rfl, hc⟩
        exact ⟨c, rfl, hc⟩
  | choice first others =>
    let q : Reading := { frame := {}, outer := frame :: outer, mode := .plain .nothing }
    obtain ⟨after, hfirst⟩ := foldlM_braceText first (p := q) rfl
    rw [List.append_nil] at hfirst
    obtain ⟨f, after', hothers, hmatches⟩ := foldlM_choice others (p := { q with
      frame := { q.frame with items := first.reverse.map literal }
      mode := .plain after }) rfl
    refine ⟨f.regex, .item, ?_, fun n s t => ?_⟩
    · have hopen : Reading.step ⟨frame, outer, .plain before⟩ '(' = some q := rfl
      rw [partText, List.foldlM_cons, hopen, Option.bind_eq_bind, Option.bind_some,
        List.append_assoc, List.foldlM_append, hfirst, Option.bind_eq_bind, Option.bind_some,
        List.foldlM_append, hothers]
      rfl
    · rw [hmatches, matches_frame_iff, matches_ofItems_iff]
      simp only [q, List.not_mem_nil, false_and, exists_false, or_false, PatternPart.Takes,
        List.mem_cons]
      constructor
      · rintro (rfl | ⟨l, hl, rfl⟩)
        · exact ⟨first, rfl, .inl rfl⟩
        · exact ⟨l, rfl, .inr hl⟩
      · rintro ⟨u, rfl, rfl | hu⟩
        · exact .inl rfl
        · exact .inr ⟨u, hu, rfl⟩

/-- A pattern as it is written. -/
def patternText (parts : List PatternPart) : List Char := parts.flatMap PatternPart.text

/-- Parts are read as items that take, one after the other, an address that they stand for. -/
theorem foldlM_parts {parts : List PatternPart} (h : ∀ part ∈ parts, part.WellFormed) {p : Reading}
    {before : Before} (hp : p.mode = .plain before) : ∃ items after,
      (translate .outer (patternText parts)).foldlM Reading.step p =
        some { p with
          frame := { p.frame with items := items ++ p.frame.items }
          mode := .plain after } ∧
      ∀ n r s t, Matches n (items.foldl (fun r item => .seq item r) r) s t ↔
        ∃ w u, s = w ++ u ∧ PatternPart.Accepts parts w ∧ Matches n r u t := by
  induction parts generalizing p before with
  | nil =>
    refine ⟨[], before, ?_, fun n r s t => ?_⟩
    · rw [← hp]
      rfl
    · constructor
      · intro hm
        exact ⟨[], s, rfl, rfl, hm⟩
      · rintro ⟨_, u, rfl, rfl, hm⟩
        exact hm
  | cons part parts ih =>
    rw [List.forall_mem_cons] at h
    obtain ⟨r, after, hread, hr⟩ := foldlM_part h.1 hp
    obtain ⟨items, after', hrest, hitems⟩ := ih h.2 (p := { p with
      frame := { p.frame with items := r :: p.frame.items }
      mode := .plain after }) rfl
    refine ⟨items ++ [r], after', ?_, fun n q s t => ?_⟩
    · rw [patternText, List.flatMap_cons, translate_part h.1, List.foldlM_append, hread,
        Option.bind_eq_bind, Option.bind_some, ← patternText, hrest, List.append_assoc]
      rfl
    · rw [List.foldl_append, List.foldl_cons, List.foldl_nil, matches_seq_iff]
      simp only [hr, hitems, PatternPart.Accepts]
      constructor
      · rintro ⟨v, ⟨u, rfl, hu⟩, w, u', rfl, hw, hm⟩
        exact ⟨u ++ w, u', (List.append_assoc u w u').symm, ⟨u, w, rfl, hu, hw⟩, hm⟩
      · rintro ⟨_, u', rfl, ⟨u, w, rfl, hu, hw⟩, hm⟩
        exact ⟨w ++ u', ⟨u, List.append_assoc u w u', hu⟩, w, u', rfl, hw, hm⟩

/-- **A pattern is translated to an expression for its addresses**: the expression is valid, and
matches an address that the pattern stands for, and one of them with a line feed behind it. -/
theorem compile_text {parts : List PatternPart} (h : ∀ part ∈ parts, part.WellFormed)
    {address : String} (haddress : address.toList = patternText parts) :
    ∃ r, Regex.compile (patternOf address) = some r ∧
      ∀ s, r.matchesFront s ↔
        ∃ w, PatternPart.Accepts parts w ∧ (s = w ∨ s = w ++ ['\n']) := by
  obtain ⟨items, after, hread, hitems⟩ :=
    foldlM_parts h (p := ({} : Reading).push .start .nothing) rfl
  have hstart : Reading.step {} '^' = some (({} : Reading).push .start .nothing) := rfl
  refine ⟨ofItems (.finish :: (items ++ [.start])), ?_, fun s => ?_⟩
  · rw [patternOf, haddress, Regex.compile, List.cons_append, List.foldlM_cons, hstart,
      Option.bind_eq_bind, Option.bind_some, List.foldlM_append, hread]
    rfl
  · rw [matchesFront_iff, ofItems, ← List.cons_append, List.foldl_append, List.foldl_cons,
      List.foldl_cons, List.foldl_nil]
    simp only [matches_seq_iff, matches_start_iff, hitems, matches_finish_iff, matches_eps_iff]
    constructor
    · rintro ⟨t, _, ⟨rfl, -⟩, w, u, rfl, hw, _, ⟨-, hend⟩, -⟩
      refine ⟨w, hw, ?_⟩
      rw [atEnd, Bool.or_eq_true, beq_iff_eq, beq_iff_eq] at hend
      rcases hend with rfl | rfl
      · exact .inl (List.append_nil w)
      · exact .inr rfl
    · rintro ⟨w, hw, hs⟩
      obtain ⟨u, rfl, hend⟩ : ∃ u, s = w ++ u ∧ atEnd u = true := by
        rcases hs with rfl | rfl
        · exact ⟨[], (List.append_nil s).symm, rfl⟩
        · exact ⟨_, rfl, rfl⟩
      exact ⟨u, w ++ u, ⟨rfl, trivial⟩, w, u, rfl, hw, u, ⟨rfl, hend⟩, rfl⟩

/-! ### Registered addresses without a star -/

/-- A pattern finds a registered address: one that it stands for, or one of these with a line feed
behind it. -/
def Finds (parts : List PatternPart) (addr : String) : Prop :=
  ∃ w, PatternPart.Accepts parts w ∧ (addr.toList = w ∨ addr.toList = w ++ ['\n'])

/-- The handlers of the addresses that are found, or the default handler. -/
def orDefault {α : Type} (d : Dispatcher α) : List (String × List α) → List α
  | [] => d.defaultHandler.toList
  | entry :: found => (entry :: found).flatMap Prod.snd

open Classical in
/-- **Which handlers a message finds** among addresses without a star: those of all the addresses
that its pattern finds, in the order of registration, or the default handler if there are none. -/
theorem handlersForAddress_text {α : Type} {d : Dispatcher α} {parts : List PatternPart}
    (h : ∀ part ∈ parts, part.WellFormed) {address : String}
    (haddress : address.toList = patternText parts)
    (hstar : ∀ entry ∈ d.map, '*' ∉ entry.1.toList) :
    d.handlersForAddress address =
      some (d.orDefault (d.map.filter fun entry => decide (Finds parts entry.1))) := by
  obtain ⟨r, hr, hmatch⟩ := compile_text h haddress
  have hsearch : ∀ map : List (String × List α), (∀ entry ∈ map, '*' ∉ entry.1.toList) →
      search r address map =
        some ((map.filter fun entry => decide (Finds parts entry.1)).flatMap Prod.snd,
          !(map.filter fun entry => decide (Finds parts entry.1)).isEmpty) := by
    intro map hmap
    induction map with
    | nil => rfl
    | cons entry map ih =>
      rw [List.forall_mem_cons] at hmap
      obtain ⟨addr, handlers⟩ := entry
      have hfinds : r.matchesFront addr.toList ↔ Finds parts addr := hmatch addr.toList
      rw [search, matchesAddress, if_neg hmap.1, ih hmap.2]
      by_cases hfound : Finds parts addr
      · rw [if_pos (hfinds.mpr hfound), List.filter_cons, if_pos (decide_eq_true hfound)]
        rfl
      · rw [if_neg fun hm => hfound (hfinds.mp hm), List.filter_cons,
          if_neg fun hm => hfound (of_decide_eq_true hm)]
        rfl
  rw [handlersForAddress, hr]
  simp only
  rw [hsearch _ hstar, Option.map_some]
  cases d.map.filter fun entry => decide (Finds parts entry.1) <;> rfl

/-- Handlers for three addresses, and one for the others. -/
def threeAddresses : Dispatcher ℕ := ⟨[("/a", [1]), ("/b", [2]), ("/cd", [3])], some 4⟩

open Classical in
theorem handlersForAddress_text_threeAddresses : threeAddresses.handlersForAddress "/?" =
    some (threeAddresses.orDefault (threeAddresses.map.filter fun entry =>
      decide (Finds [.char '/', .one] entry.1))) :=
  @handlersForAddress_text ℕ threeAddresses [.char '/', .one]
    (by simp [PatternPart.WellFormed]) "/?" rfl (by decide)

/-! ### Registered addresses with a star -/

/-- An address that goes on behind a prefix, without a line feed but at its end. -/
def Below (front address : List Char) : Prop :=
  front <+: address ∧ '\n' ∉ (address.drop front.length).dropLast

instance (front address : List Char) : Decidable (Below front address) :=
  inferInstanceAs (Decidable (_ ∧ _))

theorem below_iff {front address : List Char} :
    Below front address ↔ ∃ rest, address = front ++ rest ∧ '\n' ∉ rest.dropLast := by
  constructor
  · rintro ⟨⟨rest, rfl⟩, h⟩
    rw [List.drop_left] at h
    exact ⟨rest, rfl, h⟩
  · rintro ⟨rest, rfl, h⟩
    refine ⟨List.prefix_append front rest, ?_⟩
    rwa [List.drop_left]

/-- Literals and then anything match the addresses below them. -/
theorem matchesFront_below_iff {front s : List Char} :
    (literals front (.seq (.star .any) (.seq .finish .eps))).matchesFront s ↔ Below front s := by
  rw [matchesFront_iff, below_iff]
  simp only [matches_literals_iff, matches_seq_iff, matches_finish_iff, matches_eps_iff,
    matches_star_iff fun s t => matches_any_iff]
  constructor
  · rintro ⟨t, _, rfl, u, ⟨w, rfl, hw⟩, _, ⟨rfl, hend⟩, rfl⟩
    refine ⟨_, rfl, fun hmem => ?_⟩
    rw [atEnd, Bool.or_eq_true, beq_iff_eq, beq_iff_eq] at hend
    rcases hend with rfl | rfl
    · rw [List.append_nil] at hmem
      exact hw _ (List.dropLast_subset w hmem) rfl
    · rw [List.dropLast_concat] at hmem
      exact hw _ hmem rfl
  · rintro ⟨rest, rfl, hrest⟩
    rcases List.eq_nil_or_concat rest with rfl | ⟨w, c, rfl⟩
    · exact ⟨[], [], rfl, [], ⟨[], rfl, List.forall_mem_nil _⟩, [], ⟨rfl, rfl⟩, rfl⟩
    · rw [List.concat_eq_append, List.dropLast_concat] at hrest
      have hw : ∀ a ∈ w, a ≠ '\n' := fun a ha heq => hrest (heq ▸ ha)
      by_cases hc : c = '\n'
      · obtain rfl := hc
        refine ⟨['\n'], w ++ ['\n'], ?_, ['\n'], ⟨w, rfl, hw⟩, _, ⟨rfl, rfl⟩, rfl⟩
        rw [List.concat_eq_append]
      · refine ⟨[], w ++ [c], ?_, [], ⟨w ++ [c], (List.append_nil _).symm, ?_⟩, [], ⟨rfl, rfl⟩, rfl⟩
        · rw [List.concat_eq_append]
        · rw [List.forall_mem_append, List.forall_mem_singleton]
          exact ⟨hw, hc⟩

/-- Whether a message reaches what is registered under an address with a star at its end: its own
address is a valid pattern, and goes on behind what stands before the star or matches the registered
address itself. -/
def reaches (addr address : String) : Bool :=
  match Regex.compile (patternOf address) with
  | none => false
  | some r => r.matchesFront (addr ++ "*").toList || decide (Below addr.toList address.toList)

/-- **What reaches a handler** that is registered with a star. -/
theorem handlersForAddress_register {α : Type} {addr : String} (hplain : Ordinary addr.toList)
    (handler : α) (address : String) :
    (register {} (addr ++ "*") handler).handlersForAddress address =
      some (if reaches addr address then [handler] else []) := by
  have hstar : '*' ∈ (addr ++ "*").toList := by
    rw [String.toList_append]
    exact List.mem_append_right _ (by decide)
  rw [handlersForAddress, reaches]
  rcases Regex.compile (patternOf address) with _ | r
  · rfl
  · rw [register]
    change (search r address [(addr ++ "*", [handler])]).map _ =
      some (if r.matchesFront (addr ++ "*").toList ||
        decide (Below addr.toList address.toList) then [handler] else [])
    rw [search, matchesAddress, search, if_pos hstar, compile_wildcardOf hplain]
    cases hmatch : r.matchesFront (addr ++ "*").toList with
    | true => rfl
    | false =>
      have hbelow : (literals addr.toList (.seq (.star .any) (.seq .finish .eps))).matchesFront
          address.toList = decide (Below addr.toList address.toList) := by
        rw [Bool.eq_iff_iff, decide_eq_true_iff]
        exact matchesFront_below_iff
      rw [if_neg Bool.false_ne_true, Bool.false_or, Option.map_some, Option.bind_some,
        Option.map_some, hbelow]
      cases decide (Below addr.toList address.toList) <;> rfl

/-- Which patterns reach such a handler: those that stand for the registered address itself, and
those that are written below it. -/
theorem reaches_text_iff {parts : List PatternPart} (h : ∀ part ∈ parts, part.WellFormed)
    {addr address : String} (haddress : address.toList = patternText parts) :
    reaches addr address ↔
      PatternPart.Accepts parts (addr ++ "*").toList ∨ Below addr.toList address.toList := by
  obtain ⟨r, hr, hmatch⟩ := compile_text h haddress
  rw [reaches, hr]
  simp only [Bool.or_eq_true, decide_eq_true_iff, hmatch]
  refine or_congr_left ⟨?_, fun haccepts => ⟨_, haccepts, .inl rfl⟩⟩
  rintro ⟨w, hw, rfl | hlast⟩
  · exact hw
  · -- The registered address does not end in a line feed.
    rw [String.toList_append] at hlast
    have hlast' := congrArg List.getLast? hlast
    simp at hlast'

open Classical in
/-- **Which patterns find a handler that is registered with a star**, behind ordinary characters:
those that stand for the registered address itself, and those that are written below it. -/
theorem handlersForAddress_register_text {α : Type} {addr : String}
    (hplain : Ordinary addr.toList) (handler : α) {parts : List PatternPart}
    (h : ∀ part ∈ parts, part.WellFormed) {address : String}
    (haddress : address.toList = patternText parts) :
    (register {} (addr ++ "*") handler).handlersForAddress address =
      some (if PatternPart.Accepts parts (addr ++ "*").toList ∨ Below addr.toList address.toList
        then [handler] else []) := by
  rw [handlersForAddress_register hplain]
  simp only [reaches_text_iff h haddress]

open Classical in
theorem handlersForAddress_register_stars :
    (register {} ("/loopercontrol/" ++ "*") 1).handlersForAddress "/*/*" =
      some (if PatternPart.Accepts [.char '/', .many, .char '/', .many]
          ("/loopercontrol/" ++ "*").toList ∨ Below "/loopercontrol/".toList "/*/*".toList
        then [1] else []) :=
  handlersForAddress_register_text (by decide) 1 (by simp [PatternPart.WellFormed]) rfl

end Dispatcher

end LooperControl
