import LooperControl.Lib.Dict
import LooperControl.Lib.Json
import Mathlib.Data.List.TakeWhile
import Mathlib.Tactic.Common

/-!
# Reading JSON texts

`JsonText.parse` reads a text by the JSON grammar, strict about it: a control character inside a
string and anything behind the value are errors. A repeated key of an object counts with its last
value. Numerals without a fraction and an exponent are integers. What double any other numeral
stands for is a parameter.

* `readUnits_eq_some_iff`: string literals are read as the grammar has them.
* `parse_membersText`: the text of an object is read as the members it was made of.
-/

namespace JsonText

/-- The double quote. -/
def quote : Char := Char.ofNat 34

/-- The backslash. -/
def backslash : Char := Char.ofNat 92

/-! ### Strings -/

/-- The value of a hexadecimal digit. -/
def hexDigit? (c : Char) : Option ℕ :=
  if 48 ≤ c.toNat ∧ c.toNat ≤ 57 then some (c.toNat - 48)
  else if 97 ≤ c.toNat ∧ c.toNat ≤ 102 then some (c.toNat - 87)
  else if 65 ≤ c.toNat ∧ c.toNat ≤ 70 then some (c.toNat - 55)
  else none

/-- The code unit that four hexadecimal digits spell. -/
def hexUnit? (a b c d : Char) : Option ℕ := do
  let a ← hexDigit? a
  let b ← hexDigit? b
  let c ← hexDigit? c
  let d ← hexDigit? d
  return 4096 * a + 256 * b + 16 * c + d

/-- The code units that the characters after a backslash stand for. -/
def escapes : List (Char × ℕ) :=
  [(quote, 34), (backslash, 92), ('/', 47), ('b', 8), ('f', 12), ('n', 10), ('r', 13), ('t', 9)]

/-- The rest of a string literal after its opening quote: its code units, and the text behind the
closing quote. -/
def readUnits : List Char → Option (List ℕ × List Char)
  | [] => none
  | c :: l =>
    if c = quote then some ([], l)
    else if c = backslash then
      match l with
      | [] => none
      | e :: l =>
        if e = 'u' then
          match l with
          | d₁ :: d₂ :: d₃ :: d₄ :: l => (hexUnit? d₁ d₂ d₃ d₄).bind fun unit =>
              (readUnits l).map fun r => (unit :: r.1, r.2)
          | _ => none
        else (escapes.lookup e).bind fun unit =>
          (readUnits l).map fun r => (unit :: r.1, r.2)
    else if c.toNat < 32 then none
    else (readUnits l).map fun r => (c.toNat :: r.1, r.2)

/-- A character that a string literal spells by itself. -/
def IsPlain (c : Char) : Prop := c ≠ quote ∧ c ≠ backslash ∧ 32 ≤ c.toNat

instance (c : Char) : Decidable (IsPlain c) := inferInstanceAs (Decidable (_ ∧ _ ∧ _))

/-- The rest of a string literal, its code units, and what is behind it. -/
inductive Literal : List Char → List ℕ → List Char → Prop
  | close (l : List Char) : Literal (quote :: l) [] l
  | unicode {d₁ d₂ d₃ d₄ : Char} {unit : ℕ} {l : List Char} {units : List ℕ} {r : List Char} :
      hexUnit? d₁ d₂ d₃ d₄ = some unit → Literal l units r →
        Literal (backslash :: 'u' :: d₁ :: d₂ :: d₃ :: d₄ :: l) (unit :: units) r
  | escape {e : Char} {unit : ℕ} {l : List Char} {units : List ℕ} {r : List Char} :
      escapes.lookup e = some unit → Literal l units r →
        Literal (backslash :: e :: l) (unit :: units) r
  | plain {c : Char} {l : List Char} {units : List ℕ} {r : List Char} :
      IsPlain c → Literal l units r → Literal (c :: l) (c.toNat :: units) r

/-- **String literals are read as the grammar has them.** -/
theorem readUnits_eq_some_iff {l r : List Char} {units : List ℕ} :
    readUnits l = some (units, r) ↔ Literal l units r := by
  have hne : backslash ≠ quote := by decide
  constructor
  · intro h
    induction l using readUnits.induct generalizing units r with
    | case1 => cases h
    | case2 l =>
      rw [readUnits.eq_def] at h
      cases h
      exact .close l
    | case3 =>
      rw [readUnits.eq_def] at h
      cases h
    | case4 d₁ d₂ d₃ d₄ l _ ih =>
      rw [readUnits.eq_def] at h
      simp only [hne, if_false, if_true, Option.bind_eq_some_iff, Option.map_eq_some_iff] at h
      obtain ⟨unit, hunit, ⟨units', r'⟩, hread, heq⟩ := h
      cases heq
      exact .unicode hunit (ih hread)
    | case5 l =>
      rw [readUnits.eq_def] at h
      simp only [hne, if_false, if_true] at h
      cases h
    | case6 e l hu _ ih =>
      rw [readUnits.eq_def] at h
      simp only [hne, hu, if_false, if_true, Option.bind_eq_some_iff, Option.map_eq_some_iff] at h
      obtain ⟨unit, hunit, ⟨units', r'⟩, hread, heq⟩ := h
      cases heq
      exact .escape hunit (ih hread)
    | case7 c l hquote hbackslash hcontrol =>
      rw [readUnits.eq_def] at h
      simp only [hquote, hbackslash, hcontrol, if_false, if_true] at h
      cases h
    | case8 c l hquote hbackslash hcontrol ih =>
      rw [readUnits.eq_def] at h
      simp only [hquote, hbackslash, hcontrol, if_false, Option.map_eq_some_iff] at h
      obtain ⟨⟨units', r'⟩, hread, heq⟩ := h
      cases heq
      exact .plain ⟨hquote, hbackslash, Nat.le_of_not_lt hcontrol⟩ (ih hread)
  · intro h
    induction h with
    | close l =>
      rw [readUnits.eq_def]
      rfl
    | unicode hunit _ ih =>
      rw [readUnits.eq_def]
      simp only [hne, if_false, if_true, hunit, Option.bind_some, ih, Option.map_some]
    | @escape e unit l units r hunit _ ih =>
      have hu : e ≠ 'u' := by
        rintro rfl
        cases hunit
      rw [readUnits.eq_def]
      simp only [hne, hu, if_false, if_true, hunit, Option.bind_some, ih, Option.map_some]
    | plain hc _ ih =>
      obtain ⟨hquote, hbackslash, hcontrol⟩ := hc
      rw [readUnits.eq_def]
      simp only [hquote, hbackslash, Nat.not_lt.mpr hcontrol, if_false, ih, Option.map_some]

/-- The character of a code unit. A surrogate by itself has none. -/
def unitChar (unit : ℕ) : Char := if unit.isValidChar then Char.ofNat unit else Char.ofNat 0xfffd

/-- The characters of a list of code units. A high and a low surrogate make one character. -/
def joinUnits : List ℕ → List Char
  | [] => []
  | [unit] => [unitChar unit]
  | hi :: lo :: l =>
    if 0xd800 ≤ hi ∧ hi < 0xdc00 ∧ 0xdc00 ≤ lo ∧ lo < 0xe000 then
      Char.ofNat (0x10000 + 1024 * (hi - 0xd800) + (lo - 0xdc00)) :: joinUnits l
    else unitChar hi :: joinUnits (lo :: l)

/-- The rest of a string literal after its opening quote: the string, and the text behind it. -/
def readString (l : List Char) : Option (String × List Char) :=
  (readUnits l).map fun r => (String.ofList (joinUnits r.1), r.2)

/-! ### Numbers -/

/-- The characters of numerals. -/
def isNumeral (c : Char) : Bool :=
  c.isDigit || c = '+' || c = '-' || c = '.' || c = 'e' || c = 'E'

/-- A list without its sign. -/
def unsigned (signs : List Char) (l : List Char) : List Char :=
  if l.head?.any fun c => signs.contains c then l.tail else l

/-- One digit or more. -/
def isDigits (l : List Char) : Bool := !l.isEmpty && l.all Char.isDigit

/-- An exponent, or none. -/
def isExponent (l : List Char) : Bool :=
  l.isEmpty || (l.head? = some 'e' || l.head? = some 'E') && isDigits (unsigned ['+', '-'] l.tail)

/-- A fraction and an exponent, either of which may be missing. -/
def isFraction (l : List Char) : Bool :=
  if l.head? = some '.' then
    isDigits (l.tail.takeWhile Char.isDigit) && isExponent (l.tail.dropWhile Char.isDigit)
  else isExponent l

/-- A whole number: no zero in front. -/
def isWhole (l : List Char) : Bool := isDigits l && (l = ['0'] || l.head? ≠ some '0')

/-- A numeral of the grammar. -/
def isNumber (l : List Char) : Bool :=
  isWhole ((unsigned ['-'] l).takeWhile Char.isDigit) &&
    isFraction ((unsigned ['-'] l).dropWhile Char.isDigit)

variable (double : List Char → Double)

/-- The value of a numeral. -/
def numberValue (l : List Char) : Json :=
  let digits := unsigned ['-'] l
  if digits.all Char.isDigit then
    let n : ℤ := Nat.ofDigitChars 10 digits 0
    .int (if l.head? = some '-' then -n else n)
  else .float (double l)

/-- A numeral at the front of a text. -/
def readNumber (l : List Char) : Option (Json × List Char) :=
  if isNumber (l.takeWhile isNumeral) then
    some (numberValue double (l.takeWhile isNumeral), l.dropWhile isNumeral)
  else none

/-! ### Values -/

/-- A character between the parts of a text. -/
def isBlank (c : Char) : Bool := c.toNat = 32 || c.toNat = 9 || c.toNat = 10 || c.toNat = 13

/-- A text without the blanks in front. -/
def skip (l : List Char) : List Char := l.dropWhile isBlank

/-- The text behind a character, which must come next but for blanks. -/
def expect (c : Char) (l : List Char) : Option (List Char) :=
  if (skip l).head? = some c then some (skip l).tail else none

/-- A word at the front of a text. -/
def readWord (word : String) (v : Json) (l : List Char) : Option (Json × List Char) :=
  if word.toList.isPrefixOf l then some (v, l.drop word.toList.length) else none

/-- A word or a number. -/
def readScalar (l : List Char) : Option (Json × List Char) :=
  (((readWord "true" (.bool true) l).or (readWord "false" (.bool false) l)).or
    (readWord "null" .null l)).or (readNumber double l)

/-- Items with commas between them, up to a closing character. Every item takes a character at
least, so that the length of the text is fuel enough. -/
def readItems {α : Type} (item : List Char → Option (α × List Char)) (close : Char) :
    ℕ → List Char → Option (List α × List Char)
  | 0, _ => none
  | n + 1, l => (item l).bind fun r =>
      match expect ',' r.2 with
      | some l => (readItems item close n l).map fun rs => (r.1 :: rs.1, rs.2)
      | none => (expect close r.2).map fun l => ([r.1], l)

/-- A member of an object. -/
def readMember (value : List Char → Option (Json × List Char)) (l : List Char) :
    Option ((String × Json) × List Char) := do
  let l ← expect quote l
  let key ← readString l
  let l ← expect ':' key.2
  let v ← value l
  return ((key.1, v.1), v.2)

/-- The object with the given members, the last one of a key taken. -/
def object (members : List (String × Json)) : Json :=
  .obj ((∅ : Dict String Json).insertAll members).items

/-- A value at the front of a text. Every bracket takes a character, so that the length of the text
is fuel enough. -/
def readValue : ℕ → List Char → Option (Json × List Char)
  | 0, _ => none
  | n + 1, l =>
    match expect quote l with
    | some l => (readString l).map fun r => (.str r.1, r.2)
    | none =>
      match expect '[' l with
      | some l =>
        match expect ']' l with
        | some l => some (.arr [], l)
        | none => (readItems (readValue n) ']' n l).map fun r => (.arr r.1, r.2)
      | none =>
        match expect '\x7b' l with
        | some l =>
          match expect '\x7d' l with
          | some l => some (object [], l)
          | none => (readItems (readMember (readValue n)) '\x7d' n l).map fun r =>
              (object r.1, r.2)
        | none => readScalar double (skip l)

/-- The value that a text spells. -/
def parse (text : String) : Option Json :=
  (readValue double (text.toList.length + 1) text.toList).bind fun r =>
    if skip r.2 = [] then some r.1 else none

/-- A string is read as the characters of its literal. -/
theorem readString_eq_some_iff {l r : List Char} {s : String} : readString l = some (s, r) ↔
    ∃ units, Literal l units r ∧ String.ofList (joinUnits units) = s := by
  simp only [readString, Option.map_eq_some_iff, Prod.exists, Prod.mk.injEq, readUnits_eq_some_iff]
  constructor
  · rintro ⟨units, r', hliteral, hs, rfl⟩
    exact ⟨units, hliteral, hs⟩
  · rintro ⟨units, hliteral, hs⟩
    exact ⟨units, r, hliteral, hs, rfl⟩

/-! ### Strings that need no escapes -/

theorem unitChar_toNat (c : Char) : unitChar c.toNat = c := by
  have hvalid : c.toNat.isValidChar := c.valid
  rw [unitChar, if_pos hvalid, Char.ofNat_toNat]

/-- The code units of characters are joined to the characters. -/
theorem joinUnits_map_toNat (l : List Char) : joinUnits (l.map Char.toNat) = l := by
  induction l with
  | nil => rfl
  | cons c l ih =>
    rcases l with _ | ⟨d, l⟩
    · rw [List.map_singleton, joinUnits, unitChar_toNat]
    · have hvalid : c.toNat.isValidChar := c.valid
      -- No character is a surrogate.
      have hpair :
          ¬(0xd800 ≤ c.toNat ∧ c.toNat < 0xdc00 ∧ 0xdc00 ≤ d.toNat ∧ d.toNat < 0xe000) := by
        rw [Nat.isValidChar] at hvalid
        omega
      rw [List.map_cons, List.map_cons, joinUnits, if_neg hpair, unitChar_toNat, ← List.map_cons,
        ih]

/-- A string that a literal spells as it stands. -/
def Plain (s : String) : Prop := ∀ c ∈ s.toList, IsPlain c

instance (s : String) : Decidable (Plain s) := List.decidableBAll IsPlain s.toList

/-- A plain string in quotes is read as it stands. -/
theorem readString_plain {s : String} (h : Plain s) (tail : List Char) :
    readString (s.toList ++ quote :: tail) = some (s, tail) := by
  have hliteral : ∀ l : List Char, (∀ c ∈ l, IsPlain c) →
      Literal (l ++ quote :: tail) (l.map Char.toNat) tail := by
    intro l hl
    induction l with
    | nil => exact .close tail
    | cons c l ih =>
      rw [List.forall_mem_cons] at hl
      exact .plain hl.1 (ih hl.2)
  refine readString_eq_some_iff.mpr ⟨_, hliteral s.toList h, ?_⟩
  rw [joinUnits_map_toNat, String.ofList_toList]

variable {double}

/-! ### Numerals -/

theorem isNumeral_of_isDigit {c : Char} (h : c.isDigit = true) : isNumeral c = true := by
  rw [isNumeral, h]
  rfl

private theorem forall_mem_of_unsigned (signs : List Char) {l : List Char} {p : Char → Prop}
    (hsigns : ∀ c ∈ signs, p c) (h : ∀ c ∈ unsigned signs l, p c) : ∀ c ∈ l, p c := by
  rcases l with _ | ⟨c, l⟩
  · simp
  rw [unsigned] at h
  split at h
  · rename_i hsign
    rw [List.forall_mem_cons]
    exact ⟨hsigns c (by simpa using hsign), h⟩
  · exact h

private theorem forall_mem_of_takeWhile {l : List Char} {p q : Char → Prop} [DecidablePred q]
    (hq : ∀ c, q c → p c) (h : ∀ c ∈ l.dropWhile q, p c) : ∀ c ∈ l, p c := by
  intro c hc
  rw [← List.takeWhile_append_dropWhile (p := fun c => decide (q c)) (l := l), List.mem_append]
    at hc
  rcases hc with hc | hc
  · exact hq c (by simpa using List.mem_takeWhile_imp hc)
  · exact h c hc

private theorem isNumeral_of_isExponent {l : List Char} (h : isExponent l = true) :
    ∀ c ∈ l, isNumeral c = true := by
  rcases l with _ | ⟨c, l⟩
  · simp
  simp only [isExponent, isDigits, List.isEmpty_cons, List.head?_cons, List.tail_cons,
    Option.some_inj, Bool.false_or, Bool.and_eq_true, Bool.or_eq_true, decide_eq_true_eq,
    List.all_eq_true] at h
  obtain ⟨he, -, hdigits⟩ := h
  rw [List.forall_mem_cons]
  refine ⟨?_, forall_mem_of_unsigned ['+', '-'] (by simp [isNumeral])
    fun c hc => isNumeral_of_isDigit (hdigits c hc)⟩
  rcases he with rfl | rfl <;> rfl

private theorem isNumeral_of_isFraction {l : List Char} (h : isFraction l = true) :
    ∀ c ∈ l, isNumeral c = true := by
  rw [isFraction] at h
  split at h
  · rename_i hpoint
    rcases l with _ | ⟨c, l⟩
    · cases hpoint
    obtain rfl := Option.some.inj hpoint
    rw [Bool.and_eq_true] at h
    rw [List.forall_mem_cons]
    refine ⟨rfl, forall_mem_of_takeWhile (q := fun c => c.isDigit = true)
      (fun c => isNumeral_of_isDigit) ?_⟩
    simpa using isNumeral_of_isExponent h.2
  · exact isNumeral_of_isExponent h

/-- A numeral has the characters of numerals. -/
theorem isNumeral_of_isNumber {l : List Char} (h : isNumber l = true) :
    ∀ c ∈ l, isNumeral c = true := by
  rw [isNumber, Bool.and_eq_true] at h
  refine forall_mem_of_unsigned ['-'] (by simp [isNumeral])
    (forall_mem_of_takeWhile (q := fun c => c.isDigit = true) (fun c => isNumeral_of_isDigit) ?_)
  simpa using isNumeral_of_isFraction h.2

/-- A numeral starts with a digit or a minus sign. -/
theorem head_of_isNumber {l : List Char} (h : isNumber l = true) :
    ∃ c m, l = c :: m ∧ (c.isDigit = true ∨ c = '-') := by
  rcases l with _ | ⟨c, l⟩
  · exact absurd h (by decide)
  refine ⟨c, l, rfl, ?_⟩
  by_cases hc : c = '-'
  · exact .inr hc
  · rw [isNumber, isWhole, isDigits] at h
    rcases hdigit : c.isDigit with _ | _
    · simp [unsigned, hc, hdigit] at h
    · exact .inl rfl

/-- **A numeral in front of something else** is read to its end. -/
theorem readValue_number {n : ℕ} {l digits rest : List Char} (h : isNumber digits = true)
    (hl : skip l = digits ++ rest) (hrest : ∀ c ∈ rest.head?, isNumeral c = false) :
    readValue double (n + 1) l = some (numberValue double digits, rest) := by
  obtain ⟨c, m, hdigits, hc⟩ := head_of_isNumber h
  have hother : ∀ d, d.isDigit = false → d ≠ '-' → c ≠ d := by
    rintro d hd hminus rfl
    rcases hc with hc | hc
    · rw [hc] at hd
      cases hd
    · exact hminus hc
  have hskip : skip l = c :: (m ++ rest) := by rw [hl, hdigits, List.cons_append]
  have hexpect : ∀ d, c ≠ d → expect d l = none := by
    intro d hd
    rw [expect, hskip]
    simp [hd]
  have hword : ∀ (w : Char) (word : List Char) v, c ≠ w →
      readWord (String.ofList (w :: word)) v (c :: (m ++ rest)) = none := by
    intro w word v hw
    have hcw : (w == c) = false := by simpa using Ne.symm hw
    rw [readWord, String.toList_ofList, List.isPrefixOf, hcw]
    rfl
  have htake : (digits ++ rest).takeWhile isNumeral = digits := by
    rw [List.takeWhile_append_of_pos (isNumeral_of_isNumber h)]
    rcases rest with _ | ⟨d, rest⟩
    · simp
    · simp [hrest d rfl]
  have hdrop : (digits ++ rest).dropWhile isNumeral = rest := by
    rw [List.dropWhile_append_of_pos (isNumeral_of_isNumber h)]
    rcases rest with _ | ⟨d, rest⟩
    · rfl
    · simp [hrest d rfl]
  rw [readValue, hexpect _ (hother _ (by decide) (by decide)),
    hexpect _ (hother _ (by decide) (by decide)), hexpect _ (hother _ (by decide) (by decide)),
    hskip]
  have htrue := hword 't' ['r', 'u', 'e'] (.bool true) (hother _ (by decide) (by decide))
  have hfalse := hword 'f' ['a', 'l', 's', 'e'] (.bool false) (hother _ (by decide) (by decide))
  have hnull := hword 'n' ['u', 'l', 'l'] .null (hother _ (by decide) (by decide))
  have hall : c :: (m ++ rest) = digits ++ rest := by rw [hdigits, List.cons_append]
  change readScalar double (c :: (m ++ rest)) = _
  rw [readScalar]
  change (((readWord (String.ofList ['t', 'r', 'u', 'e']) _ _).or
    (readWord (String.ofList ['f', 'a', 'l', 's', 'e']) _ _)).or
      (readWord (String.ofList ['n', 'u', 'l', 'l']) _ _)).or _ = _
  rw [htrue, hfalse, hnull, Option.none_or, Option.none_or, Option.none_or, readNumber, hall,
    htake, hdrop, if_pos h]

/-! ### The decimal digits of a number -/

/-- The digits of a positive number do not start with a zero. -/
theorem head?_toDigits {n : ℕ} (hn : 0 < n) : (Nat.toDigits 10 n).head? ≠ some '0' := by
  induction n using Nat.strong_induction_on with
  | _ n ih =>
    by_cases hlt : n < 10
    · rw [Nat.toDigits_of_lt_base hlt, List.head?_cons, ne_eq, Option.some_inj,
        Nat.digitChar_eq_zero]
      exact Nat.pos_iff_ne_zero.mp hn
    · have hle := Nat.le_of_not_lt hlt
      rw [Nat.toDigits_of_base_le (by decide) hle,
        List.head?_append_of_ne_nil _ Nat.toDigits_ne_nil]
      exact ih (n / 10) (by omega) (by omega)

theorem isDigit_of_mem_toDigits {n : ℕ} {c : Char} (h : c ∈ Nat.toDigits 10 n) :
    c.isDigit = true :=
  Nat.isDigit_of_mem_toDigits (by decide) (by decide) h

/-- What does not start with a sign has none. -/
theorem unsigned_of_head?_ne {l : List Char} (h : l.head? ≠ some '-') : unsigned ['-'] l = l := by
  rw [unsigned]
  rcases l with _ | ⟨c, l⟩
  · rfl
  · have hc : c ≠ '-' := fun hc => h (congrArg some hc)
    simp [hc]

/-- A minus sign may stand in front of a numeral that has none. -/
theorem isNumber_neg {l : List Char} (h : l.head? ≠ some '-') :
    isNumber ('-' :: l) = isNumber l := by
  rw [isNumber, isNumber, unsigned_of_head?_ne h]
  rfl

theorem head?_toDigits_ne_minus (n : ℕ) : (Nat.toDigits 10 n).head? ≠ some '-' := by
  intro hminus
  cases isDigit_of_mem_toDigits (List.mem_of_head? hminus)

theorem unsigned_toDigits (n : ℕ) : unsigned ['-'] (Nat.toDigits 10 n) = Nat.toDigits 10 n :=
  unsigned_of_head?_ne (head?_toDigits_ne_minus n)

theorem isWhole_toDigits (n : ℕ) : isWhole (Nat.toDigits 10 n) = true := by
  have hdigits : ∀ c ∈ Nat.toDigits 10 n, c.isDigit = true := fun c => isDigit_of_mem_toDigits
  rw [isWhole, isDigits, List.all_eq_true.mpr hdigits]
  rcases Nat.eq_zero_or_pos n with rfl | hn
  · rw [Nat.toDigits_zero]
    rfl
  · simp [head?_toDigits hn, Nat.toDigits_ne_nil]

/-- Decimal digits are a numeral of the grammar. -/
theorem isNumber_toDigits (n : ℕ) : isNumber (Nat.toDigits 10 n) = true := by
  have hdigits : ∀ c ∈ Nat.toDigits 10 n, c.isDigit = true := fun c => isDigit_of_mem_toDigits
  rw [isNumber, unsigned_toDigits, List.takeWhile_eq_self_iff.mpr hdigits,
    List.dropWhile_eq_nil_iff.mpr hdigits, isWhole_toDigits]
  rfl

/-- Decimal digits stand for their number. -/
theorem numberValue_toDigits (n : ℕ) : numberValue double (Nat.toDigits 10 n) = .int n := by
  have hdigits : ∀ c ∈ Nat.toDigits 10 n, c.isDigit = true := fun c => isDigit_of_mem_toDigits
  rw [numberValue, unsigned_toDigits]
  dsimp only
  rw [if_pos (List.all_eq_true.mpr hdigits), if_neg (head?_toDigits_ne_minus n),
    Nat.ofDigitChars_ten_toDigits]

/-! ### Objects, member by member -/

theorem expect_eq_some_iff {c : Char} {l r : List Char} :
    expect c l = some r ↔ skip l = c :: r := by
  rw [expect]
  rcases skip l with _ | ⟨d, m⟩
  · simp
  · simp [eq_comm]

theorem readValue_object {n : ℕ} {l body : List Char} (hl : skip l = '\x7b' :: body)
    (hbody : expect '\x7d' body = none) : readValue double (n + 1) l =
      (readItems (readMember (readValue double n)) '\x7d' n body).map fun r =>
        (object r.1, r.2) := by
  have hquote : expect quote l = none := by
    rw [expect, hl]
    rfl
  have hbracket : expect '[' l = none := by
    rw [expect, hl]
    rfl
  rw [readValue, hquote, hbracket, expect_eq_some_iff.mpr hl]
  dsimp only
  rw [hbody]

theorem readValue_string {n : ℕ} {l body : List Char} (hl : skip l = quote :: body) :
    readValue double (n + 1) l = (readString body).map fun r => (.str r.1, r.2) := by
  rw [readValue, expect_eq_some_iff.mpr hl]

/-- A member with a plain key, up to its value. -/
theorem readMember_key {key : String} (hkey : Plain key)
    {value : List Char → Option (Json × List Char)} {l rest : List Char}
    (hl : skip l = quote :: (key.toList ++ quote :: ':' :: rest)) :
    readMember value l = (value rest).map fun v => ((key, v.1), v.2) := by
  have hsep : expect ':' (':' :: rest) = some rest := rfl
  rw [readMember, expect_eq_some_iff.mpr hl]
  simp only [Option.bind_eq_bind, Option.bind_some, readString_plain hkey, hsep]
  rcases value rest with _ | v <;> rfl

/-- The members of an object after one has been read. -/
theorem readItems_succ {α : Type} {item : List Char → Option (α × List Char)} {close : Char}
    {n : ℕ} {l r : List Char} {as : List α} :
    readItems item close (n + 1) l = some (as, r) ↔ ∃ a m, item l = some (a, m) ∧
      ((∃ m' as', expect ',' m = some m' ∧ readItems item close n m' = some (as', r) ∧
          as = a :: as') ∨
        (expect ',' m = none ∧ expect close m = some r ∧ as = [a])) := by
  rw [readItems, Option.bind_eq_some_iff]
  constructor
  · rintro ⟨⟨a, m⟩, ha, h⟩
    refine ⟨a, m, ha, ?_⟩
    dsimp only at h
    rcases hnext : expect ',' m with _ | m'
    · rw [hnext] at h
      obtain ⟨m', hend, heq⟩ := Option.map_eq_some_iff.mp h
      obtain ⟨rfl, rfl⟩ := Prod.mk.inj heq
      exact .inr ⟨rfl, hend, rfl⟩
    · rw [hnext] at h
      obtain ⟨⟨as', r'⟩, hrest, heq⟩ := Option.map_eq_some_iff.mp h
      obtain ⟨rfl, rfl⟩ := Prod.mk.inj heq
      exact .inl ⟨m', as', rfl, hrest, rfl⟩
  · rintro ⟨a, m, ha, ⟨m', as', hnext, hrest, rfl⟩ | ⟨hnext, hend, rfl⟩⟩
    · refine ⟨(a, m), ha, ?_⟩
      simp only [hnext, hrest, Option.map_some]
    · refine ⟨(a, m), ha, ?_⟩
      simp only [hnext, hend, Option.map_some]

/-- A lookup in an object finds the last member of a key. -/
theorem get?_object (ms : List (String × Json)) (key : String) :
    (object ms).get? key = Store.replay (fun _ => none) ms key := by
  have hview := congrFun (Dict.view_insertAll (∅ : Dict String Json) ms) key
  rw [Dict.view_empty] at hview
  exact hview

/-- What stands in an object is among the members that were read. -/
theorem mem_of_get?_object {ms : List (String × Json)} {key : String} {v : Json}
    (h : (object ms).get? key = some v) : (key, v) ∈ ms := by
  rw [get?_object] at h
  exact Store.mem_of_replay h

/-- An object without repeated keys has the members as they were read. -/
theorem object_of_nodup {ms : List (String × Json)} (h : (ms.map Prod.fst).Nodup) :
    object ms = .obj ms := by
  have hitems : ((∅ : Dict String Json).insertAll ms).items = [] ++ ms :=
    Dict.items_insertAll_of_nodup h
  rw [object, hitems, List.nil_append]

/-- What a text that starts with a brace spells. -/
theorem parse_eq_some {text : String} {body : List Char} {v : Json}
    (htext : text.toList = '\x7b' :: body) (hbody : expect '\x7d' body = none)
    (h : parse double text = some v) : ∃ n ms r,
      readItems (readMember (readValue double (n + 1))) '\x7d' (n + 1) body = some (ms, r) ∧
        v = object ms := by
  rw [parse, htext, List.length_cons, readValue_object rfl hbody] at h
  obtain ⟨⟨v', r⟩, hread, h⟩ := Option.bind_eq_some_iff.mp h
  obtain ⟨-, hv⟩ := Option.ite_none_right_eq_some.mp h
  obtain ⟨⟨ms, r'⟩, hitems, heq⟩ := Option.map_eq_some_iff.mp hread
  cases heq
  exact ⟨body.length, ms, r', hitems, (Option.some.inj hv).symm⟩

/-! ### Object texts with given members -/

/-- A text of a value, wherever it stands in an object. -/
def Spells (double : List Char → Double) (text : List Char) (v : Json) : Prop :=
  ∀ n rest, (∀ c ∈ rest.head?, c = ',' ∨ c = '\x7d') →
    readValue double (n + 1) (' ' :: (text ++ rest)) = some (v, rest)

theorem spells_string {s : String} (h : Plain s) :
    Spells double (quote :: (s.toList ++ [quote])) (.str s) := by
  intro n rest _
  have hl : skip (' ' :: (quote :: (s.toList ++ [quote]) ++ rest)) =
      quote :: (s.toList ++ quote :: rest) := by
    rw [List.cons_append, List.append_assoc]
    rfl
  rw [readValue_string hl, readString_plain h]
  rfl

theorem spells_number {digits : List Char} (h : isNumber digits = true) :
    Spells double digits (numberValue double digits) := by
  intro n rest hrest
  refine readValue_number h ?_ fun c hc => ?_
  · obtain ⟨c, m, rfl, hc⟩ := head_of_isNumber h
    have hblank : isBlank c = false := by
      rcases hc with hc | rfl
      · have hlow : 48 ≤ c.toNat := by
          simp only [Char.isDigit, Bool.and_eq_true, decide_eq_true_eq, ge_iff_le,
            UInt32.le_iff_toNat_le] at hc
          exact hc.1
        simp only [isBlank, Bool.or_eq_false_iff, decide_eq_false_iff_not]
        omega
      · rfl
    exact List.dropWhile_cons_of_neg (p := isBlank) (by rw [hblank]; exact Bool.false_ne_true)
  · rcases hrest c hc with rfl | rfl <;> rfl

/-- The text of an object behind its opening brace, from keys and the texts of values. -/
def membersText : List (String × List Char) → List Char
  | [] => ['\x7d']
  | [m] => quote :: (m.1.toList ++ quote :: ':' :: ' ' :: (m.2 ++ ['\x7d']))
  | m :: ms => quote :: (m.1.toList ++ quote :: ':' :: ' ' :: (m.2 ++ ',' :: ' ' :: membersText ms))

/-- The members of an object, each read from the text of its value. -/
theorem readItems_membersText {ms : List (String × List Char × Json)} (hne : ms ≠ [])
    (hms : ∀ m ∈ ms, Plain m.1 ∧ Spells double m.2.1 m.2.2) {n k : ℕ} (hn : ms.length ≤ n)
    {l : List Char} (hl : skip l = membersText (ms.map fun m => (m.1, m.2.1))) :
    readItems (readMember (readValue double (k + 1))) '\x7d' n l =
      some (ms.map fun m => (m.1, m.2.2), []) := by
  induction ms generalizing n l with
  | nil => exact absurd rfl hne
  | cons m ms ih =>
    obtain ⟨n, rfl⟩ : ∃ n', n = n' + 1 :=
      Nat.exists_eq_add_one.mpr (Nat.lt_of_lt_of_le (by simp) hn)
    rw [List.forall_mem_cons] at hms
    obtain ⟨⟨hkey, hspells⟩, hms⟩ := hms
    rw [readItems_succ]
    rcases ms with _ | ⟨m₂, ms⟩
    · have hmember := (readMember_key hkey hl).trans (congrArg _ (hspells k ['\x7d'] (by simp)))
      exact ⟨_, _, hmember, .inr ⟨rfl, rfl, rfl⟩⟩
    · have hmember := (readMember_key hkey hl).trans (congrArg _ (hspells k _ (by simp)))
      refine ⟨_, _, hmember, .inl ⟨_, _, rfl, ih (List.cons_ne_nil _ _) hms ?_ ?_, rfl⟩⟩
      · exact Nat.le_of_succ_le_succ hn
      · rcases ms with _ | ⟨m₃, ms⟩ <;> rfl

theorem length_le_length_membersText (ms : List (String × List Char)) :
    ms.length ≤ (membersText ms).length := by
  induction ms with
  | nil => exact Nat.zero_le _
  | cons m ms ih =>
    rcases ms with _ | ⟨m₂, ms⟩
    · exact Nat.succ_pos _
    · simp only [membersText, List.length_cons, List.length_append] at ih ⊢
      omega

/-- **Reading an object text** gives the object with the members that it was made of. -/
theorem parse_membersText {ms : List (String × List Char × Json)} (hne : ms ≠ [])
    (hms : ∀ m ∈ ms, Plain m.1 ∧ Spells double m.2.1 m.2.2) {text : String}
    (htext : text.toList = '\x7b' :: membersText (ms.map fun m => (m.1, m.2.1))) :
    parse double text = some (object (ms.map fun m => (m.1, m.2.2))) := by
  have hopen : expect '\x7d' (membersText (ms.map fun m => (m.1, m.2.1))) = none := by
    rcases ms with _ | ⟨m₁, _ | ⟨m₂, ms⟩⟩
    · exact absurd rfl hne
    · rfl
    · rfl
  have hskip : skip (membersText (ms.map fun m => (m.1, m.2.1))) =
      membersText (ms.map fun m => (m.1, m.2.1)) := by
    rcases ms with _ | ⟨m₁, _ | ⟨m₂, ms⟩⟩ <;> rfl
  have hlength := length_le_length_membersText (ms.map fun m => (m.1, m.2.1))
  rw [List.length_map] at hlength
  rw [parse, htext, List.length_cons, readValue_object rfl hopen,
    readItems_membersText hne hms (Nat.le_succ_of_le hlength) hskip]
  rfl

end JsonText
