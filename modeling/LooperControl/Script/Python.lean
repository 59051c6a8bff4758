import LooperControl.Lib.Effect
import LooperControl.Lib.Json
import Mathlib.Data.Int.Log
import Mathlib.Data.Rat.Floor
import Mathlib.Data.List.DropRight

/-!
# The Python built-ins the script calls

The remote script converts values with `int` and `float`, reads dictionaries with `get`,
compares with `==` and indexes sequences. This module states what these do, exceptions
included, on the values `json.loads` can produce. Strings are numbers by Python's rules:
blanks around them are dropped, a sign and single underscores between digits are accepted,
and a digit is any Unicode decimal digit. A conversion to `float` rounds to the nearest
double, ties to even.

Two things are left out: `repr` escapes characters beyond ASCII that are not printable, which are
kept as they are here, and `int` refuses a string of more than 4300 digits.
-/

namespace LooperControl

/-- The exceptions the script meets, with the text `str(e)` gives. -/
inductive PyExc
  | attributeError (text : String)
  | typeError (text : String)
  | valueError (text : String)
  | overflowError (text : String)
  | indexError (text : String)
  | keyError (text : String)
  | liveError (text : String)
  deriving DecidableEq

namespace PyExc

/-- `str(e)`. -/
def str : PyExc → String
  | attributeError text => text
  | typeError text => text
  | valueError text => text
  | overflowError text => text
  | indexError text => text
  | keyError text => text
  | liveError text => text

end PyExc

/-! ### Characters and digits -/

/-- The code points of the zeros of Unicode's decimal digit runs. -/
def decimalZeros : List ℕ :=
  [0x30, 0x660, 0x6f0, 0x7c0, 0x966, 0x9e6, 0xa66, 0xae6, 0xb66, 0xbe6, 0xc66, 0xce6, 0xd66,
    0xde6, 0xe50, 0xed0, 0xf20, 0x1040, 0x1090, 0x17e0, 0x1810, 0x1946, 0x19d0, 0x1a80, 0x1a90,
    0x1b50, 0x1bb0, 0x1c40, 0x1c50, 0xa620, 0xa8d0, 0xa900, 0xa9d0, 0xa9f0, 0xaa50, 0xabf0,
    0xff10, 0x104a0, 0x10d30, 0x11066, 0x110f0, 0x11136, 0x111d0, 0x112f0, 0x11450, 0x114d0,
    0x11650, 0x116c0, 0x11730, 0x118e0, 0x11950, 0x11c50, 0x11d50, 0x11da0, 0x16a60, 0x16ac0,
    0x16b50, 0x1d7ce, 0x1d7d8, 0x1d7e2, 0x1d7ec, 0x1d7f6, 0x1e140, 0x1e2f0, 0x1e950, 0x1fbf0]

/-- The value of a decimal digit. -/
def digitValue? (c : Char) : Option ℕ :=
  decimalZeros.findSome? fun z =>
    if z ≤ c.toNat ∧ c.toNat < z + 10 then some (c.toNat - z) else none

/-- The code points that the number conversions drop from both ends of a string. -/
def blanks : List ℕ :=
  [0x9, 0xa, 0xb, 0xc, 0xd, 0x20, 0x85, 0xa0, 0x1680, 0x2000, 0x2001, 0x2002, 0x2003, 0x2004,
    0x2005, 0x2006, 0x2007, 0x2008, 0x2009, 0x200a, 0x2028, 0x2029, 0x202f, 0x205f, 0x3000]

/-- A character that the number conversions drop from both ends of a string. In a string that is
not ASCII, the four separators from U+001C on are among them. -/
def isBlank (ascii : Bool) (c : Char) : Bool :=
  blanks.contains c.toNat || (!ascii && decide (0x1c ≤ c.toNat ∧ c.toNat ≤ 0x1f))

/-- A string without the blanks at its ends. -/
def strip (l : List Char) : List Char :=
  let blank := isBlank (l.all fun c => decide (c.toNat < 128))
  (l.dropWhile blank).rdropWhile blank

/-- The digits after the first one, single underscores allowed between digits. -/
def readDigits : ℕ → List Char → Option ℕ
  | acc, [] => some acc
  | acc, '_' :: c :: l => (digitValue? c).bind fun d => readDigits (10 * acc + d) l
  | acc, c :: l => (digitValue? c).bind fun d => readDigits (10 * acc + d) l

/-- An unsigned integer literal. -/
def natOfChars? : List Char → Option ℕ
  | [] => none
  | c :: l => (digitValue? c).bind fun d => readDigits d l

/-- The integer a string stands for, if it is an integer literal. -/
def intOfString? (s : String) : Option ℤ :=
  match strip s.toList with
  | '-' :: l => (natOfChars? l).map fun n => -(n : ℤ)
  | '+' :: l => (natOfChars? l).map fun n => (n : ℤ)
  | l => (natOfChars? l).map fun n => (n : ℤ)

theorem digitValue?_of_isDigit {c : Char} (h : c.isDigit = true) :
    digitValue? c = some (c.toNat - '0'.toNat) := by
  have h0 : 0x30 ≤ c.toNat ∧ c.toNat < 0x30 + 10 := by
    simp only [Char.isDigit, Bool.and_eq_true, decide_eq_true_eq, ge_iff_le, UInt32.le_iff_toNat_le]
      at h
    exact ⟨h.1, Nat.lt_succ_of_le h.2⟩
  rw [digitValue?, decimalZeros, List.findSome?_cons, if_pos h0]
  rfl

theorem readDigits_of_isDigit {l : List Char} (h : ∀ c ∈ l, c.isDigit = true) (acc : ℕ) :
    readDigits acc l = some (Nat.ofDigitChars 10 l acc) := by
  induction l generalizing acc with
  | nil => rfl
  | cons c l ih =>
    have hc : c.isDigit = true := h c List.mem_cons_self
    have hne : c ≠ '_' := by
      rintro rfl
      simp [Char.isDigit] at hc
    rw [readDigits, digitValue?_of_isDigit hc, Option.bind_some,
      ih fun c' hc' => h c' (List.mem_cons_of_mem c hc'), Nat.ofDigitChars_cons]
    rintro c' l' rfl
    exact absurd rfl hne

theorem isBlank_of_isDigit {ascii : Bool} {c : Char} (h : c.isDigit = true) :
    isBlank ascii c = false := by
  simp only [Char.isDigit, Bool.and_eq_true, decide_eq_true_eq, ge_iff_le, UInt32.le_iff_toNat_le]
    at h
  have h1 : 48 ≤ c.toNat := h.1
  have h2 : c.toNat ≤ 57 := h.2
  have hblank : c.toNat ∉ blanks := by
    simp only [blanks, List.mem_cons, List.not_mem_nil, or_false, not_or]
    omega
  have hseparator : ¬(0x1c ≤ c.toNat ∧ c.toNat ≤ 0x1f) := by omega
  simp only [isBlank, List.contains_eq_mem, hblank, hseparator, decide_false, Bool.and_false,
    Bool.or_false]

theorem strip_of_isDigit {l : List Char} (h : ∀ c ∈ l, c.isDigit = true) : strip l = l := by
  have hd : ∀ ascii, l.dropWhile (isBlank ascii) = l := by
    intro ascii
    cases l with
    | nil => rfl
    | cons c l =>
      rw [List.dropWhile_cons, isBlank_of_isDigit (h c List.mem_cons_self)]
      rfl
  rw [strip, hd]
  refine List.rdropWhile_eq_self_iff.mpr fun hl => ?_
  -- The last character is a digit as well.
  rw [isBlank_of_isDigit (h _ (List.getLast_mem hl))]
  exact Bool.false_ne_true

/-- **Decimal numerals convert back**: `int(f"{n}")` is `n`. -/
theorem intOfString?_toString (n : ℕ) : intOfString? (toString n) = some (n : ℤ) := by
  have hdig : ∀ c ∈ Nat.toDigits 10 n, c.isDigit = true := fun c hc =>
    Nat.isDigit_of_mem_toDigits (by omega) (by omega) hc
  have hlist : (toString n).toList = Nat.toDigits 10 n := by
    rw [Nat.toString_eq_repr, Nat.toList_repr]
  have hval : natOfChars? (Nat.toDigits 10 n) = some n := by
    have hof : Nat.ofDigitChars 10 (Nat.toDigits 10 n) 0 = n := Nat.ofDigitChars_ten_toDigits
    -- The first digit is read by itself, the others are accumulated onto it.
    rcases hl : Nat.toDigits 10 n with _ | ⟨c, l⟩
    · exact absurd hl Nat.toDigits_ne_nil
    · rw [hl] at hdig hof
      rw [natOfChars?, digitValue?_of_isDigit (hdig c List.mem_cons_self), Option.bind_some,
        readDigits_of_isDigit fun c' hc' => hdig c' (List.mem_cons_of_mem c hc')]
      rw [Nat.ofDigitChars_cons] at hof
      simpa using hof
  rw [intOfString?, hlist, strip_of_isDigit hdig]
  rcases hl : Nat.toDigits 10 n with _ | ⟨c, l⟩
  · exact absurd hl Nat.toDigits_ne_nil
  · have hc : c.isDigit = true := hdig c (by rw [hl]; exact List.mem_cons_self)
    split
    · rename_i h
      obtain ⟨rfl, -⟩ := List.cons.inj h
      simp [Char.isDigit] at hc
    · rename_i h
      obtain ⟨rfl, -⟩ := List.cons.inj h
      simp [Char.isDigit] at hc
    · rw [← hl, hval]
      rfl

/-- Different numbers have different numerals. -/
theorem toString_injective : Function.Injective (toString : ℕ → String) := by
  intro m n h
  have hint := intOfString?_toString m
  rw [h, intOfString?_toString, Option.some_inj] at hint
  exact_mod_cast hint.symm

/-! ### Doubles -/

/-- Rounding to an integer, ties to even. -/
def roundHalfEven (q : ℚ) : ℤ :=
  let f := ⌊q⌋
  if q - f < 1 / 2 then f
  else if 1 / 2 < q - f then f + 1
  else if f % 2 = 0 then f else f + 1

/-- The double nearest to a number: 53 significant bits, exponents from -1074, an infinity
past the largest finite one. -/
def roundToDouble (q : ℚ) : Double :=
  if q = 0 then .finite 0
  else
    let unit : ℚ := 2 ^ max (Int.log 2 |q| - 52) (-1074)
    let r : ℚ := roundHalfEven (q / unit) * unit
    if 2 ^ 1024 ≤ |r| then .infinite (decide (q < 0)) else .finite r

/-- The characters of a numeral with its digits in ASCII. -/
def asciiDigit (c : Char) : Char :=
  match digitValue? c with
  | some d => Char.ofNat (48 + d)
  | none => c

/-- The numeral without its underscores, each of which must stand between two digits. -/
def dropUnderscores : Bool → List Char → Option (List Char)
  | _, [] => some []
  | _, ['_'] => none
  | afterDigit, c :: c' :: l =>
    if c = '_' then
      if afterDigit && c'.isDigit then dropUnderscores false (c' :: l) else none
    else (dropUnderscores c.isDigit (c' :: l)).map (c :: ·)
  | _, [c] => some [c]

/-- The number an unsigned decimal literal denotes: digits with an optional fraction and an
optional exponent. -/
def decimal? (l : List Char) : Option ℚ :=
  let whole := l.takeWhile Char.isDigit
  let rest := l.dropWhile Char.isDigit
  let frac := match rest with
    | '.' :: rest => rest.takeWhile Char.isDigit
    | _ => []
  let rest := match rest with
    | '.' :: rest => rest.dropWhile Char.isDigit
    | rest => rest
  if whole = [] ∧ frac = [] then none
  else
    let mantissa : ℚ := Nat.ofDigitChars 10 (whole ++ frac) 0
    let scaled (e : ℤ) : ℚ := mantissa * 10 ^ (e - frac.length)
    let digits? (l : List Char) : Option ℤ :=
      if l ≠ [] ∧ l.all Char.isDigit then some (Nat.ofDigitChars 10 l 0) else none
    match rest with
    | [] => some (scaled 0)
    | c :: l =>
      if c = 'e' ∨ c = 'E' then
        match l with
        | '-' :: l => (digits? l).map fun e => scaled (-e)
        | '+' :: l => (digits? l).map scaled
        | l => (digits? l).map scaled
      else none

/-- An unsigned `float` literal, the names of infinity and NaN included. -/
def unsignedDouble? (negative : Bool) (l : List Char) : Option Double :=
  let name := String.ofList (l.map Char.toLower)
  if name = "inf" ∨ name = "infinity" then some (.infinite negative)
  else if name = "nan" then some .nan
  else (decimal? l).map fun q => roundToDouble (if negative then -q else q)

/-- The double a string stands for, if it is a `float` literal. -/
def doubleOfString? (s : String) : Option Double :=
  (dropUnderscores false ((strip s.toList).map asciiDigit)).bind fun l =>
    match l with
    | '-' :: l => unsignedDouble? true l
    | '+' :: l => unsignedDouble? false l
    | l => unsignedDouble? false l

/-! ### Conversions, comparisons, access -/

/-- The name of a value's type in the texts of type errors. -/
def typeName : Json → String
  | .null => "NoneType"
  | .bool _ => "bool"
  | .int _ => "int"
  | .float _ => "float"
  | .str _ => "str"
  | .arr _ => "list"
  | .obj _ => "dict"

/-- `repr` of a string, its characters beyond ASCII taken to be printable. -/
def pyRepr (s : String) : String :=
  let quote := if s.contains (Char.ofNat 39) && !s.contains (Char.ofNat 34) then 34 else 39
  let hex (n : ℕ) : Char := if n < 10 then Char.ofNat (48 + n) else Char.ofNat (87 + n)
  let escape (c : Char) : List Char :=
    let backslash := Char.ofNat 92
    if c.toNat = quote ∨ c.toNat = 92 then [backslash, c]
    else if c.toNat = 9 then [backslash, 't']
    else if c.toNat = 10 then [backslash, 'n']
    else if c.toNat = 13 then [backslash, 'r']
    else if c.toNat < 32 ∨ c.toNat = 127 then
      [backslash, 'x', hex (c.toNat / 16), hex (c.toNat % 16)]
    else [c]
  String.ofList (Char.ofNat quote :: s.toList.flatMap escape ++ [Char.ofNat quote])

/-- `int(x)`, without the limit on the digits of a string. -/
def pyInt : Json → Except PyExc ℤ
  | .int n => .ok n
  | .bool b => .ok (if b then 1 else 0)
  | .float (.finite q) => .ok (q.num.tdiv q.den)
  | .float (.infinite _) => .error (.overflowError "cannot convert float infinity to integer")
  | .float .nan => .error (.valueError "cannot convert float NaN to integer")
  | .str s =>
    match intOfString? s with
    | some n => .ok n
    | none => .error (.valueError ("invalid literal for int() with base 10: " ++
        String.ofList ((pyRepr s).toList.take 200)))
  | j => .error (.typeError ("int() argument must be a string, a bytes-like object or a real " ++
      "number, not '" ++ typeName j ++ "'"))

/-- `float(x)`. -/
def pyFloat : Json → Except PyExc Double
  | .float x => .ok x
  | .int n =>
    match roundToDouble n with
    | .finite q => .ok (.finite q)
    | _ => .error (.overflowError "int too large to convert to float")
  | .bool b => .ok (.finite (if b then 1 else 0))
  | .str s =>
    match doubleOfString? s with
    | some x => .ok x
    | none => .error (.valueError ("could not convert string to float: " ++ pyRepr s))
  | j => .error (.typeError ("float() argument must be a string or a real number, not '" ++
      typeName j ++ "'"))

/-- `x == n` for an integer `n`: true and the float of the same value are equal to it. -/
def pyEqInt : Json → ℤ → Bool
  | .int m, n => m == n
  | .bool b, n => (if b then 1 else 0) == n
  | .float (.finite q), n => q == n
  | _, _ => false

/-- `x.get(key, default)`: only a dictionary has the method. -/
def pyGet (j : Json) (key : String) (default : Json) : Except PyExc Json :=
  if j.isObj then .ok ((j.get? key).getD default)
  else .error (.attributeError ("'" ++ typeName j ++ "' object has no attribute 'get'"))

/-- `x[key]`. -/
def pyItem (j : Json) (key : String) : Except PyExc Json :=
  match j.get? key with
  | some v => .ok v
  | none => .error (.keyError (pyRepr key))

/-- The place an index names in a sequence of the given length: negative indices count from
the end. -/
def pyIndex (length : ℕ) (i : ℤ) : Except PyExc ℕ :=
  if 0 ≤ i ∧ i < length then .ok i.toNat
  else if i < 0 ∧ 0 ≤ i + length then .ok (i + length).toNat
  else .error (.indexError "list index out of range")

@[simp] theorem pyInt_str_toString (n : ℕ) : pyInt (.str (toString n)) = .ok (n : ℤ) := by
  rw [pyInt, intOfString?_toString]

theorem pyGet_of_isObj {j : Json} (h : j.isObj = true) (key : String) (default : Json) :
    pyGet j key default = .ok ((j.get? key).getD default) := by
  rw [pyGet, if_pos h]

theorem pyGet_of_not_isObj {j : Json} (h : j.isObj = false) (key : String) (default : Json) :
    ∃ e, pyGet j key default = .error e := by
  rw [pyGet, h]
  exact ⟨_, rfl⟩

theorem pyIndex_ofNat {length i : ℕ} (h : i < length) : pyIndex length (i : ℤ) = .ok i := by
  rw [pyIndex, if_pos ⟨by omega, by omega⟩, Int.toNat_natCast]

/-- A natural number is no index from the end. -/
theorem eq_of_pyIndex_natCast {length i j : ℕ} (h : pyIndex length (i : ℤ) = .ok j) : j = i := by
  rw [pyIndex] at h
  split at h
  · rw [Except.ok.injEq, Int.toNat_natCast] at h
    exact h.symm
  · rw [if_neg (by omega)] at h
    cases h

end LooperControl
