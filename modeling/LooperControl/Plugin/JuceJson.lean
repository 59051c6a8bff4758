import LooperControl.Lib.Decimals
import LooperControl.Lib.JsonWriter
import LooperControl.Plugin.MessageProtocol

/-!
# `JSON::parse` on standard JSON text

`Juce.Standard` says of a `Juce` what its documentation says of `JSON::parse`: the text of an object
is read by the JSON grammar, and a syntax error gives an empty value. `Juce.Prints` says that
`JSON::toString` writes objects so that they are read back. `Juce.standard` is a stand-in that does
both.
-/

namespace LooperControl

namespace Juce

/-- `JSON::parse` reads the text of an object by the grammar, or gives an empty value. A finite
number prints as a numeral. `double` is the number that a numeral with a fraction or an exponent is
read as. -/
structure Standard (J : Juce) (double : List Char → Double) : Prop where
  parse_object : ∀ text body, text.toList = '\x7b' :: body →
    J.parse text = (JsonText.parse double text).getD .null
  floatText_number : ∀ q, JsonText.isNumber (J.floatText q).toList = true

/-- The number that a numeral with a fraction and no exponent stands for. -/
def decimal (l : List Char) : Double :=
  let digits := JsonText.unsigned ['-'] l
  let fraction := (digits.dropWhile Char.isDigit).tail
  let n : ℤ := Nat.ofDigitChars 10 (digits.takeWhile Char.isDigit ++ fraction) 0
  .finite (if l.head? = some '-' then -n / 10 ^ fraction.length else n / 10 ^ fraction.length)

/-- The text of a number below ten, to the tenth. -/
def tenths (q : ℚ) : List Char :=
  [((q * 10).floor.toNat / 10 % 10).digitChar, '.', ((q * 10).floor.toNat % 10).digitChar]

theorem isNumber_tenths (q : ℚ) : JsonText.isNumber (tenths q) = true := by
  have hall : ∀ a < 10, ∀ b < 10, JsonText.isNumber [a.digitChar, '.', b.digitChar] = true := by
    decide
  exact hall _ (Nat.mod_lt _ (by decide)) _ (Nat.mod_lt _ (by decide))

/-- A stand-in that reads standard JSON text, and prints numbers below ten to the tenth. -/
def standard : Juce where
  parse text := (JsonText.parse decimal text).getD .null
  floatText q := String.ofList (tenths q)
  toText := plain.toText
  toFloat := plain.toFloat
  toBool := plain.toBool
  toInt := plain.toInt
  isInt := plain.isInt
  resizesAtOnce := true
  parse_port n := by
    have htext : ("\x7b\"port\": " ++ toString n ++ "\x7d").toList =
        '\x7b' :: JsonText.membersText
          ([("port", Nat.toDigits 10 n, Json.int n)].map fun m => (m.1, m.2.1)) := by
      simp [Nat.toString_eq_repr, Nat.toList_repr, JsonText.membersText, JsonText.quote]
    have hspells : JsonText.Spells decimal (Nat.toDigits 10 n) (.int n) := by
      rw [← JsonText.numberValue_toDigits]
      exact JsonText.spells_number (JsonText.isNumber_toDigits n)
    have hkey : JsonText.Plain "port" := by decide
    rw [JsonText.parse_membersText (List.cons_ne_nil _ _)
      (List.forall_mem_singleton.mpr ⟨hkey, hspells⟩) htext]
    rfl
  toText_str := plain.toText_str
  toInt_int := plain.toInt_int
  isInt_int := plain.isInt_int

theorem standard_standard : standard.Standard decimal where
  parse_object _ _ _ := rfl
  floatText_number q := by
    rw [standard, String.toList_ofList]
    exact isNumber_tenths q

/-! ### `JSON::toString` -/

/-- An `int`. -/
def IsInt (n : ℤ) : Prop := -2147483648 ≤ n ∧ n < 2147483648

/-- An `int64`. -/
def IsInt64 (n : ℤ) : Prop := -9223372036854775808 ≤ n ∧ n < 9223372036854775808

theorem IsInt.isInt64 {n : ℤ} (h : IsInt n) : IsInt64 n := by
  obtain ⟨hlow, hhigh⟩ := h
  constructor
  · omega
  · omega

/-- The value of a finite `double`. -/
def IsDouble (q : ℚ) : Prop :=
  ∃ m e : ℤ, -9007199254740992 < m ∧ m < 9007199254740992 ∧ -1074 ≤ e ∧ e ≤ 971 ∧ q = m * 2 ^ e

/-- A value that a `var` can hold and JSON text can carry. Property names are not empty. -/
def Representable (v : Json) : Prop := v.Printable IsInt64 IsDouble (· ≠ "")

/-- What is relied on where objects are written by `JSON::toString`, here `text`: they are read back,
and an empty value, which is what a missing property gives, has the empty text. -/
structure Prints (J : Juce) (text : Json → String) : Prop where
  parse_text : ∀ members, Representable (.obj members) →
    J.parse (text (.obj members)) = .obj members
  toText_null : J.toText .null = ""

/-- A `double` is a binary fraction. -/
theorem exists_den_eq_of_isDouble {q : ℚ} (h : IsDouble q) : ∃ j, q.den = 2 ^ j := by
  obtain ⟨m, e, -, -, -, -, rfl⟩ := h
  exact JsonText.exists_den_eq m e

section Numerals

variable {w : ℕ} {fraction : List Char}

/-- What a numeral with a point is read as. -/
theorem numberValue_point :
    JsonText.numberValue decimal (Nat.toDigits 10 w ++ '.' :: fraction) = .float (.finite
      ((Nat.ofDigitChars 10 (Nat.toDigits 10 w ++ fraction) 0 : ℤ) / 10 ^ fraction.length)) := by
  rw [JsonText.numberValue, JsonText.unsigned_point]
  dsimp only
  rw [if_neg JsonText.not_all_isDigit_point, decimal, JsonText.unsigned_point,
    JsonText.takeWhile_isDigit_point, JsonText.dropWhile_isDigit_point,
    if_neg JsonText.head?_point_ne_minus, List.tail_cons]

theorem numberValue_neg_point :
    JsonText.numberValue decimal ('-' :: (Nat.toDigits 10 w ++ '.' :: fraction)) = .float (.finite
      (-(Nat.ofDigitChars 10 (Nat.toDigits 10 w ++ fraction) 0 : ℤ) / 10 ^ fraction.length)) := by
  have hsign : JsonText.unsigned ['-'] ('-' :: (Nat.toDigits 10 w ++ '.' :: fraction)) =
      Nat.toDigits 10 w ++ '.' :: fraction := rfl
  rw [JsonText.numberValue, hsign]
  dsimp only
  rw [if_neg JsonText.not_all_isDigit_point, decimal, hsign, JsonText.takeWhile_isDigit_point,
    JsonText.dropWhile_isDigit_point, if_pos List.head?_cons, List.tail_cons]

end Numerals

/-- **The numeral of a binary fraction** is read as the fraction. -/
theorem numberValue_decimalText {q : ℚ} (h : ∃ j, q.den = 2 ^ j) :
    JsonText.numberValue decimal (JsonText.decimalText q) = .float (.finite q) := by
  rw [JsonText.decimalText]
  by_cases hneg : q < 0
  · rw [if_pos hneg, numberValue_neg_point, JsonText.ofDigitChars_units, JsonText.length_decimals,
      Int.cast_natCast, neg_div, JsonText.units_div h, abs_of_neg hneg, neg_neg]
  · rw [if_neg hneg, numberValue_point, JsonText.ofDigitChars_units, JsonText.length_decimals,
      Int.cast_natCast, JsonText.units_div h, abs_of_nonneg (not_lt.mp hneg)]

/-- A stand-in for `JSON::toString`. -/
def standardText (v : Json) : String := String.ofList (JsonText.write JsonText.decimalText 0 v)

theorem prints_standard : standard.Prints standardText where
  parse_text members h := by
    have hparse := JsonText.parse_write (fun q hq => ⟨JsonText.isNumber_decimalText q,
      numberValue_decimalText (exists_den_eq_of_isDouble hq)⟩) h
    rw [standard, standardText]
    dsimp only
    rw [hparse]
    rfl
  toText_null := rfl

end Juce

end LooperControl
