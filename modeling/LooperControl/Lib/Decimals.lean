import LooperControl.Lib.JsonText
import Mathlib.Algebra.Order.Field.Rat
import Mathlib.Data.Nat.Prime.Basic
import Mathlib.Data.Rat.Lemmas

/-!
# Decimal numerals of binary fractions

A number whose denominator is a power of two is a decimal fraction as well, with as many places as
the denominator has factors. `decimalText` writes all of them out.

* `isNumber_decimalText`: the outcome is a numeral of the JSON grammar.
* `ofDigitChars_units` and `units_div`: the digits on both sides of the point make the number up, in
  units of the last place.
-/

namespace JsonText

/-! ### The numeral -/

/-- Decimal places, zeros in front written out. -/
def decimals : ℕ → ℕ → List Char
  | 0, _ => []
  | k + 1, n => decimals k (n / 10) ++ [(n % 10).digitChar]

/-- The number of decimal places of a binary fraction, at least one. -/
def places (q : ℚ) : ℕ := max 1 q.den.log2

/-- A binary fraction without its sign, in units of its last place. -/
def units (q : ℚ) : ℕ := q.num.natAbs * 10 ^ places q / q.den

/-- The numeral of a binary fraction. -/
def decimalText (q : ℚ) : List Char :=
  let digits := Nat.toDigits 10 (units q / 10 ^ places q) ++
    '.' :: decimals (places q) (units q % 10 ^ places q)
  if q < 0 then '-' :: digits else digits

/-! ### Digits behind the point -/

theorem length_decimals (k n : ℕ) : (decimals k n).length = k := by
  induction k generalizing n with
  | zero => rfl
  | succ k ih => rw [decimals, List.length_append, ih, List.length_singleton]

theorem isDigit_of_mem_decimals {k n : ℕ} {c : Char} (h : c ∈ decimals k n) :
    c.isDigit = true := by
  induction k generalizing n with
  | zero => cases h
  | succ k ih =>
    rw [decimals, List.mem_append, List.mem_singleton] at h
    rcases h with h | rfl
    · exact ih h
    · rw [Nat.isDigit_digitChar, decide_eq_true (Nat.mod_lt n (by decide))]

theorem ofDigitChars_decimals (k n acc : ℕ) :
    Nat.ofDigitChars 10 (decimals k n) acc = 10 ^ k * acc + n % 10 ^ k := by
  induction k generalizing n with
  | zero => simp [decimals, Nat.mod_one]
  | succ k ih =>
    have hmod : n % 10 ^ (k + 1) = 10 * (n / 10 % 10 ^ k) + n % 10 := by
      rw [Nat.pow_succ', Nat.mod_mul, Nat.add_comm]
    rw [decimals, Nat.ofDigitChars_append, ih,
      Nat.ofDigitChars_cons_digitChar_of_lt_ten (Nat.mod_lt n (by decide)), Nat.ofDigitChars_nil,
      hmod, Nat.pow_succ', Nat.mul_add, Nat.mul_assoc, Nat.add_assoc]

/-- Both sides of the point together are the number in units of the last place. -/
theorem ofDigitChars_units (k n : ℕ) :
    Nat.ofDigitChars 10 (Nat.toDigits 10 (n / 10 ^ k) ++ decimals k (n % 10 ^ k)) 0 = n := by
  rw [Nat.ofDigitChars_append, Nat.ofDigitChars_ten_toDigits, ofDigitChars_decimals, Nat.mod_mod,
    Nat.div_add_mod]

/-! ### Binary fractions -/

/-- A whole number times a power of two is a binary fraction. -/
theorem exists_den_eq (m e : ℤ) : ∃ j, ((m : ℚ) * 2 ^ e).den = 2 ^ j := by
  cases e with
  | ofNat j =>
    refine ⟨0, ?_⟩
    rw [Int.ofNat_eq_natCast, zpow_natCast]
    exact_mod_cast Rat.den_intCast (m * 2 ^ j)
  | negSucc j =>
    -- The denominator in lowest terms divides the power that the fraction was written with.
    obtain ⟨i, -, hi⟩ := (Nat.dvd_prime_pow Nat.prime_two).mp
      (Int.natCast_dvd_natCast.mp (Rat.den_dvd m (2 ^ (j + 1) : ℕ)))
    refine ⟨i, ?_⟩
    rw [zpow_negSucc, ← div_eq_mul_inv, ← hi, Rat.divInt_eq_div]
    push_cast
    rfl

/-- The units of a binary fraction make it up. -/
theorem units_div {q : ℚ} (h : ∃ j, q.den = 2 ^ j) :
    (units q : ℚ) / 10 ^ places q = |q| := by
  obtain ⟨j, hj⟩ := h
  have hplaces : j ≤ places q := by
    rw [places, hj, Nat.log2_two_pow]
    exact Nat.le_max_right 1 j
  have hdvd : q.den ∣ 10 ^ places q := by
    rw [hj]
    exact (pow_dvd_pow 2 hplaces).trans (pow_dvd_pow_of_dvd (by decide) _)
  have hunits : units q * q.den = q.num.natAbs * 10 ^ places q :=
    Nat.div_mul_cancel (hdvd.mul_left _)
  have hden : (q.den : ℚ) ≠ 0 := Nat.cast_ne_zero.mpr q.den_nz
  have hpow : (10 ^ places q : ℚ) ≠ 0 := pow_ne_zero _ (by decide)
  rw [Rat.abs_def, Rat.divInt_eq_div, Int.cast_natCast, Int.cast_natCast,
    div_eq_div_iff hpow hden]
  exact_mod_cast hunits

/-! ### Numerals with a point -/

variable {w : ℕ} {fraction : List Char}

/-- The digits in front of the point. -/
theorem takeWhile_isDigit_point :
    (Nat.toDigits 10 w ++ '.' :: fraction).takeWhile Char.isDigit = Nat.toDigits 10 w := by
  rw [List.takeWhile_append_of_pos fun c => isDigit_of_mem_toDigits,
    List.takeWhile_cons_of_neg (by decide), List.append_nil]

theorem dropWhile_isDigit_point :
    (Nat.toDigits 10 w ++ '.' :: fraction).dropWhile Char.isDigit = '.' :: fraction := by
  rw [List.dropWhile_append_of_pos fun c => isDigit_of_mem_toDigits,
    List.dropWhile_cons_of_neg (by decide)]

/-- The point is no digit. -/
theorem not_all_isDigit_point :
    ¬(Nat.toDigits 10 w ++ '.' :: fraction).all Char.isDigit = true := by
  intro hall
  have hpoint := List.all_eq_true.mp hall '.' (by simp)
  exact absurd hpoint (by decide)

theorem head?_point_ne_minus : (Nat.toDigits 10 w ++ '.' :: fraction).head? ≠ some '-' := by
  rw [List.head?_append_of_ne_nil _ Nat.toDigits_ne_nil]
  exact head?_toDigits_ne_minus w

theorem unsigned_point : unsigned ['-'] (Nat.toDigits 10 w ++ '.' :: fraction) =
    Nat.toDigits 10 w ++ '.' :: fraction :=
  unsigned_of_head?_ne head?_point_ne_minus

theorem isNumber_point (hfraction : ∀ c ∈ fraction, c.isDigit = true) (hne : fraction ≠ []) :
    isNumber (Nat.toDigits 10 w ++ '.' :: fraction) = true := by
  have hdigits : isDigits fraction = true := by
    rw [isDigits, List.all_eq_true.mpr hfraction, Bool.and_true, Bool.not_eq_true',
      List.isEmpty_eq_false_iff]
    exact hne
  have hpoint : isFraction ('.' :: fraction) = true := by
    rw [isFraction, if_pos List.head?_cons, List.tail_cons,
      List.takeWhile_eq_self_iff.mpr hfraction, List.dropWhile_eq_nil_iff.mpr hfraction, hdigits]
    rfl
  rw [isNumber, unsigned_point, takeWhile_isDigit_point, dropWhile_isDigit_point,
    isWhole_toDigits, hpoint]
  rfl

/-- **The numeral of a binary fraction** is one of the grammar. -/
theorem isNumber_decimalText (q : ℚ) : isNumber (decimalText q) = true := by
  have hne : decimals (places q) (units q % 10 ^ places q) ≠ [] := by
    have hplaces : 0 < places q := Nat.le_max_left 1 _
    rw [← List.length_pos_iff, length_decimals]
    exact hplaces
  have hnumber : isNumber (Nat.toDigits 10 (units q / 10 ^ places q) ++
      '.' :: decimals (places q) (units q % 10 ^ places q)) = true :=
    isNumber_point (fun _ => isDigit_of_mem_decimals) hne
  rw [decimalText]
  split
  · rwa [isNumber_neg head?_point_ne_minus]
  · exact hnumber

end JsonText
