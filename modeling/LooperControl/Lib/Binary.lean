import LooperControl.Lib.Json
import Mathlib.Data.Int.Log
import Mathlib.Data.Rat.Floor
import Mathlib.Tactic.FieldSimp
import Mathlib.Tactic.Linarith
import Mathlib.Tactic.Ring

/-!
# Binary floating-point formats

A format has a sign bit, exponent bits and fraction bits. Its finite numbers are spaced by powers of
two (`unit`), with more than `2 ^ fraction` steps to a power but at the lowest one. How a number
between two steps is rounded is a parameter: any monotone map to the integers that fixes them.

* `round_le_round`: rounding keeps the order.
* `value_bits`: the pattern of a magnitude has the rounded magnitude as its value.
* `bits_value`: a pattern is the pattern of its value.
* `encode_decode`: so is one with a sign, where it is no NaN and no negative zero.
-/

/-- A binary format: the numbers of fraction bits and of exponent bits. -/
structure Binary where
  fraction : ℕ
  exponent : ℕ
  deriving DecidableEq

namespace Binary

/-- The format of 32 bits. -/
def single : Binary := ⟨23, 8⟩

/-- The format of 64 bits. -/
def double : Binary := ⟨52, 11⟩

variable (f : Binary) (rnd : ℚ → ℤ)

/-- The exponent of the smallest positive number. -/
def lowest : ℤ := 2 - 2 ^ (f.exponent - 1) - f.fraction

/-- The exponent of the spacing around a number. -/
def unit (q : ℚ) : ℤ :=
  if q = 0 then f.lowest else max (Int.log 2 |q| - f.fraction) f.lowest

/-- A number rounded to the format, its range of exponents unbounded above. -/
def round (q : ℚ) : ℚ := rnd (q / 2 ^ f.unit q) * 2 ^ f.unit q

/-- The magnitude that a pattern of exponent and fraction bits stands for. -/
def value (k : ℕ) : ℚ :=
  if k / 2 ^ f.fraction = 0 then (k % 2 ^ f.fraction : ℕ) * 2 ^ f.lowest
  else (2 ^ f.fraction + (k % 2 ^ f.fraction : ℕ)) *
    2 ^ (f.lowest + (k / 2 ^ f.fraction : ℕ) - 1)

/-- The pattern of exponent and fraction bits for a magnitude. -/
def bits (q : ℚ) : ℕ :=
  (f.unit q - f.lowest).toNat * 2 ^ f.fraction + (rnd (q / 2 ^ f.unit q)).toNat

/-- The pattern of an infinity. -/
def infinity : ℕ := (2 ^ f.exponent - 1) * 2 ^ f.fraction

/-- The pattern of the sign bit. -/
def signBit : ℕ := 2 ^ (f.exponent + f.fraction)

/-- The number that a pattern stands for. The sign of a zero is dropped. -/
def decode (n : ℕ) : Double :=
  let negative := decide (f.signBit ≤ n)
  let k := n % f.signBit
  if k < f.infinity then .finite (if negative then -f.value k else f.value k)
  else if k = f.infinity then .infinite negative
  else .nan

/-- The pattern of a number, if its magnitude is not rounded past the largest one. -/
def encode : Double → Option ℕ
  | .finite q =>
    if f.bits rnd |q| < f.infinity then
      some (f.bits rnd |q| + if q < 0 then f.signBit else 0)
    else none
  | .infinite negative => some (f.infinity + if negative then f.signBit else 0)
  | .nan => some (f.infinity + 2 ^ (f.fraction - 1))

variable {f} {rnd}

/-! ### Spacing -/

private theorem two_zpow_pos (e : ℤ) : (0 : ℚ) < 2 ^ e := zpow_pos (by norm_num) e

private theorem two_zpow_add (e : ℤ) (n : ℕ) : (2 : ℚ) ^ (e + n) = 2 ^ n * 2 ^ e := by
  rw [add_comm, zpow_add₀ (by norm_num), zpow_natCast]

theorem lowest_le_unit (q : ℚ) : f.lowest ≤ f.unit q := by
  rw [unit]
  split
  · exact Int.le_refl _
  · exact le_max_right _ _

/-- A magnitude has less than twice `2 ^ fraction` steps of its spacing. -/
theorem abs_lt_unit (q : ℚ) : |q| < 2 ^ (f.unit q + f.fraction + 1) := by
  by_cases hq : q = 0
  · rw [hq, abs_zero]
    exact two_zpow_pos _
  have hlog : |q| < (2 : ℚ) ^ (Int.log 2 |q| + 1) :=
    Int.lt_zpow_succ_log_self (b := 2) (by decide) |q|
  refine hlog.trans_le (zpow_le_zpow_right₀ (by norm_num) ?_)
  rw [unit, if_neg hq]
  omega

/-- Above the lowest spacing a magnitude has `2 ^ fraction` steps at least. -/
theorem unit_le_abs {q : ℚ} (h : f.lowest < f.unit q) :
    (2 : ℚ) ^ (f.unit q + f.fraction) ≤ |q| := by
  by_cases hq : q = 0
  · rw [unit, if_pos hq] at h
    exact absurd h (lt_irrefl _)
  have hunit : f.unit q = Int.log 2 |q| - f.fraction := by
    rw [unit, if_neg hq] at h ⊢
    omega
  rw [hunit, sub_add_cancel]
  exact Int.zpow_log_le_self (b := 2) (by decide) (abs_pos.mpr hq)

/-- The spacing around a number of whole steps, few enough of them and enough above the lowest. -/
theorem unit_eq {s : ℕ} {e : ℤ} (hpos : 0 < s) (hlow : f.lowest ≤ e)
    (hs : s < 2 ^ (f.fraction + 1)) (henough : e = f.lowest ∨ 2 ^ f.fraction ≤ s) :
    f.unit (s * 2 ^ e) = e := by
  have he := two_zpow_pos e
  have hsq : (0 : ℚ) < s := by exact_mod_cast hpos
  have hq : (0 : ℚ) < s * 2 ^ e := mul_pos hsq he
  have hhigh : Int.log 2 ((s : ℚ) * 2 ^ e) < e + f.fraction + 1 := by
    refine (Int.lt_zpow_iff_log_lt (b := 2) (by decide) hq).mp ?_
    have hpow := two_zpow_add e (f.fraction + 1)
    push_cast at hpow ⊢
    rw [add_assoc, hpow]
    exact mul_lt_mul_of_pos_right (by exact_mod_cast hs) he
  rw [unit, if_neg hq.ne', abs_of_pos hq]
  rcases henough with rfl | henough
  · omega
  · have hle : e + f.fraction ≤ Int.log 2 ((s : ℚ) * 2 ^ e) := by
      refine (Int.zpow_le_iff_le_log (b := 2) (by decide) hq).mp ?_
      push_cast
      rw [two_zpow_add]
      exact mul_le_mul_of_nonneg_right (by exact_mod_cast henough) he.le
    omega

/-! ### Rounding -/

/-- Whole steps, few enough of them, are a multiple of the spacing around them. -/
theorem unit_le {c e : ℤ} (hlow : f.lowest ≤ e) (hc : |c| < 2 ^ (f.fraction + 1)) :
    f.unit (c * 2 ^ e) ≤ e := by
  have he := two_zpow_pos e
  rw [unit]
  split_ifs with hq
  · exact hlow
  · refine max_le ?_ hlow
    have hlt : Int.log 2 |(c : ℚ) * 2 ^ e| < e + f.fraction + 1 := by
      refine (Int.lt_zpow_iff_log_lt (b := 2) (by decide) (abs_pos.mpr hq)).mp ?_
      have hpow := two_zpow_add e (f.fraction + 1)
      push_cast at hpow ⊢
      rw [add_assoc, hpow, abs_mul, abs_of_pos he]
      exact mul_lt_mul_of_pos_right (by exact_mod_cast hc) he
    omega

/-- **A number of the format is not rounded.** -/
theorem round_eq_self (hint : ∀ n : ℤ, rnd n = n) {c e : ℤ} (hlow : f.lowest ≤ e)
    (hc : |c| < 2 ^ (f.fraction + 1)) : f.round rnd (c * 2 ^ e) = c * 2 ^ e := by
  obtain ⟨k, hk⟩ := Int.le.dest (unit_le (f := f) hlow hc)
  rw [round]
  generalize f.unit (c * 2 ^ e) = u at hk
  have hu := (two_zpow_pos u).ne'
  have hsteps : (c : ℚ) * 2 ^ e = (c * 2 ^ k : ℤ) * 2 ^ u := by
    rw [← hk, two_zpow_add]
    push_cast
    ring
  rw [hsteps, mul_div_assoc, div_self hu, mul_one, hint]

/-- Rounding is off by no more than half the spacing. -/
theorem abs_round_sub_le (hnear : ∀ q, |rnd q - q| ≤ 1 / 2) (q : ℚ) :
    |f.round rnd q - q| ≤ 2 ^ f.unit q / 2 := by
  have hu := two_zpow_pos (f.unit q)
  have hsplit : f.round rnd q - q = (rnd (q / 2 ^ f.unit q) - q / 2 ^ f.unit q) * 2 ^ f.unit q := by
    rw [round, sub_mul, div_mul_cancel₀ q hu.ne']
  rw [hsplit, abs_mul, abs_of_pos hu]
  have hle := mul_le_mul_of_nonneg_right (hnear (q / 2 ^ f.unit q)) hu.le
  linarith

section Rounding

variable (hmono : ∀ a b, a ≤ b → rnd a ≤ rnd b) (hint : ∀ n : ℤ, rnd n = n)

include hmono hint

private theorem rnd_div_le {q : ℚ} {e c : ℤ} (h : q ≤ c * 2 ^ e) :
    rnd (q / 2 ^ e) * 2 ^ e ≤ (c : ℚ) * 2 ^ e := by
  have he := two_zpow_pos e
  have hle : rnd (q / 2 ^ e) ≤ c := by
    rw [← hint c]
    exact hmono _ _ ((div_le_iff₀ he).mpr h)
  exact mul_le_mul_of_nonneg_right (by exact_mod_cast hle) he.le

private theorem le_rnd_div {q : ℚ} {e c : ℤ} (h : c * 2 ^ e ≤ q) :
    (c : ℚ) * 2 ^ e ≤ rnd (q / 2 ^ e) * 2 ^ e := by
  have he := two_zpow_pos e
  have hle : c ≤ rnd (q / 2 ^ e) := by
    rw [← hint c]
    exact hmono _ _ ((le_div_iff₀ he).mpr h)
  exact mul_le_mul_of_nonneg_right (by exact_mod_cast hle) he.le

/-- A rounded number stays between the powers of two around it. -/
private theorem round_bounds (q : ℚ) :
    -(2 : ℚ) ^ (f.unit q + f.fraction + 1) ≤ f.round rnd q ∧
      f.round rnd q ≤ 2 ^ (f.unit q + f.fraction + 1) := by
  have hpow := two_zpow_add (f.unit q) (f.fraction + 1)
  push_cast at hpow
  obtain ⟨hlow, hhigh⟩ := abs_lt.mp (abs_lt_unit (f := f) q)
  rw [add_assoc, hpow] at hlow hhigh ⊢
  have h₁ := le_rnd_div hmono hint (q := q) (e := f.unit q) (c := -2 ^ (f.fraction + 1))
    (by push_cast; linarith)
  have h₂ := rnd_div_le hmono hint (q := q) (e := f.unit q) (c := 2 ^ (f.fraction + 1))
    (by push_cast; linarith)
  push_cast at h₁ h₂
  rw [round]
  constructor <;> linarith

/-- **Rounding keeps the order.** -/
theorem round_le_round {a b : ℚ} (h : a ≤ b) : f.round rnd a ≤ f.round rnd b := by
  have hwide : ∀ {c d : ℚ}, f.unit c < f.unit d →
      |c| < |d| ∧ (2 : ℚ) ^ (f.unit c + f.fraction + 1) ≤ 2 ^ (f.unit d + f.fraction) ∧
        2 ^ (f.unit d + f.fraction) ≤ |d| := by
    intro c d hunit
    have hle : (2 : ℚ) ^ (f.unit c + f.fraction + 1) ≤ 2 ^ (f.unit d + f.fraction) :=
      zpow_le_zpow_right₀ (by norm_num) (by omega)
    have habs := unit_le_abs ((lowest_le_unit c).trans_lt hunit)
    exact ⟨((abs_lt_unit c).trans_le hle).trans_le habs, hle, habs⟩
  rcases lt_trichotomy (f.unit a) (f.unit b) with hunit | hunit | hunit
  · -- The second number has the wider spacing: it is positive.
    obtain ⟨hlt, hle, habs⟩ := hwide hunit
    have hb : 0 ≤ b := by
      by_contra hb
      rw [abs_of_neg (not_le.mp hb), abs_of_neg (h.trans_lt (not_le.mp hb))] at hlt
      linarith
    rw [abs_of_nonneg hb, two_zpow_add] at habs
    have hround := le_rnd_div hmono hint (q := b) (e := f.unit b) (c := 2 ^ f.fraction)
      (by push_cast; exact habs)
    push_cast at hround
    rw [← two_zpow_add] at hround
    exact ((round_bounds hmono hint a).2.trans hle).trans hround
  · have he := two_zpow_pos (f.unit b)
    have hle := hmono _ _ ((div_le_div_iff_of_pos_right he).mpr h)
    rw [round, round, hunit]
    exact mul_le_mul_of_nonneg_right (by exact_mod_cast hle) he.le
  · -- The first number has the wider spacing: it is negative.
    obtain ⟨hlt, hle, habs⟩ := hwide hunit
    have ha : a < 0 := by
      by_contra ha
      rw [abs_of_nonneg (not_lt.mp ha), abs_of_nonneg ((not_lt.mp ha).trans h)] at hlt
      linarith
    rw [abs_of_neg ha, two_zpow_add] at habs
    have hround := rnd_div_le hmono hint (q := a) (e := f.unit a) (c := -2 ^ f.fraction)
      (by push_cast; linarith)
    push_cast at hround
    have hlow := (round_bounds hmono hint (f := f) b).1
    rw [two_zpow_add] at hle
    rw [round]
    linarith

/-- A rounded number has few enough steps. -/
theorem exists_steps_round (q : ℚ) : ∃ c e : ℤ,
    f.round rnd q = c * 2 ^ e ∧ |c| < 2 ^ (f.fraction + 1) ∧ f.lowest ≤ e := by
  obtain ⟨hlow, hhigh⟩ := abs_lt.mp (abs_lt_unit (f := f) q)
  have hpos := two_zpow_pos (f.unit q)
  have hpow := two_zpow_add (f.unit q) (f.fraction + 1)
  rw [Nat.cast_add, Nat.cast_one, ← add_assoc] at hpow
  rw [hpow] at hlow hhigh
  have hle : rnd (q / 2 ^ f.unit q) ≤ 2 ^ (f.fraction + 1) := by
    rw [← hint (2 ^ (f.fraction + 1))]
    refine hmono _ _ ((div_le_iff₀ hpos).mpr ?_)
    push_cast
    exact hhigh.le
  have hge : -2 ^ (f.fraction + 1) ≤ rnd (q / 2 ^ f.unit q) := by
    rw [← hint (-2 ^ (f.fraction + 1))]
    refine hmono _ _ ((le_div_iff₀ hpos).mpr ?_)
    push_cast
    linarith
  by_cases hlt : |rnd (q / 2 ^ f.unit q)| < 2 ^ (f.fraction + 1)
  · exact ⟨_, _, rfl, hlt, lowest_le_unit q⟩
  · -- It has been rounded to the next power of two, which is half as many steps twice as wide.
    have hsteps : ∀ c : ℤ, rnd (q / 2 ^ f.unit q) = c * 2 →
        f.round rnd q = c * 2 ^ (f.unit q + 1) := by
      intro c hc
      rw [round, hc, zpow_add_one₀ (by norm_num)]
      push_cast
      ring
    have hwide := (lowest_le_unit (f := f) q).trans (Int.le_add_one le_rfl)
    have habs : |(2 : ℤ) ^ f.fraction| < 2 ^ (f.fraction + 1) := by
      rw [abs_of_pos (by positivity)]
      exact pow_lt_pow_right₀ (by norm_num) (Nat.lt_succ_self _)
    rcases le_abs'.mp (not_lt.mp hlt) with hneg | hpos'
    · refine ⟨-2 ^ f.fraction, _, hsteps _ ?_, by rwa [abs_neg], hwide⟩
      rw [le_antisymm hneg hge, pow_succ, neg_mul]
    · refine ⟨2 ^ f.fraction, _, hsteps _ ?_, habs, hwide⟩
      rw [le_antisymm hle hpos', pow_succ]

end Rounding

/-! ### Patterns -/

/-- The value of a pattern that is put together from whole steps, the last one carried over. -/
theorem value_add {u s : ℕ} (hs : s ≤ 2 ^ (f.fraction + 1)) (henough : u = 0 ∨ 2 ^ f.fraction ≤ s) :
    f.value (u * 2 ^ f.fraction + s) = s * 2 ^ (f.lowest + u) := by
  have hP : 0 < 2 ^ f.fraction := by positivity
  rw [pow_succ] at hs
  have hsplit : ∀ k r, r < 2 ^ f.fraction → u * 2 ^ f.fraction + s = r + k * 2 ^ f.fraction →
      (u * 2 ^ f.fraction + s) / 2 ^ f.fraction = k ∧
        (u * 2 ^ f.fraction + s) % 2 ^ f.fraction = r := by
    intro k r hr heq
    rw [heq, Nat.add_mul_div_right _ _ hP, Nat.div_eq_of_lt hr, Nat.zero_add,
      Nat.add_mul_mod_self_right, Nat.mod_eq_of_lt hr]
    exact ⟨rfl, rfl⟩
  rcases Nat.lt_or_ge s (2 ^ f.fraction) with hlt | hge
  · -- Below the first power of two.
    obtain rfl : u = 0 := henough.resolve_right (by omega)
    obtain ⟨hdiv, hmod⟩ := hsplit 0 s hlt (by omega)
    rw [value, hdiv, hmod, if_pos rfl, Nat.cast_zero, add_zero]
  rcases Nat.lt_or_ge s (2 ^ f.fraction * 2) with hlt | hge'
  · obtain ⟨hdiv, hmod⟩ := hsplit (u + 1) (s - 2 ^ f.fraction) (by omega)
      (by rw [Nat.add_mul]; omega)
    have hsum : (2 : ℚ) ^ f.fraction + ((s - 2 ^ f.fraction : ℕ) : ℚ) = s := by
      rw [Nat.cast_sub hge]
      push_cast
      ring
    rw [value, hdiv, hmod, if_neg (by omega), hsum]
    push_cast
    congr 2
    ring
  · -- The carry: the next power of two.
    obtain rfl : s = 2 ^ f.fraction * 2 := le_antisymm hs hge'
    obtain ⟨hdiv, hmod⟩ := hsplit (u + 2) 0 hP (by rw [Nat.add_mul]; omega)
    have hexp : f.lowest + ((u + 2 : ℕ) : ℤ) - 1 = f.lowest + u + 1 := by
      push_cast
      ring
    rw [value, hdiv, hmod, if_neg (by omega), hexp, zpow_add_one₀ (by norm_num)]
    push_cast
    ring

section Patterns

variable (hmono : ∀ a b, a ≤ b → rnd a ≤ rnd b) (hint : ∀ n : ℤ, rnd n = n)

include hmono hint

/-- How many steps a rounded magnitude has. -/
private theorem steps_bounds {q : ℚ} (hq : 0 ≤ q) :
    0 ≤ rnd (q / 2 ^ f.unit q) ∧ rnd (q / 2 ^ f.unit q) ≤ 2 ^ (f.fraction + 1) ∧
      (f.lowest < f.unit q → 2 ^ f.fraction ≤ rnd (q / 2 ^ f.unit q)) := by
  have he := two_zpow_pos (f.unit q)
  refine ⟨?_, ?_, fun hunit => ?_⟩
  · rw [← hint 0]
    refine hmono _ _ ?_
    push_cast
    exact div_nonneg hq he.le
  · have hlt := abs_lt_unit (f := f) q
    rw [abs_of_nonneg hq, add_assoc] at hlt
    have hpow := two_zpow_add (f.unit q) (f.fraction + 1)
    push_cast at hpow
    rw [← hint (2 ^ (f.fraction + 1))]
    refine hmono _ _ ?_
    rw [div_le_iff₀ he]
    push_cast
    rw [← hpow]
    exact hlt.le
  · have hle := unit_le_abs hunit
    rw [abs_of_nonneg hq, two_zpow_add] at hle
    rw [← hint (2 ^ f.fraction)]
    refine hmono _ _ ?_
    rw [le_div_iff₀ he]
    push_cast
    exact hle

/-- **The pattern of a magnitude** has the rounded magnitude as its value. -/
theorem value_bits {q : ℚ} (hq : 0 ≤ q) : f.value (f.bits rnd q) = f.round rnd q := by
  obtain ⟨hnonneg, hhigh, hlow⟩ := steps_bounds hmono hint (f := f) hq
  obtain ⟨s, hs⟩ := Int.eq_ofNat_of_zero_le hnonneg
  obtain ⟨u, hu⟩ := Int.eq_ofNat_of_zero_le (Int.sub_nonneg.mpr (lowest_le_unit (f := f) q))
  rw [hs] at hhigh hlow
  have hexp : f.lowest + u = f.unit q := by omega
  rw [bits, round, hs, hu, Int.toNat_natCast, Int.toNat_natCast, value_add, hexp, Int.cast_natCast]
  · exact_mod_cast hhigh
  · rcases Nat.eq_zero_or_pos u with hu0 | hupos
    · exact .inl hu0
    · exact .inr (by exact_mod_cast hlow (by omega))

omit hmono in
/-- The pattern of a number of whole steps. -/
private theorem bits_steps {s u : ℕ} (hpos : 0 < s) (hs : s < 2 ^ (f.fraction + 1))
    (henough : u = 0 ∨ 2 ^ f.fraction ≤ s) :
    f.bits rnd (s * 2 ^ (f.lowest + u)) = u * 2 ^ f.fraction + s := by
  have hunit : f.unit (s * 2 ^ (f.lowest + u)) = f.lowest + u := by
    refine unit_eq hpos (by omega) hs ?_
    rcases henough with rfl | henough
    · exact .inl (by simp)
    · exact .inr henough
  have hdiv : (s : ℚ) * 2 ^ (f.lowest + u) / 2 ^ (f.lowest + u) = (s : ℤ) := by
    rw [mul_div_assoc, div_self (two_zpow_pos _).ne', mul_one, Int.cast_natCast]
  rw [bits, hunit, hdiv, hint, Int.toNat_natCast, add_sub_cancel_left, Int.toNat_natCast]

omit hmono in
/-- **A pattern is the pattern of its value.** -/
theorem bits_value (k : ℕ) : f.bits rnd (f.value k) = k := by
  have hP : 0 < 2 ^ f.fraction := by positivity
  have hmod := Nat.mod_lt k hP
  have hk := Nat.div_add_mod' k (2 ^ f.fraction)
  rw [value]
  split
  · rename_i hzero
    rw [hzero] at hk
    rcases Nat.eq_zero_or_pos (k % 2 ^ f.fraction) with hmod0 | hmodpos
    · rw [hmod0, bits, unit, Nat.cast_zero, zero_mul, if_pos rfl, zero_div, sub_self]
      have h0 := hint 0
      rw [Int.cast_zero] at h0
      rw [h0, Int.toNat_zero, Nat.zero_mul]
      omega
    · have hsteps := bits_steps hint (f := f) (u := 0) hmodpos (by rw [pow_succ]; omega) (.inl rfl)
      rw [Nat.cast_zero, add_zero] at hsteps
      rw [hsteps]
      omega
  · rename_i hnonzero
    obtain ⟨u, hu⟩ := Nat.exists_eq_succ_of_ne_zero hnonzero
    have hsteps := bits_steps hint (f := f) (s := 2 ^ f.fraction + k % 2 ^ f.fraction) (u := u)
      (by omega) (by rw [pow_succ]; omega) (.inr (Nat.le_add_right _ _))
    have hexp : f.lowest + (k / 2 ^ f.fraction : ℕ) - 1 = f.lowest + u := by omega
    push_cast at hsteps
    rw [hexp, hsteps]
    rw [hu, Nat.succ_mul] at hk
    omega

end Patterns

/-! ### Signed patterns -/

/-- A pattern that is its number's: no NaN, and no negative zero. -/
def IsCanonical (f : Binary) (n : ℕ) : Prop :=
  n < 2 * f.signBit ∧ n % f.signBit ≤ f.infinity ∧ n ≠ f.signBit

instance (f : Binary) (n : ℕ) : Decidable (f.IsCanonical n) :=
  inferInstanceAs (Decidable (_ ∧ _ ∧ _))

theorem value_nonneg (k : ℕ) : 0 ≤ f.value k := by
  rw [value]
  split
  · exact mul_nonneg (Nat.cast_nonneg _) (two_zpow_pos _).le
  · exact mul_nonneg (by positivity) (two_zpow_pos _).le

/-- Only the pattern of zero has the value zero. -/
theorem value_pos {k : ℕ} (h : 0 < k) : 0 < f.value k := by
  refine lt_of_le_of_ne (value_nonneg k) fun hzero => ?_
  have hbits := bits_value (f := f) Int.floor_intCast k
  rw [← hzero, bits, unit, if_pos rfl, zero_div, sub_self, Int.floor_zero, Int.toNat_zero,
    Nat.zero_mul] at hbits
  omega

/-- A pattern is its sign and its magnitude. -/
theorem eq_sign_add {n : ℕ} (h : n < 2 * f.signBit) :
    n = n % f.signBit + if f.signBit ≤ n then f.signBit else 0 := by
  split
  · rename_i hle
    rw [Nat.mod_eq_sub_mod hle, Nat.mod_eq_of_lt (by omega)]
    omega
  · rename_i hlt
    rw [Nat.mod_eq_of_lt (by omega), Nat.add_zero]

/-- **A signed pattern is the pattern of its number.** -/
theorem encode_decode (hint : ∀ n : ℤ, rnd n = n) {n : ℕ} (h : f.IsCanonical n) :
    f.encode rnd (f.decode n) = some n := by
  obtain ⟨hlt, hle, hzero⟩ := h
  have hsign := eq_sign_add hlt
  rw [decode]
  rcases Nat.lt_or_eq_of_le hle with hfinite | hinfinite
  · have hneg : (if f.signBit ≤ n then -f.value (n % f.signBit)
        else f.value (n % f.signBit)) < 0 ↔ f.signBit ≤ n := by
      split
      · rename_i hs
        have hpos : 0 < n % f.signBit := by
          rw [if_pos hs] at hsign
          omega
        exact iff_of_true (neg_neg_of_pos (value_pos hpos)) hs
      · rename_i hs
        exact iff_of_false (not_lt.mpr (value_nonneg _)) hs
    have habs : |if f.signBit ≤ n then -f.value (n % f.signBit) else f.value (n % f.signBit)| =
        f.value (n % f.signBit) := by
      split
      · rw [abs_neg, abs_of_nonneg (value_nonneg _)]
      · rw [abs_of_nonneg (value_nonneg _)]
    simp only [if_pos hfinite, decide_eq_true_eq, encode, habs, bits_value hint, hneg]
    rw [← hsign]
  · simp only [hinfinite, lt_irrefl, if_false, if_true, encode, decide_eq_true_eq]
    rw [← hinfinite, ← hsign]

theorem infinity_lt_signBit : f.infinity < f.signBit := by
  rw [infinity, signBit, pow_add]
  have hexponent : 0 < 2 ^ f.exponent := by positivity
  exact Nat.mul_lt_mul_of_pos_right (by omega) (by positivity)

/-- What becomes of a number in a format: a finite one is rounded, unless it gets too large. -/
def rounded (f : Binary) (rnd : ℚ → ℤ) : Double → Double
  | .finite q => .finite (if q < 0 then -f.round rnd |q| else f.round rnd |q|)
  | x => x

/-- **A pattern that is written is read as the rounded number.** -/
theorem decode_encode (hmono : ∀ a b, a ≤ b → rnd a ≤ rnd b) (hint : ∀ n : ℤ, rnd n = n)
    (hfraction : 0 < f.fraction) {x : Double} {n : ℕ} (h : f.encode rnd x = some n) :
    f.decode n = f.rounded rnd x ∧ n < 2 * f.signBit := by
  have hsign : ∀ {k : ℕ} {s : Prop} [Decidable s], k < f.signBit →
      (f.signBit ≤ k + (if s then f.signBit else 0) ↔ s) ∧
        (k + if s then f.signBit else 0) % f.signBit = k ∧
          (k + if s then f.signBit else 0) < 2 * f.signBit := by
    intro k s _ hk
    split
    · rename_i hs
      rw [Nat.add_mod_right, Nat.mod_eq_of_lt hk]
      exact ⟨iff_of_true (by omega) hs, rfl, by omega⟩
    · rename_i hs
      rw [Nat.add_zero, Nat.mod_eq_of_lt hk]
      exact ⟨iff_of_false (by omega) hs, rfl, by omega⟩
  have hinfinity := infinity_lt_signBit (f := f)
  cases x with
  | finite q =>
    rw [encode] at h
    split at h
    · rename_i hbits
      obtain rfl := Option.some.inj h
      obtain ⟨hs, hmod, hlt⟩ := hsign (s := q < 0) (hbits.trans hinfinity)
      refine ⟨?_, hlt⟩
      simp only [decode, hmod, if_pos hbits, decide_eq_true_eq, hs,
        value_bits hmono hint (abs_nonneg q), rounded]
    · cases h
  | infinite negative =>
    obtain rfl := Option.some.inj h
    obtain ⟨hs, hmod, hlt⟩ := hsign (s := negative = true) hinfinity
    refine ⟨?_, hlt⟩
    simp only [decode, hmod, lt_irrefl, if_false, if_true, hs, Bool.decide_eq_true, rounded]
  | nan =>
    obtain rfl := Option.some.inj h
    have hhalf : 2 ^ f.fraction = 2 * 2 ^ (f.fraction - 1) := by
      rw [← pow_succ', Nat.sub_add_cancel hfraction]
    have hpos : 0 < 2 ^ (f.fraction - 1) := by positivity
    have hnan : f.infinity + 2 ^ (f.fraction - 1) < f.signBit := by
      have hsum : f.infinity + 2 ^ f.fraction = f.signBit := by
        rw [infinity, signBit, pow_add, Nat.sub_mul, Nat.one_mul, Nat.sub_add_cancel]
        exact Nat.le_mul_of_pos_left _ (by positivity)
      omega
    refine ⟨?_, by omega⟩
    simp only [decode, Nat.mod_eq_of_lt hnan, rounded]
    rw [if_neg (by omega), if_neg (by omega)]

end Binary
