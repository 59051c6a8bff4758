import Mathlib.Data.List.Basic
import Mathlib.Data.Nat.ModEq
import Mathlib.Tactic.Common
import Mathlib.Tactic.Linarith
import Mathlib.Tactic.Ring

/-!
# Byte strings

* **Slices** of a list between two integers, as scripting languages have them: a negative index
  counts from the end, and one outside of the list stands for the nearest end.
* **Big-endian numbers**: `ofNat w n` spells a number with `w` bytes, `toNat` reads it back, and
  `ofInt`, `toInt` do so in two's complement.
* **Text** in UTF-8.
-/

/-- A byte string. -/
abbrev Bytes : Type := List UInt8

namespace Slice

variable {α : Type*} {l m : List α}

/-- The position in a list of a given length that an index stands for. -/
def clamp (length : ℕ) (i : ℤ) : ℕ :=
  if i < 0 then (i + length).toNat else min i.toNat length

/-- `l[i:j]`. -/
def slice (l : List α) (i j : ℤ) : List α :=
  (l.take (clamp l.length j)).drop (clamp l.length i)

/-- `l[i:]`. -/
def sliceFrom (l : List α) (i : ℤ) : List α := l.drop (clamp l.length i)

@[simp] theorem clamp_natCast (length i : ℕ) : clamp length (i : ℤ) = min i length := by
  rw [clamp, if_neg (Int.not_lt.mpr (Int.natCast_nonneg i)), Int.toNat_natCast]

theorem clamp_le (length : ℕ) (i : ℤ) : clamp length i ≤ length := by
  rw [clamp]
  split <;> omega

@[simp] theorem sliceFrom_natCast (l : List α) (i : ℕ) : sliceFrom l (i : ℤ) = l.drop i := by
  rw [sliceFrom, clamp_natCast]
  rcases Nat.le_total i l.length with h | h
  · rw [Nat.min_eq_left h]
  · rw [Nat.min_eq_right h, List.drop_length, List.drop_eq_nil_of_le h]

@[simp] theorem slice_natCast (l : List α) (i j : ℕ) :
    slice l (i : ℤ) (j : ℤ) = (l.take j).drop i := by
  rw [slice, clamp_natCast, clamp_natCast]
  have htake : l.take (min j l.length) = l.take j := by
    rcases Nat.le_total j l.length with h | h
    · rw [Nat.min_eq_left h]
    · rw [Nat.min_eq_right h, List.take_length, List.take_of_length_le h]
  rw [htake]
  rcases Nat.le_total i l.length with h | h
  · rw [Nat.min_eq_left h]
  · have hlength : (l.take j).length ≤ l.length := by simp
    rw [Nat.min_eq_right h, List.drop_eq_nil_of_le hlength,
      List.drop_eq_nil_of_le (hlength.trans h)]

/-- A slice stands somewhere in the list. -/
theorem slice_isInfix (l : List α) (i j : ℤ) : slice l i j <:+: l :=
  (List.drop_suffix _ _).isInfix.trans (List.take_prefix _ _).isInfix

theorem length_slice (l : List α) (i j : ℤ) :
    (slice l i j).length = clamp l.length j - clamp l.length i := by
  rw [slice, List.length_drop, List.length_take, Nat.min_eq_left (clamp_le _ j)]

/-- What stands behind a front, from its end on. -/
theorem sliceFrom_append (l m : List α) : sliceFrom (l ++ m) (l.length : ℤ) = m := by
  rw [sliceFrom_natCast, List.drop_left]

/-- What stands between a front and a rest. -/
theorem slice_append (l m r : List α) :
    slice (l ++ (m ++ r)) (l.length : ℤ) (l.length + m.length : ℤ) = m := by
  rw [← Nat.cast_add, slice_natCast, ← List.append_assoc, ← List.length_append, List.take_left,
    List.drop_left]

end Slice

namespace Bytes

/-! ### Numbers -/

/-- The number of `w` bytes that a number is spelled with, higher ones dropped. -/
def ofNat : ℕ → ℕ → Bytes
  | 0, _ => []
  | w + 1, n => UInt8.ofNat (n / 256 ^ w) :: ofNat w n

/-- The number that bytes spell. -/
def toNat : Bytes → ℕ
  | [] => 0
  | b :: l => b.toNat * 256 ^ l.length + toNat l

@[simp] theorem length_ofNat (w n : ℕ) : (ofNat w n).length = w := by
  induction w with
  | zero => rfl
  | succ w ih => rw [ofNat, List.length_cons, ih]

theorem toNat_lt (l : Bytes) : toNat l < 256 ^ l.length := by
  induction l with
  | nil => exact Nat.one_pos
  | cons b l ih =>
    have hb : b.toNat < 256 := b.toNat_lt
    rw [toNat, List.length_cons, pow_succ]
    nlinarith [Nat.mul_le_mul_right (256 ^ l.length) (Nat.le_of_lt_succ hb)]

/-- A number is read as it was, but for what its width cannot hold. -/
@[simp] theorem toNat_ofNat (w n : ℕ) : toNat (ofNat w n) = n % 256 ^ w := by
  induction w with
  | zero => rw [ofNat, toNat, pow_zero, Nat.mod_one]
  | succ w ih =>
    have hbyte : (UInt8.ofNat (n / 256 ^ w)).toNat = n / 256 ^ w % 256 := rfl
    rw [ofNat, toNat, ih, length_ofNat, hbyte, pow_succ, Nat.mod_mul, Nat.mul_comm,
      Nat.add_comm]

theorem toNat_ofNat_of_lt {w n : ℕ} (h : n < 256 ^ w) : toNat (ofNat w n) = n := by
  rw [toNat_ofNat, Nat.mod_eq_of_lt h]

/-- Numbers of one width are spelled in one way. -/
theorem eq_of_toNat_eq {l m : Bytes} (hlength : l.length = m.length) (h : toNat l = toNat m) :
    l = m := by
  induction l generalizing m with
  | nil => rw [List.eq_nil_of_length_eq_zero hlength.symm]
  | cons b l ih =>
    rcases m with _ | ⟨c, m⟩
    · cases hlength
    have hlm : l.length = m.length := Nat.succ.inj hlength
    have hpos : 0 < 256 ^ m.length := by positivity
    have hl := toNat_lt l
    have hm := toNat_lt m
    rw [hlm] at hl
    rw [toNat, toNat, hlm] at h
    have hbyte : b.toNat = c.toNat := by
      have hdiv := congrArg (· / 256 ^ m.length) h
      rwa [Nat.add_comm, Nat.add_mul_div_right _ _ hpos, Nat.div_eq_of_lt hl, Nat.zero_add,
        Nat.add_comm, Nat.add_mul_div_right _ _ hpos, Nat.div_eq_of_lt hm, Nat.zero_add] at hdiv
    rw [hbyte, Nat.add_left_cancel_iff] at h
    rw [UInt8.toNat_inj.mp hbyte, ih hlm h]

/-- **Bytes are the spelling of the number they are read as.** -/
theorem ofNat_toNat (l : Bytes) : ofNat l.length (toNat l) = l :=
  eq_of_toNat_eq (length_ofNat _ _) (toNat_ofNat_of_lt (toNat_lt l))

/-- An integer in two's complement. -/
def ofInt (w : ℕ) (n : ℤ) : Bytes := ofNat w (n % 256 ^ w).toNat

/-- The integer that bytes spell in two's complement. -/
def toInt (l : Bytes) : ℤ := Int.bmod (toNat l) (256 ^ l.length)

@[simp] theorem length_ofInt (w : ℕ) (n : ℤ) : (ofInt w n).length = w := length_ofNat _ _

/-- **An integer that fits is read as it was.** -/
theorem toInt_ofInt {w : ℕ} {n : ℤ} (hlow : -(256 ^ w : ℕ) ≤ n * 2)
    (hhigh : n * 2 < (256 ^ w : ℕ)) : toInt (ofInt w n) = n := by
  have hpos : (0 : ℤ) < 256 ^ w := by positivity
  have hmod : ((n % 256 ^ w).toNat : ℤ) = n % 256 ^ w :=
    Int.toNat_of_nonneg (Int.emod_nonneg n hpos.ne')
  have hlt : (n % 256 ^ w).toNat < 256 ^ w := by
    zify
    rw [hmod]
    exact Int.emod_lt_of_pos n hpos
  have hcast : (256 ^ w : ℤ) = (256 ^ w : ℕ) := by push_cast; rfl
  rw [toInt, length_ofInt, ofInt, toNat_ofNat_of_lt hlt, hmod, hcast, Int.emod_bmod,
    Int.bmod_eq_of_le_mul_two hlow hhigh]

/-! ### Text -/

/-- The bytes of a text in UTF-8. -/
def ofText (s : String) : Bytes := s.toList.flatMap String.utf8EncodeChar

/-- The text that bytes spell in UTF-8. -/
def toText (l : Bytes) : Option String := String.fromUTF8? l.toByteArray

theorem toByteArray_ofText (s : String) : (ofText s).toByteArray = s.toByteArray := by
  rw [← String.utf8Encode_toList]
  rfl

/-- **Text is read as it was.** -/
@[simp] theorem toText_ofText (s : String) : toText (ofText s) = some s := by
  rw [toText, toByteArray_ofText, String.fromUTF8?, dif_pos s.isValidUTF8]
  rfl

/-- **Bytes are the spelling of the text they are read as.** -/
theorem ofText_of_toText {l : Bytes} {s : String} (h : toText l = some s) : ofText s = l := by
  rw [toText, String.fromUTF8?] at h
  split at h
  · obtain rfl := Option.some.inj h
    refine List.toByteArray_inj.mp ?_
    rw [toByteArray_ofText]
    rfl
  · cases h

/-- A character below 128 is spelled with one byte, and all bytes of the others are above. -/
theorem mem_utf8EncodeChar_iff {b : UInt8} (hb : b.toNat < 128) {c : Char} :
    b ∈ String.utf8EncodeChar c ↔ c.toNat = b.toNat := by
  have hbyte : ∀ n, n < 256 → (b = UInt8.ofNat n ↔ b.toNat = n) := by
    intro n hn
    rw [← UInt8.toNat_inj, UInt8.toNat_ofNat', Nat.mod_eq_of_lt hn]
  change _ ↔ c.val.toNat = _
  simp only [String.utf8EncodeChar]
  split
  · rw [List.mem_singleton, hbyte _ (by omega)]
    exact eq_comm
  split
  · simp only [List.mem_cons, List.not_mem_nil, or_false]
    rw [hbyte _ (by omega), hbyte _ (by omega)]
    omega
  split
  · simp only [List.mem_cons, List.not_mem_nil, or_false]
    rw [hbyte _ (by omega), hbyte _ (by omega), hbyte _ (by omega)]
    omega
  · simp only [List.mem_cons, List.not_mem_nil, or_false]
    rw [hbyte _ (by omega), hbyte _ (by omega), hbyte _ (by omega), hbyte _ (by omega)]
    omega

/-- A byte below 128 stands for the character of its number. -/
theorem mem_ofText_iff {b : UInt8} (hb : b.toNat < 128) {s : String} :
    b ∈ ofText s ↔ ∃ c ∈ s.toList, c.toNat = b.toNat := by
  simp only [ofText, List.mem_flatMap, mem_utf8EncodeChar_iff hb]

end Bytes
