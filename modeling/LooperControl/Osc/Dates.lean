import LooperControl.Osc.Types

/-!
# `ntp`

A date in a datagram is a number of 64 bits: seconds since 1900, with 32 bits of fraction. One is
special: it stands for what is to be done at once. The code calculates with floats.

* `reads_getDate`: what a date is read as (`dateOf`).
* `dateOf_le_dateOf`: later dates are read as later times.
* `reads_writeDate`: a time from 1968 on is read back to within a quarter of a microsecond.
-/

namespace LooperControl

open Slice

namespace OscTypes

/-- `_NTP_DELTA`. -/
def ntpDelta : ℚ := 2208988800

/-- The bytes of `ntp.IMMEDIATELY`. -/
def immediately : Bytes := Bytes.ofNat 8 1

/-- A float operation with a finite exact result. -/
def toFloat (q : ℚ) : ℚ :=
  match roundToDouble q with
  | .finite r => r
  | _ => 0

/-- `get_date`: seconds since 1970, zero for what is to be done at once. -/
def getDate (dgram : Bytes) (start : ℤ) : Except OscExc (ℚ × ℤ) :=
  if slice dgram start (start + 8) = immediately then .ok (0, start + 8)
  else (getUint64 dgram start).map fun (timetag, index) =>
    (toFloat (toFloat timetag / 2 ^ 32 - ntpDelta), index)

/-- `ntp.system_time_to_ntp`. -/
def systemTimeToNtp : Double → Except OscExc Bytes
  | .finite seconds =>
    match roundToDouble (seconds + ntpDelta) with
    | .finite seconds =>
      match roundToDouble (seconds * 2 ^ 32) with
      | .finite timetag =>
        let n := timetag.num.tdiv timetag.den
        if 0 ≤ n ∧ n < 2 ^ 64 then .ok (Bytes.ofNat 8 n.toNat) else .error .structError
      | _ => .error .overflowError
    | _ => .error .overflowError
  | .infinite _ => .error .overflowError
  | .nan => .error .valueError

/-- `write_date`. -/
def writeDate (systemTime : Double) : Except OscExc Bytes :=
  if systemTime = .finite 0 then .ok immediately else systemTimeToNtp systemTime

/-! ### Floats -/

/-- Half-way to the next integer at most. -/
theorem abs_roundHalfEven_sub_le (q : ℚ) : |roundHalfEven q - q| ≤ 1 / 2 := by
  have hlow := Int.floor_le q
  have hhigh := Int.lt_floor_add_one q
  rw [roundHalfEven, abs_le]
  split_ifs <;> push_cast <;> constructor <;> linarith

/-- Doubles are the numbers of the format of 64 bits, up to the largest one. -/
theorem roundToDouble_eq (q : ℚ) : roundToDouble q =
    if 2 ^ 1024 ≤ |Binary.double.round roundHalfEven q| then .infinite (decide (q < 0))
    else .finite (Binary.double.round roundHalfEven q) := by
  by_cases hq : q = 0
  · have hzero : Binary.double.round roundHalfEven 0 = 0 := by
      have hint := roundHalfEven_intCast 0
      rw [Int.cast_zero] at hint
      rw [Binary.round, zero_div, hint, Int.cast_zero, zero_mul]
    have hbound : ¬(2 : ℚ) ^ 1024 ≤ |0| := by
      rw [abs_zero]
      exact not_le.mpr (by positivity)
    rw [hq, hzero, if_neg hbound, roundToDouble, if_pos rfl]
  · have hunit : Binary.double.unit q = max (Int.log 2 |q| - 52) (-1074) := by
      rw [Binary.unit, if_neg hq]
      rfl
    rw [roundToDouble, if_neg hq, Binary.round, hunit]

/-- A float that is not too large is the rounded number. -/
theorem roundToDouble_of_le {q : ℚ} (hq : |q| ≤ 2 ^ 100) :
    roundToDouble q = .finite (Binary.double.round roundHalfEven q) := by
  have hself : ∀ c : ℤ, |c| = 1 → Binary.double.round roundHalfEven (c * 2 ^ (100 : ℤ)) =
      c * 2 ^ (100 : ℤ) := by
    intro c hc
    refine Binary.round_eq_self roundHalfEven_intCast (by decide) ?_
    rw [hc]
    decide
  have hpow : (2 : ℚ) ^ (100 : ℤ) = 2 ^ 100 := zpow_natCast 2 100
  obtain ⟨hlow, hhigh⟩ := abs_le.mp hq
  have hle := Binary.round_le_round (f := .double) roundHalfEven_le_roundHalfEven
    roundHalfEven_intCast hhigh
  have hge := Binary.round_le_round (f := .double) roundHalfEven_le_roundHalfEven
    roundHalfEven_intCast hlow
  have hone := hself 1 (by decide)
  have hminus := hself (-1) (by decide)
  rw [hpow, Int.cast_one, one_mul] at hone
  rw [hpow, Int.cast_neg, Int.cast_one, neg_one_mul] at hminus
  rw [hone] at hle
  rw [hminus] at hge
  have hlt : (2 : ℚ) ^ 100 < 2 ^ 1024 := pow_lt_pow_right₀ (by norm_num) (by norm_num)
  rw [roundToDouble_eq, if_neg (not_le.mpr ((abs_le.mpr ⟨hge, hle⟩).trans_lt hlt))]

theorem toFloat_of_le {q : ℚ} (hq : |q| ≤ 2 ^ 100) :
    toFloat q = Binary.double.round roundHalfEven q := by
  rw [toFloat, roundToDouble_of_le hq]

/-- Floats of whole steps, few enough of them, are exact. -/
theorem round_of_steps {c e : ℤ} (hlow : -1074 ≤ e) (hc : |c| < 2 ^ 53) :
    Binary.double.round roundHalfEven (c * 2 ^ e) = c * 2 ^ e :=
  Binary.round_eq_self roundHalfEven_intCast hlow hc

theorem round_le_round {a b : ℚ} (h : a ≤ b) :
    Binary.double.round roundHalfEven a ≤ Binary.double.round roundHalfEven b :=
  Binary.round_le_round roundHalfEven_le_roundHalfEven roundHalfEven_intCast h

/-! ### What a date is read as -/

/-- The time that a date of 64 bits stands for. -/
def dateOf (timetag : ℕ) : ℚ :=
  if timetag = 1 then 0 else toFloat (toFloat timetag / 2 ^ 32 - ntpDelta)

theorem reads_getDate {timetag : ℕ} (h : timetag < 2 ^ 64) :
    Reads getDate (Bytes.ofNat 8 timetag) (dateOf timetag) := by
  intro l r
  have hlength : (Bytes.ofNat 8 timetag).length = 8 := Bytes.length_ofNat 8 timetag
  have hslice := slice_append l (Bytes.ofNat 8 timetag) r
  have hread := reads_getFixed Bytes.toNat hlength l r
  rw [Bytes.toNat_ofNat_of_lt h] at hread
  rw [hlength, Nat.cast_ofNat] at hslice hread ⊢
  rw [getDate, dateOf]
  by_cases hone : timetag = 1
  · rw [if_pos hone, if_pos (by rw [hslice, hone, immediately])]
  · have hne : slice (l ++ (Bytes.ofNat 8 timetag ++ r)) l.length (l.length + 8) ≠ immediately := by
      intro heq
      have hnat := congrArg Bytes.toNat (hslice.symm.trans heq)
      rw [Bytes.toNat_ofNat_of_lt h, immediately, Bytes.toNat_ofNat_of_lt (by norm_num)] at hnat
      exact hone hnat
    rw [if_neg hone, if_neg hne, getUint64, hread]
    rfl

/-- Any eight bytes are a date. -/
theorem exists_reads_getDate {dgram : Bytes} (h : dgram.length = 8) :
    ∃ s, Reads getDate dgram s := by
  have hlt := Bytes.toNat_lt dgram
  rw [h] at hlt
  have hread := reads_getDate hlt
  have hbytes := Bytes.ofNat_toNat dgram
  rw [h] at hbytes
  rw [hbytes] at hread
  exact ⟨_, hread⟩

/-- **Later dates are read as later times**, apart from the one that is special. -/
theorem dateOf_le_dateOf {m n : ℕ} (hm : m ≠ 1) (hn : n ≠ 1) (h : m ≤ n) (hlt : n < 2 ^ 64) :
    dateOf m ≤ dateOf n := by
  have hbig : (n : ℚ) ≤ 2 ^ 64 := by exact_mod_cast hlt.le
  have hcast : (m : ℚ) ≤ n := by exact_mod_cast h
  have hzero : (0 : ℚ) ≤ m := Nat.cast_nonneg m
  have hbound : ∀ {q : ℚ}, 0 ≤ q → q ≤ 2 ^ 64 → toFloat q = Binary.double.round roundHalfEven q ∧
      0 ≤ toFloat q ∧ toFloat q ≤ 2 ^ 64 := by
    intro q h0 h64
    have htoFloat := toFloat_of_le (q := q) (abs_le.mpr ⟨by linarith, by linarith⟩)
    have hlow := round_le_round h0
    have hhigh := round_le_round h64
    have hself := round_of_steps (c := 0) (e := 0) (by decide) (by decide)
    have hself' := round_of_steps (c := 1) (e := 64) (by decide) (by decide)
    norm_num at hself hself' hhigh
    rw [hself] at hlow
    rw [hself'] at hhigh
    rw [htoFloat]
    exact ⟨rfl, hlow, by norm_num; exact hhigh⟩
  obtain ⟨hm64, hm0, hm'⟩ := hbound hzero (hcast.trans hbig)
  obtain ⟨hn64, hn0, hn'⟩ := hbound (hzero.trans hcast) hbig
  have hle : toFloat m ≤ toFloat n := by
    rw [hm64, hn64]
    exact round_le_round hcast
  have hsmall : ∀ {q : ℚ}, 0 ≤ q → q ≤ 2 ^ 64 → |q / 2 ^ 32 - ntpDelta| ≤ 2 ^ 100 := by
    intro q h0 h64
    rw [ntpDelta, abs_le]
    constructor <;> linarith
  rw [dateOf, dateOf, if_neg hm, if_neg hn, toFloat_of_le (hsmall hm0 hm'),
    toFloat_of_le (hsmall hn0 hn')]
  apply round_le_round
  linarith

theorem dateOf_two_le_three : dateOf 2 ≤ dateOf 3 :=
  dateOf_le_dateOf (by decide) (by decide) (by decide) (by decide)

/-- Whatever is written as a date is read as one. -/
theorem exists_reads_of_writeDate {t : Double} {dgram : Bytes} (h : writeDate t = .ok dgram) :
    dgram.length = 8 ∧ ∃ s, Reads getDate dgram s := by
  rw [writeDate] at h
  split at h
  · obtain rfl := Except.ok.inj h
    exact ⟨Bytes.length_ofNat 8 1, _, reads_getDate (by norm_num)⟩
  · rw [systemTimeToNtp.eq_def] at h
    split at h
    · split at h
      · split at h
        · simp only at h
          split at h
          · rename_i hn
            obtain rfl := Except.ok.inj h
            exact ⟨Bytes.length_ofNat _ _, _, reads_getDate (by omega)⟩
          · cases h
        · cases h
      · cases h
    · cases h
    · cases h

/-- Numbers of 32 bits and one more have a spacing of 2⁻²¹ seconds. -/
theorem unit_eq_of_bounds {q : ℚ} (hlow : 2 ^ 31 ≤ q) (hhigh : q < 2 ^ 32) :
    Binary.double.unit q = -21 := by
  have hpos : 0 < q := by linarith
  have hlog : Int.log 2 |q| = 31 := by
    rw [abs_of_pos hpos]
    have hle : 31 ≤ Int.log 2 q := by
      refine (Int.zpow_le_iff_le_log (b := 2) (by decide) hpos).mp ?_
      norm_num
      linarith
    have hlt : Int.log 2 q < 32 := by
      refine (Int.lt_zpow_iff_log_lt (b := 2) (by decide) hpos).mp ?_
      norm_num
      linarith
    omega
  rw [Binary.unit, if_neg hpos.ne', hlog]
  rfl

/-- Cutting off the fraction of a number that is not negative. -/
theorem tdiv_eq_floor {q : ℚ} (h : 0 ≤ q) : q.num.tdiv q.den = ⌊q⌋ := by
  rw [Int.tdiv_eq_ediv_of_nonneg (Rat.num_nonneg.mpr h), Rat.floor_def']

/-- What is written for a time from 1968 on: whole steps of that spacing. -/
theorem steps_of_systemTimeToNtp {t : ℚ} (ht : -61505152 ≤ t) {dgram : Bytes}
    (h : systemTimeToNtp (.finite t) = .ok dgram) :
    ∃ c : ℤ, 2 ^ 52 ≤ c ∧ c < 2 ^ 53 ∧ dgram = Bytes.ofNat 8 (c * 2 ^ 11).toNat ∧
      |c * 2 ^ (-21 : ℤ) - (t + ntpDelta)| ≤ 2 ^ (-22 : ℤ) := by
  rw [systemTimeToNtp] at h
  split at h
  swap
  · cases h
  rename_i x hx
  split at h
  swap
  · cases h
  rename_i y hy
  simp only at h
  split at h
  swap
  · cases h
  rename_i hn
  obtain rfl := Except.ok.inj h
  have hround : ∀ {q r : ℚ}, roundToDouble q = .finite r →
      r = Binary.double.round roundHalfEven q := by
    intro q r hr
    rw [roundToDouble_eq] at hr
    split at hr
    · cases hr
    · exact (Double.finite.inj hr).symm
  have hpower : ∀ e : ℕ, Binary.double.round roundHalfEven (2 ^ e) = 2 ^ e := by
    intro e
    have hself := round_of_steps (c := 1) (e := e) (by omega) (by decide)
    rwa [Int.cast_one, one_mul, zpow_natCast] at hself
  have hq : 2 ^ 31 ≤ t + ntpDelta := by
    rw [ntpDelta]
    linarith
  -- A date past the last one would not have been packed.
  have hlimit : x < 2 ^ 32 := by
    by_contra hge
    have hmono : (2 : ℚ) ^ 64 ≤ x * 2 ^ 32 := by linarith
    have hle := round_le_round hmono
    rw [hpower, ← hround hy] at hle
    have hfloor : (2 : ℤ) ^ 64 ≤ ⌊y⌋ := Int.le_floor.mpr (by exact_mod_cast hle)
    rw [tdiv_eq_floor (le_trans (by positivity) hle)] at hn
    omega
  have hhigh : t + ntpDelta < 2 ^ 32 := by
    by_contra hge
    have hle := round_le_round (not_lt.mp hge)
    rw [hpower, ← hround hx] at hle
    exact absurd hlimit (not_lt.mpr hle)
  have hlow := round_le_round hq
  rw [hpower, ← hround hx] at hlow
  have hunit := unit_eq_of_bounds hq hhigh
  have hnear := Binary.abs_round_sub_le (f := .double) abs_roundHalfEven_sub_le (t + ntpDelta)
  rw [← hround hx, hunit] at hnear
  have hx' := hround hx
  rw [Binary.round, hunit] at hx'
  generalize roundHalfEven ((t + ntpDelta) / 2 ^ (-21 : ℤ)) = c at hx'
  have hc : (c : ℚ) = x * 2 ^ 21 := by
    rw [hx']
    norm_num
    ring
  have hclow : (2 ^ 52 : ℤ) ≤ c := by
    have hle : (2 ^ 52 : ℚ) ≤ c := by
      rw [hc]
      linarith
    exact_mod_cast hle
  have hchigh : c < 2 ^ 53 := by
    have hlt : (c : ℚ) < 2 ^ 53 := by
      rw [hc]
      linarith
    exact_mod_cast hlt
  have hy' : y = (c * 2 ^ 11 : ℤ) := by
    have hself := round_of_steps (c := c) (e := 11) (by decide)
      (by rw [abs_of_nonneg (by omega)]; exact hchigh)
    have hsteps : x * 2 ^ 32 = c * 2 ^ (11 : ℤ) := by
      rw [hc]
      norm_num
      ring
    rw [hround hy, hsteps, hself]
    push_cast
    rfl
  refine ⟨c, hclow, hchigh, ?_, ?_⟩
  · rw [hy', Rat.num_intCast, Rat.den_intCast, Nat.cast_one, Int.tdiv_one]
  · rw [← hx']
    refine hnear.trans_eq ?_
    norm_num

/-- **A time is read back** to within half of that spacing, from 1968 on. -/
theorem reads_writeDate {t : ℚ} (ht : -61505152 ≤ t) {dgram : Bytes}
    (h : writeDate (.finite t) = .ok dgram) :
    ∃ s, Reads getDate dgram s ∧ |s - t| ≤ 2 ^ (-22 : ℤ) := by
  rw [writeDate] at h
  split at h
  · rename_i hzero
    obtain rfl := Except.ok.inj h
    refine ⟨0, reads_getDate (by norm_num), ?_⟩
    rw [Double.finite.inj hzero]
    norm_num
  · obtain ⟨c, hlow, hhigh, rfl, hnear⟩ := steps_of_systemTimeToNtp ht h
    have hn : ((c * 2 ^ 11).toNat : ℤ) = c * 2 ^ 11 := Int.toNat_of_nonneg (by omega)
    have hq : (((c * 2 ^ 11).toNat : ℕ) : ℚ) = c * 2 ^ (11 : ℤ) := by
      have hcast : (((c * 2 ^ 11).toNat : ℤ) : ℚ) = (c * 2 ^ 11 : ℤ) := by rw [hn]
      push_cast at hcast
      exact hcast
    refine ⟨_, reads_getDate (by omega), ?_⟩
    have hclow : (2 ^ 52 : ℚ) ≤ c := by exact_mod_cast hlow
    have hchigh : (c : ℚ) < 2 ^ 53 := by exact_mod_cast hhigh
    have hfirst : toFloat (c * 2 ^ (11 : ℤ)) = c * 2 ^ (11 : ℤ) := by
      rw [toFloat_of_le (abs_le.mpr ⟨by norm_num; linarith, by norm_num; linarith⟩)]
      exact round_of_steps (by decide) (by rw [abs_of_nonneg (by omega)]; exact hhigh)
    have hsteps : (c : ℚ) * 2 ^ (11 : ℤ) / 2 ^ 32 - ntpDelta =
        (c - 2208988800 * 2 ^ 21 : ℤ) * 2 ^ (-21 : ℤ) := by
      rw [ntpDelta]
      push_cast
      norm_num
      ring
    have hsecond : toFloat (c * 2 ^ (11 : ℤ) / 2 ^ 32 - ntpDelta) =
        c * 2 ^ (11 : ℤ) / 2 ^ 32 - ntpDelta := by
      rw [hsteps, toFloat_of_le (abs_le.mpr ⟨by push_cast; norm_num; linarith,
        by push_cast; norm_num; linarith⟩)]
      exact round_of_steps (by decide) (by rw [abs_lt]; omega)
    rw [dateOf, if_neg (by omega), hq, hfirst, hsecond]
    have hsame : (c : ℚ) * 2 ^ (11 : ℤ) / 2 ^ 32 - ntpDelta - t =
        c * 2 ^ (-21 : ℤ) - (t + ntpDelta) := by
      norm_num
      ring
    rw [hsame]
    exact hnear

end OscTypes

end LooperControl
