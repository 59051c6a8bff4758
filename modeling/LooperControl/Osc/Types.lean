import LooperControl.Lib.Binary
import LooperControl.Lib.Bytes
import LooperControl.Lib.Fallible
import LooperControl.Script.Python

/-!
# `osc_types`

The bundled OSC library spells arguments as bytes and reads them back. A reader takes a datagram and
an index, which a blob of negative size may have made negative, and gives the value and the index
behind it.

* `Reads`: what a reader makes of bytes in the middle of a datagram.
* `reads_writeString`, `reads_writeInt` and so on: every value that is written is read as it was. A
  float is rounded to 32 bits, and the parts of a MIDI message are cut off at 8 bits.
* `exists_reads_written`: a float or a double that is read is written as it was.

A value is one of Python's. A zero has no sign, and a `datetime` is its seconds since 1900.
-/

namespace LooperControl

open Slice

/-- The exceptions of the OSC library, each with its module's class. -/
inductive OscExc
  | typesParse
  | typesBuild
  | messageParse
  | messageBuild
  | bundleParse
  | bundleBuild
  | packetParse
  | unicodeDecode
  | valueError
  | typeError
  | overflowError
  | structError
  deriving DecidableEq

/-- A value that is sent or that has been received. -/
inductive OscValue
  | none
  | bool (b : Bool)
  | int (n : ℤ)
  | float (x : Double)
  | str (s : String)
  | bytes (l : Bytes)
  | tuple (elements : List OscValue)
  | list (elements : List OscValue)
  | time (seconds fraction : ℕ)

namespace OscValue

/-- `len(value)`. -/
def length? : OscValue → Option ℕ
  | .str s => some s.length
  | .bytes l => some l.length
  | .tuple l => some l.length
  | .list l => some l.length
  | .time _ _ => some 2
  | _ => Option.none

/-- `bool(value)`. -/
def truthy : OscValue → Bool
  | .none => false
  | .bool b => b
  | .int n => n ≠ 0
  | .float x => x ≠ .finite 0
  | .str s => s ≠ ""
  | .bytes l => l ≠ []
  | .tuple l => !l.isEmpty
  | .list l => !l.isEmpty
  | .time _ _ => true

/-- The elements that a loop over a value goes through. The halves of a timetag are no arguments of
a message. -/
def elements? : OscValue → Option (List OscValue)
  | .str s => some (s.toList.map fun c => .str (String.singleton c))
  | .bytes l => some (l.map fun b => .int b.toNat)
  | .tuple l => some l
  | .list l => some l
  | _ => Option.none

/-- The integer that a value is where one is asked for: `True` and `False` are integers. -/
def integer? : OscValue → Option ℤ
  | .int n => some n
  | .bool b => some (if b then 1 else 0)
  | _ => Option.none

/-- The number that a value is where a float is asked for, if it is not too large an integer. -/
def number? : OscValue → Option Double
  | .float x => some x
  | v => (integer? v).bind fun n =>
      match roundToDouble n with
      | .finite q => some (.finite q)
      | _ => Option.none

end OscValue

namespace OscTypes

/-! ### Writing -/

/-- `write_string`. -/
def writeString : OscValue → Except OscExc Bytes
  | .str s =>
    let dgram := Bytes.ofText s
    .ok (dgram ++ List.replicate (4 - dgram.length % 4) 0)
  | _ => .error .typesBuild

/-- `struct.pack` of an integer between two bounds, in `w` bytes. -/
def packInteger (w : ℕ) (low high : ℤ) (v : OscValue) : Except OscExc Bytes :=
  match v.integer? with
  | some n => if low ≤ n ∧ n < high then .ok (Bytes.ofInt w n) else .error .typesBuild
  | none => .error .typesBuild

/-- `write_int`. -/
def writeInt : OscValue → Except OscExc Bytes := packInteger 4 (-2 ^ 31) (2 ^ 31)

/-- `write_int64`. -/
def writeInt64 : OscValue → Except OscExc Bytes := packInteger 8 (-2 ^ 63) (2 ^ 63)

/-- `write_rgba`. -/
def writeRgba : OscValue → Except OscExc Bytes := packInteger 4 0 (2 ^ 32)

/-- `struct.pack` of a number in a format. A number that is too large for the format raises another
exception than a value that is no number. -/
def packNumber (f : Binary) (v : OscValue) : Except OscExc Bytes :=
  match v.number? with
  | some x =>
    match f.encode roundHalfEven x with
    | some n => .ok (Bytes.ofNat ((f.exponent + f.fraction + 1) / 8) n)
    | none => .error .overflowError
  | none => .error .typesBuild

/-- `write_float`. -/
def writeFloat : OscValue → Except OscExc Bytes := packNumber .single

/-- `write_double`. -/
def writeDouble : OscValue → Except OscExc Bytes := packNumber .double

/-- Bytes with zeros behind them up to a multiple of 4. -/
def pad (dgram : Bytes) : Bytes := dgram ++ List.replicate ((4 - dgram.length % 4) % 4) 0

/-- `write_blob`. -/
def writeBlob (v : OscValue) : Except OscExc Bytes :=
  if v.truthy then
    match v.length? with
    | none => .error .typeError
    | some n => (writeInt (.int n)).bind fun dgram =>
        match v with
        | .bytes l => .ok (pad (dgram ++ l))
        | _ => .error .typeError
  else .error .typesBuild

/-- `write_midi`. -/
def writeMidi (v : OscValue) : Except OscExc Bytes :=
  match v.length? with
  | none => .error .typeError
  | some n =>
    if n = 4 then
      match (v.elements?.getD []).mapM OscValue.integer? with
      | some values =>
        .ok (Bytes.ofNat 4 ((values.map fun value => (value % 256).toNat).foldl
          (fun sum value => 256 * sum + value) 0))
      | none => .error .typeError
    else .error .typesBuild

/-! ### Reading -/

/-- `get_string`. -/
def getString (dgram : Bytes) (start : ℤ) : Except OscExc (String × ℤ) :=
  if start < 0 then .error .typesParse
  else
    match (dgram.drop start.toNat).findIdx? (· == 0) with
    | none => .error .typesParse
    | some offset =>
      let total := if (offset + 1) % 4 ≠ 0 then offset + 1 + (4 - (offset + 1) % 4) else offset + 1
      if dgram.length < start + total then .error .typesParse
      else
        match Bytes.toText (slice dgram start (start + offset)) with
        | some s => .ok (s, start + total)
        | none => .error .unicodeDecode

/-- A value of `w` bytes. -/
def getFixed {α : Type} (w : ℕ) (unpack : Bytes → α) (dgram : Bytes) (start : ℤ) :
    Except OscExc (α × ℤ) :=
  if (sliceFrom dgram start).length < w then .error .typesParse
  else
    let bytes := slice dgram start (start + w)
    if bytes.length = w then .ok (unpack bytes, start + w) else .error .typesParse

/-- `get_int`. -/
def getInt : Bytes → ℤ → Except OscExc (ℤ × ℤ) := getFixed 4 Bytes.toInt

/-- `get_int64`. -/
def getInt64 : Bytes → ℤ → Except OscExc (ℤ × ℤ) := getFixed 8 Bytes.toInt

/-- `get_uint64`. -/
def getUint64 : Bytes → ℤ → Except OscExc (ℕ × ℤ) := getFixed 8 Bytes.toNat

/-- `get_rgba`. -/
def getRgba : Bytes → ℤ → Except OscExc (ℕ × ℤ) := getFixed 4 Bytes.toNat

/-- `get_double`. -/
def getDouble : Bytes → ℤ → Except OscExc (Double × ℤ) :=
  getFixed 8 fun bytes => Binary.double.decode (Bytes.toNat bytes)

/-- `get_float`: a datagram that ends too early goes on with zeros. -/
def getFloat (dgram : Bytes) (start : ℤ) : Except OscExc (Double × ℤ) :=
  let dgram := dgram ++ List.replicate (4 - (sliceFrom dgram start).length) 0
  let bytes := slice dgram start (start + 4)
  if bytes.length = 4 then .ok (Binary.single.decode (Bytes.toNat bytes), start + 4)
  else .error .typesParse

/-- `get_blob`. -/
def getBlob (dgram : Bytes) (start : ℤ) : Except OscExc (Bytes × ℤ) :=
  (getInt dgram start).bind fun (size, intOffset) =>
    let totalSize := size + -size % 4
    if (sliceFrom dgram start).length < intOffset + size - start then .error .typesParse
    else .ok (slice dgram intOffset (intOffset + size), intOffset + totalSize)

/-- `ntp.parse_timestamp`. -/
def parseTimestamp (timestamp : ℕ) : ℕ × ℕ := (timestamp / 2 ^ 32, timestamp % 2 ^ 32)

/-- `get_timetag`. -/
def getTimetag : Bytes → ℤ → Except OscExc ((ℕ × ℕ) × ℤ) :=
  getFixed 8 fun bytes => parseTimestamp (Bytes.toNat bytes)

/-- `get_midi`. -/
def getMidi : Bytes → ℤ → Except OscExc (List ℕ × ℤ) :=
  getFixed 4 fun bytes => [3, 2, 1, 0].map fun i => Bytes.toNat bytes / 2 ^ (8 * i) % 256

/-! ### Exceptions of the readers -/

/-- What a reader raises: the parser's exception, or the one for bytes that are no UTF-8. -/
def IsReadError (e : OscExc) : Prop := e = .typesParse ∨ e = .unicodeDecode

variable {dgram : Bytes} {start : ℤ} {e : OscExc}

theorem isReadError_getString (h : getString dgram start = .error e) : IsReadError e := by
  rw [getString] at h
  split at h
  · exact .inl (Except.error.inj h).symm
  split at h
  · exact .inl (Except.error.inj h).symm
  · simp only at h
    split_ifs at h
    · exact .inl (Except.error.inj h).symm
    · split at h
      · cases h
      · exact .inr (Except.error.inj h).symm
    · exact .inl (Except.error.inj h).symm
    · split at h
      · cases h
      · exact .inr (Except.error.inj h).symm

theorem isReadError_getFixed {α : Type} {w : ℕ} {unpack : Bytes → α}
    (h : getFixed w unpack dgram start = .error e) : IsReadError e := by
  rw [getFixed] at h
  split at h
  · exact .inl (Except.error.inj h).symm
  simp only at h
  split at h
  · cases h
  · exact .inl (Except.error.inj h).symm

theorem isReadError_getFloat (h : getFloat dgram start = .error e) : IsReadError e := by
  rw [getFloat] at h
  split at h
  · cases h
  · exact .inl (Except.error.inj h).symm

theorem isReadError_getBlob (h : getBlob dgram start = .error e) : IsReadError e := by
  rw [getBlob] at h
  rcases Fallible.bind_eq_error_iff.mp h with h | ⟨r, -, h⟩
  · exact isReadError_getFixed h
  · simp only at h
    split at h
    · exact .inl (Except.error.inj h).symm
    · cases h

/-! ### Rounding to an integer -/

theorem floor_le_roundHalfEven (q : ℚ) : ⌊q⌋ ≤ roundHalfEven q := by
  rw [roundHalfEven]
  split_ifs <;> omega

theorem roundHalfEven_le (q : ℚ) : roundHalfEven q ≤ ⌊q⌋ + 1 := by
  rw [roundHalfEven]
  split_ifs <;> omega

theorem roundHalfEven_intCast (n : ℤ) : roundHalfEven n = n := by
  rw [roundHalfEven]
  simp

theorem roundHalfEven_le_roundHalfEven (a b : ℚ) (h : a ≤ b) :
    roundHalfEven a ≤ roundHalfEven b := by
  rcases (Int.floor_le_floor h).lt_or_eq with hlt | heq
  · have ha := roundHalfEven_le a
    have hb := floor_le_roundHalfEven b
    omega
  · rw [roundHalfEven, roundHalfEven, heq]
    -- The second fraction is the larger one.
    split_ifs <;> first | omega | (exfalso; linarith)

/-! ### What is written is read -/

/-- A reader makes a value of bytes wherever in a datagram they stand. -/
def Reads {α : Type} (get : Bytes → ℤ → Except OscExc (α × ℤ)) (dgram : Bytes) (value : α) : Prop :=
  ∀ l r : Bytes, get (l ++ (dgram ++ r)) l.length = .ok (value, l.length + dgram.length)

/-- What is read is one value. -/
theorem Reads.unique {α : Type} {get : Bytes → ℤ → Except OscExc (α × ℤ)} {dgram : Bytes} {a b : α}
    (ha : Reads get dgram a) (hb : Reads get dgram b) : a = b :=
  (Prod.mk.inj (Except.ok.inj ((ha [] []).symm.trans (hb [] [])))).1

theorem reads_getFixed {α : Type} {w : ℕ} (unpack : Bytes → α) {dgram : Bytes}
    (h : dgram.length = w) : Reads (getFixed w unpack) dgram (unpack dgram) := by
  intro l r
  have hlength : ¬(sliceFrom (l ++ (dgram ++ r)) l.length).length < w := by
    rw [sliceFrom_append, List.length_append]
    omega
  subst h
  rw [getFixed, if_neg hlength, slice_append]
  exact if_pos rfl

/-- The padded length of a string, as it is written and as it is read. -/
theorem padded_length (n : ℕ) : n + (4 - n % 4) =
    if (n + 1) % 4 ≠ 0 then n + 1 + (4 - (n + 1) % 4) else n + 1 := by
  split <;> omega

/-- The first zero stands behind the text. -/
theorem findIdx?_zero {l : Bytes} (h : 0 ∉ l) (r : Bytes) :
    (l ++ 0 :: r).findIdx? (· == 0) = some l.length := by
  have hl : l.findIdx? (· == 0) = none := by
    rw [List.findIdx?_eq_none_iff]
    intro b hb
    rw [beq_eq_false_iff_ne]
    rintro rfl
    exact h hb
  rw [List.findIdx?_append, hl, List.findIdx?_cons]
  simp

/-- Only text is written as a string. -/
theorem text_of_writeString {v : OscValue} {dgram : Bytes} (h : writeString v = .ok dgram) :
    ∃ s, v = .str s := by
  rw [writeString.eq_def] at h
  split at h
  · exact ⟨_, rfl⟩
  · cases h

theorem reads_writeString {s : String} (h : Char.ofNat 0 ∉ s.toList) {dgram : Bytes}
    (hwrite : writeString (.str s) = .ok dgram) : Reads getString dgram s := by
  obtain rfl := Except.ok.inj hwrite
  have hzero : (0 : UInt8) ∉ Bytes.ofText s := by
    rw [Bytes.mem_ofText_iff (by decide)]
    rintro ⟨c, hc, hzero⟩
    have hc0 : c = Char.ofNat 0 := by
      rw [← Char.ofNat_toNat c, hzero]
      rfl
    exact h (hc0 ▸ hc)
  intro l r
  generalize htext : Bytes.ofText s = text at hzero ⊢
  obtain ⟨k, hk⟩ : ∃ k, 4 - text.length % 4 = k + 1 := ⟨3 - text.length % 4, by omega⟩
  have hfind : (text ++ List.replicate (4 - text.length % 4) 0 ++ r).findIdx? (· == 0) =
      some text.length := by
    rw [hk, List.replicate_succ, List.append_assoc, List.cons_append]
    exact findIdx?_zero hzero _
  have hlength : (text ++ List.replicate (4 - text.length % 4) (0 : UInt8)).length =
      text.length + (4 - text.length % 4) := by
    rw [List.length_append, List.length_replicate]
  have hslice : slice (l ++ (text ++ List.replicate (4 - text.length % 4) 0 ++ r)) l.length
      (l.length + text.length) = text := by
    rw [List.append_assoc]
    exact slice_append l text _
  rw [getString, if_neg (by omega), Int.toNat_natCast, List.drop_left, hfind]
  simp only
  rw [← padded_length, hslice, ← htext, Bytes.toText_ofText, htext, hlength, if_neg]
  simp only [List.length_append, List.length_replicate]
  push_cast
  omega

/-- A string that is read at the front of a datagram stands there, with a zero behind it. -/
theorem front_of_getString {dgram : Bytes} {s : String} {j : ℤ}
    (h : getString dgram 0 = .ok (s, j)) :
    0 ∉ Bytes.ofText s ∧ ∃ rest, dgram = Bytes.ofText s ++ 0 :: rest := by
  rw [getString, if_neg (by decide), Int.toNat_zero, List.drop_zero] at h
  split at h
  · cases h
  rename_i offset hfind
  simp only at h
  split_ifs at h
  all_goals
    split at h
    · rename_i text htext
      obtain ⟨rfl, -⟩ := Prod.mk.inj (Except.ok.inj h)
      rw [zero_add, ← Nat.cast_zero, slice_natCast, List.drop_zero] at htext
      obtain ⟨hoffset, hzero, hfirst⟩ := List.findIdx?_eq_some_iff_getElem.mp hfind
      rw [Bytes.ofText_of_toText htext]
      constructor
      · intro hmem
        obtain ⟨k, hk, heq⟩ := List.mem_iff_getElem.mp hmem
        rw [List.length_take] at hk
        rw [List.getElem_take] at heq
        exact hfirst k (by omega) (beq_iff_eq.mpr heq)
      · refine ⟨dgram.drop (offset + 1), ?_⟩
        rw [← beq_iff_eq.mp hzero, ← List.drop_eq_getElem_cons hoffset, List.take_append_drop]
    · cases h

/-- Only an integer is written as one. -/
theorem integer_of_packInteger {w : ℕ} {low high : ℤ} {v : OscValue} {dgram : Bytes}
    (h : packInteger w low high v = .ok dgram) :
    ∃ n, v.integer? = some n ∧ low ≤ n ∧ n < high := by
  rw [packInteger] at h
  split at h
  · rename_i n hn
    split at h
    · rename_i hbounds
      exact ⟨n, hn, hbounds⟩
    · cases h
  · cases h

/-- Which integers are packed. -/
theorem exists_packInteger_iff {w : ℕ} {low high n : ℤ} :
    (∃ l, packInteger w low high (.int n) = .ok l) ↔ low ≤ n ∧ n < high := by
  simp only [packInteger, OscValue.integer?]
  split
  · rename_i h
    exact iff_of_true ⟨_, rfl⟩ h
  · rename_i h
    refine iff_of_false ?_ h
    rintro ⟨l, hl⟩
    cases hl

/-- Integers between two bounds, which the width holds, are read as they were. -/
theorem reads_packInteger {w : ℕ} {low high n : ℤ} (hlow : -(256 ^ w : ℕ) ≤ low * 2)
    (hhigh : high * 2 ≤ (256 ^ w : ℕ)) {v : OscValue} (hv : v.integer? = some n) {dgram : Bytes}
    (h : packInteger w low high v = .ok dgram) : Reads (getFixed w Bytes.toInt) dgram n := by
  rw [packInteger, hv] at h
  simp only at h
  split at h
  · rename_i hn
    obtain rfl := Except.ok.inj h
    have hread := reads_getFixed Bytes.toInt (Bytes.length_ofInt w n)
    rwa [Bytes.toInt_ofInt (by omega) (by omega)] at hread
  · cases h

theorem reads_writeInt {v : OscValue} {n : ℤ} (hv : v.integer? = some n) {dgram : Bytes}
    (h : writeInt v = .ok dgram) : Reads getInt dgram n :=
  reads_packInteger (by norm_num) (by norm_num) hv h

theorem reads_writeInt64 {v : OscValue} {n : ℤ} (hv : v.integer? = some n) {dgram : Bytes}
    (h : writeInt64 v = .ok dgram) : Reads getInt64 dgram n :=
  reads_packInteger (by norm_num) (by norm_num) hv h

theorem reads_writeRgba {v : OscValue} {n : ℤ} (hv : v.integer? = some n) {dgram : Bytes}
    (h : writeRgba v = .ok dgram) : Reads getRgba dgram n.toNat := by
  rw [writeRgba, packInteger, hv] at h
  simp only at h
  split at h
  · rename_i hn
    obtain rfl := Except.ok.inj h
    have hread := reads_getFixed Bytes.toNat (Bytes.length_ofInt 4 n)
    have hbytes : Bytes.ofInt 4 n = Bytes.ofNat 4 n.toNat := by
      rw [Bytes.ofInt, Int.emod_eq_of_lt hn.1 (by norm_num; exact hn.2)]
    rw [hbytes, Bytes.toNat_ofNat_of_lt (by omega)] at hread
    rw [hbytes]
    exact hread
  · cases h

/-- Only a number is written as one. -/
theorem number_of_packNumber {f : Binary} {v : OscValue} {dgram : Bytes}
    (h : packNumber f v = .ok dgram) : ∃ x, v.number? = some x := by
  rw [packNumber] at h
  split at h
  · rename_i x hx
    exact ⟨x, hx⟩
  · cases h

/-- Numbers are read as the format rounds them. -/
theorem reads_packNumber {f : Binary} {w : ℕ} (hwidth : f.exponent + f.fraction + 1 = 8 * w)
    (hfraction : 0 < f.fraction) {v : OscValue} {x : Double} (hv : v.number? = some x)
    {dgram : Bytes} (h : packNumber f v = .ok dgram) :
    Reads (getFixed w fun bytes => f.decode (Bytes.toNat bytes)) dgram
      (f.rounded roundHalfEven x) := by
  rw [packNumber, hv] at h
  simp only at h
  split at h
  · rename_i n hn
    obtain rfl := Except.ok.inj h
    obtain ⟨hdecode, hlt⟩ := Binary.decode_encode roundHalfEven_le_roundHalfEven
      roundHalfEven_intCast hfraction hn
    have hw : (f.exponent + f.fraction + 1) / 8 = w := by omega
    have hbound : 2 * f.signBit = 256 ^ w := by
      rw [Binary.signBit, ← pow_succ', hwidth, pow_mul]
      norm_num
    have hread := reads_getFixed (fun bytes => f.decode (Bytes.toNat bytes))
      (Bytes.length_ofNat w n)
    rw [Bytes.toNat_ofNat_of_lt (hbound ▸ hlt), hdecode] at hread
    rw [hw]
    exact hread
  · cases h

/-- A datagram that goes on far enough is not padded. -/
theorem reads_getFloat {dgram : Bytes} {x : Double} (hlength : dgram.length = 4)
    (h : Reads (getFixed 4 fun bytes => Binary.single.decode (Bytes.toNat bytes)) dgram x) :
    Reads getFloat dgram x := by
  intro l r
  have hfixed := h l r
  have hslice : (sliceFrom (l ++ (dgram ++ r)) l.length).length = 4 + r.length := by
    rw [sliceFrom_append, List.length_append, hlength]
  have hpad : 4 - (sliceFrom (l ++ (dgram ++ r)) l.length).length = 0 := by omega
  rw [getFixed, if_neg (by omega)] at hfixed
  rw [getFloat, hpad, List.replicate_zero, List.append_nil]
  exact hfixed

theorem length_packNumber {f : Binary} {v : OscValue} {dgram : Bytes}
    (h : packNumber f v = .ok dgram) : dgram.length = (f.exponent + f.fraction + 1) / 8 := by
  rw [packNumber] at h
  split at h
  · split at h
    · obtain rfl := Except.ok.inj h
      exact Bytes.length_ofNat _ _
    · cases h
  · cases h

theorem reads_writeFloat {v : OscValue} {x : Double} (hv : v.number? = some x) {dgram : Bytes}
    (h : writeFloat v = .ok dgram) :
    Reads getFloat dgram (Binary.single.rounded roundHalfEven x) :=
  reads_getFloat (length_packNumber h) (reads_packNumber (by decide) (by decide) hv h)

theorem reads_writeDouble {v : OscValue} {x : Double} (hv : v.number? = some x) {dgram : Bytes}
    (h : writeDouble v = .ok dgram) :
    Reads getDouble dgram (Binary.double.rounded roundHalfEven x) :=
  reads_packNumber (by decide) (by decide) hv h

/-- Bytes of a format are what their number is packed to, but for NaN and a negative zero. -/
theorem packNumber_decode {f : Binary} {l : Bytes}
    (hwidth : (f.exponent + f.fraction + 1) / 8 = l.length)
    (h : f.IsCanonical (Bytes.toNat l)) :
    packNumber f (.float (f.decode (Bytes.toNat l))) = .ok l := by
  simp only [packNumber, OscValue.number?, Binary.encode_decode roundHalfEven_intCast h]
  rw [hwidth, Bytes.ofNat_toNat]

/-- **Numbers are written as they were read**: the bytes of a float or a double, unless they are NaN
or a negative zero, are read as a number that is written as these bytes. -/
theorem exists_reads_written {l : Bytes} :
    (l.length = 4 ∧ Binary.single.IsCanonical (Bytes.toNat l) →
        ∃ x, Reads getFloat l x ∧ writeFloat (.float x) = .ok l) ∧
      (l.length = 8 ∧ Binary.double.IsCanonical (Bytes.toNat l) →
        ∃ x, Reads getDouble l x ∧ writeDouble (.float x) = .ok l) := by
  constructor
  · rintro ⟨hlength, h⟩
    refine ⟨_, reads_getFloat hlength (reads_getFixed _ hlength), ?_⟩
    exact packNumber_decode hlength.symm h
  · rintro ⟨hlength, h⟩
    refine ⟨_, reads_getFixed _ hlength, ?_⟩
    exact packNumber_decode hlength.symm h

/-- One, and minus one as a double. -/
theorem exists_reads_written_one :
    (∃ x, Reads getFloat [0x3f, 0x80, 0, 0] x ∧ writeFloat (.float x) = .ok [0x3f, 0x80, 0, 0]) ∧
      ∃ x, Reads getDouble [0xbf, 0xf0, 0, 0, 0, 0, 0, 0] x ∧
        writeDouble (.float x) = .ok [0xbf, 0xf0, 0, 0, 0, 0, 0, 0] :=
  ⟨exists_reads_written.1 ⟨rfl, by decide⟩, exists_reads_written.2 ⟨rfl, by decide⟩⟩

/-- The bytes of a blob: its length, the blob and zeros up to a multiple of 4. -/
theorem writeBlob_eq_ok_iff {l dgram : Bytes} : writeBlob (.bytes l) = .ok dgram ↔
    l ≠ [] ∧ l.length < 2 ^ 31 ∧ dgram = pad (Bytes.ofInt 4 l.length ++ l) := by
  rw [writeBlob]
  by_cases hl : l = []
  · simp [OscValue.truthy, hl]
  · rw [if_pos (by simpa [OscValue.truthy] using hl)]
    simp only [OscValue.length?, writeInt, packInteger, OscValue.integer?]
    split
    · rename_i hlength
      rw [Fallible.ok_bind, Except.ok.injEq]
      constructor
      · rintro rfl
        exact ⟨hl, by omega, rfl⟩
      · rintro ⟨-, -, rfl⟩
        rfl
    · rename_i hlength
      rw [Fallible.error_bind]
      exact iff_of_false (by simp) fun h => hlength (by omega)

/-- Only bytes are written as a blob. -/
theorem bytes_of_writeBlob {v : OscValue} {dgram : Bytes} (h : writeBlob v = .ok dgram) :
    ∃ l, v = .bytes l := by
  rw [writeBlob] at h
  split at h
  · split at h
    · cases h
    · obtain ⟨size, -, h⟩ := Fallible.bind_eq_ok_iff.mp h
      split at h
      · exact ⟨_, rfl⟩
      · cases h
  · cases h

theorem reads_writeBlob {l dgram : Bytes} (h : writeBlob (.bytes l) = .ok dgram) :
    Reads getBlob dgram l := by
  obtain ⟨-, hlength, rfl⟩ := writeBlob_eq_ok_iff.mp h
  have hint : Reads getInt (Bytes.ofInt 4 l.length) l.length := by
    have hread := reads_getFixed Bytes.toInt (Bytes.length_ofInt 4 l.length)
    rwa [Bytes.toInt_ofInt (by omega) (by omega)] at hread
  intro front rest
  have hlength' : (Bytes.ofInt 4 (l.length : ℤ)).length = 4 := Bytes.length_ofInt _ _
  generalize Bytes.ofInt 4 (l.length : ℤ) = size at hint hlength' ⊢
  have hzeros : (4 - (size ++ l).length % 4) % 4 = (-(l.length : ℤ) % 4).toNat := by
    rw [List.length_append, hlength']
    omega
  rw [pad, hzeros, List.append_assoc, List.append_assoc, getBlob, hint, Fallible.ok_bind]
  have hslice := slice_append (front ++ size) l
    (List.replicate (-(l.length : ℤ) % 4).toNat 0 ++ rest)
  rw [List.append_assoc, List.length_append, Nat.cast_add] at hslice
  dsimp only
  rw [sliceFrom_append, hslice, if_neg]
  · simp only [Except.ok.injEq, Prod.mk.injEq, List.length_append, List.length_replicate, true_and]
    push_cast
    omega
  · simp only [List.length_append, List.length_replicate]
    push_cast
    omega

private theorem length_of_mapM {α β : Type} {f : α → Option β} {l : List α} {m : List β}
    (h : l.mapM f = some m) : m.length = l.length := by
  induction l generalizing m with
  | nil =>
    obtain rfl := Option.some.inj h
    rfl
  | cons a l ih =>
    simp only [List.mapM_cons, Option.bind_eq_bind, Option.bind_eq_some_iff, Option.pure_def,
      Option.some.injEq] at h
    obtain ⟨b, -, m, hm, rfl⟩ := h
    rw [List.length_cons, List.length_cons, ih hm]

theorem length_elements {v : OscValue} {l : List OscValue} (h : v.elements? = some l) :
    v.length? = some l.length := by
  cases v <;> cases h <;> simp [OscValue.length?, String.length_toList]

/-- The bytes of a number that is put together from four of them. -/
private theorem bytes_of_fold {a b c d : ℕ} (ha : a < 256) (hb : b < 256) (hc : c < 256)
    (hd : d < 256) :
    ([3, 2, 1, 0].map fun i => Bytes.toNat (Bytes.ofNat 4
      ([a, b, c, d].foldl (fun sum value => 256 * sum + value) 0)) / 2 ^ (8 * i) % 256) =
      [a, b, c, d] := by
  have hfold : [a, b, c, d].foldl (fun sum value => 256 * sum + value) 0 =
      16777216 * a + 65536 * b + 256 * c + d := by
    simp only [List.foldl_cons, List.foldl_nil]
    omega
  rw [hfold, Bytes.toNat_ofNat_of_lt (by omega)]
  simp only [List.map_cons, List.map_nil, List.cons.injEq, and_true, Nat.reduceMul, Nat.reducePow]
  omega

theorem reads_writeMidi {v : OscValue} {dgram : Bytes} (h : writeMidi v = .ok dgram) :
    ∃ values, (v.elements?.getD []).mapM OscValue.integer? = some values ∧
      Reads getMidi dgram (values.map fun value => (value % 256).toNat) := by
  rw [writeMidi] at h
  split at h
  · cases h
  rename_i n hn
  split at h
  · rename_i h4
    split at h
    · rename_i values hvalues
      obtain rfl := Except.ok.inj h
      refine ⟨values, hvalues, ?_⟩
      have hlength : values.length = 4 := by
        rw [length_of_mapM hvalues]
        rcases hv : v.elements? with _ | l
        · cases v <;> cases hv <;> cases hn
          cases h4
        · rw [length_elements hv] at hn
          exact (Option.some.inj hn).trans h4
      obtain ⟨a, b, c, d, rfl⟩ := List.length_eq_four.mp hlength
      have hbyte : ∀ value : ℤ, (value % 256).toNat < 256 := by
        intro value
        omega
      have hread := reads_getFixed (fun bytes =>
        [3, 2, 1, 0].map fun i => Bytes.toNat bytes / 2 ^ (8 * i) % 256)
        (Bytes.length_ofNat 4 ([(a % 256).toNat, (b % 256).toNat, (c % 256).toNat,
          (d % 256).toNat].foldl (fun sum value => 256 * sum + value) 0))
      rw [bytes_of_fold (hbyte a) (hbyte b) (hbyte c) (hbyte d)] at hread
      exact hread
    · cases h
  · cases h

end OscTypes

end LooperControl
