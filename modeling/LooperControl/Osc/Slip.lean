import LooperControl.Lib.Bytes
import LooperControl.Lib.Framing

/-!
# `slip.py`

A packet is a message between end marks, in which an end mark and an escape mark are escaped. The
code escapes and unescapes with one pass of `replace` for each of the two.

`decode_eq_some_iff`: what is decoded is exactly what is framed, and to the message in the frame.
-/

namespace LooperControl

namespace Slip

open Framing

/-- `END`. -/
def endMark : UInt8 := 0xc0

/-- `ESC`. -/
def escMark : UInt8 := 0xdb

/-- `ESC_END`. -/
def escEnd : UInt8 := 0xdc

/-- `ESC_ESC`. -/
def escEsc : UInt8 := 0xdd

/-- `encode`. -/
def encode (msg : Bytes) : Bytes :=
  [endMark] ++ replace [endMark] [escMark, escEnd] (replace [escMark] [escMark, escEsc] msg) ++
    [endMark]

/-- An escape mark in front of something that it does not escape. -/
def badEscape : Bytes → Bool
  | x :: y :: l => (x == escMark && y != escEnd && y != escEsc) || badEscape (y :: l)
  | _ => false

/-- `is_valid`. -/
def isValid (packet : Bytes) : Bool :=
  let packet := strip endMark packet
  !(packet.contains endMark || packet.getLast? == some escMark || badEscape packet)

/-- `decode`, where it does not raise a `ProtocolError`. -/
def decode (packet : Bytes) : Option Bytes :=
  if isValid packet then
    some (replace [escMark, escEsc] [escMark]
      (replace [escMark, escEnd] [endMark] (strip endMark packet)))
  else none

/-! ### Escaping -/

/-- A byte as it stands in a packet. -/
def escape (b : UInt8) : Bytes :=
  if b = escMark then [escMark, escEsc] else if b = endMark then [escMark, escEnd] else [b]

/-- A byte as it stands between the two passes. -/
def escapeOnce (b : UInt8) : Bytes := if b = escMark then [escMark, escEsc] else [b]

/-- The two passes of `encode` escape byte by byte. -/
theorem encode_eq (msg : Bytes) : encode msg = endMark :: msg.flatMap escape ++ [endMark] := by
  rw [encode, replace_singleton, replace_singleton, List.flatMap_assoc, List.singleton_append]
  have hescape : ∀ b : UInt8, ((if b = escMark then [escMark, escEsc] else [b]).flatMap fun x =>
      if x = endMark then [escMark, escEnd] else [x]) = escape b := by
    intro b
    rw [escape]
    split
    · rfl
    · rw [List.flatMap_singleton]
  simp only [hescape]

theorem endMark_notMem (msg : Bytes) : endMark ∉ msg.flatMap escape := by
  intro h
  obtain ⟨b, -, hb⟩ := List.mem_flatMap.mp h
  rw [escape] at hb
  split_ifs at hb with hesc hend
  · exact absurd hb (by decide)
  · exact absurd hb (by decide)
  · exact hend (List.mem_singleton.mp hb).symm

/-- An escaped message is empty if the message is. -/
theorem flatMap_escape_eq_nil_iff {msg : Bytes} : msg.flatMap escape = [] ↔ msg = [] := by
  rcases msg with _ | ⟨b, msg⟩
  · exact iff_of_true rfl rfl
  · refine iff_of_false ?_ (List.cons_ne_nil b msg)
    rw [List.flatMap_cons, escape]
    split_ifs <;> simp

/-- The passes of `decode` undo the escapes. -/
theorem replace_escape (msg : Bytes) : replace [escMark, escEsc] [escMark]
    (replace [escMark, escEnd] [endMark] (msg.flatMap escape)) = msg := by
  have hfirst : ∀ l : Bytes,
      replace [escMark, escEnd] [endMark] (l.flatMap escape) = l.flatMap escapeOnce := by
    intro l
    induction l with
    | nil => rfl
    | cons b l ih =>
      rw [List.flatMap_cons, List.flatMap_cons, ← ih, escape, escapeOnce]
      split_ifs with hesc hend
      · rw [List.cons_append, List.singleton_append, replace_cons (by simp [escEnd, escEsc]),
          replace_cons (by simp [escMark, escEsc])]
        rfl
      · rw [replace_append (List.cons_ne_nil _ _), hend]
      · rw [List.singleton_append, replace_cons (by simp [Ne.symm hesc])]
        rfl
  rw [hfirst]
  induction msg with
  | nil => rfl
  | cons b msg ih =>
    rw [List.flatMap_cons, escapeOnce]
    split_ifs with hesc
    · rw [replace_append (List.cons_ne_nil _ _), ih, hesc]
      rfl
    · rw [List.singleton_append, replace_cons (by simp [Ne.symm hesc]), ih]

/-! ### Validity -/

theorem badEscape_cons {b : UInt8} (h : b ≠ escMark) (l : Bytes) :
    badEscape (b :: l) = badEscape l := by
  rcases l with _ | ⟨c, l⟩
  · rfl
  · rw [badEscape, beq_false_of_ne h, Bool.false_and, Bool.false_and, Bool.false_or]

theorem badEscape_escMark (c : UInt8) (l : Bytes) : badEscape (escMark :: c :: l) = false ↔
    (c = escEnd ∨ c = escEsc) ∧ badEscape l = false := by
  have hcases : (escMark == escMark && c != escEnd && c != escEsc) = false ↔
      c = escEnd ∨ c = escEsc := by
    rw [beq_self_eq_true, Bool.true_and, Bool.and_eq_false_iff, bne_eq_false_iff_eq,
      bne_eq_false_iff_eq]
  rw [badEscape, Bool.or_eq_false_iff, hcases]
  refine and_congr_right fun hc => ?_
  rw [badEscape_cons]
  rcases hc with rfl | rfl <;> decide

/-- An escaped message does not end with an escape mark, and its escape marks escape. -/
theorem isEscaped (msg : Bytes) : (msg.flatMap escape).getLast? ≠ some escMark ∧
    badEscape (msg.flatMap escape) = false := by
  induction msg with
  | nil => exact ⟨by simp, rfl⟩
  | cons b msg ih =>
    obtain ⟨hlast, hbad⟩ := ih
    have hfront : (escape b).getLast? ≠ some escMark := by
      rw [escape]
      split_ifs with hesc
      · decide
      · decide
      · rw [List.getLast?_singleton]
        exact fun h => hesc (Option.some.inj h)
    rw [List.flatMap_cons]
    constructor
    · rw [List.getLast?_append]
      rcases hend : (msg.flatMap escape).getLast? with _ | c
      · rwa [Option.none_or]
      · rwa [Option.some_or, ← hend]
    · rw [escape]
      split_ifs with hesc
      · exact (badEscape_escMark _ _).mpr ⟨.inr rfl, hbad⟩
      · exact (badEscape_escMark _ _).mpr ⟨.inl rfl, hbad⟩
      · rw [List.singleton_append, badEscape_cons hesc, hbad]

/-- What has no end marks, does not end with an escape mark and has no escape mark that does not
escape is an escaped message. -/
theorem exists_escape {l : Bytes} (hend : endMark ∉ l) (hlast : l.getLast? ≠ some escMark)
    (hbad : badEscape l = false) : ∃ msg : Bytes, l = msg.flatMap escape := by
  induction hn : l.length using Nat.strong_induction_on generalizing l with
  | _ n ih =>
    rcases l with _ | ⟨b, l⟩
    · exact ⟨[], rfl⟩
    rw [List.mem_cons, not_or] at hend
    have hrest : ∀ {m : Bytes}, m <:+ b :: l → m.getLast? ≠ some escMark := by
      rintro m ⟨front, hm⟩ hmark
      refine hlast ?_
      rw [← hm, List.getLast?_append, hmark, Option.some_or]
    by_cases hesc : b = escMark
    · rcases l with _ | ⟨c, l⟩
      · rw [hesc] at hlast
        exact absurd rfl hlast
      rw [hesc, badEscape_escMark] at hbad
      obtain ⟨hc, hbad⟩ := hbad
      obtain ⟨msg, rfl⟩ := ih l.length (by rw [← hn, List.length_cons, List.length_cons]; omega)
        (fun h => hend.2 (List.mem_cons_of_mem c h)) (hrest ⟨[b, c], rfl⟩) hbad rfl
      rcases hc with rfl | rfl
      · exact ⟨endMark :: msg, by rw [hesc]; rfl⟩
      · exact ⟨escMark :: msg, by rw [hesc]; rfl⟩
    · rw [badEscape_cons hesc] at hbad
      obtain ⟨msg, rfl⟩ := ih l.length (by rw [← hn]; exact Nat.lt_succ_self _) hend.2
        (hrest (List.suffix_cons b l)) hbad rfl
      refine ⟨b :: msg, ?_⟩
      rw [List.flatMap_cons, escape, if_neg hesc, if_neg (Ne.symm hend.1), List.singleton_append]

/-- What is decoded is what the marks at the ends leave. -/
theorem decode_eq_some_iff_strip {packet msg : Bytes} :
    decode packet = some msg ↔ strip endMark packet = msg.flatMap escape := by
  rw [decode, isValid]
  constructor
  · intro h
    simp only [Option.ite_none_right_eq_some, Bool.not_eq_true', Bool.or_eq_false_iff] at h
    obtain ⟨⟨⟨hend, hlast⟩, hbad⟩, hmsg⟩ := h
    obtain ⟨msg', hstrip⟩ := exists_escape (by simpa using hend) (by simpa using hlast) hbad
    rw [hstrip, replace_escape, Option.some_inj] at hmsg
    rw [hstrip, hmsg]
  · intro h
    obtain ⟨hlast, hbad⟩ := isEscaped msg
    have hend := endMark_notMem msg
    rw [← List.contains_iff_mem, Bool.not_eq_true] at hend
    rw [h, hend, hbad, beq_false_of_ne hlast, replace_escape]
    rfl

/-- **What is decoded**: a message in a frame, with any number of end marks around it. -/
theorem decode_eq_some_iff {packet msg : Bytes} : decode packet = some msg ↔
    ∃ a b, packet = List.replicate a endMark ++ msg.flatMap escape ++ List.replicate b endMark := by
  rw [decode_eq_some_iff_strip]
  constructor
  · intro h
    obtain ⟨a, b, hpacket⟩ := exists_strip endMark packet
    rw [h] at hpacket
    exact ⟨a, b, hpacket⟩
  · rintro ⟨a, b, rfl⟩
    exact strip_frame (endMark_notMem msg) a b

/-- **Round trip.** -/
theorem decode_encode (msg : Bytes) : decode (encode msg) = some msg := by
  rw [decode_eq_some_iff_strip, encode_eq]
  exact strip_frame (endMark_notMem msg) 1 1

/-- Different messages have different packets. -/
theorem flatMap_escape_injective : Function.Injective fun msg : Bytes => msg.flatMap escape := by
  intro a b h
  have hab : replace [escMark, escEsc] [escMark] (replace [escMark, escEnd] [endMark]
      (a.flatMap escape)) = b := by
    rw [show a.flatMap escape = b.flatMap escape from h, replace_escape]
  rwa [replace_escape] at hab

end Slip

end LooperControl
