import LooperControl.Osc.Slip

/-!
# `osc_tcp_server.py`, `tcp_client.py`

What a handler makes of the bytes that arrive over a connection, in whatever pieces they arrive: of
packets behind their lengths (`TCPHandler1_0`) and of packets between end marks (`TCPHandler1_1`).

* `TCPHandler1_0.handle_congr`: the pieces make no difference.
* `TCPHandler1_0.handle_lengths`: what a client has sent is handled up to the first empty packet. A
  packet that is not there to its end is not handled.
* `TCPHandler1_1.handle_frames`: what a client has sent is handled, and with it any number of empty
  packets. Whether the last end mark arrives makes no difference, so that a packet that the end of
  the connection cuts off is handled as if it was one.
-/

namespace LooperControl

open Slip

/-- What is still to come from a peer until it closes a connection, in the pieces in which it
arrives. -/
structure Connection where
  pieces : List Bytes
  nonempty : ∀ p ∈ pieces, p ≠ []

namespace Connection

/-- All that is still to come. -/
def bytes (s : Connection) : Bytes := s.pieces.flatten

/-- `recv`: so much at most of the next piece, and nothing if there is none. -/
def recv (count : ℕ) (s : Connection) : Bytes × Connection :=
  match s with
  | ⟨[], h⟩ => ([], ⟨[], h⟩)
  | ⟨p :: l, h⟩ =>
    if hp : p.length ≤ count then (p, ⟨l, (List.forall_mem_cons.mp h).2⟩)
    else
      (p.take count, ⟨p.drop count :: l, List.forall_mem_cons.mpr
        ⟨fun hnil => hp (List.drop_eq_nil_iff.mp hnil), (List.forall_mem_cons.mp h).2⟩⟩)

variable (count : ℕ) (s : Connection)

/-- What is received is at the front of what is still to come. -/
theorem recv_append : (s.recv count).1 ++ (s.recv count).2.bytes = s.bytes := by
  rcases s with ⟨_ | ⟨p, l⟩, h⟩
  · rfl
  · rw [recv]
    split
    · rfl
    · rw [bytes, bytes, List.flatten_cons, List.flatten_cons, ← List.append_assoc,
        List.take_append_drop]

theorem length_recv_le : (s.recv count).1.length ≤ count := by
  rcases s with ⟨_ | ⟨p, l⟩, h⟩
  · exact Nat.zero_le count
  · rw [recv]
    split
    · assumption
    · exact List.length_take_le count p

variable {count} {s}

/-- Nothing is received only where nothing is still to come. -/
theorem bytes_eq_nil_of_recv (hcount : 0 < count) (h : (s.recv count).1 = []) : s.bytes = [] := by
  rcases s with ⟨_ | ⟨p, l⟩, hne⟩
  · rfl
  · have hp := (List.forall_mem_cons.mp hne).1
    rw [recv] at h
    split at h
    · exact absurd h hp
    · rw [List.take_eq_nil_iff] at h
      rcases h with h | h
      · exact absurd h hcount.ne'
      · exact absurd h hp

theorem length_recv (count : ℕ) (s : Connection) :
    (s.recv count).1.length + (s.recv count).2.bytes.length = s.bytes.length := by
  rw [← List.length_append, recv_append]

theorem length_recv_lt (h : (s.recv count).1 ≠ []) :
    (s.recv count).2.bytes.length < s.bytes.length := by
  have hlength := length_recv count s
  have hpos := List.length_pos_iff.mpr h
  omega

end Connection

/-- `MODE_1_0`, `MODE_1_1`. -/
inductive OscMode
  | mode1_0
  | mode1_1
  deriving DecidableEq

/-- `TCPClient.send`: what is sent of a packet, if its length can be packed. -/
def TCPClient.send (mode : OscMode) (dgram : Bytes) : Option Bytes :=
  match mode with
  | .mode1_1 => some (encode dgram)
  | .mode1_0 =>
    if dgram.length < 2 ^ 32 then some (Bytes.ofNat 4 dgram.length ++ dgram) else none

theorem TCPClient.send_eq_some {dgram l : Bytes} (h : TCPClient.send .mode1_0 dgram = some l) :
    dgram.length < 2 ^ 32 ∧ l = Bytes.ofNat 4 dgram.length ++ dgram := by
  obtain ⟨hlength, hl⟩ := Option.ite_none_right_eq_some.mp h
  exact ⟨hlength, (Option.some.inj hl).symm⟩

/-! ### Packets behind their lengths -/

namespace TCPHandler1_0

/-- The loop of `recvall`, with what has been received. -/
def recvFrom (buf : Bytes) (count : ℕ) (s : Connection) : Bytes × Connection :=
  if 0 < count then
    if (s.recv count).1 = [] then ([], (s.recv count).2)
    else recvFrom (buf ++ (s.recv count).1) (count - (s.recv count).1.length) (s.recv count).2
  else (buf, s)
termination_by count
decreasing_by
  rename_i hcount hnew
  have hpos := List.length_pos_iff.mpr hnew
  omega

/-- `recvall`. -/
def recvall (count : ℕ) (s : Connection) : Bytes × Connection := recvFrom [] count s

variable {buf : Bytes} {count : ℕ} {s t : Connection}

/-- What is received is all that has been asked for, or nothing where there is less. -/
theorem recvFrom_fst : (recvFrom buf count s).1 =
    if count ≤ s.bytes.length then buf ++ s.bytes.take count else [] := by
  fun_induction recvFrom buf count s with
  | case1 buf count s hcount hnew =>
    rw [Connection.bytes_eq_nil_of_recv hcount hnew, if_neg (by simpa using hcount.ne')]
  | case2 buf count s hcount hnew ih =>
    have hlength := Connection.length_recv count s
    have hle := Connection.length_recv_le count s
    rw [ih]
    refine if_congr (by omega) ?_ rfl
    rw [← Connection.recv_append count s, List.take_append, List.take_of_length_le hle,
      List.append_assoc]
  | case3 buf count s hcount =>
    rw [Nat.eq_zero_of_not_pos hcount, if_pos (Nat.zero_le _), List.take_zero, List.append_nil]

theorem bytes_recvFrom (h : count ≤ s.bytes.length) :
    (recvFrom buf count s).2.bytes = s.bytes.drop count := by
  fun_induction recvFrom buf count s with
  | case1 buf count s hcount hnew =>
    rw [Connection.bytes_eq_nil_of_recv hcount hnew] at h
    exact absurd h hcount.not_ge
  | case2 buf count s hcount hnew ih =>
    have hlength := Connection.length_recv count s
    have hle := Connection.length_recv_le count s
    rw [ih (by omega), ← Connection.recv_append count s, List.drop_append,
      List.drop_eq_nil_of_le hle, List.nil_append]
  | case3 buf count s hcount =>
    rw [Nat.eq_zero_of_not_pos hcount, List.drop_zero]

theorem recvall_fst : (recvall count s).1 =
    if count ≤ s.bytes.length then s.bytes.take count else [] := by
  rw [recvall, recvFrom_fst, List.nil_append]

theorem bytes_recvall (h : count ≤ s.bytes.length) :
    (recvall count s).2.bytes = s.bytes.drop count := bytes_recvFrom h

/-- Where something is received, less is still to come. -/
theorem length_recvall (h : (recvall count s).1 ≠ []) :
    (recvall count s).2.bytes.length < s.bytes.length := by
  rw [recvall_fst, ne_eq, ite_eq_right_iff, Classical.not_imp, List.take_eq_nil_iff, not_or] at h
  obtain ⟨hle, hcount, hbytes⟩ := h
  rw [bytes_recvall hle, List.length_drop]
  have hpos := List.length_pos_iff.mpr hbytes
  omega

/-- `handle`: the packets that the dispatcher is called for, in order. -/
def handle (s : Connection) : List Bytes :=
  if (recvall 4 s).1 = [] then []
  else
    let r := recvall (Bytes.toNat (recvall 4 s).1) (recvall 4 s).2
    if r.1 = [] then [] else r.1 :: handle r.2
termination_by s.bytes.length
decreasing_by
  rename_i hlengthbuf hdata
  exact (length_recvall hdata).trans (length_recvall hlengthbuf)

/-- What is handled: nothing if there are no four bytes and as many as they spell, or if these are
none. -/
theorem handle_of_length (h : s.bytes.length < 4 ∨
    (s.bytes.drop 4).length < Bytes.toNat (s.bytes.take 4) ∨ Bytes.toNat (s.bytes.take 4) = 0) :
    handle s = [] := by
  rw [handle]
  by_cases hfour : 4 ≤ s.bytes.length
  · rw [recvall_fst, if_pos hfour]
    split
    · rfl
    · simp only
      rw [recvall_fst, bytes_recvall hfour, if_pos]
      split
      · rename_i hle
        rw [h.resolve_left hfour.not_gt |>.resolve_left hle.not_gt, List.take_zero]
      · rfl
  · rw [recvall_fst, if_neg hfour, if_pos rfl]

/-- A packet at the front. -/
theorem handle_of_bytes {m rest : Bytes} (hm : m.length < 2 ^ 32) (hne : m ≠ [])
    (h : s.bytes = Bytes.ofNat 4 m.length ++ (m ++ rest)) :
    ∃ t : Connection, t.bytes = rest ∧ handle s = m :: handle t := by
  have hfour : 4 ≤ s.bytes.length := by
    rw [h, List.length_append, Bytes.length_ofNat]
    exact Nat.le_add_right _ _
  have htake : s.bytes.take 4 = Bytes.ofNat 4 m.length := by
    rw [h, List.take_left' (Bytes.length_ofNat _ _)]
  have hdrop : s.bytes.drop 4 = m ++ rest := by
    rw [h, List.drop_left' (Bytes.length_ofNat _ _)]
  have hnumber : Bytes.toNat (Bytes.ofNat 4 m.length) = m.length :=
    Bytes.toNat_ofNat_of_lt (hm.trans_le (by norm_num))
  have hlengthbuf : (recvall 4 s).1 = Bytes.ofNat 4 m.length := by
    rw [recvall_fst, if_pos hfour, htake]
  have hbytes : (recvall 4 s).2.bytes = m ++ rest := by
    rw [bytes_recvall hfour, hdrop]
  have hle : m.length ≤ (recvall 4 s).2.bytes.length := by
    rw [hbytes, List.length_append]
    exact Nat.le_add_right _ _
  refine ⟨(recvall m.length (recvall 4 s).2).2, ?_, ?_⟩
  · rw [bytes_recvall hle, hbytes, List.drop_left]
  · have hdata : (recvall m.length (recvall 4 s).2).1 = m := by
      rw [recvall_fst, if_pos hle, hbytes, List.take_left]
    rw [handle, hlengthbuf, hnumber]
    simp only [hdata]
    rw [if_neg, if_neg hne]
    exact List.ne_nil_of_length_pos (by rw [Bytes.length_ofNat]; exact Nat.succ_pos 3)

/-- **The pieces make no difference**: what is handled depends on the bytes alone. The induction is
on how many there are. -/
theorem handle_congr (h : s.bytes = t.bytes) : handle s = handle t := by
  induction hn : s.bytes.length using Nat.strong_induction_on generalizing s t with
  | _ n ih =>
    by_cases hshort : s.bytes.length < 4 ∨
        (s.bytes.drop 4).length < Bytes.toNat (s.bytes.take 4) ∨ Bytes.toNat (s.bytes.take 4) = 0
    · rw [handle_of_length hshort, handle_of_length (h ▸ hshort)]
    simp only [not_or, Nat.not_lt] at hshort
    obtain ⟨hfour, hle, hpos⟩ := hshort
    -- The packet that both have at the front.
    obtain ⟨l, hl⟩ : ∃ l, s.bytes.take 4 = l := ⟨_, rfl⟩
    obtain ⟨m, hm⟩ : ∃ m, (s.bytes.drop 4).take (Bytes.toNat l) = m := ⟨_, rfl⟩
    obtain ⟨rest, hrest⟩ : ∃ rest, (s.bytes.drop 4).drop (Bytes.toNat l) = rest := ⟨_, rfl⟩
    rw [hl] at hle hpos
    have hlength : l.length = 4 := by
      rw [← hl, List.length_take, Nat.min_eq_left hfour]
    have hmlength : m.length = Bytes.toNat l := by
      rw [← hm, List.length_take, Nat.min_eq_left hle]
    have hnumber : Bytes.ofNat 4 m.length = l := by
      rw [hmlength, ← hlength, Bytes.ofNat_toNat]
    have hbytes : s.bytes = Bytes.ofNat 4 m.length ++ (m ++ rest) := by
      rw [hnumber, ← hm, ← hrest, List.take_append_drop, ← hl, List.take_append_drop]
    have hlt : m.length < 2 ^ 32 := by
      have hbound := Bytes.toNat_lt l
      rw [hlength] at hbound
      rw [hmlength]
      exact hbound.trans_le (by norm_num)
    have hne : m ≠ [] := by
      rintro rfl
      exact hpos hmlength.symm
    obtain ⟨s', hs', hshandle⟩ := handle_of_bytes hlt hne hbytes
    obtain ⟨t', ht', hthandle⟩ := handle_of_bytes hlt hne (h ▸ hbytes)
    rw [hshandle, hthandle, ih s'.bytes.length ?_ (hs'.trans ht'.symm) rfl]
    rw [← hn, hs', hbytes, List.length_append, List.length_append, Bytes.length_ofNat]
    omega

theorem handle_congr_pieces :
    handle ⟨[[0, 0], [0, 1, 47, 0]], by decide⟩ = handle ⟨[[0, 0, 0, 1, 47], [0]], by decide⟩ :=
  handle_congr rfl

/-- **What a client has sent** is handled up to the first empty packet, and what the end of the
connection has cut off is not. -/
theorem handle_lengths {msgs sent : List Bytes}
    (hsent : msgs.mapM (TCPClient.send .mode1_0) = some sent) {m l rest : Bytes}
    (hl : TCPClient.send .mode1_0 m = some l) (hrest : rest <+: l) (hcut : rest ≠ l)
    (h : s.bytes = sent.flatten ++ rest) : handle s = msgs.takeWhile (· ≠ []) := by
  induction msgs generalizing s sent with
  | nil =>
    rw [List.mapM_nil] at hsent
    obtain rfl := Option.some.inj hsent
    obtain ⟨hm, rfl⟩ := TCPClient.send_eq_some hl
    rw [List.flatten_nil, List.nil_append] at h
    refine handle_of_length (or_iff_not_imp_left.mpr fun hfour => .inl ?_)
    obtain ⟨missing, hl⟩ := hrest
    have hlength := congrArg List.length hl
    have hpos : missing ≠ [] := by
      rintro rfl
      exact hcut (by rwa [List.append_nil] at hl)
    have hnumber : s.bytes.take 4 = Bytes.ofNat 4 m.length := by
      have htake := congrArg (List.take 4) hl
      rwa [List.take_append_of_le_length (by rw [← h]; omega), ← h,
        List.take_left' (Bytes.length_ofNat _ _)] at htake
    have hmissing := List.length_pos_iff.mpr hpos
    rw [hnumber, Bytes.toNat_ofNat_of_lt (hm.trans_le (by norm_num)), List.length_drop, h]
    rw [List.length_append, List.length_append, Bytes.length_ofNat] at hlength
    rw [h] at hfour
    omega
  | cons m' msgs ih =>
    rw [List.mapM_cons] at hsent
    obtain ⟨l', hl', hsent⟩ := Option.bind_eq_some_iff.mp hsent
    obtain ⟨sent', hsent', hsome⟩ := Option.bind_eq_some_iff.mp hsent
    obtain rfl := Option.some.inj hsome
    obtain ⟨hm', rfl⟩ := TCPClient.send_eq_some hl'
    rw [List.flatten_cons, List.append_assoc, List.append_assoc] at h
    by_cases hne : m' = []
    · rw [List.takeWhile_cons_of_neg (by simpa using hne)]
      refine handle_of_length (.inr (.inr ?_))
      rw [h, List.take_left' (Bytes.length_ofNat _ _), hne]
      rfl
    · obtain ⟨t, ht, hhandle⟩ := handle_of_bytes hm' hne h
      rw [hhandle, ih hsent' ht, List.takeWhile_cons_of_pos (by simpa using hne)]

/-- A packet in pieces, and the front of another one. -/
theorem handle_lengths_pieces : handle ⟨[[0, 0], [0, 1, 47, 0], [0, 0]], by decide⟩ =
    [[47]].takeWhile (· ≠ []) :=
  @handle_lengths _ [[47]] [[0, 0, 0, 1, 47]] rfl [47, 97] [0, 0, 0, 2, 47, 97] [0, 0, 0] rfl
    (by decide) (by decide) rfl

end TCPHandler1_0

/-! ### Packets between end marks -/

namespace TCPHandler1_1

/-- The loop of `recvall`, with what has been received. -/
def recvFrom (buf : Bytes) (s : Connection) : Bytes × Connection :=
  if buf.getLast? = some endMark then (buf, s)
  else if (s.recv 4096).1 = [] then (buf, (s.recv 4096).2)
  else recvFrom (buf ++ (s.recv 4096).1) (s.recv 4096).2
termination_by s.bytes.length
decreasing_by
  rename_i hnew
  exact Connection.length_recv_lt hnew

/-- `recvall`: the packets, where none of them raises a `ProtocolError`. -/
def recvall (s : Connection) : Option (List Bytes) × Connection :=
  let r := s.recv 4096
  if r.1 = [] then (some [], r.2)
  else
    let r' := recvFrom r.1 r.2
    ((Framing.split [endMark, endMark] r'.1).mapM decode, r'.2)

variable {buf : Bytes} {s : Connection}

/-- The loop ends behind an end mark or with the connection. -/
theorem recvFrom_cases (buf : Bytes) (s : Connection) :
    (recvFrom buf s).1 ++ (recvFrom buf s).2.bytes = buf ++ s.bytes ∧
      ((recvFrom buf s).1.getLast? = some endMark ∨ (recvFrom buf s).2.bytes = []) := by
  fun_induction recvFrom buf s with
  | case1 buf s hend => exact ⟨rfl, .inl hend⟩
  | case2 buf s hend hnew =>
    have hbytes := Connection.recv_append 4096 s
    rw [hnew, List.nil_append] at hbytes
    rw [hbytes]
    exact ⟨rfl, .inr (Connection.bytes_eq_nil_of_recv (by norm_num) hnew)⟩
  | case3 buf s hend hnew ih =>
    refine ⟨ih.1.trans ?_, ih.2⟩
    rw [List.append_assoc, Connection.recv_append]

/-- What is received begins with what has been received. -/
theorem length_recvFrom_le (buf : Bytes) (s : Connection) :
    (recvFrom buf s).2.bytes.length ≤ s.bytes.length := by
  fun_induction recvFrom buf s with
  | case1 => exact Nat.le_refl _
  | case2 buf s hend hnew => exact (Nat.le_add_left _ _).trans_eq (Connection.length_recv 4096 s)
  | case3 buf s hend hnew ih => exact ih.trans (Connection.length_recv_lt hnew).le

theorem length_recvall (h : (recvall s).1 ≠ some []) :
    (recvall s).2.bytes.length < s.bytes.length := by
  rw [recvall] at h ⊢
  simp only at h ⊢
  split
  · rename_i hnil
    rw [if_pos hnil] at h
    exact absurd rfl h
  · rename_i hnew
    exact (length_recvFrom_le _ _).trans_lt (Connection.length_recv_lt hnew)

/-- `handle`: the packets that the dispatcher is called for, in order, and whether a `ProtocolError`
ends the loop. -/
def handle (s : Connection) : List Bytes × Bool :=
  if (recvall s).1 = some [] then ([], false)
  else
    match (recvall s).1 with
    | none => ([], true)
    | some packets =>
      let r := handle (recvall s).2
      (packets ++ r.1, r.2)
termination_by s.bytes.length
decreasing_by
  rename_i hpackets
  exact length_recvall hpackets

/-- Pieces that are escaped messages between end marks are decoded, to these messages. -/
theorem mapM_decode {pieces : List Bytes}
    (h : ∀ p ∈ pieces, ∃ msg : Bytes, Framing.strip endMark p = msg.flatMap escape) :
    ∃ packets, pieces.mapM decode = some packets ∧
      (packets.map fun msg => msg.flatMap escape) = pieces.map (Framing.strip endMark) := by
  induction pieces with
  | nil => exact ⟨[], rfl, rfl⟩
  | cons p pieces ih =>
    rw [List.forall_mem_cons] at h
    obtain ⟨msg, hmsg⟩ := h.1
    obtain ⟨packets, hpackets, hmap⟩ := ih h.2
    refine ⟨msg :: packets, ?_, ?_⟩
    · rw [List.mapM_cons, decode_eq_some_iff_strip.mpr hmsg, hpackets]
      rfl
    · rw [List.map_cons, List.map_cons, hmsg, hmap]

/-- Messages that are not empty, as they stand between end marks. -/
theorem filter_map_escape (msgs : List Bytes) :
    (msgs.map fun msg => msg.flatMap escape).filter (· ≠ []) =
      (msgs.filter (· ≠ [])).map fun msg => msg.flatMap escape := by
  rw [List.filter_map]
  congr 1
  refine List.filter_congr fun msg _ => ?_
  simp only [Function.comp_apply, ne_eq, flatMap_escape_eq_nil_iff]

/-- **Words that are escaped messages** are handled, and with them any number of empty packets. The
induction is on how many bytes are still to come. -/
theorem handle_of_words {msgs : List Bytes} (h : Framing.Doubled endMark s.bytes)
    (hwords : Framing.words endMark s.bytes = msgs.map fun msg => msg.flatMap escape) :
    (handle s).1.filter (· ≠ []) = msgs ∧ (handle s).2 = false := by
  induction hn : s.bytes.length using Nat.strong_induction_on generalizing s msgs with
  | _ n ih =>
    rw [handle]
    by_cases hnew : (s.recv 4096).1 = []
    · have hrecvall : (recvall s).1 = some [] := by
        rw [recvall]
        simp only
        rw [if_pos hnew]
      rw [Connection.bytes_eq_nil_of_recv (by norm_num) hnew, Framing.words_nil] at hwords
      rw [if_pos hrecvall, List.map_eq_nil_iff.mp hwords.symm]
      exact ⟨rfl, rfl⟩
    obtain ⟨buf, hbuf⟩ : ∃ buf, (recvFrom (s.recv 4096).1 (s.recv 4096).2).1 = buf := ⟨_, rfl⟩
    obtain ⟨t, ht⟩ : ∃ t, (recvFrom (s.recv 4096).1 (s.recv 4096).2).2 = t := ⟨_, rfl⟩
    have hrecvall :
        recvall s = ((Framing.split [endMark, endMark] buf).mapM decode, t) := by
      rw [recvall]
      simp only
      rw [if_neg hnew, hbuf, ht]
    obtain ⟨happend, hend⟩ := recvFrom_cases (s.recv 4096).1 (s.recv 4096).2
    rw [hbuf, ht, Connection.recv_append] at happend
    rw [hbuf, ht] at hend
    -- The words in the buffer, and those still to come.
    have hsum : Framing.words endMark s.bytes =
        Framing.words endMark buf ++ Framing.words endMark t.bytes := by
      rw [← happend]
      rcases hend with hend | hend
      · exact Framing.words_append hend _
      · rw [hend, Framing.words_nil, List.append_nil, List.append_nil]
    rw [hsum, eq_comm, List.map_eq_append_iff] at hwords
    obtain ⟨front, back, rfl, hfront, hback⟩ := hwords
    have hdoubled : Framing.Doubled endMark buf :=
      h.of_infix (happend ▸ (List.prefix_append buf t.bytes).isInfix)
    have hsplit := Framing.words_eq_split hdoubled
    rw [← hfront] at hsplit
    obtain ⟨packets, hpackets, hmap⟩ := @mapM_decode (Framing.split [endMark, endMark] buf)
      fun p hp => by
        by_cases hnil : Framing.strip endMark p = []
        · exact ⟨[], hnil⟩
        · have hmem : Framing.strip endMark p ∈ front.map fun msg => msg.flatMap escape := by
            rw [← hsplit]
            exact List.mem_filter.mpr ⟨List.mem_map_of_mem hp, decide_eq_true hnil⟩
          obtain ⟨msg, -, hmsg⟩ := List.mem_map.mp hmem
          exact ⟨msg, hmsg.symm⟩
    have hfilter : packets.filter (· ≠ []) = front := by
      rw [← hmap, filter_map_escape] at hsplit
      exact flatMap_escape_injective.list_map hsplit
    have hne : packets ≠ [] := by
      rintro rfl
      exact Framing.split_ne_nil _ _ (List.map_eq_nil_iff.mp hmap.symm)
    have hlt : t.bytes.length < n := by
      have hless := length_recvall (s := s) (by rw [hrecvall, hpackets]; simpa using hne)
      rwa [hrecvall, hn] at hless
    have hrest := ih _ hlt (h.of_infix (happend ▸ (List.suffix_append buf t.bytes).isInfix))
      hback.symm rfl
    rw [hrecvall, hpackets, if_neg (by simpa using hne)]
    refine ⟨?_, hrest.2⟩
    simp only
    rw [List.filter_append, hfilter, hrest.1]

/-- **What a client has sent** is handled, and with it any number of empty packets. The last end
mark makes no difference. -/
theorem handle_frames {msgs sent : List Bytes}
    (hsent : msgs.mapM (TCPClient.send .mode1_1) = some sent)
    (h : s.bytes = sent.flatten ∨ s.bytes ++ [endMark] = sent.flatten) :
    (handle s).1.filter (· ≠ []) = msgs.filter (· ≠ []) ∧ (handle s).2 = false := by
  have hflatten : sent.flatten =
      Framing.frames endMark (msgs.map fun msg => msg.flatMap escape) := by
    have hmap : sent = msgs.map encode := by
      have hpure := List.mapM_pure (m := Option) (l := msgs) (f := encode)
      exact Option.some.inj (hsent.symm.trans hpure)
    rw [hmap, Framing.frames, List.flatMap_map, ← List.flatMap_def]
    exact List.flatMap_congr fun msg _ => encode_eq msg
  have hescaped : ∀ w ∈ msgs.map fun msg => msg.flatMap escape, endMark ∉ w := by
    intro w hw
    obtain ⟨msg, -, rfl⟩ := List.mem_map.mp hw
    exact endMark_notMem msg
  have hwords := Framing.words_frames hescaped
  have hdoubled := Framing.doubled_frames hescaped
  rw [← hflatten] at hwords hdoubled
  rw [filter_map_escape] at hwords
  rcases h with h | h
  · rw [← h] at hwords hdoubled
    exact handle_of_words hdoubled hwords
  · rw [← h] at hwords hdoubled
    rw [Framing.words_concat] at hwords
    exact handle_of_words (hdoubled.of_infix (List.prefix_append _ _).isInfix) hwords

/-- Two packets in pieces, without the last end mark. -/
theorem handle_frames_pieces :
    (handle ⟨[[0xc0, 47], [0xc0, 0xc0], [47, 97]], by decide⟩).1.filter (· ≠ []) =
        [[47], [47, 97]].filter (· ≠ []) ∧
      (handle ⟨[[0xc0, 47], [0xc0, 0xc0], [47, 97]], by decide⟩).2 = false :=
  @handle_frames _ [[47], [47, 97]] [[0xc0, 47, 0xc0], [0xc0, 47, 97, 0xc0]] (by decide)
    (.inr (by decide))

end TCPHandler1_1

end LooperControl
