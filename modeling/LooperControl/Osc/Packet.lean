import LooperControl.Osc.BundleBuilder
import Mathlib.Data.List.Sort

/-!
# `OscPacket`

A packet is a message or a bundle. The messages in a bundle, and in those that it contains, are put
in the order of the times at which they are to be handled.

* `parse`: the constructor.
* `IsSchedule`: messages in order of time, those of one time in the order that they arrived in.
* `isSchedule_of_parse`: the messages of a bundle are such an order of all that it contains.
* `isPacketError_of_parse`: what the constructor raises.
-/

namespace LooperControl

open Recursion OscBundle OscBundleBuilder OscTypes

/-- `TimedMessage`. -/
structure TimedMessage where
  time : ℚ
  message : OscMessage

namespace OscPacket

mutual

/-- What an element of a bundle adds to `_timed_msg_of_bundle`, given the time of the bundle. -/
def timedMsgOfContent (now timestamp : ℚ) : OscContent → List TimedMessage
  | .message m => [⟨if timestamp = 0 ∨ timestamp < now then now else timestamp, m⟩]
  | .bundle _ timestamp contents => timedMsgOfBundle now timestamp contents

/-- `_timed_msg_of_bundle`. -/
def timedMsgOfBundle (now timestamp : ℚ) : List OscContent → List TimedMessage
  | [] => []
  | content :: contents =>
    timedMsgOfContent now timestamp content ++ timedMsgOfBundle now timestamp contents

end

/-- `sorted` by the time, which keeps messages of one time in order. -/
def sortedByTime (msgs : List TimedMessage) : List TimedMessage :=
  msgs.insertionSort fun a b => a.time ≤ b.time

/-- An exception that leaves the `try` of the constructor. -/
def raisedAs : OscExc → OscExc
  | .bundleParse => .packetParse
  | .messageParse => .packetParse
  | e => e

/-- The body of the `try`. -/
def messages (now : ℚ) (n : ℕ) (dgram : Bytes) : Option (Except OscExc (List TimedMessage)) :=
  if dgramIsBundle dgram then
    andThen (OscBundle.parse n dgram) fun bundle =>
      some (.ok (sortedByTime (timedMsgOfContent now 0 bundle)))
  else if OscMessage.dgramIsMessage dgram then
    some ((OscMessage.parse dgram).map fun m => [⟨now, m⟩])
  else some (.error .packetParse)

/-- `OscPacket(dgram).messages` at a time, bundles parsed to a depth. -/
def parse (now : ℚ) (n : ℕ) (dgram : Bytes) : Option (Except OscExc (List TimedMessage)) :=
  (messages now n dgram).map (Except.mapError raisedAs)

mutual

/-- The messages in an element, in the order of the datagram. -/
def leaves : OscContent → List OscMessage
  | .message m => [m]
  | .bundle _ _ contents => leavesOf contents

/-- The messages in elements. -/
def leavesOf : List OscContent → List OscMessage
  | [] => []
  | content :: contents => leaves content ++ leavesOf contents

end

mutual

/-- Every message of an element is timed, once. -/
theorem map_message_timedMsgOfContent (now timestamp : ℚ) : ∀ c : OscContent,
    (timedMsgOfContent now timestamp c).map TimedMessage.message = leaves c
  | .message m => rfl
  | .bundle _ _ contents => by
    rw [timedMsgOfContent, leaves]
    exact map_message_timedMsgOfBundle now _ contents

theorem map_message_timedMsgOfBundle (now timestamp : ℚ) : ∀ contents : List OscContent,
    (timedMsgOfBundle now timestamp contents).map TimedMessage.message = leavesOf contents
  | [] => rfl
  | c :: contents => by
    rw [timedMsgOfBundle, leavesOf, List.map_append, map_message_timedMsgOfContent now timestamp c,
      map_message_timedMsgOfBundle now timestamp contents]

end

/-! ### The order of the messages -/

/-- An order in which messages are handled: by time, and by arrival among those of one time. -/
structure IsSchedule (msgs schedule : List TimedMessage) : Prop where
  perm : schedule.Perm msgs
  sorted : schedule.Pairwise fun a b => a.time ≤ b.time
  stable : ∀ time, (schedule.filter fun m => m.time = time) = msgs.filter fun m => m.time = time

theorem isSchedule_sortedByTime (msgs : List TimedMessage) :
    IsSchedule msgs (sortedByTime msgs) := by
  let r : TimedMessage → TimedMessage → Prop := fun a b => a.time ≤ b.time
  have : Std.Total r := ⟨fun a b => le_total a.time b.time⟩
  have : IsTrans TimedMessage r := ⟨fun _ _ _ => le_trans⟩
  have hperm : (sortedByTime msgs).Perm msgs := List.perm_insertionSort _ msgs
  refine ⟨hperm, List.pairwise_insertionSort r msgs, fun time => ?_⟩
  have hsame : (msgs.filter fun m => m.time = time).Pairwise r := by
    refine List.pairwise_of_forall_mem_list fun a ha b hb => ?_
    rw [List.mem_filter, decide_eq_true_iff] at ha hb
    exact (ha.2.trans hb.2.symm).le
  have hsublist : (msgs.filter fun m => m.time = time).Sublist
      ((sortedByTime msgs).filter fun m => m.time = time) := by
    have hfilter := (List.sublist_insertionSort hsame List.filter_sublist).filter
      fun m => decide (m.time = time)
    simp only [List.filter_filter, Bool.and_self] at hfilter
    exact hfilter
  exact (hsublist.eq_of_length (hperm.filter _).length_eq.symm).symm

mutual

/-- No message is to be handled before now. -/
theorem le_time_of_mem_timedMsgOfContent {now timestamp : ℚ} : ∀ {c : OscContent}
    {m : TimedMessage}, m ∈ timedMsgOfContent now timestamp c → now ≤ m.time
  | .message m', m, h => by
    rw [timedMsgOfContent, List.mem_singleton] at h
    rw [h]
    simp only
    split
    · exact le_rfl
    · rename_i hlater
      exact not_lt.mp fun hlt => hlater (.inr hlt)
  | .bundle _ _ _, m, h => by
    rw [timedMsgOfContent] at h
    exact le_time_of_mem_timedMsgOfBundle h

theorem le_time_of_mem_timedMsgOfBundle {now timestamp : ℚ} : ∀ {contents : List OscContent}
    {m : TimedMessage}, m ∈ timedMsgOfBundle now timestamp contents → now ≤ m.time
  | [], m, h => by
    rw [timedMsgOfBundle] at h
    cases h
  | _ :: _, m, h => by
    rw [timedMsgOfBundle, List.mem_append] at h
    rcases h with h | h
    · exact le_time_of_mem_timedMsgOfContent h
    · exact le_time_of_mem_timedMsgOfBundle h

end

/-! ### Packets -/

variable {now : ℚ} {n : ℕ} {dgram : Bytes} {schedule : List TimedMessage}

theorem parse_eq_ok_iff_messages : parse now n dgram = some (.ok schedule) ↔
    messages now n dgram = some (.ok schedule) := by
  rw [parse, Option.map_eq_some_iff]
  constructor
  · rintro ⟨r, hr, hmap⟩
    rw [hr, Fallible.mapError_eq_ok_iff.mp hmap]
  · intro h
    exact ⟨_, h, rfl⟩

/-- What parses as a bundle is one. -/
theorem eq_bundle_of_parse {c : OscContent} (h : OscBundle.parse n dgram = some (.ok c)) :
    ∃ timestamp contents, c = .bundle dgram timestamp contents := by
  rw [OscBundle.parse, parseBundle, andThen_eq_some_ok_iff] at h
  obtain ⟨⟨timestamp, index⟩, -, h⟩ := h
  obtain ⟨contents, -, h⟩ := andThen_eq_some_ok_iff.mp h
  exact ⟨timestamp, contents, (Except.ok.inj (Option.some.inj h)).symm⟩

/-- What is no bundle is a message, to be handled now. -/
theorem eq_message_of_parse (hbundle : dgramIsBundle dgram = false)
    (h : parse now n dgram = some (.ok schedule)) :
    ∃ m, OscMessage.parse dgram = .ok m ∧ schedule = [⟨now, m⟩] := by
  rw [parse_eq_ok_iff_messages, messages, hbundle, if_neg Bool.false_ne_true] at h
  split at h
  · obtain ⟨m, hm, rfl⟩ := Fallible.map_eq_ok_iff.mp (Option.some.inj h)
    exact ⟨m, hm, rfl⟩
  · cases h

/-- **The messages of a packet**: a message by itself, to be handled now, or all the messages in a
bundle, each of them once, in the order in which they are to be handled, none before now. -/
theorem isSchedule_of_parse (h : parse now n dgram = some (.ok schedule)) :
    (∃ m, OscMessage.parse dgram = .ok m ∧ schedule = [⟨now, m⟩]) ∨
      ∃ timestamp contents,
        OscBundle.parse n dgram = some (.ok (.bundle dgram timestamp contents)) ∧
          IsSchedule (timedMsgOfBundle now timestamp contents) schedule ∧
            (schedule.map TimedMessage.message).Perm (leavesOf contents) ∧
              ∀ m ∈ schedule, now ≤ m.time := by
  by_cases hbundle : dgramIsBundle dgram = true
  · rw [parse_eq_ok_iff_messages, messages, if_pos hbundle] at h
    obtain ⟨c, hc, h⟩ := andThen_eq_some_ok_iff.mp h
    obtain ⟨timestamp, contents, rfl⟩ := eq_bundle_of_parse hc
    obtain rfl := Except.ok.inj (Option.some.inj h)
    rw [timedMsgOfContent]
    have hschedule := isSchedule_sortedByTime (timedMsgOfBundle now timestamp contents)
    have hleaves := hschedule.perm.map TimedMessage.message
    rw [map_message_timedMsgOfBundle] at hleaves
    refine .inr ⟨timestamp, contents, hc, hschedule, hleaves, fun m hm => ?_⟩
    exact le_time_of_mem_timedMsgOfBundle (hschedule.perm.mem_iff.mp hm)
  · exact .inl (eq_message_of_parse (Bool.eq_false_of_not_eq_true hbundle) h)

/-- A message to `/a` in a bundle to be handled at once, and in front of it one to `/b`. -/
def greetings : List OscContent :=
  [.message ⟨[47, 98, 0, 0], "/b", []⟩,
    .bundle [35, 98, 117, 110, 100, 108, 101, 0, 0, 0, 0, 0, 0, 0, 0, 1, 0, 0, 0, 4, 47, 97, 0, 0] 0
      [.message ⟨[47, 97, 0, 0], "/a", []⟩]]

theorem isElement_greetings : ∀ c ∈ greetings, IsElement c := by
  rw [greetings, List.forall_mem_cons, List.forall_mem_singleton]
  refine ⟨⟨rfl, by decide⟩, ?_⟩
  have hdatagram : greeting.datagram = .ok [35, 98, 117, 110, 100, 108, 101, 0, 0, 0, 0, 0, 0, 0, 0,
      1, 0, 0, 0, 4, 47, 97, 0, 0] := rfl
  obtain ⟨date, s, n, hdate, hreads, hbundle, hparse⟩ :=
    build_of_datagram isElement_greeting hdatagram
  obtain rfl : Bytes.ofNat 8 1 = date := Except.ok.inj hdate
  obtain rfl : dateOf 1 = s := (reads_getDate (by norm_num)).unique hreads
  exact ⟨hbundle, n, hparse⟩

/-- A date ten seconds behind the epoch. -/
theorem dateOf_ten : dateOf 9487534696179957760 = 10 := by
  have htag := round_of_steps (c := 2208988810) (e := 32) (by decide) (by decide)
  have hten := round_of_steps (c := 10) (e := 0) (by decide) (by decide)
  norm_num at htag hten
  have htagged : toFloat ((9487534696179957760 : ℕ) : ℚ) = 9487534696179957760 := by
    rw [toFloat_of_le (by norm_num), Nat.cast_ofNat, htag]
  rw [dateOf, if_neg (by decide), htagged, toFloat_of_le (by norm_num [ntpDelta]), ntpDelta]
  norm_num
  exact hten

/-- The bundle of the two, for that date. -/
def bundled : Bytes :=
  bundlePrefix ++ Bytes.ofNat 8 9487534696179957760 ++ [0, 0, 0, 4, 47, 98, 0, 0] ++
    [0, 0, 0, 24, 35, 98, 117, 110, 100, 108, 101, 0, 0, 0, 0, 0, 0, 0, 0, 1, 0, 0, 0, 4, 47, 97, 0,
      0]

theorem parse_bundled :
    ∃ n, OscBundle.parse n bundled = some (.ok (.bundle bundled 10 greetings)) := by
  have hwrite : writeContents greetings (bundlePrefix ++ Bytes.ofNat 8 9487534696179957760) =
      .ok bundled := rfl
  obtain ⟨bytes, n, hbytes, hcontents⟩ := unroll_of_writeContents isElement_greetings hwrite
  have hlt : 9487534696179957760 < 2 ^ 64 := by norm_num
  have hread := reads_getDate hlt bundlePrefix bytes
  rw [dateOf_ten, ← List.append_assoc, ← Nat.cast_add, ← List.length_append, ← hbytes] at hread
  refine ⟨n, ?_⟩
  rw [OscBundle.parse, parseBundle, hread]
  simp only [Except.mapError, some_ok_andThen]
  rw [hcontents]
  rfl

/-- The messages in the order in which they are handled from the time 5 on. -/
def bundledSchedule : List TimedMessage :=
  [⟨5, ⟨[47, 97, 0, 0], "/a", []⟩⟩, ⟨10, ⟨[47, 98, 0, 0], "/b", []⟩⟩]

/-- The message of the bundle inside comes first, because it is to be handled at once. -/
theorem isSchedule_of_parse_bundled : ∃ n,
    (∃ m, OscMessage.parse bundled = .ok m ∧ bundledSchedule = [⟨5, m⟩]) ∨
      ∃ timestamp contents,
        OscBundle.parse n bundled = some (.ok (.bundle bundled timestamp contents)) ∧
          IsSchedule (timedMsgOfBundle 5 timestamp contents) bundledSchedule ∧
            (bundledSchedule.map TimedMessage.message).Perm (leavesOf contents) ∧
              ∀ m ∈ bundledSchedule, (5 : ℚ) ≤ m.time := by
  obtain ⟨n, hparse⟩ := parse_bundled
  have hbundle : dgramIsBundle bundled = true := List.isPrefixOf_iff_prefix.mpr ⟨_, rfl⟩
  have hpacket : parse 5 n bundled = some (.ok bundledSchedule) := by
    rw [parse_eq_ok_iff_messages, messages, if_pos hbundle, hparse, some_ok_andThen]
    simp only [timedMsgOfContent, timedMsgOfBundle, sortedByTime, greetings, bundledSchedule]
    norm_num
  exact ⟨n, isSchedule_of_parse hpacket⟩

/-- Only bundles take forever. -/
theorem parse_eq_none_iff :
    parse now n dgram = none ↔ dgramIsBundle dgram ∧ OscBundle.parse n dgram = none := by
  rw [parse, Option.map_eq_none_iff, messages]
  split
  · rename_i hbundle
    simp [andThen_eq_none_iff, hbundle]
  · rename_i hbundle
    split <;> simp [hbundle]

/-- **What a packet raises**: its own exception, or the one for bytes that are no UTF-8. -/
theorem isPacketError_of_parse {e : OscExc} (h : parse now n dgram = some (.error e)) :
    e = .packetParse ∨ e = .unicodeDecode := by
  have hraised : ∀ {e : OscExc}, e = .messageParse ∨ IsBundleError e ∨ e = .packetParse →
      raisedAs e = .packetParse ∨ raisedAs e = .unicodeDecode := by
    rintro e (rfl | (rfl | rfl) | rfl)
    · exact .inl rfl
    · exact .inl rfl
    · exact .inr rfl
    · exact .inl rfl
  obtain ⟨r, hr, hmap⟩ := Option.map_eq_some_iff.mp h
  obtain ⟨e', rfl, rfl⟩ := Fallible.mapError_eq_error_iff.mp hmap
  rw [messages] at hr
  split at hr
  · rcases andThen_eq_some_error_iff.mp hr with hr | ⟨c, -, hr⟩
    · exact hraised (.inr (.inl (isBundleError_parseBundle (isBundleError_unroll n) hr)))
    · cases hr
  split at hr
  · rcases OscMessage.error_of_parse (Fallible.map_eq_error_iff.mp (Option.some.inj hr)) with
      rfl | rfl
    · exact hraised (.inl rfl)
    · exact .inr rfl
  · obtain rfl := Except.error.inj (Option.some.inj hr)
    exact .inl rfl

/-- A bundle with a message, given its bytes. -/
def bundleOf (message : Bytes) : Bytes :=
  [35, 98, 117, 110, 100, 108, 101, 0, 0, 0, 0, 0, 0, 0, 0, 1, 0, 0, 0, 4] ++ message

/-- In a bundle, an address without an end, and one that is no UTF-8. -/
theorem isPacketError_of_parse_broken :
    (∃ e, parse 0 2 (bundleOf [47, 97, 98, 99]) = some (.error e) ∧
        (e = .packetParse ∨ e = .unicodeDecode)) ∧
      ∃ e, parse 0 2 (bundleOf [47, 255, 0, 0]) = some (.error e) ∧
        (e = .packetParse ∨ e = .unicodeDecode) := by
  have hbroken : parse 0 2 (bundleOf [47, 97, 98, 99]) = some (.error .packetParse) := by rfl
  have hnoText : parse 0 2 (bundleOf [47, 255, 0, 0]) = some (.error .unicodeDecode) := by rfl
  exact ⟨⟨_, hbroken, isPacketError_of_parse hbroken⟩, _, hnoText, isPacketError_of_parse hnoText⟩

end OscPacket

end LooperControl
