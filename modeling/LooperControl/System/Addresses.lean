import LooperControl.System.ParamChange

/-!
# Recorded addresses

An entry of the discovered loopers records where a device stood, by the two positions in its
`track_id` and `device_id`. A command that writes goes back to these positions.

* **What a writing command does**: `exec_handleCommand_write`. It writes a parameter of the
  looper-like device that now stands at the recorded address, or refuses.
* **When addresses stay right**: `neverStale_step_iff` for one step and `addressesHold_of_run`
  for a run. The one thing that can go wrong is an edit without a completed rescan that takes
  a device away from its recorded place.
-/

namespace LooperControl

open Effect LooperControlSurface BridgeServer Script LooperDiscovery

/-! ### Addresses -/

/-- `song.tracks[int(track_id)].devices[int(device_id)]`, if nothing raises. -/
def Song.deviceUnder? (song : Song) (trackId deviceId : String) : Option Device := do
  let trackIdx ← (pyInt (.str trackId)).toOption
  let deviceIdx ← (pyInt (.str deviceId)).toOption
  let i ← (pyIndex song.tracks.length trackIdx).toOption
  let track ← song.tracks[i]?
  let j ← (pyIndex track.devices.length deviceIdx).toOption
  track.devices[j]?

private theorem bind_pyIndex {α : Type} (l : List α) (i : ℕ) :
    ((pyIndex l.length (i : ℤ)).toOption.bind fun i => l[i]?) = l[i]? := by
  by_cases h : i < l.length
  · rw [pyIndex_ofNat h]
    rfl
  · have herror : pyIndex l.length (i : ℤ) = .error (.indexError "list index out of range") := by
      rw [pyIndex, if_neg (by omega), if_neg (by omega)]
    rw [herror, List.getElem?_eq_none (Nat.le_of_not_lt h)]
    rfl

/-- Decimal numerals lead to the positions they stand for. -/
theorem deviceUnder?_toString (song : Song) (i j : ℕ) :
    song.deviceUnder? (toString i) (toString j) = song.deviceAt? i j := by
  have hdevices : ∀ t : Track, ((pyIndex t.devices.length (j : ℤ)).toOption.bind fun j =>
      t.devices[j]?) = t.devices[j]? := fun t => bind_pyIndex t.devices j
  have htracks := bind_pyIndex song.tracks i
  -- Both conversions succeed, and both indices are natural numbers.
  simp only [Song.deviceUnder?, pyInt_str_toString, Except.toOption, Option.bind_eq_bind,
    Option.bind_some]
  simp only [Except.toOption] at hdevices htracks
  simp only [hdevices, ← Option.bind_assoc, htracks]
  rfl

/-- The device at the address recorded under a track id. -/
def Script.recordedDevice? (s : Script) (trackId : String) : Option Device :=
  (s.discoveredLoopers.get? trackId).bind fun info =>
    s.live.song.deviceUnder? trackId info.deviceId

/-! ### What a writing command does -/

/-- The names of the commands that write a parameter of a device. -/
def writingNames : List String := ["set_feedback", "undo", "redo"]

theorem isSome_writeOf {name : String} (h : name ∈ writingNames) (args : Json) :
    (writeOf (.str name) args).isSome := by
  simp only [writingNames, List.mem_cons, List.not_mem_nil, or_false] at h
  rcases h with rfl | rfl | rfl <;> rfl

/-- The positions that a write addresses are those of the ids. -/
theorem deviceUnder?_of_addressed {song : Song} {trackId deviceId paramName : String}
    {trackIdx deviceIdx : ℤ} {i j k : ℕ} {p : Param} (ht : pyInt (.str trackId) = .ok trackIdx)
    (hd : pyInt (.str deviceId) = .ok deviceIdx)
    (h : addressed song trackIdx deviceIdx paramName = some (i, j, k, p)) :
    ∃ device, song.deviceUnder? trackId deviceId = some device ∧
      song.deviceAt? i j = some device ∧ isLooperDevice device = true ∧
        device.params[k]? = some p := by
  obtain ⟨hi, track, device, htrack, hj, hdevice, hloop, hp⟩ := addressed_eq_some h
  refine ⟨device, ?_, ?_, hloop, hp.get⟩
  · simp [Song.deviceUnder?, ht, hd, hi, hj, htrack, hdevice, Except.toOption]
  · rw [Song.deviceAt?, htrack]
    exact hdevice

/-- **A writing command** refuses, or assigns one parameter of the looper-like device at the
address recorded under the track id it names. -/
theorem exec_handleCommand_write (s : Script) (nsid : Json) {name : String} {args : Json}
    (hname : name ∈ writingNames) (hargs : args.isObj = true) :
    (∃ answer, exec (handleCommand (.str "looper") nsid (.str name) args) s =
        (.ok (some answer), s) ∧ answer.get? "success" = some (.bool false)) ∨
    ∃ key device i j k p v, trackIdOf args = .str key ∧
      s.recordedDevice? key = some device ∧ isLooperDevice device = true ∧
        s.live.song.deviceAt? i j = some device ∧ device.params[k]? = some p ∧
          exec (handleCommand (.str "looper") nsid (.str name) args) s =
            (.ok (some succeeded), assigned s i j k p v) := by
  have hsome := isSome_writeOf hname args
  have hdiscover : name ≠ "discover" := by
    rintro rfl
    exact absurd hname (by decide)
  have hout := outcome_handleCommand s (.str "looper") nsid (.str name) args
  generalize exec (handleCommand (.str "looper") nsid (.str name) args) s = outcome at hout ⊢
  cases hout with
  | discovered _ _ hne => exact absurd (Json.str.inj hne) hdiscover
  | scanRaised _ _ hne => exact absurd (Json.str.inj hne) hdiscover
  | noArgs _ _ _ hnot => exact absurd hargs (by simp [hnot])
  | refused answer _ _ _ hanswer => exact .inl ⟨answer, rfl, hanswer⟩
  | wrote key paramName info trackIdx deviceIdx i j k p v _ _ _ hkey hinfo ht hd _ hp =>
    obtain ⟨device, hunder, hat, hloop, hparam⟩ := deviceUnder?_of_addressed ht hd hp
    refine .inr ⟨key, device, i, j, k, p, v, hkey, ?_, hloop, hat, hparam, rfl⟩
    rw [Script.recordedDevice?, hinfo]
    exact hunder
  | other _ hnot => exact absurd ⟨rfl, .inr hsome⟩ hnot

/-! ### Where entries come from -/

/-- A message that makes the command handler discover. -/
def isDiscover (message : Json) : Prop :=
  message.isObj = true ∧ isCommand message ∧ (message.get? "ns").getD (.str "") = .str "looper" ∧
    (message.get? "name").getD (.str "") = .str "discover"

instance (message : Json) : Decidable (isDiscover message) :=
  inferInstanceAs (Decidable (_ ∧ _ ∧ _ ∧ _))

/-- The song that an event makes the script scan, if it makes it scan one. -/
def Script.Event.scans (song : Song) : Script.Event → Option Song
  | .edit e => if e.changesTrackList then e.apply song else none
  | .message (.json decoded :: _) => if isDiscover decoded then some song else none
  | _ => none

/-- The song of a full scan that an event makes the script complete. -/
def completed (s : Script) (e : Script.Event) : Option Song :=
  (e.scans s.live.song).filter fun song => (scanResult song).isOk

/-- A script and the song that its last completed full scan has read. -/
structure Traced where
  script : Script
  read : Song

namespace Traced

/-- The script handles an event; a scan that it completes is remembered with its song. -/
def step (s : Traced) (e : Script.Event) (t : Traced) : Prop :=
  s.script.step e = some t.script ∧ t.read = (completed s.script e).getD s.read

/-- An entry was read from a device of a song. -/
def ReadFrom (song : Song) (info : LooperInfo) (device : ℕ) : Prop :=
  ∃ f ∈ looperDevices song.tracks, f.read = .ok info ∧ f.device.id = device

/-- No entry's address is stale: the device there is the one that the entry was read from. -/
def NeverStale (t : Traced) : Prop :=
  ∀ k info, t.script.discoveredLoopers.get? k = some info →
    ∃ device, t.script.recordedDevice? k = some device ∧ ReadFrom t.read info device.id

/-- A writing command acts on the device discovered under its track id, and on nothing else, or
it is refused. -/
def ActsOrRefuses (t : Traced) (nsid : Json) (name : String) (args : Json) : Prop :=
  (∃ answer, exec (handleCommand (.str "looper") nsid (.str name) args) t.script =
      (.ok (some answer), t.script) ∧ answer.get? "success" = some (.bool false)) ∨
  ∃ key info script p v, trackIdOf args = .str key ∧
    t.script.discoveredLoopers.get? key = some info ∧
      exec (handleCommand (.str "looper") nsid (.str name) args) t.script =
        (.ok (some succeeded), script) ∧
        script.live.assigned = t.script.live.assigned ++ [(p, v)] ∧ ReadFrom t.read info p.device

/-- What the recorded addresses are for. -/
structure AddressesHold (t : Traced) : Prop where
  entries : NeverStale t
  commands : ∀ nsid name args, name ∈ writingNames → args.isObj = true →
    ActsOrRefuses t nsid name args

/-- The condition on an event: an edit is one of the track list after which every looper can be
read, or it leaves at the address of every entry the device that stood there before. -/
def StaysInPlace (s : Traced) : Script.Event → Prop
  | .edit e => ∀ song, e.apply s.script.live.song = some song →
      (e.changesTrackList = true ∧ AllReadable song) ∨
      ∀ k info, s.script.discoveredLoopers.get? k = some info →
        (song.deviceUnder? k info.deviceId).map Device.id =
          (s.script.live.song.deviceUnder? k info.deviceId).map Device.id
  | _ => True

/-! ### What every step keeps -/

/-- A device that a scan has read stands where its entry says. -/
theorem deviceUnder?_of_read {song : Song} {f : FoundDevice} {info : LooperInfo}
    (hf : f ∈ looperDevices song.tracks) (h : f.read = .ok info) :
    song.deviceUnder? info.trackId info.deviceId = some f.device := by
  obtain ⟨ht, hd, -⟩ := mem_looperDevices.mp hf
  obtain ⟨htrack, -, hdevice, -⟩ := read_ids h
  rw [htrack, hdevice, deviceUnder?_toString, Song.deviceAt?, ht]
  exact hd

/-- An entry is read from one device. -/
theorem ReadFrom.unique {song : Song} {info : LooperInfo} {a b : ℕ} (ha : ReadFrom song info a)
    (hb : ReadFrom song info b) : a = b := by
  obtain ⟨f, hf, hfread, rfl⟩ := ha
  obtain ⟨g, hg, hgread, rfl⟩ := hb
  have heq := (deviceUnder?_of_read hf hfread).symm.trans (deviceUnder?_of_read hg hgread)
  rw [Option.some.inj heq]

/-- Entries stand under their track ids, and their addresses are not stale. -/
structure Tracks (s : Traced) : Prop where
  consistent : Consistent s.script
  entries : NeverStale s

/-- The addresses of a scan's own result are right in the song that was scanned. -/
theorem neverStale_of_scanResult {s : Traced} {found : Dict String LooperInfo}
    (h : scanResult s.read = .ok found) (hsong : s.script.live.song = s.read)
    (hfound : s.script.discoveredLoopers = found) : NeverStale s := by
  intro k info hk
  rw [hfound] at hk
  obtain ⟨f, hf, hread, rfl⟩ := mem_scanResult h hk
  refine ⟨f.device, ?_, f, hf, hread, rfl⟩
  have hunder := deviceUnder?_of_read hf hread
  rw [(read_ids hread).1] at hunder
  rw [Script.recordedDevice?, hfound, hk, hsong, Option.bind_some]
  exact hunder

/-- Entries that stay keep an address that is not stale exactly while the device there stays. -/
theorem neverStale_iff_of_same {s t : Traced} (hs : NeverStale s) (hread : t.read = s.read)
    (hfound : t.script.discoveredLoopers = s.script.discoveredLoopers) :
    NeverStale t ↔ ∀ k info, s.script.discoveredLoopers.get? k = some info →
      (t.script.live.song.deviceUnder? k info.deviceId).map Device.id =
        (s.script.live.song.deviceUnder? k info.deviceId).map Device.id := by
  have hrecorded : ∀ (u : Traced) (k : String) (info : LooperInfo),
      u.script.discoveredLoopers.get? k = some info →
        u.script.recordedDevice? k = u.script.live.song.deviceUnder? k info.deviceId := by
    intro u k info hk
    rw [Script.recordedDevice?, hk, Option.bind_some]
  constructor
  · intro ht k info hk
    have hk' : t.script.discoveredLoopers.get? k = some info := by rw [hfound, hk]
    obtain ⟨d, hd, hdread⟩ := hs k info hk
    obtain ⟨d', hd', hdread'⟩ := ht k info hk'
    rw [hread] at hdread'
    rw [hrecorded s k info hk] at hd
    rw [hrecorded t k info hk'] at hd'
    rw [hd, hd', Option.map_some, Option.map_some, hdread'.unique hdread]
  · intro hsame k info hk
    rw [hfound] at hk
    obtain ⟨d, hd, hdread⟩ := hs k info hk
    have hid := hsame k info hk
    rw [← hrecorded s k info hk, hd, Option.map_some, Option.map_eq_some_iff] at hid
    obtain ⟨d', hd', hid⟩ := hid
    refine ⟨d', ?_, ?_⟩
    · rw [hrecorded t k info (by rw [hfound, hk]), hd']
    · rw [hread, hid]
      exact hdread

/-- A value is no place: replacing one leaves every device where it stands. -/
theorem deviceId_setValue {s : Script} (hs : Consistent s) (a b n : ℕ) (v : Double) {k : String}
    {info : LooperInfo} (hk : s.discoveredLoopers.get? k = some info) :
    ((s.live.song.setValue a b n v).deviceUnder? k info.deviceId).map Device.id =
      (s.live.song.deviceUnder? k info.deviceId).map Device.id := by
  obtain ⟨i, j, rfl, -, hj⟩ := hs.entries k info hk
  rw [hj, deviceUnder?_toString, deviceUnder?_toString, deviceAt?_setValue, Option.map_map]
  congr 1
  funext d
  rw [Function.comp_apply]
  split <;> rfl

theorem completed_message_of_not {s : Script} {message : Json} {rest : List OscArg}
    (h : ¬isDiscover message) : completed s (.message (.json message :: rest)) = none := by
  rw [completed, Script.Event.scans, if_neg h]
  rfl

/-- A name of a writing command is not that of a discovery. -/
private theorem not_discover_of_isSome {name args : Json} (h : (writeOf name args).isSome) :
    name ≠ .str "discover" := by
  rintro rfl
  cases h

/-- **What a message does to addresses**: it completes a scan of the song as it is, or it
leaves the entries and replaces at most one parameter value. -/
theorem handled_addresses (s : Script) (args : List OscArg) :
    (completed s (.message args) = some s.live.song ∧
      scanResult s.live.song = .ok (s.handled args).discoveredLoopers ∧
        (s.handled args).live.song = s.live.song) ∨
    (completed s (.message args) = none ∧
      (s.handled args).discoveredLoopers = s.discoveredLoopers ∧
        ((s.handled args).live.song = s.live.song ∨
          ∃ a b n v, (s.handled args).live.song = s.live.song.setValue a b n v)) := by
  rcases handled_cases s args with ⟨message, rest, rfl, hhandling⟩ | ⟨hundecoded, hsame⟩
  · generalize s.handled (.json message :: rest) = t at hhandling ⊢
    -- Only a discover that reads every looper completes a scan, and only a write changes a value.
    cases hhandling with
    | notObject hobj =>
      exact .inr ⟨completed_message_of_not fun h => absurd h.1 (by simp [hobj]), rfl, .inl rfl⟩
    | mismatch _ _ hcommand =>
      exact .inr ⟨completed_message_of_not fun h => hcommand h.2.1, rfl, .inl rfl⟩
    | helloNoArgs _ hhello =>
      exact .inr ⟨completed_message_of_not fun h => h.2.1.2 hhello.2, rfl, .inl rfl⟩
    | helloNoUuid _ hhello =>
      exact .inr ⟨completed_message_of_not fun h => h.2.1.2 hhello.2, rfl, .inl rfl⟩
    | hello _ _ hhello =>
      exact .inr ⟨completed_message_of_not fun h => h.2.1.2 hhello.2, rfl, .inl rfl⟩
    | answered answer t' hobj hcommand hout =>
      cases hout with
      | discovered found hns hname h =>
        have hdiscover : isDiscover message := ⟨hobj, hcommand, hns, hname⟩
        refine .inl ⟨?_, ?_, ?_⟩
        · rw [completed, Script.Event.scans, if_pos hdiscover, Option.filter_some, h]
          rfl
        · change _ = Except.ok (scanned (silenced s) found).discoveredLoopers
          rw [scanned_discoveredLoopers]
          exact h
        · exact scanned_song
      | refused _ _ hwrite =>
        exact .inr ⟨completed_message_of_not fun h => not_discover_of_isSome hwrite h.2.2.2, rfl,
          .inl rfl⟩
      | wrote key paramName info trackIdx deviceIdx i j k p v _ hwrite =>
        have hsome : (writeOf ((message.get? "name").getD (.str "")) (argsOf message)).isSome := by
          rw [hwrite]
          rfl
        refine .inr ⟨completed_message_of_not fun h => not_discover_of_isSome hsome h.2.2.2, ?_,
          .inr ⟨i, j, k, v, ?_⟩⟩
        · rw [assigned_eq]
          rfl
        · rw [assigned_eq]
          rfl
      | other _ hnot =>
        exact .inr ⟨completed_message_of_not fun h => hnot ⟨h.2.2.1, .inl h.2.2.2⟩, rfl, .inl rfl⟩
    | raised e t' _ _ hout =>
      cases hout with
      | scanRaised _ _ _ h =>
        refine .inr ⟨?_, rfl, .inl rfl⟩
        rw [completed, Script.Event.scans]
        split
        · rw [Option.filter_some, h]
          rfl
        · rfl
      | noArgs _ _ hwrite =>
        exact .inr ⟨completed_message_of_not fun h => not_discover_of_isSome hwrite h.2.2.2, rfl,
          .inl rfl⟩
  · rw [hsame]
    refine .inr ⟨?_, rfl, .inl rfl⟩
    have hnone : (Script.Event.message args).scans s.live.song = none := by
      rcases args with _ | ⟨_ | _, rest⟩
      · rfl
      · exact absurd rfl (hundecoded _ rest)
      · rfl
    rw [completed, hnone]
    rfl

/-- **The step lemma**: addresses that are not stale stay so exactly under the condition on the
event. -/
theorem neverStale_step_iff {s t : Traced} {e : Script.Event} (hs : Tracks s)
    (h : s.step e t) : NeverStale t ↔ StaysInPlace s e := by
  obtain ⟨hscript, hread⟩ := h
  cases e with
  | edit e =>
    obtain ⟨song, hsong, hscript⟩ := step_edit hscript
    have hcondition : StaysInPlace s (.edit e) ↔
        (e.changesTrackList = true ∧ AllReadable song) ∨
        ∀ k info, s.script.discoveredLoopers.get? k = some info →
          (song.deviceUnder? k info.deviceId).map Device.id =
            (s.script.live.song.deviceUnder? k info.deviceId).map Device.id :=
      ⟨fun h => h song hsong, fun h song' hsong' => by
        rw [hsong, Option.some_inj] at hsong'
        rwa [← hsong']⟩
    rw [hcondition]
    -- The tracks listener scans again, or the edit goes unnoticed.
    rcases hscript with ⟨hlist, hscript⟩ | ⟨hlist, hscript⟩
    · rw [completed, Script.Event.scans, if_pos hlist, hsong, Option.filter_some] at hread
      rcases hscan : scanResult song with err | found
      · rw [rescanned_error (s := s.script.edited song) hscan] at hscript
        have hnone : t.read = s.read := by rw [hread, hscan]; rfl
        have hsame := neverStale_iff_of_same hs.entries hnone (by rw [hscript]; rfl)
        rw [hsame, hscript]
        exact ⟨.inr, fun h => h.resolve_left fun h => not_allReadable_of_scanResult hscan h.2⟩
      · rw [rescanned_ok (s := s.script.edited song) hscan] at hscript
        have hsome : t.read = song := by rw [hread, hscan]; rfl
        have hstale : NeverStale t := by
          refine @neverStale_of_scanResult _ found (by rw [hsome, hscan]) ?_ ?_
          · rw [hscript, scanned_song, hsome]
            rfl
          · rw [hscript, scanned_discoveredLoopers]
        exact ⟨fun _ => .inl ⟨hlist, allReadable_of_scanResult hscan⟩, fun _ => hstale⟩
    · have hnone : t.read = s.read := by
        rw [hread, completed, Script.Event.scans, if_neg (by rw [hlist]; exact Bool.false_ne_true)]
        rfl
      have hsame := neverStale_iff_of_same hs.entries hnone (by rw [hscript]; rfl)
      rw [hsame, hscript]
      simp [hlist, Script.edited]
  | setParam i j k v =>
    obtain ⟨p, -, hscript⟩ := step_setParam hscript
    rw [assigned_eq] at hscript
    have hsame := neverStale_iff_of_same hs.entries hread (by rw [hscript]; rfl)
    rw [hsame, hscript]
    exact ⟨fun _ => trivial, fun _ k info hk => deviceId_setValue hs.consistent _ _ _ _ hk⟩
  | message args =>
    obtain ⟨-, hscript⟩ := step_message hscript
    refine ⟨fun _ => trivial, fun _ => ?_⟩
    rcases handled_addresses s.script args with ⟨hdone, hscan, hsong⟩ | ⟨hdone, hfound, hsong⟩
    · rw [hdone] at hread
      have hread : t.read = s.script.live.song := hread
      rw [← hscript] at hscan hsong
      exact neverStale_of_scanResult (by rw [hread]; exact hscan) (by rw [hsong, hread]) rfl
    · rw [hdone] at hread
      rw [← hscript] at hfound hsong
      refine (neverStale_iff_of_same hs.entries hread hfound).mpr fun k info hk => ?_
      rcases hsong with hsong | ⟨a, b, n, v, hsong⟩
      · rw [hsong]
      · rw [hsong, deviceId_setValue hs.consistent a b n v hk]

/-- Commands at addresses that are not stale act on the devices discovered. -/
theorem actsOrRefuses_of_neverStale {s : Traced} (hs : NeverStale s) (nsid : Json) {name : String}
    {args : Json} (hname : name ∈ writingNames) (hargs : args.isObj = true) :
    ActsOrRefuses s nsid name args := by
  rcases exec_handleCommand_write s.script nsid hname hargs with hrefused |
    ⟨key, device, i, j, k, p, v, hkey, hrecorded, -, hat, hp, hexec⟩
  · exact .inl hrefused
  · right
    obtain ⟨info, hinfo⟩ : ∃ info, s.script.discoveredLoopers.get? key = some info := by
      rw [Script.recordedDevice?, Option.bind_eq_some_iff] at hrecorded
      exact hrecorded.imp fun _ h => h.1
    obtain ⟨device', hrecorded', hread⟩ := hs key info hinfo
    have hdevice : device' = device := by rw [← Option.some_inj, ← hrecorded', ← hrecorded]
    refine ⟨key, info, _, p.id, v, hkey, hinfo, hexec, ?_, ?_⟩
    · rw [assigned_eq]
      rfl
    · rw [device_of_deviceAt? hat hp, ← hdevice]
      exact hread

/-- A script that has just started has read every entry in the song it is in. -/
theorem tracks_of_started {s : Script} (h : Started s) : Tracks ⟨s, s.live.song⟩ := by
  refine ⟨consistent_of_started h, ?_⟩
  obtain ⟨free, song, found, hscan, rfl⟩ := started_eq h
  refine @neverStale_of_scanResult _ found ?_ rfl (by rw [scanned_discoveredLoopers])
  change scanResult (scanned _ found).live.song = _
  rw [scanned_song]
  exact hscan

/-- **A recorded address never goes stale** in a run in which every edit completes a rescan or
leaves the recorded devices in place, and writing commands act on the devices discovered. -/
theorem addressesHold_of_run {s : Script} {t : Traced} {es : List Script.Event} (hs : Started s)
    (hrun : Runs.Run (Runs.guarded StaysInPlace step) ⟨s, s.live.song⟩ es t) :
    AddressesHold t := by
  have htracks : Tracks t := by
    refine hrun.invariant (fun u e u' hu hstep => ?_) (tracks_of_started hs)
    exact ⟨kept_consistent.step hu.consistent hstep.2.1,
      (neverStale_step_iff hu hstep.2).mpr hstep.1⟩
  exact ⟨htracks.entries, fun nsid _ _ => actsOrRefuses_of_neverStale htracks.entries nsid⟩

/-- A device put behind a looper. -/
theorem addressesHold_behind : ∃ t, AddressesHold t ∧
    t.script.live.song.tracks.map (fun t => t.devices.map Device.id) = [[0, 1]] := by
  have hplace : StaysInPlace ⟨begun oneLooper, (begun oneLooper).live.song⟩
      (.edit (.insertDevice 0 1 ⟨1, "Reverb", "Reverb", [], true⟩)) := by
    intro song hsong
    have hentries : ∀ item ∈ (begun oneLooper).discoveredLoopers.items,
        (song.deviceUnder? item.1 item.2.deviceId).map Device.id =
          ((begun oneLooper).live.song.deviceUnder? item.1 item.2.deviceId).map Device.id := by
      cases hsong
      decide +kernel
    exact .inr fun k info hk => hentries (k, info) (Dict.get?_eq_some_iff.mp hk)
  obtain ⟨script, hscript, hdevices⟩ : ∃ script, (begun oneLooper).step
      (.edit (.insertDevice 0 1 ⟨1, "Reverb", "Reverb", [], true⟩)) = some script ∧
        script.live.song.tracks.map (fun t => t.devices.map Device.id) = [[0, 1]] :=
    ⟨_, rfl, by decide +kernel⟩
  exact ⟨⟨script, oneLooper⟩, addressesHold_of_run (@started_begun oneLooper _ rfl)
    (.cons (t := ⟨script, oneLooper⟩) ⟨hplace, hscript, rfl⟩ (.nil _)), hdevices⟩

/-- **A device put in front of a looper takes its place**: the entry now leads to the new one. -/
theorem not_addressesHold : ¬∀ (s : Script) (t : Traced) (es : List Script.Event), Started s →
    Runs.Run step ⟨s, s.live.song⟩ es t → AddressesHold t := by
  intro h
  obtain ⟨script, hscript, hkey, hplace⟩ : ∃ script, (begun oneLooper).step
      (.edit (.insertDevice 0 0 ⟨1, "Looper 2", "Looper", [], true⟩)) = some script ∧
        (script.discoveredLoopers.get? "0").isSome ∧
          (script.recordedDevice? "0").map Device.id = some 1 :=
    ⟨_, rfl, by decide +kernel, by decide +kernel⟩
  obtain ⟨hentries, -⟩ := h (begun oneLooper) ⟨script, oneLooper⟩ _
    (@started_begun oneLooper _ rfl) (.cons (t := ⟨script, oneLooper⟩) ⟨hscript, rfl⟩ (.nil _))
  obtain ⟨info, hinfo⟩ := Option.isSome_iff_exists.mp hkey
  obtain ⟨device, hdevice, f, hf, -, hid⟩ := hentries "0" info hinfo
  -- The device at the address is the new one, and the scan has only seen the old one.
  have hnew : device.id = 1 := by
    rw [hdevice] at hplace
    exact Option.some.inj hplace
  have hold : ∀ f ∈ looperDevices oneLooper.tracks, f.device.id = 0 := by decide +kernel
  exact absurd (hid.symm.trans (hold f hf)) (by rw [hnew]; exact Nat.one_ne_zero)

end Traced

end LooperControl
