import LooperControl.Script.Steps

/-!
# How much discovery finds

`scan_all_tracks` keys its result by track, so that of several loopers on one track one entry
remains, and raises at the first looper it cannot read. `noLooperLost_iff` says that these
are the only two ways in which a looper is lost: a scan has exactly one entry for every
looper-like device, and a `discover` command pushes exactly one event for each, exactly on
the songs of `OneEach`.
-/

namespace LooperControl

open Effect LooperDiscovery LooperControlSurface

/-- There is a looper-like device at a position of the song. -/
def LooperAt (song : Song) (i j : ℕ) : Prop :=
  ∃ d, song.deviceAt? i j = some d ∧ isLooperDevice d = true

/-- An entry names a position. -/
def LooperInfo.names (i j : ℕ) (info : LooperInfo) : Bool :=
  decide (info.trackId = toString i ∧ info.deviceId = toString j)

/-- A datagram carries a `looper_discovered` event for a position. -/
def Datagram.discovers (i j : ℕ) (d : Datagram) : Bool :=
  decide (d.payload.get? "event" = some (.str "looper_discovered") ∧
    (d.payload.get? "data").bind (Json.get? "track_id") = some (.str (toString i)) ∧
      (d.payload.get? "data").bind (Json.get? "device_id") = some (.str (toString j)))

/-- One entry for every looper-like device, no others, and as many as there are devices. -/
structure ExactEntries (song : Song) (found : Dict String LooperInfo) : Prop where
  one : ∀ i j, LooperAt song i j → found.items.countP (fun item => item.2.names i j) = 1
  only : ∀ item ∈ found.items, ∃ i j, LooperAt song i j ∧ item.2.names i j = true
  size : found.size = countLooperDevices song isLooperDevice

/-- One event for every looper-like device, and no others. -/
structure ExactEvents (song : Song) (new : List Datagram) : Prop where
  one : ∀ i j, LooperAt song i j → new.countP (Datagram.discovers i j) = 1
  only : ∀ d ∈ new, ∃ i j, LooperAt song i j ∧ d.discovers i j = true

/-- No looper of the song is lost: neither by a scan nor by a `discover` command. -/
def NoLooperLost (song : Song) : Prop :=
  (∀ s : Script, s.live.song = song →
    ∃ found, (exec scanAllTracks s).1 = .ok found ∧ ExactEntries song found) ∧
  ∀ (s : Script) (nsid args : Json) (port : ℤ), s.live.song = song →
    s.server.target = some port → ∃ answer t new,
      exec (handleCommand (.str "looper") nsid (.str "discover") args) s =
          (.ok (some answer), t) ∧
        answer.get? "loopers_found" = some (.int (countLooperDevices song isLooperDevice)) ∧
          t.sent = s.sent ++ new ∧ ExactEvents song new

/-- No track has two looper-like devices, and every one there is can be read. -/
def OneEach (song : Song) : Prop :=
  ∀ t ∈ song.tracks, (t.devices.filter isLooperDevice).length ≤ 1 ∧
    ∀ d ∈ t.devices, isLooperDevice d = true → readable d = true

/-! ### Positions of found devices -/

theorem looperAt_iff {song : Song} {i j : ℕ} :
    LooperAt song i j ↔ (i, j) ∈ (looperDevices song.tracks).map FoundDevice.position := by
  rw [List.mem_map]
  constructor
  · rintro ⟨d, hd, hloop⟩
    rw [Song.deviceAt?, Option.bind_eq_some_iff] at hd
    obtain ⟨t, ht, hd⟩ := hd
    exact ⟨⟨t, i, d, j⟩, mem_looperDevices.mpr ⟨ht, hd, hloop⟩, rfl⟩
  · rintro ⟨⟨t, i', d, j'⟩, hf, heq⟩
    cases heq
    obtain ⟨ht, hd, hloop⟩ := mem_looperDevices.mp hf
    refine ⟨d, ?_, hloop⟩
    rw [Song.deviceAt?, ht]
    exact hd

theorem length_looperDevices (song : Song) :
    (looperDevices song.tracks).length = countLooperDevices song isLooperDevice := by
  rw [countLooperDevices_eq, ← map_device_looperDevices, List.length_map]

/-- At most one looper-like device on each track: no track index is listed twice. -/
theorem nodup_trackIdx_iff (tracks : List Track) :
    ((looperDevices tracks).map FoundDevice.trackIdx).Nodup ↔
      ∀ t ∈ tracks, (t.devices.filter isLooperDevice).length ≤ 1 := by
  have hinner : ∀ t : Track × ℕ, (((t.1.devices.zipIdx.filter fun d => isLooperDevice d.1).map
      fun d => (⟨t.1, t.2, d.1, d.2⟩ : FoundDevice)).map FoundDevice.trackIdx) =
        List.replicate (t.1.devices.filter isLooperDevice).length t.2 := by
    intro t
    have hlen : (t.1.devices.zipIdx.filter fun d => isLooperDevice d.1).length =
        (t.1.devices.filter isLooperDevice).length := by
      conv_rhs => rw [← List.zipIdx_map_fst 0 t.1.devices, List.filter_map, List.length_map]
      rfl
    rw [List.map_map, ← hlen]
    exact List.map_const'
  rw [looperDevices, List.map_flatMap, List.nodup_flatMap]
  simp only [hinner, List.nodup_replicate]
  constructor
  · rintro ⟨h, -⟩ t ht
    rw [← List.zipIdx_map_fst 0 tracks, List.mem_map] at ht
    obtain ⟨entry, hentry, rfl⟩ := ht
    exact h entry hentry
  · intro h
    refine ⟨fun entry hentry => h entry.1 ?_, ?_⟩
    · rw [← List.zipIdx_map_fst 0 tracks]
      exact List.mem_map_of_mem hentry
    · refine (pairwise_zipIdx tracks).imp fun {a b} hab => ?_
      refine List.disjoint_left.mpr fun x hxa hxb => hab.ne ?_
      rw [← (List.mem_replicate.mp hxa).2, (List.mem_replicate.mp hxb).2]

/-! ### Entries of a scan -/

private theorem map_ids {l : List FoundDevice} {infos : List LooperInfo}
    (h : List.Forall₂ (fun f info => f.read = .ok info) l infos) :
    infos.map (fun info => (info.trackId, info.deviceId)) =
      l.map fun f => (toString f.trackIdx, toString f.deviceIdx) := by
  induction h with
  | nil => rfl
  | cons hread _ ih =>
    obtain ⟨ht, -, hd, -⟩ := read_ids hread
    rw [List.map_cons, List.map_cons, ih, ht, hd]

/-- With one looper a track, a scan has the dictionary of every found device, in order. -/
theorem items_scanResult {song : Song}
    (hone : ∀ t ∈ song.tracks, (t.devices.filter isLooperDevice).length ≤ 1)
    {found : Dict String LooperInfo} (h : scanResult song = .ok found) :
    ∃ infos, List.Forall₂ (fun f info => f.read = .ok info) (looperDevices song.tracks) infos ∧
      found.items = byTrackId infos := by
  rw [scanResult] at h
  rcases hr : readAll (looperDevices song.tracks) with e | infos
  · rw [hr] at h
    cases h
  · rw [hr] at h
    cases h
    have hall := readAll_ok_iff.mp hr
    refine ⟨infos, hall, ?_⟩
    have hkeys : (byTrackId infos).map Prod.fst =
        ((looperDevices song.tracks).map FoundDevice.trackIdx).map toString := by
      have hfst := congrArg (List.map Prod.fst) (map_ids hall)
      rw [List.map_map, List.map_map] at hfst
      rw [byTrackId, List.map_map, List.map_map]
      exact hfst
    have hnd : ((∅ : Dict String LooperInfo).keys ++ (byTrackId infos).map Prod.fst).Nodup := by
      rw [hkeys]
      exact ((nodup_trackIdx_iff song.tracks).mpr hone).map fun _ _ h => toString_injective h
    exact Dict.items_insertAll_of_nodup hnd

theorem exactEntries_of_oneEach {song : Song}
    (hone : ∀ t ∈ song.tracks, (t.devices.filter isLooperDevice).length ≤ 1)
    {found : Dict String LooperInfo} (h : scanResult song = .ok found) :
    ExactEntries song found := by
  obtain ⟨infos, hall, hitems⟩ := items_scanResult hone h
  -- Entries are in the order of the devices, so that they are counted by position.
  have hcount : ∀ i j, found.items.countP (fun item => item.2.names i j) =
      ((looperDevices song.tracks).map FoundDevice.position).count (i, j) := by
    intro i j
    have hnames : found.items.countP (fun item => item.2.names i j) =
        (infos.map fun info => (info.trackId, info.deviceId)).countP fun p =>
          decide (p.1 = toString i ∧ p.2 = toString j) := by
      rw [hitems, byTrackId, List.countP_map, List.countP_map]
      rfl
    rw [hnames, map_ids hall, List.countP_map, List.count, List.countP_map]
    refine List.countP_congr fun f _ => ?_
    simp only [Function.comp_apply, FoundDevice.position, decide_eq_true_eq, beq_iff_eq,
      Prod.mk.injEq]
    exact and_congr ⟨fun h => toString_injective h, fun h => by rw [h]⟩
      ⟨fun h => toString_injective h, fun h => by rw [h]⟩
  refine ⟨fun i j hij => ?_, fun item hitem => ?_, ?_⟩
  · rw [hcount, List.count_eq_one_of_mem (nodup_positions song.tracks) (looperAt_iff.mp hij)]
  · obtain ⟨f, hf, hread, -⟩ := mem_scanResult h (Dict.get?_eq_some_iff.mpr hitem)
    obtain ⟨ht, -, hd, -⟩ := read_ids hread
    refine ⟨f.trackIdx, f.deviceIdx, looperAt_iff.mpr (List.mem_map_of_mem hf), ?_⟩
    simp [LooperInfo.names, ht, hd]
  · rw [Dict.size, hitems, byTrackId, List.length_map, ← hall.length_eq, length_looperDevices]

/-- The event that pushes an entry names what the entry names. -/
theorem discovers_discoveredEvent (port : ℤ) (info : LooperInfo) (i j : ℕ) :
    Datagram.discovers i j ⟨port, oscPrefix ++ "/event", discoveredEvent info⟩ =
      info.names i j := by
  simp [Datagram.discovers, discoveredEvent, eventMessage, LooperInfo.toJson, LooperInfo.names]

theorem ExactEntries.events {song : Song} {found : Dict String LooperInfo} {b : BridgeServer}
    {port : ℤ} (h : ExactEntries song found) (htarget : b.target = some port) :
    ExactEvents song (announcements b found.items) := by
  have hmap : announcements b found.items = found.items.map fun item =>
      ⟨port, oscPrefix ++ "/event", discoveredEvent item.2⟩ := by
    rw [announcements, htarget]
    simp
  rw [hmap]
  refine ⟨fun i j hij => ?_, fun d hd => ?_⟩
  · -- Events and entries correspond one to one.
    rw [List.countP_map, ← h.one i j hij]
    exact List.countP_congr fun item _ => by
      rw [Function.comp_apply, discovers_discoveredEvent]
  · obtain ⟨item, hitem, rfl⟩ := List.mem_map.mp hd
    obtain ⟨i, j, hij, hnames⟩ := h.only item hitem
    exact ⟨i, j, hij, by rw [discovers_discoveredEvent, hnames]⟩

/-- A scan with an entry for every looper-like device has no two on one track. -/
theorem ExactEntries.one_each {song : Song} {found : Dict String LooperInfo}
    (h : ExactEntries song found) (hscan : scanResult song = .ok found) :
    ∀ t ∈ song.tracks, (t.devices.filter isLooperDevice).length ≤ 1 := by
  rw [← nodup_trackIdx_iff]
  refine List.Nodup.map_on ?_ (nodup_positions song.tracks).of_map
  -- Two devices on one track have their entries under one key, hence one entry.
  intro f hf g hg hfg
  have hentry : ∀ f ∈ looperDevices song.tracks, ∃ info,
      found.get? (toString f.trackIdx) = some info ∧ info.deviceId = toString f.deviceIdx := by
    intro f hf
    have hone := h.one f.trackIdx f.deviceIdx (looperAt_iff.mpr (List.mem_map_of_mem hf))
    obtain ⟨item, hitem, hnames⟩ := List.countP_pos_iff.mp (hone ▸ Nat.one_pos)
    simp only [LooperInfo.names, decide_eq_true_eq] at hnames
    have hget := Dict.get?_eq_some_iff.mpr hitem
    obtain ⟨i, -, hk, hi, -⟩ := Script.entryOk_of_scanResult hscan hget
    refine ⟨item.2, ?_, hnames.2⟩
    rw [← hnames.1, hi, ← hk]
    exact hget
  obtain ⟨infof, hgetf, hdf⟩ := hentry f hf
  obtain ⟨infog, hgetg, hdg⟩ := hentry g hg
  rw [hfg, hgetg, Option.some_inj] at hgetf
  have hdev : f.deviceIdx = g.deviceIdx := toString_injective (by rw [← hdf, ← hdg, hgetf])
  exact List.inj_on_of_nodup_map (nodup_positions song.tracks) hf hg (Prod.ext hfg hdev)

/-- The discover command, on a song whose loopers can all be read. -/
theorem exec_discover {s : Script} {found : Dict String LooperInfo} (nsid args : Json)
    (h : scanResult s.live.song = .ok found) :
    exec (handleCommand (.str "looper") nsid (.str "discover") args) s =
      (.ok (some (discoverResult found)), scanned (silenced s) found) := by
  have hout := outcome_handleCommand s (.str "looper") nsid (.str "discover") args
  generalize exec (handleCommand _ _ _ _) s = outcome at hout ⊢
  cases hout with
  | discovered found' hns hname h' =>
    rw [h, Except.ok.injEq] at h'
    rw [h']
  | scanRaised e hns hname h' =>
    rw [h] at h'
    cases h'
  | noArgs e hns hwrite => simp [writeOf] at hwrite
  | refused answer hns hwrite => simp [writeOf] at hwrite
  | wrote key paramName info trackIdx deviceIdx i j k p v hns hwrite => simp [writeOf] at hwrite
  | other answer hne => exact absurd ⟨rfl, .inl rfl⟩ hne

/-- **No looper is lost exactly when no track has two**, and each one can be read. -/
theorem noLooperLost_iff (song : Song) : NoLooperLost song ↔ OneEach song := by
  constructor
  · rintro ⟨hscan, -⟩
    obtain ⟨found, hfound, hexact⟩ := hscan (Script.fresh song) rfl
    rw [exec_scanAllTracks] at hfound
    have hread := allReadable_of_scanResult hfound
    exact fun t ht => ⟨hexact.one_each hfound t ht, hread t ht⟩
  · intro h
    have hread : AllReadable song := fun t ht => (h t ht).2
    obtain ⟨found, hfound⟩ := exists_scanResult_iff.mpr hread
    have hexact : ExactEntries song found :=
      exactEntries_of_oneEach (fun t ht => (h t ht).1) hfound
    constructor
    · rintro s rfl
      exact ⟨found, by rw [exec_scanAllTracks, hfound], hexact⟩
    · rintro s nsid args port rfl htarget
      refine ⟨_, _, announcements s.server found.items, exec_discover nsid args hfound, ?_, ?_,
        hexact.events htarget⟩
      · rw [discoverResult, hexact.size]
        rfl
      · rw [scanned_sent]
        rfl

/-- A track with two loopers. -/
def twoLoopers : Song :=
  ⟨[⟨0, "Guitar", [⟨0, "Looper", "Looper", [], true⟩, ⟨1, "Looper 2", "Looper", [], true⟩]⟩],
    by decide⟩

/-- **The second looper of a track hides the first.** -/
theorem not_noLooperLost : ¬∀ song, NoLooperLost song := by
  intro h
  obtain ⟨found, hfound, hexact⟩ := (h twoLoopers).1 (Script.fresh twoLoopers) rfl
  rw [exec_scanAllTracks] at hfound
  have hsize : (scanResult twoLoopers).map Dict.size = .ok 1 := by decide +kernel
  have hcount : countLooperDevices twoLoopers isLooperDevice = 2 := by decide +kernel
  have hfound' : scanResult twoLoopers = .ok found := hfound
  rw [hfound', Except.map, Except.ok.injEq, hexact.size, hcount] at hsize
  exact absurd hsize (by decide)

end LooperControl
