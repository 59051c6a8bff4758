import LooperControl.Script.Steps

/-!
# Which looper a change is reported for

A listener captures the track and the device it was made for, but the callback looks both up
again by name. `reportedOnce_iff` says when the search comes back to the device that changed:
exactly when no looper-like device that stands earlier in the song has the same name on a
track of the same name.
-/

namespace LooperControl

open LooperDiscovery LooperControlSurface Script

/-! ### Values are not names -/

theorem isLooperDevice_withValue (k : ℕ) (v : Double) (d : Device) :
    isLooperDevice (d.withValue k v) = isLooperDevice d := by
  have hnames : (d.withValue k v).params.map Param.name = d.params.map Param.name :=
    map_modify_eq (f := fun p : Param => { p with value := v }) (fun _ => rfl) d.params k
  have hparams : (d.withValue k v).parameters.map (List.map Param.name) =
      d.parameters.map (List.map Param.name) := by
    have hreadable : (d.withValue k v).readable = d.readable := rfl
    rw [Device.parameters, Device.parameters, hreadable]
    by_cases hr : d.readable = true
    · rw [if_pos hr, if_pos hr, Option.map_some, Option.map_some, hnames]
    · rw [if_neg hr, if_neg hr]
  have hclass : (d.withValue k v).className = d.className := rfl
  rw [isLooperDevice, isLooperDevice, hclass]
  rcases h : d.parameters with _ | params
  · rw [h, Option.map_none, Option.map_eq_none_iff] at hparams
    rw [hparams]
  · rw [h, Option.map_some, Option.map_eq_some_iff] at hparams
    obtain ⟨params', h', hmap⟩ := hparams
    rw [h']
    simp only [hmap]

/-- What the search by names sees of a device. -/
def LooperDiscovery.FoundDevice.signature (f : FoundDevice) : String × String × ℕ × ℕ :=
  (f.track.name, f.device.name, f.position)

theorem mem_signatures {tracks : List Track} {x : String × String × ℕ × ℕ} :
    x ∈ (looperDevices tracks).map FoundDevice.signature ↔
      ∃ t d, tracks[x.2.2.1]? = some t ∧ t.devices[x.2.2.2]? = some d ∧
        isLooperDevice d = true ∧ t.name = x.1 ∧ d.name = x.2.1 := by
  rw [List.mem_map]
  constructor
  · rintro ⟨f, hf, rfl⟩
    obtain ⟨ht, hd, hloop⟩ := mem_looperDevices.mp hf
    exact ⟨f.track, f.device, ht, hd, hloop, rfl, rfl⟩
  · rintro ⟨t, d, ht, hd, hloop, hname, hname'⟩
    exact ⟨⟨t, x.2.2.1, d, x.2.2.2⟩, mem_looperDevices.mpr ⟨ht, hd, hloop⟩,
      by rw [FoundDevice.signature, hname, hname']; rfl⟩

theorem signatures_withValue (tracks : List Track) (i j k : ℕ) (v : Double)
    {x : String × String × ℕ × ℕ} :
    x ∈ (looperDevices (withValue tracks i j k v)).map FoundDevice.signature ↔
      x ∈ (looperDevices tracks).map FoundDevice.signature := by
  obtain ⟨tn, dn, a, b⟩ := x
  rw [mem_signatures, mem_signatures, withValue, List.getElem?_modify]
  rcases ht : tracks[a]? with _ | t
  · simp
  by_cases ha : i = a
  · rcases hd : t.devices[b]? with _ | d
    · simp [ha, Track.withValue, List.getElem?_modify, hd]
    · by_cases hb : j = b
      · simp [ha, hb, Track.withValue, hd, isLooperDevice_withValue]
      · simp [ha, hb, Track.withValue, hd]
  · simp [ha]

theorem trackName?_setValue (song : Song) (i j k : ℕ) (v : Double) (track : ℕ) :
    (song.setValue i j k v).trackName? track = song.trackName? track := by
  have hmap : ∀ tracks : List Track,
      ((tracks.find? fun t => t.id = track).map Track.name) =
        ((tracks.map fun t => (t.id, t.name)).find? fun p => p.1 = track).map Prod.snd := by
    intro tracks
    rw [List.find?_map, Option.map_map]
    rfl
  rw [Song.trackName?, Song.trackName?, hmap, hmap]
  congr 2
  exact map_modify_eq (f := Track.withValue j k v) (fun _ => rfl) song.tracks i

theorem deviceName?_setValue (song : Song) (i j k : ℕ) (v : Double) (device : ℕ) :
    (song.setValue i j k v).deviceName? device = song.deviceName? device := by
  have hmap : ∀ tracks : List Track,
      (((tracks.flatMap Track.devices).find? fun d => d.id = device).map Device.name) =
        (((tracks.map fun t => t.devices.map fun d => (d.id, d.name)).flatten).find? fun p =>
          p.1 = device).map Prod.snd := by
    intro tracks
    rw [← List.flatMap_def, ← List.map_flatMap, List.find?_map, Option.map_map]
    rfl
  rw [Song.deviceName?, Song.deviceName?, hmap, hmap]
  congr 3
  refine map_modify_eq (f := Track.withValue j k v) (fun t => ?_) song.tracks i
  exact map_modify_eq (f := Device.withValue k v) (fun _ => rfl) t.devices j

/-- The name of a track object, for one that stands in the song. -/
theorem trackName?_of_getElem? {song : Song} {i : ℕ} {t : Track} (h : song.tracks[i]? = some t) :
    song.trackName? t.id = some t.name := by
  obtain ⟨htracks, -, -⟩ := song.wellFormed
  rw [List.map_map] at htracks
  have hmem := List.mem_of_getElem? h
  rcases hfind : song.tracks.find? fun u => u.id = t.id with _ | u
  · exact absurd (List.find?_eq_none.mp hfind t hmem) (by simp)
  · have heq : u.id = t.id := by simpa using List.find?_some hfind
    rw [Song.trackName?, hfind,
      List.inj_on_of_nodup_map htracks (List.mem_of_find?_eq_some hfind) hmem heq]
    rfl

/-- The name of a device object, for one that stands in the song. -/
theorem deviceName?_of_deviceAt? {song : Song} {i j : ℕ} {d : Device}
    (h : song.deviceAt? i j = some d) : song.deviceName? d.id = some d.name := by
  obtain ⟨-, hdevices, -⟩ := song.wellFormed
  have hids : ((song.tracks.flatMap Track.devices).map Device.id).Nodup := by
    rw [List.flatMap_map, List.map_flatMap] at hdevices
    rw [List.map_flatMap]
    convert hdevices using 3
    simp [Track.ids, Function.comp_def]
  rw [Song.deviceAt?, Option.bind_eq_some_iff] at h
  obtain ⟨t, ht, hd⟩ := h
  have hmem : d ∈ song.tracks.flatMap Track.devices :=
    List.mem_flatMap.mpr ⟨t, List.mem_of_getElem? ht, List.mem_of_getElem? hd⟩
  rcases hfind : (song.tracks.flatMap Track.devices).find? fun e => e.id = d.id with _ | e
  · exact absurd (List.find?_eq_none.mp hfind d hmem) (by simp)
  · have heq : e.id = d.id := by simpa using List.find?_some hfind
    rw [Song.deviceName?, hfind,
      List.inj_on_of_nodup_map hids (List.mem_of_find?_eq_some hfind) hmem heq]
    rfl

/-! ### The search by names -/

/-- No looper-like device that stands before a position has the two names. -/
def FirstNamed (song : Song) (trackName deviceName : String) (i j : ℕ) : Prop :=
  ∀ f ∈ looperDevices song.tracks, f.track.name = trackName → f.device.name = deviceName →
    ¬Precedes f.position (i, j)

theorem firstNamed_setValue (song : Song) (i j k : ℕ) (v : Double) {trackName deviceName : String}
    {a b : ℕ} : FirstNamed (song.setValue i j k v) trackName deviceName a b ↔
      FirstNamed song trackName deviceName a b := by
  have hsig : ∀ song : Song, FirstNamed song trackName deviceName a b ↔
      ∀ x ∈ (looperDevices song.tracks).map FoundDevice.signature, x.1 = trackName →
        x.2.1 = deviceName → ¬Precedes x.2.2 (a, b) := by
    intro song
    rw [FirstNamed, List.forall_mem_map]
    rfl
  rw [hsig, hsig]
  exact forall_congr' fun x => by rw [Song.setValue, signatures_withValue]

/-- The search finds a device that bears the names exactly when none before it does. -/
theorem findByName_eq_some_iff {song : Song} {f : FoundDevice} {trackName deviceName : String}
    (hf : f ∈ looperDevices song.tracks) (ht : f.track.name = trackName)
    (hd : f.device.name = deviceName) :
    findByName song.tracks trackName deviceName = some f ↔
      FirstNamed song trackName deviceName f.trackIdx f.deviceIdx := by
  have hsorted := pairwise_looperDevices song.tracks
  have hirrefl : ∀ a : ℕ × ℕ, ¬Precedes a a := by
    rintro a (h | ⟨-, h⟩) <;> exact Nat.lt_irrefl _ h
  have hasymm : ∀ a b : ℕ × ℕ, Precedes a b → ¬Precedes b a := by
    rintro ⟨a₁, a₂⟩ ⟨b₁, b₂⟩ h h'
    simp only [Precedes] at h h'
    omega
  rw [findByName_eq]
  -- The devices are listed in the order of their positions, so that first found is first placed.
  constructor
  · intro hfind g hg hgt hgd
    obtain ⟨-, before, after, hsplit, hbefore⟩ := List.find?_eq_some_iff_append.mp hfind
    rw [hsplit, List.mem_append, List.mem_cons] at hg
    rw [hsplit, List.pairwise_append] at hsorted
    rcases hg with hg | rfl | hg
    · exact absurd (hbefore g hg) (by simp [hgt, hgd])
    · exact hirrefl _
    · exact hasymm _ _ ((List.pairwise_cons.mp hsorted.2.1).1 g hg)
  · intro hfirst
    rcases hfind : (looperDevices song.tracks).find? fun g =>
        g.track.name = trackName ∧ g.device.name = deviceName with _ | g
    · exact absurd (List.find?_eq_none.mp hfind f hf) (by simp [ht, hd])
    · obtain ⟨hnames, before, after, hsplit, hbefore⟩ := List.find?_eq_some_iff_append.mp hfind
      simp only [decide_eq_true_eq] at hnames
      rw [hsplit, List.mem_append, List.mem_cons] at hf
      rcases hf with hf | rfl | hf
      · exact absurd (hbefore f hf) (by simp [ht, hd])
      · exact hfind
      · rw [hsplit, List.pairwise_append] at hsorted
        have hgf := (List.pairwise_cons.mp hsorted.2.1).1 f hf
        refine absurd hgf (hfirst g ?_ hnames.1 hnames.2)
        rw [hsplit]
        exact List.mem_append_right _ List.mem_cons_self

/-! ### The report -/

/-- Between two states one event is sent, and its data is the device at a position, as it is
read in the song afterwards. -/
def ReportedOnce (s t : Script) (i j : ℕ) : Prop :=
  ∃ track device info port, t.live.song.tracks[i]? = some track ∧
    track.devices[j]? = some device ∧ readLooperState track i device j = .ok info ∧
      t.sent = s.sent ++ [⟨port, oscPrefix ++ "/event", changedEvent info⟩]

/-- The search by names comes back to a device, and the device can be read and reported. -/
structure FoundAgain (s : Script) (listener : Listener) (track : Track) (device : Device)
    (i j k : ℕ) (v : Double) : Prop where
  captured : s.live.song.trackName? listener.track = some track.name
  first : FirstNamed s.live.song track.name device.name i j
  readable : readable (device.withValue k v) = true
  port : s.server.target.isSome

/-- In a consistent script a parameter has no listener but one. -/
theorem listenersOf_eq {s : Script} (hs : Consistent s) {l : Listener}
    (hl : l ∈ s.live.attached) : s.live.listenersOf l.param = [l] := by
  have hall : ∀ m ∈ s.live.listenersOf l.param, m = l := by
    intro m hm
    rw [Live.listenersOf, List.mem_filter, decide_eq_true_eq] at hm
    exact List.inj_on_of_nodup_map hs.once hm.1 hl hm.2
  -- It is listed, and at most once.
  have hmem : l ∈ s.live.listenersOf l.param := by
    rw [Live.listenersOf, List.mem_filter]
    exact ⟨hl, by simp⟩
  have hnd : (s.live.listenersOf l.param).Nodup := hs.once.of_map.filter _
  rcases h : s.live.listenersOf l.param with _ | ⟨m, _ | ⟨n, rest⟩⟩
  · rw [h] at hmem
    cases hmem
  · rw [h] at hall
    rw [hall m List.mem_cons_self]
  · rw [h] at hall hnd
    have hmn : m = n := by
      rw [hall m List.mem_cons_self, hall n (List.mem_cons_of_mem _ List.mem_cons_self)]
    exact absurd List.mem_cons_self (hmn ▸ (List.nodup_cons.mp hnd).1)

private theorem ids_of_changedEvent {info info' : LooperInfo}
    (h : changedEvent info = changedEvent info') :
    info.trackId = info'.trackId ∧ info.deviceId = info'.deviceId := by
  simp only [changedEvent, eventMessage, LooperInfo.toJson, Json.obj.injEq, List.cons.injEq,
    Prod.mk.injEq, Json.str.injEq] at h
  tauto

/-- A listener's own device, and the name it bears. -/
private theorem deviceName?_listener {song : Song} {i j k : ℕ} {track : Track} {device : Device}
    {param : Param} {l : Listener} (ht : song.tracks[i]? = some track)
    (hd : track.devices[j]? = some device) (hp : device.params[k]? = some param)
    (hlp : l.param = param.id) : song.deviceName? l.param.device = some device.name := by
  have hat : song.deviceAt? i j = some device := by
    rw [Song.deviceAt?, ht]
    exact hd
  have hdevice : param.id.device = device.id := device_of_deviceAt? hat hp
  rw [hlp, hdevice, deviceName?_of_deviceAt? hat]

/-- What is reported of a looper that stands in a song is its own dictionary exactly when the
search by names comes back to it. -/
theorem reported_self_iff {song : Song} {l : Listener} {f : FoundDevice}
    (hf : f ∈ looperDevices song.tracks)
    (hname : song.deviceName? l.param.device = some f.device.name) (info : LooperInfo) :
    (reported song l = some info ∧ info.trackId = toString f.trackIdx ∧
        info.deviceId = toString f.deviceIdx) ↔
      song.trackName? l.track = some f.track.name ∧
        FirstNamed song f.track.name f.device.name f.trackIdx f.deviceIdx ∧
          f.read = .ok info := by
  constructor
  · rintro ⟨hreported, htid, hdid⟩
    obtain ⟨trackName, htn, deviceName, hdn, g, hg, hread⟩ := reported_eq_some_iff.mp hreported
    have hfind := hg
    rw [findByName_eq] at hg
    have hnames : g.track.name = trackName ∧ g.device.name = deviceName := by
      simpa using List.find?_some hg
    -- What the search found stands at the position of the device.
    obtain ⟨hgt, -, hgd, -⟩ := read_ids hread
    have hposition : g.position = f.position :=
      Prod.ext (toString_injective (hgt.symm.trans htid)) (toString_injective (hgd.symm.trans hdid))
    obtain rfl : g = f := List.inj_on_of_nodup_map (nodup_positions song.tracks)
      (List.mem_of_find?_eq_some hg) hf hposition
    rw [← hnames.1] at htn
    rw [← hnames.1, ← hnames.2] at hfind
    exact ⟨htn, (findByName_eq_some_iff hf rfl rfl).mp hfind, hread⟩
  · rintro ⟨htn, hfirst, hread⟩
    obtain ⟨htid, -, hdid, -⟩ := read_ids hread
    have hfind := (findByName_eq_some_iff hf rfl rfl).mpr hfirst
    exact ⟨reported_eq_some_iff.mpr ⟨_, htn, _, hname, f, hfind, hread⟩, htid, hdid⟩

/-- **A change is reported once, and for the device that changed**, exactly when the search by
names comes back to it. -/
theorem reportedOnce_iff {s t : Script} (hs : Reachable s) {i j k : ℕ} {v : Double}
    {track : Track} {device : Device} {param : Param} {l : Listener}
    (ht : s.live.song.tracks[i]? = some track) (hd : track.devices[j]? = some device)
    (hloop : isLooperDevice device = true) (hp : device.params[k]? = some param)
    (hl : l ∈ s.live.attached) (hlp : l.param = param.id)
    (hstep : s.step (.setParam i j k v) = some t) :
    ReportedOnce s t i j ↔ FoundAgain s l track device i j k v := by
  have ht' : t = assigned s i j k param v := by
    have hat : s.live.song.paramAt? i j k = some param := by
      rw [Song.paramAt?, Song.deviceAt?, ht, Option.bind_some, hd, Option.bind_some, hp]
    obtain ⟨p, hp', rfl⟩ := step_setParam hstep
    rw [hat, Option.some_inj] at hp'
    rw [hp']
  have hsent : t.sent = s.sent ++ reports s.server (s.live.song.setValue i j k v) [l] := by
    rw [ht', assigned_eq, ← hlp, listenersOf_eq hs.consistent hl]
  have hsong : t.live.song = s.live.song.setValue i j k v := by
    rw [ht', assigned_eq]
    rfl
  -- The device that changed, after the change.
  let f : FoundDevice := ⟨track.withValue j k v, i, device.withValue k v, j⟩
  have htrack : (s.live.song.setValue i j k v).tracks[i]? = some f.track := by
    simp [f, Song.setValue, withValue, ht]
  have hdevice : f.track.devices[j]? = some f.device := by
    simp [f, Track.withValue, hd]
  have hf : f ∈ looperDevices (s.live.song.setValue i j k v).tracks := by
    refine mem_looperDevices.mpr ⟨htrack, hdevice, ?_⟩
    rw [isLooperDevice_withValue, hloop]
  have hname := deviceName?_listener ht hd hp hlp
  rw [← deviceName?_setValue (i := i) (j := j) (k := k) (v := v)] at hname
  have hself := reported_self_iff (l := l) hf hname
  simp only [trackName?_setValue, firstNamed_setValue] at hself
  constructor
  · rintro ⟨track', device', info, port, -, -, hread, hsent'⟩
    rw [hsent, List.append_cancel_left_eq, reports] at hsent'
    rcases htarget : s.server.target with _ | port'
    · simp [htarget] at hsent'
    rcases hrep : reported (s.live.song.setValue i j k v) l with _ | info'
    · simp [htarget, hrep] at hsent'
    have hevent : changedEvent info' = changedEvent info := by
      simp [htarget, hrep] at hsent'
      exact hsent'.2
    obtain ⟨htid, hdid⟩ := ids_of_changedEvent hevent
    obtain ⟨hit, -, hid, -⟩ := read_ids (f := ⟨track', i, device', j⟩) hread
    obtain ⟨hcaptured, hfirst, hfread⟩ :=
      (hself info').mp ⟨hrep, htid.trans hit, hdid.trans hid⟩
    exact ⟨hcaptured, hfirst, exists_read_iff.mp ⟨info', hfread⟩, by simp [htarget]⟩
  · rintro ⟨hcaptured, hfirst, hreadable, hport⟩
    obtain ⟨port, hport⟩ := Option.isSome_iff_exists.mp hport
    obtain ⟨info, hread⟩ := (exists_read_iff (f := f)).mpr hreadable
    have hrep := ((hself info).mpr ⟨hcaptured, hfirst, hread⟩).1
    refine ⟨f.track, f.device, info, port, by rw [hsong, htrack], hdevice, hread, ?_⟩
    rw [hsent, reports, hport]
    simp [hrep]

/-- The only looper of a song is found again. -/
theorem reportedOnce_oneLooper : ∃ t, (met oneLooper).step (.setParam 0 0 0 (.finite 1)) = some t ∧
    ReportedOnce (met oneLooper) t 0 0 := by
  refine ⟨_, rfl, (reportedOnce_iff (s := met oneLooper) (i := 0) (j := 0) (k := 0)
    (v := .finite 1) (l := ⟨0, 0, ⟨0, 0⟩⟩) (reachable_met rfl rfl) rfl rfl (by decide) rfl
    (by decide +kernel) rfl rfl).mpr ⟨by decide, ?_, by decide, by decide⟩⟩
  rintro f - - - (h | ⟨-, h⟩) <;> exact Nat.not_lt_zero _ h

/-- Two tracks of one name, each with a looper of one name. -/
def twins : Song :=
  ⟨[⟨0, "Guitar", [⟨0, "Looper", "Looper", [⟨⟨0, 0⟩, "State", .finite 0, fun _ => true, true⟩],
      true⟩]⟩,
    ⟨1, "Guitar", [⟨1, "Looper", "Looper", [⟨⟨1, 0⟩, "State", .finite 0, fun _ => true, true⟩],
      true⟩]⟩], by decide⟩

/-- The track a datagram's data names. -/
private def aboutTrack (d : Datagram) : Option Json :=
  (d.payload.get? "data").bind (Json.get? "track_id")

/-- **A change of the second twin is reported for the first.** -/
theorem not_reportedOnce : ¬∀ (s t : Script) (i j k : ℕ) (v : Double) (track : Track)
    (device : Device) (param : Param) (l : Listener), Reachable s →
      s.live.song.tracks[i]? = some track → track.devices[j]? = some device →
        isLooperDevice device = true → device.params[k]? = some param →
          l ∈ s.live.attached → l.param = param.id → s.step (.setParam i j k v) = some t →
            ReportedOnce s t i j := by
  intro h
  obtain ⟨track, device, info, port, -, -, hread, hsent⟩ := h (met twins) _ 1 0 0 (.finite 1) _ _ _
    ⟨1, 1, ⟨1, 0⟩⟩ (reachable_met rfl rfl) rfl rfl (by decide) rfl (by decide +kernel) rfl rfl
  have hreal : ((assigned (met twins) 1 0 0 ⟨⟨1, 0⟩, "State", .finite 0, fun _ => true, true⟩
      (.finite 1)).sent.map aboutTrack).getLast? = some (some (.str "0")) := by
    decide +kernel
  have hclaimed := congrArg (fun sent => (sent.map aboutTrack).getLast?) hsent
  have hinfo : info.trackId = toString 1 := (read_ids (f := ⟨track, 1, device, 0⟩) hread).1
  simp only [List.map_append, List.map_cons, List.map_nil, List.getLast?_concat] at hclaimed
  -- The event that was sent names track 0, the one that is claimed names track 1.
  have hlast := hreal.symm.trans hclaimed
  simp [aboutTrack, changedEvent, eventMessage, LooperInfo.toJson, hinfo] at hlast
  exact absurd hlast (by decide)

end LooperControl
