import LooperControl.System.Discovery

/-!
# Listeners on songs that change and devices that break

* `attached_perm_recorded`: whatever song listening starts and stops in, the listeners attached are
  the ones on record.
* `rescanSurvives_iff`: a rescan survives devices whose parameters cannot be read, unless one of
  them is a looper by its class name. The scan goes on to read such a device, and the exception
  ends it after all listeners have been taken off.
-/

namespace LooperControl

open Effect LooperControlSurface Script LooperDiscovery

/-! ### Starting, stopping and editing -/

/-- What happens to a discovery that listens: it starts, it stops, or the song becomes another one,
whatever the edit. -/
inductive Listens
  | start
  | stop
  | edit (song : Song)

/-- The script afterwards. -/
def Script.listens (s : Script) : Listens → Script
  | .start => (exec startListening s).2
  | .stop => (exec stopListening s).2
  | .edit song => s.edited song

theorem recorded_listens {s : Script} (h : Recorded s) (e : Listens) : Recorded (s.listens e) := by
  cases e with
  | start => exact recorded_startListening h
  | stop =>
    rw [Script.listens, exec_stopListening]
    exact recorded_silenced h
  | edit song => exact h

theorem recorded_foldl_listens {s : Script} (h : Recorded s) (es : List Listens) :
    Recorded (es.foldl Script.listens s) := by
  induction es generalizing s with
  | nil => exact h
  | cons e es ih => exact ih (recorded_listens h e)

/-- **Exact bookkeeping.** Starting, stopping and editing in any order leaves the listeners on
record attached and no others, and stopping once more leaves none. -/
theorem attached_perm_recorded {s : Script} (hattached : s.live.attached = [])
    (hrecord : s.discovery.paramListeners = ∅) (es : List Listens) :
    (es.foldl Script.listens s).live.attached.Perm (es.foldl Script.listens s).discovery.recorded ∧
      (exec stopListening (es.foldl Script.listens s)).2.live.attached = [] := by
  have hstart : Recorded s := by
    rw [Recorded, LooperDiscovery.recorded, hattached, hrecord]
    exact List.Perm.refl []
  have hrun := recorded_foldl_listens hstart es
  refine ⟨hrun, ?_⟩
  rw [exec_stopListening]
  exact attached_silenced hrun

/-- A looper that is deleted while it is listened to. -/
theorem attached_perm_recorded_deleted :
    let t := List.foldl Script.listens (fresh oneLooper) [.start, .edit .empty, .start]
    t.live.attached.Perm t.discovery.recorded ∧ (exec stopListening t).2.live.attached = [] :=
  attached_perm_recorded rfl rfl _

/-! ### Devices that break -/

/-- A device, or one that is no looper in the place of one that cannot be read. -/
def Device.mended (d : Device) : Device :=
  if d.readable then d else { d with className := "", params := [], readable := true }

/-- A track with the devices that cannot be read replaced. -/
def Track.mended (t : Track) : Track := { t with devices := t.devices.map Device.mended }

theorem Device.mended_id (d : Device) : d.mended.id = d.id := by
  rw [Device.mended]
  split <;> rfl

/-- Replacing devices does not make identities shared. -/
theorem wellFormed_mended {tracks : List Track} (h : WellFormed tracks) :
    WellFormed (tracks.map Track.mended) := by
  obtain ⟨htracks, hdevices, hparams⟩ := h
  have hids : ((tracks.map Track.mended).map Track.ids).flatMap Prod.snd =
      (tracks.flatMap Track.devices).map fun d => (d.id, d.mended.params.map Param.id) := by
    rw [List.map_map, List.flatMap_map, List.map_flatMap]
    refine List.flatMap_congr fun t _ => ?_
    change (t.devices.map Device.mended).map (fun d => (d.id, d.params.map Param.id)) = _
    rw [List.map_map]
    exact List.map_congr_left fun d _ => Prod.ext d.mended_id rfl
  have hids' : (tracks.map Track.ids).flatMap Prod.snd =
      (tracks.flatMap Track.devices).map fun d => (d.id, d.params.map Param.id) := by
    rw [List.flatMap_map, List.map_flatMap]
    rfl
  rw [hids', List.map_map] at hdevices
  rw [hids'] at hparams
  refine ⟨?_, ?_, ?_⟩
  · rw [List.map_map] at htracks ⊢
    rw [List.map_map]
    exact htracks
  · rw [hids, List.map_map]
    exact hdevices
  · rw [hids]
    simp only [List.forall_mem_map] at hparams ⊢
    intro d hd
    rw [Device.mended]
    split
    · exact hparams d hd
    · exact ⟨List.nodup_nil, List.forall_mem_nil _⟩

/-- A song with the devices that cannot be read replaced by devices that are no loopers. -/
def Song.mended (song : Song) : Song :=
  ⟨song.tracks.map Track.mended, wellFormed_mended song.wellFormed⟩

/-- Every watched parameter of the looper-like devices that can be read has a listener. -/
def Installed (song : Song) (t : Script) : Prop :=
  ∀ w ∈ watchedParams song.tracks, w.1.device.readable = true →
    w.2.id ∈ t.live.attached.map Listener.param

/-- A rescan survives: the scan returns what it would return with other devices in the place of
those that cannot be read, and all the others are listened to after a change of the tracks and after
a discover command. -/
structure RescanSurvives (s : Script) : Prop where
  scan : ∃ found, (exec scanAllTracks s).1 = .ok found ∧
    (exec scanAllTracks (s.edited s.live.song.mended)).1 = .ok found
  tracksChanged : Installed s.live.song (exec onTracksChanged s).2
  discover : ∀ nsid args, Installed s.live.song
    (exec (handleCommand (.str "looper") nsid (.str "discover") args) s).2

/-- The condition on a song: no device that cannot be read has the class name of a looper, no state
of another looper is an infinity or NaN, and none of its watched parameters refuses a listener. -/
structure RescanSurvivable (song : Song) : Prop where
  className : ∀ t ∈ song.tracks, ∀ d ∈ t.devices, d.readable = false → d.className ≠ "Looper"
  isFinite : ∀ f ∈ looperDevices song.tracks, f.device.readable = true →
    ∀ x ∈ valuesOf f.device "State", x.isFinite = true
  listenable : ∀ w ∈ watchedParams song.tracks, w.1.device.readable = true →
    w.2.listenable = true

/-! ### What a device that breaks looks like -/

/-- A device that cannot be read is looper-like by its class name alone. -/
theorem isLooperDevice_of_not_readable {d : Device} (h : d.readable = false) :
    isLooperDevice d = true ↔ d.className = "Looper" := by
  have hparameters : d.parameters = none := by
    rw [Device.parameters, h]
    rfl
  rw [isLooperDevice, hparameters]
  simp [looperParameterPatterns]

/-- A device in the place of another one is looper-like if that one is and can be read. -/
theorem isLooperDevice_mended (d : Device) :
    isLooperDevice d.mended = (isLooperDevice d && d.readable) := by
  rw [Device.mended]
  rcases d.readable with _ | _
  · simp [isLooperDevice, Device.parameters, looperParameterPatterns]
  · simp

/-- A found device on the track with the other devices replaced. -/
def LooperDiscovery.FoundDevice.mended (f : FoundDevice) : FoundDevice :=
  { f with track := f.track.mended }

/-- Replacing the devices that cannot be read leaves the looper-like devices that can. -/
theorem looperDevices_mended (tracks : List Track) :
    looperDevices (tracks.map Track.mended) =
      ((looperDevices tracks).filter fun f => f.device.readable).map FoundDevice.mended := by
  have hdevices : ∀ (t : Track) (i : ℕ) (l : List (Device × ℕ)),
      ((l.map (Prod.map Device.mended id)).filter fun d => isLooperDevice d.1).map
          (fun d => (⟨t.mended, i, d.1, d.2⟩ : FoundDevice)) =
        (((l.filter fun d => isLooperDevice d.1).map
          fun d => (⟨t, i, d.1, d.2⟩ : FoundDevice)).filter fun f => f.device.readable).map
            FoundDevice.mended := by
    intro t i l
    induction l with
    | nil => rfl
    | cons d l ih =>
      rw [List.map_cons, List.filter_cons, List.filter_cons]
      change (if isLooperDevice d.1.mended = true then _ else _ : List (Device × ℕ)).map _ = _
      rw [isLooperDevice_mended]
      rcases hloop : isLooperDevice d.1 with _ | _
      · exact ih
      rcases hreadable : d.1.readable with _ | _
      · simp only [Bool.and_false, Bool.false_eq_true, if_false, if_true, List.map_cons,
          List.filter_cons, hreadable]
        exact ih
      · have hmended : d.1.mended = d.1 := by rw [Device.mended, if_pos hreadable]
        simp only [Bool.and_true, if_true, List.map_cons, List.filter_cons, hreadable, Prod.map_fst,
          Prod.map_snd, hmended, ih]
        rfl
  have hzip : ∀ t : Track, t.mended.devices.zipIdx =
      t.devices.zipIdx.map (Prod.map Device.mended id) := fun t => List.zipIdx_map ..
  rw [looperDevices, looperDevices, List.zipIdx_map, List.flatMap_map, List.filter_flatMap,
    List.map_flatMap]
  refine List.flatMap_congr fun t _ => ?_
  change ((t.1.mended.devices.zipIdx.filter _).map _) = _
  rw [hzip]
  exact hdevices t.1 t.2 _

/-- Without a looper among the devices that cannot be read, a scan is the same with other devices in
their place. -/
theorem scanResult_mended {song : Song}
    (h : ∀ f ∈ looperDevices song.tracks, f.device.readable = true) :
    scanResult song.mended = scanResult song := by
  have hread : ∀ l : List FoundDevice, readAll (l.map FoundDevice.mended) = readAll l := by
    intro l
    induction l with
    | nil => rfl
    | cons f l ih =>
      rw [List.map_cons, readAll, readAll, ih]
      rfl
  have htracks : song.mended.tracks = song.tracks.map Track.mended := rfl
  rw [scanResult, scanResult, htracks, looperDevices_mended, List.filter_eq_self.mpr h, hread]

/-! ### When a rescan survives -/

/-- A full scan without listeners before it attaches one to each parameter that takes one. -/
theorem installed_scanned_iff {s : Script} {found : Dict String LooperInfo}
    (hattached : s.live.attached = []) : Installed s.live.song (scanned s found) ↔
      ∀ w ∈ watchedParams s.live.song.tracks, w.1.device.readable = true →
        w.2.listenable = true := by
  have hparams : (scanned s found).live.attached.map Listener.param =
      ((watchedParams s.live.song.tracks).filter fun w => w.2.listenable).map fun w => w.2.id := by
    have hnil : (pushed s found).live.attached = [] := hattached
    rw [scanned, params_foldl, hnil, List.map_nil, List.nil_append]
  rw [Installed, hparams]
  refine forall₂_congr fun w hw => imp_congr_right fun _ => ?_
  constructor
  · intro hmem
    obtain ⟨w', hw', hid⟩ := List.mem_map.mp hmem
    obtain ⟨hwatched, hlistenable⟩ := List.mem_filter.mp hw'
    -- No other watched parameter has the same identity.
    rw [← List.inj_on_of_nodup_map (nodup_watchedParams s.live.song) hwatched hw hid]
    exact hlistenable
  · intro hlistenable
    exact List.mem_map_of_mem (List.mem_filter.mpr ⟨hw, hlistenable⟩)

/-- The condition is that a scan does not raise, and that no parameter refuses a listener. -/
theorem rescanSurvivable_iff {song : Song} : RescanSurvivable song ↔ AllReadable song ∧
    ∀ w ∈ watchedParams song.tracks, w.1.device.readable = true → w.2.listenable = true := by
  rw [allReadable_iff]
  simp only [readable_iff]
  constructor
  · intro h
    refine ⟨fun f hf => ?_, h.listenable⟩
    obtain ⟨ht, hd, hloop⟩ := mem_looperDevices.mp hf
    have hreadable : f.device.readable = true := by
      by_contra hbroken
      rw [Bool.not_eq_true] at hbroken
      exact h.className _ (List.mem_of_getElem? ht) _ (List.mem_of_getElem? hd) hbroken
        ((isLooperDevice_of_not_readable hbroken).mp hloop)
    exact ⟨hreadable, h.isFinite f hf hreadable⟩
  · rintro ⟨hread, hlistenable⟩
    refine ⟨fun t ht d hd hbroken hname => ?_, fun f hf _ => (hread f hf).2, hlistenable⟩
    obtain ⟨i, hi⟩ := List.getElem?_of_mem ht
    obtain ⟨j, hj⟩ := List.getElem?_of_mem hd
    have hf : (⟨t, i, d, j⟩ : FoundDevice) ∈ looperDevices song.tracks :=
      mem_looperDevices.mpr ⟨hi, hj, (isLooperDevice_of_not_readable hbroken).mpr hname⟩
    exact Bool.false_ne_true (hbroken.symm.trans (hread _ hf).1)

/-- **A rescan survives** the devices that cannot be read exactly if none of them is a looper by its
class name, and nothing else goes wrong on the others. -/
theorem rescanSurvives_iff {s : Script} (hs : s.Reachable) (song : Song) :
    RescanSurvives (s.edited song) ↔ RescanSurvivable song := by
  have hattached : (silenced (s.edited song)).live.attached = [] :=
    attached_silenced (s := s.edited song) hs.consistent.recorded
  rw [rescanSurvivable_iff]
  constructor
  · intro h
    obtain ⟨found, hscan, -⟩ := h.scan
    rw [exec_scanAllTracks] at hscan
    have hinstalled := h.tracksChanged
    rw [exec_onTracksChanged, exec_fullScan_ok (s := silenced (s.edited song)) hscan] at hinstalled
    exact ⟨allReadable_of_scanResult hscan, (installed_scanned_iff hattached).mp hinstalled⟩
  · rintro ⟨hread, hlistenable⟩
    obtain ⟨found, hscan⟩ := exists_scanResult_iff.mpr hread
    have hinstalled : Installed song (scanned (silenced (s.edited song)) found) :=
      (installed_scanned_iff hattached).mpr hlistenable
    refine ⟨⟨found, ?_, ?_⟩, ?_, ?_⟩
    · rw [exec_scanAllTracks]
      exact hscan
    · have hreadable : ∀ f ∈ looperDevices song.tracks, f.device.readable = true :=
        fun f hf => (readable_iff.mp (allReadable_iff.mp hread f hf)).1
      rw [exec_scanAllTracks]
      exact (scanResult_mended hreadable).trans hscan
    · rw [exec_onTracksChanged, exec_fullScan_ok (s := silenced (s.edited song)) hscan]
      exact hinstalled
    · intro nsid args
      rw [exec_discover nsid args (s := s.edited song) hscan]
      exact hinstalled

/-- A song with a device that cannot be read, next to a looper. -/
def brokenDevice (className : String) : Song :=
  ⟨[⟨0, "Guitar", [⟨0, "Looper", "Looper", [⟨⟨0, 0⟩, "State", .finite 0, fun _ => true, true⟩,
    ⟨⟨0, 1⟩, "Feedback", .finite (1 / 2), fun _ => true, true⟩], true⟩]⟩,
    ⟨1, "Bass", [⟨1, "Broken", className, [], false⟩]⟩], by
  change WellFormedIds [(0, [(0, [⟨0, 0⟩, ⟨0, 1⟩])]), (1, [(1, [])])]
  decide⟩

/-- A broken device of another class does no harm. -/
theorem rescanSurvives_otherClass :
    RescanSurvives ((begun oneLooper).edited (brokenDevice "Delay")) ↔
      RescanSurvivable (brokenDevice "Delay") :=
  rescanSurvives_iff (.of_init (started_begun rfl)) _

/-- **A broken looper takes the others down with it.** -/
theorem not_rescanSurvives :
    ¬∀ (s : Script) (song : Song), s.Reachable → RescanSurvives (s.edited song) := by
  intro h
  obtain ⟨found, hscan, -⟩ :=
    (h (begun oneLooper) (brokenDevice "Looper") (.of_init (started_begun rfl))).scan
  rw [exec_scanAllTracks] at hscan
  have hresult : scanResult (brokenDevice "Looper") = .ok found := hscan
  exact absurd (allReadable_of_scanResult hresult) (by decide +kernel)

end LooperControl
