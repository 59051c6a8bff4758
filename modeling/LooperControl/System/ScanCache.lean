import LooperControl.Lib.Runs
import LooperControl.Script.Steps

/-!
# The cache of discovered loopers

`scan_all_tracks` returns its dictionaries under their track ids and files them in the cache under
the names of their tracks. Nothing ever leaves the cache. So `get_discovered_loopers` agrees with
the last scan only on songs that hide both: `matches_iff` says on which.
-/

namespace LooperControl

open Effect LooperDiscovery

namespace ScanCache

/-- A scan, or an edit, of which the song afterwards is all that matters. -/
inductive Event
  | scan
  | edit (song : Song)

/-- A script, with what its last scan returned. There is nothing if it raised, or if there was no
scan. -/
structure Scanned where
  script : Script
  last : Option (Dict String LooperInfo) := none

/-- The script after an event. -/
def next (w : Scanned) : Event → Scanned
  | .scan => ⟨(exec scanAllTracks w.script).2, (exec scanAllTracks w.script).1.toOption⟩
  | .edit song => { w with script := w.script.edited song }

/-- An event as a step. -/
def step (w : Scanned) (e : Event) (w' : Scanned) : Prop := w' = next w e

/-- The accessor returns the dictionary that the last scan returned. -/
def Agrees (w : Scanned) : Prop :=
  ∀ found, w.last = some found → ∃ cached,
    exec getDiscoveredLoopers w.script = (.ok cached, w.script) ∧ cached.view = found.view

/-- The condition on a scan, if it does not raise: every track with a looper has its own index for a
name, and every name in the cache is the index of a track with a looper. -/
def NamedByIndex (w : Scanned) : Event → Prop
  | .scan => AllReadable w.script.live.song →
      (∀ f ∈ looperDevices w.script.live.song.tracks, f.track.name = toString f.trackIdx) ∧
        ∀ name ∈ w.script.discovery.loopers.keys,
          ∃ f ∈ looperDevices w.script.live.song.tracks, toString f.trackIdx = name
  | .edit _ => True

/-! ### What a scan leaves in the cache -/

/-- The cache files every dictionary under the name of its track. -/
def Titled (s : Script) : Prop := Store.FiledBy LooperInfo.trackName s.discovery.loopers.view

/-- The cache after a scan that does not raise. -/
theorem view_rememberAll {l : List FoundDevice} {infos : List LooperInfo}
    (h : List.Forall₂ (fun f info => f.read = .ok info) l infos) (cache : Dict String LooperInfo) :
    (rememberAll cache l).view = cache.view.replay (Store.filed LooperInfo.trackName infos) := by
  induction h generalizing cache with
  | nil => rfl
  | @cons f info l infos hread _ ih =>
    obtain ⟨-, hname, -⟩ := read_ids hread
    rw [rememberAll, hread]
    dsimp only
    rw [ih, Dict.view_insert, ← hname]
    rfl

/-- A scan keeps the cache filed by names, also if it raises. -/
theorem titled_rememberAll (l : List FoundDevice) {cache : Dict String LooperInfo}
    (h : Store.FiledBy LooperInfo.trackName cache.view) :
    Store.FiledBy LooperInfo.trackName (rememberAll cache l).view := by
  induction l generalizing cache with
  | nil => exact h
  | cons f l ih =>
    rw [rememberAll]
    rcases hread : f.read with e | info
    · exact h
    · refine ih ?_
      rw [Dict.view_insert, ← (read_ids hread).2.1]
      exact h.replay [info]

/-- The names and the track ids that a scan reads, device by device. -/
theorem map_titles {l : List FoundDevice} {infos : List LooperInfo}
    (h : List.Forall₂ (fun f info => f.read = .ok info) l infos) :
    infos.map (fun info => (info.trackName, info.trackId)) =
      l.map fun f => (f.track.name, toString f.trackIdx) := by
  induction h with
  | nil => rfl
  | cons hread _ ih =>
    obtain ⟨hid, hname, -⟩ := read_ids hread
    rw [List.map_cons, List.map_cons, ih, hid, hname]

/-- Loopers with one track id have one track, and one name. -/
theorem name_eq_of_trackIdx {tracks : List Track} {f g : FoundDevice}
    (hf : f ∈ looperDevices tracks) (hg : g ∈ looperDevices tracks)
    (h : toString f.trackIdx = toString g.trackIdx) : f.track.name = g.track.name := by
  have hft := (mem_looperDevices.mp hf).1
  have hgt := (mem_looperDevices.mp hg).1
  rw [toString_injective h, hgt] at hft
  rw [Option.some.inj hft]

/-- **One scan.** What it returns is what is in the cache afterwards exactly if names are indices,
those that it finds and those that were there. -/
theorem view_rememberAll_eq_iff {s : Script} (hs : Titled s) {found : Dict String LooperInfo}
    (hscan : scanResult s.live.song = .ok found) :
    (rememberAll s.discovery.loopers (looperDevices s.live.song.tracks)).view = found.view ↔
      (∀ f ∈ looperDevices s.live.song.tracks, f.track.name = toString f.trackIdx) ∧
        ∀ name ∈ s.discovery.loopers.keys,
          ∃ f ∈ looperDevices s.live.song.tracks, toString f.trackIdx = name := by
  rw [scanResult] at hscan
  rcases hread : readAll (looperDevices s.live.song.tracks) with e | infos
  · rw [hread] at hscan
    cases hscan
  · rw [hread] at hscan
    cases hscan
    have hall := readAll_ok_iff.mp hread
    have htitles := map_titles hall
    -- Titles are the names and ids of the dictionaries, and of the devices as well.
    have hmem : ∀ p : String × String → Prop,
        (∀ info ∈ infos, p (info.trackName, info.trackId)) ↔
          ∀ f ∈ looperDevices s.live.song.tracks, p (f.track.name, toString f.trackIdx) := by
      intro p
      have h := congrArg (fun l => ∀ title ∈ l, p title) htitles
      simpa only [List.forall_mem_map, eq_iff_iff] using h
    have hsame : ∀ v ∈ infos, ∀ w ∈ infos, v.trackId = w.trackId → v.trackName = w.trackName := by
      refine (hmem fun a => ∀ w ∈ infos, a.2 = w.trackId → a.1 = w.trackName).mpr fun f hf => ?_
      refine (hmem fun b => toString f.trackIdx = b.2 → f.track.name = b.1).mpr fun g hg => ?_
      exact name_eq_of_trackIdx hf hg
    have hexists : ∀ name, (∃ info ∈ infos, info.trackId = name) ↔
        ∃ f ∈ looperDevices s.live.song.tracks, toString f.trackIdx = name := by
      intro name
      have h := (hmem fun title => title.2 ≠ name).not
      push Not at h
      exact h
    rw [view_rememberAll hall, Dict.view_insertAll]
    refine (Store.replay_filed_eq_iff hs hsame).trans (and_congr (hmem fun a => a.1 = a.2) ?_)
    refine forall_congr' fun name => ?_
    rw [hexists]
    exact imp_congr_left Dict.isSome_get?_iff

/-! ### Runs -/

variable {w w' : Scanned}

theorem agrees_iff_view : Agrees w ↔
    ∀ found, w.last = some found → w.script.discovery.loopers.view = found.view := by
  refine forall₂_congr fun found _ => ⟨?_, fun h => ⟨_, rfl, h⟩⟩
  rintro ⟨cached, hcached, hview⟩
  cases hcached
  exact hview

/-- **The step lemma**: the accessor agrees after a step exactly if the step passes the
condition. -/
theorem namedByIndex_iff_agrees {e : Event} (hw : Titled w.script ∧ Agrees w) (h : step w e w') :
    NamedByIndex w e ↔ Agrees w' := by
  obtain ⟨htitled, hagrees⟩ := hw
  obtain rfl := h
  rw [agrees_iff_view] at hagrees ⊢
  cases e with
  | edit song => exact iff_of_true trivial hagrees
  | scan =>
    rw [next, exec_scanAllTracks, NamedByIndex, ← exists_scanResult_iff]
    rcases hscan : scanResult w.script.live.song with e | found
    · exact iff_of_true nofun nofun
    · rw [← view_rememberAll_eq_iff htitled hscan]
      constructor
      · intro h found' hfound
        cases hfound
        exact h ⟨found, rfl⟩
      · rintro h -
        exact h found rfl

theorem Titled.next (h : Titled w.script) (e : Event) : Titled (next w e).script := by
  cases e with
  | edit song => exact h
  | scan =>
    rw [ScanCache.next, exec_scanAllTracks]
    exact titled_rememberAll _ h

/-- **The cache of the last scan.** From a new script on, `get_discovered_loopers` agrees with the
last scan after every step of a run exactly if every scan of the run passes the condition. -/
theorem agrees_iff {song : Song} {es : List Event} :
    Runs.Run (Runs.guarded NamedByIndex step) ⟨Script.fresh song, none⟩ es w ↔
      Runs.Run (Runs.checked (fun _ _ w => Agrees w) step) ⟨Script.fresh song, none⟩ es w := by
  refine Runs.run_guarded_iff_checked (P := fun w => Titled w.script ∧ Agrees w)
    (fun _ _ _ => namedByIndex_iff_agrees) (fun w e w' hw h hagrees => ⟨?_, hagrees⟩)
    ⟨nofun, nofun⟩
  rw [h]
  exact hw.1.next e

/-- **A name is not an index**: the first scan of a song with one looper. -/
theorem not_agrees : ¬∀ (song : Song) (es : List Event) (w : Scanned),
    Runs.Run step ⟨Script.fresh song, none⟩ es w → .scan ∈ es → Agrees w := by
  intro h
  have hagrees := h oneLooper [.scan] _ (.cons rfl (.nil _)) List.mem_cons_self
  rw [agrees_iff_view, next, exec_scanAllTracks] at hagrees
  -- The looper is on track 0, which is called Guitar.
  have hfound := congrFun (hagrees _ rfl) "Guitar"
  revert hfound
  decide +kernel

end ScanCache

end LooperControl
