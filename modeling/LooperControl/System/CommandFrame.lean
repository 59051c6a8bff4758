import LooperControl.Script.Steps

/-!
# What a command touches

The commands that write parse values nobody has checked, look the track id up as it comes and
index the song with what it converts to. `commandFrame` bounds what any of them can do: it
assigns the one parameter that its name and its track id stand for, or it does nothing at all,
and its answer says which.

The ids of the entries are numerals of positions, in every state a script can get to. That is why
no index is negative, although Python would accept one.
-/

namespace LooperControl

open Effect LooperControlSurface Script LooperDiscovery

/-- One assignment took place between two states, to the parameter that a command stands for, and
nothing else was touched. -/
structure WroteOne (s t : Script) (name args : Json) (i j k : ℕ) (device : Device) (p : Param)
    (v : Double) : Prop where
  /-- The command names the parameter and gives the value, and the parameter is the device's first
  of the name. -/
  command : ∃ paramName, writeOf name args = some (paramName, .ok v) ∧
    IsFirst device.params k p paramName
  /-- The device stands at the indices that the id and its entry convert to. -/
  address : ∃ info, recordedUnder s.discoveredLoopers (trackIdOf args) = some info ∧
    pyInt (trackIdOf args) = .ok (i : ℤ) ∧ pyInt (.str info.deviceId) = .ok (j : ℤ)
  stands : s.live.song.deviceAt? i j = some device
  looper : isLooperDevice device = true
  assigned : t.live.assigned = s.live.assigned ++ [(p.id, v)]
  song : t.live.song = s.live.song.setValue i j k v
  discoveredLoopers : t.discoveredLoopers = s.discoveredLoopers
  paramListeners : t.discovery.paramListeners = s.discovery.paramListeners
  attached : t.live.attached = s.live.attached

/-- An entry leads to the positions that its ids are the numerals of. -/
theorem wroteOne_of_addressed {s : Script} (hs : Consistent s) {name args : Json}
    {key paramName : String} {info : LooperInfo} {trackIdx deviceIdx : ℤ} {i j k : ℕ} {p : Param}
    {v : Double} (hwrite : writeOf name args = some (paramName, .ok v))
    (hkey : trackIdOf args = .str key) (hinfo : s.discoveredLoopers.get? key = some info)
    (htrack : pyInt (.str key) = .ok trackIdx) (hdevice : pyInt (.str info.deviceId) = .ok deviceIdx)
    (hp : addressed s.live.song trackIdx deviceIdx paramName = some (i, j, k, p)) :
    ∃ device, WroteOne s (assigned s i j k p v) name args i j k device p v := by
  obtain ⟨a, b, rfl, -, hb⟩ := hs.entries key info hinfo
  obtain ⟨hi, track, device, ht, hj, hd, hloop, hfirst⟩ := addressed_eq_some hp
  -- Both indices are natural numbers, so that they are the positions.
  rw [pyInt_str_toString, Except.ok.injEq] at htrack
  rw [hb, pyInt_str_toString, Except.ok.injEq] at hdevice
  subst htrack hdevice
  obtain rfl := eq_of_pyIndex_natCast hi
  obtain rfl := eq_of_pyIndex_natCast hj
  refine ⟨device, ⟨paramName, hwrite, hfirst⟩, ⟨info, ?_, ?_, ?_⟩, ?_, hloop, ?_, ?_, ?_, ?_, ?_⟩
  · rw [hkey, recordedUnder, hinfo]
  · rw [hkey, pyInt_str_toString]
  · rw [hb, pyInt_str_toString]
  · rw [Song.deviceAt?, ht]
    exact hd
  all_goals
    rw [assigned_eq]
    rfl

/-- **Command atomicity and frame.** A command with a dictionary of arguments that is no request to
discover and no ping answers in one of two ways: it has failed and nothing is different, or it has
succeeded and one parameter has been assigned. -/
theorem commandFrame {s : Script} (hs : Reachable s) {ns name args : Json} (nsid : Json)
    (hargs : args.isObj = true) (hdiscover : ¬(ns = .str "looper" ∧ name = .str "discover"))
    (hping : ¬(ns = .str "system" ∧ name = .str "ping")) :
    ∃ answer t success, exec (handleCommand ns nsid name args) s = (.ok (some answer), t) ∧
      answer.get? "success" = some (.bool success) ∧ (success = false → t = s) ∧
        (success = true → ∃ i j k device p v, WroteOne s t name args i j k device p v) := by
  by_cases hknown : ns = .str "looper" ∧ (writeOf name args).isSome
  · obtain ⟨hns, hwrite⟩ := hknown
    have hout := outcome_handleCommand s ns nsid name args
    generalize exec (handleCommand ns nsid name args) s = outcome at hout ⊢
    cases hout with
    | discovered _ _ hname => exact absurd ⟨hns, hname⟩ hdiscover
    | scanRaised _ _ hname => exact absurd ⟨hns, hname⟩ hdiscover
    | noArgs _ _ _ hnot => exact absurd (hargs.symm.trans hnot) (by decide)
    | refused answer _ _ _ hanswer =>
      exact ⟨answer, s, false, rfl, hanswer, fun _ => rfl, nofun⟩
    | wrote key paramName info trackIdx deviceIdx i j k p v _ hwrite _ hkey hinfo ht hd _ hp =>
      obtain ⟨device, hone⟩ := wroteOne_of_addressed hs.consistent hwrite hkey hinfo ht hd hp
      exact ⟨succeeded, _, true, rfl, rfl, nofun, fun _ => ⟨i, j, k, device, p, v, hone⟩⟩
    | other _ hnot => exact absurd ⟨hns, .inr hwrite⟩ hnot
  · refine ⟨_, s, false, exec_handleCommand_unknown ?_ hping, rfl, fun _ => rfl, nofun⟩
    rintro ⟨hns, hname | hwrite⟩
    · exact hdiscover ⟨hns, hname⟩
    · exact hknown ⟨hns, hwrite⟩

/-- The feedback of the only looper, set by a string. -/
theorem commandFrame_oneLooper : ∃ answer t success,
    exec (handleCommand (.str "looper") (.str "0") (.str "set_feedback")
      (.obj [("track_id", .str "0"), ("feedback", .str "1")])) (begun oneLooper) =
        (.ok (some answer), t) ∧
      answer.get? "success" = some (.bool success) ∧ (success = false → t = begun oneLooper) ∧
        (success = true → ∃ i j k device p v, WroteOne (begun oneLooper) t (.str "set_feedback")
          (.obj [("track_id", .str "0"), ("feedback", .str "1")]) i j k device p v) :=
  commandFrame (.of_init (started_begun rfl)) _ rfl (by decide) (by decide)

end LooperControl
