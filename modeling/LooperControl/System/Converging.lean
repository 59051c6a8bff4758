import LooperControl.Script.Handlers
import LooperControl.System.ParamChange
import LooperControl.System.StatePush

/-!
# Converging on a looper's state

Handlers that write parameters of one looper each push its whole state afterwards: they write,
read the looper, and send what they have read, with steps of other handlers in between. A push
carries no sequence number, so that the plugin takes the last one sent for the newest.

* **What is read**: in a song whose names are distinct, the search by names comes back to the
  looper (`reported_eq_reading?`).
* **What is owed**: a handler that is to write or to read, or that has read what is still there,
  will bring the plugin up to date (`Owes`).
* **The run theorem**: `converges_of_timely`. The plugin ends up with the looper's state if no
  handler sends a stale reading once nobody owes a fresh one.
-/

namespace LooperControl

open MessageProtocol BridgeClient LooperControlSurface BridgeServer Script LooperDiscovery

/-! ### What is read of a looper -/

/-- The dictionary that is read of the device at a position. -/
def Song.reading? (song : Song) (i j : ℕ) : Option LooperInfo :=
  song.tracks[i]?.bind fun t => t.devices[j]?.bind fun d => (readLooperState t i d j).toOption

namespace Converging

/-- A looper-like device object stands at a position, on a certain track, and none before it has
the same names. -/
def Located (song : Song) (track device i j : ℕ) : Prop :=
  ∃ f ∈ looperDevices song.tracks, f.trackIdx = i ∧ f.deviceIdx = j ∧
    f.track.id = track ∧ f.device.id = device ∧ FirstNamed song f.track.name f.device.name i j

theorem reading?_eq {song : Song} {f : FoundDevice} (hf : f ∈ looperDevices song.tracks) :
    song.reading? f.trackIdx f.deviceIdx = f.read.toOption := by
  obtain ⟨ht, hd, -⟩ := mem_looperDevices.mp hf
  rw [Song.reading?, ht, Option.bind_some, hd]
  rfl

theorem located_setValue {song : Song} {track device i j : ℕ} (h : Located song track device i j)
    (k : ℕ) (v : Double) : Located (song.setValue i j k v) track device i j := by
  obtain ⟨f, hf, rfl, rfl, htrack, hdevice, hfirst⟩ := h
  obtain ⟨ht, hd, hloop⟩ := mem_looperDevices.mp hf
  let g : FoundDevice := ⟨f.track.withValue f.deviceIdx k v, f.trackIdx, f.device.withValue k v,
    f.deviceIdx⟩
  refine ⟨g, mem_looperDevices.mpr ⟨?_, ?_, ?_⟩, rfl, rfl, htrack, hdevice, ?_⟩
  · simp [g, Song.setValue, withValue, ht]
  · simp [g, Track.withValue, hd]
  · exact (isLooperDevice_withValue k v f.device).trans hloop
  · exact (firstNamed_setValue song f.trackIdx f.deviceIdx k v).mpr hfirst

private theorem index_eq {α β : Type} {f : α → β} {l : List α} (h : (l.map f).Nodup) {i j : ℕ}
    {a b : α} (ha : l[i]? = some a) (hb : l[j]? = some b) (hab : f a = f b) : i = j := by
  have hi : i < (l.map f).length := by
    rw [List.length_map]
    exact (List.getElem?_eq_some_iff.mp ha).1
  refine (List.getElem?_inj hi h).mp ?_
  rw [List.getElem?_map, List.getElem?_map, ha, hb, Option.map_some, Option.map_some, hab]

/-- In a song whose names are distinct, no other device has the names of a looper. -/
theorem located_of_distinct {song : Song} {f : FoundDevice} (hf : f ∈ looperDevices song.tracks)
    (htracks : (song.tracks.map Track.name).Nodup)
    (hdevices : ∀ t ∈ song.tracks, (t.devices.map Device.name).Nodup) :
    Located song f.track.id f.device.id f.trackIdx f.deviceIdx := by
  refine ⟨f, hf, rfl, rfl, rfl, rfl, fun g hg htrack hdevice hbefore => ?_⟩
  obtain ⟨hft, hfd, -⟩ := mem_looperDevices.mp hf
  obtain ⟨hgt, hgd, -⟩ := mem_looperDevices.mp hg
  have ht : g.trackIdx = f.trackIdx := index_eq htracks hgt hft htrack
  have htt : g.track = f.track := by
    rw [ht, hft, Option.some_inj] at hgt
    exact hgt.symm
  rw [htt] at hgd
  have hd : g.deviceIdx = f.deviceIdx :=
    index_eq (hdevices f.track (List.mem_of_getElem? hft)) hgd hfd hdevice
  rcases hbefore with h | ⟨-, h⟩
  · exact Nat.ne_of_lt h ht
  · exact Nat.ne_of_lt h hd

/-- A listener of the looper reports what is read of it. -/
theorem reported_eq_reading? {song : Song} {i j : ℕ} {l : Listener}
    (h : Located song l.track l.param.device i j) : reported song l = song.reading? i j := by
  obtain ⟨f, hf, rfl, rfl, htrack, hdevice, hfirst⟩ := h
  obtain ⟨ht, hd, -⟩ := mem_looperDevices.mp hf
  have hat : song.deviceAt? f.trackIdx f.deviceIdx = some f.device := by
    rw [Song.deviceAt?, ht]
    exact hd
  rw [reading?_eq hf, reported, ← htrack, ← hdevice, trackName?_of_getElem? ht, Option.bind_some,
    deviceName?_of_deviceAt? hat, Option.bind_some, (findByName_eq_some_iff hf rfl rfl).mpr hfirst]
  rfl

/-! ### What a handler owes -/

section Owes

variable (i j : ℕ)

/-- A dictionary is what is read of the looper now, and can be sent. -/
def Current (s : Script) (info : LooperInfo) : Prop :=
  s.live.song.reading? i j = some info ∧ info.feedback.isFinite = true

/-- A handler will bring the plugin up to date, if nobody comes in between: its value will be
accepted, it has listeners to tell, or it is to send a current reading. -/
def Owes (s : Script) : Handler → Prop
  | .assigning _ _ _ _ p v => p.stores v = true
  | .notifying _ listeners => listeners ≠ []
  | .reporting _ info _ => Current i j s info
  | _ => False

/-- If a handler reads the looper next, it can be read; if it sends a reading that can be received,
it is a current one; or others owe one. -/
def TimelyFor (s : Script) (others : Prop) : Handler → Prop
  | .notifying _ (_ :: _) => (∃ info, Current i j s info) ∨ others
  | .reporting _ info _ => info.feedback.isFinite = true → Current i j s info ∨ others
  | _ => True

/-- The next step is timely. -/
def Timely (p : Threads.Pool Script Handler) (n : ℕ) : Prop :=
  ∀ t ∈ p.threads[n]?, TimelyFor i j p.shared (Threads.Others p n (Owes i j p.shared)) t

instance (s : Script) (info : LooperInfo) : Decidable (Current i j s info) :=
  inferInstanceAs (Decidable (_ ∧ _))

instance (s : Script) : Decidable (∃ info, Current i j s info) :=
  decidable_of_iff ((s.live.song.reading? i j).any fun info => info.feedback.isFinite)
    (Option.any_eq_true _ _)

instance (s : Script) : DecidablePred (Owes i j s)
  | .assigning _ _ _ _ _ _ => inferInstanceAs (Decidable (_ = true))
  | .notifying _ listeners => inferInstanceAs (Decidable (listeners ≠ []))
  | .reporting _ info _ => inferInstanceAs (Decidable (Current i j s info))
  | .received _ | .answering _ _ | .finished => .isFalse id

instance (s : Script) (others : Prop) [Decidable others] : DecidablePred (TimelyFor i j s others)
  | .notifying _ (_ :: _) => inferInstanceAs (Decidable (_ ∨ _))
  | .reporting _ info _ => inferInstanceAs (Decidable (_ → Current i j s info ∨ others))
  | .notifying _ [] | .received _ | .assigning _ _ _ _ _ _ | .answering _ _ | .finished =>
    .isTrue trivial

instance (p : Threads.Pool Script Handler) : DecidablePred (Timely i j p) := fun _ =>
  inferInstanceAs (Decidable (∀ _ ∈ _, _))

end Owes

/-! ### Runs -/

/-- A listener was made for a looper. -/
def IsFor (f : FoundDevice) (l : Listener) : Prop :=
  l.track = f.track.id ∧ l.param.device = f.device.id

/-- A handler that is to write a parameter of a looper, with a listener attached. -/
def Writes (s : Script) (f : FoundDevice) (t : Handler) : Prop :=
  ∃ uuid k p v l, t = .assigning uuid f.trackIdx f.deviceIdx k p v ∧ f.device.params[k]? = some p ∧
    l ∈ s.live.attached ∧ l.param = p.id ∧ l.track = f.track.id

/-- What the handlers leave as it was: the looper's place, the listeners and the server. -/
structure Steady (s₀ : Script) (f : FoundDevice) (s : Script) : Prop where
  located : Located s.live.song f.track.id f.device.id f.trackIdx f.deviceIdx
  attached : s.live.attached = s₀.live.attached
  server : s.server = s₀.server
  sent : s₀.sent <+: s.sent

/-- A handler on its way through the steps for a looper. -/
def OnItsWay (s₀ : Script) (f : FoundDevice) : Handler → Prop
  | .received _ => False
  | .assigning _ i j _ p _ => i = f.trackIdx ∧ j = f.deviceIdx ∧
      ∃ l, s₀.live.listenersOf p.id = [l] ∧ IsFor f l
  | .notifying _ listeners => ∀ l ∈ listeners, IsFor f l
  | .reporting _ _ listeners => ∀ l ∈ listeners, IsFor f l
  | _ => True

/-- The steps of such a handler. -/
inductive Stage (s₀ : Script) (f : FoundDevice) (s s' : Script) : Handler → Handler → Prop
  | stored (uuid : Json) (k : ℕ) (p : Param) (v : Double) (l : Listener)
      (hs : s' = s.store f.trackIdx f.deviceIdx k p v) (hl : IsFor f l) (hv : p.stores v = true) :
      Stage s₀ f s s' (.assigning uuid f.trackIdx f.deviceIdx k p v) (.notifying uuid [l])
  | refused (uuid answer : Json) (i j k : ℕ) (p : Param) (v : Double) (hs : s' = s)
      (hv : p.stores v = false) : Stage s₀ f s s' (.assigning uuid i j k p v) (.answering uuid answer)
  | told (uuid answer : Json) (hs : s' = s) :
      Stage s₀ f s s' (.notifying uuid []) (.answering uuid answer)
  | read (uuid : Json) (l : Listener) (listeners : List Listener) (info : LooperInfo) (hs : s' = s)
      (hread : s.live.song.reading? f.trackIdx f.deviceIdx = some info)
      (hl : ∀ l ∈ listeners, IsFor f l) :
      Stage s₀ f s s' (.notifying uuid (l :: listeners)) (.reporting uuid info listeners)
  | unread (uuid : Json) (l : Listener) (listeners : List Listener) (hs : s' = s)
      (hread : s.live.song.reading? f.trackIdx f.deviceIdx = none)
      (hl : ∀ l ∈ listeners, IsFor f l) :
      Stage s₀ f s s' (.notifying uuid (l :: listeners)) (.notifying uuid listeners)
  | sent (uuid : Json) (info : LooperInfo) (listeners : List Listener)
      (hs : s' = s.emit (oscPrefix ++ "/event") (changedEvent info))
      (hl : ∀ l ∈ listeners, IsFor f l) :
      Stage s₀ f s s' (.reporting uuid info listeners) (.notifying uuid listeners)
  | answered (uuid answer : Json) (hs : s' = respond s uuid answer) :
      Stage s₀ f s s' (.answering uuid answer) .finished

variable {s₀ s s' : Script} {f : FoundDevice} {t t' : Handler}

theorem stage_of_act (hs : Steady s₀ f s) (ht : OnItsWay s₀ f t) (h : t.act s = some (s', t')) :
    Stage s₀ f s s' t t' := by
  cases t with
  | received => exact ht.elim
  | assigning uuid i j k p v =>
    obtain ⟨rfl, rfl, l, hl, hfor⟩ := ht
    have hlisteners : s.live.listenersOf p.id = [l] := by
      rw [Live.listenersOf, hs.attached]
      exact hl
    rw [Handler.act] at h
    split at h
    · rename_i hv
      cases h
      rw [hlisteners]
      exact .stored uuid k p v l rfl hfor hv
    · rename_i hv
      cases h
      exact .refused uuid _ _ _ k p v rfl (by simpa using hv)
  | notifying uuid listeners =>
    cases listeners with
    | nil =>
      cases h
      exact .told uuid _ rfl
    | cons l listeners =>
      obtain ⟨⟨htrack, hdevice⟩, hrest⟩ := List.forall_mem_cons.mp ht
      have hlocated := hs.located
      rw [← htrack, ← hdevice] at hlocated
      rw [Handler.act, reported_eq_reading? hlocated] at h
      split at h
      · rename_i info hread
        cases h
        exact .read uuid l listeners info rfl hread hrest
      · rename_i hread
        cases h
        exact .unread uuid l listeners rfl hread hrest
  | reporting uuid info listeners =>
    cases h
    exact .sent uuid info listeners rfl ht
  | answering uuid answer =>
    cases h
    exact .answered uuid answer rfl
  | finished => cases h

theorem Stage.keeps (h : Stage s₀ f s s' t t') (hs : Steady s₀ f s) :
    Steady s₀ f s' ∧ OnItsWay s₀ f t' := by
  have hemit : ∀ address data, Steady s₀ f (s.emit address data) := fun _ _ =>
    ⟨hs.located, hs.attached, hs.server, hs.sent.trans (List.prefix_append _ _)⟩
  cases h with
  | stored uuid k p v l heq hl =>
    rw [heq]
    refine ⟨⟨located_setValue hs.located k v, hs.attached, hs.server, hs.sent⟩, ?_⟩
    exact List.forall_mem_singleton.mpr hl
  | refused _ _ _ _ _ _ _ heq => exact ⟨heq ▸ hs, trivial⟩
  | told _ _ heq => exact ⟨heq ▸ hs, trivial⟩
  | read _ _ _ _ heq _ hl => exact ⟨heq ▸ hs, hl⟩
  | unread _ _ _ heq _ hl => exact ⟨heq ▸ hs, hl⟩
  | sent _ _ _ heq hl => exact ⟨heq ▸ hemit _ _, hl⟩
  | answered _ _ heq => exact ⟨heq ▸ hemit _ _, trivial⟩

theorem state_of_reading? {song : Song} {i j : ℕ} {info : LooperInfo}
    (h : song.reading? i j = some info) : info.state ∈ stateNames := by
  obtain ⟨track, -, h⟩ := Option.bind_eq_some_iff.mp h
  obtain ⟨device, -, h⟩ := Option.bind_eq_some_iff.mp h
  exact read_state (f := ⟨track, i, device, j⟩) (Effect.toOption_eq_some_iff.mp h)

section Plugin

variable (J : Juce) (c : BridgeClient)

/-- The plugin when everything sent since a state of the script has been delivered. -/
def pluginAfter (s₀ s : Script) : BridgeClient := deliver J c (s.sent.drop s₀.sent.length)

/-- The plugin's entry for a looper is what is read of it, up to the tolerance. -/
def UpToDate (s₀ : Script) (f : FoundDevice) (s : Script) : Prop :=
  ∃ info, s.live.song.reading? f.trackIdx f.deviceIdx = some info ∧
    Entered (fun a b => |a - b| < 1 / 1000) info (pluginAfter J c s₀ s)

end Plugin

variable {J : Juce} {c : BridgeClient}

/-- One message more is delivered last. -/
theorem pluginAfter_emit {port : ℤ} (hport : s₀.server.target = some port)
    (hs : Steady s₀ f s) (address : String) (data : Json) :
    pluginAfter J c s₀ (s.emit address data) =
      oscMessageReceived J (pluginAfter J c s₀ s) (received data) := by
  obtain ⟨new, hnew⟩ := hs.sent
  have hsent : (s.emit address data).sent = s₀.sent ++ (new ++ [⟨port, address, data⟩]) := by
    rw [Script.emit, hs.server, hport, ← hnew, List.append_assoc]
    rfl
  rw [pluginAfter, pluginAfter, hsent, ← hnew, List.drop_left, List.drop_left, deliver_append]
  rfl

/-- What is owed is a matter of the song, and a message does not change it. -/
theorem owes_emit (i j : ℕ) (s : Script) (address : String) (data : Json) :
    Owes i j (s.emit address data) = Owes i j s := by
  funext t
  cases t <;> rfl

/-- A message that leaves the tracker as it was leaves the plugin up to date. -/
theorem upToDate_emit {port : ℤ} (hport : s₀.server.target = some port) (hs : Steady s₀ f s)
    {address : String} {data : Json}
    (hkeeps : ∀ c, (oscMessageReceived J c (received data)).tracker = c.tracker) :
    UpToDate J c s₀ f (s.emit address data) ↔ UpToDate J c s₀ f s := by
  have hsong : (s.emit address data).live.song = s.live.song := rfl
  simp only [UpToDate, Entered, hsong, pluginAfter_emit hport hs, hkeeps]

/-- A current reading brings the plugin up to date. -/
theorem upToDate_of_current (hJ : J.Exact) {port : ℤ} (hport : s₀.server.target = some port)
    (hs : Steady s₀ f s) {info : LooperInfo} (h : Current f.trackIdx f.deviceIdx s info) :
    UpToDate J c s₀ f (s.emit (oscPrefix ++ "/event") (changedEvent info)) := by
  obtain ⟨q, hq⟩ := Double.exists_of_isFinite h.2
  refine ⟨info, h.1, ?_⟩
  rw [pluginAfter_emit hport hs]
  exact (survives_changed hJ (state_of_reading? h.1) hq _).entry

/-- **The step lemma**: the plugin is up to date or is owed it, after each timely step. -/
theorem settles_step (hJ : J.Exact) {port : ℤ} (hport : s₀.server.target = some port)
    {p q : Threads.Pool Script Handler} {n : ℕ}
    (hp : Threads.Holds (Steady s₀ f) (fun _ => OnItsWay s₀ f) p)
    (hsettles : Threads.Settles (UpToDate J c s₀ f) (Owes f.trackIdx f.deviceIdx) p)
    (htimely : Timely f.trackIdx f.deviceIdx p n) (h : Handler.step p n = some q) :
    Threads.Settles (UpToDate J c s₀ f) (Owes f.trackIdx f.deviceIdx) q := by
  obtain ⟨t, s', t', ht, hact, rfl⟩ := Threads.step_eq_some_iff.mp h
  have hs := hp.shared
  have hstage := stage_of_act hs (hp.threads t (List.mem_of_getElem? ht)) hact
  rw [Threads.settles_iff ht] at hsettles
  rw [Threads.settles_set_iff ht]
  have htimely := htimely t ht
  cases hstage with
  | stored => exact .inr (.inl (List.cons_ne_nil _ _))
  | refused _ _ _ _ _ param v heq hv =>
    rw [heq]
    refine hsettles.imp_right (Or.imp_left fun howes => ?_)
    exact absurd (show param.stores v = true from howes) (by simp [hv])
  | told _ _ heq =>
    rw [heq]
    exact hsettles.imp_right (Or.imp_left fun howes => absurd rfl howes)
  | read _ _ _ info heq hread =>
    -- What is read is the current reading.
    rw [heq]
    refine .inr (htimely.imp_left ?_)
    rintro ⟨info', hread', hfinite⟩
    rw [hread, Option.some_inj] at hread'
    exact ⟨hread, hread' ▸ hfinite⟩
  | unread _ _ _ heq hread =>
    rw [heq]
    refine .inr (htimely.imp_left ?_)
    rintro ⟨info', hread', -⟩
    rw [hread] at hread'
    cases hread'
  | sent _ info _ heq =>
    rw [heq, owes_emit]
    by_cases hfinite : info.feedback.isFinite = true
    · exact (htimely hfinite).imp (upToDate_of_current hJ hport hs) .inr
    · -- What JSON cannot carry is not received.
      rw [upToDate_emit hport hs fun c => by
        rw [changedEvent, oscMessageReceived_not_finite (by simpa using hfinite)]]
      exact hsettles.imp_right (Or.imp_left fun howes => absurd howes.2 hfinite)
  | answered uuid answer heq =>
    rw [heq, respond, owes_emit, upToDate_emit hport hs fun c => tracker_response c uuid answer]
    exact hsettles

/-- **Converging.** Handlers write parameters of one looper in a song with distinct names, each
with a listener attached. If the plugin's entry was right before or one of the values is accepted,
and every step is timely, then the plugin ends up with the looper's state, once all have finished
and everything has been delivered in the order in which it was sent. -/
theorem converges_of_timely (hJ : J.Exact) (hs : Reachable s₀) {port : ℤ}
    (hport : s₀.server.target = some port) (hf : f ∈ looperDevices s₀.live.song.tracks)
    (htracks : (s₀.live.song.tracks.map Track.name).Nodup)
    (hdevices : ∀ t ∈ s₀.live.song.tracks, (t.devices.map Device.name).Nodup)
    {threads : List Handler} (hthreads : ∀ t ∈ threads, Writes s₀ f t)
    (hstart : UpToDate J c s₀ f s₀ ∨ ∃ t ∈ threads, Owes f.trackIdx f.deviceIdx s₀ t) {es : List ℕ}
    {q : Threads.Pool Script Handler}
    (h : Runs.Run (Runs.guarded (Timely f.trackIdx f.deviceIdx) (Runs.ofFun Handler.step))
      ⟨s₀, threads⟩ es q) (hfinished : ∀ t ∈ q.threads, t = .finished) :
    UpToDate J c s₀ f q.shared := by
  have hholds : Threads.Holds (Steady s₀ f) (fun _ => OnItsWay s₀ f) ⟨s₀, threads⟩ := by
    refine ⟨⟨located_of_distinct hf htracks hdevices, rfl, rfl, List.prefix_refl _⟩, ?_⟩
    intro t ht
    obtain ⟨uuid, k, p, v, l, rfl, hp, hl, hlp, hltrack⟩ := hthreads t ht
    obtain ⟨htrack, hdevice, -⟩ := mem_looperDevices.mp hf
    have hat : s₀.live.song.deviceAt? f.trackIdx f.deviceIdx = some f.device := by
      rw [Song.deviceAt?, htrack]
      exact hdevice
    refine ⟨rfl, rfl, l, hlp ▸ listenersOf_eq hs.consistent hl, hltrack, ?_⟩
    rw [hlp, device_of_deviceAt? hat hp]
  have hend := h.invariant (P := fun p =>
    Threads.Holds (Steady s₀ f) (fun _ => OnItsWay s₀ f) p ∧
      Threads.Settles (UpToDate J c s₀ f) (Owes f.trackIdx f.deviceIdx) p)
    (fun p n q hp hst => ?_) ⟨hholds, hstart⟩
  · refine (Threads.settles_iff_of_not_owed fun t ht => ?_).mp hend.2
    rw [hfinished t ht]
    exact id
  · refine ⟨hp.1.step (fun _ _ _ _ hs ht hact => (stage_of_act hs ht hact).keeps hs)
      (fun _ _ _ _ _ _ _ _ hu => hu) hst.2, settles_step hJ hport hp.1 hp.2 hst.1 hst.2⟩

/-- Two handlers that turn the feedback of the only looper down and up. -/
def turning : List Handler :=
  let param : Param := ⟨⟨0, 1⟩, "Feedback", .finite (1 / 2), fun _ => true, true⟩
  [.assigning (.str "a") 0 0 1 param (.finite (1 / 4)),
    .assigning (.str "b") 0 0 1 param (.finite (3 / 4))]

/-- The only looper of a song. -/
def onlyLooper : FoundDevice :=
  ⟨⟨0, "Guitar", [⟨0, "Looper", "Looper", [⟨⟨0, 0⟩, "State", .finite 0, fun _ => true, true⟩,
    ⟨⟨0, 1⟩, "Feedback", .finite (1 / 2), fun _ => true, true⟩], true⟩]⟩, 0,
    ⟨0, "Looper", "Looper", [⟨⟨0, 0⟩, "State", .finite 0, fun _ => true, true⟩,
    ⟨⟨0, 1⟩, "Feedback", .finite (1 / 2), fun _ => true, true⟩], true⟩, 0⟩

theorem writes_turning : ∀ t ∈ turning, Writes (met oneLooper) onlyLooper t := by
  have hlistener : (⟨1, 0, ⟨0, 1⟩⟩ : Listener) ∈ (met oneLooper).live.attached := by
    decide +kernel
  simp only [turning, List.forall_mem_cons]
  exact ⟨⟨_, 1, _, _, _, rfl, rfl, hlistener, rfl, rfl⟩,
    ⟨_, 1, _, _, _, rfl, rfl, hlistener, rfl, rfl⟩, nofun⟩

theorem nodup_oneLooper : ((met oneLooper).live.song.tracks.map Track.name).Nodup ∧
    ∀ t ∈ (met oneLooper).live.song.tracks, (t.devices.map Device.name).Nodup := by
  decide +kernel

/-- Two handlers that run one after the other. -/
theorem converges_inTurn : ∃ q : Threads.Pool Script Handler,
    (∀ t ∈ q.threads, t = .finished) ∧ UpToDate .plain {} (met oneLooper) onlyLooper q.shared := by
  have hrun : ((([0, 0, 0, 0, 0, 1, 1, 1, 1, 1] : List ℕ).foldlM (fun p n =>
      if Timely 0 0 p n then Handler.step p n else none) ⟨met oneLooper, turning⟩).map
        fun q => q.threads.all Handler.isFinished) = some true := by decide +kernel
  obtain ⟨q, hq, hfinished⟩ := Option.map_eq_some_iff.mp hrun
  have hfinished : ∀ t ∈ q.threads, t = .finished :=
    fun t ht => Handler.isFinished_iff.mp (List.all_eq_true.mp hfinished t ht)
  have hport : (met oneLooper).server.target = some 7010 := by decide +kernel
  refine ⟨q, hfinished, converges_of_timely Juce.exact_plain
    (@reachable_met oneLooper _ rfl (by decide +kernel)) hport
    (mem_looperDevices.mpr ⟨rfl, rfl, by decide⟩) nodup_oneLooper.1 nodup_oneLooper.2
    writes_turning (.inr ⟨_, List.mem_cons_self, rfl⟩) (Runs.run_guarded_ofFun_iff.mpr hq)
    hfinished⟩

/-- **A stale reading is sent last**: the first handler has read the looper before the second
writes, and sends what it has read when the second is through. -/
theorem not_converges : ¬∀ (J : Juce) (c : BridgeClient) (s₀ : Script) (f : FoundDevice)
    (port : ℤ) (threads : List Handler) (es : List ℕ) (q : Threads.Pool Script Handler),
    J.Exact → Reachable s₀ → s₀.server.target = some port →
      f ∈ looperDevices s₀.live.song.tracks → (s₀.live.song.tracks.map Track.name).Nodup →
        (∀ t ∈ s₀.live.song.tracks, (t.devices.map Device.name).Nodup) →
          (∀ t ∈ threads, Writes s₀ f t) →
            (UpToDate J c s₀ f s₀ ∨ ∃ t ∈ threads, Owes f.trackIdx f.deviceIdx s₀ t) →
              Runs.Run (Runs.ofFun Handler.step) ⟨s₀, threads⟩ es q →
                (∀ t ∈ q.threads, t = .finished) → UpToDate J c s₀ f q.shared := by
  intro h
  have hrun : ((([0, 0, 1, 1, 1, 1, 1, 0, 0, 0] : List ℕ).foldlM Handler.step
      ⟨met oneLooper, turning⟩).map fun q =>
        (q.threads.all Handler.isFinished,
          (q.shared.live.song.reading? 0 0).map fun info => (info.trackId, info.feedback),
          ((pluginAfter .plain {} (met oneLooper) q.shared).tracker.getLooper "0").map
            LooperState.feedback)) =
      some (true, some ("0", .finite (3 / 4)), some (1 / 4)) := by decide +kernel
  obtain ⟨q, hq, hend⟩ := Option.map_eq_some_iff.mp hrun
  simp only [Prod.mk.injEq] at hend
  obtain ⟨hfinished, hread, hentry⟩ := hend
  obtain ⟨info, hinfo, held, x, hheld, -, hx, hnear⟩ := h .plain {} (met oneLooper) onlyLooper 7010
    turning _ q Juce.exact_plain (@reachable_met oneLooper _ rfl (by decide +kernel))
    (by decide +kernel) (mem_looperDevices.mpr ⟨rfl, rfl, by decide⟩) nodup_oneLooper.1
    nodup_oneLooper.2 writes_turning (.inr ⟨_, List.mem_cons_self, rfl⟩)
    (Runs.run_ofFun_iff.mpr hq)
    fun t ht => Handler.isFinished_iff.mp (List.all_eq_true.mp hfinished t ht)
  -- The looper's feedback is 3/4, and the entry's is 1/4.
  change q.shared.live.song.reading? 0 0 = some info at hinfo
  rw [hinfo, Option.map_some, Option.some_inj, Prod.mk.injEq] at hread
  rw [hread.1] at hheld
  rw [hheld, Option.map_some, Option.some_inj] at hentry
  rw [hread.2, Double.finite.injEq] at hx
  rw [hentry, ← hx] at hnear
  norm_num at hnear

end Converging

end LooperControl
