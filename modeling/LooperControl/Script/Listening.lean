import LooperControl.Script.LooperDiscovery
import Mathlib.Data.List.Flatten
import Mathlib.Data.List.Count

/-!
# Which listeners are attached

`start_listening` attaches one listener to every watched parameter of every looper-like
device (`exec_startListening`), and `stop_listening` takes off what `_param_listeners`
records (`exec_stopListening`). Two facts about the listeners carry over whole runs:

* **Exact bookkeeping** (`Recorded`): the attached listeners are the recorded ones, with
  multiplicity, so that stopping leaves none (`attached_stopListening`).
* **One each** (`nodup_watchedParams`): no parameter is watched twice, because identities
  are not shared in a song.
-/

namespace LooperControl

open Effect

namespace LooperDiscovery

/-- The watched parameters of a list of tracks, each with the device it is on. -/
def watchedParams (tracks : List Track) : List (FoundDevice × Param) :=
  (looperDevices tracks).flatMap fun f =>
    (f.device.params.filter fun p => p.name ∈ watchedNames).map fun p => (f, p)

/-- The closure that the next call of `listenTo` makes. -/
def nextListener (s : Script) (w : FoundDevice × Param) : Listener :=
  ⟨s.live.nextListener, w.1.track.id, w.2.id⟩

/-- The script after one watched parameter has been listened to, or has refused. -/
def listening (s : Script) (w : FoundDevice × Param) : Script :=
  if w.2.listenable then
    { s with
      live := { s.live with
        nextListener := s.live.nextListener + 1
        attached := s.live.attached ++ [nextListener s w] }
      discovery := { s.discovery with
        paramListeners := s.discovery.paramListeners.insert w.1.device.id
          ((s.discovery.paramListeners.get? w.1.device.id).getD [] ++ [nextListener s w]) } }
  else { s with live := { s.live with nextListener := s.live.nextListener + 1 } }

/-- What listening leaves alone. -/
structure OnlyListeners (s t : Script) : Prop where
  song : t.live.song = s.live.song
  assigned : t.live.assigned = s.live.assigned
  loopers : t.discovery.loopers = s.discovery.loopers
  server : t.server = s.server
  discoveredLoopers : t.discoveredLoopers = s.discoveredLoopers
  sent : t.sent = s.sent

theorem OnlyListeners.refl (s : Script) : OnlyListeners s s := ⟨rfl, rfl, rfl, rfl, rfl, rfl⟩

theorem OnlyListeners.trans {s t u : Script} (h₁ : OnlyListeners s t) (h₂ : OnlyListeners t u) :
    OnlyListeners s u :=
  ⟨h₂.song.trans h₁.song, h₂.assigned.trans h₁.assigned, h₂.loopers.trans h₁.loopers,
    h₂.server.trans h₁.server, h₂.discoveredLoopers.trans h₁.discoveredLoopers,
    h₂.sent.trans h₁.sent⟩

/-- The attached listeners are the recorded ones, with multiplicity. -/
def Recorded (s : Script) : Prop := s.live.attached.Perm s.discovery.recorded

/-! ### `start_listening` -/

private theorem exec_listenTo (f : FoundDevice) (p : Param) (s : Script) :
    exec (tryCatch (listenTo f.track f.device p) fun _ => pure ()) s =
      (.ok (), listening s (f, p)) := by
  rw [exec_tryCatch, listenTo, exec_bind, exec_get]
  simp only [exec_bind, exec_modify]
  by_cases hp : p.listenable = true
  · simp only [addValueListener, hp, if_true, exec_modify, listening]
    rfl
  · simp only [addValueListener, hp, listening]
    rfl

private theorem forM_tracks_eq (tracks : List Track) (f : Track → Device → Py Unit) :
    (tracks.forM fun track => track.devices.forM fun device =>
        if isLooperDevice device then f track device else pure ()) =
      (looperDevices tracks).forM fun found => f found.track found.device := by
  have hfilter : ∀ (track : Track) (l : List Device), (l.forM fun device =>
      if isLooperDevice device then f track device else pure ()) =
        (l.filter isLooperDevice).forM (f track) := by
    intro track l
    induction l with
    | nil => rfl
    | cons device l ih =>
      rw [List.filter_cons]
      split
      · rename_i hloop
        change (if isLooperDevice device then f track device else pure ()) >>= _ = _
        rw [if_pos hloop]
        exact bind_congr fun _ => ih
      · rename_i hloop
        change (if isLooperDevice device then f track device else pure ()) >>= _ = _
        rw [if_neg hloop]
        exact (pure_bind _ _).trans ih
  have hinner : ∀ (t : Track × ℕ), (((t.1.devices.zipIdx.filter fun d => isLooperDevice d.1).map
      fun d => (⟨t.1, t.2, d.1, d.2⟩ : FoundDevice)).forM fun found =>
        f found.track found.device) = (t.1.devices.filter isLooperDevice).forM (f t.1) := by
    intro t
    have hfst : (t.1.devices.zipIdx.filter fun d => isLooperDevice d.1).map Prod.fst =
        t.1.devices.filter isLooperDevice := by
      conv_rhs => rw [← List.zipIdx_map_fst 0 t.1.devices, List.filter_map]
      rfl
    rw [← hfst]
    induction t.1.devices.zipIdx.filter fun d => isLooperDevice d.1 with
    | nil => rfl
    | cons d l ih => exact bind_congr fun _ => ih
  rw [looperDevices, forM_flatMap]
  simp only [hfilter, hinner]
  conv_lhs => rw [← List.zipIdx_map_fst 0 tracks]
  exact List.forM_map

/-- One looper-like device of `start_listening`. -/
private theorem exec_listenDevice (f : FoundDevice) (s : Script) :
    exec (do
      let params ← lift (readParameters f.device)
      params.forM fun param =>
        if param.name ∈ watchedNames then
          tryCatch (listenTo f.track f.device param) fun _ => pure ()
        else pure ()) s =
      if f.device.readable then
        (.ok (), ((f.device.params.filter fun p => p.name ∈ watchedNames).map fun p =>
          (f, p)).foldl listening s)
      else (.error (.liveError "device is not accessible"), s) := by
  have hround : ∀ p s, exec (if p.name ∈ watchedNames then
      tryCatch (listenTo f.track f.device p) fun _ => pure () else pure ()) s =
        (.ok (), if p.name ∈ watchedNames then listening s (f, p) else s) := by
    intro p s
    split
    · exact exec_listenTo f p s
    · rfl
  rw [exec_bind, exec_lift, readParameters, Device.parameters]
  by_cases hr : f.device.readable = true
  · simp only [hr, if_true]
    rw [exec_forM_of_ok fun p _ s => by rw [hround]]
    simp only [hround, List.foldl_map, List.foldl_filter, decide_eq_true_eq]
  · simp only [hr, Bool.false_eq_true, if_false]

/-- The parameters that are listened to: those on the devices before the first that cannot be
read, where listening raises. -/
def listenedParams (tracks : List Track) : List (FoundDevice × Param) :=
  ((looperDevices tracks).takeWhile fun f => f.device.readable).flatMap fun f =>
    (f.device.params.filter fun p => p.name ∈ watchedNames).map fun p => (f, p)

/-- **What listening does**: one round for every parameter that is listened to. -/
theorem exec_startListening_eq (s : Script) :
    exec startListening s =
      (if (looperDevices s.live.song.tracks).all fun f => f.device.readable then .ok ()
        else .error (.liveError "device is not accessible"),
        (listenedParams s.live.song.tracks).foldl listening s) := by
  rw [startListening, exec_bind, exec_get]
  simp only [forM_tracks_eq, listenedParams]
  generalize looperDevices s.live.song.tracks = l
  induction l generalizing s with
  | nil => rfl
  | cons f l ih =>
    rw [List.takeWhile_cons, List.all_cons]
    change exec (_ >>= fun _ => l.forM _) s = _
    rw [exec_bind, exec_listenDevice]
    by_cases hf : f.device.readable = true
    · simp only [hf, if_true, Bool.true_and, List.flatMap_cons, List.foldl_append]
      exact ih _
    · simp only [hf, if_false, Bool.false_and, Bool.false_eq_true]
      rfl

/-- On a song whose looper-like devices can all be read, every watched parameter is listened
to. -/
theorem exec_startListening (s : Script)
    (h : ∀ f ∈ looperDevices s.live.song.tracks, readable f.device = true) :
    exec startListening s =
      (.ok (), (watchedParams s.live.song.tracks).foldl listening s) := by
  have hreadable : ∀ f ∈ looperDevices s.live.song.tracks, f.device.readable = true := by
    intro f hf
    have hf := h f hf
    unfold readable Device.parameters at hf
    by_cases hr : f.device.readable = true
    · exact hr
    · simp [hr] at hf
  rw [exec_startListening_eq, if_pos (List.all_eq_true.mpr hreadable), listenedParams,
    List.takeWhile_eq_self_iff.mpr hreadable, watchedParams]

/-- What is listened to is watched. -/
theorem listenedParams_sublist (tracks : List Track) :
    (listenedParams tracks).Sublist (watchedParams tracks) :=
  (List.takeWhile_sublist _).flatMap _

theorem onlyListeners_listening (s : Script) (w : FoundDevice × Param) :
    OnlyListeners s (listening s w) := by
  unfold listening
  split <;> exact ⟨rfl, rfl, rfl, rfl, rfl, rfl⟩

theorem onlyListeners_foldl (l : List (FoundDevice × Param)) (s : Script) :
    OnlyListeners s (l.foldl listening s) := by
  induction l generalizing s with
  | nil => exact .refl s
  | cons w l ih => exact (onlyListeners_listening s w).trans (ih _)

/-- A listener is recorded exactly when it is attached. -/
theorem recorded_listening {s : Script} (h : Recorded s) (w : FoundDevice × Param) :
    Recorded (listening s w) := by
  unfold listening
  split
  · exact (h.append_right _).trans (Dict.perm_flatten_insert _ _ _).symm
  · exact h

theorem recorded_foldl {s : Script} (h : Recorded s) (l : List (FoundDevice × Param)) :
    Recorded (l.foldl listening s) := by
  induction l generalizing s with
  | nil => exact h
  | cons w l ih => exact ih (recorded_listening h w)

/-- The parameters listened to after some rounds: those before, and those that do not refuse. -/
theorem params_foldl (l : List (FoundDevice × Param)) (s : Script) :
    (l.foldl listening s).live.attached.map Listener.param =
      s.live.attached.map Listener.param ++
        (l.filter fun w => w.2.listenable).map fun w => w.2.id := by
  induction l generalizing s with
  | nil => simp
  | cons w l ih =>
    rw [List.foldl_cons, ih, List.filter_cons]
    by_cases hw : w.2.listenable = true
    · simp [listening, hw, nextListener]
    · simp [listening, hw]

/-- The parameters that listening attaches a listener to. -/
def attaching (tracks : List Track) : List ParamId :=
  ((listenedParams tracks).filter fun w => w.2.listenable).map fun w => w.2.id

theorem params_startListening (s : Script) :
    (exec startListening s).2.live.attached.map Listener.param =
      s.live.attached.map Listener.param ++ attaching s.live.song.tracks := by
  rw [exec_startListening_eq, params_foldl, attaching]

theorem recorded_startListening {s : Script} (h : Recorded s) :
    Recorded (exec startListening s).2 := by
  rw [exec_startListening_eq]
  exact recorded_foldl h _

/-! ### `stop_listening` -/

/-- The script after `stop_listening`. -/
def silenced (s : Script) : Script :=
  { s with
    live := { s.live with attached := s.discovery.recorded.foldl List.erase s.live.attached }
    discovery := { s.discovery with paramListeners := ∅ } }

theorem exec_stopListening (s : Script) : exec stopListening s = (.ok (), silenced s) := by
  have hround : ∀ l s, exec (tryCatch (removeValueListener l) fun _ => pure ()) s =
      (.ok (), { s with live := { s.live with attached := s.live.attached.erase l } }) :=
    fun _ _ => rfl
  have hfold : ∀ (l : List Listener) (s : Script),
      l.foldl (fun s a =>
        { s with live := { s.live with attached := s.live.attached.erase a } }) s =
        { s with live := { s.live with attached := l.foldl List.erase s.live.attached } } := by
    intro l
    induction l with
    | nil => exact fun _ => rfl
    | cons a l ih => exact fun s => ih _
  have hall : (s.discovery.paramListeners.values.forM fun listeners => listeners.forM fun l =>
      tryCatch (removeValueListener l) fun _ => pure ()) = s.discovery.recorded.forM fun l =>
        tryCatch (removeValueListener l) fun _ => pure () := by
    rw [LooperDiscovery.recorded, List.flatten_eq_flatMap, forM_flatMap]
    rfl
  rw [stopListening, exec_bind, exec_get]
  simp only [hall]
  rw [exec_bind, exec_forM_of_ok fun l _ s => by rw [hround]]
  simp only [hround, exec_modify, hfold]
  rfl

/-- **Stopping leaves no listener attached**, on devices in the song or out of it. -/
theorem attached_silenced {s : Script} (h : Recorded s) : (silenced s).live.attached = [] := by
  change s.discovery.recorded.foldl List.erase s.live.attached = []
  rw [← List.diff_eq_foldl]
  refine List.eq_nil_iff_forall_not_mem.mpr fun l hl => ?_
  have hcount := List.count_pos_iff.mpr hl
  rw [List.count_diff, h.count_eq, Nat.sub_self] at hcount
  exact Nat.lt_irrefl 0 hcount

theorem recorded_silenced {s : Script} (h : Recorded s) : Recorded (silenced s) := by
  rw [Recorded, attached_silenced h]
  exact List.Perm.refl []

/-! ### Every parameter at most once -/

theorem map_device_looperDevices (tracks : List Track) :
    (looperDevices tracks).map FoundDevice.device =
      tracks.flatMap fun t => t.devices.filter isLooperDevice := by
  have hinner : ∀ t : Track × ℕ, (((t.1.devices.zipIdx.filter fun d => isLooperDevice d.1).map
      fun d => (⟨t.1, t.2, d.1, d.2⟩ : FoundDevice)).map FoundDevice.device) =
        t.1.devices.filter isLooperDevice := by
    intro t
    conv_rhs => rw [← List.zipIdx_map_fst 0 t.1.devices, List.filter_map]
    rw [List.map_map]
    rfl
  rw [looperDevices, List.map_flatMap]
  simp only [hinner]
  conv_rhs => rw [← List.zipIdx_map_fst 0 tracks, List.flatMap_map]

/-- **No parameter is watched twice.** -/
theorem nodup_watchedParams (song : Song) :
    ((watchedParams song.tracks).map fun w => w.2.id).Nodup := by
  obtain ⟨-, hdevices, hparams⟩ := song.wellFormed
  have hids : (song.tracks.map Track.ids).flatMap Prod.snd =
      (song.tracks.flatMap Track.devices).map fun d => (d.id, d.params.map Param.id) := by
    rw [List.flatMap_map, List.map_flatMap]
    rfl
  rw [hids, List.map_map] at hdevices
  rw [hids] at hparams
  simp only [List.forall_mem_map] at hparams
  have hfound : (watchedParams song.tracks).map (fun w => w.2.id) =
      (song.tracks.flatMap fun t => t.devices.filter isLooperDevice).flatMap fun d =>
        (d.params.filter fun p => p.name ∈ watchedNames).map Param.id := by
    rw [← map_device_looperDevices, List.flatMap_map, watchedParams, List.map_flatMap]
    simp only [List.map_map]
    rfl
  have hsub : (song.tracks.flatMap fun t => t.devices.filter isLooperDevice).Sublist
      (song.tracks.flatMap Track.devices) :=
    List.Sublist.flatMap_right song.tracks fun t _ => List.filter_sublist
  rw [hfound]
  refine (List.nodup_flatMap.mpr ⟨fun d hd => ?_, ?_⟩).sublist
    (hsub.flatMap fun d => (d.params.filter fun p => p.name ∈ watchedNames).map Param.id)
  · exact ((hparams d hd).1).sublist (List.filter_sublist.map Param.id)
  · have hpair : (song.tracks.flatMap Track.devices).Pairwise fun d e => d.id ≠ e.id :=
      List.pairwise_map.mp hdevices
    refine hpair.imp_of_mem fun {d e} hd he hne => ?_
    refine List.disjoint_left.mpr fun x hxd hxe => hne ?_
    obtain ⟨p, hp, rfl⟩ := List.mem_map.mp hxd
    obtain ⟨q, hq, hqp⟩ := List.mem_map.mp hxe
    rw [← (hparams d hd).2 p (List.mem_of_mem_filter hp), ← hqp]
    exact (hparams e he).2 q (List.mem_of_mem_filter hq)

/-- Listening attaches at most one listener to each parameter. -/
theorem nodup_attaching (song : Song) : (attaching song.tracks).Nodup :=
  (nodup_watchedParams song).sublist
    ((List.filter_sublist.trans (listenedParams_sublist song.tracks)).map _)

end LooperDiscovery

end LooperControl
