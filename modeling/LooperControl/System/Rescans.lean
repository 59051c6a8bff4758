import LooperControl.Lib.Threads
import LooperControl.Script.Steps

/-!
# Rescans in several threads

The server handles every datagram in a thread of its own, Live calls the tracks listener in
another, and no lock is taken. A rescan takes off the listeners, scans and pushes, and attaches
listeners again; `disconnect` takes off the listeners, shuts the server down and removes the
tracks listener. `Task` is a thread that is somewhere in one of the two, and a pool of tasks runs
in any interleaving.

* **What a step does to the listeners**: `act_cases`. Only two kinds of steps touch them.
* **Uninterrupted** (`run_rescan`): a task that nobody interrupts is a rescan of the script.
* **The run theorem**: `listeners_iff`. Two rescans that both stop before either starts attach
  every listener twice, and one that starts after the last stop leaves its listeners attached.
-/

namespace LooperControl

open Effect LooperControlSurface LooperDiscovery

namespace Rescans

/-- The script, whether its server is serving, and whether its tracks listener is in place. -/
structure World where
  script : Script
  serving : Bool
  tracksListener : Bool

/-- What calls for a rescan: the handler of a `discover`, or the tracks listener. -/
inductive Caller
  | discover
  | tracksChanged

/-- Whether a rescan can begin: the server starts handlers while it is serving, and Live calls
the listener while it is in place. -/
def World.calls (w : World) : Caller → Bool
  | .discover => w.serving
  | .tracksChanged => w.tracksListener

/-- A thread: a rescan that is called for, has begun, has stopped listening or has scanned, a
`disconnect` that is called for, has stopped listening or has shut the server down, an edit of
the song, or one that has finished. -/
inductive Task
  | called (caller : Caller)
  | begun
  | stopped
  | scanned
  | unloading
  | silenced
  | shutDown
  | editing (e : SongEdit)
  | finished

namespace Task

/-- The atomic step of a thread. A scan that raises ends it. -/
def act (w : World) : Task → Option (World × Task)
  | called caller => if w.calls caller then some (w, begun) else none
  | begun => some ({ w with script := (exec stopListening w.script).2 }, stopped)
  | stopped =>
    match exec scanAndSend w.script with
    | (.ok _, s) => some ({ w with script := s }, scanned)
    | (.error _, s) => some ({ w with script := s }, finished)
  | scanned => some ({ w with script := (exec startListening w.script).2 }, finished)
  | unloading => some ({ w with script := (exec stopListening w.script).2 }, silenced)
  | silenced => some ({ w with serving := false }, shutDown)
  | shutDown => some ({ w with tracksListener := false }, finished)
  | editing e =>
    (e.apply w.script.live.song).map fun song =>
      ({ w with script := w.script.edited song }, finished)
  | finished => none

/-- Whether a thread still has its `stop_listening` ahead of it. -/
def Stops : Task → Prop
  | called _ | begun | unloading => True
  | _ => False

/-- What a step does to the listeners: nothing, `stop_listening` or `start_listening`. -/
inductive Effects (w w' : World) : Task → Task → Prop
  | other {t t' : Task} (ht : t ≠ scanned) (hstops : t.Stops ↔ t'.Stops)
      (hattached : w'.script.live.attached = w.script.live.attached)
      (hrecorded : w'.script.discovery.recorded = w.script.discovery.recorded) : Effects w w' t t'
  | stop {t t' : Task} (ht : t ≠ scanned) (hstops : t.Stops)
      (hscript : w'.script = LooperDiscovery.silenced w.script) : Effects w w' t t'
  | start (hscript : w'.script = (exec startListening w.script).2) :
      Effects w w' scanned finished

theorem act_cases {w w' : World} {t t' : Task} (h : t.act w = some (w', t')) :
    Effects w w' t t' := by
  cases t with
  | called caller =>
    obtain ⟨-, h⟩ := Option.ite_none_right_eq_some.mp h
    cases h
    exact .other nofun Iff.rfl rfl rfl
  | begun =>
    cases h
    exact .stop nofun trivial (by rw [exec_stopListening])
  | stopped =>
    rw [act] at h
    rcases hscan : scanResult w.script.live.song with e | discovered
    · rw [exec_scanAndSend_error hscan] at h
      cases h
      exact .other nofun Iff.rfl rfl rfl
    · rw [exec_scanAndSend_ok hscan] at h
      cases h
      exact .other nofun Iff.rfl rfl rfl
  | scanned =>
    cases h
    exact .start rfl
  | unloading =>
    cases h
    exact .stop nofun trivial (by rw [exec_stopListening])
  | silenced =>
    cases h
    exact .other nofun Iff.rfl rfl rfl
  | shutDown =>
    cases h
    exact .other nofun Iff.rfl rfl rfl
  | editing e =>
    obtain ⟨song, -, h⟩ := Option.map_eq_some_iff.mp h
    cases h
    exact .other nofun Iff.rfl rfl rfl
  | finished => cases h

end Task

/-- A rescan by itself, from where it has begun. -/
theorem alone_rescan (w : World) :
    Threads.Alone Task.act (w, .begun) ({ w with script := w.script.rescanned }, .finished) := by
  have hstop : Task.act w .begun = some ({ w with script := silenced w.script }, .stopped) := by
    rw [Task.act, exec_stopListening]
  refine .head hstop ?_
  rcases hscan : scanResult w.script.live.song with e | discovered
  · have hraise : Task.act { w with script := silenced w.script } .stopped =
        some ({ w with script := w.script.rescanned }, .finished) := by
      rw [Task.act, exec_scanAndSend_error (s := silenced w.script) hscan,
        Script.rescanned_error hscan]
    exact .single hraise
  · have hsend : Task.act { w with script := silenced w.script } .stopped =
        some ({ w with script := pushed (silenced w.script) discovered }, .scanned) := by
      rw [Task.act, exec_scanAndSend_ok (s := silenced w.script) hscan]
    have hstart : Task.act { w with script := pushed (silenced w.script) discovered } .scanned =
        some ({ w with script := w.script.rescanned }, .finished) := by
      rw [Task.act, Script.rescanned_ok hscan, exec_startListening]
      · rfl
      · exact allReadable_iff.mp (allReadable_of_scanResult hscan)
    exact .head hsend (.single hstart)

/-! ### Runs -/

/-- The script, and the threads it runs in. -/
abbrev Pool := Threads.Pool World Task

/-- The interleaving step. -/
def step : Pool → ℕ → Option Pool := Threads.step Task.act

/-- **Uninterrupted**, a rescan that has begun is a rescan of the script. -/
theorem run_rescan {p : Pool} {n : ℕ} (hn : p.threads[n]? = some .begun) :
    ∃ k, Runs.Run (Runs.ofFun step) p (List.replicate k n)
      ⟨{ p.shared with script := p.shared.script.rescanned }, p.threads.set n .finished⟩ :=
  Threads.run_of_alone (alone_rescan p.shared) rfl hn

/-- The parameters that carry a listener, one entry for each. -/
def carriers (p : Pool) : List ParamId := p.shared.script.live.attached.map Listener.param

/-- No parameter carries two listeners. -/
def OneEach (p : Pool) : Prop := (carriers p).Nodup

/-- Every thread has finished, the handlers as well as `disconnect`. -/
def Finished (p : Pool) : Prop := ∀ t ∈ p.threads, t = .finished

/-- If the next step is a `start_listening`, none of the parameters it attaches a listener to
carries one. -/
def StartsFresh (p : Pool) (n : ℕ) : Prop :=
  p.threads[n]? = some .scanned →
    ∀ x ∈ attaching p.shared.script.live.song.tracks, x ∉ carriers p

/-- If the next step is a `start_listening` that attaches a listener, another thread has its
`stop_listening` ahead of it. -/
def StopsLater (p : Pool) (n : ℕ) : Prop :=
  p.threads[n]? = some .scanned →
    attaching p.shared.script.live.song.tracks = [] ∨ Threads.Others p n Task.Stops

/-- The recorded listeners are the attached ones, throughout. -/
def Sound (p : Pool) : Prop := Recorded p.shared.script

variable {p q : Pool} {n : ℕ}

theorem Sound.step (hp : Sound p) (h : step p n = some q) : Sound q := by
  obtain ⟨t, w', t', -, hact, rfl⟩ := Threads.step_eq_some_iff.mp h
  change Recorded w'.script
  cases Task.act_cases hact with
  | other _ _ hattached hrecorded =>
    rw [Recorded, hattached, hrecorded]
    exact hp
  | stop _ _ hscript =>
    rw [hscript]
    exact recorded_silenced hp
  | start hscript =>
    rw [hscript]
    exact recorded_startListening hp

/-- A step keeps the parameters to one listener each exactly if it starts fresh. -/
theorem oneEach_step (hp : Sound p) (hone : OneEach p) (h : step p n = some q) :
    StartsFresh p n ↔ OneEach q := by
  obtain ⟨t, w', t', ht, hact, rfl⟩ := Threads.step_eq_some_iff.mp h
  rw [StartsFresh, ht, Option.some_inj]
  cases Task.act_cases hact with
  | other hne _ hattached _ =>
    refine iff_of_true (fun heq => absurd heq hne) ?_
    change (w'.script.live.attached.map Listener.param).Nodup
    rw [hattached]
    exact hone
  | stop hne _ hscript =>
    refine iff_of_true (fun heq => absurd heq hne) ?_
    change (w'.script.live.attached.map Listener.param).Nodup
    rw [hscript, attached_silenced hp]
    exact List.nodup_nil
  | start hscript =>
    change _ ↔ (w'.script.live.attached.map Listener.param).Nodup
    rw [hscript, params_startListening, List.nodup_append']
    constructor
    · intro hfresh
      exact ⟨hone, nodup_attaching _, List.disjoint_right.mpr (hfresh rfl)⟩
    · intro hnodup _
      exact List.disjoint_right.mp hnodup.2.2

/-- No parameter carries a listener, or some thread is still to stop listening. -/
def Clears : Pool → Prop :=
  Threads.Settles (fun w => w.script.live.attached = []) fun _ => Task.Stops

/-- A step keeps it so exactly if it leaves a stop ahead of what it starts. -/
theorem clears_step (hp : Sound p) (h : step p n = some q) :
    Clears q ↔ Clears p ∧ StopsLater p n := by
  obtain ⟨t, w', t', ht, hact, rfl⟩ := Threads.step_eq_some_iff.mp h
  rw [Clears, Threads.settles_iff ht, Threads.settles_set_iff ht, StopsLater, ht, Option.some_inj]
  cases Task.act_cases hact with
  | other hne hstops hattached _ =>
    rw [hattached, hstops, and_iff_left fun heq => absurd heq hne]
  | stop hne hstops hscript =>
    refine iff_of_true (.inl ?_) ⟨.inr (.inl hstops), fun heq => absurd heq hne⟩
    rw [hscript]
    exact attached_silenced hp
  | start hscript =>
    have hattached : w'.script.live.attached = [] ↔
        p.shared.script.live.attached = [] ∧ attaching p.shared.script.live.song.tracks = [] := by
      rw [← List.map_eq_nil_iff (f := Listener.param), hscript, params_startListening,
        List.append_eq_nil_iff, List.map_eq_nil_iff]
    rw [hattached]
    simp only [Task.Stops, false_or, true_imp_iff]
    exact and_or_right

theorem clears_iff_of_finished (h : Finished p) : Clears p ↔ carriers p = [] := by
  rw [carriers, List.map_eq_nil_iff]
  refine Threads.settles_iff_of_not_owed fun t ht => ?_
  rw [h t ht]
  exact id

/-- **Listeners.** From a script that can be reached, in a run with a `disconnect`: at every
moment each parameter carries at most one listener, and none when everything has finished, exactly
when every `start_listening` of the run starts fresh and, where everything finishes, none that
attaches a listener comes after the last `stop_listening`. -/
theorem listeners_iff {es : List ℕ} (hs : p.shared.script.Reachable)
    (hdisconnect : .unloading ∈ p.threads) (h : Runs.Run (Runs.ofFun step) p es q) :
    (Runs.Run (Runs.checked (fun _ _ r => OneEach r) (Runs.ofFun step)) p es q ∧
        (Finished q → carriers q = [])) ↔
      Runs.Run (Runs.guarded StartsFresh (Runs.ofFun step)) p es q ∧
        (Finished q → Runs.Run (Runs.guarded StopsLater (Runs.ofFun step)) p es q) := by
  have hsound : Sound p := hs.consistent.recorded
  refine and_congr ?_ (forall_congr' fun hfinished => ?_)
  · exact (Runs.run_guarded_iff_checked (P := fun p => Sound p ∧ OneEach p)
      (fun _ _ _ hp hst => oneEach_step hp.1 hp.2 hst)
      (fun _ _ _ hp hst hone => ⟨hp.1.step hst, hone⟩) ⟨hsound, hs.consistent.once⟩).symm
  · have hclears : Clears q ↔
        Clears p ∧ Runs.Run (Runs.guarded StopsLater (Runs.ofFun step)) p es q :=
      Runs.ends_iff_guarded (fun _ _ _ hp hst => clears_step hp hst)
        (fun _ _ _ hp hst => hp.step hst) h hsound
    have hp : Clears p := .inr ⟨.unloading, hdisconnect, trivial⟩
    rw [← clears_iff_of_finished hfinished, hclears, and_iff_right hp]

/-- A script in a song with one looper, and some threads. -/
def withThreads (threads : List Task) : Pool := ⟨⟨Script.begun oneLooper, true, true⟩, threads⟩

theorem reachable_begun : (Script.begun oneLooper).Reachable :=
  .of_init (@Script.started_begun oneLooper _ rfl)

/-- A `discover` that is handled before a `disconnect`. -/
theorem listeners_discover : ∃ q, Finished q ∧ carriers q = [] ∧
    Runs.Run (Runs.checked (fun _ _ r => OneEach r) (Runs.ofFun step))
      (withThreads [.called .discover, .unloading]) [0, 0, 0, 0, 1, 1, 1] q := by
  let s := silenced (Script.begun oneLooper)
  obtain ⟨found, hfound⟩ : ∃ found, scanResult s.live.song = .ok found := ⟨_, rfl⟩
  have hstop : step ⟨⟨Script.begun oneLooper, true, true⟩, [.begun, .unloading]⟩ 0 =
      some ⟨⟨s, true, true⟩, [.stopped, .unloading]⟩ := by
    rw [step, Threads.step_eq_some_iff]
    exact ⟨_, _, _, rfl, by rw [Task.act, exec_stopListening], rfl⟩
  have hscan : step ⟨⟨s, true, true⟩, [.stopped, .unloading]⟩ 0 =
      some ⟨⟨pushed s found, true, true⟩, [.scanned, .unloading]⟩ := by
    rw [step, Threads.step_eq_some_iff]
    exact ⟨_, _, _, rfl, by rw [Task.act, exec_scanAndSend_ok hfound], rfl⟩
  have hfresh : ∀ x ∈ attaching s.live.song.tracks,
      x ∉ carriers ⟨⟨pushed s found, true, true⟩, [.scanned, .unloading]⟩ := by
    intro x _ hx
    have hnone : s.live.attached = [] := attached_silenced reachable_begun.consistent.recorded
    obtain ⟨l, hl, -⟩ := List.mem_map.mp hx
    exact absurd hl (hnone ▸ List.not_mem_nil)
  let q : Pool := ⟨⟨(exec stopListening (exec startListening (pushed s found)).2).2, false, false⟩,
    [.finished, .finished]⟩
  have hrun : Runs.Run (Runs.guarded (fun p n => StartsFresh p n ∧ StopsLater p n)
      (Runs.ofFun step)) (withThreads [.called .discover, .unloading]) [0, 0, 0, 0, 1, 1, 1] q :=
    .cons ⟨⟨nofun, nofun⟩, rfl⟩ <| .cons ⟨⟨nofun, nofun⟩, hstop⟩ <|
      .cons ⟨⟨nofun, nofun⟩, hscan⟩ <|
      .cons ⟨⟨fun _ => hfresh, fun _ => .inr ⟨1, .unloading, by decide, rfl, trivial⟩⟩, rfl⟩ <|
      .cons ⟨⟨nofun, nofun⟩, rfl⟩ <| .cons ⟨⟨nofun, nofun⟩, rfl⟩ <|
      .cons ⟨⟨nofun, nofun⟩, rfl⟩ <| .nil _
  have hfinished : Finished q := by simp [q, Finished]
  obtain ⟨hone, hnone⟩ := (listeners_iff reachable_begun (by simp [withThreads])
    (hrun.mono fun _ _ _ h => h.2)).mpr ⟨hrun.mono fun _ _ _ h => ⟨h.1.1, h.2⟩,
      fun _ => hrun.mono fun _ _ _ h => ⟨h.1.2, h.2⟩⟩
  exact ⟨q, hfinished, hnone hfinished, hone⟩

/-- **Every listener twice**: two handlers of a `discover` both stop listening before either of
them starts. -/
theorem not_listeners : ¬∀ (p q : Pool) (es : List ℕ), p.shared.script.Reachable →
    (∀ t ∈ p.threads, t.Stops) → .unloading ∈ p.threads → Runs.Run (Runs.ofFun step) p es q →
      Runs.Run (Runs.checked (fun _ _ r => OneEach r) (Runs.ofFun step)) p es q ∧
        (Finished q → carriers q = []) := by
  intro h
  let p := withThreads [.called .discover, .called .discover, .unloading]
  have htwice : (([0, 1, 0, 1, 0, 1, 0, 1] : List ℕ).foldlM step p).map
      (fun q => decide (carriers q).Nodup) = some false := by decide +kernel
  obtain ⟨q, hq, htwice⟩ := Option.map_eq_some_iff.mp htwice
  obtain ⟨hone, -⟩ := h p q _ reachable_begun (by simp [p, withThreads, Task.Stops])
    (by simp [p, withThreads]) (Runs.run_ofFun_iff.mpr hq)
  have hnodup : OneEach q :=
    hone.invariant (fun _ _ _ _ h => h.2) reachable_begun.consistent.once
  exact of_decide_eq_false htwice hnodup

end Rescans

end LooperControl
