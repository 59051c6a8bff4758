import LooperControl.Lib.Runs
import LooperControl.Script.BridgeServer

/-!
# Restarts of the server

A `BridgeServer` is started and stopped again and again, while other programs come and go on its
ports. `stop` shuts the serving thread down and leaves the socket open, `start` looks for a port
from the one of the last time on, and what it takes for failure is that there is no server at all.

`inRange_iff` says in which runs the server is always found where it should be, on the first port of
its range that no other program holds.
-/

namespace LooperControl

namespace Restarts

/-- A server with the ports of the sockets that are open and, for every thread that serves, the port
that it serves. -/
structure Serving where
  bridge : BridgeServer
  sockets : List ℕ := []
  threads : List ℕ := []

/-- `BridgeServer(port=preferred)`. -/
def created (preferred : ℕ) : Serving := { bridge := { port := preferred } }

/-- A port can be bound: neither another program nor a socket of the server's own has it. -/
def canBind (held : ℕ → Bool) (s : Serving) (port : ℕ) : Bool := !held port && port ∉ s.sockets

/-- `start`, while other programs hold some ports. A thread is started on whatever server there is
afterwards, which may be an old one. -/
def start (held : ℕ → Bool) (s : Serving) : Serving :=
  let bridge := s.bridge.start (canBind held s)
  match bridge.server with
  | none => { s with bridge := bridge }
  | some port =>
    { bridge := bridge, sockets := s.sockets.insert port, threads := port :: s.threads }

/-- `stop`. Nobody serves the server any more, and its socket stays open. -/
def stop (s : Serving) : Serving :=
  match s.bridge.server with
  | none => s
  | some port => { s with threads := s.threads.filter (· ≠ port) }

/-- A call, or an old socket that is collected. -/
inductive Event
  | start (held : ℕ → Bool)
  | stop
  | collect (port : ℕ)

/-- The state after an event. -/
def next (s : Serving) : Event → Serving
  | .start held => start held s
  | .stop => stop s
  | .collect port => { s with sockets := s.sockets.filter (· ≠ port) }

/-- An event as a step. A socket can be collected when neither the server nor a thread uses it. -/
def step (s : Serving) (e : Event) (t : Serving) : Prop :=
  (∀ port, e = .collect port → s.bridge.server ≠ some port ∧ port ∉ s.threads) ∧ t = next s e

/-- The port that a server should have: the first of its range that no other program holds. -/
def due (preferred : ℕ) (held : ℕ → Bool) : Option ℕ :=
  (List.range' preferred 10).find? fun port => !held port

/-- After a `start`, every thread serves the port that the server should have, and the `port`
property says so. If there is no such port, there is no thread. -/
def InRange (preferred : ℕ) (_ : Serving) : Event → Serving → Prop
  | .start held, t => ∀ port ∈ t.threads, due preferred held = some port ∧ t.bridge.port = port
  | _, _ => True

/-- The condition on a `start`. Either nobody serves, and the port that is due is one of the ten
from the last port on, which no old socket blocks. Or nothing can be bound there, and the server
that there is, as well as every thread, has the port that is due already. -/
def Unblocked (preferred : ℕ) (s : Serving) : Event → Prop
  | .start held =>
    (s.threads = [] ∧ ∃ port, due preferred held = some port ∧ s.bridge.port ≤ port ∧
        port < s.bridge.port + 10 ∧ port ∉ s.sockets) ∨
      ((∀ port ∈ List.range' s.bridge.port 10, canBind held s port = false) ∧
        ∀ port ∈ s.bridge.server.toList ++ s.threads, due preferred held = some port)
  | _ => True

/-! ### Which port is taken -/

variable {preferred port : ℕ} {held : ℕ → Bool}

/-- What holds between events. -/
structure Sound (preferred : ℕ) (s : Serving) : Prop where
  above : preferred ≤ s.bridge.port
  server : ∀ port, s.bridge.server = some port → s.bridge.port = port ∧ port ∈ s.sockets
  threads : ∀ port ∈ s.threads, port ∈ s.sockets
  idle : s.bridge.server = none → s.threads = []

theorem sound_created (preferred : ℕ) : Sound preferred (created preferred) :=
  ⟨le_rfl, nofun, nofun, fun _ => rfl⟩

variable {s t : Serving}

/-- A `start` that binds a port. -/
theorem start_of_find?_eq_some
    (h : (List.range' s.bridge.port 10).find? (canBind held s) = some port) :
    start held s =
      { bridge := { s.bridge with server := some port, port := port }
        sockets := s.sockets.insert port
        threads := port :: s.threads } := by
  rw [start, BridgeServer.start, h]

/-- A `start` that binds none. -/
theorem start_of_find?_eq_none
    (h : (List.range' s.bridge.port 10).find? (canBind held s) = none) :
    start held s =
      match s.bridge.server with
      | none => s
      | some port =>
        { s with sockets := s.sockets.insert port, threads := port :: s.threads } := by
  rw [start, BridgeServer.start, h]

/-- The port that is due is the one that is bound, exactly if it is not blocked. -/
theorem find?_canBind_eq_some_iff (hs : Sound preferred s) (hdue : due preferred held = some port) :
    (List.range' s.bridge.port 10).find? (canBind held s) = some port ↔
      s.bridge.port ≤ port ∧ port < s.bridge.port + 10 ∧ port ∉ s.sockets := by
  obtain ⟨hfree, -, hbefore⟩ := List.find?_range'_eq_some.mp hdue
  rw [List.find?_range'_eq_some, List.mem_range'_1]
  constructor
  · rintro ⟨hbind, ⟨hlow, hhigh⟩, -⟩
    have hsocket : port ∉ s.sockets := by simpa [canBind, hfree] using hbind
    exact ⟨hlow, hhigh, hsocket⟩
  · rintro ⟨hlow, hhigh, hsocket⟩
    refine ⟨by simpa [canBind, hsocket] using hfree, ⟨hlow, hhigh⟩, fun q hq hlt => ?_⟩
    -- Another program holds every port before the one that is due.
    have hheld : held q = true := by simpa using hbefore q (hs.above.trans hq) hlt
    simp [canBind, hheld]

/-- **The step lemma**: a `start` leads to the port that is due exactly if it is not blocked. -/
theorem unblocked_iff_inRange {e : Event} (hs : Sound preferred s) (h : step s e t) :
    Unblocked preferred s e ↔ InRange preferred s e t := by
  obtain ⟨-, rfl⟩ := h
  cases e with
  | start held =>
    rw [Unblocked, InRange, next]
    rcases hfind : (List.range' s.bridge.port 10).find? (canBind held s) with _ | port
    · -- Nothing is bound, and a thread is started on the old server, if there is one.
      have hnone : ∀ port ∈ List.range' s.bridge.port 10, canBind held s port = false :=
        fun port hport => Bool.eq_false_of_not_eq_true (List.find?_eq_none.mp hfind port hport)
      have hblocked : ¬(s.threads = [] ∧ ∃ port, due preferred held = some port ∧
          s.bridge.port ≤ port ∧ port < s.bridge.port + 10 ∧ port ∉ s.sockets) := by
        rintro ⟨-, port, hdue, hport⟩
        have hbind := (find?_canBind_eq_some_iff hs hdue).mpr hport
        exact absurd (hfind.symm.trans hbind) nofun
      rw [or_iff_right hblocked, and_iff_right hnone, start_of_find?_eq_none hfind]
      rcases hserver : s.bridge.server with _ | old
      · simp [hs.idle hserver]
      · have hport := (hs.server old hserver).1
        simp only [Option.toList_some, List.singleton_append, List.forall_mem_cons]
        constructor
        · rintro ⟨hdue, hthreads⟩
          refine ⟨⟨hdue, hport⟩, fun q hq => ⟨hthreads q hq, ?_⟩⟩
          rw [hport, ← Option.some_inj, ← hdue, hthreads q hq]
        · rintro ⟨hdue, hthreads⟩
          exact ⟨hdue.1, fun q hq => (hthreads q hq).1⟩
    · -- A port is bound. No thread can be serving it already.
      obtain ⟨hbind, hmem, -⟩ := List.find?_range'_eq_some.mp hfind
      have hsocket : port ∉ s.sockets := by
        simp only [canBind, Bool.and_eq_true, decide_eq_true_eq] at hbind
        exact hbind.2
      have hblocked : ¬((∀ port ∈ List.range' s.bridge.port 10, canBind held s port = false) ∧
          ∀ port ∈ s.bridge.server.toList ++ s.threads, due preferred held = some port) := by
        rintro ⟨hnone, -⟩
        exact absurd ((hnone port hmem).symm.trans hbind) (by decide)
      rw [or_iff_left hblocked, start_of_find?_eq_some hfind]
      simp only [List.forall_mem_cons]
      constructor
      · rintro ⟨hthreads, q, hdue, hq⟩
        obtain rfl := Option.some.inj
          (hfind.symm.trans ((find?_canBind_eq_some_iff hs hdue).mpr hq))
        exact ⟨⟨hdue, trivial⟩, by simp [hthreads]⟩
      · rintro ⟨⟨hdue, -⟩, hthreads⟩
        refine ⟨?_, port, hdue, (find?_canBind_eq_some_iff hs hdue).mp hfind⟩
        refine List.eq_nil_iff_forall_not_mem.mpr fun q hq => hsocket ?_
        rw [(hthreads q hq).2]
        exact hs.threads q hq
  | stop => exact Iff.rfl
  | collect port => exact Iff.rfl

theorem Sound.next (hs : Sound preferred s) {e : Event} (h : step s e t) : Sound preferred t := by
  obtain ⟨hcollect, rfl⟩ := h
  cases e with
  | start held =>
    rw [Restarts.next]
    rcases hfind : (List.range' s.bridge.port 10).find? (canBind held s) with _ | port
    · rw [start_of_find?_eq_none hfind]
      rcases hserver : s.bridge.server with _ | old
      · exact hs
      · have hold := hs.server old hserver
        refine ⟨hs.above, fun port hport => ?_, ?_, fun hnone => ?_⟩
        · rw [← Option.some.inj (hserver.symm.trans hport)]
          exact ⟨hold.1, List.mem_insert_self⟩
        · refine List.forall_mem_cons.mpr ⟨List.mem_insert_self, fun port hport => ?_⟩
          exact List.mem_insert_of_mem (hs.threads port hport)
        · exact absurd (hserver.symm.trans hnone) nofun
    · rw [start_of_find?_eq_some hfind]
      have hmem := List.mem_range'_1.mp (List.mem_of_find?_eq_some hfind)
      refine ⟨hs.above.trans hmem.1, ?_, ?_, nofun⟩
      · rintro _ ⟨⟩
        exact ⟨rfl, List.mem_insert_self⟩
      · refine List.forall_mem_cons.mpr ⟨List.mem_insert_self, fun port hport => ?_⟩
        exact List.mem_insert_of_mem (hs.threads port hport)
  | stop =>
    rw [Restarts.next, stop]
    rcases hserver : s.bridge.server with _ | port
    · exact hs
    · refine ⟨hs.above, hs.server, fun q hq => ?_, fun hnone => ?_⟩
      · exact hs.threads q (List.mem_of_mem_filter hq)
      · exact absurd (hserver.symm.trans hnone) nofun
  | collect port =>
    obtain ⟨hserver, hthreads⟩ := hcollect port rfl
    refine ⟨hs.above, fun q hq => ⟨(hs.server q hq).1, ?_⟩, fun q hq => ?_, hs.idle⟩
    · refine List.mem_filter.mpr ⟨(hs.server q hq).2, decide_eq_true ?_⟩
      rintro rfl
      exact hserver hq
    · refine List.mem_filter.mpr ⟨hs.threads q hq, decide_eq_true ?_⟩
      rintro rfl
      exact hthreads hq

/-- **The port of a server.** After every `start` of a run whoever serves is where the server should
be, exactly if no `start` of the run is blocked. -/
theorem inRange_iff {es : List Event} :
    Runs.Run (Runs.guarded (Unblocked preferred) step) (created preferred) es s ↔
      Runs.Run (Runs.checked (InRange preferred) step) (created preferred) es s :=
  Runs.run_guarded_iff_checked (fun _ _ _ => unblocked_iff_inRange)
    (fun _ _ _ hs h _ => hs.next h) (sound_created preferred)

/-- **The second start** of a server finds its own first socket, and takes the next port. -/
theorem not_inRange : ¬∀ (preferred : ℕ) (es : List Event) (s : Serving),
    Runs.Run step (created preferred) es s →
      Runs.Run (Runs.checked (InRange preferred) step) (created preferred) es s := by
  intro h
  have hrun := h 7011 [.start fun _ => false, .stop, .start fun _ => false] _
    (.cons ⟨nofun, rfl⟩ (.cons ⟨nofun, rfl⟩ (.cons ⟨nofun, rfl⟩ (.nil _))))
  obtain ⟨s₁, ⟨⟨-, rfl⟩, -⟩, hrun⟩ := Runs.run_cons_iff.mp hrun
  obtain ⟨s₂, ⟨⟨-, rfl⟩, -⟩, hrun⟩ := Runs.run_cons_iff.mp hrun
  obtain ⟨s₃, ⟨⟨-, rfl⟩, hinRange⟩, -⟩ := Runs.run_cons_iff.mp hrun
  have hdue := (hinRange 7012 (by decide +kernel)).1
  revert hdue
  decide +kernel

end Restarts

end LooperControl
