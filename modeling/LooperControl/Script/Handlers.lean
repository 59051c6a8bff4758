import LooperControl.Lib.Threads
import LooperControl.Script.Steps

/-!
# Handlers in several threads

The server handles every datagram in a thread of its own. The handler of a command that writes a
parameter looks up where to write, assigns the value, and is then called back by the parameter:
for each listener it reads the looper anew and sends what it has read. At the end it answers.
`Handler` is a thread on its way through these steps, each of them atomic.

`run_received` ties the steps to the code: a handler that nobody interrupts handles its message.
-/

namespace LooperControl

open Effect LooperControlSurface BridgeServer

/-! ### What a message comes to -/

/-- The parameter that a writing command leads to, with its position. -/
def Script.place? (s : Script) (trackId : Json) (paramName : String) :
    Option (ℕ × ℕ × ℕ × Param) :=
  match pyInt trackId, recordedUnder s.discoveredLoopers trackId with
  | .ok trackIdx, some info =>
    match pyInt (.str info.deviceId) with
    | .ok deviceIdx => LooperDiscovery.addressed s.live.song trackIdx deviceIdx paramName
    | .error _ => none
  | _, _ => none

/-- The command that a message gives to the handler, if its arguments are an object: the name of
the parameter it is to write, and the value. -/
def writeIn? (message : Json) : Option (String × Except PyExc Double) :=
  if message.isObj = true ∧ isCommand message ∧
      (message.get? "ns").getD (.str "") = .str "looper" ∧ (argsOf message).isObj = true then
    writeOf ((message.get? "name").getD (.str "")) (argsOf message)
  else none

/-- The assignment that a message comes to: a parameter, with its position, and the value. -/
def Script.assignment? (s : Script) (message : Json) : Option ((ℕ × ℕ × ℕ × Param) × Double) :=
  match writeIn? message with
  | some (paramName, .ok v) =>
    (s.place? (trackIdOf (argsOf message)) paramName).map fun place => (place, v)
  | _ => none

/-- The answer to an assignment that the parameter accepts or refuses. -/
def assignmentResult (accepted : Bool) : Json :=
  if accepted then succeeded else failed "parameter_set_failed"

/-- The body of a writing command, once it leads somewhere. -/
theorem exec_writeCommand_of_place {s : Script} {trackId : Json} {paramName : String}
    {i j k : ℕ} {p : Param} (h : s.place? trackId paramName = some (i, j, k, p)) (v : Double) :
    exec (writeCommand trackId paramName (.ok v)) s =
      (.ok (assignmentResult (p.stores v)), if p.stores v then assigned s i j k p v else s) := by
  rw [Script.place?] at h
  rcases htrack : pyInt trackId with e | trackIdx
  · simp [htrack] at h
  rcases hinfo : recordedUnder s.discoveredLoopers trackId with _ | info
  · simp [htrack, hinfo] at h
  rcases hdevice : pyInt (.str info.deviceId) with e | deviceIdx
  · simp [htrack, hinfo, hdevice] at h
  simp only [htrack, hinfo, hdevice] at h
  rw [writeCommand, exec_tryCatch, writeParam, exec_bind, exec_lift, htrack]
  simp only [exec_bind, exec_get, hinfo, exec_lift, hdevice,
    LooperDiscovery.exec_setLooperParam, h]
  by_cases hv : p.stores v = true
  · simp only [hv, if_true, exec_pure, exec_assignValue _ _ _ _ _ _ _ hv]
    rfl
  · simp only [hv, Bool.false_eq_true, if_false, exec_pure]
    rfl

/-- A message that comes to an assignment makes it, and is answered. -/
theorem handled_of_assignment {s : Script} {message : Json} {i j k : ℕ} {p : Param} {v : Double}
    (h : s.assignment? message = some ((i, j, k, p), v)) :
    s.handled [.json message] =
      respond (if p.stores v then assigned s i j k p v else s) (uuidOf message)
        (assignmentResult (p.stores v)) := by
  rw [Script.assignment?, writeIn?] at h
  split at h
  · rename_i paramName v' hwrite
    obtain ⟨place, hplace, heq⟩ := Option.map_eq_some_iff.mp h
    cases heq
    obtain ⟨⟨hobj, hcommand, hns, hargs⟩, hwrite⟩ := Option.ite_none_right_eq_some.mp hwrite
    rw [Script.handled, exec_onOscMessage, exec_handleMessage_command hobj hcommand, hns,
      (exec_handleCommand_of_writeOf hwrite _ _).1 hargs, exec_map,
      exec_writeCommand_of_place hplace]
    rfl
  · cases h

/-! ### The steps of a handler -/

/-- A handler: it has received its message, is to assign a value, is to tell the remaining
listeners, has read a looper for one of them and is to send it, is to answer, or has finished. -/
inductive Handler
  | received (message : Json)
  | assigning (uuid : Json) (i j k : ℕ) (p : Param) (v : Double)
  | notifying (uuid : Json) (listeners : List Listener)
  | reporting (uuid : Json) (info : LooperInfo) (listeners : List Listener)
  | answering (uuid answer : Json)
  | finished

namespace Handler

/-- The atomic step of a handler. A message that comes to no assignment is handled as a whole. -/
def act (s : Script) : Handler → Option (Script × Handler)
  | received message =>
    match s.assignment? message with
    | some ((i, j, k, p), v) => some (s, assigning (uuidOf message) i j k p v)
    | none => some (s.handled [.json message], finished)
  | assigning uuid i j k p v =>
    if p.stores v then some (s.store i j k p v, notifying uuid (s.live.listenersOf p.id))
    else some (s, answering uuid (assignmentResult false))
  | notifying uuid [] => some (s, answering uuid (assignmentResult true))
  | notifying uuid (l :: listeners) =>
    match reported s.live.song l with
    | some info => some (s, reporting uuid info listeners)
    | none => some (s, notifying uuid listeners)
  | reporting uuid info listeners =>
    some (s.emit (oscPrefix ++ "/event") (changedEvent info), notifying uuid listeners)
  | answering uuid answer => some (respond s uuid answer, finished)
  | finished => none

/-- A handler that has finished. -/
def isFinished : Handler → Bool
  | finished => true
  | _ => false

theorem isFinished_iff {t : Handler} : t.isFinished = true ↔ t = .finished := by
  cases t <;> simp [isFinished]

/-- The interleaving step. -/
def step : Threads.Pool Script Handler → ℕ → Option (Threads.Pool Script Handler) :=
  Threads.step act

/-- A handler that has assigned its value. -/
def Past : Handler → Prop
  | received _ | assigning .. => False
  | _ => True

/-- After the assignment a handler only sends. -/
theorem act_past {s s' : Script} {t t' : Handler} (ht : t.Past) (h : t.act s = some (s', t')) :
    t'.Past ∧ OnlySent s s' := by
  have hsame : OnlySent s s := ⟨[], by rw [List.append_nil]⟩
  cases t with
  | received => exact ht.elim
  | assigning => exact ht.elim
  | notifying uuid listeners =>
    cases listeners with
    | nil =>
      cases h
      exact ⟨trivial, hsame⟩
    | cons l listeners =>
      rw [act] at h
      split at h <;> cases h <;> exact ⟨trivial, hsame⟩
  | reporting =>
    cases h
    exact ⟨trivial, onlySent_emit _ _ _⟩
  | answering =>
    cases h
    exact ⟨trivial, onlySent_emit _ _ _⟩
  | finished => cases h

/-- The listeners are told one after the other. -/
theorem alone_notifying (s : Script) (uuid : Json) (listeners : List Listener) :
    Threads.Alone act (s, .notifying uuid listeners)
      ({ s with sent := s.sent ++ reports s.server s.live.song listeners },
        .answering uuid (assignmentResult true)) := by
  induction listeners generalizing s with
  | nil =>
    rw [reports_nil, List.append_nil]
    exact .single rfl
  | cons l listeners ih =>
    rcases hl : reported s.live.song l with _ | info
    · have hskip : act s (.notifying uuid (l :: listeners)) = some (s, .notifying uuid listeners) := by
        rw [act, hl]
      have hreports : reports s.server s.live.song (l :: listeners) =
          reports s.server s.live.song listeners := by
        rw [reports, reports, List.filterMap_cons, hl]
      rw [hreports]
      exact .head hskip (ih s)
    · have hread : act s (.notifying uuid (l :: listeners)) =
          some (s, .reporting uuid info listeners) := by
        rw [act, hl]
      have hreports : (s.emit (oscPrefix ++ "/event") (changedEvent info)).sent ++
          reports s.server s.live.song listeners =
            s.sent ++ reports s.server s.live.song (l :: listeners) := by
        rw [Script.emit, reports, reports, List.filterMap_cons, hl]
        rcases s.server.target with _ | port <;> simp
      rw [← hreports]
      exact .head hread (.head rfl (ih _))

/-- A handler by itself handles its message. -/
theorem alone_received (s : Script) (message : Json) :
    Threads.Alone act (s, .received message) (s.handled [.json message], .finished) := by
  rcases h : s.assignment? message with _ | ⟨⟨i, j, k, p⟩, v⟩
  · refine .single ?_
    simp only [act, h]
  have hresolve : act s (.received message) =
      some (s, .assigning (uuidOf message) i j k p v) := by
    rw [act, h]
  rw [handled_of_assignment h]
  refine .head hresolve ?_
  by_cases hv : p.stores v = true
  · have hstore : act s (.assigning (uuidOf message) i j k p v) =
        some (s.store i j k p v, .notifying (uuidOf message) (s.live.listenersOf p.id)) := if_pos hv
    rw [hv, if_pos rfl, assigned_eq]
    exact .head hstore ((alone_notifying (s.store i j k p v) (uuidOf message) _).tail rfl)
  · have hrefuse : act s (.assigning (uuidOf message) i j k p v) =
        some (s, .answering (uuidOf message) (assignmentResult false)) := if_neg hv
    rw [Bool.not_eq_true] at hv
    rw [hv, if_neg Bool.false_ne_true]
    exact .head hrefuse (.single rfl)

/-- **Uninterrupted**, a handler takes the script to where its message takes it. -/
theorem run_received {p : Threads.Pool Script Handler} {n : ℕ} {message : Json}
    (hn : p.threads[n]? = some (.received message)) :
    ∃ k, Runs.Run (Runs.ofFun step) p (List.replicate k n)
      ⟨p.shared.handled [.json message], p.threads.set n .finished⟩ :=
  Threads.run_of_alone (alone_received p.shared message) rfl hn

end Handler

end LooperControl
