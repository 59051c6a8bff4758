import LooperControl.Lib.Runs
import LooperControl.Plugin.BridgeClient

/-!
# The connection of a client

A client is called by the plugin (`connect`, `disconnect` and the senders) and, while it is
registered as a listener, by the receiver. Its flags, its two ports and the receiver's binding
belong together.

* **Bookkeeping**: `bookkept_iff`. They stay together in exactly the runs in which no
  `connect` of a connected client finds all ports taken, and no hello is sent unconnected.
* **The indicator**: `shownWithScript_iff`. The plugin shows a connection from the moment a
  port is bound, so that only a run in which none is ever bound shows nothing too early.
-/

namespace LooperControl

open MessageProtocol

namespace BridgeClient

/-- What a client is called with. `send` stands for the senders, which build a message and do
nothing but hand it to `sendCommand`; `free` are the ports an attempt to bind succeeds on. -/
inductive Call
  | connect (free : ℕ → Bool) (uuid : String)
  | disconnect
  | sendHello (uuid : String)
  | send (msg : Message)
  | receive (parsed : Json)

variable (J : Juce)

/-- The client after a call. -/
def call (c : BridgeClient) : Call → BridgeClient
  | .connect free uuid => (connect J free uuid c).2.1
  | .disconnect => c.disconnect
  | .sendHello uuid => (sendHello J uuid c).1
  | .send _ => c
  | .receive parsed => oscMessageReceived J c parsed

/-- Messages are received only while the client is listening. -/
def CanHappen (c : BridgeClient) : Call → Prop
  | .receive _ => c.listening = true
  | _ => True

/-- A call as a step. -/
def step (c : BridgeClient) (e : Call) (d : BridgeClient) : Prop :=
  CanHappen c e ∧ d = call J c e

/-- A client before its first call. -/
structure Idle (c : BridgeClient) : Prop where
  receiver : c.receiver = none
  listening : c.listening = false
  localPort : c.localPort = 0
  remotePort : c.remotePort = 0
  connected : c.connected = false
  shown : c.tracker.connected = false

/-- Some port of the plugin's range can be bound. -/
def CanBind (free : ℕ → Bool) : Prop := ∃ port ∈ List.range' pluginPortStart 10, free port = true

variable {J}

/-! ### What `connect` does -/

/-- The client after it has bound a port. -/
def bound (c : BridgeClient) (port : ℕ) : BridgeClient :=
  { c with
    receiver := some port
    localPort := port
    listening := true
    connected := true
    remotePort := scriptPortStart
    tracker := c.tracker.setConnected true }

/-- An attempt that finds a port binds one of the range and connects. -/
theorem connect_of_canBind {free : ℕ → Bool} (h : CanBind free) (uuid : String)
    (c : BridgeClient) : ∃ port, 7010 ≤ port ∧ port ≤ 7019 ∧ (connect J free uuid c).1 = true ∧
      (connect J free uuid c).2.1 = c.bound port := by
  obtain ⟨p, hp, hfree⟩ := h
  rcases hfind : (List.range' pluginPortStart 10).find? free with _ | port
  · exact absurd hfree (List.find?_eq_none.mp hfind p hp)
  · have hmem := List.mem_range'_1.mp (List.mem_of_find?_eq_some hfind)
    simp only [pluginPortStart] at hmem
    refine ⟨port, hmem.1, by omega, ?_⟩
    rw [connect, bindToPortRange, hfind]
    exact ⟨rfl, rfl⟩

/-- An attempt that finds none leaves the receiver unbound, and everything else as it was. -/
theorem connect_of_not_canBind {free : ℕ → Bool} (h : ¬CanBind free) (uuid : String)
    (c : BridgeClient) : connect J free uuid c = (false, { c with receiver := none }, []) := by
  have hfind : (List.range' pluginPortStart 10).find? free = none :=
    List.find?_eq_none.mpr fun port hport hfree => h ⟨port, hport, hfree⟩
  rw [connect, bindToPortRange, hfind]

/-! ### Bookkeeping -/

/-- The books: the flags say whether the receiver is bound, and the ports belong to the
binding. -/
structure Books (c : BridgeClient) : Prop where
  shown : c.connected = c.tracker.connected
  bound : c.connected = true ↔ c.receiver.isSome
  port : c.connected = true → c.receiver = some c.localPort ∧ 7010 ≤ c.localPort ∧
    c.localPort ≤ 7019
  ports : c.connected = false → c.localPort = 0 ∧ c.remotePort = 0

variable (J)

/-- What a call is to bring about besides: a `connect` that fails leaves the client disconnected,
and neither it nor `disconnect` touches the shadow state. -/
def Lived (c : BridgeClient) (e : Call) (d : BridgeClient) : Prop :=
  match e with
  | .connect free uuid => ((connect J free uuid c).1 = false → d.connected = false) ∧
      d.tracker.loopers = c.tracker.loopers
  | .disconnect => d.tracker.loopers = c.tracker.loopers
  | _ => True

/-- What is to hold after a call. -/
def Bookkept (c : BridgeClient) (e : Call) (d : BridgeClient) : Prop := Books d ∧ Lived J c e d

/-- The condition on a call: a connected client connects again only when it can, and one that
is not connected sends no hello. -/
def Orderly (c : BridgeClient) : Call → Prop
  | .connect free _ => c.connected = true → CanBind free
  | .sendHello _ => c.connected = true
  | _ => True

/-- What holds between the calls of an orderly run. -/
structure InStep (c : BridgeClient) : Prop where
  books : Books c
  listening : c.listening = c.connected

theorem Idle.inStep {c : BridgeClient} (h : Idle c) : InStep c where
  books :=
    { shown := h.connected.trans h.shown.symm
      bound := by simp [h.connected, h.receiver]
      port := fun hc => by simp [h.connected] at hc
      ports := fun _ => ⟨h.localPort, h.remotePort⟩ }
  listening := h.listening.trans h.connected.symm

variable {J} {c d : BridgeClient}

theorem books_bound (c : BridgeClient) {port : ℕ} (hlow : 7010 ≤ port) (hhigh : port ≤ 7019) :
    Books (c.bound port) where
  shown := (LooperTracker.setConnected_connected _ _).symm
  bound := by simp [BridgeClient.bound]
  port _ := ⟨rfl, hlow, hhigh⟩
  ports h := by simp [BridgeClient.bound] at h

theorem books_disconnect (c : BridgeClient) : Books c.disconnect where
  shown := (LooperTracker.setConnected_connected _ _).symm
  bound := by simp [BridgeClient.disconnect]
  port h := by simp [BridgeClient.disconnect] at h
  ports _ := ⟨rfl, rfl⟩

/-- A message leaves the books of a connected client in order. -/
theorem Books.same (hc : Books c) (hconn : c.connected = true) (h : SameConnection c d) :
    Books d where
  shown := by rw [h.connected, h.shown, hc.shown]
  bound := by rw [h.connected, h.receiver, hc.bound]
  port := by
    rw [h.connected, h.receiver, h.localPort]
    exact hc.port
  ports hd := by simp [h.connected, hconn] at hd

/-- A client that is not connected is not bound, and has nothing to lose. -/
theorem Books.unbound (hc : Books c) (hconn : c.connected = false) :
    ({ c with receiver := none } : BridgeClient) = c := by
  have hnone : c.receiver = none := by
    rw [← Option.not_isSome_iff_eq_none, ← hc.bound, hconn]
    exact Bool.false_ne_true
  rw [← hnone]

/-- **The step lemma**: a call keeps the books exactly when it is orderly. -/
theorem orderly_iff_bookkept {e : Call} (hc : InStep c) (h : step J c e d) :
    Orderly c e ↔ Bookkept J c e d := by
  obtain ⟨hcan, rfl⟩ := h
  cases e with
  | connect free uuid =>
    rw [Bookkept, Lived, call]
    by_cases hbind : CanBind free
    · obtain ⟨port, hlow, hhigh, htrue, heq⟩ := connect_of_canBind (J := J) hbind uuid c
      refine iff_of_true (fun _ => hbind) ?_
      rw [heq, htrue]
      exact ⟨books_bound c hlow hhigh, fun h => absurd h (by decide),
        LooperTracker.setConnected_loopers _ _⟩
    · rw [connect_of_not_canBind hbind]
      obtain hconn | hconn := Bool.eq_false_or_eq_true c.connected
      · refine iff_of_false (fun h => hbind (h hconn)) ?_
        rintro ⟨-, hfailed, -⟩
        exact absurd (hconn.symm.trans (hfailed rfl)) (by decide)
      · refine iff_of_true (fun h => absurd (h.symm.trans hconn) (by decide)) ?_
        rw [hc.books.unbound hconn]
        exact ⟨hc.books, fun _ => hconn, rfl⟩
  | disconnect =>
    exact iff_of_true trivial ⟨books_disconnect c, LooperTracker.setConnected_loopers _ _⟩
  | sendHello uuid =>
    constructor
    · intro hconn
      have hconn : c.connected = true := hconn
      refine ⟨⟨hc.books.shown, hc.books.bound, hc.books.port, fun h => ?_⟩, trivial⟩
      simp [call, sendHello, hconn] at h
    · rintro ⟨hbooks, -⟩
      -- A hello sets the script's port, which an unconnected client is not to have.
      change c.connected = true
      rcases hconn : c.connected with _ | _
      · have hport := (hbooks.ports hconn).2
        simp [call, sendHello, scriptPortStart] at hport
      · rfl
  | send msg => exact iff_of_true trivial ⟨hc.books, trivial⟩
  | receive parsed =>
    have hconn : c.connected = true := hc.listening.symm.trans hcan
    exact iff_of_true trivial
      ⟨hc.books.same hconn (sameConnection_oscMessageReceived c parsed), trivial⟩

theorem InStep.next {e : Call} (hc : InStep c) (h : step J c e d) (hd : Bookkept J c e d) :
    InStep d := by
  refine ⟨hd.1, ?_⟩
  obtain ⟨-, rfl⟩ := h
  cases e with
  | connect free uuid =>
    by_cases hbind : CanBind free
    · obtain ⟨port, -, -, -, heq⟩ := connect_of_canBind (J := J) hbind uuid c
      rw [call, heq]
      rfl
    · rw [call, connect_of_not_canBind hbind]
      exact hc.listening
  | disconnect => rfl
  | sendHello uuid => exact hc.listening
  | send msg => exact hc.listening
  | receive parsed =>
    have hsame := sameConnection_oscMessageReceived (J := J) c parsed
    rw [call, hsame.listening, hsame.connected, hc.listening]

/-- **Connection bookkeeping.** The books are kept after every call of a run exactly when every
call is orderly. -/
theorem bookkept_iff {es : List Call} (hc : Idle c) :
    Runs.Run (Runs.guarded Orderly (step J)) c es d ↔
      Runs.Run (Runs.checked (Bookkept J) (step J)) c es d :=
  Runs.run_guarded_iff_checked (fun _ _ _ => orderly_iff_bookkept)
    (fun _ _ _ => InStep.next) hc.inStep

theorem idle_default : Idle {} := ⟨rfl, rfl, rfl, rfl, rfl, rfl⟩

/-- A client that connects, receives a result and disconnects. -/
theorem bookkept_session : ∃ d, Runs.Run (Runs.checked (Bookkept .plain) (step .plain)) {}
    [.connect (fun _ => true) "u", .receive .null, .disconnect] d := by
  refine ⟨_, (bookkept_iff idle_default).mp (.cons ⟨?_, trivial, rfl⟩
    (.cons ⟨trivial, rfl, rfl⟩ (.cons ⟨trivial, trivial, rfl⟩ (.nil _))))⟩
  exact fun _ => ⟨7010, by decide, rfl⟩

/-- **A failed reconnection is not noticed**: the receiver has lost its port, and the client goes
on calling itself connected. -/
theorem not_bookkept : ¬∀ (J : Juce) (c d : BridgeClient) (es : List Call), Idle c →
    Runs.Run (step J) c es d → Runs.Run (Runs.checked (Bookkept J) (step J)) c es d := by
  intro h
  have hrun := h .plain {} _ [.connect (fun _ => true) "u", .connect (fun _ => false) "v"]
    idle_default (.cons ⟨trivial, rfl⟩ (.cons ⟨trivial, rfl⟩ (.nil _)))
  obtain ⟨c₁, ⟨⟨-, rfl⟩, -⟩, hrest⟩ := Runs.run_cons_iff.mp hrun
  obtain ⟨c₂, ⟨⟨-, rfl⟩, -, hfailed, -⟩, -⟩ := Runs.run_cons_iff.mp hrest
  have hconnected := hfailed (by decide +kernel)
  revert hconnected
  decide +kernel

/-! ### The indicator -/

variable (J)

/-- A message is the answer to a hello, with success: a result with the script's port. -/
def answersHello (parsed : Json) : Bool :=
  J.toText (property "event" parsed) == "result" &&
    J.toBool (property "success" (property "data" parsed)) &&
      ((property "data" parsed).get? "port").isSome

/-- A client, and whether a hello has been answered since it was last told to connect. -/
structure Watched where
  client : BridgeClient
  answered : Bool := false

/-- What a call makes of the answer. -/
def Watched.answer (w : Watched) : Call → Bool
  | .connect _ _ => false
  | .receive parsed => w.answered || answersHello J parsed
  | _ => w.answered

/-- A call of a watched client. -/
def Watched.step (w : Watched) (e : Call) (w' : Watched) : Prop :=
  BridgeClient.step J w.client e w'.client ∧ w'.answered = w.answer J e

/-- A connection is shown only when the script has answered. -/
def ShownWithScript (_ : Watched) (_ : Call) (w : Watched) : Prop :=
  w.client.tracker.connected = true → w.answered = true

/-- The condition on a call: a `connect` binds no port. -/
def BindsNothing (_ : Watched) : Call → Prop
  | .connect free _ => ¬CanBind free
  | _ => True

variable {J}

/-- No other call than `connect` turns the indicator on. -/
theorem shown_call (hc : c.tracker.connected = false) {e : Call}
    (he : ∀ free uuid, e = .connect free uuid → ¬CanBind free) :
    (call J c e).tracker.connected = false := by
  cases e with
  | connect free uuid =>
    rw [call, connect_of_not_canBind (he free uuid rfl)]
    exact hc
  | disconnect => exact LooperTracker.setConnected_connected _ _
  | sendHello uuid => exact hc
  | send msg => exact hc
  | receive parsed =>
    rw [call, (sameConnection_oscMessageReceived c parsed).shown]
    exact hc

/-- **The step lemma**: while nothing is shown, a call shows too much exactly when it binds a
port. -/
theorem bindsNothing_iff_shownWithScript {w w' : Watched} {e : Call}
    (hw : w.client.tracker.connected = false) (h : w.step J e w') :
    BindsNothing w e ↔ ShownWithScript w e w' := by
  obtain ⟨⟨-, hclient⟩, hanswer⟩ := h
  rw [ShownWithScript, hclient, hanswer]
  cases e with
  | connect free uuid =>
    by_cases hbind : CanBind free
    · -- The answer cannot be there yet.
      obtain ⟨port, -, -, -, heq⟩ := connect_of_canBind (J := J) hbind uuid w.client
      refine iff_of_false (fun h => h hbind) fun h => ?_
      have hanswered := h (by rw [call, heq]; exact LooperTracker.setConnected_connected _ _)
      cases hanswered
    · refine iff_of_true hbind fun hshown => ?_
      rw [shown_call hw fun _ _ heq => by cases heq; exact hbind] at hshown
      cases hshown
  | _ =>
    refine iff_of_true trivial fun hshown => ?_
    rw [shown_call hw fun _ _ heq => by cases heq] at hshown
    cases hshown

/-- **Shown with a script.** A run of a client that is not connected shows no connection without
an answered hello exactly when no `connect` of the run binds a port. -/
theorem shownWithScript_iff {w w' : Watched} {es : List Call} (hw : Idle w.client) :
    Runs.Run (Runs.guarded BindsNothing (Watched.step J)) w es w' ↔
      Runs.Run (Runs.checked ShownWithScript (Watched.step J)) w es w' := by
  refine Runs.run_guarded_iff_checked (P := fun w => w.client.tracker.connected = false)
    (fun _ _ _ => bindsNothing_iff_shownWithScript) (fun w e w' hw h hpost => ?_) hw.shown
  have hbinds := (bindsNothing_iff_shownWithScript hw h).mpr hpost
  rw [h.1.2]
  refine shown_call hw fun free uuid he => ?_
  rw [he] at hbinds
  exact hbinds

/-- A client that finds no port shows nothing. -/
theorem shownWithScript_unbound : ∃ w, Runs.Run
    (Runs.checked ShownWithScript (Watched.step .plain)) ⟨{}, false⟩
      [.connect (fun _ => false) "u", .disconnect] w := by
  refine ⟨⟨_, _⟩, (shownWithScript_iff idle_default).mp (.cons ⟨?_, ⟨trivial, rfl⟩, rfl⟩
    (.cons ⟨trivial, ⟨trivial, rfl⟩, rfl⟩ (.nil _)))⟩
  rintro ⟨port, -, hfree⟩
  cases hfree

/-- **A bound port is shown as a connection** before any script has answered. -/
theorem not_shownWithScript : ¬∀ (J : Juce) (w w' : Watched) (es : List Call), Idle w.client →
    Runs.Run (Watched.step J) w es w' →
      Runs.Run (Runs.checked ShownWithScript (Watched.step J)) w es w' := by
  intro h
  have hrun := h .plain ⟨{}, false⟩ ⟨_, _⟩ [.connect (fun _ => true) "u"] idle_default
    (.cons ⟨⟨trivial, rfl⟩, rfl⟩ (.nil _))
  obtain ⟨w, ⟨⟨⟨-, hclient⟩, hanswer⟩, hshown⟩, -⟩ := Runs.run_cons_iff.mp hrun
  have hanswered := hshown (by rw [hclient]; decide +kernel)
  rw [hanswer] at hanswered
  cases hanswered

end BridgeClient

end LooperControl
