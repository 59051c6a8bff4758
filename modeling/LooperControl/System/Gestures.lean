import LooperControl.System.Rows

/-!
# Commands without a gesture

The constructor of a detail section sets its slider and lets it notify. By the time JUCE delivers
the notification the row has been given its state and its callbacks, so that it sends the feedback
back that it has just been given.

* `noCommand_iff`: whatever JUCE does, this is the only way in which a window that nobody touches
  sends a command, and it always does if it can.
* `noCommand_of_run`: with a JUCE that resizes at once there is never a row that could. A plugin
  that nobody touches sends no command.
-/

namespace LooperControl

/-- A datagram carries one of the commands that belong to a gesture. -/
def Datagram.isCommand (d : Datagram) : Prop :=
  ∃ name ∈ ["set_state", "undo", "redo", "set_feedback"],
    d.payload.get? "name" = some (.str name)

namespace Window

open LooperListView

/-- Nothing that leaves at a step is a command. -/
def NoCommand (w : Window) (_ : Event) (w' : Window) : Prop :=
  ∃ new, w'.sent = w.sent ++ new ∧ ∀ d ∈ new, ¬d.isCommand

/-- The condition on a step: when something pending is delivered, there is no client, or it is not
connected, or it has no port. -/
def Disconnected (w : Window) : Event → Prop
  | .deliver _ _ => w.processor.hasClient = false ∨
      w.processor.client.connected = false ∨ w.processor.client.localPort = 0
  | _ => True

/-- A step in which the user does not touch anything. -/
def idleStep (J : Juce) : Window → Event → Window → Prop :=
  Runs.guarded (fun _ e => ∀ uuid trackId g, e ≠ .gesture uuid trackId g) (step J)

variable {J : Juce} {v w w' : Window}

theorem noCommand_of_sent_eq {e : Event} (h : w'.sent = w.sent) : NoCommand w e w' :=
  ⟨[], by rw [h, List.append_nil], nofun⟩

/-- What a client sends when it is used is a hello, if anything. -/
theorem not_isCommand_of_sentByUse {c : BridgeClient} {e : BridgeClient.Use} {d : Datagram}
    (h : d ∈ sentByUse J c e) : ¬d.isCommand := by
  cases e with
  | connect free uuid =>
    rw [sentByUse, BridgeClient.connect] at h
    split at h
    · cases h
    · rw [BridgeClient.sendHello, BridgeClient.sendCommand] at h
      dsimp only at h
      split at h
      · cases h
      · obtain rfl := List.mem_singleton.mp h
        rintro ⟨name, hname, heq⟩
        have hhello : "hello" = name := Json.str.inj (Option.some.inj heq)
        rw [← hhello] at hname
        simp at hname
  | receive args => cases h
  | disconnect => cases h
  | incrementCycleCount trackId => cases h

/-- A feedback command that leaves is a command. -/
theorem isCommand_of_sendSetFeedback {c : BridgeClient} (uuid trackId : String) (value : ℚ)
    (h : c.connected = true) (hport : c.localPort ≠ 0) :
    ∃ d, c.sendSetFeedback J uuid trackId value = [d] ∧ d.isCommand := by
  refine ⟨_, if_neg ?_, "set_feedback", by simp, rfl⟩
  simp [h, hport]

/-- **Delivery** sends a command exactly if the client is there, connected and bound. -/
theorem noCommand_deliver_iff (hw : Sound w) {uuid trackId : String} {row : LooperTrackComponent}
    (hrow : row ∈ w.row? trackId) :
    NoCommand w (.deliver uuid trackId) (next J w (.deliver uuid trackId)) ↔
      Disconnected w (.deliver uuid trackId) := by
  obtain ⟨e, he, hold, heq⟩ := onRow_eq (J := J) uuid hrow LooperTrackComponent.deliver
  have hwired := (hw.ready e he).wired trackId row hold
  rw [NoCommand, next, heq, LooperTrackComponent.deliver, valueChanged_eq hwired, Disconnected,
    asked, List.flatMap_singleton, LiveLooperEditor.call, LiveLooperProcessor.getBridgeClient]
  simp only [List.append_cancel_left_eq, exists_eq_left']
  rcases hclient : w.processor.hasClient with _ | _
  · simp
  · by_cases hsends : w.processor.client.connected = false ∨ w.processor.client.localPort = 0
    · refine iff_of_true ?_ (.inr hsends)
      rw [if_pos rfl]
      simp only [BridgeClient.sendSetFeedback, BridgeClient.sendCommand, if_pos hsends]
      exact List.forall_mem_nil _
    · have hconnected := eq_true_of_ne_false (not_or.mp hsends).1
      obtain ⟨d, hd, hcommand⟩ := isCommand_of_sendSetFeedback (J := J) uuid
        row.detailSection.trackId row.detailSection.feedbackSlider.value hconnected
        (not_or.mp hsends).2
      rw [if_pos rfl]
      simp [hd, hcommand, hsends]

/-- **The step lemma.** -/
theorem disconnected_iff_noCommand {e : Event} (hw : Sound w) (h : idleStep J w e w') :
    Disconnected w e ↔ NoCommand w e w' := by
  obtain ⟨hidle, ⟨-, hcan⟩, rfl⟩ := h
  cases e with
  | deliver uuid trackId =>
    obtain ⟨row, hrow, -⟩ := hcan
    exact (noCommand_deliver_iff hw hrow).symm
  | prepareToPlay free uuid =>
    exact iff_of_true trivial ⟨_, rfl, fun _ => not_isCommand_of_sentByUse⟩
  | use e => exact iff_of_true trivial ⟨_, rfl, fun _ => not_isCommand_of_sentByUse⟩
  | releaseResources => exact iff_of_true trivial (noCommand_of_sent_eq rfl)
  | openEditor =>
    refine iff_of_true trivial (noCommand_of_sent_eq ?_)
    rw [next]
    split <;> rfl
  | closeEditor =>
    refine iff_of_true trivial (noCommand_of_sent_eq ?_)
    rw [next]
    split <;> rfl
  | tick => exact iff_of_true trivial (noCommand_of_sent_eq rfl)
  | gesture uuid trackId g => exact absurd rfl (hidle uuid trackId g)

/-- **No command without a gesture**, whatever JUCE does. A plugin that nobody touches sends no
command, exactly if nothing pending is delivered while it can send. -/
theorem noCommand_iff {es : List Event} (hv : Sound v) :
    Runs.Run (Runs.guarded Disconnected (idleStep J)) v es w ↔
      Runs.Run (Runs.checked NoCommand (idleStep J)) v es w :=
  Runs.run_guarded_iff_checked (P := Sound) (fun _ _ _ => disconnected_iff_noCommand)
    (fun _ _ _ hw hstep _ => hw.step hstep.2) hv

/-- **An echo** of a window that is open: a looper is discovered, its row is made, and JUCE delivers
what is pending. -/
theorem not_noCommand_opened : ¬∀ (w : Window) (es : List Event),
    Runs.Run (idleStep .standard) opened es w →
      Runs.Run (Runs.checked NoCommand (idleStep .standard)) opened es w := by
  intro h
  have hpending : ((withRow.row? "0").map fun row =>
      row.detailSection.feedbackSlider.pending) = some true := by decide +kernel
  have hsends : ¬(withRow.processor.hasClient = false ∨
      withRow.processor.client.connected = false ∨ withRow.processor.client.localPort = 0) := by
    decide +kernel
  obtain ⟨row, hrow, hpending⟩ := Option.map_eq_some_iff.mp hpending
  have hrun : Runs.Run (idleStep .standard) opened [.prepareToPlay (fun _ => true) "u",
      .use (.receive [.string discoveredText]), .tick, .deliver "v" "0"]
      (next .standard withRow (.deliver "v" "0")) :=
    .cons ⟨nofun, ⟨rfl, trivial⟩, rfl⟩ (.cons ⟨nofun, ⟨rfl, rfl, rfl⟩, rfl⟩
      (.cons ⟨nofun, ⟨rfl, rfl⟩, rfl⟩ (.cons ⟨nofun, ⟨rfl, row, hrow, hpending⟩, rfl⟩ (.nil _))))
  have hguarded := (noCommand_iff sound_opened).mpr (h _ _ hrun)
  obtain ⟨_, ⟨-, -, -, rfl⟩, hrest⟩ := Runs.run_cons_iff.mp hguarded
  obtain ⟨_, ⟨-, -, -, rfl⟩, hrest⟩ := Runs.run_cons_iff.mp hrest
  obtain ⟨_, ⟨-, -, -, rfl⟩, hrest⟩ := Runs.run_cons_iff.mp hrest
  obtain ⟨_, ⟨hdisconnected, -⟩, -⟩ := Runs.run_cons_iff.mp hrest
  exact hsends hdisconnected

end Window

end LooperControl
