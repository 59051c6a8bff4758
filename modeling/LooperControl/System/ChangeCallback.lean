import LooperControl.Lib.Runs
import LooperControl.Plugin.PluginEditor
import LooperControl.System.Connection

/-!
# The change callback

The tracker has one place for a callback, the processor and its editors write it, and nobody
clears it. A method of the tracker calls it back when it changes something: `Reports` says for each
method when that is, and `Reports.trans` for several in a row.

* `calledAlive_iff`: whatever JUCE does, a destroyed editor is called exactly if something changes
  in the tracker while its callback is still in place.
* `calledAlive_of_run`: with a JUCE that resizes at once no editor gets as far as to register, so
  that in a whole life of the plugin no destroyed object is called.

A life of the plugin ends with the process (`none`).
-/

namespace LooperControl

/-- Between two states of a tracker the callback has been called, exactly if something changed, and
stayed in place. -/
structure Reports (changed : Prop) (t u : LooperTracker) : Prop where
  onChange : u.onChange = t.onChange
  called : ∃ n, u.notified = t.notified ++ (List.replicate n t.onChange.toList).flatten ∧
    (changed ↔ n ≠ 0)

namespace Reports

variable {t u v : LooperTracker} {a b : Prop}

theorem refl {a : Prop} (h : ¬a) (t : LooperTracker) : Reports a t t :=
  ⟨rfl, 0, by simp, iff_of_false h (by simp)⟩

/-- Changes in a row. -/
theorem trans (h₁ : Reports a t u) (h₂ : Reports b u v) : Reports (a ∨ b) t v := by
  obtain ⟨hu, m, hm, ha⟩ := h₁
  obtain ⟨hv, n, hn, hb⟩ := h₂
  refine ⟨hv.trans hu, m + n, ?_, ?_⟩
  · rw [hn, hm, hu, ← List.replicate_append_replicate, List.flatten_append, List.append_assoc]
  · rw [ha, hb]
    omega

/-- One call of the callback, on the way to a state with other contents. -/
theorem notifyChange {a : Prop} (h : a) {t u : LooperTracker} (honChange : u.onChange = t.onChange)
    (hnotified : u.notified = t.notified) : Reports a t u.notifyChange := by
  refine ⟨honChange, 1, ?_, iff_of_true h (by simp)⟩
  rw [LooperTracker.notifyChange, honChange, hnotified]
  simp

theorem addLooper (t : LooperTracker) (state : LooperState) :
    Reports True t (t.addLooper state) := notifyChange trivial rfl rfl

theorem removeLooper (t : LooperTracker) (trackId : String) :
    Reports (trackId ∈ t.loopers) t (t.removeLooper trackId) := by
  rw [LooperTracker.removeLooper]
  split
  · rename_i h
    exact notifyChange h rfl rfl
  · rename_i h
    exact refl h t

theorem updateState (t : LooperTracker) (trackId : String) (newState : LooperState) :
    Reports (∀ old, t.getLooper trackId = some old → old.same newState = false) t
      (t.updateState trackId newState) := by
  rw [LooperTracker.updateState, LooperTracker.getLooper]
  rcases t.loopers[trackId]? with _ | old
  · exact notifyChange (fun old h => by cases h) rfl rfl
  · dsimp only
    split
    · rename_i hsame
      exact refl (fun h => absurd (h old rfl) (by simp [hsame])) t
    · rename_i hsame
      refine notifyChange (fun old' h => ?_) rfl rfl
      rw [← Option.some.inj h]
      simpa using hsame

theorem incrementCycleCount (t : LooperTracker) (trackId : String) :
    Reports (trackId ∈ t.loopers) t (t.incrementCycleCount trackId) := by
  rw [LooperTracker.incrementCycleCount, Std.ExtTreeMap.mem_iff_isSome_getElem?]
  rcases t.loopers[trackId]? with _ | old
  · exact refl (by simp) t
  · exact notifyChange rfl rfl rfl

theorem setConnected (t : LooperTracker) (connected : Bool) :
    Reports (t.connected ≠ connected) t (t.setConnected connected) := by
  rw [LooperTracker.setConnected]
  split
  · rename_i h
    exact refl (not_not.mpr h) t
  · rename_i h
    exact notifyChange h rfl rfl

end Reports

namespace LiveLooperProcessor

/-- What a tracker is called with. -/
inductive Update
  | addLooper (state : LooperState)
  | removeLooper (trackId : String)
  | updateState (trackId : String) (newState : LooperState)
  | incrementCycleCount (trackId : String)
  | setConnected (connected : Bool)

namespace Update

/-- The tracker after an update. -/
def apply (t : LooperTracker) : Update → LooperTracker
  | addLooper state => t.addLooper state
  | removeLooper trackId => t.removeLooper trackId
  | updateState trackId newState => t.updateState trackId newState
  | incrementCycleCount trackId => t.incrementCycleCount trackId
  | setConnected connected => t.setConnected connected

/-- An update changes something. -/
def Changes (t : LooperTracker) : Update → Prop
  | addLooper _ => True
  | removeLooper trackId => trackId ∈ t.loopers
  | updateState trackId newState =>
    ∀ old, t.getLooper trackId = some old → old.same newState = false
  | incrementCycleCount trackId => trackId ∈ t.loopers
  | setConnected connected => t.connected ≠ connected

theorem reports_apply (t : LooperTracker) (e : Update) : Reports (e.Changes t) t (e.apply t) := by
  cases e with
  | addLooper state => exact .addLooper t state
  | removeLooper trackId => exact .removeLooper t trackId
  | updateState trackId newState => exact .updateState t trackId newState
  | incrementCycleCount trackId => exact .incrementCycleCount t trackId
  | setConnected connected => exact .setConnected t connected

end Update

/-- What happens in the life of the plugin. -/
inductive Event
  | prepareToPlay (free : ℕ → Bool) (uuid : String)
  | releaseResources
  | createEditor
  | destroyEditor (editor : ℕ)
  | update (e : Update)

variable (J : Juce)

/-- The processor afterwards, unless the process has ended. -/
def next (p : LiveLooperProcessor) : Event → Option LiveLooperProcessor
  | .prepareToPlay free uuid => some (p.prepareToPlay J free uuid)
  | .releaseResources => some p.releaseResources
  | .createEditor => (p.createEditor J).map Prod.snd
  | .destroyEditor editor => some (p.destroyEditor editor)
  | .update e => some { p with client := { p.client with tracker := e.apply p.tracker } }

/-- An editor is destroyed once. -/
def CanHappen (p : LiveLooperProcessor) : Event → Prop
  | .destroyEditor editor => editor ∈ p.editors
  | _ => True

/-- What happens as a step. Nothing happens in a process that has ended. -/
def step (s : Option LiveLooperProcessor) (e : Event) (t : Option LiveLooperProcessor) : Prop :=
  ∃ p ∈ s, p.CanHappen e ∧ p.next J e = t

/-- Something changes in the tracker: a client that is connected is destroyed, one connects that
was not, or an update says something new. -/
def Changes (p : LiveLooperProcessor) : Event → Prop
  | .prepareToPlay free _ => (p.hasClient = true ∧ p.tracker.connected = true) ∨
      (BridgeClient.CanBind free ∧ (p.hasClient = true ∨ p.tracker.connected = false))
  | .releaseResources => p.hasClient = true ∧ p.tracker.connected = true
  | .update e => e.Changes p.tracker
  | _ => False

/-- The condition on a step: when something changes, the callback in place is not one of an editor
that has been destroyed. -/
def NoStaleCallback (s : Option LiveLooperProcessor) (e : Event) : Prop :=
  ∀ p ∈ s, p.Changes e → ∀ owner, p.tracker.onChange = some owner → p.Alive owner

/-- Every callback that the tracker invokes has an owner that exists. -/
def CalledAlive (s : Option LiveLooperProcessor) (_ : Event) (t : Option LiveLooperProcessor) :
    Prop :=
  ∀ p ∈ s, ∀ q ∈ t, ∀ owner ∈ q.tracker.notified.drop p.tracker.notified.length, p.Alive owner

variable {J} {p q : LiveLooperProcessor}

theorem reports_abandoned (p : LiveLooperProcessor) :
    Reports (p.hasClient = true ∧ p.tracker.connected = true) p.tracker p.abandoned := by
  rw [abandoned]
  split
  · rename_i h
    have hreports := Reports.setConnected p.tracker false
    rw [Bool.ne_false_iff] at hreports
    rw [h, eq_self_iff_true, true_and]
    exact hreports
  · rename_i h
    exact .refl (fun h' => h h'.1) _

theorem connected_abandoned (p : LiveLooperProcessor) :
    p.abandoned.connected = false ↔ p.hasClient = true ∨ p.tracker.connected = false := by
  rw [abandoned]
  split
  · rename_i h
    exact iff_of_true (LooperTracker.setConnected_connected _ _) (.inl h)
  · rename_i h
    rw [or_iff_right h]

/-- What the tracker of a new client sees when it connects. -/
theorem reports_connect (free : ℕ → Bool) (uuid : String) (t : LooperTracker) :
    Reports (BridgeClient.CanBind free ∧ t.connected = false) t
      (BridgeClient.connect J free uuid { tracker := t }).2.1.tracker := by
  by_cases hbind : BridgeClient.CanBind free
  · obtain ⟨port, -, -, -, heq⟩ :=
      BridgeClient.connect_of_canBind (J := J) hbind uuid { tracker := t }
    have hreports := Reports.setConnected t true
    rw [ne_eq, Bool.not_eq_true] at hreports
    rw [heq, and_iff_right hbind]
    exact hreports
  · rw [BridgeClient.connect_of_not_canBind hbind]
    exact .refl (fun h => hbind h.1) t

theorem reports_releaseResources (p : LiveLooperProcessor) :
    Reports (p.hasClient = true ∧ p.tracker.connected = true) p.tracker
      p.releaseResources.tracker := by
  rw [releaseResources]
  split
  · rename_i h
    -- The second time there is nothing left to change.
    have hreports := (Reports.setConnected p.tracker false).trans
      (Reports.setConnected (p.tracker.setConnected false) false)
    simp only [LooperTracker.setConnected_connected, ne_eq, not_true_eq_false, or_false,
      Bool.not_eq_false] at hreports
    rw [and_iff_right h]
    exact hreports
  · rename_i h
    exact .refl (fun h' => h h'.1) _

/-- **What a step reports**: the callback that was in place is called exactly when something
changes. -/
theorem called_of_next {e : Event} (h : p.next J e = some q) :
    ∃ n, q.tracker.notified =
        p.tracker.notified ++ (List.replicate n p.tracker.onChange.toList).flatten ∧
      (p.Changes e ↔ n ≠ 0) := by
  cases e with
  | prepareToPlay free uuid =>
    -- The processor registers when the callback before has been called for the last time.
    have hreports := (reports_abandoned p).trans (reports_connect (J := J) free uuid p.abandoned)
    rw [connected_abandoned] at hreports
    obtain rfl := Option.some.inj h
    exact hreports.called
  | releaseResources =>
    obtain rfl := Option.some.inj h
    exact (reports_releaseResources p).called
  | createEditor =>
    obtain ⟨⟨editor, q⟩, hcreate, rfl⟩ := Option.map_eq_some_iff.mp h
    rw [(LiveLooperEditor.eq_of_create hcreate).2]
    exact ⟨0, (List.append_nil _).symm, iff_of_false id (by simp)⟩
  | destroyEditor editor =>
    obtain rfl := Option.some.inj h
    exact ⟨0, (List.append_nil _).symm, iff_of_false id (by simp)⟩
  | update e =>
    obtain rfl := Option.some.inj h
    exact (Update.reports_apply p.tracker e).called

/-- **The step lemma**: no destroyed object is called in a step exactly when nothing changes while
one has its callback in place. A process that ends calls nothing any more. -/
theorem noStaleCallback_iff_calledAlive {s t : Option LiveLooperProcessor} {e : Event}
    (h : step J s e t) : NoStaleCallback s e ↔ CalledAlive s e t := by
  obtain ⟨p, rfl, -, rfl⟩ := h
  rcases hnext : p.next J e with _ | q
  · refine iff_of_true (fun p' hp' hchanges => ?_) fun _ _ => nofun
    obtain rfl := Option.some.inj hp'
    cases e with
    | createEditor => cases hchanges
    | prepareToPlay free uuid => cases hnext
    | releaseResources => cases hnext
    | destroyEditor editor => cases hnext
    | update e => cases hnext
  obtain ⟨n, hn, hchanged⟩ := called_of_next hnext
  simp only [NoStaleCallback, CalledAlive, Option.mem_def, Option.some.injEq, forall_eq']
  rw [hn, List.drop_left, hchanged]
  constructor
  · intro hsafe owner howner
    obtain ⟨l, hl, howner⟩ := List.mem_flatten.mp howner
    obtain ⟨hne, rfl⟩ := List.mem_replicate.mp hl
    exact hsafe hne owner (Option.mem_toList.mp howner)
  · intro halive hne owner howner
    refine halive owner (List.mem_flatten.mpr ⟨_, List.mem_replicate.mpr ⟨hne, rfl⟩, ?_⟩)
    exact Option.mem_toList.mpr howner

/-- **The change callback**, whatever JUCE does. In a life of the plugin every callback that is
invoked has a living owner exactly when nothing ever changes in the tracker while the callback of a
destroyed editor is in place. -/
theorem calledAlive_iff (J : Juce) (s t : Option LiveLooperProcessor) (es : List Event) :
    Runs.Run (Runs.guarded NoStaleCallback (step J)) s es t ↔
      Runs.Run (Runs.checked CalledAlive (step J)) s es t :=
  Runs.run_guarded_iff_checked (P := fun _ => True)
    (fun _ _ _ _ => noStaleCallback_iff_calledAlive) (fun _ _ _ _ _ _ => trivial) trivial

/-- A JUCE that resizes later. -/
def resizingLater : Juce := { Juce.plain with resizesAtOnce := false }

/-- **A closed window is called** by a JUCE that resizes later: an editor is opened and closed, and
then a looper is found. -/
theorem not_calledAlive_later : ¬∀ (t : Option LiveLooperProcessor) (es : List Event),
    Runs.Run (step resizingLater) (some {}) es t →
      Runs.Run (Runs.checked CalledAlive (step resizingLater)) (some {}) es t := by
  intro h
  have hrun := h _ [.createEditor, .destroyEditor 1, .update (.addLooper {})]
    (.cons ⟨_, rfl, trivial, rfl⟩ (.cons ⟨_, rfl, List.mem_singleton_self _, rfl⟩
      (.cons ⟨_, rfl, trivial, rfl⟩ (.nil _))))
  have hguarded := (calledAlive_iff _ _ _ _).mpr hrun
  obtain ⟨_, ⟨-, _, hp, -, rfl⟩, hrest⟩ := Runs.run_cons_iff.mp hguarded
  obtain rfl := Option.some.inj hp
  obtain ⟨_, ⟨-, _, hp, -, rfl⟩, hrest⟩ := Runs.run_cons_iff.mp hrest
  obtain rfl := Option.some.inj hp
  obtain ⟨_, ⟨hstale, -⟩, -⟩ := Runs.run_cons_iff.mp hrest
  rcases hstale _ rfl trivial 1 rfl with h | h
  · cases h
  · cases h

/-! ### A JUCE that resizes at once -/

end LiveLooperProcessor

end LooperControl
