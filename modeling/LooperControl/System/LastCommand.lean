import LooperControl.Plugin.MessageProtocol
import LooperControl.Script.Handlers
import LooperControl.System.ParamChange

/-!
# The last command

A slider that is dragged sends one `set_feedback` after the other, and the script handles each in
a thread of its own. Nothing keeps the threads in the order in which the commands were sent.

* **One command**: `SetsFeedback`, and the assignment that it comes to
  (`SetsFeedback.assignment?_eq`).
* **The run theorem**: `lastCommand_iff`. The last command wins exactly in the runs in which no
  handler writes another value once all that hold its value have written.
-/

namespace LooperControl

open LooperControlSurface BridgeServer Script LooperDiscovery

/-! ### A command and its place -/

/-- A message that asks for a feedback of the looper under a track id. -/
structure SetsFeedback (message : Json) (trackId : String) (v : Double) : Prop where
  isObj : message.isObj = true
  command : isCommand message
  ns : (message.get? "ns").getD (.str "") = .str "looper"
  name : (message.get? "name").getD (.str "") = .str "set_feedback"
  args : (argsOf message).isObj = true
  trackId : trackIdOf (argsOf message) = .str trackId
  feedback : pyFloat (((argsOf message).get? "feedback").getD (.float (.finite (1 / 2)))) = .ok v

/-- What the plugin sends, where its parser reads back the arguments that it has spelled. -/
theorem setsFeedback_createSetFeedback {J : Juce} {uuid trackId : String} {feedbackValue : ℚ}
    {number : Json} {v : Double} (hnumber : pyFloat number = .ok v)
    (h : J.parse ("\x7b\"track_id\": \"" ++ trackId ++ "\", \"feedback\": " ++
      J.floatText feedbackValue ++ "\x7d") =
        .obj [("track_id", .str trackId), ("feedback", number)]) :
    SetsFeedback (MessageProtocol.messageToJson
      (MessageProtocol.createSetFeedback J uuid trackId feedbackValue)) trackId v := by
  rw [MessageProtocol.createSetFeedback, h]
  refine ⟨rfl, ⟨rfl, fun h => ?_⟩, rfl, rfl, rfl, rfl, hnumber⟩
  exact absurd h.2 (by simp [MessageProtocol.messageToJson])

namespace SetsFeedback

variable {message : Json} {trackId : String} {v w : Double}

theorem unique (h : SetsFeedback message trackId v) : SetsFeedback message trackId w ↔ v = w := by
  constructor
  · intro h'
    exact Except.ok.inj (h.feedback.symm.trans h'.feedback)
  · rintro rfl
    exact h

/-- The command comes to an assignment of its value at the looper's place. -/
theorem assignment?_eq (h : SetsFeedback message trackId v) {s : Script}
    {place : ℕ × ℕ × ℕ × Param} (hplace : s.place? (.str trackId) "Feedback" = some place) :
    s.assignment? message = some (place, v) := by
  have hwrite : writeIn? message = some ("Feedback", .ok v) := by
    rw [writeIn?, if_pos ⟨h.isObj, h.command, h.ns, h.args⟩, h.name, ← h.feedback]
    rfl
  rw [Script.assignment?, hwrite]
  simp only
  rw [h.trackId, hplace]
  rfl

end SetsFeedback

/-- An address stays where it is when the parameter there takes a value. -/
theorem addressed_setValue {song : Song} {trackIdx deviceIdx : ℤ} {paramName : String}
    {i j k : ℕ} {p : Param} (h : addressed song trackIdx deviceIdx paramName = some (i, j, k, p))
    (v : Double) : addressed (song.setValue i j k v) trackIdx deviceIdx paramName =
      some (i, j, k, { p with value := v }) := by
  obtain ⟨hi, track, device, ht, hj, hd, hloop, hreadable, hfirst⟩ := addressed_eq_some_iff.mp h
  refine addressed_eq_some_iff.mpr ⟨?_, track.withValue j k v, device.withValue k v, ?_, ?_, ?_,
    (isLooperDevice_withValue k v device).trans hloop, hreadable, ?_, hfirst.named,
    fun k' q hk' hq => ?_⟩
  · have hlength : (song.setValue i j k v).tracks.length = song.tracks.length :=
      List.length_modify ..
    rw [hlength, hi]
  · simp [Song.setValue, withValue, ht]
  · rw [Track.withValue, List.length_modify, hj]
  · simp [Track.withValue, hd]
  · simp [Device.withValue, hfirst.get]
  · have hother : (device.withValue k v).params[k']? = device.params[k']? := by
      simp [Device.withValue, Nat.ne_of_gt hk']
    exact hfirst.first k' q hk' (hother ▸ hq)

theorem place?_store {s : Script} {trackId : Json} {paramName : String} {i j k : ℕ} {p : Param}
    (h : s.place? trackId paramName = some (i, j, k, p)) (q : Param) (v : Double) :
    (s.store i j k q v).place? trackId paramName = some (i, j, k, { p with value := v }) := by
  rw [Script.place?] at h ⊢
  split at h
  · rename_i trackIdx info htrack hinfo
    split at h
    · rename_i deviceIdx hdevice
      have hinfo' : recordedUnder (s.store i j k q v).discoveredLoopers trackId = some info := hinfo
      simp only [htrack, hinfo', hdevice]
      exact addressed_setValue h v
    · cases h
  · cases h

theorem place?_of_onlySent {s t : Script} (h : OnlySent s t) (trackId : Json)
    (paramName : String) : t.place? trackId paramName = s.place? trackId paramName := by
  obtain ⟨new, rfl⟩ := h
  rfl

/-- The parameter of a place stands there. -/
theorem paramAt?_of_place {s : Script} {trackId : Json} {paramName : String} {i j k : ℕ}
    {p : Param} (h : s.place? trackId paramName = some (i, j, k, p)) :
    s.live.song.paramAt? i j k = some p := by
  rw [Script.place?] at h
  split at h
  · split at h
    · exact paramAt?_of_addressed h
    · cases h
  · cases h

/-! ### Handlers of one looper's commands -/

namespace LastCommand

section Handlers

variable (trackId : String) (i j k : ℕ) (stores : Double → Bool)

/-- The looper's Feedback parameter stands at a place and accepts certain values. -/
def StandsAt (s : Script) : Prop :=
  ∃ p, s.place? (.str trackId) "Feedback" = some (i, j, k, p) ∧ p.stores = stores

/-- A handler of one of the looper's commands, before or after it has assigned its value. -/
def Handles : Handler → Prop
  | .received message => ∃ v, SetsFeedback message trackId v
  | .assigning _ a b c p _ => (a, b, c) = (i, j, k) ∧ p.stores = stores
  | _ => True

/-- What a step of such a handler does: it resolves the command, assigns the value or fails to,
or goes on after that. -/
inductive Moved (s s' : Script) : Handler → Handler → Prop
  | resolved (message uuid : Json) (p : Param) (v : Double) (h : SetsFeedback message trackId v)
      (hp : p.stores = stores) (hs : s' = s) :
      Moved s s' (.received message) (.assigning uuid i j k p v)
  | stored (uuid : Json) (p : Param) (v : Double) (t' : Handler) (hp : p.stores = stores)
      (hv : stores v = true) (hs : s' = s.store i j k p v) (ht' : t'.Past) :
      Moved s s' (.assigning uuid i j k p v) t'
  | refused (uuid : Json) (p : Param) (v : Double) (t' : Handler) (hp : p.stores = stores)
      (hv : stores v = false) (hs : s' = s) (ht' : t'.Past) :
      Moved s s' (.assigning uuid i j k p v) t'
  | past (t t' : Handler) (ht : t.Past) (ht' : t'.Past) (hs : OnlySent s s') : Moved s s' t t'

end Handlers

variable {trackId : String} {i j k : ℕ} {stores : Double → Bool} {s s' : Script} {t t' : Handler}

theorem act_cases (hs : StandsAt trackId i j k stores s) (ht : Handles trackId i j k stores t)
    (h : t.act s = some (s', t')) : Moved trackId i j k stores s s' t t' := by
  cases t with
  | received message =>
    obtain ⟨v, hset⟩ := ht
    obtain ⟨p, hplace, hp⟩ := hs
    rw [Handler.act, hset.assignment?_eq hplace] at h
    cases h
    exact .resolved message _ p v hset hp rfl
  | assigning uuid a b c p v =>
    obtain ⟨heq, hp⟩ := ht
    cases heq
    rw [Handler.act] at h
    split at h
    · rename_i hv
      cases h
      exact .stored uuid p v _ hp (hp ▸ hv) rfl trivial
    · rename_i hv
      cases h
      exact .refused uuid p v _ hp (by simpa [hp] using hv) rfl trivial
  | _ =>
    obtain ⟨ht', hs'⟩ := Handler.act_past (by trivial) h
    exact .past _ _ trivial ht' hs'

theorem handles_of_past (h : t.Past) : Handles trackId i j k stores t := by
  cases t with
  | received => exact h.elim
  | assigning => exact h.elim
  | _ => trivial

theorem standsAt_of_onlySent (h : OnlySent s s') (hs : StandsAt trackId i j k stores s) :
    StandsAt trackId i j k stores s' := by
  obtain ⟨p, hplace, hp⟩ := hs
  exact ⟨p, (place?_of_onlySent h _ _).trans hplace, hp⟩

theorem Moved.keeps (h : Moved trackId i j k stores s s' t t')
    (hs : StandsAt trackId i j k stores s) :
    StandsAt trackId i j k stores s' ∧ Handles trackId i j k stores t' := by
  cases h with
  | resolved message uuid p v hset hp heq =>
    rw [heq]
    exact ⟨hs, rfl, hp⟩
  | stored uuid p v _ _ _ heq ht' =>
    obtain ⟨q, hplace, hq⟩ := hs
    rw [heq]
    exact ⟨⟨_, place?_store hplace p v, hq⟩, handles_of_past ht'⟩
  | refused uuid p v _ _ _ heq ht' =>
    rw [heq]
    exact ⟨hs, handles_of_past ht'⟩
  | past _ _ _ ht' honly => exact ⟨standsAt_of_onlySent honly hs, handles_of_past ht'⟩

/-! ### Runs -/

section Runs

variable (trackId : String) (last : Double) (i j k : ℕ) (stores : Double → Bool)

/-- A handler is to assign the last command's value, and it will be accepted. -/
def ToAssign : Handler → Prop
  | .received message => stores last = true ∧ SetsFeedback message trackId last
  | .assigning _ _ _ _ _ v => stores last = true ∧ v = last
  | _ => False

/-- The parameter at a place holds a value. -/
def HoldsValue (v : Double) (s : Script) : Prop :=
  (s.live.song.paramAt? i j k).map Param.value = some v

instance (v : Double) (s : Script) : Decidable (HoldsValue i j k v s) :=
  inferInstanceAs (Decidable (_ = _))

/-- If the next step writes a value, it is the last command's, or another handler is to assign
that one. -/
def LastAhead (p : Threads.Pool Script Handler) (n : ℕ) : Prop :=
  match p.threads[n]? with
  | some (.assigning _ _ _ _ _ v) =>
    stores v = true → v = last ∨ Threads.Others p n (ToAssign trackId last stores)
  | _ => True

/-- The parameter holds the last command's value, or a handler is to assign it. -/
def Wins : Threads.Pool Script Handler → Prop :=
  Threads.Settles (HoldsValue i j k last) fun _ => ToAssign trackId last stores

/-- The looper's parameter stays in its place and the handlers stay the looper's. -/
def Sound : Threads.Pool Script Handler → Prop :=
  Threads.Holds (StandsAt trackId i j k stores) fun _ => Handles trackId i j k stores

end Runs

variable {last : Double} {p q : Threads.Pool Script Handler} {n : ℕ}

theorem Sound.step (hp : Sound trackId i j k stores p) (h : Handler.step p n = some q) :
    Sound trackId i j k stores q :=
  Threads.Holds.step (fun _ _ _ _ hs ht hact => (act_cases hs ht hact).keeps hs)
    (fun _ _ _ _ _ _ _ _ hu => hu) hp h

theorem not_toAssign_of_past (h : t.Past) : ¬ToAssign trackId last stores t := by
  cases t with
  | received => exact h.elim
  | assigning => exact h.elim
  | _ => exact id

/-- The value of a parameter that has just been assigned. -/
theorem holdsValue_store (hs : StandsAt trackId i j k stores s) (param : Param) (v : Double) :
    HoldsValue i j k last (s.store i j k param v) ↔ v = last := by
  obtain ⟨p, hplace, -⟩ := hs
  rw [HoldsValue, paramAt?_of_place (place?_store hplace param v), Option.map_some,
    Option.some_inj]

/-- **The step lemma**: the last command's value is there or still to come exactly if it was so
before and no other one is written once it is not to come any more. -/
theorem wins_step (hp : Sound trackId i j k stores p) (h : Handler.step p n = some q) :
    Wins trackId last i j k stores q ↔
      Wins trackId last i j k stores p ∧ LastAhead trackId last stores p n := by
  obtain ⟨t, s', t', ht, hact, rfl⟩ := Threads.step_eq_some_iff.mp h
  have hmoved := act_cases hp.shared (hp.threads t (List.mem_of_getElem? ht)) hact
  rw [Wins, Threads.settles_iff ht, Threads.settles_set_iff ht, LastAhead, ht]
  generalize hothers : Threads.Others p n (ToAssign trackId last stores) = others
  cases hmoved with
  | resolved message uuid param v hset _ heq =>
    have howes : ToAssign trackId last stores (.received message) ↔
        ToAssign trackId last stores (.assigning uuid i j k param v) :=
      and_congr_right fun _ => hset.unique
    rw [heq, howes]
    exact (and_iff_left trivial).symm
  | stored uuid param v _ _ hv heq ht' =>
    -- The value that was there is overwritten.
    rw [heq, holdsValue_store hp.shared, or_iff_right (not_toAssign_of_past ht')]
    change v = last ∨ others ↔
      (HoldsValue i j k last p.shared ∨ (stores last = true ∧ v = last) ∨ others) ∧
        (stores v = true → v = last ∨ others)
    rw [imp_iff_right hv]
    refine (and_iff_right_of_imp ?_).symm
    rintro (rfl | h)
    · exact .inr (.inl ⟨hv, rfl⟩)
    · exact .inr (.inr h)
  | refused uuid param v _ _ hv heq ht' =>
    have hnot : ¬ToAssign trackId last stores (.assigning uuid i j k param v) := by
      rintro ⟨hlast, rfl⟩
      exact absurd hlast (by simp [hv])
    rw [heq, or_iff_right (not_toAssign_of_past ht'), or_iff_right hnot]
    exact (and_iff_left fun h => absurd h (by simp [hv])).symm
  | past t t' hpast ht' honly =>
    obtain ⟨new, rfl⟩ := honly
    rw [or_iff_right (not_toAssign_of_past ht'), or_iff_right (not_toAssign_of_past hpast)]
    refine (and_iff_left ?_).symm
    cases t with
    | assigning => exact hpast.elim
    | _ => trivial

/-- **The last command wins**, among any number of commands for one looper that are handled in any
interleaving, exactly in the runs in which no handler writes another value once the handlers of
the last command's value have all written; the parameter has to accept that value, or to hold it
from the start. -/
theorem lastCommand_iff {param : Param} (hplace : s.place? (.str trackId) "Feedback" =
      some (i, j, k, param)) {commands : List (Json × Double)} (hne : commands ≠ [])
    (hcommands : ∀ c ∈ commands, SetsFeedback c.1 trackId c.2) {es : List ℕ}
    (h : Runs.Run (Runs.ofFun Handler.step) ⟨s, commands.map fun c => .received c.1⟩ es q)
    (hfinished : ∀ t ∈ q.threads, t = .finished) :
    HoldsValue i j k (commands.getLast hne).2 q.shared ↔
      (param.value = (commands.getLast hne).2 ∨ param.stores (commands.getLast hne).2 = true) ∧
        Runs.Run (Runs.guarded (LastAhead trackId (commands.getLast hne).2 param.stores)
          (Runs.ofFun Handler.step)) ⟨s, commands.map fun c => .received c.1⟩ es q := by
  generalize hlast : (commands.getLast hne).2 = last
  have hsound : Sound trackId i j k param.stores ⟨s, commands.map fun c => .received c.1⟩ := by
    refine ⟨⟨param, hplace, rfl⟩, fun t ht => ?_⟩
    obtain ⟨c, hc, rfl⟩ := List.mem_map.mp ht
    exact ⟨c.2, hcommands c hc⟩
  have hwins := Runs.ends_iff_guarded (W := Wins trackId last i j k param.stores)
    (fun _ _ _ hp hst => wins_step hp hst) (fun _ _ _ hp hst => hp.step hst) h hsound
  have hend : Wins trackId last i j k param.stores q ↔ HoldsValue i j k last q.shared :=
    Threads.settles_iff_of_not_owed fun t ht => hfinished t ht ▸ id
  have hstart : Wins trackId last i j k param.stores ⟨s, commands.map fun c => .received c.1⟩ ↔
      param.value = last ∨ param.stores last = true := by
    refine or_congr ?_ ?_
    · rw [HoldsValue, paramAt?_of_place hplace, Option.map_some, Option.some_inj]
    · constructor
      · rintro ⟨t, ht, howes⟩
        obtain ⟨c, -, rfl⟩ := List.mem_map.mp ht
        exact howes.1
      · intro haccepts
        have hmem := List.getLast_mem hne
        exact ⟨_, List.mem_map_of_mem hmem, haccepts, hlast ▸ hcommands _ hmem⟩
  rw [← hend, hwins, hstart]

/-- A command that sets the feedback of the first looper. -/
def feedbackMessage (v : ℚ) : Json :=
  .obj [("uuid", .str "u"), ("ns", .str "looper"), ("nsid", .str "0"),
    ("name", .str "set_feedback"),
    ("args", .obj [("track_id", .str "0"), ("feedback", .float (.finite v))]), ("version", .int 1)]

theorem setsFeedback_feedbackMessage (v : ℚ) :
    SetsFeedback (feedbackMessage v) "0" (.finite v) :=
  ⟨rfl, ⟨rfl, fun h => absurd h.2 (by simp [feedbackMessage])⟩, rfl, rfl, rfl, rfl, rfl⟩

/-- Two commands for the first looper. -/
def twoCommands : List (Json × Double) :=
  [(feedbackMessage (1 / 4), .finite (1 / 4)), (feedbackMessage (3 / 4), .finite (3 / 4))]

theorem setsFeedback_twoCommands : ∀ c ∈ twoCommands, SetsFeedback c.1 "0" c.2 := by
  simp [twoCommands, setsFeedback_feedbackMessage]

/-- The only looper's Feedback parameter. -/
def feedbackParam : Param := ⟨⟨0, 1⟩, "Feedback", .finite (1 / 2), fun _ => true, true⟩

theorem place?_oneLooper :
    (met oneLooper).place? (.str "0") "Feedback" = some (0, 0, 1, feedbackParam) := rfl

/-- The two handlers run one after the other, and the parameter takes the value of the second. -/
theorem exists_run_twoCommands {es : List ℕ} {v : Double}
    (h : ((es.foldlM Handler.step ⟨met oneLooper, twoCommands.map fun c => .received c.1⟩).map
      fun q => q.threads.all Handler.isFinished &&
        decide (HoldsValue 0 0 1 v q.shared)) = some true) :
    ∃ q, Runs.Run (Runs.ofFun Handler.step)
        ⟨met oneLooper, twoCommands.map fun c => .received c.1⟩ es q ∧
      (∀ t ∈ q.threads, t = .finished) ∧ HoldsValue 0 0 1 v q.shared := by
  obtain ⟨q, hq, hend⟩ := Option.map_eq_some_iff.mp h
  obtain ⟨hfinished, hv⟩ := Bool.and_eq_true_iff.mp hend
  exact ⟨q, Runs.run_ofFun_iff.mpr hq,
    fun t ht => Handler.isFinished_iff.mp (List.all_eq_true.mp hfinished t ht),
    of_decide_eq_true hv⟩

/-- Commands that are handled in the order in which they were sent. -/
theorem lastCommand_inOrder : ∃ q, Runs.Run
    (Runs.guarded (LastAhead "0" (.finite (3 / 4)) feedbackParam.stores) (Runs.ofFun Handler.step))
      ⟨met oneLooper, twoCommands.map fun c => .received c.1⟩
      [0, 0, 0, 0, 0, 0, 1, 1, 1, 1, 1, 1] q := by
  obtain ⟨q, hrun, hfinished, hv⟩ := @exists_run_twoCommands
    [0, 0, 0, 0, 0, 0, 1, 1, 1, 1, 1, 1] (.finite (3 / 4)) (by decide +kernel)
  have hne : twoCommands ≠ [] := by simp [twoCommands]
  exact ⟨q, ((lastCommand_iff place?_oneLooper hne setsFeedback_twoCommands hrun
    hfinished).mp hv).2⟩

/-- **The first command wins** when the handler of the second is through before it starts. -/
theorem not_lastCommand : ¬∀ (s : Script) (trackId : String) (i j k : ℕ) (param : Param)
    (commands : List (Json × Double)) (es : List ℕ) (q : Threads.Pool Script Handler)
    (hne : commands ≠ []), Reachable s →
      s.place? (.str trackId) "Feedback" = some (i, j, k, param) →
        (∀ c ∈ commands, SetsFeedback c.1 trackId c.2) →
          Runs.Run (Runs.ofFun Handler.step) ⟨s, commands.map fun c => .received c.1⟩ es q →
            (∀ t ∈ q.threads, t = .finished) →
              HoldsValue i j k (commands.getLast hne).2 q.shared := by
  intro h
  obtain ⟨q, hrun, hfinished, hv⟩ := @exists_run_twoCommands
    [1, 1, 1, 1, 1, 1, 0, 0, 0, 0, 0, 0] (.finite (1 / 4)) (by decide +kernel)
  have hlast := h (met oneLooper) "0" 0 0 1 feedbackParam twoCommands _ q (by simp [twoCommands])
    (@reachable_met oneLooper _ rfl (by decide +kernel)) place?_oneLooper setsFeedback_twoCommands
    hrun hfinished
  have hsame := Option.some.inj (hv.symm.trans hlast)
  revert hsame
  decide +kernel

end LastCommand

end LooperControl
