import LooperControl.Plugin.BridgeClient
import LooperControl.Plugin.JuceJson
import LooperControl.Script.Handlers

/-!
# The range of feedback

Between the slider and the parameter five functions pass a feedback value on, and none of them looks
whether it is one. `feedbackInRange_iff` says when that is all right: the value that `float` makes
of the argument lies in the range, or the command does not get to assign it.
-/

namespace LooperControl

open Effect LooperControlSurface BridgeServer Script

/-- A double in the range of feedback. -/
def InUnit (v : Double) : Prop := ∃ q, v = .finite q ∧ 0 ≤ q ∧ q ≤ 1

/-- Between two states of the script one value has been assigned, and it lies in the range, or none
has been, and the answer says that the command has failed. -/
def FeedbackInRange (s t : Script) (answer : Except PyExc (Option Json)) : Prop :=
  (∃ param v, t.live.assigned = s.live.assigned ++ [(param, v)] ∧ InUnit v) ∨
    (t.live.assigned = s.live.assigned ∧
      ∃ result, answer = .ok (some result) ∧ result.get? "success" = some (.bool false))

/-- What a command gives as feedback. -/
def givenFeedback (args : Json) : Json := (args.get? "feedback").getD (.float (.finite (1 / 2)))

/-- The condition on the arguments: they are an object, and if the command leads to a parameter
named Feedback that takes the value that `float` makes of the argument, the value lies in the
range. -/
structure GivesUnit (s : Script) (args : Json) : Prop where
  isObj : args.isObj = true
  inUnit : ∀ v i j k p, pyFloat (givenFeedback args) = .ok v →
    s.place? (trackIdOf args) "Feedback" = some (i, j, k, p) → p.stores v = true → InUnit v

/-- A writing command fails, or it leads to a parameter and assigns it. -/
theorem exec_writeCommand_cases (trackId : Json) (paramName : String)
    (value : Except PyExc Double) (s : Script) :
    (∃ answer, exec (writeCommand trackId paramName value) s = (.ok answer, s) ∧
      answer.get? "success" = some (.bool false)) ∨
    ∃ v i j k p, value = .ok v ∧ s.place? trackId paramName = some (i, j, k, p) ∧
      p.stores v = true ∧
        exec (writeCommand trackId paramName value) s = (.ok succeeded, assigned s i j k p v) := by
  rcases exec_writeCommand trackId paramName value s with
    h | ⟨key, info, trackIdx, deviceIdx, i, j, k, p, v, rfl, hinfo, ht, hd, hv, hstores, hp, h⟩
  · exact .inl h
  · refine .inr ⟨v, i, j, k, p, hv, ?_, hstores, h⟩
    rw [Script.place?, ht, recordedUnder, hinfo]
    simp only [hd, hp]

variable {s : Script} {args : Json}

/-- The feedback command comes to the common body of the writing commands, or raises. -/
theorem exec_setFeedback (nsid : Json) (args : Json) (s : Script) :
    (args.isObj = true → exec (handleCommand (.str "looper") nsid (.str "set_feedback") args) s =
      exec (some <$> writeCommand (trackIdOf args) "Feedback" (pyFloat (givenFeedback args))) s) ∧
    (args.isObj = false → ∃ e,
      exec (handleCommand (.str "looper") nsid (.str "set_feedback") args) s = (.error e, s)) :=
  exec_handleCommand_of_writeOf rfl nsid s

/-- A value that has been assigned lies in the range or not. -/
theorem feedbackInRange_assigned_iff {i j k : ℕ} {p : Param} {v : Double}
    {answer : Except PyExc (Option Json)} :
    FeedbackInRange s (assigned s i j k p v) answer ↔ InUnit v := by
  have hassigned : (assigned s i j k p v).live.assigned = s.live.assigned ++ [(p.id, v)] := by
    rw [assigned_eq]
    rfl
  constructor
  · rintro (⟨param, v', hnew, hunit⟩ | ⟨hnone, -⟩)
    · have heq := hassigned.symm.trans hnew
      rw [List.append_cancel_left_eq] at heq
      cases heq
      exact hunit
    · exact absurd (hassigned.symm.trans hnone) (by simp)
  · exact fun hunit => .inl ⟨p.id, v, hassigned, hunit⟩

/-- **The range of feedback.** What a feedback command assigns lies in the range, or it is refused,
exactly if its arguments give a value of the range or do not get as far as a parameter. -/
theorem feedbackInRange_iff (s : Script) (nsid args : Json) :
    FeedbackInRange s (exec (handleCommand (.str "looper") nsid (.str "set_feedback") args) s).2
      (exec (handleCommand (.str "looper") nsid (.str "set_feedback") args) s).1 ↔
      GivesUnit s args := by
  obtain ⟨hbody, hraises⟩ := exec_setFeedback nsid args s
  rcases hargs : args.isObj with _ | _
  · obtain ⟨e, he⟩ := hraises hargs
    rw [he]
    refine iff_of_false ?_ fun h => Bool.false_ne_true (hargs.symm.trans h.isObj)
    rintro (⟨param, v, hassigned, -⟩ | ⟨-, result, hanswer, -⟩)
    · exact absurd hassigned (by simp)
    · cases hanswer
  rw [hbody hargs, exec_map]
  rcases exec_writeCommand_cases (trackIdOf args) "Feedback" (pyFloat (givenFeedback args)) s with
    ⟨answer, hexec, hsuccess⟩ | ⟨v, i, j, k, p, hv, hplace, hstores, hexec⟩
  · -- The command is refused: nothing it leads to takes the value.
    rw [hexec]
    refine iff_of_true (.inr ⟨rfl, answer, rfl, hsuccess⟩) ⟨hargs, ?_⟩
    intro v i j k p hv hplace hstores
    rw [hv, exec_writeCommand_of_place hplace, hstores] at hexec
    obtain rfl := Except.ok.inj (congrArg Prod.fst hexec)
    cases hsuccess
  · rw [hexec]
    refine feedbackInRange_assigned_iff.trans ⟨fun hunit => ⟨hargs, ?_⟩, fun h => ?_⟩
    · intro w _ _ _ _ hw _ _
      rw [hv, Except.ok.injEq] at hw
      exact hw ▸ hunit
    · exact h.inUnit v i j k p hv hplace hstores

/-- A client that has connected. -/
def connectedClient : BridgeClient := { connected := true, localPort := 7010, remotePort := 7011 }

/-- What the plugin sends to set the feedback of a looper to two. -/
def setToTwo : List Datagram := connectedClient.sendSetFeedback .standard "u" "0" 2

theorem setToTwo_eq : setToTwo = [⟨7011, "/loopercontrol", .obj [("uuid", .str "u"),
    ("ns", .str "looper"), ("nsid", .str "0"), ("name", .str "set_feedback"),
    ("args", .obj [("track_id", .str "0"), ("feedback", .float (.finite 2))]),
    ("version", .int 1)]⟩] := by decide +kernel

/-- **Nobody looks**: the plugin sends two, and the script assigns it. -/
theorem not_feedbackInRange : ¬∀ (s : Script) (nsid : Json) (c : BridgeClient)
    (uuid trackId : String) (feedbackValue : ℚ), Reachable s →
      ∀ d ∈ c.sendSetFeedback .standard uuid trackId feedbackValue,
        FeedbackInRange s
          (exec (handleCommand (.str "looper") nsid (.str "set_feedback") (argsOf d.payload)) s).2
          (exec (handleCommand (.str "looper") nsid (.str "set_feedback")
            (argsOf d.payload)) s).1 := by
  intro h
  have hsent := h (begun oneLooper) (.str "0") connectedClient "u" "0" 2
    (.of_init (started_begun rfl))
  change ∀ d ∈ setToTwo, _ at hsent
  rw [setToTwo_eq, List.forall_mem_singleton] at hsent
  have hargs : argsOf (.obj [("uuid", .str "u"), ("ns", .str "looper"), ("nsid", .str "0"),
      ("name", .str "set_feedback"), ("args", .obj [("track_id", .str "0"),
        ("feedback", .float (.finite 2))]), ("version", .int 1)]) =
      .obj [("track_id", .str "0"), ("feedback", .float (.finite 2))] := rfl
  have hcommand := (exec_setFeedback (.str "0")
    (.obj [("track_id", .str "0"), ("feedback", .float (.finite 2))]) (begun oneLooper)).1 rfl
  have hplace : (begun oneLooper).place? (.str "0") "Feedback" =
      some (0, 0, 1, ⟨⟨0, 1⟩, "Feedback", .finite (1 / 2), fun _ => true, true⟩) := rfl
  rw [exec_map] at hcommand
  rw [hargs, hcommand] at hsent
  have hexec := exec_writeCommand_of_place hplace (.finite 2)
  change
    FeedbackInRange _ (exec (writeCommand (.str "0") "Feedback" (.ok (.finite 2))) _).2 _ at hsent
  rw [hexec] at hsent
  obtain ⟨q, hq, -, hle⟩ := feedbackInRange_assigned_iff.mp hsent
  cases hq
  exact absurd hle (by decide +kernel)

end LooperControl
