import LooperControl.Lib.JsonSplice
import LooperControl.Plugin.JuceJson

/-!
# Command arguments

The factories build the arguments of a command by splicing strings into JSON text and parsing the
result. `AsAsked` says that they carry what was asked. Strings without quotes, backslashes and
control characters always do, and no others: a spliced string that is not plain is read as another
string, or takes the text behind it along, and the text has no room to make up for it.
-/

namespace LooperControl

namespace MessageProtocol

open JsonText

/-- The arguments of a command are an object with the members asked for and no others, and name the
looper that the command is addressed to. -/
structure AsAsked (msg : Message) (asked : List (String × Json)) : Prop where
  isObj : msg.args.isObj = true
  get?_eq : ∀ key, msg.args.get? key = asked.lookup key
  track_id : msg.args.get? "track_id" = some (.str msg.nsid)

variable {J : Juce} {double : List Char → Double} {uuid trackId targetState : String}
  {feedbackValue : ℚ}

/-! ### The texts -/

/-- What stands behind the track id in the text of `createSetState`. -/
def stateTail (targetState : String) : List Char :=
  ',' :: ' ' :: splicedText "target_state" targetState ['\x7d']

/-- What stands behind the track id in the text of `createSetFeedback`. -/
def feedbackTail (digits : List Char) : List Char :=
  ',' :: ' ' :: quote :: ("feedback".toList ++ quote :: ':' :: ' ' :: (digits ++ ['\x7d']))

theorem breaks_brace : Breaks ['\x7d'] := breaks_of_notMem (by decide)

private theorem plain_comma : Plain ", " := by decide

theorem breaks_stateTail (targetState : String) : Breaks (stateTail targetState) :=
  breaks_of_plain plain_comma (by simp [expect, skip, JsonText.isBlank])
    (by simp [expect, skip, JsonText.isBlank])

theorem breaks_feedbackTail (digits : List Char) : Breaks (feedbackTail digits) :=
  breaks_of_plain plain_comma (by simp [expect, skip, JsonText.isBlank])
    (by simp [expect, skip, JsonText.isBlank])

theorem toList_stateText (trackId targetState : String) :
    ("\x7b\"track_id\": \"" ++ trackId ++ "\", \"target_state\": \"" ++ targetState ++
      "\"\x7d").toList = '\x7b' :: splicedText "track_id" trackId (stateTail targetState) := by
  simp [splicedText, stateTail, quote]

theorem toList_trackText (trackId : String) :
    ("\x7b\"track_id\": \"" ++ trackId ++ "\"\x7d").toList =
      '\x7b' :: splicedText "track_id" trackId ['\x7d'] := by
  simp [splicedText, quote]

theorem toList_feedbackText (trackId digits : String) :
    ("\x7b\"track_id\": \"" ++ trackId ++ "\", \"feedback\": " ++ digits ++ "\x7d").toList =
      '\x7b' :: splicedText "track_id" trackId (feedbackTail digits.toList) := by
  simp [splicedText, feedbackTail, quote]

/-! ### Plain strings arrive -/

/-- The text of an object with plain keys is read as that object. -/
theorem parse_members (hJ : J.Standard double) (ms : List (String × List Char × Json))
    (hne : ms ≠ []) (hms : ∀ m ∈ ms, Plain m.1 ∧ Spells double m.2.1 m.2.2)
    (hnodup : (ms.map Prod.fst).Nodup) {text : String}
    (htext : text.toList = '\x7b' :: membersText (ms.map fun m => (m.1, m.2.1))) :
    J.parse text = .obj (ms.map fun m => (m.1, m.2.2)) := by
  have hkeys : ((ms.map fun m => (m.1, m.2.2)).map Prod.fst).Nodup := by
    rw [List.map_map]
    exact hnodup
  rw [hJ.parse_object text _ htext, parse_membersText hne hms htext, Option.getD_some,
    object_of_nodup hkeys]

private theorem plain_track_id : Plain "track_id" := by decide

private theorem plain_target_state : Plain "target_state" := by decide

private theorem plain_feedback : Plain "feedback" := by decide

theorem parse_trackText (hJ : J.Standard double) (htrack : Plain trackId) :
    J.parse ("\x7b\"track_id\": \"" ++ trackId ++ "\"\x7d") =
      .obj [("track_id", .str trackId)] := by
  refine parse_members hJ [("track_id", quote :: (trackId.toList ++ [quote]), .str trackId)]
    (List.cons_ne_nil _ _) ?_ (List.nodup_singleton _) ?_
  · exact List.forall_mem_singleton.mpr ⟨plain_track_id, spells_string htrack⟩
  · rw [toList_trackText]
    simp [splicedText, membersText]

theorem parse_stateText (hJ : J.Standard double) (htrack : Plain trackId)
    (hstate : Plain targetState) :
    J.parse ("\x7b\"track_id\": \"" ++ trackId ++ "\", \"target_state\": \"" ++ targetState ++
      "\"\x7d") = .obj [("track_id", .str trackId), ("target_state", .str targetState)] := by
  refine parse_members hJ [("track_id", quote :: (trackId.toList ++ [quote]), .str trackId),
    ("target_state", quote :: (targetState.toList ++ [quote]), .str targetState)]
    (List.cons_ne_nil _ _) ?_ (by simp) ?_
  · exact List.forall_mem_cons.mpr ⟨⟨plain_track_id, spells_string htrack⟩,
      List.forall_mem_singleton.mpr ⟨plain_target_state, spells_string hstate⟩⟩
  · rw [toList_stateText]
    simp [splicedText, stateTail, membersText]

theorem parse_feedbackText (hJ : J.Standard double) (htrack : Plain trackId) {digits : String}
    (hdigits : isNumber digits.toList = true) :
    J.parse ("\x7b\"track_id\": \"" ++ trackId ++ "\", \"feedback\": " ++ digits ++ "\x7d") =
      .obj [("track_id", .str trackId), ("feedback", numberValue double digits.toList)] := by
  refine parse_members hJ [("track_id", quote :: (trackId.toList ++ [quote]), .str trackId),
    ("feedback", digits.toList, numberValue double digits.toList)]
    (List.cons_ne_nil _ _) ?_ (by simp) ?_
  · exact List.forall_mem_cons.mpr ⟨⟨plain_track_id, spells_string htrack⟩,
      List.forall_mem_singleton.mpr ⟨plain_feedback, spells_number hdigits⟩⟩
  · rw [toList_feedbackText]
    simp [splicedText, feedbackTail, membersText]

/-! ### No other strings arrive -/

/-- The members that were read, where the text of a command is read as an object. -/
theorem exists_members (hJ : J.Standard double) {text key s : String} {tail : List Char}
    (htext : text.toList = '\x7b' :: splicedText key s tail)
    (hobj : (J.parse text).isObj = true) : ∃ n ms r,
      readItems (readMember (readValue double (n + 1))) '\x7d' (n + 1) (splicedText key s tail) =
        some (ms, r) ∧ J.parse text = object ms := by
  have hparse := hJ.parse_object text _ htext
  rcases hread : parse double text with _ | v
  · rw [hparse, hread] at hobj
    cases hobj
  · obtain ⟨n, ms, r, hitems, rfl⟩ := parse_eq_some htext rfl hread
    exact ⟨n, ms, r, hitems, by rw [hparse, hread]; rfl⟩

/-- A track id that arrives where nothing after it makes room is plain. -/
theorem plain_of_asAsked (hJ : J.Standard double) {text : String} {tail : List Char}
    (htext : text.toList = '\x7b' :: splicedText "track_id" trackId tail) (htail : Breaks tail)
    (hroom : weight tail < 14) (hobj : (J.parse text).isObj = true)
    (htrack : (J.parse text).get? "track_id" = some (.str trackId)) : Plain trackId := by
  have hkey : weight "track_id".toList = 8 := by decide
  obtain ⟨n, ms, r, hitems, hargs⟩ := exists_members hJ htext hobj
  rw [hargs] at htrack
  refine (plain_of_room plain_track_id rfl htail hitems (mem_of_get?_object htrack)
    List.nodup_nil (List.forall_mem_nil _) ?_).1
  rw [weight_splicedText, hkey, List.map_nil, List.sum_nil]
  omega

theorem weight_eq_zero_of_isNumber {digits : List Char} (h : isNumber digits = true) :
    weight digits = 0 :=
  List.countP_eq_zero.mpr fun c hc => by simp [isNumeral_of_isNumber h c hc]

theorem weight_feedbackTail {digits : List Char} (h : isNumber digits = true) :
    weight (feedbackTail digits) = 13 := by
  have hname : weight (',' :: ' ' :: quote :: "feedback".toList) = 9 := by decide
  have hcolon : weight (quote :: ':' :: ' ' :: []) = 3 := by decide
  have hclose : weight ['\x7d'] = 1 := by decide
  have htail : feedbackTail digits = (',' :: ' ' :: quote :: "feedback".toList) ++
      ((quote :: ':' :: ' ' :: []) ++ (digits ++ ['\x7d'])) := rfl
  rw [htail, weight_append, weight_append, weight_append, weight_eq_zero_of_isNumber h, hname,
    hcolon, hclose]

/-- Both strings of `createSetState` are plain if they arrive. -/
theorem plain_of_stateText (hJ : J.Standard double) {args : Json}
    (hargs : args = J.parse ("\x7b\"track_id\": \"" ++ trackId ++ "\", \"target_state\": \"" ++
      targetState ++ "\"\x7d")) (hobj : args.isObj = true)
    (htrack : args.get? "track_id" = some (.str trackId))
    (hstate : args.get? "target_state" = some (.str targetState)) :
    Plain trackId ∧ Plain targetState := by
  have htrackWeight : weight "track_id".toList = 8 := by decide
  have hstateWeight : weight "target_state".toList = 10 := by decide
  have hseparator : weight [',', ' '] = 2 := by decide
  have hclose : weight ['\x7d'] = 1 := by decide
  have htail : stateTail targetState =
      [',', ' '] ++ splicedText "target_state" targetState ['\x7d'] := rfl
  subst hargs
  obtain ⟨n, ms, r, hitems, hparse⟩ :=
    exists_members hJ (toList_stateText trackId targetState) hobj
  rw [hparse] at htrack hstate
  have hstateMem := mem_of_get?_object hstate
  -- The state takes its share, so that there is no room for a second track id.
  obtain ⟨hplain, ms', rfl, hnext⟩ := plain_of_room plain_track_id rfl (breaks_stateTail _) hitems
    (mem_of_get?_object htrack) (List.nodup_singleton ("target_state", .str targetState))
    (List.forall_mem_singleton.mpr ⟨hstateMem, by simp⟩) (by
      have hshare : memberWeight ("target_state", .str targetState) =
          weight "target_state".toList + 3 + (weight targetState.toList + 2) := rfl
      rw [weight_splicedText, htail, weight_append, weight_splicedText, List.map_singleton,
        List.sum_singleton, hshare]
      omega)
  -- Reading goes on behind the track id, where the same argument serves for the state.
  have hrest := hnext (' ' :: splicedText "target_state" targetState ['\x7d']) rfl
  obtain hstateMem := (List.mem_cons.mp hstateMem).resolve_left (by simp)
  obtain _ | n := n
  · cases hrest
  refine ⟨hplain, (plain_of_room plain_target_state rfl breaks_brace hrest hstateMem
    List.nodup_nil (List.forall_mem_nil _) ?_).1⟩
  have hskip : weight (' ' :: splicedText "target_state" targetState ['\x7d']) =
      weight [' '] + weight (splicedText "target_state" targetState ['\x7d']) := weight_cons _ _
  have hblank : weight [' '] = 1 := by decide
  rw [hskip, weight_splicedText, List.map_nil, List.sum_nil]
  omega

/-! ### What a command carries -/

theorem asAsked_createSetState_iff (hJ : J.Standard double) :
    AsAsked (createSetState J uuid trackId targetState)
      [("track_id", .str trackId), ("target_state", .str targetState)] ↔
        Plain trackId ∧ Plain targetState := by
  constructor
  · intro h
    exact plain_of_stateText hJ rfl h.isObj (h.get?_eq _) (h.get?_eq _)
  · rintro ⟨htrack, hstate⟩
    have hargs : (createSetState J uuid trackId targetState).args = _ :=
      parse_stateText hJ htrack hstate
    exact ⟨by rw [hargs]; rfl, fun key => by rw [hargs]; rfl, by rw [hargs]; rfl⟩

/-- `createUndo` and `createRedo` have the same arguments. -/
theorem asAsked_track_iff (hJ : J.Standard double) {msg : Message}
    (hmsg : msg.args = J.parse ("\x7b\"track_id\": \"" ++ trackId ++ "\"\x7d"))
    (hnsid : msg.nsid = trackId) : AsAsked msg [("track_id", .str trackId)] ↔ Plain trackId := by
  constructor
  · intro h
    have hobj := h.isObj
    have htrack := h.track_id
    rw [hmsg] at hobj htrack
    rw [hnsid] at htrack
    exact plain_of_asAsked hJ (toList_trackText trackId) breaks_brace (by decide) hobj htrack
  · intro htrack
    have hargs := hmsg.trans (parse_trackText hJ htrack)
    exact ⟨by rw [hargs]; rfl, fun key => by rw [hargs]; rfl, by rw [hargs, hnsid]; rfl⟩

theorem asAsked_createSetFeedback_iff (hJ : J.Standard double) :
    AsAsked (createSetFeedback J uuid trackId feedbackValue) [("track_id", .str trackId),
      ("feedback", numberValue double (J.floatText feedbackValue).toList)] ↔ Plain trackId := by
  have hdigits := hJ.floatText_number feedbackValue
  constructor
  · intro h
    refine plain_of_asAsked hJ (toList_feedbackText _ _) (breaks_feedbackTail _) ?_ h.isObj
      h.track_id
    rw [weight_feedbackTail hdigits]
    decide
  · intro htrack
    have hargs : (createSetFeedback J uuid trackId feedbackValue).args = _ :=
      parse_feedbackText hJ htrack hdigits
    exact ⟨by rw [hargs]; rfl, fun key => by rw [hargs]; rfl, by rw [hargs]; rfl⟩

/-- **A command carries what was asked** exactly if the strings that are spliced into its arguments
have no quote, no backslash and no control character. -/
theorem asAsked_iff_plain (hJ : J.Standard double) (uuid trackId targetState : String)
    (feedbackValue : ℚ) :
    (AsAsked (createSetState J uuid trackId targetState)
        [("track_id", .str trackId), ("target_state", .str targetState)] ↔
      Plain trackId ∧ Plain targetState) ∧
    (AsAsked (createUndo J uuid trackId) [("track_id", .str trackId)] ↔ Plain trackId) ∧
    (AsAsked (createRedo J uuid trackId) [("track_id", .str trackId)] ↔ Plain trackId) ∧
    (AsAsked (createSetFeedback J uuid trackId feedbackValue) [("track_id", .str trackId),
        ("feedback", numberValue double (J.floatText feedbackValue).toList)] ↔ Plain trackId) :=
  ⟨asAsked_createSetState_iff hJ, asAsked_track_iff hJ rfl rfl, asAsked_track_iff hJ rfl rfl,
    asAsked_createSetFeedback_iff hJ⟩

theorem asAsked_plain_strings :
    (AsAsked (createSetState Juce.standard "u" "track_0" "Playing")
        [("track_id", .str "track_0"), ("target_state", .str "Playing")] ↔
      Plain "track_0" ∧ Plain "Playing") ∧
    (AsAsked (createUndo Juce.standard "u" "track_0") [("track_id", .str "track_0")] ↔
      Plain "track_0") ∧
    (AsAsked (createRedo Juce.standard "u" "track_0") [("track_id", .str "track_0")] ↔
      Plain "track_0") ∧
    (AsAsked (createSetFeedback Juce.standard "u" "track_0" (1 / 2)) [("track_id", .str "track_0"),
        ("feedback", numberValue Juce.decimal (Juce.standard.floatText (1 / 2)).toList)] ↔
      Plain "track_0") :=
  asAsked_iff_plain Juce.standard_standard "u" "track_0" "Playing" (1 / 2)

/-- A track id with a quote leaves the undo command without arguments. -/
theorem not_asAsked_quote : ¬AsAsked (createUndo Juce.standard "u" "a\"b")
    [("track_id", .str "a\"b")] := by
  have hargs : (createUndo Juce.standard "u" "a\"b").args = .null := by decide +kernel
  intro h
  have hobj := h.isObj
  rw [hargs] at hobj
  cases hobj

end MessageProtocol

end LooperControl
