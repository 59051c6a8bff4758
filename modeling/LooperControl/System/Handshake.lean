import LooperControl.System.Responses

/-!
# What a hello brings the plugin

A hello sets the remembered port, is answered with the script's port, and reaches the command
handler, which knows no hello. No scan follows and no entry is pushed: `upToDate_iff` says
that a new plugin knows every discovered looper afterwards only when there is none to know.
-/

namespace LooperControl

open LooperControlSurface BridgeServer Script

/-- A hello of this protocol version with a uuid and an integer port. -/
structure ValidHello (message requestUuid : Json) (port : ℤ) : Prop where
  version : message.get? "version" = some (.int protocolVersion)
  ns : message.get? "ns" = some (.str "system")
  name : message.get? "name" = some (.str "hello")
  uuid : message.get? "uuid" = some requestUuid
  args : (argsOf message).isObj = true
  port : (argsOf message).get? "port" = some (.int port)

/-- Between two states a port is sent one result, and for every discovered looper one
`looper_discovered` event, so that a client with an empty tracker has an entry for each. -/
structure UpToDate (J : Juce) (s t : Script) (port : ℤ) (new : List Datagram) : Prop where
  sent : t.sent = s.sent ++ new
  result : new.countP (fun d => decide (d.port = port ∧ d.isResult = true)) = 1
  event : ∀ k info, s.discoveredLoopers.get? k = some info →
    new.countP (fun d => decide (d.port = port ∧ d.payload = discoveredEvent info)) = 1
  entry : ∀ c : BridgeClient, c.tracker.loopers = ∅ →
    ∀ k ∈ s.discoveredLoopers.keys,
      k ∈ (BridgeClient.deliver J c (new.filter fun d => d.port = port)).tracker.loopers

/-- What a valid hello does. -/
theorem handled_hello {s : Script} {message requestUuid : Json} {port : ℤ}
    (h : ValidHello message requestUuid port) :
    s.handled [.json message] =
      respond (announce s (.int port)) requestUuid (helloResult s.server.port) := by
  have hobj : message.isObj = true := by
    cases message with
    | obj => rfl
    | _ => exact absurd h.uuid (by simp [Json.get?])
  have hhello : isHello message := by
    refine ⟨?_, ?_, ?_⟩
    · rw [h.version]
      rfl
    · rw [h.name]
      rfl
    · rw [h.ns]
      rfl
  have hhandling := handling_handled s message []
  generalize s.handled [.json message] = t at hhandling ⊢
  cases hhandling with
  | notObject hnot => exact absurd hobj (by simp [hnot])
  | mismatch _ hne => exact absurd hhello hne
  | helloNoArgs _ _ hargs => exact absurd h.args (by simp [hargs])
  | helloNoUuid _ _ _ huuid => exact absurd h.uuid (by simp [huuid])
  | hello requestUuid' _ _ _ huuid =>
    rw [h.uuid, Option.some_inj] at huuid
    rw [huuid, h.port]
    rfl
  | answered _ _ _ hcommand => exact absurd hhello.2 hcommand.2
  | raised _ _ _ hcommand => exact absurd hhello.2 hcommand.2

/-- **A hello brings the plugin up to date** exactly when nothing has been discovered and the
announced port is one. -/
theorem upToDate_iff (J : Juce) {s t : Script} {message requestUuid : Json} {port : ℤ}
    (h : ValidHello message requestUuid port)
    (ht : s.step (.message [.json message]) = some t) :
    (∃ new, UpToDate J s t port new) ↔
      s.discoveredLoopers.items = [] ∧ 0 < port ∧ port < 65536 := by
  obtain ⟨hserver, ht'⟩ := step_message ht
  rw [handled_hello h] at ht'
  obtain ⟨socket, hsocket⟩ := Option.isSome_iff_exists.mp hserver
  have htarget : (announce s (.int port)).server.target =
      if 0 < port ∧ port < 65536 then some port else none := by
    change (s.server.server.bind fun _ => asPort? (.int port)) = _
    rw [hsocket, Option.bind_some, asPort?]
  have hsent : t.sent = s.sent ++ responses (announce s (.int port)).server requestUuid
      (helloResult s.server.port) := by
    rw [ht']
    rfl
  -- The only datagram is the result.
  have hnoevent : ∀ info, (responses (announce s (.int port)).server requestUuid
      (helloResult s.server.port)).countP
        (fun d => decide (d.port = port ∧ d.payload = discoveredEvent info)) = 0 := by
    intro info
    rw [responses, htarget]
    split
    · simp [responseMessage, discoveredEvent, eventMessage]
    · rfl
  constructor
  · rintro ⟨new, hnew⟩
    have hnew' : new = responses (announce s (.int port)).server requestUuid
        (helloResult s.server.port) := by
      have hsent' := hnew.sent
      rw [hsent, List.append_cancel_left_eq] at hsent'
      exact hsent'.symm
    subst hnew'
    refine ⟨List.eq_nil_iff_forall_not_mem.mpr fun item hitem => ?_, ?_⟩
    · have hone := hnew.event item.1 item.2 (Dict.get?_eq_some_iff.mpr hitem)
      rw [hnoevent] at hone
      cases hone
    · by_contra hport
      have hone := hnew.result
      rw [responses, htarget, if_neg hport] at hone
      cases hone
  · -- Without entries there is nothing to announce, and the result is all that is asked.
    rintro ⟨hnil, hport⟩
    refine ⟨_, hsent, ?_, fun k info hk => ?_, fun c hc k hk => ?_⟩
    · rw [responses, htarget, if_pos hport]
      simp [isResult_response]
    · rw [Dict.get?_eq_some_iff, hnil] at hk
      cases hk
    · rw [Dict.keys, hnil] at hk
      cases hk

theorem validHello_helloMessage : ValidHello helloMessage (.str "h") 7010 :=
  ⟨rfl, rfl, rfl, rfl, rfl, rfl⟩

/-- In an empty song there is nothing to bring. -/
theorem upToDate_empty : ∃ new, UpToDate .plain (begun .empty) (met .empty) 7010 new :=
  (upToDate_iff .plain validHello_helloMessage rfl).mpr
    ⟨rfl, by decide, by decide⟩

/-- **A plugin that connects after the first scan learns nothing of it.** -/
theorem not_upToDate : ¬∀ (J : Juce) (s t : Script) (message requestUuid : Json) (port : ℤ),
    Reachable s → ValidHello message requestUuid port →
      s.step (.message [.json message]) = some t → ∃ new, UpToDate J s t port new := by
  intro h
  obtain ⟨new, hnew⟩ := h .plain (begun oneLooper) _ helloMessage (.str "h") 7010
    (.of_init (started_begun rfl)) validHello_helloMessage rfl
  have hsent₀ : (begun oneLooper).sent = [] := rfl
  have hsent := hnew.sent
  rw [hsent₀, List.nil_append] at hsent
  have hresults : ∀ d ∈ ((begun oneLooper).handled [.json helloMessage]).sent,
      d.isResult = true := by
    decide +kernel
  have hentry : ((begun oneLooper).discoveredLoopers.get? "0").isSome := by decide +kernel
  obtain ⟨info, hinfo⟩ := Option.isSome_iff_exists.mp hentry
  have hone := hnew.event "0" info hinfo
  obtain ⟨d, hd, hevent⟩ := List.countP_pos_iff.mp (hone ▸ Nat.one_pos)
  have hpayload : d.payload = discoveredEvent info := (of_decide_eq_true hevent).2
  have hresult : d.isResult = true := hresults d (hsent ▸ hd)
  simp [Datagram.isResult, hpayload, discoveredEvent, eventMessage] at hresult

end LooperControl
