import LooperControl.Osc.Packet
import LooperControl.Script.AddressPatterns
import LooperControl.System.Delivery

/-!
# Datagrams at the script's socket

The server hands every datagram that looks like OSC to a thread of its own. The thread reads the
packet and invokes, one after the other, the handlers that the dispatcher finds for its messages.
Whatever arrives, and however the threads take turns, the script gets from one of its states to
another by handling messages (`run_of_run`). A datagram that does not hold a JSON object for an
address that is handled changes nothing (`receive_eq_self`).

A datagram is what the socket hands over, 8192 bytes at most. The threads of the server take turns
between two handlers. A handler returns nothing, so that no datagram is answered. The time that a
thread sleeps before a message is not modelled.
-/

namespace LooperControl

open Effect BridgeServer LooperControlSurface OscBundle

/-- What `json.loads` makes of a text and of bytes: nothing where it raises. -/
structure JsonLoads where
  text : String → Option Json
  bytes : Bytes → Option Json

/-- An argument of an OSC message as `json.loads` takes it. -/
def OscArg.ofValue (loads : JsonLoads) : OscValue → OscArg
  | .str s => ((loads.text s).map OscArg.json).getD .other
  | .bytes l => ((loads.bytes l).map OscArg.json).getD .other
  | _ => .other

namespace OscServer

variable (loads : JsonLoads)

/-- `_is_valid_request`. -/
def isValidRequest (data : Bytes) : Bool := dgramIsBundle data || OscMessage.dgramIsMessage data

/-- The handlers that `call_handlers_for_packet` invokes for the messages of a packet, in order. An
address that raises ends the loop. -/
def invocations (d : Dispatcher (List OscArg → Py Unit)) : List TimedMessage → List (Py Unit)
  | [] => []
  | m :: msgs =>
    match d.handlersForAddress m.message.address with
    | none => []
    | some handlers =>
      handlers.map (fun handler => handler (m.message.params.map (OscArg.ofValue loads))) ++
        invocations d msgs

/-- `call_handlers_for_packet`: what it invokes for a datagram at a time, if the datagram is parsed
to some depth. A packet that cannot be parsed has no messages. -/
def callHandlersForPacket (d : Dispatcher (List OscArg → Py Unit)) (now : ℚ) (n : ℕ)
    (data : Bytes) : Option (List (Py Unit)) :=
  (OscPacket.parse now n data).map fun packet =>
    match packet with
    | .ok msgs => invocations loads d msgs
    | .error _ => []

/-- What the thread of a datagram has to do: nothing for one that `verify_request` refuses. -/
def handle (now : ℚ) (n : ℕ) (data : Bytes) : Option (List (Py Unit)) :=
  if isValidRequest data then
    callHandlersForPacket loads (dispatcher (some handleCommand)) now n data
  else some []

/-- Handlers one after the other. One that raises ends the thread. -/
def runAll : List (Py Unit) → Script → Script
  | [], s => s
  | c :: l, s =>
    match exec c s with
    | (.ok _, t) => runAll l t
    | (.error _, t) => t

/-- The script after a datagram that is handled without another thread in between. -/
def receive (now : ℚ) (n : ℕ) (data : Bytes) (s : Script) : Option Script :=
  (handle loads now n data).map fun l => runAll l s

/-! ### What is invoked -/

/-- The script's handler on the arguments of a message. -/
def onMessage (args : List OscArg) : Py Unit := onOscMessage (some handleCommand) args

/-- What the dispatcher of the script finds: the handler, if a message reaches it. -/
theorem handlersForAddress_dispatcher (address : String) :
    (dispatcher (some handleCommand)).handlersForAddress address =
      some (if Dispatcher.reaches (oscPrefix ++ "/") address then [onMessage] else []) := by
  have haddr : oscPrefix ++ "/*" = (oscPrefix ++ "/") ++ "*" := by decide
  rw [dispatcher, haddr]
  exact Dispatcher.handlersForAddress_register (by decide) _ address

/-- The arguments of the messages that reach the handler. -/
def handledArgs (msgs : List TimedMessage) : List (List OscArg) :=
  (msgs.filter fun m => Dispatcher.reaches (oscPrefix ++ "/") m.message.address).map fun m =>
    m.message.params.map (OscArg.ofValue loads)

theorem invocations_dispatcher (msgs : List TimedMessage) :
    invocations loads (dispatcher (some handleCommand)) msgs =
      (handledArgs loads msgs).map onMessage := by
  induction msgs with
  | nil => rfl
  | cons m msgs ih =>
    rw [invocations, handlersForAddress_dispatcher, handledArgs, List.filter_cons]
    simp only
    rw [ih, handledArgs]
    split <;> rfl

/-- The handler never raises. -/
theorem exec_onMessage (args : List OscArg) (s : Script) :
    exec (onMessage args) s = (.ok (), s.handled args) := by
  rw [onMessage, Script.handled]
  by_cases hdec : ∃ message rest, args = .json message :: rest
  · obtain ⟨message, rest, rfl⟩ := hdec
    rw [exec_onOscMessage]
  · rw [exec_onOscMessage_undecoded _ fun message rest heq => hdec ⟨message, rest, heq⟩]

theorem runAll_onMessage (args : List (List OscArg)) (s : Script) :
    runAll (args.map onMessage) s = args.foldl Script.handled s := by
  induction args generalizing s with
  | nil => rfl
  | cons a args ih =>
    rw [List.map_cons, runAll, exec_onMessage]
    exact ih _

/-- The arguments that a datagram hands to the handler. -/
def argsIn (now : ℚ) (n : ℕ) (data : Bytes) : List (List OscArg) :=
  if isValidRequest data then
    match OscPacket.parse now n data with
    | some (.ok msgs) => handledArgs loads msgs
    | _ => []
  else []

variable {loads} {now : ℚ} {n : ℕ} {data : Bytes} {s t : Script}

/-- What a thread has to do: the handler on the arguments in its datagram. -/
theorem handle_eq_some {l : List (Py Unit)} (h : handle loads now n data = some l) :
    l = (argsIn loads now n data).map onMessage := by
  rw [handle] at h
  rw [argsIn]
  split at h
  · rename_i hvalid
    rw [if_pos hvalid]
    obtain ⟨packet, hpacket, rfl⟩ := Option.map_eq_some_iff.mp h
    rw [hpacket]
    rcases packet with e | msgs
    · rfl
    · exact invocations_dispatcher loads msgs
  · rename_i hvalid
    rw [if_neg hvalid]
    exact (Option.some.inj h).symm

/-- The script after a datagram has handled the arguments in it. -/
theorem receive_eq_some (h : receive loads now n data s = some t) :
    t = (argsIn loads now n data).foldl Script.handled s := by
  obtain ⟨l, hl, rfl⟩ := Option.map_eq_some_iff.mp h
  rw [handle_eq_some hl, runAll_onMessage]

/-- Arguments that do not begin with an object change nothing. -/
theorem handled_eq_self {args : List OscArg}
    (h : ∀ message rest, args = .json message :: rest → message.isObj = false) :
    s.handled args = s := by
  rcases Script.handled_cases s args with ⟨message, rest, hargs, hhandling⟩ | ⟨-, hsame⟩
  · have hobj := h message rest hargs
    generalize s.handled args = t at hhandling
    cases hhandling with
    | notObject => rfl
    | _ => simp_all
  · exact hsame

/-- **What changes nothing**: a datagram without a message to the script whose first argument is the
text of an object. Whether it is OSC, whether it can be parsed and where else it is addressed to
makes no difference. -/
theorem receive_eq_self
    (h : ∀ msgs, OscPacket.parse now n data = some (.ok msgs) → ∀ m ∈ msgs,
      Dispatcher.reaches (oscPrefix ++ "/") m.message.address →
        ∀ v rest, m.message.params = v :: rest →
          ∀ message, OscArg.ofValue loads v = .json message → message.isObj = false)
    (hreceive : receive loads now n data s = some t) : t = s := by
  rw [receive_eq_some hreceive, argsIn]
  split
  · split
    · rename_i msgs hmsgs
      have hsame : ∀ args ∈ handledArgs loads msgs, s.handled args = s := by
        intro args hargs
        obtain ⟨m, hm, rfl⟩ := List.mem_map.mp hargs
        obtain ⟨hmem, hreaches⟩ := List.mem_filter.mp hm
        refine handled_eq_self fun message rest heq => ?_
        rcases hparams : m.message.params with _ | ⟨v, values⟩
        · rw [hparams] at heq
          cases heq
        · rw [hparams, List.map_cons] at heq
          exact h msgs hmsgs m hmem hreaches v values hparams message (List.cons.inj heq).1
      generalize handledArgs loads msgs = l at hsame
      induction l with
      | nil => rfl
      | cons args l ih =>
        rw [List.forall_mem_cons] at hsame
        rw [List.foldl_cons, hsame.1]
        exact ih hsame.2
    · rfl
  · rfl

/-- A `json.loads` that reads nothing. -/
def noLoads : JsonLoads := ⟨fun _ => none, fun _ => none⟩

theorem receive_eq_self_elsewhere :
    ∃ t, receive noLoads 0 0 [47, 97, 0, 0] (Script.begun oneLooper) = some t ∧
      t = Script.begun oneLooper := by
  have hpacket : OscPacket.parse 0 0 [47, 97, 0, 0] =
      some (.ok [⟨0, ⟨[47, 97, 0, 0], "/a", []⟩⟩]) := by rfl
  have hreaches : Dispatcher.reaches (oscPrefix ++ "/") "/a" = false := by decide
  have hreceive : receive noLoads 0 0 [47, 97, 0, 0] (Script.begun oneLooper) =
      some (Script.begun oneLooper) := by
    rw [receive, handle, callHandlersForPacket, hpacket]
    simp [isValidRequest, OscMessage.dgramIsMessage, invocations, handlersForAddress_dispatcher,
      hreaches, runAll]
  refine ⟨_, hreceive, receive_eq_self (fun msgs hmsgs m hm _ => ?_) hreceive⟩
  rw [hpacket] at hmsgs
  obtain rfl := Except.ok.inj (Option.some.inj hmsgs)
  obtain rfl := List.mem_singleton.mp hm
  intro v rest hparams
  cases hparams

/-! ### Datagrams that are never handled -/

theorem handle_eq_none_iff : handle loads now n data = none ↔
    dgramIsBundle data ∧ OscBundle.parse n data = none := by
  rw [handle, callHandlersForPacket]
  split
  · rw [Option.map_eq_none_iff, OscPacket.parse_eq_none_iff]
  · rename_i hvalid
    refine iff_of_false (by simp) fun h => hvalid ?_
    rw [isValidRequest, h.1, Bool.true_or]

/-- **Which datagrams keep their thread for ever**: bundles whose loop, or that of a bundle inside,
comes back to an index. -/
theorem handle_never_iff : (∀ n, handle loads now n data = none) ↔
    dgramIsBundle data ∧ ∃ timestamp index,
      OscTypes.getDate data bundlePrefix.length = .ok (timestamp, index) ∧ Hangs (data, index) := by
  simp only [handle_eq_none_iff, forall_and, forall_const, OscBundle.parse_eq_none_iff]

/-- Twenty bytes are enough: a bundle whose first element has a size of -4. -/
theorem handle_eq_none {time : Bytes} (htime : time.length = 8) (rest : Bytes) (n : ℕ) :
    handle loads now n (bundlePrefix ++ (time ++ (Bytes.ofInt 4 (-4) ++ rest))) = none := by
  obtain ⟨timestamp, hdate⟩ := OscTypes.exists_reads_getDate htime
  have hsize : OscTypes.Reads OscTypes.getInt (Bytes.ofInt 4 (-4)) (-4) := by
    have hread := OscTypes.reads_getFixed Bytes.toInt (Bytes.length_ofInt 4 (-4))
    rwa [Bytes.toInt_ofInt (by norm_num) (by norm_num)] at hread
  have hint := hsize (bundlePrefix ++ time) rest
  rw [List.append_assoc, List.length_append, Nat.cast_add] at hint
  refine handle_eq_none_iff.mpr ⟨List.isPrefixOf_iff_prefix.mpr (List.prefix_append _ _), ?_⟩
  exact OscBundle.parse_eq_none_iff.mpr ⟨timestamp, _, hdate _ _, hangs_of_getInt hint⟩ n

theorem handle_eq_none_zeros : handle noLoads 0 100
    (bundlePrefix ++ (List.replicate 8 0 ++ (Bytes.ofInt 4 (-4) ++ []))) = none :=
  handle_eq_none (by decide) [] 100

/-- **A thread gets to its handlers** where no four bytes of its datagram are a size of -4 or
less. -/
theorem exists_handle
    (h : ∀ bytes, bytes <:+: data → bytes.length = 4 → -4 < Bytes.toInt bytes) :
    ∃ n l, handle loads now n data = some l := by
  obtain ⟨n, r, hparse⟩ := OscBundle.exists_parse h
  refine ⟨n, Option.ne_none_iff_exists'.mp fun hnone => ?_⟩
  rw [(handle_eq_none_iff.mp hnone).2] at hparse
  cases hparse

/-- A bundle to be handled at once, with messages to `/b` and `/a`. -/
def twoMessages : Bytes :=
  [35, 98, 117, 110, 100, 108, 101, 0, 0, 0, 0, 0, 0, 0, 0, 1, 0, 0, 0, 4, 47, 98, 0, 0,
    0, 0, 0, 4, 47, 97, 0, 0]

theorem exists_handle_twoMessages : ∃ n l, handle noLoads 0 n twoMessages = some l :=
  exists_handle fun bytes hbytes hlength => by
    have hwindows : ∀ i < 29, -4 < Bytes.toInt ((twoMessages.drop i).take 4) := by decide
    obtain ⟨front, rest, heq⟩ := hbytes
    have hfront : front.length < 29 := by
      have hall := congrArg List.length heq
      simp only [List.length_append, hlength] at hall
      change _ = 32 at hall
      omega
    have hwindow := hwindows front.length hfront
    rwa [← heq, List.append_assoc, List.drop_left, ← hlength, List.take_left] at hwindow

/-! ### Threads -/

/-- The script, and what the threads of its server still have to do. -/
structure Receiving where
  script : Script
  threads : List (List (Py Unit)) := []

/-- What happens to a script with threads: a datagram arrives, a thread has its turn, the song is
edited, or a parameter is changed in Live. -/
inductive Event
  | arrive (now : ℚ) (n : ℕ) (data : Bytes)
  | turn (k : ℕ)
  | edit (e : SongEdit)
  | setParam (i j k : ℕ) (v : Double)

variable (loads)

/-- The script and its threads after an event. A datagram that is parsed at no depth never gets as
far as this. -/
def step (r : Receiving) : Event → Option Receiving
  | .arrive now n data =>
    if r.script.server.server.isSome then
      (handle loads now n data).map fun l => { r with threads := r.threads ++ [l] }
    else none
  | .turn k =>
    match r.threads[k]? with
    | some (c :: l) =>
      match exec c r.script with
      | (.ok _, t) => some ⟨t, r.threads.set k l⟩
      | (.error _, t) => some ⟨t, r.threads.set k []⟩
    | _ => none
  | .edit e => (r.script.step (.edit e)).map fun t => { r with script := t }
  | .setParam i j k v => (r.script.step (.setParam i j k v)).map fun t => { r with script := t }

/-- The arguments in the datagrams that arrive. -/
def arrived (es : List Event) : List (List OscArg) := es.flatMap fun e =>
  match e with
  | .arrive now n data => argsIn loads now n data
  | _ => []

/-- The arguments that the script handles. -/
def handledIn (es : List Script.Event) : List (List OscArg) := es.filterMap fun e =>
  match e with
  | .message args => some args
  | _ => none

variable {loads}

/-- A socket stays. -/
theorem server_step {e : Script.Event} (h : s.step e = some t) :
    t.server.server = s.server.server := by
  have hkept : Script.Kept fun u => u.server.server = s.server.server :=
    { sent := fun u v ⟨new, hv⟩ hu => by rw [hv, hu]
      announce := fun u port _ hu => hu
      store := fun u i j k p v _ hu => hu
      edited := fun u song hu => hu
      rescanned := fun u hu => by rw [Script.rescanned_server, hu] }
  exact hkept.step rfl h

/-- A thread takes its next arguments from what is still to be handled. -/
theorem perm_of_getElem? {pending : List (List (List OscArg))} {k : ℕ} {a : List OscArg}
    {rest : List (List OscArg)} (h : pending[k]? = some (a :: rest)) :
    pending.flatten.Perm (a :: (pending.set k rest).flatten) := by
  induction pending generalizing k with
  | nil => cases h
  | cons l pending ih =>
    cases k with
    | zero =>
      obtain rfl := Option.some.inj h
      exact List.Perm.refl _
    | succ k =>
      rw [List.set_cons_succ, List.flatten_cons, List.flatten_cons]
      exact ((ih h).append_left l).trans List.perm_middle

/-- **The server is simulated by the script**: whatever datagrams arrive, and however the threads
take turns, the script gets to its state by steps of its own. The arguments that it handles on the
way and those that are still to be handled are, each of them once, those in the datagrams. -/
theorem run_of_run {r r' : Receiving} {es : List Event}
    (h : Runs.Run (Runs.ofFun (step loads)) r es r') {pending : List (List (List OscArg))}
    (hthreads : r.threads = pending.map fun args => args.map onMessage)
    (hsocket : pending.flatten ≠ [] → r.script.server.server.isSome) :
    ∃ (es' : List Script.Event) (pending' : List (List (List OscArg))),
      Runs.Run (Runs.ofFun Script.step) r.script es' r'.script ∧
      r'.threads = (pending'.map fun args => args.map onMessage) ∧
        (handledIn es' ++ pending'.flatten).Perm (pending.flatten ++ arrived loads es) := by
  induction h generalizing pending with
  | nil r =>
    refine ⟨[], pending, .nil _, hthreads, ?_⟩
    rw [arrived, List.flatMap_nil, List.append_nil]
    exact List.Perm.refl _
  | @cons r r' u e es hstep _ ih =>
    cases e with
    | arrive now n data =>
      simp only [Runs.ofFun, step] at hstep
      split at hstep
      swap
      · cases hstep
      rename_i hserver
      obtain ⟨l, hl, rfl⟩ := Option.map_eq_some_iff.mp hstep
      obtain rfl := handle_eq_some hl
      obtain ⟨es', pending', hrun, hpending, hperm⟩ :=
        @ih (pending ++ [argsIn loads now n data]) (by simp [hthreads]) fun _ => hserver
      refine ⟨es', pending', hrun, hpending, hperm.trans ?_⟩
      rw [List.flatten_append, List.flatten_singleton, List.append_assoc]
      exact List.Perm.refl _
    | turn k =>
      simp only [Runs.ofFun, step] at hstep
      split at hstep
      swap
      · cases hstep
      rename_i c l hk
      rw [hthreads, List.getElem?_map, Option.map_eq_some_iff] at hk
      obtain ⟨args, hargs, hcons⟩ := hk
      obtain ⟨a, rest, rfl, rfl, rfl⟩ := List.map_eq_cons_iff.mp hcons
      rw [exec_onMessage] at hstep
      obtain rfl := Option.some.inj hstep
      have htake := perm_of_getElem? hargs
      have hne : pending.flatten ≠ [] := fun hnil => by simp [hnil] at htake
      have hmessage : r.script.step (.message a) = some (r.script.handled a) :=
        if_pos (hsocket hne)
      obtain ⟨es', pending', hrun, hpending, hperm⟩ := @ih (pending.set k rest)
        (by rw [hthreads, List.map_set]) fun _ => by
          rw [server_step hmessage]
          exact hsocket hne
      refine ⟨.message a :: es', pending', .cons hmessage hrun, hpending, ?_⟩
      exact (hperm.cons a).trans (htake.symm.append_right _)
    | edit e =>
      obtain ⟨t, ht, rfl⟩ := Option.map_eq_some_iff.mp hstep
      obtain ⟨es', pending', hrun, hpending, hperm⟩ := ih hthreads fun hne => by
        rw [server_step ht]
        exact hsocket hne
      exact ⟨.edit e :: es', pending', .cons ht hrun, hpending, hperm⟩
    | setParam i j k v =>
      obtain ⟨t, ht, rfl⟩ := Option.map_eq_some_iff.mp hstep
      obtain ⟨es', pending', hrun, hpending, hperm⟩ := ih hthreads fun hne => by
        rw [server_step ht]
        exact hsocket hne
      exact ⟨.setParam i j k v :: es', pending', .cons ht hrun, hpending, hperm⟩

/-- A `json.loads` that reads an empty object. -/
def emptyObjectLoads : JsonLoads :=
  ⟨fun text => if text = "\x7b\x7d" then some (.obj []) else none, fun _ => none⟩

/-- A message to `/loopercontrol/a` with an empty object. -/
def emptyObject : Bytes :=
  [47, 108, 111, 111, 112, 101, 114, 99, 111, 110, 116, 114, 111, 108, 47, 97, 0, 0, 0, 0,
    44, 115, 0, 0, 123, 125, 0, 0]

theorem handle_emptyObject :
    handle emptyObjectLoads 0 0 emptyObject = some [onMessage [.json (.obj [])]] := by
  have hpacket : OscPacket.parse 0 0 emptyObject =
      some (.ok [⟨0, ⟨emptyObject, "/loopercontrol/a", [.str "\x7b\x7d"]⟩⟩]) := rfl
  have hvalid : isValidRequest emptyObject = true := by decide
  rw [handle, if_pos hvalid, callHandlersForPacket, hpacket]
  simp only [Option.map_some, invocations_dispatcher]
  rfl

open Script in
/-- While a hello waits for its turn, the message arrives. It has its turn behind the hello. -/
theorem run_of_run_hello :
    ∃ (es' : List Script.Event) (pending' : List (List (List OscArg))),
      Runs.Run (Runs.ofFun Script.step) (begun oneLooper) es'
        ((met oneLooper).handled [.json (.obj [])]) ∧
      [[], []] = (pending'.map fun args => args.map onMessage) ∧
        (handledIn es' ++ pending'.flatten).Perm ([[OscArg.json helloMessage]] ++
          arrived emptyObjectLoads [.arrive 0 0 emptyObject, .turn 0, .turn 1]) := by
  let hello := onMessage [.json helloMessage]
  let message := onMessage [.json (.obj [])]
  have harrive : step emptyObjectLoads ⟨begun oneLooper, [[hello]]⟩ (.arrive 0 0 emptyObject) =
      some ⟨begun oneLooper, [[hello], [message]]⟩ := by
    have hsocket : (begun oneLooper).server.server.isSome = true := rfl
    simp only [step, hsocket, if_true, handle_emptyObject, Option.map_some, List.singleton_append,
      message]
  have hfirst : step emptyObjectLoads ⟨begun oneLooper, [[hello], [message]]⟩ (.turn 0) =
      some ⟨met oneLooper, [[], [message]]⟩ := by
    simp only [step, List.getElem?_cons_zero, exec_onMessage, met, List.set_cons_zero, hello]
  have hsecond : step emptyObjectLoads ⟨met oneLooper, [[], [message]]⟩ (.turn 1) =
      some ⟨(met oneLooper).handled [.json (.obj [])], [[], []]⟩ := by
    simp only [step, List.getElem?_cons_succ, List.getElem?_cons_zero, exec_onMessage,
      List.set_cons_succ, List.set_cons_zero, message]
  exact @run_of_run emptyObjectLoads ⟨begun oneLooper, [[hello]]⟩ _ _
    (.cons harrive (.cons hfirst (.cons hsecond (.nil _)))) [[[.json helloMessage]]]
    rfl fun _ => rfl

end OscServer

end LooperControl
