import LooperControl.System.Transmission
import LooperControl.System.Window

/-!
# The script and its plugins together

One script and any number of plugins on a network that loses, repeats and reorders what is sent. The
bytes of a plugin's message begin with the address `/loopercontrol`, which the script's dispatcher
finds no handler for, and a script sends nothing before it has handled a hello.

* `handle_padded`: a thread of the server has nothing to do for such bytes, whatever follows them.
* `separate_of_run`: in every run of the whole, the script and each plugin get to where they get by
  themselves. No plugin receives anything, and none ever lists a looper.

The plugin's sender and receiver are JUCE's, and are parameters.
-/

namespace LooperControl

open OscTypes BridgeServer

/-! ### Bytes that the script has no handler for -/

/-- The prefix as an OSC string. -/
theorem padded_oscPrefix : padded oscPrefix =
    [47, 108, 111, 111, 112, 101, 114, 99, 111, 110, 116, 114, 111, 108, 0, 0] := by decide

/-- A message whose bytes begin with the prefix is a message to the prefix. -/
theorem address_of_parse_padded {rest : Bytes} {m : OscMessage}
    (h : OscMessage.parse (padded oscPrefix ++ rest) = .ok m) : m.address = oscPrefix := by
  obtain ⟨hzero, behind, heq⟩ := OscMessage.dgram_eq_of_parse h
  have hfront : Bytes.ofText oscPrefix ++ [0] <+: Bytes.ofText m.address ++ 0 :: behind := by
    rw [← heq, padded_oscPrefix]
    exact ⟨0 :: rest, rfl⟩
  have htext := congrArg Bytes.toText (OscBundle.eq_of_isPrefix_zero (by decide) hzero hfront)
  rw [Bytes.toText_ofText, Bytes.toText_ofText] at htext
  exact (Option.some.inj htext).symm

namespace OscServer

variable {loads : JsonLoads} {now : ℚ} {n : ℕ}

/-- A thread of the server has nothing to do for such bytes, whether they can be parsed or not. -/
theorem handle_padded (rest : Bytes) :
    handle loads now n (padded oscPrefix ++ rest) = some [] := by
  have hbundle : OscBundle.dgramIsBundle (padded oscPrefix ++ rest) = false := by
    rw [padded_oscPrefix]
    rfl
  have hargs : argsIn loads now n (padded oscPrefix ++ rest) = [] := by
    rw [argsIn]
    split
    · split
      · rename_i msgs hmsgs
        obtain ⟨m, hm, rfl⟩ := OscPacket.eq_message_of_parse hbundle hmsgs
        have hreaches : Dispatcher.reaches (oscPrefix ++ "/") oscPrefix = false := by decide
        rw [handledArgs, List.filter_cons_of_neg, List.filter_nil, List.map_nil]
        rw [address_of_parse_padded hm, hreaches]
        exact Bool.false_ne_true
      · rfl
    · rfl
  obtain ⟨l, hl⟩ : ∃ l, handle loads now n (padded oscPrefix ++ rest) = some l := by
    refine Option.ne_none_iff_exists'.mp fun hnone => ?_
    rw [handle_eq_none_iff, hbundle] at hnone
    exact absurd hnone.1 Bool.false_ne_true
  rw [hl, handle_eq_some hl, hargs, List.map_nil]

/-- The most that the server's socket reads of a datagram: `max_packet_size`. -/
def maxPacketSize : ℕ := 8192

end OscServer

/-! ### The whole -/

/-- The plugin's side of sending: `JSON::toString` and `OSCSender`. The bytes of a message begin
with its address. -/
structure OscSender where
  text : Json → String
  write : String → String → Bytes
  exists_write : ∀ address text, ∃ rest, write address text = padded address ++ rest

/-- The bytes of a message that the server's socket reads. -/
def OscSender.bytes (S : OscSender) (d : Datagram) : Bytes :=
  (S.write d.address (S.text d.payload)).take OscServer.maxPacketSize

/-- The script has nothing to do for a message of a plugin, also where it is cut off. -/
theorem OscSender.handle_bytes (S : OscSender) {d : Datagram} (h : d.address = oscPrefix)
    (loads : JsonLoads) (now : ℚ) (n : ℕ) : OscServer.handle loads now n (S.bytes d) = some [] := by
  obtain ⟨rest, hrest⟩ := S.exists_write d.address (S.text d.payload)
  have hfront : (padded oscPrefix).take OscServer.maxPacketSize = padded oscPrefix := by
    rw [padded_oscPrefix]
    exact List.take_of_length_le (by decide)
  rw [bytes, hrest, h, List.take_append, hfront]
  exact OscServer.handle_padded _

namespace Window

/-- What a plugin does: an event of its window, or a command of its user. -/
inductive Action
  | event (e : Event)
  | command (msg : Message)

variable (J : Juce)

/-- The window after an action. A command is sent if there is a client. -/
def act (w : Window) : Action → Window
  | .event e => next J w e
  | .command msg => { w with sent := w.sent ++ w.processor.send msg }

/-- A command can be given at any time, as long as the process is there. -/
def CanAct (w : Window) : Action → Prop
  | .event e => CanHappen w e
  | .command _ => w.ended = false

/-- A message arrives. -/
def Action.received? : Action → Option (List BridgeClient.OscValue)
  | .event (.use (.receive args)) => some args
  | _ => none

end Window

/-- A script with the threads of its server, and plugins. -/
structure Bridge (ι : Type) where
  plugins : ι → Window
  receiving : OscServer.Receiving

namespace Bridge

variable {ι : Type}

/-- What happens: a plugin does something, or something happens to the script. -/
inductive Event (ι : Type)
  | plugin (i : ι) (a : Window.Action)
  | script (e : OscServer.Event)

/-- The bytes of a message of some plugin to the script's socket. -/
def ToScript (S : OscSender) (b : Bridge ι) (data : Bytes) : Prop :=
  ∃ i, ∃ d ∈ (b.plugins i).sent, d.port ∈ b.receiving.script.server.server.map Nat.cast ∧
    data = S.bytes d

/-- What a plugin's receiver makes of a message of the script to its port. -/
def ToPlugin (R : OscReceiver) (spell : ℚ → List Char) (b : Bridge ι) (i : ι)
    (args : List BridgeClient.OscValue) : Prop :=
  ∃ d ∈ b.receiving.script.sent,
    d.port ∈ (b.plugins i).processor.client.receiver.map Nat.cast ∧
      ∃ bytes, d.bytes? spell = some bytes ∧ R.read bytes = some args

variable (J : Juce) (S : OscSender) (R : OscReceiver) (spell : ℚ → List Char) (loads : JsonLoads)

/-- One step of the whole. Whatever has been sent can arrive at any time, and any number of
times. -/
inductive Step [DecidableEq ι] : Bridge ι → Event ι → Bridge ι → Prop
  | plugin {b : Bridge ι} {i : ι} {a : Window.Action} (hcan : (b.plugins i).CanAct a)
      (harrives : ∀ args ∈ a.received?, ToPlugin R spell b i args) :
      Step b (.plugin i a)
        { b with plugins := Function.update b.plugins i ((b.plugins i).act J a) }
  | script {b : Bridge ι} {e : OscServer.Event} {r : OscServer.Receiving}
      (harrives : ∀ now n data, e = .arrive now n data → ToScript S b data)
      (h : OscServer.step loads b.receiving e = some r) :
      Step b (.script e) { b with receiving := r }

/-- A script that has started, without threads, and new plugins, with their windows open or not. -/
structure Starts (b : Bridge ι) : Prop where
  script : b.receiving.script.Started
  threads : b.receiving.threads = []
  plugins : ∀ i, b.plugins i = .loaded ∨ b.plugins i = .opened

/-- What a plugin does in a run. -/
def actionsOf [DecidableEq ι] (i : ι) (es : List (Event ι)) : List Window.Action :=
  es.filterMap fun e =>
    match e with
    | .plugin j a => if j = i then some a else none
    | .script _ => none

/-- What happens to the script in a run, but for its threads. -/
def scriptEvents (es : List (Event ι)) : List Script.Event := es.filterMap fun e =>
  match e with
  | .script (.edit e) => some (.edit e)
  | .script (.setParam i j k v) => some (.setParam i j k v)
  | _ => none

end Bridge

/-! ### What the script sends of its own -/

namespace Script

/-- A script that knows no plugin and has sent nothing. -/
structure Mute (s : Script) : Prop where
  pluginPort : s.server.pluginPort = .null
  sent : s.sent = []

variable {s t : Script}

theorem Mute.target (h : s.Mute) : s.server.target = none := by
  rw [BridgeServer.target, h.pluginPort]
  rcases s.server.server with _ | port <;> rfl

theorem Mute.rescanned (h : s.Mute) : s.rescanned.Mute := by
  refine ⟨by rw [rescanned_server, h.pluginPort], ?_⟩
  rcases hscan : LooperDiscovery.scanResult s.live.song with e | found
  · rw [(rescanned_error_same hscan).1, h.sent]
  · rw [(rescanned_ok_pushes hscan).1, h.sent, LooperControlSurface.announcements, h.target]
    rfl

/-- Only a message makes a script speak. -/
theorem Mute.step (hs : s.Mute) {e : Event} (he : ∀ args, e ≠ .message args)
    (h : s.step e = some t) : t.Mute := by
  cases e with
  | edit e =>
    obtain ⟨song, -, ⟨-, rfl⟩ | ⟨-, rfl⟩⟩ := step_edit h
    · exact Mute.rescanned ⟨hs.pluginPort, hs.sent⟩
    · exact ⟨hs.pluginPort, hs.sent⟩
  | setParam i j k v =>
    obtain ⟨p, -, rfl⟩ := step_setParam h
    rw [LooperControlSurface.assigned_eq, LooperControlSurface.reports, hs.target]
    exact ⟨hs.pluginPort, by rw [hs.sent]; rfl⟩
  | message args => exact absurd rfl (he args)

theorem mute_of_started (h : s.Started) : s.Mute := by
  obtain ⟨free, song, found, -, rfl⟩ := started_eq h
  have hport : (BridgeServer.start free (fresh song).server).pluginPort = .null := by
    rw [BridgeServer.start]
    split <;> rfl
  have hmute : Mute { fresh song with server := BridgeServer.start free (fresh song).server } :=
    ⟨hport, rfl⟩
  refine ⟨by rw [LooperControlSurface.scanned_server]; exact hport, ?_⟩
  rw [LooperControlSurface.scanned_sent, LooperControlSurface.announcements, hmute.target]
  rfl

end Script

/-! ### What a plugin sends and lists of its own -/

namespace Window

variable {J : Juce} {w : Window}

/-- What has been sent has been sent to the prefix, and no looper is listed. -/
structure Alone (w : Window) : Prop where
  sent : ∀ d ∈ w.sent, d.address = oscPrefix
  loopers : w.tracker.loopers = ∅

theorem address_of_mem_sentByUse {c : BridgeClient} {e : BridgeClient.Use} {d : Datagram}
    (h : d ∈ sentByUse J c e) : d.address = oscPrefix := by
  cases e with
  | connect free uuid =>
    rw [sentByUse, BridgeClient.connect] at h
    split at h
    · cases h
    · exact address_of_mem_sendCommand h
  | receive args => cases h
  | disconnect => cases h
  | incrementCycleCount trackId => cases h

theorem address_of_mem_send {p : LiveLooperProcessor} {msg : Message} {d : Datagram}
    (h : d ∈ p.send msg) : d.address = oscPrefix := by
  rw [LiveLooperProcessor.send] at h
  split at h
  · cases h
  · exact address_of_mem_sendCommand h

theorem address_of_mem_asked {uuid : String} {p : LiveLooperProcessor} {requests : List RowRequest}
    {d : Datagram} (h : d ∈ asked J uuid p requests) : d.address = oscPrefix := by
  obtain ⟨request, -, hd⟩ := List.mem_flatMap.mp h
  rw [call_eq_send] at hd
  exact address_of_mem_send hd

theorem loopers_connect (free : ℕ → Bool) (uuid : String) (c : BridgeClient) :
    (BridgeClient.connect J free uuid c).2.1.tracker.loopers = c.tracker.loopers := by
  rw [BridgeClient.connect, BridgeClient.bindToPortRange]
  rcases List.find? free (List.range' pluginPortStart 10) with _ | port
  · rfl
  · exact LooperTracker.setConnected_loopers _ true

theorem loopers_abandoned (p : LiveLooperProcessor) :
    p.abandoned.loopers = p.tracker.loopers := by
  rw [LiveLooperProcessor.abandoned]
  split
  · exact LooperTracker.setConnected_loopers _ false
  · rfl

/-- A use without a message lists no looper. -/
theorem loopers_use {c : BridgeClient} (hc : c.tracker.loopers = ∅) {e : BridgeClient.Use}
    (he : ∀ args, e ≠ .receive args) : (c.use J e).tracker.loopers = ∅ := by
  cases e with
  | receive args => exact absurd rfl (he args)
  | connect free uuid => exact (loopers_connect free uuid c).trans hc
  | disconnect => exact (LooperTracker.setConnected_loopers _ false).trans hc
  | incrementCycleCount trackId =>
    have hnone : c.tracker.loopers[trackId]? = none := by
      rw [hc, Std.ExtTreeMap.getElem?_empty]
    rw [BridgeClient.use, LooperTracker.incrementCycleCount, hnone]
    exact hc

/-- What happens to a row. -/
theorem alone_onRow (hw : w.Alone) (uuid trackId : String)
    (f : LooperTrackComponent → LooperTrackComponent × List RowRequest) :
    (w.onRow J uuid trackId f).Alone := by
  rw [onRow]
  split
  · exact hw
  · exact ⟨List.forall_mem_append.mpr ⟨hw.sent, fun d => address_of_mem_asked⟩, hw.loopers⟩

/-- **What a plugin does** without a message. -/
theorem alone_act (hw : w.Alone) {a : Action} (ha : a.received? = none) : (w.act J a).Alone := by
  have happend : ∀ {new : List Datagram}, (∀ d ∈ new, d.address = oscPrefix) →
      ∀ d ∈ w.sent ++ new, d.address = oscPrefix := fun hnew =>
    List.forall_mem_append.mpr ⟨hw.sent, hnew⟩
  cases a with
  | command msg => exact ⟨happend fun d => address_of_mem_send, hw.loopers⟩
  | event e =>
    cases e with
    | prepareToPlay free uuid =>
      refine ⟨happend fun d => address_of_mem_sentByUse, ?_⟩
      exact (loopers_connect free uuid _).trans ((loopers_abandoned _).trans hw.loopers)
    | releaseResources =>
      refine ⟨hw.sent, ?_⟩
      simp only [act, next, tracker, LiveLooperProcessor.releaseResources]
      split
      · exact (LooperTracker.setConnected_loopers _ false).trans
          ((LooperTracker.setConnected_loopers _ false).trans hw.loopers)
      · exact hw.loopers
    | use e =>
      refine ⟨happend fun d => address_of_mem_sentByUse, loopers_use hw.loopers ?_⟩
      rintro args rfl
      cases ha
    | openEditor =>
      rw [act, next]
      split
      · exact ⟨hw.sent, hw.loopers⟩
      · rename_i e p hcreate
        obtain ⟨-, rfl⟩ := LiveLooperEditor.eq_of_create hcreate
        exact ⟨hw.sent, hw.loopers⟩
    | closeEditor =>
      rw [act, next]
      split
      · exact hw
      · exact ⟨hw.sent, hw.loopers⟩
    | tick => exact ⟨hw.sent, hw.loopers⟩
    | deliver uuid trackId => exact alone_onRow hw uuid trackId _
    | gesture uuid trackId g => exact alone_onRow hw uuid trackId _

theorem alone_loaded : loaded.Alone := ⟨nofun, rfl⟩

theorem alone_opened : opened.Alone := ⟨nofun, rfl⟩

end Window

namespace Bridge

variable {ι : Type} {J : Juce} {S : OscSender} {R : OscReceiver} {spell : ℚ → List Char}
  {loads : JsonLoads} {b b' : Bridge ι}

/-! ### Runs -/

/-- Nothing that has been sent has an effect: the script is mute, its threads have nothing to do,
and each plugin is alone. -/
structure Silent (b : Bridge ι) : Prop where
  script : b.receiving.script.Mute
  threads : ∀ l ∈ b.receiving.threads, l = []
  plugins : ∀ i, (b.plugins i).Alone

theorem silent_of_starts (h : b.Starts) : b.Silent where
  script := Script.mute_of_started h.script
  threads := by
    rw [h.threads]
    exact nofun
  plugins i := by
    rcases h.plugins i with hi | hi <;> rw [hi]
    · exact Window.alone_loaded
    · exact Window.alone_opened

variable [DecidableEq ι]

variable (J) in
/-- A run in which the script and each plugin get to where they get by themselves: the script by
edits and changes, and each plugin by its own actions, none of which is that a message arrives. -/
structure Separate (b : Bridge ι) (es : List (Event ι)) (b' : Bridge ι) : Prop where
  script : Runs.Run (Runs.ofFun Script.step) b.receiving.script (scriptEvents es)
    b'.receiving.script
  plugins : ∀ i, b'.plugins i = (actionsOf i es).foldl (Window.act J) (b.plugins i)
  received : ∀ i, ∀ a ∈ actionsOf i es, a.received? = none

theorem Separate.append {u : Bridge ι} {es fs : List (Event ι)} (h : Separate J b es u)
    (h' : Separate J u fs b') : Separate J b (es ++ fs) b' where
  script := by
    rw [scriptEvents, List.filterMap_append]
    exact h.script.append h'.script
  plugins i := by
    rw [h'.plugins, h.plugins, actionsOf, actionsOf, actionsOf, List.filterMap_append,
      List.foldl_append]
  received i := by
    rw [actionsOf, List.filterMap_append]
    exact List.forall_mem_append.mpr ⟨h.received i, h'.received i⟩

/-- What happens to the script alone. -/
theorem separate_script {r : OscServer.Receiving} {e : OscServer.Event}
    (h : Runs.Run (Runs.ofFun Script.step) b.receiving.script (scriptEvents [.script (ι := ι) e])
      r.script) : Separate J b [.script e] { b with receiving := r } :=
  ⟨h, fun _ => rfl, fun _ => nofun⟩

/-- **The step lemma.** -/
theorem Silent.step (hb : b.Silent) {e : Event ι} (h : Step J S R spell loads b e b') :
    b'.Silent ∧ Separate J b [e] b' := by
  cases h with
  | @plugin i a hcan harrives =>
    -- Nothing can arrive, because the script has sent nothing.
    have hnone : a.received? = none := by
      refine Option.eq_none_iff_forall_not_mem.mpr fun args hargs => ?_
      obtain ⟨d, hd, -⟩ := harrives args hargs
      rw [hb.script.sent] at hd
      cases hd
    refine ⟨⟨hb.script, hb.threads, fun j => ?_⟩, .nil _, fun j => ?_, fun j => ?_⟩
    · simp only [Function.update_apply]
      split
      · exact Window.alone_act (hb.plugins i) hnone
      · exact hb.plugins j
    · by_cases hij : i = j
      · subst hij
        simp [actionsOf]
      · simp [actionsOf, hij, Ne.symm hij]
    · by_cases hij : i = j
      · simp [actionsOf, hij, hnone]
      · simp [actionsOf, hij]
  | @script e r harrives h =>
    cases e with
    | arrive now n data =>
      obtain ⟨i, d, hd, -, rfl⟩ := harrives now n data rfl
      have hhandle := S.handle_bytes ((hb.plugins i).sent d hd) loads now n
      simp only [OscServer.step, hhandle, Option.map_some] at h
      split at h
      swap
      · cases h
      obtain rfl := Option.some.inj h
      refine ⟨⟨hb.script, ?_, hb.plugins⟩, separate_script (.nil _)⟩
      exact List.forall_mem_append.mpr ⟨hb.threads, List.forall_mem_singleton.mpr rfl⟩
    | turn k =>
      -- No thread has anything to do.
      simp only [OscServer.step] at h
      split at h
      swap
      · cases h
      rename_i c l hk
      cases hb.threads _ (List.mem_of_getElem? hk)
    | edit e =>
      obtain ⟨t, ht, rfl⟩ := Option.map_eq_some_iff.mp h
      exact ⟨⟨hb.script.step (fun _ heq => by cases heq) ht, hb.threads, hb.plugins⟩,
        separate_script (.cons ht (.nil _))⟩
    | setParam i j k v =>
      obtain ⟨t, ht, rfl⟩ := Option.map_eq_some_iff.mp h
      exact ⟨⟨hb.script.step (fun _ heq => by cases heq) ht, hb.threads, hb.plugins⟩,
        separate_script (.cons ht (.nil _))⟩

/-- The run lemma. -/
theorem Silent.run {es : List (Event ι)} (hb : b.Silent)
    (h : Runs.Run (Step J S R spell loads) b es b') : b'.Silent ∧ Separate J b es b' := by
  induction h with
  | nil b => exact ⟨hb, .nil _, fun _ => rfl, fun _ => nofun⟩
  | cons hstep _ ih =>
    obtain ⟨hu, hfirst⟩ := hb.step hstep
    obtain ⟨hsilent, hrest⟩ := ih hu
    exact ⟨hsilent, hfirst.append hrest⟩

/-- **The two never meet**: in every run of a script and its plugins, each gets to where it gets by
itself. The script sends nothing, and no plugin ever lists a looper. -/
theorem separate_of_run {es : List (Event ι)} (hb : b.Starts)
    (h : Runs.Run (Step J S R spell loads) b es b') :
    Separate J b es b' ∧ b'.receiving.script.sent = [] ∧
      ∀ i, (b'.plugins i).tracker.loopers = ∅ :=
  have ⟨hsilent, hseparate⟩ := (silent_of_starts hb).run h
  ⟨hseparate, hsilent.script.sent, fun i => (hsilent.plugins i).loopers⟩

/-- A sender that writes messages as OSC has them. -/
def byFormat : OscSender where
  text := Juce.standardText
  write := OscMessage.textDgram
  exists_write _ text := ⟨padded ",s" ++ padded text, List.append_assoc _ _ _⟩

/-- A plugin connects. -/
def connecting : Window.Action := .event (.prepareToPlay (fun _ => true) "u")

/-- The hello that it sends. -/
def hello : Datagram := ⟨7011, oscPrefix,
  MessageProtocol.messageToJson (MessageProtocol.createHello .standard "u" 7010)⟩

/-- A script that has started, and a plugin, before and after the hello has arrived. -/
def apart (w : Window) (threads : List (List (Py Unit))) : Bridge Unit :=
  ⟨fun _ => w, Script.begun oneLooper, threads⟩

/-- A plugin connects, and its hello arrives. -/
theorem separate_of_run_hello :
    Separate .standard (apart .loaded [])
        [.plugin () connecting, .script (.arrive 0 0 (byFormat.bytes hello))]
        (apart (Window.loaded.act .standard connecting) [[]]) ∧
      (Script.begun oneLooper).sent = [] ∧
      ∀ _ : Unit, (Window.loaded.act .standard connecting).tracker.loopers = ∅ := by
  have hstarts : (apart .loaded []).Starts :=
    ⟨Script.started_begun rfl, rfl, fun _ => .inl rfl⟩
  have hconnect : Step .standard byFormat .byGrammar JsonText.decimalText .byGrammar
      (apart .loaded []) (.plugin () connecting)
        (apart (Window.loaded.act .standard connecting) []) := by
    have hupdate : Function.update (fun _ : Unit => Window.loaded) ()
        (Window.loaded.act .standard connecting) = fun _ => Window.loaded.act .standard connecting :=
      Function.update_eq_const_of_subsingleton () _ _
    rw [apart, apart, ← hupdate]
    exact .plugin ⟨rfl, trivial⟩ nofun
  have hsent : hello ∈ (Window.loaded.act .standard connecting).sent :=
    List.mem_singleton_self hello
  have harrive : OscServer.step .byGrammar ⟨Script.begun oneLooper, []⟩
      (.arrive 0 0 (byFormat.bytes hello)) = some ⟨Script.begun oneLooper, [[]]⟩ := by
    have hsocket : (Script.begun oneLooper).server.server.isSome = true := rfl
    have hhandle := byFormat.handle_bytes (d := hello) rfl .byGrammar 0 0
    simp only [OscServer.step, hsocket, if_true, hhandle, Option.map_some, List.nil_append]
  have hscript : Step .standard byFormat .byGrammar JsonText.decimalText .byGrammar
      (apart (Window.loaded.act .standard connecting) [])
      (.script (.arrive 0 0 (byFormat.bytes hello)))
        (apart (Window.loaded.act .standard connecting) [[]]) := by
    refine .script (fun now n data heq => ⟨(), hello, hsent, rfl, ?_⟩) harrive
    cases heq
    rfl
  exact separate_of_run hstarts (.cons hconnect (.cons hscript (.nil _)))

end Bridge

end LooperControl
