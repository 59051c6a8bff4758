import LooperControl.System.Handshake
import Mathlib.Data.Fintype.Basic

/-!
# The handshake on one machine

A script and any number of plugin instances bind UDP ports of the loopback interface, next to
other programs. Their port ranges overlap. An instance says hello to the first port of the
script's range, whoever listens there, and learns the script's port from the answer.

* **The network**: `Network.step`. The script starts, an instance connects, a datagram on its
  way is delivered to whoever listens at its port.
* **What every network keeps**: `Sound`. No port has two owners, and a handshake is answered
  only by a script at the first port of its range.
* **The run theorem**: `agreesOnPorts_iff`. The handshakes of the instances that connect to a
  script that is bound succeed exactly when the first port was free when the script started.
-/

namespace LooperControl

open MessageProtocol LooperControlSurface BridgeServer Script

/-- A datagram on its way, and the instance whose hello is the cause of it. -/
structure Parcel (ι : Type) where
  datagram : Datagram
  cause : ι

/-- The processes of a machine that take part in the handshake and what is on its way between
them. `handled` lists the instances whose datagrams the script has handled, with the plugin
port it remembered then. -/
structure Network (ι : Type) where
  script : Option Script := none
  clients : ι → BridgeClient := fun _ => {}
  inFlight : List (Parcel ι) := []
  handled : List (ι × Json) := []

namespace Network

variable {ι : Type}

/-- What happens on the machine: the script starts in a song, an instance connects, or one of
the datagrams on their way is delivered. -/
inductive Event (ι : Type)
  | start (song : Song)
  | connect (i : ι) (uuid : String)
  | deliver (k : ℕ)

/-- The port of the script's socket. -/
def bound (n : Network ι) : Option ℕ := n.script.bind fun s => s.server.server

/-- A port that can be bound: no other program, not the script, and no instance has it. -/
def free [Fintype ι] (taken : ℕ → Bool) (n : Network ι) (port : ℕ) : Bool :=
  !taken port && decide (n.bound ≠ some port) && decide (∀ i, (n.clients i).receiver ≠ some port)

/-- Whether a socket is the one that a datagram is sent to. -/
def Reaches (socket : Option ℕ) (d : Datagram) : Prop :=
  (socket.map fun port : ℕ => (port : ℤ)) = some d.port

instance (socket : Option ℕ) (d : Datagram) : Decidable (Reaches socket d) :=
  inferInstanceAs (Decidable (_ = _))

/-- The script handles a datagram. -/
def toScript (n : Network ι) (x : Parcel ι) : Network ι :=
  match n.script with
  | some s =>
    let t := s.handled [.json x.datagram.payload]
    { n with
      script := some t
      inFlight := n.inFlight ++ (t.sent.drop s.sent.length).map fun d => ⟨d, x.cause⟩
      handled := n.handled ++ [(x.cause, t.server.pluginPort)] }
  | none => n

/-- An instance that listens at the port of a datagram receives it. -/
def toClients (J : Juce) (n : Network ι) (x : Parcel ι) : Network ι :=
  { n with
    clients := fun i =>
      if Reaches (n.clients i).receiver x.datagram then
        BridgeClient.oscMessageReceived J (n.clients i) (received x.datagram.payload)
      else n.clients i }

/-- The network after an event, if the event can happen. -/
def step [Fintype ι] [DecidableEq ι] (J : Juce) (taken : ℕ → Bool) (n : Network ι) :
    Event ι → Option (Network ι)
  | .start song =>
    match n.script with
    | some _ => none
    | none => some { n with script := some (Effect.exec (init (n.free taken)) (fresh song)).2 }
  | .connect i uuid =>
    if (n.clients i).connected then none
    else
      let (_, c, sent) := BridgeClient.connect J (n.free taken) uuid (n.clients i)
      some { n with
        clients := Function.update n.clients i c
        inFlight := n.inFlight ++ sent.map fun d => ⟨d, i⟩ }
  | .deliver k =>
    n.inFlight[k]?.map fun x =>
      let n := { n with inFlight := n.inFlight.eraseIdx k }
      if Reaches n.bound x.datagram then n.toScript x else n.toClients J x

/-- The hello of an instance, and everything sent because of it, has been delivered. -/
def Delivered (n : Network ι) (i : ι) : Prop := ∀ x ∈ n.inFlight, x.cause ≠ i

/-- An instance and the script have each other's port, and the instance does not have its own. -/
structure AgreesOnPorts (n : Network ι) (i : ι) : Prop where
  remote : ∃ port : ℕ, n.bound = some port ∧ (n.clients i).remotePort = port
  notOwn : (n.clients i).remotePort ≠ (n.clients i).localPort
  recorded : (i, .int (n.clients i).localPort) ∈ n.handled

/-! ### Ports that are bound -/

variable {J : Juce} {taken : ℕ → Bool} {n t : Network ι}

theorem free_iff [Fintype ι] {port : ℕ} : n.free taken port = true ↔
    taken port = false ∧ n.bound ≠ some port ∧ ∀ i, (n.clients i).receiver ≠ some port := by
  simp only [free, Bool.and_eq_true, Bool.not_eq_true', decide_eq_true_eq, and_assoc]

theorem reaches_iff {socket : Option ℕ} {d : Datagram} :
    Reaches socket d ↔ ∃ port : ℕ, socket = some port ∧ (port : ℤ) = d.port := by
  rw [Reaches, Option.map_eq_some_iff]

/-- The server that the script starts with. -/
theorem server_init (free : ℕ → Bool) (song : Song) :
    (Effect.exec (init free) (fresh song)).2.server =
      BridgeServer.start free (fresh song).server := by
  rw [init, Effect.exec_bind, Effect.exec_modify]
  simp only [Effect.exec_bind, Effect.exec_modify]
  rcases hscan : LooperDiscovery.scanResult song with e | found
  · rw [exec_fullScan_error (e := e) hscan]
    rfl
  · rw [@exec_fullScan_ok _ found hscan, scanned_server]

/-- The script binds its first port exactly when that is free. -/
theorem server_start_iff (free : ℕ → Bool) (song : Song) :
    (BridgeServer.start free (fresh song).server).server = some scriptPortStart ↔
      free scriptPortStart = true := by
  have hports : List.range' (fresh song).server.port 10 =
      scriptPortStart :: List.range' 7012 9 := rfl
  rw [BridgeServer.start, hports, List.find?_cons]
  rcases hfree : free scriptPortStart with _ | _
  · simp only [Bool.false_eq_true, iff_false]
    rcases hfind : (List.range' 7012 9).find? free with _ | port
    · exact fun h => by cases h
    · intro h
      obtain rfl := Option.some.inj h
      rw [List.find?_some hfind] at hfree
      cases hfree
  · simp

/-- A socket that is bound is on the server's port. -/
theorem port_start {free : ℕ → Bool} {song : Song} {port : ℕ}
    (h : (BridgeServer.start free (fresh song).server).server = some port) :
    (BridgeServer.start free (fresh song).server).port = port ∧ free port = true := by
  rw [BridgeServer.start] at h ⊢
  rcases hfind : (List.range' (fresh song).server.port 10).find? free with _ | port'
  · rw [hfind] at h
    cases h
  · rw [hfind] at h
    obtain rfl := Option.some.inj h
    exact ⟨rfl, List.find?_some hfind⟩

/-- A client is connected when it has a socket, and that is on its local port. -/
def HasSocket (c : BridgeClient) : Prop :=
  c.receiver = if c.connected then some c.localPort else none

/-- What an idle instance has after it has tried to connect, and what it has sent: a free port
and a hello, or nothing. -/
structure Tried (J : Juce) (free : ℕ → Bool) (uuid : String) (c : BridgeClient)
    (sent : List Datagram) : Prop where
  socket : HasSocket c
  port : c.connected = true →
    free c.localPort = true ∧ (0 < c.localPort ∧ c.localPort < 65536) ∧
      c.remotePort = scriptPortStart
  sent : sent = if c.connected then
    [⟨scriptPortStart, "/loopercontrol", messageToJson (createHello J uuid c.localPort)⟩] else []

theorem tried_connect (free : ℕ → Bool) (uuid : String) {c : BridgeClient}
    (h : c.connected = false) : Tried J free uuid (BridgeClient.connect J free uuid c).2.1
      (BridgeClient.connect J free uuid c).2.2 := by
  rw [BridgeClient.connect, BridgeClient.bindToPortRange]
  rcases hfind : (List.range' pluginPortStart 10).find? free with _ | port
  · refine ⟨?_, fun hc => ?_, ?_⟩
    · rw [HasSocket, h]
      rfl
    · dsimp only at hc
      rw [h] at hc
      cases hc
    · dsimp only
      rw [h]
      rfl
  · have hmem := List.mem_of_find?_eq_some hfind
    rw [List.mem_range'_1, pluginPortStart] at hmem
    have hpos : 0 < port := by omega
    have hlt : port < 65536 := by omega
    have hne : ¬(true = false ∨ port = 0) := by simpa using hpos.ne'
    exact ⟨rfl, fun _ => ⟨List.find?_some hfind, ⟨hpos, hlt⟩, rfl⟩, if_neg hne⟩

/-! ### What a delivery does -/

/-- No message received changes what an instance has bound. -/
theorem bound_oscMessageReceived (c : BridgeClient) (parsed : Json) :
    (BridgeClient.oscMessageReceived J c parsed).receiver = c.receiver ∧
      (BridgeClient.oscMessageReceived J c parsed).connected = c.connected ∧
      (BridgeClient.oscMessageReceived J c parsed).localPort = c.localPort := by
  have hresult : ∀ data, (BridgeClient.handleResult J c data).receiver = c.receiver ∧
      (BridgeClient.handleResult J c data).connected = c.connected ∧
      (BridgeClient.handleResult J c data).localPort = c.localPort := by
    intro data
    rw [BridgeClient.handleResult]
    split <;> exact ⟨rfl, rfl, rfl⟩
  have hremoved : ∀ event, (BridgeClient.handleLooperRemoved J c event).receiver = c.receiver ∧
      (BridgeClient.handleLooperRemoved J c event).connected = c.connected ∧
      (BridgeClient.handleLooperRemoved J c event).localPort = c.localPort := by
    intro event
    rw [BridgeClient.handleLooperRemoved]
    split <;> exact ⟨rfl, rfl, rfl⟩
  rw [BridgeClient.oscMessageReceived]
  dsimp only
  split
  · rw [BridgeClient.handleEvent]
    split
    · exact ⟨rfl, rfl, rfl⟩
    split
    · exact ⟨rfl, rfl, rfl⟩
    split
    · exact hremoved _
    split
    · exact hresult _
    · exact ⟨rfl, rfl, rfl⟩
  · split
    · exact hresult _
    · exact ⟨rfl, rfl, rfl⟩

/-- The answer to a hello tells the script's port. -/
theorem remotePort_helloResult (c : BridgeClient) (uuid : String) {port : ℕ}
    (h : port < 2147483648) :
    (BridgeClient.oscMessageReceived J c
      (received (responseMessage (.str uuid) (helloResult port)))).remotePort = port := by
  have hfinite : (responseMessage (.str uuid) (helloResult port)).isFinite = true := rfl
  have hlow : (-2147483648 : ℤ) ≤ (port : ℤ) := by omega
  have hhigh : (port : ℤ) < 2147483648 := by omega
  have hport : property "port" (property "data" (responseMessage (.str uuid) (helloResult port))) =
      .int port := by
    simp [responseMessage, helloResult]
  have hhandle : ∀ uuid data version, BridgeClient.handleEvent J c ⟨uuid, "result", data, version⟩ =
      BridgeClient.handleResult J c data := fun _ _ _ => rfl
  rw [received_of_isFinite hfinite,
    @BridgeClient.oscMessageReceived_event J c _ "result" rfl rfl (by decide), hhandle,
    BridgeClient.handleResult, hport, if_pos ⟨rfl, J.isInt_int _ hlow hhigh⟩]
  exact J.toInt_int _ hlow hhigh

theorem validHello_createHello (uuid : String) (port : ℕ) :
    ValidHello (messageToJson (createHello J uuid port)) (.str uuid) port := by
  have hargs := args_createHello J uuid port
  refine ⟨rfl, rfl, rfl, rfl, ?_, ?_⟩
  · rw [argsOf]
    simp [messageToJson, hargs, Json.isObj]
  · rw [argsOf]
    simp [messageToJson, hargs]

/-- The script's answer to a hello on its way. -/
def answerTo (uuid : String) (port : ℕ) (i : ι) : Parcel ι :=
  ⟨⟨port, oscPrefix ++ "/response", responseMessage (.str uuid) (helloResult scriptPortStart)⟩, i⟩

/-- A hello that reaches the script is recorded and answered. -/
theorem toScript_hello {s : Script} {x : Parcel ι} {uuid : String} {port : ℕ}
    (hscript : n.script = some s) (hsocket : s.server.server = some scriptPortStart)
    (hport : s.server.port = scriptPortStart) (hrange : 0 < port ∧ port < 65536)
    (hpayload : x.datagram.payload = messageToJson (createHello J uuid port)) :
    n.toScript x =
      { n with
        script := some (respond (announce s (.int port)) (.str uuid)
          (helloResult scriptPortStart))
        inFlight := n.inFlight ++ [answerTo uuid port x.cause]
        handled := n.handled ++ [(x.cause, .int port)] } := by
  have hhandled := handled_hello (s := s) (validHello_createHello (J := J) uuid port)
  have htarget : (announce s (.int port)).server.target = some (port : ℤ) := by
    change (s.server.server.bind fun _ => asPort? (.int port)) = _
    rw [hsocket, Option.bind_some, asPort?, if_pos (by omega)]
  have hsent : (respond (announce s (.int port)) (.str uuid) (helloResult scriptPortStart)).sent =
      s.sent ++ [(answerTo uuid port x.cause).datagram] := by
    change s.sent ++ responses (announce s (.int port)).server _ _ = _
    rw [responses, htarget]
    rfl
  rw [toScript, hscript]
  dsimp only
  rw [hpayload, hhandled, hport, hsent, List.drop_left]
  rfl

/-! ### What every network keeps -/

/-- What a datagram on its way can be: a hello to the first port of the script's range, or the
answer to one by a script at that port. -/
inductive Due (J : Juce) (n : Network ι) (x : Parcel ι) : Prop
  | hello (uuid : String) (hport : x.datagram.port = scriptPortStart)
      (hpayload : x.datagram.payload =
        messageToJson (createHello J uuid (n.clients x.cause).localPort))
  | answer (uuid : String) (hbound : n.bound = some scriptPortStart)
      (hx : x = answerTo uuid (n.clients x.cause).localPort x.cause)

/-- What holds on the machine. -/
structure Sound (J : Juce) (n : Network ι) : Prop where
  /-- A socket is on the server's port. -/
  server : ∀ s port, n.script = some s → s.server.server = some port → s.server.port = port
  socket : ∀ i, HasSocket (n.clients i)
  /-- Local ports are ports. -/
  range : ∀ i, (n.clients i).connected = true →
    0 < (n.clients i).localPort ∧ (n.clients i).localPort < 65536
  /-- No port has two owners. -/
  distinct : ∀ i j port, (n.clients i).receiver = some port →
    (n.clients j).receiver = some port → i = j
  apart : ∀ i port, n.bound = some port → (n.clients i).receiver ≠ some port
  /-- Whose handshake is under way is connected. -/
  parcels : ∀ x ∈ n.inFlight, (n.clients x.cause).connected = true ∧ Due J n x
  /-- While no instance is at the first port of the script's range, it is the remote port. -/
  remote : (∀ j, (n.clients j).receiver ≠ some scriptPortStart) →
    ∀ i, (n.clients i).connected = true → (n.clients i).remotePort = scriptPortStart
  /-- Only a script at that port has handled anything. -/
  handled : ∀ i v, (i, v) ∈ n.handled → n.bound = some scriptPortStart ∧
    (n.clients i).connected = true ∧ v = .int (n.clients i).localPort

theorem sound_initial : Sound J ({} : Network ι) where
  server _ _ h := by cases h
  socket _ := rfl
  range _ h := by cases h
  distinct _ _ _ h := by cases h
  apart _ _ h := by cases h
  parcels _ h := by cases h
  remote _ _ h := by cases h
  handled _ _ h := by cases h

theorem Due.of_same {x : Parcel ι} (h : Due J n x) (hbound : t.bound = n.bound)
    (hlocal : (t.clients x.cause).localPort = (n.clients x.cause).localPort) : Due J t x := by
  cases h with
  | hello uuid hport hpayload => exact .hello uuid hport (by rw [hpayload, hlocal])
  | answer uuid hb hx => exact .answer uuid (hbound.trans hb) (by rw [hlocal]; exact hx)

/-- A client that may have received a datagram has the socket it had before. -/
theorem bound_toClients (n : Network ι) (x : Parcel ι) (i : ι) :
    ((n.toClients J x).clients i).receiver = (n.clients i).receiver ∧
      ((n.toClients J x).clients i).connected = (n.clients i).connected ∧
      ((n.toClients J x).clients i).localPort = (n.clients i).localPort := by
  rw [toClients]
  dsimp only
  split
  · exact bound_oscMessageReceived _ _
  · exact ⟨rfl, rfl, rfl⟩

/-- A datagram is delivered to whoever listens, but not to the script. -/
theorem Sound.toClients {x : Parcel ι} {rest : List (Parcel ι)} (hn : Sound J n)
    (hx : x ∈ n.inFlight) (hrest : ∀ y ∈ rest, y ∈ n.inFlight) :
    Sound J (Network.toClients J { n with inFlight := rest } x) := by
  have hsame := bound_toClients (J := J) { n with inFlight := rest } x
  have hsocket : ∀ i,
      HasSocket ((Network.toClients J { n with inFlight := rest } x).clients i) := by
    intro i
    obtain ⟨hreceiver, hconnected, hlocal⟩ := hsame i
    rw [HasSocket, hreceiver, hconnected, hlocal]
    exact hn.socket i
  refine ⟨hn.server, hsocket, fun i => ?_, fun i j p => ?_, fun i p hp => ?_, fun y hy => ?_,
    fun hnone i hi => ?_, fun i v hv => ?_⟩
  · rw [(hsame i).2.1, (hsame i).2.2]
    exact hn.range i
  · rw [(hsame i).1, (hsame j).1]
    exact hn.distinct i j p
  · rw [(hsame i).1]
    exact hn.apart i p hp
  · obtain ⟨hconnected, hdue⟩ := hn.parcels y (hrest y hy)
    exact ⟨(hsame y.cause).2.1.trans hconnected, hdue.of_same rfl (hsame y.cause).2.2⟩
  · have hnone' : ∀ j, (n.clients j).receiver ≠ some scriptPortStart := fun j =>
      (hsame j).1 ▸ hnone j
    have hi' : (n.clients i).connected = true := (hsame i).2.1 ▸ hi
    change (if Reaches (n.clients i).receiver x.datagram then
      BridgeClient.oscMessageReceived J (n.clients i) (received x.datagram.payload)
        else n.clients i).remotePort = _
    split
    · rename_i hreach
      obtain ⟨port, hport, heq⟩ := reaches_iff.mp hreach
      -- Whoever listens at the first port of the script's range is no instance.
      cases (hn.parcels x hx).2 with
      | hello uuid hto =>
        rw [hto] at heq
        exact absurd (hport.trans (congrArg some (Nat.cast_injective heq))) (hnone' i)
      | answer uuid hb heqx =>
        rw [heqx]
        exact remotePort_helloResult _ uuid (by decide)
    · exact hn.remote hnone' i hi'
  · obtain ⟨hb, hconnected, hv⟩ := hn.handled i v hv
    exact ⟨hb, (hsame i).2.1.trans hconnected, by rw [(hsame i).2.2]; exact hv⟩

/-- What reaches the script is a hello, and the script is at the first port of its range. -/
theorem Sound.reaches {x : Parcel ι} (hn : Sound J n) (hx : x ∈ n.inFlight)
    (hreach : Reaches n.bound x.datagram) :
    n.bound = some scriptPortStart ∧ ∃ uuid, x.datagram.payload =
      messageToJson (createHello J uuid (n.clients x.cause).localPort) := by
  obtain ⟨port, hbound, heq⟩ := reaches_iff.mp hreach
  obtain ⟨hconnected, hdue⟩ := hn.parcels x hx
  cases hdue with
  | hello uuid hto hpayload =>
    rw [hto] at heq
    exact ⟨hbound.trans (congrArg some (Nat.cast_injective heq)), uuid, hpayload⟩
  | answer uuid hb heqx =>
    -- An answer goes to an instance's own port, which is not the script's.
    have hlocal : port = (n.clients x.cause).localPort := by
      have hto : x.datagram.port = ((n.clients x.cause).localPort : ℤ) := by
        rw [heqx]
        rfl
      exact Nat.cast_injective (heq.trans hto)
    have hreceiver : (n.clients x.cause).receiver = some port := by
      rw [hlocal]
      exact (hn.socket x.cause).trans (if_pos hconnected)
    exact absurd hreceiver (hn.apart x.cause port hbound)

/-- What the script makes of a datagram that reaches it. -/
theorem Sound.toScript_eq {x : Parcel ι} (rest : List (Parcel ι)) (hn : Sound J n)
    (hx : x ∈ n.inFlight) (hreach : Reaches n.bound x.datagram) :
    ∃ s uuid, s.server.server = some scriptPortStart ∧ s.server.port = scriptPortStart ∧
      n.bound = some scriptPortStart ∧
      Network.toScript { n with inFlight := rest } x =
        { n with
          script := some s
          inFlight := rest ++ [answerTo uuid (n.clients x.cause).localPort x.cause]
          handled := n.handled ++ [(x.cause, .int (n.clients x.cause).localPort)] } := by
  obtain ⟨hbound, uuid, hpayload⟩ := hn.reaches hx hreach
  have hbound' := hbound
  rw [bound, Option.bind_eq_some_iff] at hbound'
  obtain ⟨s, hscript, hsocket⟩ := hbound'
  have hport := hn.server s _ hscript hsocket
  have hrange := hn.range x.cause (hn.parcels x hx).1
  have heq :=
    toScript_hello (n := { n with inFlight := rest }) hscript hsocket hport hrange hpayload
  exact ⟨respond (announce s (.int (n.clients x.cause).localPort)) _ _, uuid, hsocket, hport,
    hbound, heq⟩

/-- A datagram is delivered to the script. -/
theorem Sound.toScript {x : Parcel ι} {rest : List (Parcel ι)} (hn : Sound J n)
    (hx : x ∈ n.inFlight) (hrest : ∀ y ∈ rest, y ∈ n.inFlight)
    (hreach : Reaches n.bound x.datagram) :
    Sound J (Network.toScript { n with inFlight := rest } x) := by
  obtain ⟨s, uuid, hsocket, hport, hbound, heq⟩ := hn.toScript_eq rest hx hreach
  have hconnected := (hn.parcels x hx).1
  rw [heq]
  have hbound' : ∀ inFlight handled, (⟨some s, n.clients, inFlight, handled⟩ : Network ι).bound =
      n.bound := fun _ _ => hsocket.trans hbound.symm
  refine ⟨fun s' port hs' hp => ?_, hn.socket, hn.range, hn.distinct, fun i p hp => ?_,
    fun y hy => ?_, hn.remote, fun i v hv => ?_⟩
  · cases hs'
    rw [hsocket, Option.some_inj] at hp
    rw [hport, hp]
  · exact hn.apart i p ((hbound' _ _).symm.trans hp)
  · dsimp only at hy ⊢
    rcases List.mem_append.mp hy with hy | hy
    · obtain ⟨hy₁, hy₂⟩ := hn.parcels y (hrest y hy)
      exact ⟨hy₁, hy₂.of_same (hbound' _ _) rfl⟩
    · obtain rfl := List.mem_singleton.mp hy
      exact ⟨hconnected, .answer uuid hsocket rfl⟩
  · dsimp only at hv ⊢
    rcases List.mem_append.mp hv with hv | hv
    · obtain ⟨-, hc, hv⟩ := hn.handled i v hv
      exact ⟨hsocket, hc, hv⟩
    · obtain ⟨rfl, rfl⟩ := Prod.mk.inj (List.mem_singleton.mp hv)
      exact ⟨hsocket, hconnected, rfl⟩

/-- What is on its way besides a delivered datagram. -/
theorem mem_eraseIdx_or {l : List (Parcel ι)} {k : ℕ} {x y : Parcel ι} (hk : l[k]? = some x)
    (hy : y ∈ l) : y = x ∨ y ∈ l.eraseIdx k := by
  obtain ⟨m, hm⟩ := List.mem_iff_getElem?.mp hy
  rw [List.mem_eraseIdx_iff_getElem?]
  by_cases h : m = k
  · left
    rw [h, hk, Option.some_inj] at hm
    exact hm.symm
  · exact .inr ⟨m, h, hm⟩

variable [Fintype ι] [DecidableEq ι]

/-- What an event does when an instance connects. -/
theorem step_connect_eq {i : ι} {uuid : String}
    (h : n.step J taken (.connect i uuid) = some t) :
    ¬(n.clients i).connected = true ∧ ∃ c sent, Tried J (n.free taken) uuid c sent ∧
      t = { n with
        clients := Function.update n.clients i c
        inFlight := n.inFlight ++ sent.map fun d => ⟨d, i⟩ } := by
  rw [step] at h
  split at h
  · cases h
  · rename_i hidle
    exact ⟨hidle, _, _, tried_connect _ uuid (Bool.eq_false_of_not_eq_true hidle),
      (Option.some.inj h).symm⟩

/-- What an event does when a datagram is delivered: the script has it, or the instances do. -/
theorem step_deliver_eq {k : ℕ} (h : n.step J taken (.deliver k) = some t) :
    ∃ x, n.inFlight[k]? = some x ∧
      ((Reaches n.bound x.datagram ∧
          t = Network.toScript { n with inFlight := n.inFlight.eraseIdx k } x) ∨
        (¬Reaches n.bound x.datagram ∧
          t = Network.toClients J { n with inFlight := n.inFlight.eraseIdx k } x)) := by
  obtain ⟨x, hk, rfl⟩ := Option.map_eq_some_iff.mp h
  refine ⟨x, hk, ?_⟩
  dsimp only
  split
  · rename_i hreach
    exact .inl ⟨hreach, rfl⟩
  · rename_i hreach
    exact .inr ⟨hreach, rfl⟩

/-- The script starts. -/
theorem Sound.start {song : Song} (hn : Sound J n)
    (h : n.step J taken (.start song) = some t) : Sound J t := by
  rw [step] at h
  rcases hscript : n.script with _ | s
  · rw [hscript] at h
    cases h
    have hnone : n.bound = none := by rw [bound, hscript]; rfl
    have hbound : ({ n with script := some (Effect.exec (init (n.free taken)) (fresh song)).2 } :
        Network ι).bound =
          (BridgeServer.start (n.free taken) (fresh song).server).server := by
      rw [← server_init]
      rfl
    exact
      { server := fun s port hs hport => by
          cases hs
          rw [server_init] at hport ⊢
          exact (port_start hport).1
        socket := hn.socket
        range := hn.range
        distinct := hn.distinct
        apart := fun i port hport => by
          rw [hbound] at hport
          exact (free_iff.mp (port_start hport).2).2.2 i
        parcels := fun x hx => by
          obtain ⟨hconnected, hdue⟩ := hn.parcels x hx
          cases hdue with
          | hello uuid hport hpayload => exact ⟨hconnected, .hello uuid hport hpayload⟩
          | answer uuid hb =>
            rw [hnone] at hb
            cases hb
        remote := hn.remote
        handled := fun i v hv => by
          have hb := (hn.handled i v hv).1
          rw [hnone] at hb
          cases hb }
  · rw [hscript] at h
    cases h

omit [Fintype ι] in
/-- A client takes the place of another one. No port has two owners if the new one has a port that
nobody had. -/
theorem distinct_update {clients : ι → BridgeClient} {i : ι} {c : BridgeClient}
    (hdistinct : ∀ j k port, (clients j).receiver = some port →
      (clients k).receiver = some port → j = k)
    (hfree : ∀ port, c.receiver = some port → ∀ j, (clients j).receiver ≠ some port)
    (j k : ι) (port : ℕ) (hj : (Function.update clients i c j).receiver = some port)
    (hk : (Function.update clients i c k).receiver = some port) : j = k := by
  rw [Function.update_apply] at hj hk
  split at hj <;> split at hk
  · rename_i hji hki
    rw [hji, hki]
  · exact absurd hk (hfree port hj k)
  · exact absurd hj (hfree port hk j)
  · exact hdistinct j k port hj hk

/-- An instance connects. -/
theorem Sound.connect {i : ι} {uuid : String} (hn : Sound J n)
    (h : n.step J taken (.connect i uuid) = some t) : Sound J t := by
  obtain ⟨hidle, c, sent, htried, rfl⟩ := step_connect_eq h
  have hfresh : (n.clients i).receiver = none := (hn.socket i).trans (if_neg hidle)
  have hother : ∀ j, j ≠ i → Function.update n.clients i c j = n.clients j :=
    fun j hj => Function.update_of_ne hj c n.clients
  have hself : Function.update n.clients i c i = c := Function.update_self i c n.clients
  have hport : ∀ p, c.receiver = some p → n.free taken p = true := by
    intro p hp
    rw [show c.receiver = _ from htried.socket] at hp
    split at hp
    · rename_i hc
      obtain rfl := Option.some.inj hp
      exact (htried.port hc).1
    · cases hp
  exact
    { server := hn.server
      socket := (Function.forall_update_iff n.clients fun _ c => HasSocket c).mpr
        ⟨htried.socket, fun j _ => hn.socket j⟩
      range := (Function.forall_update_iff n.clients fun _ c =>
          c.connected = true → 0 < c.localPort ∧ c.localPort < 65536).mpr
        ⟨fun hc => (htried.port hc).2.1, fun j _ => hn.range j⟩
      -- The port that has been bound was free, so that nobody else has it.
      distinct := distinct_update hn.distinct fun p hp => (free_iff.mp (hport p hp)).2.2
      apart := fun j p hp => (Function.forall_update_iff n.clients fun _ c =>
          c.receiver ≠ some p).mpr
        ⟨fun hc => (free_iff.mp (hport p hc)).2.1 hp, fun j _ => hn.apart j p hp⟩ j
      parcels := fun x hx => by
        dsimp only at hx ⊢
        rcases List.mem_append.mp hx with hx | hx
        · obtain ⟨hconnected, hdue⟩ := hn.parcels x hx
          have hne : x.cause ≠ i := fun heq => hidle (heq ▸ hconnected)
          refine ⟨by rw [hother _ hne]; exact hconnected, hdue.of_same rfl ?_⟩
          dsimp only
          rw [hother _ hne]
        · obtain ⟨d, hd, rfl⟩ := List.mem_map.mp hx
          rw [htried.sent] at hd
          split at hd
          · rename_i hc
            obtain rfl := List.mem_singleton.mp hd
            refine ⟨by rw [hself]; exact hc, .hello uuid rfl ?_⟩
            dsimp only
            rw [hself]
          · cases hd
      remote := fun hnone j hj => by
        dsimp only at hnone hj ⊢
        by_cases hji : j = i
        · rw [hji, hself] at hj ⊢
          exact (htried.port hj).2.2
        · rw [hother j hji] at hj ⊢
          refine hn.remote (fun k => ?_) j hj
          by_cases hk : k = i
          · rw [hk, hfresh]
            exact fun h => by cases h
          · rw [← hother k hk]
            exact hnone k
      handled := fun j v hv => by
        obtain ⟨hbound, hconnected, hv⟩ := hn.handled j v hv
        have hne : j ≠ i := fun heq => hidle (heq ▸ hconnected)
        dsimp only
        rw [hother j hne]
        exact ⟨hbound, hconnected, hv⟩ }

/-- **The step lemma**: every event keeps the network sound. -/
theorem Sound.step {e : Event ι} (hn : Sound J n) (h : n.step J taken e = some t) :
    Sound J t := by
  cases e with
  | start song => exact hn.start h
  | connect i uuid => exact hn.connect h
  | deliver k =>
    obtain ⟨x, hk, hdelivered⟩ := step_deliver_eq h
    have hx := List.mem_of_getElem? hk
    have hrest : ∀ y ∈ n.inFlight.eraseIdx k, y ∈ n.inFlight := fun y => List.mem_of_mem_eraseIdx
    rcases hdelivered with ⟨hreach, rfl⟩ | ⟨-, rfl⟩
    · exact hn.toScript hx hrest hreach
    · exact hn.toClients hx hrest

/-! ### Handshakes with a script that is bound -/

/-- What holds since a script has started: it is on the same port, and the hello of every
instance that has connected since is on its way or, if the script is where hellos are sent, has
been handled. -/
structure Since (J : Juce) (n₁ n : Network ι) : Prop where
  sound : Sound J n
  started : n.script.isSome
  bound : n.bound = n₁.bound
  greeted : ∀ i, (n₁.clients i).connected = false → (n.clients i).connected = true →
    (∃ x ∈ n.inFlight, x.cause = i ∧ x.datagram.port = scriptPortStart) ∨
    (n.bound = some scriptPortStart → (i, .int (n.clients i).localPort) ∈ n.handled)

private theorem Since.connect {n₁ : Network ι} {i : ι} {uuid : String} (hn : Since J n₁ n)
    (h : n.step J taken (.connect i uuid) = some t) : Since J n₁ t := by
  have hsound := hn.sound.connect h
  obtain ⟨-, c, sent, htried, rfl⟩ := step_connect_eq h
  refine ⟨hsound, hn.started, hn.bound, fun j hj₁ hj => ?_⟩
  dsimp only at hj ⊢
  by_cases hji : j = i
  · rw [hji, Function.update_self] at hj
    -- The instance has just said hello.
    rw [htried.sent, if_pos hj]
    exact .inl ⟨_, List.mem_append_right _ (List.mem_singleton_self _), hji.symm, rfl⟩
  · rw [Function.update_of_ne hji] at hj ⊢
    rcases hn.greeted j hj₁ hj with ⟨x, hx, hcause, hport⟩ | hlog
    · exact .inl ⟨x, List.mem_append_left _ hx, hcause, hport⟩
    · exact .inr hlog

private theorem Since.deliver {n₁ : Network ι} {k : ℕ} (hn : Since J n₁ n)
    (h : n.step J taken (.deliver k) = some t) : Since J n₁ t := by
  have hsound := hn.sound.step h
  obtain ⟨x, hk, hdelivered⟩ := step_deliver_eq h
  have hx := List.mem_of_getElem? hk
  rcases hdelivered with ⟨hreach, rfl⟩ | ⟨hreach, rfl⟩
  · obtain ⟨s, uuid, hsocket, -, hbound, heq⟩ :=
      hn.sound.toScript_eq (n.inFlight.eraseIdx k) hx hreach
    rw [heq] at hsound ⊢
    refine ⟨hsound, rfl, (hsocket.trans hbound.symm).trans hn.bound, fun i hi₁ hi => ?_⟩
    dsimp only at hi ⊢
    rcases hn.greeted i hi₁ hi with ⟨y, hy, rfl, hport⟩ | hlog
    · rcases mem_eraseIdx_or hk hy with rfl | hy
      · exact .inr fun _ => List.mem_append_right _ (List.mem_singleton_self _)
      · exact .inl ⟨y, List.mem_append_left _ hy, rfl, hport⟩
    · exact .inr fun _ => List.mem_append_left _ (hlog hbound)
  · have hsame := bound_toClients (J := J) { n with inFlight := n.inFlight.eraseIdx k } x
    refine ⟨hsound, hn.started, hn.bound, fun i hi₁ hi => ?_⟩
    rw [(hsame i).2.1] at hi
    rw [(hsame i).2.2]
    rcases hn.greeted i hi₁ hi with ⟨y, hy, rfl, hport⟩ | hlog
    · rcases mem_eraseIdx_or hk hy with rfl | hy
      · -- A hello that does not reach the script: it is not at the port hellos are sent to.
        exact .inr fun hbound => absurd (reaches_iff.mpr ⟨_, hbound, hport.symm⟩) hreach
      · exact .inl ⟨y, hy, rfl, hport⟩
    · exact .inr hlog

theorem Since.step {n₁ : Network ι} {e : Event ι} (hn : Since J n₁ n)
    (h : n.step J taken e = some t) : Since J n₁ t := by
  cases e with
  | start song =>
    obtain ⟨s, hs⟩ := Option.isSome_iff_exists.mp hn.started
    rw [Network.step, hs] at h
    cases h
  | connect i uuid => exact hn.connect h
  | deliver k => exact hn.deliver h

/-- **Handshake agreement on ports**: of the instances that connect to a script that is bound,
those whose handshake has been delivered agree with it on ports exactly when the first port of
the script's range was free when it started. -/
theorem agreesOnPorts_iff {n₀ n₁ n₂ : Network ι} {es₀ es : List (Event ι)} {song : Song} {i : ι}
    (h₀ : Runs.Run (Runs.ofFun (step J taken)) {} es₀ n₀)
    (hstart : n₀.step J taken (.start song) = some n₁) (hbound : n₁.bound.isSome)
    (hrun : Runs.Run (Runs.ofFun (step J taken)) n₁ es n₂)
    (hidle : (n₁.clients i).connected = false) (hconnected : (n₂.clients i).connected = true)
    (hdelivered : n₂.Delivered i) :
    AgreesOnPorts n₂ i ↔ n₀.free taken scriptPortStart = true := by
  have hsound₀ : Sound J n₀ := h₀.invariant (fun _ _ _ hn h => hn.step h) sound_initial
  have hsound₁ : Sound J n₁ := hsound₀.step hstart
  have hfirst : n₁.bound = some scriptPortStart ↔ n₀.free taken scriptPortStart = true := by
    rw [Network.step] at hstart
    split at hstart
    · cases hstart
    · obtain rfl := (Option.some.inj hstart).symm
      rw [← server_start_iff (n₀.free taken) song, ← server_init]
      rfl
  have hsince₁ : Since J n₁ n₁ := by
    refine ⟨hsound₁, ?_, rfl, fun j hj₁ hj => ?_⟩
    · rw [Network.bound] at hbound
      rcases hscript : n₁.script with _ | s
      · rw [hscript] at hbound
        cases hbound
      · rfl
    · rw [hj₁] at hj
      cases hj
  have hsince : Since J n₁ n₂ := hrun.invariant (fun _ _ _ hn h => hn.step h) hsince₁
  rw [← hfirst, ← hsince.bound]
  constructor
  · -- Only a script at the first port of its range has ever handled a hello.
    intro hagrees
    exact (hsince.sound.handled i _ hagrees.recorded).1
  · intro hport
    have hnone : ∀ j, (n₂.clients j).receiver ≠ some scriptPortStart :=
      fun j => hsince.sound.apart j _ hport
    have hremote := hsince.sound.remote hnone i hconnected
    refine ⟨⟨scriptPortStart, hport, hremote⟩, ?_, ?_⟩
    · intro heq
      have hlocal : (n₂.clients i).localPort = scriptPortStart := by
        rw [hremote] at heq
        exact (Nat.cast_injective heq).symm
      exact hnone i (((hsince.sound.socket i).trans (if_pos hconnected)).trans
        (congrArg some hlocal))
    · rcases hsince.greeted i hidle hconnected with ⟨x, hx, hcause, -⟩ | hlog
      · exact absurd hcause (hdelivered x hx)
      · exact hlog hport

/-- An instance that connects after the script has started, and the delivery of a first and of a
second datagram. -/
def handshake : List (Event Unit) := [.connect () "u", .deliver 0, .deliver 0]

/-- The first port is free: the handshake of one instance. -/
theorem agreesOnPorts_alone : ∃ n : Network Unit, AgreesOnPorts n () := by
  let free : ℕ → Bool := fun _ => false
  let n₁ : Network Unit :=
    { script := some (Effect.exec (init (({} : Network Unit).free free)) (fresh .empty)).2 }
  have hrun : ((handshake.foldlM (step .plain free) n₁).map fun n =>
      ((n.clients ()).connected, n.inFlight.length)) = some (true, 0) := by
    decide +kernel
  obtain ⟨n₂, hn₂, hfacts⟩ := Option.map_eq_some_iff.mp hrun
  obtain ⟨hconnected, hnone⟩ := Prod.mk.inj hfacts
  refine ⟨n₂, (agreesOnPorts_iff (.nil _)
    (show ({} : Network Unit).step .plain free (.start .empty) = some n₁ from rfl)
      (by decide +kernel) (Runs.run_ofFun_iff.mpr hn₂) rfl hconnected fun x hx => ?_).mpr
        (by decide +kernel)⟩
  rw [List.eq_nil_of_length_eq_zero hnone] at hx
  cases hx

/-- **Another program has the first port**: the script falls back, and no hello finds it. -/
theorem not_agreesOnPorts : ¬∀ (J : Juce) (taken : ℕ → Bool) (n₀ n₁ n₂ : Network Unit)
    (es₀ es : List (Event Unit)) (song : Song) (i : Unit),
    Runs.Run (Runs.ofFun (step J taken)) {} es₀ n₀ → n₀.step J taken (.start song) = some n₁ →
      n₁.bound.isSome → Runs.Run (Runs.ofFun (step J taken)) n₁ es n₂ →
        (n₁.clients i).connected = false → (n₂.clients i).connected = true →
          n₂.Delivered i → AgreesOnPorts n₂ i := by
  intro h
  let taken : ℕ → Bool := fun port => port = 7011
  let n₁ : Network Unit :=
    { script := some (Effect.exec (init (({} : Network Unit).free taken)) (fresh .empty)).2 }
  have hrun : (((handshake.take 2).foldlM (step .plain taken) n₁).map fun n =>
      ((n.clients ()).connected, n.inFlight.length, n.bound, (n.clients ()).remotePort)) =
        some (true, 0, some 7012, 7011) := by
    decide +kernel
  obtain ⟨n₂, hn₂, hfacts⟩ := Option.map_eq_some_iff.mp hrun
  obtain ⟨hconnected, hnone, hbound, hremote⟩ : (n₂.clients ()).connected = true ∧
      n₂.inFlight = [] ∧ n₂.bound = some 7012 ∧ (n₂.clients ()).remotePort = 7011 := by
    simpa using hfacts
  obtain ⟨⟨port, hport, heq⟩, -, -⟩ := h .plain taken {} n₁ n₂ [] (handshake.take 2) .empty ()
    (.nil _) rfl (by decide +kernel) (Runs.run_ofFun_iff.mpr hn₂) rfl hconnected
      fun x hx => by rw [hnone] at hx; cases hx
  rw [hbound, Option.some_inj] at hport
  rw [hremote, ← hport] at heq
  exact absurd heq (by decide)

end Network

end LooperControl
