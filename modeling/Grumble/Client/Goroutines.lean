import Grumble.Client.Framing

namespace Grumble.Client

/-! # The goroutines of a client

`tlsRecvLoop`, `udpRecvLoop`, the `handleAuthenticate` goroutine the receive
loop starts, and the `Disconnect` calls the server makes, interleaved one step
at a time: a step is one read or write of `client.state`,
`client.disconnected`, `client.udp` or `client.clientReady`, or one channel
operation. `client.udprecv` and `client.clientReady` are unbuffered, so a send
and the receive it meets are one step. A run-time panic in any goroutine ends
the program: it is recorded in `World.fault` and no step follows it.

What a read of the connection returns is left open: the reader is a
`bufio.Reader`, which can still hand out buffered frames after `conn.Close`.
`handleVersionMessage` and `handleAuthenticate` are not in the repository's
sources; they are modelled by what they do to these fields: the first may
disconnect the client, the second disconnects it (`RejectAuth`) or sets the
state to `StateClientReady` and signals `clientReady` once.

A peer that answers the server's `Version` with its own and then hangs up
makes `tlsRecvLoop` read `io.EOF` in `StateClientSentVersion`. It calls
`Disconnect`, which closes `client.clientReady` because of that state, but the
loop makes the channel only after reading `Authenticate`: the close is of the
nil channel, and the program panics (`run_eofAfterVersion`).
-/

/-- Modelled from the spec: the lifecycle states of a client (§4.g), under the
names the source compares `client.state` with. -/
inductive ClientState
  | stateClientConnected
  | stateServerSentVersion
  | stateClientSentVersion
  | stateClientAuthenticated
  | stateClientReady
deriving DecidableEq, Repr

/-- What one `readProtoMessage` call returns: a frame, `io.EOF`, or another error. -/
inductive Received
  | frame (msg : Message)
  | eof
  | failure
deriving DecidableEq, Repr

/-- The fields of `Client` the goroutines share. Channels are numbered in the
order they are made, and `closed` lists the closed ones; `client.udprecv` is
channel 0, made with the client, and `clientReady` starts as the nil channel. -/
structure Shared where
  state : ClientState
  disconnected : Bool
  udp : Bool
  clientReady : Option Nat
  closed : List Nat
  made : Nat
deriving DecidableEq, Repr

def udprecv : Nat := 0

/-- `close(ch)`: a nil or already closed channel panics. -/
def closeChannel (s : Shared) : Option Nat → Except RuntimePanic Shared
  | none => .error .closeOfNilChannel
  | some ch => if ch ∈ s.closed then .error .closeOfClosedChannel else .ok { s with closed := ch :: s.closed }

inductive DisconnectPc
  | checkDisconnected
  | setDisconnected
  | closeUdprecv
  | checkState
  | closeClientReady
deriving DecidableEq, Repr

/-- One step of `disconnect`: the fields after it and where the call is next,
`none` once it has returned. `RemoveClient`, the log line, `conn.Close` and
`updateCodecVersions` touch none of the shared fields. -/
def disconnectStep (s : Shared) : DisconnectPc → Except RuntimePanic (Shared × Option DisconnectPc)
  | .checkDisconnected => .ok (s, if s.disconnected then none else some .setDisconnected)
  | .setDisconnected => .ok ({ s with disconnected := true }, some .closeUdprecv)
  | .closeUdprecv => (closeChannel s (some udprecv)).map fun s => (s, some .checkState)
  | .checkState =>
      .ok (s, if s.state = .stateClientSentVersion ∨ s.state = .stateClientAuthenticated
        then some .closeClientReady else none)
  | .closeClientReady => (closeChannel s s.clientReady).map fun s => (s, none)

/-- Where `tlsRecvLoop` is. Each `check` reads `client.state` (or
`client.disconnected`) for one `if` of the loop body; `disconnecting d resume`
is inside a `Disconnect` (or `Panicf`) call that continues at `resume`. -/
inductive TlsPc
  | checkReady
  | readReady
  | clearUdp (buf : List UInt8)
  | sendUdprecv (buf : List UInt8)
  | sendIncoming (msg : Message)
  | checkSentVersion
  | readAuthenticate
  | makeClientReady (msg : Message)
  | spawnHandler (msg : Message)
  | waitClientReady
  | checkDisconnected
  | closeClientReady
  | clearClientReady
  | checkConnected
  | sendVersion
  | setServerSentVersion
  | checkServerSentVersion
  | readVersion
  | handleVersion (msg : Message)
  | setClientSentVersion
  | disconnecting (d : DisconnectPc) (resume : TlsPc)
  | returned
deriving DecidableEq, Repr

/-- Where the loop goes after `readProtoMessage`: `next` of a frame; on
`io.EOF` it calls `Disconnect`, on another error `Panicf`, which disconnects
too, and then it returns. -/
def TlsPc.afterRead (received : Received) (next : Message → TlsPc) : TlsPc :=
  match received with
  | .frame msg => next msg
  | .eof | .failure => .disconnecting .checkDisconnected .returned

/-- What `tlsRecvLoop` does that can be observed: the messages it sends, the
frames it reads (with the branch of the loop body that read them), and where it
hands each frame. -/
inductive TlsEvent
  | sentVersion
  | read (branch : ClientState) (received : Received)
  | handledVersion (msg : Message)
  | handledAuthenticate (msg : Message)
  | pushedUdprecv (buf : List UInt8)
  | pushedIncoming (msg : Message)
deriving DecidableEq, Repr

inductive UdpPc
  | receive
  | body (buf : List UInt8)
  | disconnecting (d : DisconnectPc)
  | returned
deriving DecidableEq, Repr

/-- How the loop body of `udpRecvLoop` ends for a non-empty datagram: on to the
next receive, a return (over the bandwidth budget, or unparsable), or a failed
`SendUDP`, whose `Panicf` disconnects the client before the next receive. -/
inductive UdpOutcome
  | next
  | stop
  | panicf
deriving DecidableEq, Repr

inductive HandlerPc
  | start
  | authenticated
  | signal
  | disconnecting (d : DisconnectPc)
  | done
deriving DecidableEq, Repr

/-- What `handleAuthenticate` does next: set the state to
`StateClientAuthenticated`, reject the client (`ForceDisconnect`), or set the
state to `StateClientReady` and go on to signal `clientReady`. -/
inductive AuthOutcome
  | authenticate
  | reject
  | accept
deriving DecidableEq, Repr

/-- The client's goroutines and the fields they share; `log` lists the
receive loop's events, the latest first, and `servers` the server's
`Disconnect` calls, `none` once one has returned. -/
structure World where
  client : Shared
  tls : TlsPc
  udp : UdpPc
  handlers : List HandlerPc
  servers : List (Option DisconnectPc)
  log : List TlsEvent
  fault : Option RuntimePanic
deriving DecidableEq, Repr

namespace World

def init : World where
  client := { state := .stateClientConnected, disconnected := false, udp := false,
              clientReady := none, closed := [], made := 1 }
  tls := .checkReady
  udp := .receive
  handlers := []
  servers := []
  log := []
  fault := none

def setTls (w : World) (pc : TlsPc) : World := { w with tls := pc }

def setHandler (w : World) (index : Nat) (pc : HandlerPc) : World :=
  { w with handlers := w.handlers.set index pc }

def setServer (w : World) (index : Nat) (pc : Option DisconnectPc) : World :=
  { w with servers := w.servers.set index pc }

/-- A goroutine inside `disconnect` takes the call's next step: `inside` puts it
at the call's next point, `after` where it goes once the call returns. -/
def disconnectBy (w : World) (d : DisconnectPc) (inside : DisconnectPc → World → World)
    (after : World → World) : Option World :=
  match disconnectStep w.client d with
  | .error panic => some { w with fault := some panic }
  | .ok (client, some d) => some (inside d { w with client })
  | .ok (client, none) => some (after { w with client })

def read (w : World) (branch : ClientState) (received : Received) (next : Message → TlsPc) : World :=
  { w with tls := .afterRead received next, log := .read branch received :: w.log }

@[simp] theorem setTls_tls (w : World) (pc : TlsPc) : (w.setTls pc).tls = pc := rfl
@[simp] theorem setTls_client (w : World) (pc : TlsPc) : (w.setTls pc).client = w.client := rfl
@[simp] theorem setTls_udp (w : World) (pc : TlsPc) : (w.setTls pc).udp = w.udp := rfl
@[simp] theorem setTls_handlers (w : World) (pc : TlsPc) : (w.setTls pc).handlers = w.handlers := rfl
@[simp] theorem setTls_servers (w : World) (pc : TlsPc) : (w.setTls pc).servers = w.servers := rfl
@[simp] theorem setTls_log (w : World) (pc : TlsPc) : (w.setTls pc).log = w.log := rfl
@[simp] theorem setHandler_handlers (w : World) (index : Nat) (pc : HandlerPc) :
    (w.setHandler index pc).handlers = w.handlers.set index pc := rfl
@[simp] theorem setHandler_client (w : World) (index : Nat) (pc : HandlerPc) :
    (w.setHandler index pc).client = w.client := rfl
@[simp] theorem setHandler_tls (w : World) (index : Nat) (pc : HandlerPc) :
    (w.setHandler index pc).tls = w.tls := rfl
@[simp] theorem setHandler_udp (w : World) (index : Nat) (pc : HandlerPc) :
    (w.setHandler index pc).udp = w.udp := rfl
@[simp] theorem setHandler_servers (w : World) (index : Nat) (pc : HandlerPc) :
    (w.setHandler index pc).servers = w.servers := rfl
@[simp] theorem setHandler_log (w : World) (index : Nat) (pc : HandlerPc) :
    (w.setHandler index pc).log = w.log := rfl
@[simp] theorem setServer_servers (w : World) (index : Nat) (pc : Option DisconnectPc) :
    (w.setServer index pc).servers = w.servers.set index pc := rfl
@[simp] theorem setServer_client (w : World) (index : Nat) (pc : Option DisconnectPc) :
    (w.setServer index pc).client = w.client := rfl
@[simp] theorem setServer_tls (w : World) (index : Nat) (pc : Option DisconnectPc) :
    (w.setServer index pc).tls = w.tls := rfl
@[simp] theorem setServer_udp (w : World) (index : Nat) (pc : Option DisconnectPc) :
    (w.setServer index pc).udp = w.udp := rfl
@[simp] theorem setServer_handlers (w : World) (index : Nat) (pc : Option DisconnectPc) :
    (w.setServer index pc).handlers = w.handlers := rfl
@[simp] theorem setServer_log (w : World) (index : Nat) (pc : Option DisconnectPc) :
    (w.setServer index pc).log = w.log := rfl
@[simp] theorem read_tls (w : World) (branch : ClientState) (received : Received) (next : Message → TlsPc) :
    (w.read branch received next).tls = .afterRead received next := rfl
@[simp] theorem read_log (w : World) (branch : ClientState) (received : Received) (next : Message → TlsPc) :
    (w.read branch received next).log = .read branch received :: w.log := rfl
@[simp] theorem read_client (w : World) (branch : ClientState) (received : Received)
    (next : Message → TlsPc) : (w.read branch received next).client = w.client := rfl
@[simp] theorem read_udp (w : World) (branch : ClientState) (received : Received) (next : Message → TlsPc) :
    (w.read branch received next).udp = w.udp := rfl
@[simp] theorem read_handlers (w : World) (branch : ClientState) (received : Received)
    (next : Message → TlsPc) : (w.read branch received next).handlers = w.handlers := rfl
@[simp] theorem read_servers (w : World) (branch : ClientState) (received : Received)
    (next : Message → TlsPc) : (w.read branch received next).servers = w.servers := rfl

end World

open World

/-- The receive loop's next step. `received` is what a read returns, and
`versionDisconnects` whether `handleVersionMessage` disconnects the client. -/
def tlsStep (w : World) (received : Received) (versionDisconnects : Bool) : Option World :=
  let s := w.client
  match w.tls with
  | .checkReady => some (w.setTls (if s.state = .stateClientReady then .readReady else .checkSentVersion))
  | .readReady => some (w.read .stateClientReady received fun msg =>
      if msg.kind = messageUDPTunnel then .clearUdp msg.buf else .sendIncoming msg)
  | .clearUdp buf => some { w with client := { s with udp := false }, tls := .sendUdprecv buf }
  | .sendUdprecv buf =>
      if udprecv ∈ s.closed then some { w with fault := some .sendOnClosedChannel }
      else if w.udp = .receive then
        some { w with tls := .checkSentVersion, udp := .body buf, log := .pushedUdprecv buf :: w.log }
      else none
  | .sendIncoming msg => some { w with tls := .checkSentVersion, log := .pushedIncoming msg :: w.log }
  | .checkSentVersion =>
      some (w.setTls (if s.state = .stateClientSentVersion then .readAuthenticate else .checkConnected))
  | .readAuthenticate => some (w.read .stateClientSentVersion received .makeClientReady)
  | .makeClientReady msg =>
      some { w with client := { s with clientReady := some s.made, made := s.made + 1 },
                    tls := .spawnHandler msg }
  | .spawnHandler msg =>
      some { w with handlers := w.handlers ++ [.start], tls := .waitClientReady,
                    log := .handledAuthenticate msg :: w.log }
  | .waitClientReady =>
      match s.clientReady with
      | some ch => if ch ∈ s.closed then some (w.setTls .checkDisconnected) else none
      | none => none
  | .checkDisconnected => some (w.setTls (if s.disconnected then .returned else .closeClientReady))
  | .closeClientReady =>
      match closeChannel s s.clientReady with
      | .error panic => some { w with fault := some panic }
      | .ok s => some { w with client := s, tls := .clearClientReady }
  | .clearClientReady => some { w with client := { s with clientReady := none }, tls := .checkConnected }
  | .checkConnected =>
      some (w.setTls (if s.state = .stateClientConnected then .sendVersion else .checkServerSentVersion))
  | .sendVersion => some { w with tls := .setServerSentVersion, log := .sentVersion :: w.log }
  | .setServerSentVersion =>
      some { w with client := { s with state := .stateServerSentVersion }, tls := .checkReady }
  | .checkServerSentVersion =>
      some (w.setTls (if s.state = .stateServerSentVersion then .readVersion else .checkReady))
  | .readVersion => some (w.read .stateServerSentVersion received .handleVersion)
  | .handleVersion msg =>
      some { w with
        tls := if versionDisconnects then .disconnecting .checkDisconnected .setClientSentVersion
          else .setClientSentVersion
        log := .handledVersion msg :: w.log }
  | .setClientSentVersion =>
      some { w with client := { s with state := .stateClientSentVersion }, tls := .checkReady }
  | .disconnecting d resume =>
      w.disconnectBy d (fun d w => w.setTls (.disconnecting d resume)) (fun w => w.setTls resume)
  | .returned => none

/-- The next step of `udpRecvLoop`. It receives from `udprecv` only in the
step of the sender that meets it, and leaves the `range` loop once the
channel is closed; an empty datagram ends the loop. -/
def udpStep (w : World) (outcome : UdpOutcome) : Option World :=
  match w.udp with
  | .receive => if udprecv ∈ w.client.closed then some { w with udp := .returned } else none
  | .body buf =>
      if buf = [] then some { w with udp := .returned }
      else
        match outcome with
        | .next => some { w with udp := .receive }
        | .stop => some { w with udp := .returned }
        | .panicf => some { w with udp := .disconnecting .checkDisconnected }
  | .disconnecting d =>
      w.disconnectBy d (fun d w => { w with udp := .disconnecting d }) (fun w => { w with udp := .receive })
  | .returned => none

/-- The next step of the `index`-th `handleAuthenticate` goroutine. Its
`client.clientReady <- true` meets the receive loop's `<-client.clientReady`;
on the nil channel it blocks for ever, on a closed one it panics. -/
def handlerStep (w : World) (index : Nat) (outcome : AuthOutcome) : Option World :=
  let s := w.client
  match w.handlers[index]?, outcome with
  | some .start, .authenticate =>
      some { w.setHandler index .authenticated with client := { s with state := .stateClientAuthenticated } }
  | some .start, .reject | some .authenticated, .reject =>
      some (w.setHandler index (.disconnecting .checkDisconnected))
  | some .start, .accept | some .authenticated, .accept =>
      some { w.setHandler index .signal with client := { s with state := .stateClientReady } }
  | some .signal, _ =>
      match s.clientReady with
      | some ch =>
          if ch ∈ s.closed then some { w with fault := some .sendOnClosedChannel }
          else if w.tls = .waitClientReady then some ((w.setHandler index .done).setTls .checkDisconnected)
          else none
      | none => none
  | some (.disconnecting d), _ =>
      w.disconnectBy d (fun d w => w.setHandler index (.disconnecting d)) (fun w => w.setHandler index .done)
  | _, _ => none

def serverStep (w : World) (index : Nat) : Option World :=
  match w.servers[index]? with
  | some (some d) => w.disconnectBy d (fun d w => w.setServer index (some d)) (fun w => w.setServer index none)
  | _ => none

/-- A step of one goroutine, or the server starting a `Disconnect` call of its
own (a kick, a ban, a shutdown). -/
inductive Action
  | tls (received : Received) (versionDisconnects : Bool)
  | udp (outcome : UdpOutcome)
  | handler (index : Nat) (outcome : AuthOutcome)
  | server (index : Nat)
  | spawnServer
deriving DecidableEq, Repr

def step (w : World) (action : Action) : Option World :=
  if w.fault.isSome then none
  else
    match action with
    | .tls received versionDisconnects => tlsStep w received versionDisconnects
    | .udp outcome => udpStep w outcome
    | .handler index outcome => handlerStep w index outcome
    | .server index => serverStep w index
    | .spawnServer => some { w with servers := w.servers ++ [some .checkDisconnected] }

inductive Reachable : World → Prop
  | init : Reachable World.init
  | step {w w' : World} (action : Action) : Reachable w → step w action = some w' → Reachable w'

def run (w : World) : List Action → Option World
  | [] => some w
  | action :: actions => (step w action).bind fun w' => run w' actions

theorem reachable_run {w w' : World} (reached : Reachable w) :
    ∀ {actions : List Action}, run w actions = some w' → Reachable w'
  | [], ran => by cases ran; exact reached
  | action :: actions, ran => by
      cases stepped : step w action with
      | none => simp [run, stepped] at ran
      | some next =>
          simp only [run, stepped, Option.some_bind] at ran
          exact reachable_run (.step action reached stepped) ran

theorem step_of_fault {w : World} (panicked : w.fault.isSome) (action : Action) : step w action = none := by
  simp [step, panicked]

/-- The receive loop alone: it sends `Version`, reads the peer's `Version`
(kind 0), then reads `io.EOF` and disconnects. -/
def eofAfterVersion : List Action :=
  List.replicate 9 (.tls .eof false) ++ [.tls (.frame ⟨0, []⟩) false] ++ List.replicate 10 (.tls .eof false)

theorem run_eofAfterVersion :
    run World.init eofAfterVersion = some
      { client := { state := .stateClientSentVersion, disconnected := true, udp := false,
                    clientReady := none, closed := [udprecv], made := 1 }
        tls := .disconnecting .closeClientReady .returned
        udp := .receive
        handlers := []
        servers := []
        log := [.read .stateClientSentVersion .eof, .handledVersion ⟨0, []⟩,
                .read .stateServerSentVersion (.frame ⟨0, []⟩), .sentVersion]
        fault := some .closeOfNilChannel } := by
  decide

/-- An `io.EOF` read after the peer's `Version` makes `disconnect` close the
nil `clientReady` channel: a reachable state in which the program panicked. -/
theorem disconnect_closes_nil_clientReady :
    ∃ w, Reachable w ∧ w.fault = some .closeOfNilChannel ∧ w.handlers = [] ∧ w.servers = [] :=
  ⟨_, reachable_run .init run_eofAfterVersion, rfl, rfl, rfl⟩

/-- After that `io.EOF` in `StateClientSentVersion` the receive loop never
returns: it is still inside `Disconnect` when the program panics, and no step
follows. -/
theorem tlsRecvLoop_eof_in_clientSentVersion_never_returns :
    ∃ w, Reachable w ∧ w.log.head? = some (.read .stateClientSentVersion .eof) ∧
      w.tls ≠ .returned ∧ ∀ action, step w action = none :=
  ⟨_, reachable_run .init run_eofAfterVersion, rfl, by decide, step_of_fault rfl⟩

end Grumble.Client
