import Grumble.Client.Goroutines
import Grumble.Mumbleproto.Codec
import Grumble.Mumbleproto.FixedWidth

namespace Grumble.Client

open Mumbleproto

/-! # The UDP receive loop

`udpRecvLoop` takes the datagrams sent on `client.udprecv` (tunnelled by
`tlsRecvLoop`, or from the server's UDP socket) one at a time, in the order they
were sent. The goroutine model fixes only how each pass of the loop body ends
(`UdpOutcome`); here the body is computed: the bandwidth verdict, the parse, and
the dispatch of a ping (echoed by `SendUDP`), of a loopback audio packet
(echoed too) or of any other audio packet (sent on `server.voicebroadcast`).

A datagram over the bandwidth budget and one `ParseUDPPacket` rejects are
`return`s, not `continue`s: after either, nothing receives from `udprecv` any
more. A malformed voice datagram comes back from `ParseUDPPacket` as a nil
`*AudioPacket` inside a non-nil interface, which passes the `pkt == nil` test,
and `SetSenderSession` then writes through the nil pointer.

`cryptResync` asks the client for a new crypt nonce when no packet has decrypted
for more than 5 seconds, at most once in 5 seconds. It reads the clock
(`time.Now().Unix()`) three times: for the time since
`client.crypt.LastGoodTime`, for the time since `client.lastResync`, and for the
stamp it stores in `client.lastResync` before it sends the `CryptSetup`. Code
outside this file moves `LastGoodTime`, so each call takes it from its
environment with the three readings. Nothing in the source calls
`cryptResync` yet; a run below is any sequence of calls. The `int64`
subtractions are modelled on `Int`: Unix times are far from the bounds.
-/

/-- What the loop hands on for a datagram: the bytes `SendUDP` echoes to the
client, or the packet sent on `server.voicebroadcast`. -/
inductive Dispatch
  | sendUDP (data : List UInt8)
  | voiceBroadcast (packet : AudioPacket)
deriving DecidableEq, Repr

/-- A datagram received from `client.udprecv`, with what the loop's environment
answers for it: the verdict of `client.Bandwidth.AddFrame`, and whether
`SendUDP` returns nil. -/
structure Delivery where
  buf : List UInt8
  admitted : Bool
  sent : Bool
deriving DecidableEq, Repr

structure UdpClient where
  session : UInt32
  supportProtobuf : Bool
  serverSupportProtobuf : Bool
deriving DecidableEq, Repr

/-- The framing `udpRecvLoop` parses with,
`!(client.Version.SupportProtobuf() && client.server.Version.SupportProtobuf())`. -/
def UdpClient.isLegacy (client : UdpClient) : Bool :=
  !(client.supportProtobuf && client.serverSupportProtobuf)

section

variable (proto : ProtoCodec) (client : UdpClient)

/-- `SendUDP(data)`; a failed send ends the pass in `Panicf`. -/
def echo (d : Delivery) (data : List UInt8) : Except RuntimePanic (Option Dispatch × UdpOutcome) :=
  pure (some (.sendUDP data), if d.sent then .next else .panicf)

/-- One pass of the body of `udpRecvLoop` for a received datagram: what it
dispatches and how the pass ends. Encoding cannot fail: `proto.Marshal` is total
in the model, so the `client.server.Panicf` after `Data` is never reached. -/
def udpRecvBody (d : Delivery) : Except RuntimePanic (Option Dispatch × UdpOutcome) :=
  if d.buf.length = 0 then pure (none, .stop)
  else if !d.admitted then pure (none, .stop)
  else do
    let (pkt, legacy) ← parseUDPPacket proto d.buf client.isLegacy
    match pkt with
    | none => pure (none, .stop)
    | some (.ping none) | some (.audio none) => throw .nilPointerDereference
    | some (.ping (some v)) => echo d (v.data proto legacy)
    | some (.audio (some v)) =>
        let v := v.setSenderSession client.session
        if v.targetOrContext = targetServerLoopback then echo d (v.data proto legacy)
        else pure (some (.voiceBroadcast v), .next)

/-- `udpRecvLoop` over the datagrams sent on `client.udprecv` until it is
closed: what it dispatches before it leaves the loop. After a pass that
returns, nothing receives the later datagrams; after a failed `SendUDP` the
client's `Panicf` has closed `udprecv`, so the `range` ends. -/
def udpRecvLoop : List Delivery → Except RuntimePanic (List Dispatch)
  | [] => pure []
  | d :: later => do
      let (dispatched, outcome) ← udpRecvBody proto client d
      match outcome with
      | .next => return dispatched.toList ++ (← udpRecvLoop later)
      | .stop | .panicf => pure dispatched.toList

@[simp] theorem udpRecvLoop_nil : udpRecvLoop proto client [] = pure [] := rfl

theorem udpRecvLoop_cons_of_body {d : Delivery} {later : List Delivery} {dispatched : Option Dispatch}
    {outcome : UdpOutcome} (body : udpRecvBody proto client d = .ok (dispatched, outcome)) :
    udpRecvLoop proto client (d :: later) =
      match outcome with
      | .next => (dispatched.toList ++ ·) <$> udpRecvLoop proto client later
      | .stop | .panicf => pure dispatched.toList := by
  cases outcome <;> simp only [udpRecvLoop, body] <;> rfl

theorem udpRecvLoop_cons_eq_ok {d : Delivery} {later : List Delivery} {dispatched : List Dispatch}
    (ran : udpRecvLoop proto client (d :: later) = .ok dispatched) :
    ∃ first outcome rest, udpRecvBody proto client d = .ok (first, outcome) ∧ dispatched = first.toList ++ rest ∧
      (rest = [] ∨ udpRecvLoop proto client later = .ok rest) := by
  obtain ⟨⟨first, outcome⟩, body, passed⟩ := bind_eq_ok ran
  refine ⟨first, outcome, ?_⟩
  cases outcome
  case next =>
    obtain ⟨rest, more, pushed⟩ := bind_eq_ok passed
    cases pushed
    exact ⟨rest, body, rfl, .inr more⟩
  all_goals cases passed; exact ⟨[], body, (List.append_nil _).symm, .inl rfl⟩

theorem udpRecvBody_dropped {d : Delivery}
    (dropped : d.admitted = false ∨ ∃ legacy, parseUDPPacket proto d.buf client.isLegacy = .ok (none, legacy)) :
    udpRecvBody proto client d = .ok (none, .stop) := by
  unfold udpRecvBody
  split
  · rfl
  rcases dropped with over | ⟨legacy, rejected⟩
  · rw [if_pos (by simp [over])]; rfl
  split
  · rfl
  rw [rejected]
  rfl

/-- A datagram over the bandwidth budget, or one `ParseUDPPacket` rejects, ends
the loop: the datagrams sent after it are never dispatched, whatever came before. -/
theorem udpRecvLoop_drop_ends_dispatch (earlier later : List Delivery) {d : Delivery}
    (dropped : d.admitted = false ∨ ∃ legacy, parseUDPPacket proto d.buf client.isLegacy = .ok (none, legacy)) :
    udpRecvLoop proto client (earlier ++ d :: later) = udpRecvLoop proto client earlier := by
  induction earlier with
  | nil => exact udpRecvLoop_cons_of_body proto client (udpRecvBody_dropped proto client dropped)
  | cons e earlier ih =>
      cases body : udpRecvBody proto client e with
      | error panic => simp only [List.cons_append, udpRecvLoop, body]; rfl
      | ok result =>
          rw [List.cons_append, udpRecvLoop_cons_of_body proto client body,
            udpRecvLoop_cons_of_body proto client body, ih]

/-- What a pass sends on `server.voicebroadcast` carries the client's session and
is not a loopback packet. -/
theorem udpRecvBody_voiceBroadcast {d : Delivery} {packet : AudioPacket} {outcome : UdpOutcome}
    (body : udpRecvBody proto client d = .ok (some (.voiceBroadcast packet), outcome)) :
    packet.audioUDP.senderSession = client.session ∧ packet.targetOrContext ≠ targetServerLoopback := by
  unfold udpRecvBody at body
  split at body
  · cases body
  split at body
  · cases body
  obtain ⟨⟨pkt, legacy⟩, -, passed⟩ := bind_eq_ok body
  rcases pkt with _ | ((_ | v) | (_ | v))
  · cases passed
  · cases passed
  · simp only [echo] at passed; cases passed
  · cases passed
  · dsimp only at passed
    split at passed
    · simp only [echo] at passed; cases passed
    · cases passed
      exact ⟨rfl, ‹_›⟩

/-- Every packet the loop sends on `server.voicebroadcast` carries the client's
own session, whatever session the datagram named, and a target other than
server loopback. -/
theorem udpRecvLoop_broadcasts_own_session (deliveries : List Delivery) {dispatched : List Dispatch}
    (ran : udpRecvLoop proto client deliveries = .ok dispatched) {packet : AudioPacket}
    (sent : .voiceBroadcast packet ∈ dispatched) :
    packet.audioUDP.senderSession = client.session ∧ packet.targetOrContext ≠ targetServerLoopback := by
  induction deliveries generalizing dispatched with
  | nil => cases ran; cases sent
  | cons d later ih =>
      obtain ⟨first, outcome, rest, body, rfl, more⟩ := udpRecvLoop_cons_eq_ok proto client ran
      rcases List.mem_append.mp sent with here | there
      · rw [Option.mem_toList] at here
        subst here
        exact udpRecvBody_voiceBroadcast proto client body
      · rcases more with rfl | more
        · cases there
        · exact ih more there

end

/-- The client of the failing run: without protobuf support, so it parses the
legacy framing. -/
def legacyClient : UdpClient := { session := 7, supportProtobuf := false, serverSupportProtobuf := true }

/-- An extended ping that the client echoes when it comes alone is never
dispatched when it is sent after a datagram over the bandwidth budget. -/
theorem udpRecvLoop_over_budget_hides_ping :
    (({ buf := [0x80, 0, 0, 0], admitted := false, sent := true } : Delivery).admitted = false ∨
        ∃ legacy, parseUDPPacket fixedWidthCodec ([0x80, 0, 0, 0] : List UInt8) legacyClient.isLegacy = .ok (none, legacy)) ∧
      udpRecvLoop fixedWidthCodec legacyClient
          [{ buf := [0x80, 0, 0, 0], admitted := false, sent := true },
           { buf := [0, 0, 0, 0, 42, 0, 0, 0, 0, 0, 0, 0], admitted := true, sent := true }] = .ok [] ∧
      udpRecvLoop fixedWidthCodec legacyClient
          [{ buf := [0, 0, 0, 0, 42, 0, 0, 0, 0, 0, 0, 0], admitted := true, sent := true }] =
        .ok [.sendUDP [0x20, 0, 0, 0, 0, 42, 0, 0, 0, 0, 0, 0, 0]] :=
  ⟨Or.inl rfl, (udpRecvLoop_drop_ends_dispatch fixedWidthCodec legacyClient [] _ (Or.inl rfl)).trans rfl, rfl⟩

def protobufClient : UdpClient := { session := 7, supportProtobuf := true, serverSupportProtobuf := true }

/-- An audio message naming session 99 is broadcast with the client's session 7. -/
theorem udpRecvLoop_broadcast_session_seven :
    udpRecvLoop fixedWidthCodec protobufClient
        [{ buf := udpPacketAudio :: marshalAudio { senderSession := 99, opusData := [1] },
           admitted := true, sent := true }] =
      .ok [.voiceBroadcast { audioUDP := { senderSession := 7, opusData := [1] }, payload := [1] }] ∧
      Dispatch.voiceBroadcast { audioUDP := { senderSession := 7, opusData := [1] }, payload := [1] } ∈
        [.voiceBroadcast { audioUDP := { senderSession := 7, opusData := [1] }, payload := [1] }] ∧
      ((({ audioUDP := { senderSession := 7, opusData := [1] }, payload := [1] } : AudioPacket).audioUDP.senderSession =
          protobufClient.session ∧
        ({ audioUDP := { senderSession := 7, opusData := [1] }, payload := [1] } : AudioPacket).targetOrContext ≠
          targetServerLoopback)) :=
  have ran : udpRecvLoop fixedWidthCodec protobufClient
      [{ buf := udpPacketAudio :: marshalAudio { senderSession := 99, opusData := [1] },
         admitted := true, sent := true }] =
      .ok [.voiceBroadcast { audioUDP := { senderSession := 7, opusData := [1] }, payload := [1] }] := rfl
  ⟨ran, List.mem_singleton_self _, udpRecvLoop_broadcasts_own_session fixedWidthCodec protobufClient _ ran
    (List.mem_singleton_self _)⟩


-- Crypt resync.

/-- What one call of `cryptResync` reads: `client.crypt.LastGoodTime`, the three
clock readings in the order the call takes them, and whether `sendMessage`
returns nil. -/
structure ResyncCall where
  lastGoodTime : Int
  goodNow : Int
  requestNow : Int
  stampNow : Int
  sent : Bool
deriving DecidableEq, Repr

def ResyncCall.readings (call : ResyncCall) : List Int :=
  [call.goodNow, call.requestNow, call.stampNow]

/-- How a call of `cryptResync` ends: without a request, with a `CryptSetup`
sent, or in `Panicf` when `sendMessage` fails. -/
inductive ResyncOutcome
  | skipped
  | requested
  | panicf
deriving DecidableEq, Repr

/-- `cryptResync`, on `client.lastResync`: the value it leaves there and how the
call ends. -/
def cryptResync (lastResync : Int) (call : ResyncCall) : Int × ResyncOutcome :=
  let goodElapsed := call.goodNow - call.lastGoodTime
  if goodElapsed > 5 then
    let requestElapsed := call.requestNow - lastResync
    if requestElapsed > 5 then
      (call.stampNow, if call.sent then .requested else .panicf)
    else (lastResync, .skipped)
  else (lastResync, .skipped)

/-- `cryptResync` called once per element of a run: the stamps it stores in
`client.lastResync`, one for each `CryptSetup` it sends. -/
def cryptResyncs (lastResync : Int) : List ResyncCall → List Int
  | [] => []
  | call :: later =>
    let (next, outcome) := cryptResync lastResync call
    if outcome = .skipped then cryptResyncs next later
    else next :: cryptResyncs next later

theorem cryptResync_cases (lastResync : Int) (call : ResyncCall) :
    cryptResync lastResync call = (lastResync, .skipped) ∨
      (cryptResync lastResync call).1 = call.stampNow ∧ (cryptResync lastResync call).2 ≠ .skipped ∧
        lastResync + 5 < call.requestNow := by
  by_cases good : call.goodNow - call.lastGoodTime > 5
  · by_cases waited : call.requestNow - lastResync > 5
    · refine .inr ⟨?_, ?_, by omega⟩ <;> cases sent : call.sent <;> simp [cryptResync, good, waited, sent]
    · exact .inl (by simp [cryptResync, good, waited])
  · exact .inl (by simp [cryptResync, good])

theorem cryptResyncs_cons (lastResync : Int) (call : ResyncCall) (later : List ResyncCall) :
    cryptResyncs lastResync (call :: later) =
      if cryptResync lastResync call = (lastResync, .skipped) then cryptResyncs lastResync later
      else call.stampNow :: cryptResyncs call.stampNow later := by
  rcases cryptResync_cases lastResync call with skipped | ⟨stamp, requested, -⟩
  · simp [cryptResyncs, skipped]
  · have : cryptResync lastResync call ≠ (lastResync, .skipped) := fun h => requested (by rw [h])
    simp only [cryptResyncs, if_neg this, if_neg requested, stamp]

/-- On a clock that never goes back, the stamps of the `CryptSetup`s a run sends
are each more than 5 seconds after the one before, the first after the
`lastResync` the run starts from. -/
theorem cryptResyncs_spaced {lastResync : Int} {calls : List ResyncCall}
    (clock : (lastResync :: calls.flatMap ResyncCall.readings).Pairwise (· ≤ ·)) :
    (lastResync :: cryptResyncs lastResync calls).Chain' (· + 5 < ·) := by
  induction calls generalizing lastResync with
  | nil => exact List.chain'_singleton _
  | cons call later ih =>
    have rest : (call.stampNow :: later.flatMap ResyncCall.readings).Pairwise (· ≤ ·) :=
      clock.sublist (.cons _ (List.sublist_append_right [call.goodNow, call.requestNow] _))
    rw [cryptResyncs_cons]
    split_ifs with skipped
    · exact ih (clock.sublist (.cons₂ _ (List.sublist_append_right _ _)))
    · obtain ⟨-, -, waited⟩ := (cryptResync_cases lastResync call).resolve_left skipped
      have ordered : call.requestNow ≤ call.stampNow :=
        (List.pairwise_cons.mp (List.pairwise_cons.mp (List.pairwise_cons.mp clock).2).2).1 _
          (List.mem_cons_self _ _)
      exact .cons (by omega) (ih rest)

/-- A fresh client asking at 10, 12 and 17 seconds with no good packet since 0. -/
def resyncRequests : List ResyncCall :=
  [⟨0, 10, 10, 10, true⟩, ⟨0, 12, 12, 12, true⟩, ⟨0, 17, 17, 17, true⟩]

/-- The request at 12 seconds comes 2 seconds after the one at 10 and sends nothing. -/
theorem cryptResyncs_skips_early_request :
    (0 :: resyncRequests.flatMap ResyncCall.readings).Pairwise (· ≤ ·) ∧
      cryptResyncs 0 resyncRequests = [10, 17] ∧
      (0 :: cryptResyncs 0 resyncRequests).Chain' (· + 5 < ·) :=
  ⟨by decide, rfl, cryptResyncs_spaced (by decide)⟩

end Grumble.Client
