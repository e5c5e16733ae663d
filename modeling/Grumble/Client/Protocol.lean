import Grumble.Client.Goroutines

namespace Grumble.Client

/-! # The handshake, as the receive loop's events show it

What `tlsRecvLoop` is for, stated over its events alone (§4.g): it sends the
server's `Version` first; the first frame it reads goes to
`handleVersionMessage`, the next to `handleAuthenticate`, and every frame read
after that is pushed, once and in the order read, to `client.udprecv` when it
is a `UDPTunnel` frame and to `server.incoming` otherwise. A failed read ends
the log. `phaseOf` runs this automaton over a log; the goroutine model is shown
to follow it in `Grumble.Client.Invariant`.
-/

inductive Phase
  | greeting
  | awaitingVersion
  | handlingVersion (msg : Message)
  | awaitingAuthenticate
  | handlingAuthenticate (msg : Message)
  | ready
  | pushing (msg : Message)
  | closing
deriving DecidableEq, Repr

def Phase.afterRead (received : Received) (next : Message → Phase) : Phase :=
  match received with
  | .frame msg => next msg
  | .eof | .failure => .closing

/-- The phase after `event`, if the handshake allows `event` here. -/
def Phase.next : Phase → TlsEvent → Option Phase
  | .greeting, .sentVersion => some .awaitingVersion
  | .awaitingVersion, .read .stateServerSentVersion received =>
      some (afterRead received .handlingVersion)
  | .handlingVersion msg, .handledVersion handed => if handed = msg then some .awaitingAuthenticate else none
  | .awaitingAuthenticate, .read .stateClientSentVersion received =>
      some (afterRead received .handlingAuthenticate)
  | .handlingAuthenticate msg, .handledAuthenticate handed => if handed = msg then some .ready else none
  | .ready, .read .stateClientReady received => some (afterRead received .pushing)
  | .pushing msg, .pushedUdprecv buf => if msg = ⟨messageUDPTunnel, buf⟩ then some .ready else none
  | .pushing msg, .pushedIncoming pushed =>
      if pushed = msg ∧ msg.kind ≠ messageUDPTunnel then some .ready else none
  | _, _ => none

/-- The phase a log (latest event first) leads to, `none` if the handshake
does not allow it. -/
def phaseOf : List TlsEvent → Option Phase
  | [] => some .greeting
  | event :: earlier => (phaseOf earlier).bind (·.next event)

@[simp] theorem phaseOf_nil : phaseOf [] = some .greeting := rfl

theorem phaseOf_of_cons {event : TlsEvent} {earlier : List TlsEvent} {phase : Phase}
    (accepted : phaseOf (event :: earlier) = some phase) :
    ∃ previous, phaseOf earlier = some previous ∧ previous.next event = some phase :=
  Option.bind_eq_some.mp accepted

/-- The frames the loop read in the ready state, latest first. -/
def readyFrames : List TlsEvent → List Message :=
  List.filterMap fun
    | .read .stateClientReady (.frame msg) => some msg
    | _ => none

/-- The frames the loop pushed, latest first; a datagram pushed to `udprecv`
is the `UDPTunnel` frame it came in. -/
def pushedFrames : List TlsEvent → List Message :=
  List.filterMap fun
    | .pushedUdprecv buf => some ⟨messageUDPTunnel, buf⟩
    | .pushedIncoming msg => some msg
    | _ => none

def Phase.inFlight : Phase → List Message
  | .pushing msg => [msg]
  | _ => []

theorem readyFrames_cons (event : TlsEvent) (earlier : List TlsEvent) :
    readyFrames (event :: earlier) = readyFrames [event] ++ readyFrames earlier :=
  List.filterMap_append [event] earlier _

theorem pushedFrames_cons (event : TlsEvent) (earlier : List TlsEvent) :
    pushedFrames (event :: earlier) = pushedFrames [event] ++ pushedFrames earlier :=
  List.filterMap_append [event] earlier _

theorem Phase.next_frames {previous phase : Phase} {event : TlsEvent}
    (step : previous.next event = some phase) :
    readyFrames [event] ++ previous.inFlight = phase.inFlight ++ pushedFrames [event] := by
  unfold Phase.next at step
  split at step <;> simp only [Option.some.injEq, Option.ite_none_right_eq_some, reduceCtorEq] at step
  case h_2 received | h_4 received | h_6 received =>
    subst step
    cases received <;> rfl
  case h_7 => obtain ⟨rfl, rfl⟩ := step; rfl
  case h_8 => obtain ⟨⟨rfl, -⟩, rfl⟩ := step; rfl
  all_goals obtain ⟨-, rfl⟩ := step; rfl

/-- Each frame read in the ready state is pushed once, in the order read: the
pushed frames are the ready frames but the one in flight. -/
theorem readyFrames_eq_pushedFrames :
    ∀ {log : List TlsEvent} {phase : Phase}, phaseOf log = some phase →
      readyFrames log = phase.inFlight ++ pushedFrames log
  | [], _, accepted => by cases accepted; rfl
  | event :: earlier, phase, accepted => by
      obtain ⟨previous, before, step⟩ := phaseOf_of_cons accepted
      calc readyFrames (event :: earlier)
          = readyFrames [event] ++ previous.inFlight ++ pushedFrames earlier := by
            rw [readyFrames_cons, readyFrames_eq_pushedFrames before, List.append_assoc]
        _ = phase.inFlight ++ pushedFrames (event :: earlier) := by
            rw [Phase.next_frames step, List.append_assoc, ← pushedFrames_cons]

theorem phaseOf_sentVersion_first :
    ∀ {log : List TlsEvent} {phase : Phase}, phaseOf log = some phase →
      log = [] ∨ log.getLast? = some .sentVersion
  | [], _, _ => .inl rfl
  | [event], phase, accepted => by
      right
      cases event <;> simp_all [phaseOf, Phase.next]
  | event :: next :: earlier, phase, accepted => by
      obtain ⟨previous, before, _⟩ := phaseOf_of_cons accepted
      right
      rcases phaseOf_sentVersion_first before with empty | last
      · cases empty
      · simpa [List.getLast?_cons_cons] using last

end Grumble.Client
