import Grumble.Client.Protocol

namespace Grumble.Client

/-! # The receive loop follows the handshake

Whatever the other goroutines do, every reachable state's log is one the
handshake automaton of `Grumble.Client.Protocol` accepts. `Agrees` is the
simulation relation: where the receive loop can be in each phase and what the
shared fields hold there. It rests on `Sound`, which says what every
`disconnect` call keeps: channels are numbered in the order they are made, and
a call past its `!client.disconnected` test has set the flag, so a channel
closed by `disconnect` is closed only once the client is disconnected.
-/

/-- A `disconnect` call past its `!client.disconnected` test. -/
def DisconnectPc.pastCheck : DisconnectPc → Bool
  | .checkDisconnected | .setDisconnected => false
  | .closeUdprecv | .checkState | .closeClientReady => true

/-- What one `disconnect` step can do to the shared fields: set the flag, and
close `udprecv` or the channel in `clientReady` once the flag is set. -/
structure DisconnectEffect (s s' : Shared) : Prop where
  state : s'.state = s.state
  clientReady : s'.clientReady = s.clientReady
  made : s'.made = s.made
  disconnected : s.disconnected → s'.disconnected
  closed : s'.closed = s.closed ∨
    s'.disconnected ∧ ∃ ch, s'.closed = ch :: s.closed ∧ (ch = udprecv ∨ s.clientReady = some ch)

theorem DisconnectEffect.refl (s : Shared) : DisconnectEffect s s := ⟨rfl, rfl, rfl, id, .inl rfl⟩

theorem closeChannel_ok {s s' : Shared} {ch : Option Nat} (closed : closeChannel s ch = .ok s') :
    ∃ c, ch = some c ∧ s' = { s with closed := c :: s.closed } := by
  cases ch with
  | none => cases closed
  | some c =>
      simp only [closeChannel] at closed
      split at closed
      · cases closed
      · cases closed; exact ⟨c, rfl, rfl⟩

theorem map_eq_ok {ε α β : Type} {f : α → β} {e : Except ε α} {b : β} (mapped : e.map f = .ok b) :
    ∃ a, e = .ok a ∧ f a = b := by
  cases e <;> simp_all [Except.map]

theorem disconnectStep_effect {s s' : Shared} {d : DisconnectPc} {next : Option DisconnectPc}
    (flag : d.pastCheck → s.disconnected) (stepped : disconnectStep s d = .ok (s', next)) :
    DisconnectEffect s s' ∧ ∀ d', next = some d' → d'.pastCheck → s'.disconnected := by
  cases d
  case closeUdprecv | closeClientReady =>
    obtain ⟨s₁, closed, moved⟩ := map_eq_ok stepped
    obtain ⟨ch, ready, rfl⟩ := closeChannel_ok closed
    simp only [Prod.mk.injEq] at moved
    obtain ⟨rfl, rfl⟩ := moved
    refine ⟨⟨rfl, rfl, rfl, id, .inr ⟨flag rfl, ch, rfl, ?_⟩⟩, ?_⟩
    · first | exact .inl (Option.some.inj ready).symm | exact .inr ready
    · simp [DisconnectPc.pastCheck, flag rfl]
  all_goals
    simp only [disconnectStep, Except.ok.injEq, Prod.mk.injEq] at stepped
    obtain ⟨rfl, rfl⟩ := stepped
  case checkDisconnected =>
    refine ⟨.refl s, fun d' next past => ?_⟩
    split at next
    · cases next
    · cases next
      simp [DisconnectPc.pastCheck] at past
  case setDisconnected =>
    exact ⟨⟨rfl, rfl, rfl, fun _ => rfl, .inl rfl⟩, fun _ _ _ => rfl⟩
  case checkState =>
    exact ⟨.refl s, fun _ _ _ => flag rfl⟩

def TlsPc.calls : TlsPc → List DisconnectPc
  | .disconnecting d resume => d :: resume.calls
  | _ => []

def UdpPc.call : UdpPc → Option DisconnectPc
  | .disconnecting d => some d
  | _ => none

def HandlerPc.call : HandlerPc → Option DisconnectPc
  | .disconnecting d => some d
  | _ => none

def World.calls (w : World) : List DisconnectPc :=
  w.tls.calls ++ w.udp.call.toList ++ w.handlers.filterMap HandlerPc.call ++ w.servers.filterMap id

theorem mem_filterMap_set {α β : Type} {f : α → Option β} {l : List α} {i : Nat} {x : α} {b : β}
    (mem : b ∈ (l.set i x).filterMap f) : b ∈ l.filterMap f ∨ f x = some b := by
  obtain ⟨y, memSet, found⟩ := List.mem_filterMap.mp mem
  rcases List.mem_or_eq_of_mem_set memSet with old | rfl
  · exact .inl (List.mem_filterMap.mpr ⟨y, old, found⟩)
  · exact .inr found

theorem disconnectBy_some {w w' : World} {d : DisconnectPc} {inside : DisconnectPc → World → World}
    {after : World → World} (stepped : w.disconnectBy d inside after = some w') :
    (∃ panic, w' = { w with fault := some panic }) ∨
      ∃ client, (∃ d', disconnectStep w.client d = .ok (client, some d') ∧ w' = inside d' { w with client }) ∨
        (disconnectStep w.client d = .ok (client, none) ∧ w' = after { w with client }) := by
  unfold World.disconnectBy at stepped
  split at stepped <;> cases stepped
  · exact .inl ⟨_, rfl⟩
  · exact .inr ⟨_, .inl ⟨_, ‹_›, rfl⟩⟩
  · exact .inr ⟨_, .inr ⟨‹_›, rfl⟩⟩

/-- Facts every reachable state keeps: channels are numbered in the order they
are made, and every `disconnect` call past its test has set `disconnected`. -/
structure Sound (w : World) : Prop where
  made_pos : 0 < w.client.made
  closed_lt : ∀ ch ∈ w.client.closed, ch < w.client.made
  clientReady_lt : ∀ ch, w.client.clientReady = some ch → ch < w.client.made
  flag : ∀ d ∈ w.calls, d.pastCheck → w.client.disconnected

theorem sound_init : Sound World.init :=
  ⟨Nat.one_pos, by simp [World.init], by simp [World.init], by simp [World.init, World.calls, TlsPc.calls, UdpPc.call]⟩

theorem Sound.of_calls {w w' : World} (sound : Sound w)
    (numbered : 0 < w'.client.made ∧ (∀ ch ∈ w'.client.closed, ch < w'.client.made) ∧
      ∀ ch, w'.client.clientReady = some ch → ch < w'.client.made)
    (monotone : w.client.disconnected → w'.client.disconnected)
    (calls : ∀ d ∈ w'.calls, d ∈ w.calls ∨ (d.pastCheck → w'.client.disconnected)) : Sound w' :=
  ⟨numbered.1, numbered.2.1, numbered.2.2, fun d called past =>
    (calls d called).elim (fun old => monotone (sound.flag d old past)) (· past)⟩

theorem Sound.numbered_of_effect {w : World} (sound : Sound w) {s' : Shared}
    (effect : DisconnectEffect w.client s') :
    0 < s'.made ∧ (∀ ch ∈ s'.closed, ch < s'.made) ∧ ∀ ch, s'.clientReady = some ch → ch < s'.made := by
  refine ⟨effect.made ▸ sound.made_pos, fun ch closed => ?_, fun ch ready => ?_⟩
  · rw [effect.made]
    rcases effect.closed with same | ⟨-, c, grown, which⟩
    · exact sound.closed_lt ch (same ▸ closed)
    · rw [grown, List.mem_cons] at closed
      rcases closed with rfl | old
      · rcases which with rfl | ready
        · exact sound.made_pos
        · exact sound.clientReady_lt ch ready
      · exact sound.closed_lt ch old
  · exact effect.made ▸ sound.clientReady_lt ch (effect.clientReady ▸ ready)

theorem Sound.of_fault {w : World} (sound : Sound w) (panic : RuntimePanic) :
    Sound { w with fault := some panic } :=
  ⟨sound.made_pos, sound.closed_lt, sound.clientReady_lt, sound.flag⟩

@[simp] theorem TlsPc.calls_ite {c : Prop} [Decidable c] {a b : TlsPc} :
    (if c then a else b).calls = if c then a.calls else b.calls := by
  split <;> rfl

theorem Sound.of_disconnect {w w' : World} (sound : Sound w) {d : DisconnectPc} (called : d ∈ w.calls)
    {client : Shared} {next : Option DisconnectPc} (stepped : disconnectStep w.client d = .ok (client, next))
    (moved : w'.client = client) (calls : ∀ d' ∈ w'.calls, d' ∈ w.calls ∨ next = some d') : Sound w' := by
  obtain ⟨effect, flag⟩ := disconnectStep_effect (sound.flag d called) stepped
  subst moved
  exact sound.of_calls (sound.numbered_of_effect effect) effect.disconnected
    fun d' called' => (calls d' called').imp_right (flag d')

theorem mem_calls {w : World} {d : DisconnectPc} :
    d ∈ w.calls ↔ d ∈ w.tls.calls ∨ d ∈ w.udp.call.toList ∨ d ∈ w.handlers.filterMap HandlerPc.call ∨
      some d ∈ w.servers := by
  simp [World.calls, or_assoc]

theorem mem_calls_setTls {w : World} {pc : TlsPc} {d : DisconnectPc} (called : d ∈ (w.setTls pc).calls) :
    d ∈ pc.calls ∨ d ∈ w.calls :=
  (mem_calls.mp called).imp_right fun rest => mem_calls.mpr (.inr rest)

theorem mem_calls_setUdp {w : World} {pc : UdpPc} {d : DisconnectPc} (called : d ∈ { w with udp := pc }.calls) :
    d ∈ w.calls ∨ pc.call = some d := by
  rcases mem_calls.mp called with own | udpCall | rest
  · exact .inl (mem_calls.mpr (.inl own))
  · exact .inr (Option.mem_toList.mp udpCall)
  · exact .inl (mem_calls.mpr (.inr (.inr rest)))

theorem Sound.of_tlsMove {w w' : World} (sound : Sound w)
    (numbered : 0 < w'.client.made ∧ (∀ ch ∈ w'.client.closed, ch < w'.client.made) ∧
      ∀ ch, w'.client.clientReady = some ch → ch < w'.client.made)
    (monotone : w.client.disconnected → w'.client.disconnected)
    (udp : w'.udp.call = w.udp.call)
    (handlers : w'.handlers.filterMap HandlerPc.call = w.handlers.filterMap HandlerPc.call)
    (servers : w'.servers = w.servers)
    (fresh : ∀ d ∈ w'.tls.calls, d = .checkDisconnected) : Sound w' := by
  refine sound.of_calls numbered monotone fun d called => ?_
  rw [mem_calls, udp, handlers, servers] at called
  rcases called with own | rest
  · exact .inr fun past => by simp [fresh d own, DisconnectPc.pastCheck] at past
  · exact .inl (mem_calls.mpr (.inr rest))

theorem Sound.moveTls {w w' : World} (sound : Sound w) (client : w'.client = w.client)
    (udp : w'.udp.call = w.udp.call) (handlers : w'.handlers = w.handlers) (servers : w'.servers = w.servers)
    (fresh : ∀ d ∈ w'.tls.calls, d = .checkDisconnected) : Sound w' :=
  sound.of_tlsMove (client ▸ ⟨sound.made_pos, sound.closed_lt, sound.clientReady_lt⟩)
    (client ▸ id) udp (handlers ▸ rfl) servers fresh

theorem calls_afterRead {received : Received} {next : Message → TlsPc}
    (quiet : ∀ msg, (next msg).calls = []) : ∀ d ∈ (TlsPc.afterRead received next).calls, d = .checkDisconnected := by
  cases received <;> simp [TlsPc.afterRead, TlsPc.calls, quiet]

theorem sound_tlsStep {w w' : World} {received : Received} {versionDisconnects : Bool}
    (sound : Sound w) (stepped : tlsStep w received versionDisconnects = some w') : Sound w' := by
  cases atPc : w.tls <;> simp only [tlsStep, atPc] at stepped
  case disconnecting d resume =>
    have called : d ∈ w.calls := mem_calls.mpr (.inl (atPc ▸ List.mem_cons_self d _))
    have resumed : ∀ d', d' ∈ resume.calls → d' ∈ w.calls := fun d' later =>
      mem_calls.mpr (.inl (atPc ▸ List.mem_cons_of_mem d later))
    rcases disconnectBy_some stepped with ⟨panic, rfl⟩ | ⟨client, ⟨d', disconnected, rfl⟩ | ⟨disconnected, rfl⟩⟩
    · exact sound.of_fault panic
    · refine sound.of_disconnect called disconnected rfl fun d'' inside => ?_
      rcases mem_calls_setTls inside with own | old
      · rcases List.mem_cons.mp own with rfl | later
        · exact .inr rfl
        · exact .inl (resumed _ later)
      · exact .inl old
    · exact sound.of_disconnect called disconnected rfl fun d'' inside =>
        .inl ((mem_calls_setTls inside).elim (resumed d'') id)
  case returned => cases stepped
  case sendUdprecv buf =>
    split at stepped
    · cases stepped; exact atPc ▸ sound.of_fault _
    · split at stepped <;> cases stepped
      exact sound.moveTls rfl (by simp [UdpPc.call, *]) rfl rfl (by simp [TlsPc.calls])
  case waitClientReady =>
    split at stepped <;> (try split at stepped) <;> cases stepped
    exact sound.moveTls rfl rfl rfl rfl (by simp [TlsPc.calls])
  case closeClientReady =>
    split at stepped <;> cases stepped
    · exact atPc ▸ sound.of_fault _
    · rename_i closed
      obtain ⟨ch, ready, rfl⟩ := closeChannel_ok closed
      refine sound.of_tlsMove ⟨sound.made_pos, fun c closedNow => ?_, sound.clientReady_lt⟩ id rfl rfl rfl
        (by simp [TlsPc.calls])
      rcases List.mem_cons.mp closedNow with rfl | old
      · exact sound.clientReady_lt c ready
      · exact sound.closed_lt c old
  case makeClientReady msg =>
    cases stepped
    refine sound.of_tlsMove ⟨Nat.succ_pos _, fun ch closed => ?_, fun ch ready => ?_⟩ id rfl rfl rfl
      (by simp [TlsPc.calls])
    · exact Nat.lt_succ_of_lt (sound.closed_lt ch closed)
    · cases ready; exact Nat.lt_succ_self _
  case spawnHandler msg =>
    cases stepped
    exact sound.of_tlsMove ⟨sound.made_pos, sound.closed_lt, sound.clientReady_lt⟩ id rfl
      (by simp [HandlerPc.call]) rfl (by simp [TlsPc.calls])
  case clearClientReady =>
    cases stepped
    exact sound.of_tlsMove ⟨sound.made_pos, sound.closed_lt, by simp⟩ id rfl rfl rfl (by simp [TlsPc.calls])
  case readReady | readAuthenticate | readVersion =>
    cases stepped
    exact sound.moveTls rfl rfl rfl rfl (calls_afterRead fun msg => by first | rfl | (split <;> rfl))
  case handleVersion msg =>
    cases stepped
    exact sound.moveTls rfl rfl rfl rfl (by split <;> simp [TlsPc.calls])
  case clearUdp | setServerSentVersion | setClientSentVersion =>
    cases stepped
    exact sound.of_tlsMove ⟨sound.made_pos, sound.closed_lt, sound.clientReady_lt⟩ id rfl rfl rfl
      (by simp [TlsPc.calls])
  all_goals
    cases stepped
    exact sound.moveTls rfl rfl rfl rfl (by simp [TlsPc.calls])

theorem Sound.of_move {w w' : World} (sound : Sound w)
    (channels : w'.client.made = w.client.made ∧ w'.client.closed = w.client.closed ∧
      w'.client.clientReady = w.client.clientReady)
    (monotone : w.client.disconnected → w'.client.disconnected)
    (calls : ∀ d ∈ w'.calls, d ∈ w.calls ∨ d = .checkDisconnected) : Sound w' := by
  obtain ⟨made, closed, ready⟩ := channels
  refine sound.of_calls ⟨made ▸ sound.made_pos, made ▸ closed ▸ sound.closed_lt, made ▸ ready ▸ sound.clientReady_lt⟩
    monotone fun d called => (calls d called).imp_right fun fresh past => ?_
  simp [fresh, DisconnectPc.pastCheck] at past

theorem Sound.moveUdp {w : World} (sound : Sound w) {pc : UdpPc}
    (fresh : pc.call = none ∨ pc.call = some .checkDisconnected) : Sound { w with udp := pc } :=
  sound.of_move ⟨rfl, rfl, rfl⟩ id fun _ called => (mem_calls_setUdp called).imp_right fun entered => by
    rcases fresh with quiet | fresh
    · simp [quiet] at entered
    · exact Option.some.inj (entered.symm.trans fresh)

theorem sound_udpStep {w w' : World} {outcome : UdpOutcome} (sound : Sound w)
    (stepped : udpStep w outcome = some w') : Sound w' := by
  cases atPc : w.udp <;> simp only [udpStep, atPc] at stepped
  case receive =>
    split at stepped <;> cases stepped
    exact sound.moveUdp (.inl rfl)
  case body buf =>
    split at stepped
    · cases stepped; exact sound.moveUdp (.inl rfl)
    · cases outcome <;> cases stepped
      exacts [sound.moveUdp (.inl rfl), sound.moveUdp (.inl rfl), sound.moveUdp (.inr rfl)]
  case disconnecting d =>
    have called : d ∈ w.calls := mem_calls.mpr (.inr (.inl (by simp [atPc, UdpPc.call])))
    rcases disconnectBy_some stepped with ⟨panic, rfl⟩ | ⟨client, ⟨d', disconnected, rfl⟩ | ⟨disconnected, rfl⟩⟩
    · exact sound.of_fault panic
    · exact sound.of_disconnect called disconnected rfl fun _ inside => (mem_calls_setUdp inside).imp_right id
    · exact sound.of_disconnect called disconnected rfl fun _ inside =>
        (mem_calls_setUdp inside).imp_right fun entered => by cases entered
  case returned => cases stepped

theorem sound_handlerStep {w w' : World} {index : Nat} {outcome : AuthOutcome} (sound : Sound w)
    (stepped : handlerStep w index outcome = some w') : Sound w' := by
  have moved : ∀ {pc : HandlerPc} {w₁ : World} {d : DisconnectPc}, d ∈ w₁.calls → w₁.tls = w.tls →
      w₁.udp = w.udp → w₁.servers = w.servers → w₁.handlers = w.handlers.set index pc →
      d ∈ w.calls ∨ pc.call = some d := fun called tls udp servers handlers => by
    rw [mem_calls, tls, udp, servers, handlers] at called
    rcases called with own | udpCall | handler | server
    · exact .inl (mem_calls.mpr (.inl own))
    · exact .inl (mem_calls.mpr (.inr (.inl udpCall)))
    · exact (mem_filterMap_set handler).imp_left fun old => mem_calls.mpr (.inr (.inr (.inl old)))
    · exact .inl (mem_calls.mpr (.inr (.inr (.inr server))))
  cases found : w.handlers[index]? with
  | none => cases outcome <;> simp only [handlerStep, found, reduceCtorEq] at stepped
  | some pc =>
    cases pc
    case disconnecting d =>
      simp only [handlerStep, found] at stepped
      have called : d ∈ w.calls :=
        mem_calls.mpr (.inr (.inr (.inl (List.mem_filterMap.mpr ⟨_, List.getElem?_mem found, rfl⟩))))
      rcases disconnectBy_some stepped with ⟨panic, rfl⟩ | ⟨client, ⟨d', disconnected, rfl⟩ | ⟨disconnected, rfl⟩⟩
      · exact sound.of_fault panic
      · exact sound.of_disconnect called disconnected rfl fun d'' inside =>
          (moved inside rfl rfl rfl rfl).imp_right fun same => by simpa [HandlerPc.call] using same
      · exact sound.of_disconnect called disconnected rfl fun d'' inside =>
          (moved inside rfl rfl rfl rfl).imp_right fun same => by simp [HandlerPc.call] at same
    case signal =>
      simp only [handlerStep, found] at stepped
      repeat' (first | split at stepped | cases stepped)
      · exact sound.of_fault _
      · refine sound.of_move ⟨rfl, rfl, rfl⟩ id fun d called => ?_
        rw [mem_calls] at called
        rcases called with own | rest
        · simp [TlsPc.calls] at own
        · have old : d ∈ (w.setHandler index .done).calls := mem_calls.mpr (.inr rest)
          exact (moved old rfl rfl rfl rfl).imp_right fun same => by simp [HandlerPc.call] at same
    all_goals
      cases outcome <;> simp only [handlerStep, found] at stepped <;> cases stepped
      all_goals
        refine sound.of_move ⟨rfl, rfl, rfl⟩ id fun d called => ?_
        exact (moved called rfl rfl rfl rfl).imp_right fun same => by
          simp only [HandlerPc.call, Option.some.injEq, reduceCtorEq] at same <;> exact same.symm

theorem sound_serverStep {w w' : World} {index : Nat} (sound : Sound w)
    (stepped : serverStep w index = some w') : Sound w' := by
  have moved : ∀ {pc : Option DisconnectPc} {w₁ : World} {d : DisconnectPc}, d ∈ w₁.calls →
      w₁.tls = w.tls → w₁.udp = w.udp → w₁.handlers = w.handlers → w₁.servers = w.servers.set index pc →
      d ∈ w.calls ∨ pc = some d := fun called tls udp handlers servers => by
    rw [mem_calls, tls, udp, handlers, servers] at called
    rcases called with own | udpCall | handler | server
    · exact .inl (mem_calls.mpr (.inl own))
    · exact .inl (mem_calls.mpr (.inr (.inl udpCall)))
    · exact .inl (mem_calls.mpr (.inr (.inr (.inl handler))))
    · rcases List.mem_or_eq_of_mem_set server with old | fresh
      · exact .inl (mem_calls.mpr (.inr (.inr (.inr old))))
      · exact .inr fresh.symm
  cases found : w.servers[index]? with
  | none => simp [serverStep, found] at stepped
  | some call =>
    cases call with
    | none => simp [serverStep, found] at stepped
    | some d =>
      simp only [serverStep, found] at stepped
      have called : d ∈ w.calls := mem_calls.mpr (.inr (.inr (.inr (List.getElem?_mem found))))
      rcases disconnectBy_some stepped with ⟨panic, rfl⟩ | ⟨client, ⟨d', disconnected, rfl⟩ | ⟨disconnected, rfl⟩⟩
      · exact sound.of_fault panic
      · exact sound.of_disconnect called disconnected rfl fun _ inside => moved inside rfl rfl rfl rfl
      · exact sound.of_disconnect called disconnected rfl fun _ inside =>
          (moved inside rfl rfl rfl rfl).imp_right fun same => by cases same

theorem Sound.step {w w' : World} {action : Action} (sound : Sound w)
    (stepped : Grumble.Client.step w action = some w') : Sound w' := by
  unfold Grumble.Client.step at stepped
  split at stepped
  · cases stepped
  · cases action with
    | tls received versionDisconnects => exact sound_tlsStep sound stepped
    | udp outcome => exact sound_udpStep sound stepped
    | handler index outcome => exact sound_handlerStep sound stepped
    | server index => exact sound_serverStep sound stepped
    | spawnServer =>
        cases stepped
        refine sound.of_move ⟨rfl, rfl, rfl⟩ id fun d called => ?_
        simp only [mem_calls, List.mem_append, List.mem_singleton, Option.some.injEq] at called
        rcases called with own | udp | handler | old | fresh
        · exact .inl (mem_calls.mpr (.inl own))
        · exact .inl (mem_calls.mpr (.inr (.inl udp)))
        · exact .inl (mem_calls.mpr (.inr (.inr (.inl handler))))
        · exact .inl (mem_calls.mpr (.inr (.inr (.inr old))))
        · exact .inr fresh

theorem Reachable.sound {w : World} (reached : Reachable w) : Sound w := by
  induction reached with
  | init => exact sound_init
  | step _ _ stepped sound => exact sound.step stepped

/-- `clientReady` holds a channel, closed only once the client is disconnected. -/
def Waiting (s : Shared) : Prop := ∃ ch, s.clientReady = some ch ∧ (ch ∈ s.closed → s.disconnected)

theorem Waiting.of_effect {s s' : Shared} (waiting : Waiting s) (effect : DisconnectEffect s s') : Waiting s' := by
  obtain ⟨ch, ready, closedDisconnected⟩ := waiting
  refine ⟨ch, effect.clientReady.trans ready, fun closed => ?_⟩
  rcases effect.closed with same | ⟨disconnected, _⟩
  · exact effect.disconnected (closedDisconnected (same ▸ closed))
  · exact disconnected

/-- The phase at the top of the loop body, by the state its tests read: no
handler before `Authenticate`, and a finished one after it. -/
def AtTop (state : ClientState) (handlers : List HandlerPc) (phase : Phase) : Prop :=
  match state with
  | .stateClientConnected => phase = .greeting ∧ handlers = []
  | .stateServerSentVersion => phase = .awaitingVersion ∧ handlers = []
  | .stateClientSentVersion => phase = .awaitingAuthenticate ∧ handlers = []
  | .stateClientAuthenticated => False
  | .stateClientReady => phase = .ready ∧ handlers = [.done]

/-- The simulation relation: where the receive loop is, against the phase of
its log and the shared fields. -/
def Agrees (w : World) (phase : Phase) : Prop :=
  match w.tls with
  | .checkReady | .checkSentVersion | .checkConnected | .checkServerSentVersion =>
      AtTop w.client.state w.handlers phase
  | .readReady | .closeClientReady | .clearClientReady =>
      phase = .ready ∧ w.client.state = .stateClientReady ∧ w.handlers = [.done]
  | .clearUdp buf | .sendUdprecv buf =>
      phase = .pushing ⟨messageUDPTunnel, buf⟩ ∧ w.client.state = .stateClientReady ∧ w.handlers = [.done]
  | .sendIncoming msg =>
      phase = .pushing msg ∧ msg.kind ≠ messageUDPTunnel ∧ w.client.state = .stateClientReady ∧
        w.handlers = [.done]
  | .readAuthenticate =>
      phase = .awaitingAuthenticate ∧ w.client.state = .stateClientSentVersion ∧ w.handlers = []
  | .makeClientReady msg =>
      phase = .handlingAuthenticate msg ∧ w.client.state = .stateClientSentVersion ∧ w.handlers = []
  | .spawnHandler msg =>
      phase = .handlingAuthenticate msg ∧ w.client.state = .stateClientSentVersion ∧ w.handlers = [] ∧
        Waiting w.client
  | .waitClientReady =>
      phase = .ready ∧ Waiting w.client ∧
        ∃ handler, w.handlers = [handler] ∧ (handler = .signal → w.client.state = .stateClientReady)
  | .checkDisconnected =>
      phase = .ready ∧
        (w.client.disconnected ∨ w.client.state = .stateClientReady ∧ w.handlers = [.done])
  | .sendVersion => phase = .greeting ∧ w.client.state = .stateClientConnected ∧ w.handlers = []
  | .setServerSentVersion =>
      phase = .awaitingVersion ∧ w.client.state = .stateClientConnected ∧ w.handlers = []
  | .readVersion => phase = .awaitingVersion ∧ w.client.state = .stateServerSentVersion ∧ w.handlers = []
  | .handleVersion msg =>
      phase = .handlingVersion msg ∧ w.client.state = .stateServerSentVersion ∧ w.handlers = []
  | .setClientSentVersion =>
      phase = .awaitingAuthenticate ∧ w.client.state = .stateServerSentVersion ∧ w.handlers = []
  | .disconnecting _ resume =>
      resume = .setClientSentVersion ∧ phase = .awaitingAuthenticate ∧
          w.client.state = .stateServerSentVersion ∧ w.handlers = [] ∨
        resume = .returned ∧ phase = .closing
  | .returned => True

theorem Agrees.of_effect {w w' : World} {phase : Phase} (agrees : Agrees w phase)
    (effect : DisconnectEffect w.client w'.client) (tls : w'.tls = w.tls) (handlers : w'.handlers = w.handlers) :
    Agrees w' phase := by
  unfold Agrees at agrees ⊢
  rw [tls, handlers, effect.state]
  generalize w.tls = pc at agrees ⊢
  cases pc
  case spawnHandler =>
    obtain ⟨phase, state, quiet, waiting⟩ := agrees
    exact ⟨phase, state, quiet, waiting.of_effect effect⟩
  case waitClientReady =>
    obtain ⟨phase, waiting, signalled⟩ := agrees
    exact ⟨phase, waiting.of_effect effect, signalled⟩
  case checkDisconnected =>
    obtain ⟨phase, settled⟩ := agrees
    exact ⟨phase, settled.imp_left effect.disconnected⟩
  all_goals exact agrees

/-- The handshake invariant: the log is one the automaton accepts, in a phase
the receive loop agrees with. -/
def Handshake (w : World) : Prop := ∃ phase, phaseOf w.log = some phase ∧ Agrees w phase

theorem phaseOf_cons_of {event : TlsEvent} {earlier : List TlsEvent} {phase phase' : Phase}
    (before : phaseOf earlier = some phase) (next : phase.next event = some phase') :
    phaseOf (event :: earlier) = some phase' := by
  simp [phaseOf, before, next]

theorem handshake_tlsStep {w w' : World} {received : Received} {versionDisconnects : Bool}
    (sound : Sound w) {phase : Phase} (log : phaseOf w.log = some phase) (agrees : Agrees w phase)
    (stepped : tlsStep w received versionDisconnects = some w') : Handshake w' := by
  cases atPc : w.tls <;> simp only [tlsStep, atPc] at stepped <;> simp only [Agrees, atPc] at agrees
  case checkReady | checkSentVersion | checkConnected | checkServerSentVersion =>
    cases stepped
    refine ⟨phase, log, ?_⟩
    split
    case isTrue tested =>
      rw [tested] at agrees
      simp only [Agrees, World.setTls_tls, World.setTls_client, World.setTls_handlers]
      exact ⟨agrees.1, tested, agrees.2⟩
    case isFalse => simpa only [Agrees, World.setTls_tls, World.setTls_client, World.setTls_handlers] using agrees
  case readAuthenticate | readVersion =>
    cases stepped
    obtain ⟨rfl, state, quiet⟩ := agrees
    cases received
    case frame msg =>
      refine ⟨_, phaseOf_cons_of log rfl, ?_⟩
      simp only [Agrees, World.read_tls, TlsPc.afterRead, World.read_client, World.read_handlers]
      exact ⟨rfl, state, quiet⟩
    all_goals exact ⟨.closing, phaseOf_cons_of log rfl, by simp [Agrees, TlsPc.afterRead]⟩
  case readReady =>
    cases stepped
    obtain ⟨rfl, state, quiet⟩ := agrees
    cases received
    case frame msg =>
      refine ⟨.pushing msg, phaseOf_cons_of log rfl, ?_⟩
      by_cases tunnel : msg.kind = messageUDPTunnel
      · simp only [Agrees, TlsPc.afterRead, World.read_tls, World.read_client, World.read_handlers, if_pos tunnel]
        exact ⟨by rw [← tunnel], state, quiet⟩
      · simp only [Agrees, TlsPc.afterRead, World.read_tls, World.read_client, World.read_handlers, if_neg tunnel]
        exact ⟨trivial, tunnel, state, quiet⟩
    all_goals exact ⟨.closing, phaseOf_cons_of log rfl, by simp [Agrees, TlsPc.afterRead]⟩
  case clearUdp buf =>
    cases stepped
    exact ⟨phase, log, agrees⟩
  case sendUdprecv buf =>
    obtain ⟨rfl, state, quiet⟩ := agrees
    split at stepped
    · cases stepped; exact ⟨_, log, by simpa [Agrees, atPc] using And.intro state quiet⟩
    · split at stepped <;> cases stepped
      exact ⟨.ready, phaseOf_cons_of log (by simp [Phase.next]), by simp [Agrees, AtTop, state, quiet]⟩
  case sendIncoming msg =>
    cases stepped
    obtain ⟨rfl, tunnel, state, quiet⟩ := agrees
    exact ⟨.ready, phaseOf_cons_of log (by simp [Phase.next, tunnel]), by simp [Agrees, AtTop, state, quiet]⟩
  case makeClientReady msg =>
    cases stepped
    obtain ⟨rfl, state, quiet⟩ := agrees
    refine ⟨_, log, rfl, state, quiet, w.client.made, rfl, fun closed => ?_⟩
    exact absurd (sound.closed_lt _ closed) (Nat.lt_irrefl _)
  case spawnHandler msg =>
    cases stepped
    obtain ⟨rfl, state, quiet, waiting⟩ := agrees
    exact ⟨.ready, phaseOf_cons_of log (by simp [Phase.next]), rfl, waiting, .start, by simp [quiet], by simp⟩
  case waitClientReady =>
    obtain ⟨rfl, ⟨ch, ready, closedDisconnected⟩, -⟩ := agrees
    simp only [ready] at stepped
    split at stepped <;> cases stepped
    exact ⟨.ready, log, rfl, .inl (closedDisconnected ‹_›)⟩
  case checkDisconnected =>
    cases stepped
    obtain ⟨rfl, settled⟩ := agrees
    refine ⟨.ready, log, ?_⟩
    split
    · simp [Agrees, *]
    · simpa [Agrees, *] using settled
  case closeClientReady =>
    split at stepped <;> cases stepped
    · exact ⟨phase, log, by simpa [Agrees, atPc] using agrees⟩
    · rename_i closed
      obtain ⟨_, _, rfl⟩ := closeChannel_ok closed
      exact ⟨phase, log, agrees⟩
  case clearClientReady =>
    cases stepped
    obtain ⟨rfl, state, quiet⟩ := agrees
    exact ⟨.ready, log, by simp [Agrees, AtTop, state, quiet]⟩
  case sendVersion =>
    cases stepped
    obtain ⟨rfl, state, quiet⟩ := agrees
    exact ⟨.awaitingVersion, phaseOf_cons_of log rfl, rfl, state, quiet⟩
  case setServerSentVersion | setClientSentVersion =>
    cases stepped
    obtain ⟨rfl, -, quiet⟩ := agrees
    exact ⟨_, log, by simp [Agrees, AtTop, quiet]⟩
  case handleVersion msg =>
    cases stepped
    obtain ⟨rfl, state, quiet⟩ := agrees
    refine ⟨.awaitingAuthenticate, phaseOf_cons_of log (by simp [Phase.next]), ?_⟩
    split <;> simp [Agrees, state, quiet]
  case disconnecting d resume =>
    rcases disconnectBy_some stepped with ⟨panic, rfl⟩ | ⟨client, ⟨d', disconnected, rfl⟩ | ⟨disconnected, rfl⟩⟩
    · exact ⟨phase, log, by simpa [Agrees, atPc] using agrees⟩
    all_goals
      have effect := (disconnectStep_effect (sound.flag d (by simp [mem_calls, atPc, TlsPc.calls]))
        disconnected).1
    · exact ⟨phase, log, by simpa [Agrees, effect.state] using agrees⟩
    · refine ⟨phase, log, ?_⟩
      rcases agrees with ⟨rfl, rfl, state, quiet⟩ | ⟨rfl, rfl⟩
      · simp [Agrees, effect.state, state, quiet]
      · simp [Agrees]
  case returned => cases stepped

theorem Handshake.of_effect {w w' : World} (handshake : Handshake w) (effect : DisconnectEffect w.client w'.client)
    (tls : w'.tls = w.tls) (handlers : w'.handlers = w.handlers) (log : w'.log = w.log) : Handshake w' :=
  let ⟨phase, accepted, agrees⟩ := handshake
  ⟨phase, log ▸ accepted, agrees.of_effect effect tls handlers⟩

theorem Handshake.disconnectBy {w w' : World} (sound : Sound w) (handshake : Handshake w) {d : DisconnectPc}
    {inside : DisconnectPc → World → World} {after : World → World}
    (stepped : w.disconnectBy d inside after = some w') (called : d ∈ w.calls)
    (insideKeeps : ∀ d' w₁, (inside d' w₁).client = w₁.client ∧ (inside d' w₁).tls = w₁.tls ∧
      (inside d' w₁).handlers = w₁.handlers ∧ (inside d' w₁).log = w₁.log)
    (afterKeeps : ∀ w₁, (after w₁).client = w₁.client ∧ (after w₁).tls = w₁.tls ∧
      (after w₁).handlers = w₁.handlers ∧ (after w₁).log = w₁.log) : Handshake w' := by
  rcases disconnectBy_some stepped with ⟨panic, rfl⟩ | ⟨client, ⟨d', disconnected, rfl⟩ | ⟨disconnected, rfl⟩⟩
  · exact handshake
  all_goals
    have effect := (disconnectStep_effect (sound.flag d called) disconnected).1
  · obtain ⟨c, t, h, l⟩ := insideKeeps d' { w with client }
    exact handshake.of_effect (c ▸ effect) t h l
  · obtain ⟨c, t, h, l⟩ := afterKeeps { w with client }
    exact handshake.of_effect (c ▸ effect) t h l

theorem handshake_udpStep {w w' : World} {outcome : UdpOutcome} (sound : Sound w) (handshake : Handshake w)
    (stepped : udpStep w outcome = some w') : Handshake w' := by
  cases atPc : w.udp <;> simp only [udpStep, atPc] at stepped
  case disconnecting d =>
    exact handshake.disconnectBy sound stepped (by simp [mem_calls, atPc, UdpPc.call])
      (fun _ _ => ⟨rfl, rfl, rfl, rfl⟩) (fun _ => ⟨rfl, rfl, rfl, rfl⟩)
  case returned => cases stepped
  all_goals
    repeat' (first | split at stepped | cases stepped)
    all_goals exact handshake.of_effect (.refl _) rfl rfl rfl

theorem handshake_serverStep {w w' : World} {index : Nat} (sound : Sound w) (handshake : Handshake w)
    (stepped : serverStep w index = some w') : Handshake w' := by
  cases found : w.servers[index]? with
  | none => simp [serverStep, found] at stepped
  | some call =>
    cases call with
    | none => simp [serverStep, found] at stepped
    | some d =>
      simp only [serverStep, found] at stepped
      exact handshake.disconnectBy sound stepped (mem_calls.mpr (.inr (.inr (.inr (List.getElem?_mem found)))))
        (fun _ _ => ⟨rfl, rfl, rfl, rfl⟩) (fun _ => ⟨rfl, rfl, rfl, rfl⟩)

theorem Agrees.of_handler {w w' : World} {phase : Phase} (agrees : Agrees w phase) {index : Nat}
    {handler handler' : HandlerPc} (found : w.handlers[index]? = some handler) (live : handler ≠ .done)
    (handlers : w'.handlers = w.handlers.set index handler') (tls : w'.tls = w.tls)
    (ready : w'.client.clientReady = w.client.clientReady)
    (closed : ∀ ch ∈ w'.client.closed, ch ∈ w.client.closed ∨ w'.client.disconnected)
    (monotone : w.client.disconnected → w'.client.disconnected)
    (signalled : handler' = .signal → w'.client.state = .stateClientReady) : Agrees w' phase := by
  have single : ∀ h, w.handlers = [h] → index = 0 ∧ h = handler := fun h only => by
    rw [only] at found
    cases index
    · exact ⟨rfl, Option.some.inj found⟩
    · simp at found
  have notQuiet : w.handlers ≠ [] := fun empty => by simp [empty] at found
  have notSettled : w.handlers ≠ [.done] := fun settled => live (single _ settled).2.symm
  unfold Agrees at agrees ⊢
  rw [tls, handlers]
  generalize w.tls = pc at agrees ⊢
  cases pc
  case waitClientReady =>
    obtain ⟨phase, ⟨ch, holds, closedDisconnected⟩, h, only, -⟩ := agrees
    obtain ⟨rfl, -⟩ := single h only
    refine ⟨phase, ⟨ch, ready.trans holds, fun closedNow => ?_⟩, handler', by simp [only], signalled⟩
    exact (closed ch closedNow).elim (fun old => monotone (closedDisconnected old)) id
  case checkDisconnected =>
    obtain ⟨phase, disconnected | ⟨-, settled⟩⟩ := agrees
    · exact ⟨phase, .inl (monotone disconnected)⟩
    · exact absurd settled notSettled
  case disconnecting d resume =>
    rcases agrees with ⟨-, -, -, quiet⟩ | closing
    · exact absurd quiet notQuiet
    · exact .inr closing
  case returned => trivial
  case checkReady | checkSentVersion | checkConnected | checkServerSentVersion =>
    unfold AtTop at agrees
    cases state : w.client.state <;> simp only [state] at agrees
    all_goals first
      | exact absurd agrees.2 notQuiet
      | exact absurd agrees.2 notSettled
  all_goals first
    | exact absurd agrees.2.2 notQuiet
    | exact absurd agrees.2.2 notSettled
    | exact absurd agrees.2.2.1 notQuiet
    | exact absurd agrees.2.2.2 notSettled

theorem handshake_handlerStep {w w' : World} {index : Nat} {outcome : AuthOutcome} (sound : Sound w)
    (handshake : Handshake w) (stepped : handlerStep w index outcome = some w') : Handshake w' := by
  obtain ⟨phase, accepted, agrees⟩ := handshake
  cases found : w.handlers[index]? with
  | none => cases outcome <;> simp only [handlerStep, found, reduceCtorEq] at stepped
  | some pc =>
    cases pc
    case done => cases outcome <;> simp [handlerStep, found] at stepped
    case signal =>
      simp only [handlerStep, found] at stepped
      repeat' (first | split at stepped | cases stepped)
      · exact ⟨phase, accepted, agrees⟩
      · rename_i waiting
        simp only [Agrees, waiting] at agrees
        obtain ⟨rfl, -, h, only, signalled⟩ := agrees
        rw [only] at found
        cases index
        · cases found
          exact ⟨.ready, accepted, rfl, .inr ⟨signalled rfl, by simp [only]⟩⟩
        · simp at found
    case disconnecting d =>
      simp only [handlerStep, found] at stepped
      have called : d ∈ w.calls :=
        mem_calls.mpr (.inr (.inr (.inl (List.mem_filterMap.mpr ⟨_, List.getElem?_mem found, rfl⟩))))
      rcases disconnectBy_some stepped with ⟨panic, rfl⟩ | ⟨client, ⟨d', disconnected, rfl⟩ | ⟨disconnected, rfl⟩⟩
      · exact ⟨phase, accepted, agrees⟩
      all_goals
        have effect := (disconnectStep_effect (sound.flag d called) disconnected).1
        refine ⟨phase, accepted, agrees.of_handler found (by simp) rfl rfl effect.clientReady
          (fun ch closedNow => ?_) effect.disconnected (by simp)⟩
        rcases effect.closed with same | ⟨disconnectedNow, -⟩
        · exact .inl (same ▸ closedNow)
        · exact .inr disconnectedNow
    all_goals
      cases outcome <;> simp only [handlerStep, found] at stepped <;> cases stepped
      all_goals exact ⟨phase, accepted, agrees.of_handler found (by simp) rfl rfl rfl (fun _ => .inl) id (by simp)⟩

theorem Handshake.step {w w' : World} {action : Action} (sound : Sound w) (handshake : Handshake w)
    (stepped : Grumble.Client.step w action = some w') : Handshake w' := by
  unfold Grumble.Client.step at stepped
  split at stepped
  · cases stepped
  · cases action with
    | tls received versionDisconnects =>
        obtain ⟨phase, accepted, agrees⟩ := handshake
        exact handshake_tlsStep sound accepted agrees stepped
    | udp outcome => exact handshake_udpStep sound handshake stepped
    | handler index outcome => exact handshake_handlerStep sound handshake stepped
    | server index => exact handshake_serverStep sound handshake stepped
    | spawnServer => cases stepped; exact handshake.of_effect (.refl _) rfl rfl rfl

theorem Reachable.handshake {w : World} (reached : Reachable w) : Handshake w := by
  induction reached with
  | init => exact ⟨.greeting, rfl, by simp [Agrees, AtTop, World.init]⟩
  | step _ reached stepped handshake => exact handshake.step reached.sound stepped

/-- A whole handshake: the peer's `Version`, its `Authenticate`, which the
handler accepts and signals, then a `UDPTunnel` frame pushed to `udprecv`. -/
def tunnelAfterAuthenticate : List Action :=
  List.replicate 9 (.tls .eof false) ++ [.tls (.frame ⟨0, []⟩) false] ++ List.replicate 4 (.tls .eof false) ++
    [.tls (.frame ⟨2, []⟩) false] ++ List.replicate 2 (.tls .eof false) ++
    [.handler 0 .accept, .handler 0 .accept] ++ List.replicate 6 (.tls .eof false) ++
    [.tls (.frame ⟨messageUDPTunnel, [7]⟩) false] ++ List.replicate 2 (.tls .eof false)

theorem run_tunnelAfterAuthenticate :
    run World.init tunnelAfterAuthenticate = some
      { client := { state := .stateClientReady, disconnected := false, udp := false,
                    clientReady := none, closed := [1], made := 2 }
        tls := .checkSentVersion
        udp := .body [7]
        handlers := [.done]
        servers := []
        log := [.pushedUdprecv [7], .read .stateClientReady (.frame ⟨messageUDPTunnel, [7]⟩),
                .handledAuthenticate ⟨2, []⟩, .read .stateClientSentVersion (.frame ⟨2, []⟩),
                .handledVersion ⟨0, []⟩, .read .stateServerSentVersion (.frame ⟨0, []⟩), .sentVersion]
        fault := none } := by
  decide

/-- Whatever the peer sends, whatever `handleVersionMessage` and the
authentication handler do and whatever the other goroutines do, the receive
loop's log in every reachable state is one the handshake automaton accepts:
`Version` first, the first frame to `handleVersionMessage`, the frame read in
`StateClientSentVersion` to `handleAuthenticate`, and only frames read in
`StateClientReady` pushed, each to the queue its kind names. -/
theorem tlsRecvLoop_follows_handshake {w : World} (reached : Reachable w) :
    ∃ phase, phaseOf w.log = some phase :=
  let ⟨phase, accepted, _⟩ := reached.handshake
  ⟨phase, accepted⟩

theorem tunnelAfterAuthenticate_follows_handshake :
    ∃ w, run World.init tunnelAfterAuthenticate = some w ∧ ∃ phase, phaseOf w.log = some phase :=
  ⟨_, run_tunnelAfterAuthenticate, tlsRecvLoop_follows_handshake (reachable_run .init run_tunnelAfterAuthenticate)⟩

/-- The frames the receive loop pushes are the frames it read in
`StateClientReady`, each once and in the order read, but the last one read,
which may still be on its way. -/
theorem tlsRecvLoop_pushes_ready_frames {w : World} (reached : Reachable w) :
    ∃ inFlight : List Message, inFlight.length ≤ 1 ∧ readyFrames w.log = inFlight ++ pushedFrames w.log := by
  obtain ⟨phase, accepted, _⟩ := reached.handshake
  refine ⟨phase.inFlight, ?_, readyFrames_eq_pushedFrames accepted⟩
  cases phase <;> simp [Phase.inFlight]

theorem tunnelAfterAuthenticate_pushes_ready_frames :
    ∃ w, run World.init tunnelAfterAuthenticate = some w ∧
      ∃ inFlight : List Message, inFlight.length ≤ 1 ∧ readyFrames w.log = inFlight ++ pushedFrames w.log :=
  ⟨_, run_tunnelAfterAuthenticate,
    tlsRecvLoop_pushes_ready_frames (reachable_run .init run_tunnelAfterAuthenticate)⟩

/-- The receive loop sends the server's `Version` before it does anything else. -/
theorem tlsRecvLoop_sends_version_first {w : World} (reached : Reachable w) :
    w.log = [] ∨ w.log.getLast? = some .sentVersion :=
  let ⟨_, accepted, _⟩ := reached.handshake
  phaseOf_sentVersion_first accepted

theorem tunnelAfterAuthenticate_sends_version_first :
    ∃ w, run World.init tunnelAfterAuthenticate = some w ∧ (w.log = [] ∨ w.log.getLast? = some .sentVersion) :=
  ⟨_, run_tunnelAfterAuthenticate,
    tlsRecvLoop_sends_version_first (reachable_run .init run_tunnelAfterAuthenticate)⟩

end Grumble.Client
