import Grumble.Wire.PacketData

namespace Grumble.Mumbleproto

/-! # UDP packets

The data of `mumbleproto`'s UDP codec: the two packet types, the generated
protobuf messages they embed, and the constants of both framings.  Floats are
carried as their IEEE-754 bit patterns; the codec only copies them.
-/

/-- `UDPPacketType`: the tag byte of the length-delimited framing. -/
def udpPacketAudio : UInt8 := 0
def udpPacketPing : UInt8 := 1

/-- Modelled from the spec: the legacy message kinds (`UDPMessage*`, the top three
bits of a legacy header, §4.b: 0 CELT-alpha, 1 ping, 2 Speex, 3 CELT-beta, 4 Opus). -/
def udpMessageVoiceCELTAlpha : UInt8 := 0
def udpMessagePing : UInt8 := 1
def udpMessageVoiceSpeex : UInt8 := 2
def udpMessageVoiceCELTBeta : UInt8 := 3
def udpMessageVoiceOpus : UInt8 := 4

def targetRegularSpeech : UInt8 := 0
def targetServerLoopback : UInt8 := 31

inductive AudioCodec
  | codecOpus
  | codecCELTAlpha
  | codecCELTBeta
  | codecSpeex
deriving DecidableEq, Repr

/-- The generated `PingUDP` message, with the fields the codec reads and writes. -/
structure PingUDP where
  timestamp : UInt64 := 0
  requestExtendedInformation : Bool := false
deriving DecidableEq, Repr

/-- The `Header` oneof of the generated `AudioUDP` message. -/
inductive AudioHeader
  | none
  | target (value : UInt32)
  | context (value : UInt32)
deriving DecidableEq, Repr

/-- The generated `AudioUDP` message, with the fields the codec reads and writes. -/
structure AudioUDP where
  header : AudioHeader := .none
  senderSession : UInt32 := 0
  frameNumber : UInt64 := 0
  opusData : List UInt8 := []
  positionalData : List UInt32 := []
  isTerminator : Bool := false
deriving DecidableEq, Repr

/-- `GetTarget`: the target of the oneof, `0` when it holds a context or nothing. -/
def AudioUDP.getTarget (audio : AudioUDP) : UInt32 :=
  match audio.header with
  | .target value => value
  | _ => 0

structure PingPacket where
  pingUDP : PingUDP := {}
deriving DecidableEq, Repr

structure AudioPacket where
  audioUDP : AudioUDP := {}
  usedCodec : AudioCodec := .codecOpus
  targetOrContext : UInt8 := 0
  payload : List UInt8 := []
deriving DecidableEq, Repr

/-- A non-nil value of the `UDPPacket` interface: a pointer to a `PingPacket` or an
`AudioPacket`, which may itself be nil (a typed nil is a non-nil interface). -/
inductive UDPPacket
  | ping (packet : Option PingPacket)
  | audio (packet : Option AudioPacket)
deriving DecidableEq, Repr

/-- `SetSenderSession`: audio packets take the session, pings ignore it. -/
def AudioPacket.setSenderSession (p : AudioPacket) (session : UInt32) : AudioPacket :=
  { p with audioUDP := { p.audioUDP with senderSession := session } }

def packetType : UDPPacket → UInt8
  | .ping _ => udpPacketPing
  | .audio _ => udpPacketAudio

/-- `proto.Marshal` and `proto.Unmarshal` of one message type, taken as given:
unmarshalling what was marshalled gives the message back. -/
structure MessageCodec (M : Type) where
  marshal : M → List UInt8
  unmarshal : List UInt8 → Option M
  unmarshal_marshal : ∀ message, unmarshal (marshal message) = some message

structure ProtoCodec where
  ping : MessageCodec PingUDP
  audio : MessageCodec AudioUDP

end Grumble.Mumbleproto
