import Grumble.Mumbleproto.Packet

namespace Grumble.Mumbleproto

open Wire

/-! # The UDP codec

`ParseUDPPacket`, the four parsers it dispatches to, and the `LegacyData` and
`ProtobufData` emitters, as `mumbleproto` computes them.  A parser's `nil`
pointer is `none`; `ParseUDPPacket` returns its interface value, `none` for a
nil interface, together with the framing it detected.  The one expression that
can panic, the payload slice of `parseAudioPacketLegacy`, is evaluated as Go does.
-/

/-- `parsePingPacketLegacy`: the twelve-byte extended ping, four zero bytes and a
64-bit timestamp. -/
def parsePingPacketLegacy (data : List UInt8) : Option PingPacket :=
  if data.length ≠ 12 ∨ littleEndian (data.take 4) ≠ 0 then none
  else some { pingUDP := { timestamp := (littleEndian ((data.drop 4).take 8)).toUInt64,
                           requestExtendedInformation := true } }

def parsePingPacketProtobuf (proto : ProtoCodec) (data : List UInt8) : Option PingPacket :=
  (proto.ping.unmarshal data).map fun ping => { pingUDP := ping }

/-- `parseAudioPacketProtobuf`: Opus only, and nil without Opus data. -/
def parseAudioPacketProtobuf (proto : ProtoCodec) (data : List UInt8) : Option AudioPacket :=
  match proto.audio.unmarshal data with
  | none => none
  | some audio =>
      if audio.opusData.length = 0 then none
      else some { audioUDP := audio, usedCodec := .codecOpus,
                  targetOrContext := audio.getTarget.toUInt8, payload := audio.opusData }

/-- The loop over the TOC bytes of a CELT or Speex payload in
`parseAudioPacketLegacy`: each TOC byte gives the length of the frame after it
in its low seven bits and whether another frame follows in its top bit.  Returns
the cursor, `payloadSize` and `IsTerminator`. -/
def tocLoop (incoming : PacketData) (payloadSize : Nat) (isTerminator : Bool) :
    PacketData × Nat × Bool :=
  let flag := incoming.next8.1
  let frameSize := (flag &&& 0x7f).toNat
  let after := incoming.next8.2.skip frameSize
  if flag &&& 0x80 = 0 ∨ after.isValid = false then
    (after, payloadSize + frameSize, isTerminator || frameSize == 0)
  else tocLoop after (payloadSize + frameSize) (isTerminator || frameSize == 0)
termination_by incoming.left
decreasing_by
  rename_i continues
  have read : incoming.next8.1 ≠ 0 := fun zero =>
    continues (Or.inl (by show incoming.next8.1 &&& 128 = 0; rw [zero]; decide))
  exact Nat.lt_of_le_of_lt (PacketData.left_skip_le _ _) (PacketData.left_next8_lt read)

theorem tocLoop_buf (incoming : PacketData) (payloadSize : Nat) (isTerminator : Bool) :
    (tocLoop incoming payloadSize isTerminator).1.buf = incoming.buf := by
  induction incoming, payloadSize, isTerminator using tocLoop.induct with
  | case1 incoming payloadSize isTerminator flag frameSize after stop =>
      simp only [after, frameSize, flag] at stop
      rw [tocLoop, if_pos stop]
      simp
  | case2 incoming payloadSize isTerminator flag frameSize after continues ih =>
      simp only [after, frameSize, flag] at continues ih
      rw [tocLoop, if_neg continues, ih]
      simp

/-- A chain that leaves the cursor valid consumed at least one TOC byte and every
frame it counted: the cursor moved past `payloadSize` more bytes than it started with. -/
theorem tocLoop_offset {incoming : PacketData} {payloadSize : Nat} {isTerminator : Bool}
    (valid : (tocLoop incoming payloadSize isTerminator).1.isValid = true) :
    incoming.offset + 1 + (tocLoop incoming payloadSize isTerminator).2.1 ≤
      (tocLoop incoming payloadSize isTerminator).1.offset + payloadSize := by
  induction incoming, payloadSize, isTerminator using tocLoop.induct with
  | case1 incoming payloadSize isTerminator flag frameSize after stop =>
      simp only [after, frameSize, flag] at stop
      rw [tocLoop, if_pos stop] at valid ⊢
      have moved := (PacketData.next8_skip_valid valid).2
      dsimp only at moved ⊢
      omega
  | case2 incoming payloadSize isTerminator flag frameSize after continues ih =>
      simp only [after, frameSize, flag] at continues ih
      rw [tocLoop, if_neg continues] at valid ⊢
      have inner := ih valid
      have moved := (PacketData.next8_skip_valid
        (by simpa only [Bool.not_eq_false] using (not_or.mp continues).2)).2
      omega

/-- `parseAudioPacketLegacy`, called on a legacy datagram without its header
byte. `PacketData` reads up to the length; the payload slice is bounded by the
capacity. -/
def parseAudioPacketLegacy (data : GoSlice) (codec : AudioCodec) :
    Except RuntimePanic (Option AudioPacket) :=
  if short : data.bytes.length < 3 then pure none else
  let targetOrContext := data.bytes[0] &&& 0x1f
  let incoming := PacketData.new (data.bytes.drop 1)
  let frameNumber := incoming.getUint64.1
  let incoming := incoming.getUint64.2
  let offset := incoming.size
  let (offset, payloadSize, isTerminator, incoming) : Nat × Nat × Bool × PacketData :=
    match codec with
    | .codecOpus =>
        let size := incoming.getUint16.1.toNat
        let payloadSize := size &&& 0x1fff
        let incoming := incoming.getUint16.2.skip payloadSize
        (incoming.size, payloadSize, size &&& 0x2000 > 0, incoming)
    | _ =>
        let loop := tocLoop incoming 0 false
        (offset, loop.2.1, loop.2.2, loop.1)
  if incoming.isValid = false then pure none else do
  let payload ← slice data (1 + offset) (1 + offset + payloadSize)
  let audio : AudioPacket := { audioUDP := { frameNumber, isTerminator }, usedCodec := codec,
                               targetOrContext, payload := payload.bytes }
  if incoming.left = 3 * 4 then
    let x := incoming.getFloat32
    let y := x.2.getFloat32
    let z := y.2.getFloat32
    pure (some { audio with audioUDP := { audio.audioUDP with
                                          positionalData := [x.1, y.1, z.1] } })
  else if incoming.left > 0 then pure none
  else pure (some audio)

/-- `ParseUDPPacket`: the packet and whether it came in the legacy framing;
`data[1:]` is `body` with the same spare capacity. -/
def parseUDPPacket (proto : ProtoCodec) (data : GoSlice) (isLegacy : Bool) :
    Except RuntimePanic (Option UDPPacket × Bool) :=
  match data with
  | ⟨[], _⟩ => pure (none, isLegacy)
  | ⟨header :: body, spare⟩ =>
      if isLegacy then
        if header = udpPacketPing then pure (some (.ping (parsePingPacketProtobuf proto body)), false)
        else if (data.bytes.length = 12 ∨ data.bytes.length = 24) ∧ (parsePingPacketLegacy data.bytes).isSome then
          pure (some (.ping (parsePingPacketLegacy data.bytes)), true)
        else
          let kind := (header >>> 5) &&& 0x07
          if kind = udpMessagePing then pure (some (.ping (parsePingPacketLegacy body)), true)
          else if kind = udpMessageVoiceSpeex then
            return (some (.audio (← parseAudioPacketLegacy ⟨body, spare⟩ .codecSpeex)), true)
          else if kind = udpMessageVoiceCELTAlpha then
            return (some (.audio (← parseAudioPacketLegacy ⟨body, spare⟩ .codecCELTAlpha)), true)
          else if kind = udpMessageVoiceCELTBeta then
            return (some (.audio (← parseAudioPacketLegacy ⟨body, spare⟩ .codecCELTBeta)), true)
          else if kind = udpMessageVoiceOpus then
            return (some (.audio (← parseAudioPacketLegacy ⟨body, spare⟩ .codecOpus)), true)
          else pure (none, isLegacy)
      else
        if header = udpPacketPing then pure (some (.ping (parsePingPacketProtobuf proto body)), false)
        else if header = udpPacketAudio then
          pure (some (.audio (parseAudioPacketProtobuf proto body)), false)
        else pure (none, isLegacy)

/-- `PingPacket.LegacyData`, the bytes it returns. The capacity `append` leaves
after them is the run time's choice; no parser slices a ping past its length. -/
def PingPacket.legacyData (p : PingPacket) : List UInt8 :=
  (udpMessagePing <<< 5) :: (littleEndianBytes 4 0 ++ littleEndianBytes 8 p.pingUDP.timestamp.toNat)

def PingPacket.protobufData (proto : ProtoCodec) (p : PingPacket) : List UInt8 :=
  udpPacketPing :: proto.ping.marshal p.pingUDP

def legacyHeader : AudioCodec → UInt8
  | .codecCELTAlpha => udpMessageVoiceCELTAlpha <<< 5
  | .codecCELTBeta => udpMessageVoiceCELTBeta <<< 5
  | .codecSpeex => udpMessageVoiceSpeex <<< 5
  | .codecOpus => udpMessageVoiceOpus <<< 5

/-- `AudioPacket.LegacyData`: the buffer is `32 + len(Payload)` bytes, and the
slice returned holds its first `1 + Size` of them with the rest as capacity. -/
def AudioPacket.legacyData (p : AudioPacket) : GoSlice :=
  let outgoing := PacketData.new (List.replicate (31 + p.payload.length) 0)
  let outgoing := outgoing.putUint32 p.audioUDP.senderSession
  let outgoing := outgoing.putUint32 p.audioUDP.frameNumber.toUInt32
  let outgoing :=
    match p.usedCodec with
    | .codecOpus =>
        let flag := p.payload.length ||| (if p.audioUDP.isTerminator then 0x2000 else 0)
        (outgoing.putUint32 flag.toUInt32).copyBytes p.payload
    | _ => outgoing.copyBytes p.payload
  ⟨legacyHeader p.usedCodec :: outgoing.buf.take outgoing.size, outgoing.buf.drop outgoing.size⟩

/-- `AudioPacket.ProtobufData`, which tags the message with `UDPPacketPing`. -/
def AudioPacket.protobufData (proto : ProtoCodec) (p : AudioPacket) : List UInt8 :=
  udpPacketPing :: proto.audio.marshal p.audioUDP

/-- Modelled from the spec: `Data(legacy)` of a ping, the packet in the framing
`legacy` names (§4.b, "the `Data(legacy bool)` contract picks the format"). -/
def PingPacket.data (proto : ProtoCodec) (p : PingPacket) (legacy : Bool) : List UInt8 :=
  if legacy then p.legacyData else p.protobufData proto

/-- Modelled from the spec: the bytes of `Data(legacy)` of an audio packet. -/
def AudioPacket.data (proto : ProtoCodec) (p : AudioPacket) (legacy : Bool) : List UInt8 :=
  if legacy then p.legacyData.bytes else p.protobufData proto

end Grumble.Mumbleproto
