import Grumble.Mumbleproto.Codec
import Grumble.Mumbleproto.FixedWidth

namespace Grumble.Mumbleproto

/-! # Round trips through the two framings

The length-delimited framing dispatches on its tag byte, so an audio packet,
whose `ProtobufData` writes the ping tag, comes back as a ping whatever its
content.
On the legacy framing `LegacyData` writes the codec kind alone in the header,
and the parser takes the target from the byte after the header, which
`LegacyData` fills with the sender session. A legacy ping, which carries no
target, goes both ways: every datagram the legacy ping parser accepts is what
`LegacyData` writes for the ping it returns, and every extended ping comes back
whole from `LegacyData`.
-/

open Wire

variable (proto : ProtoCodec)

theorem parseUDPPacket_ping_tag (body : List UInt8) :
    parseUDPPacket proto (udpPacketPing :: body) false =
      .ok (some (.ping (parsePingPacketProtobuf proto body)), false) := rfl

/-- An audio packet's length-delimited datagram parses as a ping, never as audio. -/
theorem parseUDPPacket_audio_protobufData (p : AudioPacket) :
    parseUDPPacket proto (p.protobufData proto) false =
      .ok (some (.ping (parsePingPacketProtobuf proto (proto.audio.marshal p.audioUDP))), false) :=
  parseUDPPacket_ping_tag proto _

/-- An Opus datagram whose target is 5 re-parses, after `LegacyData`, with target 0:
`LegacyData` drops the target bits of the header and the parser reads the target
from the session varint `LegacyData` writes after it. -/
theorem legacyData_reparse_loses_target :
    parseUDPPacket proto ([0x80, 0x05, 0x00, 0x00] : List UInt8) true =
        .ok (some (.audio (some { usedCodec := .codecOpus, targetOrContext := 5 })), true) ∧
      ({ usedCodec := .codecOpus, targetOrContext := 5 } : AudioPacket).legacyData.bytes =
        [0x80, 0x00, 0x00, 0x00] ∧
      parseUDPPacket proto ([0x80, 0x00, 0x00, 0x00] : List UInt8) true =
        .ok (some (.audio (some { usedCodec := .codecOpus, targetOrContext := 0 })), true) :=
  ⟨rfl, rfl, rfl⟩

/-- A legacy Opus packet, given any sender session, re-parses from its
length-delimited datagram as a ping and not as an audio packet. -/
theorem legacy_opus_protobufData_parses_as_ping (session : UInt32) :
    parseUDPPacket proto ([0x80, 0x05, 0x00, 0x00] : List UInt8) true =
        .ok (some (.audio (some { usedCodec := .codecOpus, targetOrContext := 5 })), true) ∧
      parseUDPPacket proto
          ((({ usedCodec := .codecOpus, targetOrContext := 5 } : AudioPacket).setSenderSession
            session).protobufData proto) false =
        .ok (some (.ping (parsePingPacketProtobuf proto
          (proto.audio.marshal { senderSession := session }))), false) :=
  ⟨rfl, parseUDPPacket_ping_tag proto _⟩

/-- A datagram the legacy ping parser accepts is, behind the ping header, the
datagram `LegacyData` writes for the ping it returns. -/
theorem parsePingPacketLegacy_legacyData {data : List UInt8} {ping : PingPacket}
    (parsed : parsePingPacketLegacy data = some ping) : ping.legacyData = (udpMessagePing <<< 5) :: data := by
  unfold parsePingPacketLegacy at parsed
  split at parsed
  · cases parsed
  rename_i accepted
  obtain ⟨twelve, zero⟩ : data.length = 12 ∧ littleEndian (data.take 4) = 0 := by
    simpa only [not_or, not_not] using accepted
  cases parsed
  have counter : ((data.drop 4).take 8).length = 8 := by simp [twelve]
  have small : littleEndian ((data.drop 4).take 8) < 256 ^ 8 := by
    simpa only [counter] using littleEndian_lt ((data.drop 4).take 8)
  have whole : (data.drop 4).take 8 = data.drop 4 := List.take_of_length_le (by simp [twelve])
  have blank : littleEndianBytes 4 0 = data.take 4 := by
    simpa [zero, twelve] using littleEndianBytes_littleEndian (data.take 4)
  have stamp := littleEndianBytes_littleEndian ((data.drop 4).take 8)
  rw [counter, whole] at stamp
  rw [PingPacket.legacyData, blank, toNat_toUInt64_of_lt small, whole, stamp, List.take_append_drop]

theorem parsePingPacketLegacy_timestamp_seven :
    parsePingPacketLegacy [0, 0, 0, 0, 7, 0, 0, 0, 0, 0, 0, 0] =
        some ⟨{ timestamp := 7, requestExtendedInformation := true }⟩ ∧
      PingPacket.legacyData ⟨{ timestamp := 7, requestExtendedInformation := true }⟩ =
        (udpMessagePing <<< 5) :: [0, 0, 0, 0, 7, 0, 0, 0, 0, 0, 0, 0] :=
  let parsed : parsePingPacketLegacy [0, 0, 0, 0, 7, 0, 0, 0, 0, 0, 0, 0] =
      some ⟨{ timestamp := 7, requestExtendedInformation := true }⟩ := by decide
  ⟨parsed, parsePingPacketLegacy_legacyData parsed⟩

/-- Every extended ping comes back whole from `LegacyData` and `ParseUDPPacket`,
as a legacy packet. -/
theorem parseUDPPacket_ping_legacyData (ping : PingPacket)
    (extended : ping.pingUDP.requestExtendedInformation = true) :
    parseUDPPacket proto ping.legacyData true = .ok (some (.ping (some ping)), true) := by
  obtain ⟨⟨timestamp, flag⟩⟩ := ping
  cases extended
  have stamp : littleEndian (littleEndianBytes 8 timestamp.toNat) = timestamp.toNat := by
    rw [littleEndian_littleEndianBytes,
      Nat.mod_eq_of_lt (show timestamp.toNat < 256 ^ 8 from timestamp.toNat_lt_size)]
  have blank : littleEndian (littleEndianBytes 4 0) = 0 := rfl
  have body : parsePingPacketLegacy (littleEndianBytes 4 0 ++ littleEndianBytes 8 timestamp.toNat) =
      some ⟨{ timestamp, requestExtendedInformation := true }⟩ := by
    simp [parsePingPacketLegacy, List.take_left', List.drop_left', List.take_of_length_le, blank, stamp]
  have untagged : udpMessagePing <<< 5 ≠ udpPacketPing := by decide
  have kind : udpMessagePing <<< 5 >>> 5 &&& 7 = udpMessagePing := by decide
  simp [parseUDPPacket, GoSlice.exact, PingPacket.legacyData, body, untagged, kind, pure, Except.pure]

theorem parseUDPPacket_timestamp_seven_legacyData :
    ({ pingUDP := { timestamp := 7, requestExtendedInformation := true } } : PingPacket).pingUDP.requestExtendedInformation
        = true ∧
      parseUDPPacket fixedWidthCodec (PingPacket.legacyData ⟨{ timestamp := 7, requestExtendedInformation := true }⟩)
          true =
        .ok (some (.ping (some ⟨{ timestamp := 7, requestExtendedInformation := true }⟩)), true) :=
  ⟨rfl, parseUDPPacket_ping_legacyData fixedWidthCodec _ rfl⟩

end Grumble.Mumbleproto
