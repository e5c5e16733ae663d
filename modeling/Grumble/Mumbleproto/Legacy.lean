import Grumble.Mumbleproto.Codec
import Grumble.Mumbleproto.FixedWidth

namespace Grumble.Mumbleproto

open Wire

/-! # The legacy parser

`parseAudioPacketLegacy` is called on the datagram without its header byte, so
the byte it masks for the target is the first byte of the session varint, and the
cursor it reads the frame counter with starts one byte further on.  The Opus
branch takes the payload offset after skipping the payload, so the payload slice
starts where the Opus payload ends.
-/

variable (proto : ProtoCodec)

/-- A one-byte Opus payload with nothing after it makes the payload slice reach
past the end of the datagram. -/
theorem parseUDPPacket_opus_payload_out_of_range :
    parseUDPPacket proto ([0x80, 0x05, 0x00, 0x01, 0xAA] : List UInt8) true = .error .sliceBoundsOutOfRange :=
  rfl

/-- The Opus datagram with header `0x85` (target 5), session 0, frame counter 0 and
an empty Opus section parses with target 0, the low bits of the session byte. -/
theorem parseUDPPacket_target_from_session_byte :
    parseUDPPacket proto ([0x85, 0x00, 0x00, 0x00] : List UInt8) true =
        .ok (some (.audio (some { usedCodec := .codecOpus, targetOrContext := 0 })), true) ∧
      (0x85 : UInt8) &&& 0x1f = 5 :=
  ⟨rfl, rfl⟩

theorem parseAudioPacketLegacy_zero_celt_body (b₄ b₅ b₆ b₇ b₈ b₉ b₁₀ b₁₁ : UInt8) :
    parseAudioPacketLegacy [0, 0, 0, b₄, b₅, b₆, b₇, b₈, b₉, b₁₀, b₁₁] .codecCELTAlpha = .ok none := by
  have flag : (PacketData.new [0, 0, b₄, b₅, b₆, b₇, b₈, b₉, b₁₀, b₁₁]).getUint64.2.next8.1 = 0 := rfl
  have loop : tocLoop (PacketData.new [0, 0, b₄, b₅, b₆, b₇, b₈, b₉, b₁₀, b₁₁]).getUint64.2 0 false =
      ((PacketData.new [0, 0, b₄, b₅, b₆, b₇, b₈, b₉, b₁₀, b₁₁]).getUint64.2.next8.2.skip 0, 0, true) := by
    rw [tocLoop, flag, if_pos (.inl (by decide))]
    rfl
  unfold parseAudioPacketLegacy
  dsimp only
  rw [show (GoSlice.exact [(0 : UInt8), 0, 0, b₄, b₅, b₆, b₇, b₈, b₉, b₁₀, b₁₁]).bytes.drop 1 =
    [0, 0, b₄, b₅, b₆, b₇, b₈, b₉, b₁₀, b₁₁] from rfl, loop]
  rfl

/-- The header-less extended ping that `ParseUDPPacket` tests for before the
header's kind hides no voice datagram. It takes only twelve-byte datagrams (the
24-byte length the test also lets through never passes `parsePingPacketLegacy`)
that start with four zero bytes: their header names CELT-alpha voice, and
`parseAudioPacketLegacy` rejects the body of every one of them. -/
theorem parseUDPPacket_extended_ping_hides_no_voice {data : List UInt8}
    (taken : (data.length = 12 ∨ data.length = 24) ∧ (parsePingPacketLegacy data).isSome) :
    data.length = 12 ∧ ∃ body, data = 0 :: body ∧
      parseUDPPacket proto data true = .ok (some (.ping (parsePingPacketLegacy data)), true) ∧
      parseAudioPacketLegacy body .codecCELTAlpha = .ok none := by
  have parsed := taken.2
  unfold parsePingPacketLegacy at parsed
  split at parsed
  · cases parsed
  obtain ⟨twelve, zero⟩ : data.length = 12 ∧ littleEndian (data.take 4) = 0 := by
    rename_i accepted; push_neg at accepted; exact accepted
  rcases data with _ | ⟨b₀, _ | ⟨b₁, _ | ⟨b₂, _ | ⟨b₃, rest⟩⟩⟩⟩ <;> simp at twelve
  rcases rest with _ | ⟨b₄, _ | ⟨b₅, _ | ⟨b₆, _ | ⟨b₇, _ | ⟨b₈, _ | ⟨b₉, _ | ⟨b₁₀, _ | ⟨b₁₁, _ | ⟨_, _⟩⟩⟩⟩⟩⟩⟩⟩⟩ <;>
    simp at twelve
  have clear := littleEndian_eq_zero zero
  obtain rfl := clear b₀ (by simp)
  obtain rfl := clear b₁ (by simp)
  obtain rfl := clear b₂ (by simp)
  obtain rfl := clear b₃ (by simp)
  exact ⟨rfl, _, rfl, by simp [parseUDPPacket, GoSlice.exact, udpPacketPing, taken.2, pure, Except.pure],
    parseAudioPacketLegacy_zero_celt_body b₄ b₅ b₆ b₇ b₈ b₉ b₁₀ b₁₁⟩

/-- A header-less extended ping with timestamp 7 is taken as a ping; read by its
header as CELT-alpha voice it would have been rejected. -/
theorem parseUDPPacket_zero_header_ping :
    ((([0, 0, 0, 0, 7, 0, 0, 0, 0, 0, 0, 0] : List UInt8).length = 12 ∨
        ([0, 0, 0, 0, 7, 0, 0, 0, 0, 0, 0, 0] : List UInt8).length = 24) ∧
        (parsePingPacketLegacy [0, 0, 0, 0, 7, 0, 0, 0, 0, 0, 0, 0]).isSome) ∧
      ([0, 0, 0, 0, 7, 0, 0, 0, 0, 0, 0, 0] : List UInt8).length = 12 ∧
      ∃ body, ([0, 0, 0, 0, 7, 0, 0, 0, 0, 0, 0, 0] : List UInt8) = 0 :: body ∧
        parseUDPPacket fixedWidthCodec ([0, 0, 0, 0, 7, 0, 0, 0, 0, 0, 0, 0] : List UInt8) true =
          .ok (some (.ping (parsePingPacketLegacy [0, 0, 0, 0, 7, 0, 0, 0, 0, 0, 0, 0])), true) ∧
        parseAudioPacketLegacy body .codecCELTAlpha = .ok none :=
  have taken : (([0, 0, 0, 0, 7, 0, 0, 0, 0, 0, 0, 0] : List UInt8).length = 12 ∨
      ([0, 0, 0, 0, 7, 0, 0, 0, 0, 0, 0, 0] : List UInt8).length = 24) ∧
      (parsePingPacketLegacy [0, 0, 0, 0, 7, 0, 0, 0, 0, 0, 0, 0]).isSome := ⟨.inl rfl, rfl⟩
  ⟨taken, parseUDPPacket_extended_ping_hides_no_voice fixedWidthCodec taken⟩

end Grumble.Mumbleproto
