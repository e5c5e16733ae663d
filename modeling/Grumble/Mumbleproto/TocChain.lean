import Grumble.Mumbleproto.Codec

namespace Grumble.Mumbleproto

open Wire

/-! # What the TOC loop consumes

A CELT or Speex payload is a chain of frames, each behind a TOC byte whose low
seven bits give the frame's length and whose top bit says whether another frame
follows (§4.b). The loop of `parseAudioPacketLegacy` (`tocLoop`) reads such a
chain off the cursor. It always returns: each iteration that goes on has read a
byte, so the bytes left shrink (the `termination_by` of `tocLoop`). When the
cursor is still valid at the end it has read exactly one chain, and
`payloadSize` counts the frames' bytes without the TOC bytes.

The payload is sliced out of the datagram at line 352 of the source. For CELT
and Speex the offset is taken before the chain, which holds at least one TOC
byte besides the frames it counts, so the slice ends inside the datagram; for
Opus the offset is taken after the frames have been skipped, and the slice can
run past the end.
-/

/-- One frame of a CELT or Speex payload: its TOC byte and the bytes the TOC
byte announces. -/
structure TocFrame where
  toc : UInt8
  frame : List UInt8
  length_frame : frame.length = (toc &&& 0x7f).toNat

namespace TocFrame

def size (f : TocFrame) : Nat := (f.toc &&& 0x7f).toNat

def continues (f : TocFrame) : Bool := f.toc &&& 0x80 != 0

def bytes (f : TocFrame) : List UInt8 := f.toc :: f.frame

theorem length_flatMap_bytes (chain : List TocFrame) :
    (chain.flatMap bytes).length = chain.length + (chain.map size).sum := by
  induction chain with
  | nil => rfl
  | cons f chain ih =>
      simp only [List.flatMap_cons, List.length_append, ih, bytes, List.length_cons, f.length_frame,
        List.map_cons, List.sum_cons, size]
      omega

end TocFrame

/-- The loop with any starting `payloadSize` and `IsTerminator`: a valid cursor
at the end has read a chain of frames, every one but the last announcing
another, and added their lengths and whether one was empty. -/
theorem tocLoop_consumes_chain (incoming : PacketData) (payloadSize : Nat) (isTerminator : Bool)
    (valid : (tocLoop incoming payloadSize isTerminator).1.isValid = true) :
    ∃ chain : List TocFrame, chain ≠ [] ∧ (∀ f ∈ chain.dropLast, f.continues = true) ∧
      (∀ f ∈ chain.getLast?, f.continues = false) ∧
      chain.flatMap TocFrame.bytes <+: incoming.rest ∧
      (tocLoop incoming payloadSize isTerminator).2.1 = payloadSize + (chain.map TocFrame.size).sum ∧
      (tocLoop incoming payloadSize isTerminator).1.offset =
        incoming.offset + chain.length + (chain.map TocFrame.size).sum ∧
      (tocLoop incoming payloadSize isTerminator).2.2 = (isTerminator || chain.any fun f => f.size == 0) := by
  induction incoming, payloadSize, isTerminator using tocLoop.induct with
  | case1 incoming payloadSize isTerminator flag frameSize after stop =>
      rw [tocLoop, if_pos stop] at valid ⊢
      have last : flag &&& 0x80 = 0 := stop.resolve_right (by simpa using valid)
      obtain ⟨frame, length, rest⟩ := PacketData.rest_next8_skip valid
      have moved := (PacketData.next8_skip_valid valid).2
      refine ⟨[⟨flag, frame, length⟩], List.cons_ne_nil _ _, by simp, ?_, ?_, ?_, ?_, ?_⟩
      · simp [TocFrame.continues, last]
      · rw [rest]; simp [TocFrame.bytes]
      · simp [TocFrame.size]
      · simp [TocFrame.size]; exact moved
      · simp [TocFrame.size]
  | case2 incoming payloadSize isTerminator flag frameSize after continues ih =>
      rw [tocLoop, if_neg continues] at valid ⊢
      obtain ⟨more, afterValid⟩ := not_or.mp continues
      have afterValid : after.isValid = true := by simpa using afterValid
      obtain ⟨frame, length, rest⟩ := PacketData.rest_next8_skip afterValid
      have moved := (PacketData.next8_skip_valid afterValid).2
      obtain ⟨chain, nonempty, middle, last, front, payload, offset, terminator⟩ := ih valid
      obtain ⟨first, others, rfl⟩ := List.exists_cons_of_ne_nil nonempty
      refine ⟨⟨flag, frame, length⟩ :: first :: others, List.cons_ne_nil _ _, ?_, ?_, ?_, ?_, ?_, ?_⟩
      · intro f mem
        rw [List.dropLast_cons₂, List.mem_cons] at mem
        rcases mem with rfl | mem
        · simpa [TocFrame.continues] using more
        · exact middle f mem
      · simpa only [List.getLast?_cons_cons] using last
      · rw [rest, List.flatMap_cons]
        exact (List.prefix_append_right_inj [flag]).mpr ((List.prefix_append_right_inj frame).mpr front)
      · rw [payload]
        simp only [List.map_cons, List.sum_cons, TocFrame.size]
        omega
      · rw [offset, moved]
        simp only [List.length_cons, List.map_cons, List.sum_cons, TocFrame.size]
        omega
      · rw [terminator]
        simp only [List.any_cons, TocFrame.size, Bool.or_assoc]

/-- The loop as `parseAudioPacketLegacy` runs it, from `payloadSize := 0` and an
`IsTerminator` still false: a cursor valid at the end has consumed a chain of
`m ≥ 1` frames, every TOC byte but the last with bit 7 set (the last with it
clear), `payloadSize` is the sum of the `m` frame lengths, the cursor has moved
by `m + payloadSize`, and `IsTerminator` is set exactly when a frame is empty. -/
theorem tocLoop_chain_accounting (incoming : PacketData)
    (valid : (tocLoop incoming 0 false).1.isValid = true) :
    ∃ chain : List TocFrame, chain ≠ [] ∧ (∀ f ∈ chain.dropLast, f.continues = true) ∧
      (∀ f ∈ chain.getLast?, f.continues = false) ∧
      chain.flatMap TocFrame.bytes <+: incoming.rest ∧
      (tocLoop incoming 0 false).2.1 = (chain.map TocFrame.size).sum ∧
      (tocLoop incoming 0 false).1.offset = incoming.offset + chain.length + (tocLoop incoming 0 false).2.1 ∧
      ((tocLoop incoming 0 false).2.2 = true ↔ ∃ f ∈ chain, f.size = 0) := by
  obtain ⟨chain, nonempty, middle, last, front, payload, offset, terminator⟩ :=
    tocLoop_consumes_chain incoming 0 false valid
  refine ⟨chain, nonempty, middle, last, front, by rw [payload, Nat.zero_add], by rw [offset, payload, Nat.zero_add], ?_⟩
  rw [terminator]
  simp

theorem tocLoop_empty_last_frame_accounting :
    (tocLoop (PacketData.new [0x81, 0xAA, 0x00]) 0 false).1.isValid = true ∧
      ∃ chain : List TocFrame, chain ≠ [] ∧ (∀ f ∈ chain.dropLast, f.continues = true) ∧
        (∀ f ∈ chain.getLast?, f.continues = false) ∧
        chain.flatMap TocFrame.bytes <+: (PacketData.new [0x81, 0xAA, 0x00]).rest ∧
        (tocLoop (PacketData.new [0x81, 0xAA, 0x00]) 0 false).2.1 = (chain.map TocFrame.size).sum ∧
        (tocLoop (PacketData.new [0x81, 0xAA, 0x00]) 0 false).1.offset =
          (PacketData.new [0x81, 0xAA, 0x00]).offset + chain.length +
            (tocLoop (PacketData.new [0x81, 0xAA, 0x00]) 0 false).2.1 ∧
        ((tocLoop (PacketData.new [0x81, 0xAA, 0x00]) 0 false).2.2 = true ↔ ∃ f ∈ chain, f.size = 0) :=
  have valid : (tocLoop (PacketData.new [0x81, 0xAA, 0x00]) 0 false).1.isValid = true := by
    rw [tocLoop, if_neg (by decide), tocLoop, if_pos (by decide)]
    rfl
  ⟨valid, tocLoop_chain_accounting _ valid⟩

/-- The payload `parseAudioPacketLegacy` returns for CELT and Speex is the first
`payloadSize` bytes of the TOC chain, TOC bytes included, not its frames: the
slice starts at the first TOC byte, and the chain is `m` bytes longer than
`payloadSize`. -/
theorem parseAudioPacketLegacy_toc_payload {data : List UInt8} {codec : AudioCodec} {audio : AudioPacket}
    (framed : codec ≠ .codecOpus) (parsed : parseAudioPacketLegacy data codec = .ok (some audio)) :
    ∃ chain : List TocFrame, chain ≠ [] ∧ chain.flatMap TocFrame.bytes <:+: data ∧
      audio.payload = (chain.flatMap TocFrame.bytes).take (chain.map TocFrame.size).sum ∧
      audio.audioUDP.isTerminator = chain.any fun f => f.size == 0 := by
  unfold parseAudioPacketLegacy at parsed
  simp only [GoSlice.exact_bytes] at parsed
  by_cases short : data.length < 3
  · rw [dif_pos short] at parsed; cases parsed
  rw [dif_neg short] at parsed
  cases codec
  · exact absurd rfl framed
  all_goals
    dsimp only at parsed
    split at parsed
    · cases parsed
    rename_i valid
    obtain ⟨chain, nonempty, -, -, front, payload, -, terminator⟩ :=
      tocLoop_consumes_chain _ 0 false (Bool.not_eq_false _ ▸ valid)
    obtain ⟨sliced, sliceOk, rest⟩ := bind_eq_ok parsed
    have fields : audio.payload = sliced.bytes ∧
        audio.audioUDP.isTerminator = (tocLoop (PacketData.new (data.drop 1)).getUint64.2 0 false).2.2 := by
      split at rest
      · cases rest; exact ⟨rfl, rfl⟩
      · split at rest
        · cases rest
        · cases rest; exact ⟨rfl, rfl⟩
    obtain ⟨tail, chained⟩ := front
    have start : (PacketData.new (data.drop 1)).getUint64.2.rest =
        data.drop (1 + (PacketData.new (data.drop 1)).getUint64.2.size) := by
      show (data.drop 1).drop _ = _
      rw [List.drop_drop]; rfl
    unfold slice at sliceOk
    simp only [GoSlice.cap, GoSlice.exact_bytes, GoSlice.exact_spare, List.append_nil, List.length_nil,
      Nat.add_zero] at sliceOk
    split at sliceOk
    · cases sliceOk
      refine ⟨chain, nonempty, ?_, ?_, by rw [fields.2, terminator, Bool.false_or]⟩
      · rw [start] at chained
        exact (List.prefix_append _ tail).isInfix.trans (chained ▸ (List.drop_suffix _ _).isInfix)
      · rw [fields.1]
        dsimp only
        rw [Nat.add_sub_cancel_left, ← start, ← chained, payload, Nat.zero_add,
          List.take_append_of_le_length (by rw [TocFrame.length_flatMap_bytes]; omega)]
    · cases sliceOk

/-- One frame of one byte and an empty last frame: the payload is the first TOC
byte, not the frame `0xAA`. -/
theorem parseAudioPacketLegacy_celt_payload_is_toc_byte :
    AudioCodec.codecCELTAlpha ≠ .codecOpus ∧
      parseAudioPacketLegacy ([0x00, 0x00, 0x81, 0xAA, 0x00] : List UInt8) .codecCELTAlpha =
        .ok (some { audioUDP := { isTerminator := true }, usedCodec := .codecCELTAlpha, payload := [0x81] }) ∧
      ∃ chain : List TocFrame, chain ≠ [] ∧ chain.flatMap TocFrame.bytes <:+: [0x00, 0x00, 0x81, 0xAA, 0x00] ∧
        [0x81] = (chain.flatMap TocFrame.bytes).take (chain.map TocFrame.size).sum ∧
        true = chain.any fun f => f.size == 0 :=
  have parsed : parseAudioPacketLegacy ([0x00, 0x00, 0x81, 0xAA, 0x00] : List UInt8) .codecCELTAlpha =
      .ok (some { audioUDP := { isTerminator := true }, usedCodec := .codecCELTAlpha, payload := [0x81] }) := by
    have loop : tocLoop (PacketData.new [0x00, 0x81, 0xAA, 0x00]).getUint64.2 0 false =
        (((PacketData.new [0x00, 0x81, 0xAA, 0x00]).getUint64.2.next8.2.skip 1).next8.2.skip 0, 1, true) := by
      rw [tocLoop, if_neg (by decide), tocLoop, if_pos (by decide)]
      rfl
    unfold parseAudioPacketLegacy
    dsimp only
    rw [show (GoSlice.exact [(0x00 : UInt8), 0x00, 0x81, 0xAA, 0x00]).bytes.drop 1 = [0x00, 0x81, 0xAA, 0x00] from rfl, loop]
    rfl
  ⟨by decide, parsed, parseAudioPacketLegacy_toc_payload (by decide) parsed⟩

/-- The payload slice stays inside the datagram for CELT and Speex, whatever the
capacity behind it: only the Opus branch of `parseAudioPacketLegacy` can panic. -/
theorem parseAudioPacketLegacy_panics_only_for_opus {data : GoSlice} {codec : AudioCodec}
    {panic : RuntimePanic} (panicked : parseAudioPacketLegacy data codec = .error panic) :
    codec = .codecOpus := by
  cases codec
  case codecOpus => rfl
  all_goals
    exfalso
    unfold parseAudioPacketLegacy at panicked
    by_cases short : data.bytes.length < 3
    · rw [dif_pos short] at panicked; cases panicked
    rw [dif_neg short] at panicked
    dsimp only at panicked
    split at panicked
    · cases panicked
    rename_i valid
    rcases bind_eq_error panicked with sliced | ⟨payload, -, rest⟩
    · have bound := tocLoop_offset (Bool.not_eq_false _ ▸ valid)
      have within := (tocLoop (PacketData.new (data.bytes.drop 1)).getUint64.2 0 false).1.offset_le
      have body : (PacketData.new (data.bytes.drop 1)).getUint64.2.buf.length = data.bytes.length - 1 :=
        List.length_drop _ _
      rw [tocLoop_buf, body] at within
      rw [slice_eq_ok (by simp only [PacketData.size, GoSlice.cap]; omega)] at sliced
      cases sliced
    · split at rest
      · cases rest
      · split at rest <;> cases rest

theorem parseAudioPacketLegacy_opus_overrun :
    parseAudioPacketLegacy ([0x05, 0x00, 0x01, 0xAA] : List UInt8) .codecOpus = .error .sliceBoundsOutOfRange ∧
      AudioCodec.codecOpus = .codecOpus :=
  let panicked : parseAudioPacketLegacy ([0x05, 0x00, 0x01, 0xAA] : List UInt8) .codecOpus =
      .error .sliceBoundsOutOfRange := rfl
  ⟨panicked, parseAudioPacketLegacy_panics_only_for_opus panicked⟩

end Grumble.Mumbleproto
