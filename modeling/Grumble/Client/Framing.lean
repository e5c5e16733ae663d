import Grumble.Wire.Bytes

namespace Grumble.Client

/-! # Control-channel framing

`sendMessage` frames a message as a big-endian 16-bit kind, a big-endian 32-bit
payload length and the payload; `readProtoMessage` reads one such frame back.
The protobuf side of `sendMessage` (the message registry `MessageType` and
`proto.Marshal`) lives outside the repository's sources and is taken as given.
-/

/-- `mumbleproto.MessageUDPTunnel` (§6: kind 1 carries a raw datagram). -/
def messageUDPTunnel : UInt16 := 1

structure Message where
  kind : UInt16
  buf : List UInt8
deriving DecidableEq, Repr

/-- What a read that fails returns: `io.EOF` when the stream ends before a
field starts, `io.ErrUnexpectedEOF` when it ends inside one. -/
inductive ReadError
  | eof
  | unexpectedEOF
deriving DecidableEq, Repr

/-- `io.ReadFull` (and `binary.Read`) of `count` bytes from a stream. -/
def readFull (count : Nat) (stream : List UInt8) : Except ReadError (List UInt8 × List UInt8) :=
  if count ≤ stream.length then .ok (stream.take count, stream.drop count)
  else if stream = [] then .error .eof
  else .error .unexpectedEOF

/-- `readProtoMessage`: the kind, the length, then `length` bytes, each read
returning its error as soon as the stream fails. -/
def readProtoMessage (stream : List UInt8) : Except ReadError (Message × List UInt8) :=
  match readFull 2 stream with
  | .error err => .error err
  | .ok (kind, stream) =>
      match readFull 4 stream with
      | .error err => .error err
      | .ok (length, stream) =>
          match readFull (bigEndian length) stream with
          | .error err => .error err
          | .ok (buf, stream) => .ok ({ kind := (bigEndian kind).toUInt16, buf }, stream)

def readProtoMessages : Nat → List UInt8 → Except ReadError (List Message × List UInt8)
  | 0, stream => .ok ([], stream)
  | count + 1, stream =>
      match readProtoMessage stream with
      | .error err => .error err
      | .ok (msg, stream) =>
          match readProtoMessages count stream with
          | .error err => .error err
          | .ok (msgs, stream) => .ok (msg :: msgs, stream)

/-- A message handed to `sendMessage`: a raw datagram (`[]byte`) or a protobuf message. -/
inductive Outgoing (M : Type)
  | datagram (bytes : List UInt8)
  | proto (message : M)

/-- The protobuf registry, taken as given: `MessageType` of a protobuf message is
its registered kind, which is never `MessageUDPTunnel`, and `proto.Marshal`
may fail. -/
structure Registry (M : Type) where
  messageType : M → UInt16
  marshal : M → Except String (List UInt8)
  messageType_ne_tunnel : ∀ message, messageType message ≠ messageUDPTunnel

variable {M : Type} (registry : Registry M)

/-- `mumbleproto.MessageType`: `MessageUDPTunnel` exactly for a raw datagram. -/
def messageType : Outgoing M → UInt16
  | .datagram _ => messageUDPTunnel
  | .proto message => registry.messageType message

/-- The payload `sendMessage` frames: the datagram itself when the kind is
`MessageUDPTunnel`, the marshalled message otherwise. -/
def serialize : Outgoing M → Except String (List UInt8)
  | .datagram bytes => .ok bytes
  | .proto message => registry.marshal message

/-- The bytes `sendMessage` writes for a kind and a payload. -/
def frame (kind : UInt16) (payload : List UInt8) : List UInt8 :=
  bigEndianBytes 2 kind.toNat ++ bigEndianBytes 4 payload.length ++ payload

def sendMessage (msg : Outgoing M) : Except String (List UInt8) :=
  match serialize registry msg with
  | .error err => .error err
  | .ok msgData => .ok (frame (messageType registry msg) msgData)

@[simp] theorem length_frame (kind : UInt16) (payload : List UInt8) :
    (frame kind payload).length = 6 + payload.length := by
  simp [frame]; omega

theorem readFull_append {count : Nat} {bytes : List UInt8} (rest : List UInt8)
    (length : bytes.length = count) : readFull count (bytes ++ rest) = .ok (bytes, rest) := by
  subst length
  simp [readFull]

theorem readFull_ok {count : Nat} {stream bytes rest : List UInt8}
    (read : readFull count stream = .ok (bytes, rest)) :
    stream = bytes ++ rest ∧ bytes.length = count := by
  unfold readFull at read
  split at read
  · cases read
    exact ⟨(List.take_append_drop _ _).symm, List.length_take_of_le ‹_›⟩
  · split at read <;> cases read

theorem readProtoMessage_frame (kind : UInt16) {payload : List UInt8} (rest : List UInt8)
    (short : payload.length < 2 ^ 32) :
    readProtoMessage (frame kind payload ++ rest) = .ok (⟨kind, payload⟩, rest) := by
  have kindBound : kind.toNat < 256 ^ 2 := kind.toNat_lt_size
  have kindBack : kind.toNat.toUInt16 = kind :=
    UInt16.toNat.inj (UInt16.toNat_ofNat_of_lt kind.toNat_lt_size)
  simp only [readProtoMessage, frame, List.append_assoc, kindBack,
    readFull_append _ (length_bigEndianBytes 2 kind.toNat),
    readFull_append _ (length_bigEndianBytes 4 payload.length),
    bigEndian_bigEndianBytes, Nat.mod_eq_of_lt kindBound,
    Nat.mod_eq_of_lt (show payload.length < 256 ^ 4 from short),
    readFull_append rest rfl]

theorem readProtoMessage_nil : readProtoMessage [] = .error .eof := rfl

theorem readFull_take {field : List UInt8} {count k : Nat} (whole : field.length = count) (inside : k < count) :
    readFull count (field.take k) = .error (if k = 0 then .eof else .unexpectedEOF) := by
  subst whole
  have nonempty : field ≠ [] := List.ne_nil_of_length_pos (by omega)
  rw [readFull, if_neg (by simp; omega)]
  by_cases start : k = 0 <;> simp [start, nonempty]

theorem readProtoMessage_take_frame (kind : UInt16) {payload : List UInt8} (short : payload.length < 2 ^ 32)
    {cut : Nat} (inside : cut < 6 + payload.length) :
    readProtoMessage ((frame kind payload).take cut) =
      .error (if cut = 0 ∨ cut = 2 ∨ cut = 6 then .eof else .unexpectedEOF) := by
  have kindLength := length_bigEndianBytes 2 kind.toNat
  have lengthLength := length_bigEndianBytes 4 payload.length
  have small : payload.length < 256 ^ 4 := short
  unfold frame
  rw [List.append_assoc, List.take_append_eq_append_take, List.take_append_eq_append_take, kindLength,
    lengthLength]
  by_cases inKind : cut < 2
  · rw [Nat.sub_eq_zero_of_le (by omega : cut ≤ 2), List.take_zero, List.take_zero, List.append_nil,
      List.append_nil, readProtoMessage, readFull_take kindLength inKind]
    simp only [show (cut = 0 ∨ cut = 2 ∨ cut = 6) ↔ cut = 0 by omega]
  by_cases inLength : cut < 6
  · rw [Nat.sub_eq_zero_of_le (by omega : cut - 2 ≤ 4), List.take_zero, List.append_nil,
      List.take_of_length_le (by omega : (bigEndianBytes 2 kind.toNat).length ≤ cut),
      readProtoMessage, readFull_append _ kindLength]
    dsimp only
    rw [readFull_take lengthLength (by omega : cut - 2 < 4)]
    simp only [show (cut = 0 ∨ cut = 2 ∨ cut = 6) ↔ cut - 2 = 0 by omega]
  · rw [List.take_of_length_le (by omega : (bigEndianBytes 2 kind.toNat).length ≤ cut),
      List.take_of_length_le (by omega : (bigEndianBytes 4 payload.length).length ≤ cut - 2),
      readProtoMessage, readFull_append _ kindLength]
    dsimp only
    rw [readFull_append _ lengthLength]
    dsimp only
    rw [bigEndian_bigEndianBytes, Nat.mod_eq_of_lt small, readFull_take rfl (by omega : cut - 2 - 4 < payload.length)]
    simp only [show (cut = 0 ∨ cut = 2 ∨ cut = 6) ↔ cut - 2 - 4 = 0 by omega]

theorem readProtoMessage_ok {stream rest : List UInt8} {msg : Message}
    (read : readProtoMessage stream = .ok (msg, rest)) :
    stream = frame msg.kind msg.buf ++ rest := by
  unfold readProtoMessage at read
  split at read
  · cases read
  · rename_i kind afterKind kindRead
    split at read
    · cases read
    · rename_i length afterLength lengthRead
      split at read
      · cases read
      · rename_i buf afterBuf bufRead
        cases read
        obtain ⟨rfl, kindLength⟩ := readFull_ok kindRead
        obtain ⟨rfl, lengthLength⟩ := readFull_ok lengthRead
        obtain ⟨rfl, bufLength⟩ := readFull_ok bufRead
        have kindBound : bigEndian kind < 2 ^ 16 := by
          simpa [bigEndian, kindLength] using littleEndian_lt kind.reverse
        have kindNat : (bigEndian kind).toUInt16.toNat = bigEndian kind :=
          UInt16.toNat_ofNat_of_lt kindBound
        simp only [frame, kindNat, bufLength, List.append_assoc]
        rw [← kindLength, bigEndianBytes_bigEndian, ← lengthLength, bigEndianBytes_bigEndian]

theorem readProtoMessages_frames (entries : List (UInt16 × List UInt8))
    (short : ∀ entry ∈ entries, entry.2.length < 2 ^ 32) (rest : List UInt8) :
    readProtoMessages entries.length ((entries.flatMap fun entry => frame entry.1 entry.2) ++ rest) =
      .ok (entries.map fun entry => ⟨entry.1, entry.2⟩, rest) := by
  induction entries with
  | nil => rfl
  | cons entry entries ih =>
      have tail := ih fun other member => short other (List.mem_cons_of_mem _ member)
      simp only [List.flatMap_cons, List.append_assoc, List.length_cons, readProtoMessages,
        readProtoMessage_frame entry.1 _ (short entry (List.mem_cons_self _ _)), tail, List.map_cons]

/-- A control stream cut at any point, inside its last frame or right before it:
the frames complete before the cut are read back in order, and the read after
them fails with `io.EOF`, the error of a clean end, when the cut falls before
that frame, right after its kind or right after its length, and with
`io.ErrUnexpectedEOF` when it falls inside one of the three fields. -/
theorem readProtoMessages_cut (done : List (UInt16 × List UInt8)) (short : ∀ entry ∈ done, entry.2.length < 2 ^ 32)
    (kind : UInt16) {payload : List UInt8} (shortLast : payload.length < 2 ^ 32) {cut : Nat}
    (inside : cut < 6 + payload.length) :
    readProtoMessages done.length ((done.flatMap fun entry => frame entry.1 entry.2) ++ (frame kind payload).take cut) =
        .ok (done.map fun entry => ⟨entry.1, entry.2⟩, (frame kind payload).take cut) ∧
      readProtoMessage ((frame kind payload).take cut) =
        .error (if cut = 0 ∨ cut = 2 ∨ cut = 6 then .eof else .unexpectedEOF) :=
  ⟨readProtoMessages_frames done short _, readProtoMessage_take_frame kind shortLast inside⟩

/-- A frame of kind 1 read whole, then a stream that ends right after the next
frame's kind: the second read reports `io.EOF`. -/
theorem readProtoMessages_cut_after_kind :
    (∀ entry ∈ [((1 : UInt16), [(5 : UInt8)])], entry.2.length < 2 ^ 32) ∧ [(7 : UInt8), 7].length < 2 ^ 32 ∧
      2 < 6 + [(7 : UInt8), 7].length ∧
      readProtoMessages [((1 : UInt16), [(5 : UInt8)])].length
          (([((1 : UInt16), [(5 : UInt8)])].flatMap fun entry => frame entry.1 entry.2) ++ (frame 2 [7, 7]).take 2) =
        .ok ([((1 : UInt16), [(5 : UInt8)])].map fun entry => ⟨entry.1, entry.2⟩, (frame 2 [7, 7]).take 2) ∧
      readProtoMessage ((frame 2 [7, 7]).take 2) =
        .error (if 2 = 0 ∨ 2 = 2 ∨ 2 = 6 then .eof else .unexpectedEOF) :=
  have short : ∀ entry ∈ [((1 : UInt16), [(5 : UInt8)])], entry.2.length < 2 ^ 32 := by simp
  ⟨short, by decide, by decide, readProtoMessages_cut [((1 : UInt16), [(5 : UInt8)])] short 2 (by decide) (by decide)⟩

theorem readProtoMessages_frames_eof (entries : List (UInt16 × List UInt8))
    (short : ∀ entry ∈ entries, entry.2.length < 2 ^ 32) :
    readProtoMessages (entries.length + 1) (entries.flatMap fun entry => frame entry.1 entry.2) = .error .eof := by
  induction entries with
  | nil => rfl
  | cons entry entries ih =>
      have tail := ih fun other member => short other (List.mem_cons_of_mem _ member)
      rw [List.flatMap_cons, List.length_cons, readProtoMessages,
        readProtoMessage_frame entry.1 _ (short entry (List.mem_cons_self _ _))]
      dsimp only
      rw [tail]

theorem sendMessage_proto (message : M) :
    sendMessage registry (.proto message) = (registry.marshal message).map (frame (registry.messageType message)) := by
  cases marshalled : registry.marshal message <;> simp [sendMessage, serialize, marshalled, Except.map, messageType]

/-- The control channel's framing round trip: a datagram is framed verbatim as
`MessageUDPTunnel`, a protobuf message as its registered kind and what
`proto.Marshal` returned; the frames `sendMessage` writes for any messages,
concatenated, are read back by successive `readProtoMessage` calls as those
kinds and payloads, and the call after the last one meets `io.EOF`; every frame
`readProtoMessage` accepts is `6 + length` bytes that `sendMessage`'s framing of
its kind and payload reproduces. -/
theorem sendMessage_readProtoMessage_roundTrip :
    (∀ bytes, sendMessage registry (.datagram bytes) = .ok (frame messageUDPTunnel bytes)) ∧
    (∀ message, sendMessage registry (.proto message) =
      (registry.marshal message).map (frame (registry.messageType message))) ∧
    (∀ sent : List (Outgoing M × List UInt8),
      (∀ entry ∈ sent, (entry.1 = .datagram entry.2 ∨
          ∃ message, entry.1 = .proto message ∧ registry.marshal message = .ok entry.2) ∧
        entry.2.length < 2 ^ 32) →
      ∃ written : List (List UInt8),
        List.Forall₂ (fun entry bytes => sendMessage registry entry.1 = .ok bytes) sent written ∧
        readProtoMessages sent.length written.flatten =
          .ok (sent.map fun entry => ⟨messageType registry entry.1, entry.2⟩, []) ∧
        readProtoMessages (sent.length + 1) written.flatten = .error .eof) ∧
    (∀ stream rest msg, readProtoMessage stream = .ok (msg, rest) →
      stream = frame msg.kind msg.buf ++ rest ∧
        (frame msg.kind msg.buf).length = 6 + msg.buf.length) := by
  refine ⟨fun _ => rfl, sendMessage_proto registry, fun sent payloads => ?_,
    fun stream rest msg read => ⟨readProtoMessage_ok read, length_frame _ _⟩⟩
  have sends : ∀ entry ∈ sent, sendMessage registry entry.1 = .ok (frame (messageType registry entry.1) entry.2) := by
    intro entry member
    rcases (payloads entry member).1 with datagram | ⟨message, proto, marshalled⟩
    · rw [datagram]; rfl
    · rw [proto, sendMessage_proto, marshalled]; rfl
  have short : ∀ entry ∈ sent.map (fun entry => (messageType registry entry.1, entry.2)), entry.2.length < 2 ^ 32 := by
    intro entry member
    obtain ⟨original, originalMember, rfl⟩ := List.mem_map.mp member
    exact (payloads original originalMember).2
  have written : List.Forall₂ (fun entry bytes => sendMessage registry entry.1 = .ok bytes) sent
      (sent.map fun entry => frame (messageType registry entry.1) entry.2) :=
    List.forall₂_map_right_iff.mpr (List.forall₂_same.mpr sends)
  refine ⟨_, written, ?_, ?_⟩
  · simpa [List.flatMap_map] using readProtoMessages_frames _ short []
  · simpa [List.flatMap_map] using readProtoMessages_frames_eof _ short

end Grumble.Client
