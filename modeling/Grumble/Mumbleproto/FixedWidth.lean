import Grumble.Mumbleproto.Packet

namespace Grumble.Mumbleproto

open Wire

/-! # A codec that meets the laws

The results about the length-delimited framing hold for every `ProtoCodec`
whose `Unmarshal` reads back what its `Marshal` wrote. This module builds one,
so that those results are about codecs that exist and can be run on concrete
datagrams. It writes every scalar field at a fixed width, little-endian, and a
repeated field as its elements, each behind a marker byte, then an end byte.
It is not the protobuf wire format: nothing proved here depends on that format.
-/

def readFixed (width : Nat) (bytes : List UInt8) : Option (Nat × List UInt8) :=
  if width ≤ bytes.length then some (littleEndian (bytes.take width), bytes.drop width) else none

theorem readFixed_littleEndianBytes (width value : Nat) (rest : List UInt8) :
    readFixed width (littleEndianBytes width value ++ rest) = some (value % 256 ^ width, rest) := by
  have size := length_littleEndianBytes width value
  rw [readFixed, if_pos (by simp only [List.length_append, size]; omega), List.take_left' size,
    List.drop_left' size, littleEndian_littleEndianBytes]

@[simp] theorem readFixed_uint32 (value : UInt32) (rest : List UInt8) :
    readFixed 4 (littleEndianBytes 4 value.toNat ++ rest) = some (value.toNat, rest) := by
  have small : value.toNat < 256 ^ 4 := value.toNat_lt_size
  rw [readFixed_littleEndianBytes, Nat.mod_eq_of_lt small]

@[simp] theorem readFixed_uint64 (value : UInt64) (rest : List UInt8) :
    readFixed 8 (littleEndianBytes 8 value.toNat ++ rest) = some (value.toNat, rest) := by
  have small : value.toNat < 256 ^ 8 := value.toNat_lt_size
  rw [readFixed_littleEndianBytes, Nat.mod_eq_of_lt small]

@[simp] theorem readFixed_bool (flag : Bool) (rest : List UInt8) :
    readFixed 1 (littleEndianBytes 1 flag.toNat ++ rest) = some (flag.toNat, rest) := by
  rw [readFixed_littleEndianBytes, Nat.mod_eq_of_lt (by cases flag <;> decide)]

@[simp] theorem toUInt32_toNat (value : UInt32) : value.toNat.toUInt32 = value :=
  UInt32.toNat.inj (UInt32.toNat_ofNat_of_lt value.toNat_lt_size)

@[simp] theorem toUInt64_toNat (value : UInt64) : value.toNat.toUInt64 = value :=
  UInt64.toNat.inj (UInt64.toNat_ofNat_of_lt value.toNat_lt_size)

theorem toNat_toUInt64_of_lt {value : Nat} (small : value < 256 ^ 8) : value.toUInt64.toNat = value :=
  UInt64.toNat_ofNat_of_lt small

@[simp] theorem toNat_beq_one (flag : Bool) : (flag.toNat == 1) = flag := by
  cases flag <;> rfl

def marshalPing (ping : PingUDP) : List UInt8 :=
  littleEndianBytes 8 ping.timestamp.toNat ++ littleEndianBytes 1 ping.requestExtendedInformation.toNat

def unmarshalPing (bytes : List UInt8) : Option PingUDP := do
  let (timestamp, bytes) ← readFixed 8 bytes
  let (flag, _) ← readFixed 1 bytes
  pure { timestamp := timestamp.toUInt64, requestExtendedInformation := flag == 1 }

theorem unmarshalPing_marshalPing (ping : PingUDP) : unmarshalPing (marshalPing ping) = some ping := by
  have flag := readFixed_bool ping.requestExtendedInformation []
  rw [List.append_nil] at flag
  simp [unmarshalPing, marshalPing, flag]

/-- The `Header` oneof: a tag byte, then the value for a target or a context. -/
def marshalHeader : AudioHeader → List UInt8
  | .none => [0]
  | .target value => 1 :: littleEndianBytes 4 value.toNat
  | .context value => 2 :: littleEndianBytes 4 value.toNat

def unmarshalHeader : List UInt8 → Option (AudioHeader × List UInt8)
  | [] => none
  | tag :: rest =>
      if tag = 0 then some (.none, rest)
      else (readFixed 4 rest).bind fun (value, rest) =>
        if tag = 1 then some (.target value.toUInt32, rest)
        else if tag = 2 then some (.context value.toUInt32, rest)
        else none

theorem unmarshalHeader_marshalHeader (header : AudioHeader) (rest : List UInt8) :
    unmarshalHeader (marshalHeader header ++ rest) = some (header, rest) := by
  cases header <;> simp [marshalHeader, unmarshalHeader]

def marshalWords : List UInt32 → List UInt8
  | [] => [0]
  | word :: words => 1 :: (littleEndianBytes 4 word.toNat ++ marshalWords words)

def unmarshalWords : List UInt8 → Option (List UInt32 × List UInt8)
  | [] => none
  | more :: rest =>
      if more = 0 then some ([], rest)
      else match rest with
        | a :: b :: c :: d :: rest =>
            (unmarshalWords rest).map fun (words, rest) => ((littleEndian [a, b, c, d]).toUInt32 :: words, rest)
        | _ => none

theorem unmarshalWords_marshalWords (words : List UInt32) (rest : List UInt8) :
    unmarshalWords (marshalWords words ++ rest) = some (words, rest) := by
  induction words with
  | nil => unfold unmarshalWords; simp [marshalWords]
  | cons word words ih =>
      obtain ⟨a, b, c, d, bytes⟩ : ∃ a b c d, littleEndianBytes 4 word.toNat = [a, b, c, d] :=
        ⟨_, _, _, _, rfl⟩
      have value : littleEndian [a, b, c, d] = word.toNat := by
        rw [← bytes, littleEndian_littleEndianBytes,
          Nat.mod_eq_of_lt (show word.toNat < 256 ^ 4 from word.toNat_lt_size)]
      rw [marshalWords, List.cons_append, bytes]
      simp [unmarshalWords, ih, value]

def marshalAudio (audio : AudioUDP) : List UInt8 :=
  marshalHeader audio.header ++ (littleEndianBytes 4 audio.senderSession.toNat ++
    (littleEndianBytes 8 audio.frameNumber.toNat ++ (littleEndianBytes 1 audio.isTerminator.toNat ++
      (marshalWords audio.positionalData ++ audio.opusData))))

def unmarshalAudio (bytes : List UInt8) : Option AudioUDP := do
  let (header, bytes) ← unmarshalHeader bytes
  let (senderSession, bytes) ← readFixed 4 bytes
  let (frameNumber, bytes) ← readFixed 8 bytes
  let (isTerminator, bytes) ← readFixed 1 bytes
  let (positionalData, opusData) ← unmarshalWords bytes
  pure { header, senderSession := senderSession.toUInt32, frameNumber := frameNumber.toUInt64,
         opusData, positionalData, isTerminator := isTerminator == 1 }

theorem unmarshalAudio_marshalAudio (audio : AudioUDP) : unmarshalAudio (marshalAudio audio) = some audio := by
  simp [unmarshalAudio, marshalAudio, unmarshalHeader_marshalHeader, unmarshalWords_marshalWords]

def fixedWidthCodec : ProtoCodec where
  ping := ⟨marshalPing, unmarshalPing, unmarshalPing_marshalPing⟩
  audio := ⟨marshalAudio, unmarshalAudio, unmarshalAudio_marshalAudio⟩

end Grumble.Mumbleproto
