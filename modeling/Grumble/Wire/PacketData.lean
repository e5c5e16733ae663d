import Grumble.Wire.Bytes

namespace Grumble.Wire

/-! # The packet data cursor

The UDP codec reads and writes legacy datagrams through `packetdata.PacketData`,
a package that is not among the repository's sources.  It is modelled from the
spec (§4.a): a cursor over a byte buffer whose `Size` counts the bytes consumed,
whose `Left` counts those remaining, and whose validity flag an overrun clears
silently, leaving the cursor where it was.  Its integers are the varints of the
legacy voice framing (§4.b, "a varint sender session, a varint frame counter"),
encoded as Mumble encodes them: the leading bits of the first byte give the
number of bytes that follow.
-/

/-- Modelled from the spec: `packetdata.PacketData`, a cursor over `buf` that has
consumed `offset` bytes; `ok` is the validity flag. -/
structure PacketData where
  buf : List UInt8
  offset : Nat
  ok : Bool
  offset_le : offset ≤ buf.length

namespace PacketData

def new (buf : List UInt8) : PacketData := ⟨buf, 0, true, Nat.zero_le _⟩

def isValid (pd : PacketData) : Bool := pd.ok

def size (pd : PacketData) : Nat := pd.offset

def left (pd : PacketData) : Nat := pd.buf.length - pd.offset

def rest (pd : PacketData) : List UInt8 := pd.buf.drop pd.offset

theorem length_rest (pd : PacketData) : pd.rest.length = pd.left := List.length_drop _ _

def invalidate (pd : PacketData) : PacketData := { pd with ok := false }

/-- The cursor moved forward by `count ≤ left` bytes, or invalidated when
`count` bytes do not remain. -/
def skip (pd : PacketData) (count : Nat) : PacketData :=
  if within : count ≤ pd.left then
    { pd with offset := pd.offset + count,
              offset_le := by have := pd.offset_le; unfold left at within; omega }
  else pd.invalidate

/-- `Next8`: the next byte, or `0` and an invalid cursor at the end. -/
def next8 (pd : PacketData) : UInt8 × PacketData :=
  if h : pd.offset < pd.buf.length then (pd.buf[pd.offset], pd.skip 1) else (0, pd.invalidate)

/-- `count` successive `next` calls combined big-endian, as the varint reader
does: bytes past the end read as `0`.  Returns the value, the bytes consumed and
whether all were there. -/
def readBigEndian (count : Nat) (bytes : List UInt8) : Nat × Nat × Bool :=
  (bigEndian (bytes.take count) * 256 ^ (count - bytes.length), min count bytes.length,
    decide (count ≤ bytes.length))

/-- The varint at the start of `bytes` (`getVarint`): its value, the bytes it
consumes and whether they were all there.  The cases are Mumble's, by the
leading bits of the first byte: `0xxxxxxx` is the value itself, `10`, `110` and
`1110` take one, two and three more bytes, `111100xx` and `111101xx` a 32-bit
and a 64-bit value, `111110xx` the complement of the varint after it and
`111111xx` the complement of its low two bits. -/
def varint : List UInt8 → Nat × Nat × Bool
  | [] => (0, 0, false)
  | byte :: bytes =>
      let v := byte.toNat
      if v < 0x80 then (v, 1, true)
      else if v < 0xC0 then
        let r := readBigEndian 1 bytes; (v % 0x40 * 0x100 + r.1, r.2.1 + 1, r.2.2)
      else if v < 0xE0 then
        let r := readBigEndian 2 bytes; (v % 0x20 * 0x10000 + r.1, r.2.1 + 1, r.2.2)
      else if v < 0xF0 then
        let r := readBigEndian 3 bytes; (v % 0x10 * 0x1000000 + r.1, r.2.1 + 1, r.2.2)
      else if v < 0xF4 then
        let r := readBigEndian 4 bytes; (r.1, r.2.1 + 1, r.2.2)
      else if v < 0xF8 then
        let r := readBigEndian 8 bytes; (r.1, r.2.1 + 1, r.2.2)
      else if v < 0xFC then
        let r := varint bytes; (2 ^ 64 - 1 - r.1 % 2 ^ 64, r.2.1 + 1, r.2.2)
      else (2 ^ 64 - 1 - v % 4, 1, true)

theorem readBigEndian_used_le (count : Nat) (bytes : List UInt8) :
    (readBigEndian count bytes).2.1 ≤ bytes.length := Nat.min_le_right _ _

theorem used_ite_le {c : Prop} [Decidable c] {a b : Nat × Nat × Bool} {n : Nat}
    (bounded : a.2.1 ≤ n) (bounded' : b.2.1 ≤ n) : (if c then a else b).2.1 ≤ n := by
  split <;> assumption

theorem varint_used_le : ∀ bytes : List UInt8, (varint bytes).2.1 ≤ bytes.length
  | [] => Nat.le_refl _
  | byte :: bytes => by
      unfold varint
      repeat' refine used_ite_le ?_ ?_
      all_goals first
        | exact Nat.succ_le_succ (readBigEndian_used_le _ bytes)
        | exact Nat.succ_le_succ (varint_used_le bytes)
        | exact Nat.le_add_left 1 _

/-- `getVarint`, through which `GetUint64`, `GetUint32` and `GetUint16` read. -/
def getVarint (pd : PacketData) : UInt64 × PacketData :=
  ((varint pd.rest).1.toUInt64,
    { pd with offset := pd.offset + (varint pd.rest).2.1, ok := pd.ok && (varint pd.rest).2.2,
              offset_le := by
                have used := varint_used_le pd.rest
                have remaining := pd.length_rest
                have := pd.offset_le
                unfold left at remaining
                omega })

def getUint64 (pd : PacketData) : UInt64 × PacketData := pd.getVarint

/-- `GetUint16`: the varint truncated to 16 bits. -/
def getUint16 (pd : PacketData) : UInt16 × PacketData :=
  ((pd.getVarint).1.toUInt16, (pd.getVarint).2)

/-- `GetFloat32`: the bits of the next four bytes (little-endian, §4.a), or `0`
and an invalid cursor when fewer remain. -/
def getFloat32 (pd : PacketData) : UInt32 × PacketData :=
  if pd.left < 4 then (0, pd.invalidate)
  else ((littleEndian (pd.rest.take 4)).toUInt32, pd.skip 4)

/-- `append`: write one byte at the cursor, or invalidate it when the buffer is full. -/
def appendByte (pd : PacketData) (byte : UInt8) : PacketData :=
  if h : pd.offset < pd.buf.length then
    { buf := pd.buf.set pd.offset byte, offset := pd.offset + 1, ok := pd.ok,
      offset_le := by simpa using h }
  else pd.invalidate

def appendBytes (pd : PacketData) (bytes : List UInt8) : PacketData :=
  bytes.foldl appendByte pd

/-- The varint `addVarint` writes for a 32-bit value: the signed and 64-bit forms
of the encoding never apply to one. -/
def varintBytes (value : Nat) : List UInt8 :=
  if value < 0x80 then [value.toUInt8]
  else if value < 0x4000 then [(value / 0x100 + 0x80).toUInt8, (value % 0x100).toUInt8]
  else if value < 0x200000 then
    [(value / 0x10000 + 0xC0).toUInt8, (value / 0x100 % 0x100).toUInt8, (value % 0x100).toUInt8]
  else if value < 0x10000000 then
    [(value / 0x1000000 + 0xE0).toUInt8, (value / 0x10000 % 0x100).toUInt8,
      (value / 0x100 % 0x100).toUInt8, (value % 0x100).toUInt8]
  else 0xF0 :: bigEndianBytes 4 value

def putUint32 (pd : PacketData) (value : UInt32) : PacketData :=
  pd.appendBytes (varintBytes value.toNat)

/-- `CopyBytes` on the writing cursor: append raw bytes (§4.a), all of them or,
when they do not fit, none and an invalid cursor. -/
def copyBytes (pd : PacketData) (bytes : List UInt8) : PacketData :=
  if bytes.length ≤ pd.left then pd.appendBytes bytes else pd.invalidate

theorem left_skip_le (pd : PacketData) (count : Nat) : (pd.skip count).left ≤ pd.left := by
  unfold skip
  split
  · simp only [left]; omega
  · exact Nat.le_refl _

theorem left_next8_lt {pd : PacketData} (read : pd.next8.1 ≠ 0) : pd.next8.2.left < pd.left := by
  unfold next8 at read ⊢
  split
  · have := pd.left_skip_le 1
    simp only [skip, left] at this ⊢
    split <;> simp_all <;> omega
  · simp_all

@[simp] theorem buf_skip (pd : PacketData) (count : Nat) : (pd.skip count).buf = pd.buf := by
  unfold skip; split <;> rfl

@[simp] theorem buf_next8 (pd : PacketData) : pd.next8.2.buf = pd.buf := by
  unfold next8; split <;> simp [invalidate]

theorem skip_valid {pd : PacketData} {count : Nat} (valid : (pd.skip count).isValid = true) :
    pd.isValid = true ∧ (pd.skip count).offset = pd.offset + count := by
  unfold skip at valid ⊢
  split at valid
  · rw [dif_pos ‹_›]; exact ⟨valid, rfl⟩
  · simp [invalidate, isValid] at valid

theorem next8_skip_valid {pd : PacketData} {count : Nat} (valid : (pd.next8.2.skip count).isValid = true) :
    pd.isValid = true ∧ (pd.next8.2.skip count).offset = pd.offset + 1 + count := by
  obtain ⟨read, skipped⟩ := skip_valid valid
  by_cases inside : pd.offset < pd.buf.length
  · have next : pd.next8.2 = pd.skip 1 := by simp [next8, inside]
    rw [next] at read skipped ⊢
    obtain ⟨start, moved⟩ := skip_valid read
    exact ⟨start, by rw [skipped, moved]⟩
  · have next : pd.next8.2 = pd.invalidate := by simp [next8, inside]
    rw [next] at read
    simp [invalidate, isValid] at read

theorem rest_skip {pd : PacketData} {count : Nat} (valid : (pd.skip count).isValid = true) :
    (pd.skip count).rest = pd.rest.drop count := by
  simp only [rest, (skip_valid valid).2, buf_skip, List.drop_drop, Nat.add_comm]

theorem rest_next8_skip {pd : PacketData} {count : Nat} (valid : (pd.next8.2.skip count).isValid = true) :
    ∃ frame : List UInt8, frame.length = count ∧
      pd.rest = pd.next8.1 :: (frame ++ (pd.next8.2.skip count).rest) := by
  have fits := (pd.next8.2.skip count).offset_le
  rw [(next8_skip_valid valid).2, buf_skip, buf_next8] at fits
  have inside : pd.offset < pd.buf.length := by omega
  have next : pd.next8 = (pd.buf[pd.offset], pd.skip 1) := by simp [next8, inside]
  refine ⟨(pd.rest.drop 1).take count, ?_, ?_⟩
  · simp only [List.length_take, length_rest, List.length_drop, left]; omega
  · rw [rest_skip valid, next, rest_skip (skip_valid (by rwa [next] at valid)).1, List.take_append_drop]
    show pd.buf.drop pd.offset = pd.buf[pd.offset] :: (pd.buf.drop pd.offset).drop 1
    rw [List.drop_drop]
    exact List.drop_eq_getElem_cons inside

theorem take_succ_set {l : List UInt8} {n : Nat} {a : UInt8} (inside : n < l.length) :
    (l.set n a).take (n + 1) = l.take n ++ [a] := by
  have short : (l.take n).length = n := List.length_take_of_le inside.le
  rw [List.set_eq_take_append_cons_drop, if_pos inside, List.take_append_eq_append_take, short,
    List.take_of_length_le (by omega), Nat.add_sub_cancel_left]
  rfl

theorem appendBytes_fits : ∀ (bytes : List UInt8) (pd : PacketData), pd.offset + bytes.length ≤ pd.buf.length →
    (pd.appendBytes bytes).buf.take (pd.appendBytes bytes).offset = pd.buf.take pd.offset ++ bytes ∧
      (pd.appendBytes bytes).offset = pd.offset + bytes.length ∧
      (pd.appendBytes bytes).buf.length = pd.buf.length ∧ (pd.appendBytes bytes).ok = pd.ok
  | [], pd, _ => by simp [appendBytes]
  | byte :: bytes, pd, fits => by
      have inside : pd.offset < pd.buf.length := by simp at fits; omega
      have written : pd.appendByte byte =
          ⟨pd.buf.set pd.offset byte, pd.offset + 1, pd.ok, by simpa using inside⟩ := dif_pos inside
      obtain ⟨front, moved, length, ok⟩ := appendBytes_fits bytes (pd.appendByte byte)
        (by rw [written]; simp at fits ⊢; omega)
      have step : pd.appendBytes (byte :: bytes) = (pd.appendByte byte).appendBytes bytes := rfl
      rw [step]
      refine ⟨?_, ?_, ?_, ?_⟩
      · rw [front, written]; simp [take_succ_set inside]
      · rw [moved, written]; simp; omega
      · rw [length, written]; simp
      · rw [ok, written]

theorem readBigEndian_append (bytes : List UInt8) {count : Nat} (exact : bytes.length = count) (rest : List UInt8) :
    readBigEndian count (bytes ++ rest) = (bigEndian bytes, count, true) := by
  subst exact
  simp [readBigEndian]

theorem toNat_toUInt8_of_lt {value : Nat} (small : value < 256) : value.toUInt8.toNat = value :=
  UInt8.toNat_ofNat_of_lt small

theorem varint_varintBytes {value : Nat} (small : value < 2 ^ 32) (rest : List UInt8) :
    varint (varintBytes value ++ rest) = (value, (varintBytes value).length, true) := by
  unfold varintBytes
  split_ifs with one two three four
  · simp [varint, toNat_toUInt8_of_lt (show value < 256 by omega), one]
  · have lead := toNat_toUInt8_of_lt (show value / 0x100 + 0x80 < 256 by omega)
    have tail : readBigEndian 1 ((value % 0x100).toUInt8 :: rest) = (value % 0x100, 1, true) := by
      simpa [bigEndian, littleEndian, toNat_toUInt8_mod] using
        readBigEndian_append [(value % 0x100).toUInt8] rfl rest
    show varint ((value / 0x100 + 0x80).toUInt8 :: (value % 0x100).toUInt8 :: rest) = (value, 2, true)
    rw [varint]
    dsimp only
    rw [lead, if_neg (by omega), if_pos (by omega), tail]
    simp only [Prod.mk.injEq, and_true]
    omega
  · have lead := toNat_toUInt8_of_lt (show value / 0x10000 + 0xC0 < 256 by omega)
    have tail : readBigEndian 2 ((value / 0x100 % 0x100).toUInt8 :: (value % 0x100).toUInt8 :: rest) =
        (value % 0x100 + 0x100 * (value / 0x100 % 0x100), 2, true) := by
      simpa [bigEndian, littleEndian, toNat_toUInt8_mod] using
        readBigEndian_append [(value / 0x100 % 0x100).toUInt8, (value % 0x100).toUInt8] rfl rest
    show varint ((value / 0x10000 + 0xC0).toUInt8 :: (value / 0x100 % 0x100).toUInt8 ::
      (value % 0x100).toUInt8 :: rest) = (value, 3, true)
    rw [varint]
    dsimp only
    rw [lead, if_neg (by omega), if_neg (by omega), if_pos (by omega), tail]
    simp only [Prod.mk.injEq, and_true]
    omega
  · have lead := toNat_toUInt8_of_lt (show value / 0x1000000 + 0xE0 < 256 by omega)
    have tail : readBigEndian 3 ((value / 0x10000 % 0x100).toUInt8 :: (value / 0x100 % 0x100).toUInt8 ::
          (value % 0x100).toUInt8 :: rest) =
        (value % 0x100 + 0x100 * (value / 0x100 % 0x100 + 0x100 * (value / 0x10000 % 0x100)), 3, true) := by
      simpa [bigEndian, littleEndian, toNat_toUInt8_mod] using
        readBigEndian_append [(value / 0x10000 % 0x100).toUInt8, (value / 0x100 % 0x100).toUInt8,
          (value % 0x100).toUInt8] rfl rest
    show varint ((value / 0x1000000 + 0xE0).toUInt8 :: (value / 0x10000 % 0x100).toUInt8 ::
      (value / 0x100 % 0x100).toUInt8 :: (value % 0x100).toUInt8 :: rest) = (value, 4, true)
    rw [varint]
    dsimp only
    rw [lead, if_neg (by omega), if_neg (by omega), if_neg (by omega), if_pos (by omega), tail]
    simp only [Prod.mk.injEq, and_true]
    omega
  · have lead : (0xF0 : UInt8).toNat = 0xF0 := rfl
    have tail := readBigEndian_append _ (length_bigEndianBytes 4 value) rest
    rw [bigEndian_bigEndianBytes, Nat.mod_eq_of_lt (show value < 256 ^ 4 by omega)] at tail
    show varint (0xF0 :: (bigEndianBytes 4 value ++ rest)) = (value, (bigEndianBytes 4 value).length + 1, true)
    rw [varint]
    dsimp only
    rw [lead, if_neg (by decide), if_neg (by decide), if_neg (by decide), if_neg (by decide),
      if_pos (by decide), tail, length_bigEndianBytes]

theorem length_varintBytes (value : Nat) :
    0 < (varintBytes value).length ∧ (varintBytes value).length ≤ 5 := by
  unfold varintBytes
  split_ifs <;> simp

theorem appendBytes_append (pd : PacketData) (first second : List UInt8) :
    pd.appendBytes (first ++ second) = (pd.appendBytes first).appendBytes second :=
  List.foldl_append _ _ _ _

theorem toNat_toUInt16_toUInt64 {value : Nat} (small : value < 2 ^ 16) : value.toUInt64.toUInt16.toNat = value := by
  show (UInt16.ofNat (UInt64.ofNat value).toNat).toNat = value
  rw [UInt64.toNat_ofNat_of_lt (show value < UInt64.size by unfold UInt64.size; omega),
    UInt16.toNat_ofNat_of_lt small]

theorem getVarint_varintBytes (pd : PacketData) (rest : List UInt8) {value : Nat} (small : value < 2 ^ 32)
    (reads : pd.rest = varintBytes value ++ rest) :
    pd.getVarint.1 = value.toUInt64 ∧ pd.getVarint.2.offset = pd.offset + (varintBytes value).length ∧
      pd.getVarint.2.ok = pd.ok ∧ pd.getVarint.2.buf = pd.buf := by
  simp [getVarint, reads, varint_varintBytes small]

end PacketData

end Grumble.Wire
