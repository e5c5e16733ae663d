import Mathlib

namespace Grumble

/-! # Byte slices, fixed-width integers and Go run-time panics

A Go `[]byte` is the bytes it holds and the rest of its backing array up to its
capacity: a slice expression may reach past the length as far as the capacity,
and past the capacity it is the run-time panic `slice bounds out of range`.
The buffers the server reads from a connection are exactly their length long;
a buffer cut out of a larger `make` keeps the rest as capacity.  The
fixed-width encodings are those of `encoding/binary`.
-/

/-- The run-time panics of Go that the modelled code can raise. -/
inductive RuntimePanic
  | sliceBoundsOutOfRange
  | closeOfNilChannel
  | closeOfClosedChannel
  | sendOnClosedChannel
  | nilPointerDereference
deriving DecidableEq, Repr

/-- A Go `[]byte`: the bytes up to its length, and the `spare` bytes of its
backing array after them, up to its capacity. -/
structure GoSlice where
  bytes : List UInt8
  spare : List UInt8
deriving DecidableEq, Repr

/-- A buffer allocated at exactly its length. -/
@[coe] def GoSlice.exact (bytes : List UInt8) : GoSlice := ⟨bytes, []⟩

instance : Coe (List UInt8) GoSlice := ⟨GoSlice.exact⟩

@[simp] theorem GoSlice.exact_bytes (bytes : List UInt8) : (GoSlice.exact bytes).bytes = bytes := rfl
@[simp] theorem GoSlice.exact_spare (bytes : List UInt8) : (GoSlice.exact bytes).spare = [] := rfl

def GoSlice.cap (s : GoSlice) : Nat := s.bytes.length + s.spare.length

/-- Go's slice expression `s[low:high]`, bounded by the capacity: the result
keeps the rest of the backing array as its own capacity. -/
def slice (s : GoSlice) (low high : Nat) : Except RuntimePanic GoSlice :=
  if low ≤ high ∧ high ≤ s.cap then
    .ok ⟨((s.bytes ++ s.spare).drop low).take (high - low), (s.bytes ++ s.spare).drop high⟩
  else .error .sliceBoundsOutOfRange

theorem bind_eq_error {ε α β : Type} {x : Except ε α} {f : α → Except ε β} {e : ε}
    (failed : x >>= f = .error e) : x = .error e ∨ ∃ a, x = .ok a ∧ f a = .error e := by
  cases x with
  | error e' => exact .inl (by cases failed; rfl)
  | ok a => exact .inr ⟨a, rfl, failed⟩

theorem bind_eq_ok {ε α β : Type} {x : Except ε α} {f : α → Except ε β} {b : β}
    (succeeded : x >>= f = .ok b) : ∃ a, x = .ok a ∧ f a = .ok b := by
  cases x with
  | error e => cases succeeded
  | ok a => exact ⟨a, rfl, succeeded⟩

theorem slice_eq_ok {s : GoSlice} {low high : Nat} (bounded : low ≤ high ∧ high ≤ s.cap) :
    slice s low high = .ok ⟨((s.bytes ++ s.spare).drop low).take (high - low), (s.bytes ++ s.spare).drop high⟩ :=
  if_pos bounded

theorem slice_eq_error {s : GoSlice} {low high : Nat} (outside : s.cap < high) :
    slice s low high = .error .sliceBoundsOutOfRange := if_neg (by omega)

/-- The number a little-endian byte string denotes (`binary.LittleEndian.Uint32`
and `Uint64` on a string of four or eight bytes). -/
def littleEndian : List UInt8 → Nat
  | [] => 0
  | byte :: rest => byte.toNat + 256 * littleEndian rest

/-- The `width` little-endian bytes of `value` (`binary.LittleEndian.AppendUint32`
and `AppendUint64`, `binary.Write` in little-endian order). -/
def littleEndianBytes : Nat → Nat → List UInt8
  | 0, _ => []
  | width + 1, value => (value % 256).toUInt8 :: littleEndianBytes width (value / 256)

/-- The number a big-endian byte string denotes (`binary.Read` with `binary.BigEndian`). -/
def bigEndian (bytes : List UInt8) : Nat := littleEndian bytes.reverse

/-- The `width` big-endian bytes of `value` (`binary.Write` with `binary.BigEndian`). -/
def bigEndianBytes (width value : Nat) : List UInt8 := (littleEndianBytes width value).reverse

@[simp] theorem length_littleEndianBytes (width value : Nat) :
    (littleEndianBytes width value).length = width := by
  induction width generalizing value with
  | zero => rfl
  | succ width ih => simp [littleEndianBytes, ih]

@[simp] theorem length_bigEndianBytes (width value : Nat) :
    (bigEndianBytes width value).length = width := by
  simp [bigEndianBytes]

theorem toNat_toUInt8_mod (value : Nat) : (value % 256).toUInt8.toNat = value % 256 :=
  UInt8.toNat_ofNat_of_lt (Nat.mod_lt _ (by decide))

theorem littleEndian_littleEndianBytes (width value : Nat) :
    littleEndian (littleEndianBytes width value) = value % 256 ^ width := by
  induction width generalizing value with
  | zero => simp [littleEndian, littleEndianBytes, Nat.mod_one]
  | succ width ih =>
      simp only [littleEndianBytes, littleEndian, toNat_toUInt8_mod, ih, Nat.pow_succ]
      rw [Nat.mul_comm (256 ^ width) 256, Nat.mod_mul]

theorem bigEndian_bigEndianBytes (width value : Nat) :
    bigEndian (bigEndianBytes width value) = value % 256 ^ width := by
  simp [bigEndian, bigEndianBytes, littleEndian_littleEndianBytes]

theorem littleEndian_eq_zero : ∀ {bytes : List UInt8}, littleEndian bytes = 0 → ∀ b ∈ bytes, b = 0
  | [], _, _, member => nomatch member
  | byte :: rest, zero, b, member => by
      simp only [littleEndian] at zero
      rcases List.mem_cons.mp member with rfl | inside
      · exact UInt8.toNat.inj (by simpa using (by omega : b.toNat = 0))
      · exact littleEndian_eq_zero (by omega) b inside

theorem littleEndian_lt (bytes : List UInt8) : littleEndian bytes < 256 ^ bytes.length := by
  induction bytes with
  | nil => simp [littleEndian]
  | cons byte rest ih =>
      have byteBound : byte.toNat < 256 := byte.toNat_lt_size
      simp only [littleEndian, List.length_cons, Nat.pow_succ]
      have : 256 * littleEndian rest + 256 ≤ 256 * 256 ^ rest.length := by
        rw [← Nat.mul_succ]; exact Nat.mul_le_mul_left _ ih
      rw [Nat.mul_comm (256 ^ rest.length)]
      omega

theorem littleEndianBytes_littleEndian (bytes : List UInt8) :
    littleEndianBytes bytes.length (littleEndian bytes) = bytes := by
  induction bytes with
  | nil => rfl
  | cons byte rest ih =>
      have byteBound : byte.toNat < 256 := byte.toNat_lt_size
      have low : (byte.toNat + 256 * littleEndian rest) % 256 = byte.toNat := by omega
      have high : (byte.toNat + 256 * littleEndian rest) / 256 = littleEndian rest := by omega
      simp only [List.length_cons, littleEndianBytes, littleEndian, low, high, ih,
        List.cons.injEq, and_true]
      exact UInt8.toNat.inj (UInt8.toNat_ofNat_of_lt byteBound)

theorem bigEndianBytes_bigEndian (bytes : List UInt8) :
    bigEndianBytes bytes.length (bigEndian bytes) = bytes := by
  simpa [bigEndianBytes, bigEndian] using
    congrArg List.reverse (littleEndianBytes_littleEndian bytes.reverse)

end Grumble
