import XiaozhiPlatform.CLib.Memory

/-!
# Little-endian numbers and checksums in byte strings

Numbers of a fixed width, least significant byte first, as hand-written shift-and-mask code writes
and reads them, and the bitwise CRC-32.

- `LittleEndian.readAt_put`: a number that fits is read back from where it was written.
- `LittleEndian.drop_eq_put`: writing the number that was read gives the bytes.
-/

namespace CLib

namespace LittleEndian

/-- The `width` low bytes of a number, least significant first. -/
def put : ℕ → ℕ → List UInt8
  | 0, _ => []
  | width + 1, value => UInt8.ofNat value :: put width (value / 256)

/-- The number that a byte string spells, least significant byte first. -/
def read (bytes : List UInt8) : ℕ := bytes.foldr (fun byte high => byte.toNat + 256 * high) 0

/-- The number at an offset of a byte string. -/
def readAt (offset width : ℕ) (bytes : List UInt8) : ℕ := read ((bytes.drop offset).take width)

@[simp]
theorem length_put (width value : ℕ) : (put width value).length = width := by
  induction width generalizing value with
  | zero => rfl
  | succ width ih => rw [put, List.length_cons, ih]

theorem read_put (h : value < 256 ^ width) : read (put width value) = value := by
  induction width generalizing value with
  | zero => exact (Nat.lt_one_iff.mp h).symm
  | succ width ih =>
    have hhigh : value / 256 < 256 ^ width := by
      rw [pow_succ] at h
      exact Nat.div_lt_of_lt_mul (by omega)
    have hlow : (UInt8.ofNat value).toNat = value % 256 := UInt8.toNat_ofNat'
    rw [put, read, List.foldr_cons, hlow, ← read, ih hhigh]
    exact Nat.mod_add_div value 256

theorem read_lt (bytes : List UInt8) : read bytes < 256 ^ bytes.length := by
  induction bytes with
  | nil => exact Nat.one_pos
  | cons byte rest ih =>
    have hbyte : byte.toNat < 256 := byte.toNat_lt
    rw [read, List.foldr_cons, ← read, List.length_cons, pow_succ]
    omega

theorem readAt_lt (offset width : ℕ) (bytes : List UInt8) :
    readAt offset width bytes < 256 ^ width :=
  (read_lt _).trans_le (Nat.pow_le_pow_right (by decide) (List.length_take_le _ _))

theorem readAt_append (h : front.length ≤ offset) (width : ℕ) (rest : List UInt8) :
    readAt offset width (front ++ rest) = readAt (offset - front.length) width rest := by
  rw [readAt, readAt, List.drop_append, List.drop_eq_nil_of_le h, List.nil_append]

/-- The number at the front of a byte string. -/
theorem readAt_put (h : value < 256 ^ width) (rest : List UInt8) :
    readAt 0 width (put width value ++ rest) = value := by
  rw [readAt, List.drop_zero, List.take_left' (length_put width value), read_put h]

theorem readAt_field (hfront : front.length = offset)
    (h : value < 256 ^ width) (rest : List UInt8) :
    readAt offset width (front ++ (put width value ++ rest)) = value := by
  rw [readAt_append hfront.le, hfront, Nat.sub_self]
  exact readAt_put h rest

theorem put_read (bytes : List UInt8) : put bytes.length (read bytes) = bytes := by
  induction bytes with
  | nil => rfl
  | cons byte rest ih =>
    have hbyte : byte.toNat < 256 := byte.toNat_lt
    have hlow : UInt8.ofNat (byte.toNat + 256 * read rest) = byte := by
      refine UInt8.toNat_inj.mp (UInt8.toNat_ofNat'.trans ?_)
      omega
    have hhigh : (byte.toNat + 256 * read rest) / 256 = read rest := by omega
    rw [List.length_cons, read, List.foldr_cons, ← read, put, hlow, hhigh, ih]

/-- A field is determined by the number that is read from it. -/
theorem drop_eq_put (h : offset + width ≤ bytes.length) :
    bytes.drop offset = put width (readAt offset width bytes) ++ bytes.drop (offset + width) := by
  have hlength : ((bytes.drop offset).take width).length = width := by
    rw [List.length_take, List.length_drop]
    omega
  have hput := put_read ((bytes.drop offset).take width)
  rw [hlength] at hput
  rw [readAt, hput, ← List.drop_drop, List.take_append_drop]

end LittleEndian

namespace Crc32

/-- One bit of the division by the reflected polynomial. -/
def bit (crc : UInt32) : UInt32 := (crc >>> 1) ^^^ (0xedb88320 &&& (0 - (crc &&& 1)))

/-- One byte of the division. -/
def byte (crc : UInt32) (value : UInt8) : UInt32 := Nat.iterate bit 8 (crc ^^^ value.toUInt32)

/-- The division of a byte string. -/
def loop (crc : UInt32) (data : List UInt8) : UInt32 := data.foldl byte crc

/-- The checksum of a byte string. -/
def checksum (data : List UInt8) : UInt32 := ~~~(loop 0xffffffff data)

end Crc32

end CLib
