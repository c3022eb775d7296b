import XiaozhiPlatform.CLib.LittleEndian

/-!
# Fixed-width numbers in byte strings

The big-endian encoding of `encoding/binary` and of hand-written shift-and-mask code: a number
is written into a fixed number of bytes, most significant first, and whatever does not fit is
dropped. It is the little-endian encoding read backwards (`put_eq_reverse`, `read_eq_reverse`), so
what is read back is what was written, and a byte string is determined by its length and the number
it spells.
-/

namespace GoLib.BigEndian

open CLib

/-- The `width` low bytes of a number, most significant first. -/
def put : ℕ → ℕ → List UInt8
  | 0, _ => []
  | width + 1, value => UInt8.ofNat (value / 256 ^ width) :: put width value

/-- The number that a byte string spells, most significant byte first. -/
def read (bytes : List UInt8) : ℕ := bytes.foldl (fun acc byte => 256 * acc + byte.toNat) 0

theorem put_succ (width value : ℕ) :
    put (width + 1) value = put width (value / 256) ++ [UInt8.ofNat value] := by
  induction width with
  | zero => simp [put]
  | succ width ih =>
    rw [put, ih, put, List.cons_append, Nat.div_div_eq_div_mul, ← Nat.pow_succ']

theorem put_eq_reverse (width value : ℕ) :
    put width value = (LittleEndian.put width value).reverse := by
  induction width generalizing value with
  | zero => rfl
  | succ width ih => rw [put_succ, ih, LittleEndian.put, List.reverse_cons]

theorem read_eq_reverse (bytes : List UInt8) : read bytes = LittleEndian.read bytes.reverse := by
  simp only [read, LittleEndian.read, List.foldr_reverse, Nat.add_comm]

@[simp]
theorem length_put (width value : ℕ) : (put width value).length = width := by
  rw [put_eq_reverse, List.length_reverse, LittleEndian.length_put]

theorem read_put_of_lt (h : value < 256 ^ width) : read (put width value) = value := by
  rw [read_eq_reverse, put_eq_reverse, List.reverse_reverse, LittleEndian.read_put h]

/-- The number at an offset of a byte string. -/
def readAt (offset width : ℕ) (bytes : List UInt8) : ℕ := read ((bytes.drop offset).take width)

theorem read_lt (bytes : List UInt8) : read bytes < 256 ^ bytes.length := by
  rw [read_eq_reverse, ← List.length_reverse]
  exact LittleEndian.read_lt bytes.reverse

theorem readAt_lt (offset width : ℕ) (bytes : List UInt8) :
    readAt offset width bytes < 256 ^ width :=
  (read_lt _).trans_le (Nat.pow_le_pow_right (by decide) (List.length_take_le _ _))

/-- Writing inverts reading. -/
theorem put_read (bytes : List UInt8) : put bytes.length (read bytes) = bytes := by
  rw [read_eq_reverse, put_eq_reverse, ← List.length_reverse, LittleEndian.put_read,
    List.reverse_reverse]

theorem put_readAt (h : offset + width ≤ bytes.length) :
    put width (readAt offset width bytes) = (bytes.drop offset).take width := by
  have hlength : ((bytes.drop offset).take width).length = width := by grind
  calc put width (readAt offset width bytes)
      = put ((bytes.drop offset).take width).length (readAt offset width bytes) := by rw [hlength]
    _ = (bytes.drop offset).take width := put_read _

theorem drop_eq_put_append (offset width : ℕ) (h : offset + width ≤ bytes.length) :
    bytes.drop offset = put width (readAt offset width bytes) ++ bytes.drop (offset + width) := by
  rw [put_readAt h, ← List.drop_drop, List.take_append_drop]

theorem readAt_put_append (h : value < 256 ^ width) (rest : List UInt8) :
    readAt 0 width (put width value ++ rest) = value := by
  rw [readAt, List.drop_zero, List.take_left' (length_put width value), read_put_of_lt h]

theorem readAt_append (h : front.length ≤ offset) (width : ℕ) (rest : List UInt8) :
    readAt offset width (front ++ rest) = readAt (offset - front.length) width rest := by
  rw [readAt, readAt, List.drop_append, List.drop_eq_nil_of_le h, List.nil_append]

end GoLib.BigEndian
