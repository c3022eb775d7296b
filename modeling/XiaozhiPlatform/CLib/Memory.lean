import Mathlib

/-!
# Memory of a C program

Memory is a byte at every address. A function that fills a caller's buffer stores bytes in it
one by one or by `memcpy`; `store_outside` and `storeBytes_outside` are its frame rules, and
`load_storeBytes` reads back what was written. A string argument is its bytes without the
terminator.
-/

namespace CLib

/-- The byte at each address. -/
abbrev Memory := ℕ → UInt8

variable {bytes : List UInt8} {memory : Memory} {address : ℕ}

namespace Memory

/-- An assignment through a byte pointer. -/
def store (memory : Memory) (address : ℕ) (byte : UInt8) : Memory :=
  fun a => if a = address then byte else memory a

/-- Successive assignments from an address on, as `memcpy` makes them. -/
def storeBytes (memory : Memory) : ℕ → List UInt8 → Memory
  | _, [] => memory
  | address, byte :: rest => (memory.store address byte).storeBytes (address + 1) rest

/-- The bytes from an address on. -/
def load (memory : Memory) (address : ℕ) : ℕ → List UInt8
  | 0 => []
  | size + 1 => memory address :: load memory (address + 1) size

@[simp]
theorem store_self (memory : Memory) (address : ℕ) (byte : UInt8) :
    memory.store address byte address = byte := if_pos rfl

theorem store_outside (h : a ≠ address) : memory.store address byte a = memory a := if_neg h

/-- The bytes outside the range written keep their values. -/
theorem storeBytes_outside (h : a < address ∨
    address + bytes.length ≤ a) : memory.storeBytes address bytes a = memory a := by
  induction bytes generalizing memory address with
  | nil => rfl
  | cons byte rest ih =>
    rw [List.length_cons] at h
    rw [storeBytes, ih (by omega), store_outside (by omega)]

theorem storeBytes_inside
    (h : i < bytes.length) : memory.storeBytes address bytes (address + i) = bytes[i] := by
  induction bytes generalizing memory address i with
  | nil => exact absurd h (Nat.not_lt_zero i)
  | cons byte rest ih =>
    cases i with
    | zero =>
      rw [storeBytes, storeBytes_outside (by omega), Nat.add_zero, store_self]
      rfl
    | succ i =>
      rw [storeBytes, show address + (i + 1) = address + 1 + i by omega,
        ih (Nat.lt_of_succ_lt_succ h)]
      rfl

@[simp]
theorem length_load (memory : Memory) (address size : ℕ) :
    (memory.load address size).length = size := by
  induction size generalizing address with
  | zero => rfl
  | succ size ih => rw [load, List.length_cons, ih]

theorem getElem_load (memory : Memory) (address size i : ℕ) (h : i < (memory.load address
    size).length) : (memory.load address size)[i] = memory (address + i) := by
  induction size generalizing address i with
  | zero => exact absurd h (Nat.not_lt_zero i)
  | succ size ih =>
    cases i with
    | zero => rfl
    | succ i => grind [load]

/-- A write is read back from where it was made. -/
theorem load_storeBytes (memory : Memory) (address : ℕ) (bytes : List UInt8) :
    (memory.storeBytes address bytes).load address bytes.length = bytes := by
  grind [List.ext_getElem, length_load, getElem_load, storeBytes_inside]

theorem load_of_load_append (h : memory.load address (bytes ++ rest).length = bytes ++ rest) :
    memory.load address bytes.length = bytes := by
  apply List.ext_getElem
  · rw [length_load]
  · intro i hi hbytes
    have hlong : i < (memory.load address (bytes ++ rest).length).length := by grind
    rw [getElem_load, ← getElem_load memory address _ i hlong, List.getElem_of_eq h hlong,
      List.getElem_append_left hbytes]

theorem storeBytes_append (memory : Memory) (address : ℕ) (left right : List UInt8) :
    memory.storeBytes address (left ++ right) =
      (memory.storeBytes address left).storeBytes (address + left.length) right := by
  induction left generalizing memory address with
  | nil => rfl
  | cons byte rest ih => grind [storeBytes]

end Memory

/-! ## Strings -/

/-- A string that ends at its first zero byte. -/
@[ext]
structure CString where
  bytes : List UInt8
  nonzero : 0 ∉ bytes
deriving DecidableEq

/-- The C string of the bytes before the first zero. -/
def cStringOf (bytes : List UInt8) : CString where
  bytes := bytes.takeWhile (· ≠ 0)
  nonzero := by
    intro hzero
    exact absurd (List.mem_takeWhile_imp hzero) (by decide)

theorem bytes_cStringOf_of_notMem (h : 0 ∉ bytes) : (cStringOf bytes).bytes = bytes := by
  refine List.takeWhile_eq_self_iff.mpr fun byte hbyte => ?_
  rw [decide_eq_true_eq]
  rintro rfl
  exact h hbyte

theorem cStringOf_bytes (text : CString) : cStringOf text.bytes = text :=
  CString.ext (bytes_cStringOf_of_notMem text.nonzero)

/-- The characters as `strcmp` compares them. -/
def CString.unsigned (text : CString) : List ℕ := text.bytes.map UInt8.toNat

theorem CString.unsigned_injective {left right : CString} (h : left.unsigned = right.unsigned) :
    left = right :=
  CString.ext (List.map_injective_iff.mpr (fun _ _ => UInt8.toNat_inj.mp) h)

end CLib
