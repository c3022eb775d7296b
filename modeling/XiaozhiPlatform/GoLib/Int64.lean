import Mathlib

/-!
# Signed 64-bit arithmetic without overflow

The operations of `int64` wrap around. A result that is in range is the result of the operation on
integers, so an argument about amounts can go on with integers once it knows the bounds.
-/

namespace GoLib.Exact

variable {a b : Int64}

/-- The integers that an `int64` can hold. -/
def InRange (x : ℤ) : Prop := -2 ^ 63 ≤ x ∧ x < 2 ^ 63

theorem bmod_of_inRange (h : InRange x) : x.bmod (2 ^ 64) = x :=
  Int.bmod_eq_of_le (by have := h.1; omega) (by have := h.2; omega)

theorem toInt_add (h : InRange (a.toInt + b.toInt)) : (a + b).toInt = a.toInt + b.toInt := by
  rw [Int64.toInt_add, bmod_of_inRange h]

theorem toInt_sub (h : InRange (a.toInt - b.toInt)) : (a - b).toInt = a.toInt - b.toInt := by
  rw [Int64.toInt_sub, bmod_of_inRange h]

theorem toInt_mul (h : InRange (a.toInt * b.toInt)) : (a * b).toInt = a.toInt * b.toInt := by
  rw [Int64.toInt_mul, bmod_of_inRange h]

theorem toInt_div (ha : 0 ≤ a.toInt) (hb : 0 < b.toInt) : (a / b).toInt = a.toInt / b.toInt := by
  have hrange : InRange (a.toInt / b.toInt) := by
    have hlt := a.toInt_lt
    have hle := Int.ediv_le_self b.toInt ha
    have hnonneg := Int.ediv_nonneg ha (Int.le_of_lt hb)
    exact ⟨by omega, by omega⟩
  rw [Int64.toInt_div, Int.tdiv_eq_ediv_of_nonneg ha, bmod_of_inRange hrange]

theorem toInt_mod (ha : 0 ≤ a.toInt) : (a % b).toInt = a.toInt % b.toInt := by
  rw [Int64.toInt_mod, Int.tmod_eq_emod_of_nonneg ha]

end GoLib.Exact
