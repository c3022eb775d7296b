import XiaozhiPlatform.GoLib.Json

/-!
# Decimal literals as binary floating-point numbers

`strconv.ParseFloat` with 64 bits on a literal of the JSON grammar: the exact rational value of the
literal, rounded to the nearest `float64`, ties to even. A finite `float64` is the rational number
that it stands for; a literal whose value rounds beyond the largest finite number is an error.

`round_natCast` says that every integer below `2 ^ 53` is a `float64`, so that
`parseFloat_formatNat` reads such an integer back exactly.
-/

namespace GoLib.Float64

/-! ## Rounding -/

/-- The nearest integer, ties to even. -/
def nearest (x : ℚ) : ℤ :=
  let below := ⌊x⌋
  if x - below < 1 / 2 ∨ (x - below = 1 / 2 ∧ below % 2 = 0) then below else below + 1

/-- The weight of the last place of a magnitude: 53 significant bits, and gradual underflow. -/
def lastPlace (magnitude : ℚ) : ℚ := 2 ^ (max (Int.log 2 magnitude) (-1022) - 52)

/-- The `float64` nearest to a number; `none` when it overflows. -/
def round (x : ℚ) : Option ℚ :=
  if x = 0 then some 0
  else
    let place := lastPlace |x|
    let rounded := nearest (x / place) * place
    if |rounded| < 2 ^ 1024 then some rounded else none

theorem nearest_intCast (n : ℤ) : nearest n = n := by
  rw [nearest, Int.floor_intCast, sub_self, if_pos (Or.inl (by norm_num))]

theorem exists_mul_lastPlace {n : ℕ} (h : n < 2 ^ 53) : ∃ k : ℤ, (n : ℚ) / lastPlace n = k := by
  have hlog : Int.log 2 (n : ℚ) ≤ 52 := by
    rw [Int.log_natCast]
    have := Nat.log_lt_of_lt_pow' (by decide) h
    omega
  obtain ⟨k, hk⟩ : ∃ k : ℕ, max (Int.log 2 (n : ℚ)) (-1022) - 52 = -(k : ℤ) :=
    ⟨(52 - max (Int.log 2 (n : ℚ)) (-1022)).toNat, by omega⟩
  refine ⟨n * 2 ^ k, ?_⟩
  rw [lastPlace, hk, zpow_neg, div_inv_eq_mul, zpow_natCast]
  push_cast
  rfl

/-- Every integer below `2 ^ 53` is a `float64`. -/
theorem round_natCast {n : ℕ} (h : n < 2 ^ 53) : round (n : ℚ) = some (n : ℚ) := by
  by_cases hzero : n = 0
  · subst hzero
    rfl
  have hne : (n : ℚ) ≠ 0 := Nat.cast_ne_zero.mpr hzero
  have hplace : lastPlace n ≠ 0 := zpow_ne_zero _ (by norm_num)
  obtain ⟨k, hk⟩ := exists_mul_lastPlace h
  have hsmall : (n : ℚ) < 2 ^ 1024 := by
    calc (n : ℚ) < 2 ^ 53 := by exact_mod_cast h
      _ ≤ 2 ^ 1024 := pow_le_pow_right₀ (by norm_num) (by norm_num)
  have hrounded : (nearest ((n : ℚ) / lastPlace n) : ℚ) * lastPlace n = n := by
    rw [hk, nearest_intCast, ← hk, div_mul_cancel₀ _ hplace]
  simp only [round, Nat.abs_cast]
  rw [if_neg hne, hrounded, Nat.abs_cast, if_pos hsmall]

/-! ## Literals -/

/-- The value of a run of digits. -/
def digits (text : List Char) : ℕ := Nat.ofDigitChars 10 text 0

/-- The exponent of a literal, after its mantissa. -/
def exponent : List Char → ℤ
  | [] => 0
  | _ :: '-' :: rest => -(digits rest : ℤ)
  | _ :: '+' :: rest => digits rest
  | _ :: rest => digits rest

/-- The value of a literal without a sign: digits, a fraction and an exponent. -/
def magnitude (text : List Char) : ℚ :=
  let whole := text.takeWhile Char.isDigit
  match text.dropWhile Char.isDigit with
  | '.' :: rest =>
    let fraction := rest.takeWhile Char.isDigit
    (digits (whole ++ fraction) : ℚ) *
      10 ^ (exponent (rest.dropWhile Char.isDigit) - fraction.length)
  | rest => (digits whole : ℚ) * 10 ^ exponent rest

/-- The value of a literal of the JSON grammar. -/
def value : List Char → ℚ
  | '-' :: text => -magnitude text
  | text => magnitude text

/-- `strconv.ParseFloat` on a literal of the JSON grammar. -/
def parseFloat (literal : List Char) : Option ℚ := round (value literal)

theorem magnitude_formatNat (n : ℕ) : magnitude (formatNat n) = n := by
  have hdigits : ∀ c ∈ formatNat n, c.isDigit = true := fun c hc => isDigit_of_mem_formatNat hc
  have htake : (formatNat n).takeWhile Char.isDigit = formatNat n :=
    List.takeWhile_eq_self_iff.mpr hdigits
  have hdrop : (formatNat n).dropWhile Char.isDigit = [] :=
    List.dropWhile_eq_nil_iff.mpr hdigits
  simp only [magnitude, htake, hdrop, exponent, zpow_zero, mul_one, digits]
  rw [formatNat, Nat.ofDigitChars_ten_toDigits]

/-- A formatted integer below `2 ^ 53` is read back exactly. -/
theorem parseFloat_formatNat {n : ℕ} (h : n < 2 ^ 53) : parseFloat (formatNat n) = some (n : ℚ) := by
  have hvalue : value (formatNat n) = magnitude (formatNat n) := by
    rw [value]
    exact fun rest => head_formatNat_ne_minus n rest
  rw [parseFloat, hvalue, magnitude_formatNat, round_natCast h]

end GoLib.Float64
