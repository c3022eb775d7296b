import XiaozhiPlatform.GoLib.Json

/-!
# Numbers in texts

`strconv.ParseInt` and `strconv.ParseUint` in base ten with their range checks. A program that wants
one spelling for a number compares the text with the number formatted again, which leaves the texts
that `formatInt` and `formatNat` write.
-/

namespace GoLib

/-- `strconv.ParseUint` in base ten for a size in bits. -/
def parseUint (bits : ℕ) (text : List Char) : Option ℕ :=
  (parseNat text).filter fun n => n < 2 ^ bits

/-- `strconv.ParseInt` in base ten for 64 bits. -/
def parseInt64 (text : List Char) : Option ℤ :=
  let parsed := match text with
    | '+' :: digits => (parseNat digits).map fun n : ℕ => (n : ℤ)
    | text => parseInt text
  parsed.filter fun n => -2 ^ 63 ≤ n ∧ n < 2 ^ 63

variable {text : List Char}

theorem parseNat_eq_some (h : parseNat text = some n) :
    text ≠ [] ∧ (∀ c ∈ text, c.isDigit = true) ∧ n = Nat.ofDigitChars 10 text 0 := by
  grind [parseNat]

theorem parseInt64_eq_some (h : parseInt64 text = some n) :
    (∃ digits, (text = '+' :: digits ∨ text = '-' :: digits) ∧ ∀ c ∈ digits, c.isDigit = true) ∨
      (text ≠ [] ∧ (∀ c ∈ text, c.isDigit = true) ∧ n = Nat.ofDigitChars 10 text 0) := by
  obtain ⟨hparsed, -⟩ := Option.filter_eq_some_iff.mp h
  split at hparsed
  next digits =>
    obtain ⟨m, hm, -⟩ := Option.map_eq_some_iff.mp hparsed
    exact .inl ⟨digits, .inl rfl, (parseNat_eq_some hm).2.1⟩
  next hplus =>
    unfold parseInt at hparsed
    split at hparsed
    next digits =>
      obtain ⟨m, hm, -⟩ := Option.map_eq_some_iff.mp hparsed
      exact .inl ⟨digits, .inr rfl, (parseNat_eq_some hm).2.1⟩
    next => grind [Option.map_eq_some_iff, parseNat_eq_some]

theorem digitChar_of_isDigit (h : c.isDigit = true) :
    c.toNat - '0'.toNat < 10 ∧ Nat.digitChar (c.toNat - '0'.toNat) = c := by
  simp only [Char.isDigit, Bool.and_eq_true, decide_eq_true_eq, UInt32.le_iff_toNat_le] at h
  change 48 ≤ c.toNat ∧ c.toNat ≤ 57 at h
  have hzero : '0'.toNat = 48 := rfl
  obtain ⟨n, hn, hlt⟩ : ∃ n, c.toNat = 48 + n ∧ n < 10 := ⟨c.toNat - 48, by omega, by omega⟩
  have hc : c = Char.ofNat (48 + n) := by rw [← hn, Char.ofNat_toNat]
  rw [hn, hzero, Nat.add_sub_cancel_left, hc]
  refine ⟨hlt, ?_⟩
  interval_cases n <;> rfl

theorem formatNat_ofDigitChars (hfirst : first ≠ '0') (hdigits : ∀
    c ∈ first :: rest, c.isDigit = true) : formatNat (Nat.ofDigitChars 10 (first :: rest) 0) = first
    :: rest ∧ 0 < Nat.ofDigitChars 10 (first :: rest) 0 := by
  -- The last digit is the one that `formatNat` splits off.
  induction rest using List.reverseRecOn with
  | nil =>
    obtain ⟨hlt, hchar⟩ := digitChar_of_isDigit (hdigits first (by simp))
    have hne : first.toNat - '0'.toNat ≠ 0 := by
      intro hzero
      rw [hzero] at hchar
      exact hfirst (hchar.symm.trans rfl)
    simp only [Nat.ofDigitChars_cons, Nat.ofDigitChars_nil, Nat.mul_zero, Nat.zero_add]
    rw [formatNat, Nat.toDigits_of_lt_base hlt, hchar]
    exact ⟨rfl, Nat.pos_of_ne_zero hne⟩
  | append_singleton rest last ih =>
    obtain ⟨hformat, hpos⟩ := ih fun c hc => hdigits c (by
      simp only [List.mem_cons, List.mem_append] at hc ⊢
      tauto)
    obtain ⟨hlt, hchar⟩ := digitChar_of_isDigit (hdigits last (by simp))
    have hvalue : Nat.ofDigitChars 10 (first :: (rest ++ [last])) 0 =
        10 * Nat.ofDigitChars 10 (first :: rest) 0 + (last.toNat - '0'.toNat) := by
      rw [← List.cons_append, Nat.ofDigitChars, List.foldl_append]
      rfl
    rw [hvalue]
    refine ⟨?_, by omega⟩
    rw [formatNat, Nat.toDigits_of_base_le (by decide) (by omega), ← List.cons_append]
    congr 1
    · grind [formatNat]
    · grind

theorem exists_parseUint_iff {p : ℕ → Prop} : (∃ n ∈ parseUint bits
    text, p n ∧ formatNat n = text) ↔ ∃ n < 2 ^ bits, p n ∧ formatNat n = text := by
  constructor
  · rintro ⟨n, hn, hp, htext⟩
    obtain ⟨-, hlt⟩ := Option.filter_eq_some_iff.mp hn
    exact ⟨n, of_decide_eq_true hlt, hp, htext⟩
  · rintro ⟨n, hlt, hp, rfl⟩
    refine ⟨n, ?_, hp, rfl⟩
    exact Option.filter_eq_some_iff.mpr ⟨parseNat_formatNat n, decide_eq_true hlt⟩

theorem formatInt_ne_plus (n : ℤ) (digits : List Char) : formatInt n ≠ '+' :: digits := by
  intro h
  by_cases hn : n < 0
  · simp [formatInt, if_pos hn] at h
  · rw [formatInt, if_neg hn] at h
    have hplus : '+' ∈ formatNat n.natAbs := by simp [h]
    exact absurd (isDigit_of_mem_formatNat hplus) (by decide)

theorem parseInt64_formatInt (hlower : -2 ^ 63 ≤ n) (hupper : n < 2 ^ 63) :
    parseInt64 (formatInt n) = some n := by
  rw [parseInt64]
  · grind [Option.filter_eq_some_iff, parseInt_formatInt]
  · exact formatInt_ne_plus n

theorem exists_parseInt64_iff {p : ℤ → Prop} : (∃ n ∈ parseInt64 text, p n ∧
    formatInt n = text) ↔ ∃ n, -2 ^ 63 ≤ n ∧ n < 2 ^ 63 ∧ p n ∧ formatInt n = text := by
  constructor
  · rintro ⟨n, hn, hp, htext⟩
    obtain ⟨-, hrange⟩ := Option.filter_eq_some_iff.mp hn
    obtain ⟨hlower, hupper⟩ := of_decide_eq_true hrange
    exact ⟨n, hlower, hupper, hp, htext⟩
  · grind [parseInt64_formatInt]

end GoLib
