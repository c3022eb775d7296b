import XiaozhiPlatform.GoLib.Json

/-!
# Identifiers and binding revisions

The two field checks of the token package that the other packages of the gateway share:
`auth.ValidIdentifier` and `auth.ValidBindingRevision`. An accepted identifier is plain ASCII,
so its length in bytes is its number of characters and JSON writes it without an escape.
-/

namespace XiaozhiPlatform.Auth

open GoLib

/-- The largest binding revision that a token may carry. -/
def maximumBindingRevision : UInt64 := 2 ^ 32 - 1

/-- `auth.ValidBindingRevision`. -/
def ValidBindingRevision (value : UInt64) : Prop := 0 < value ∧ value ≤ maximumBindingRevision
deriving Decidable

/-- The characters of an identifier. -/
def isIdentifierChar (c : Char) : Bool :=
  c.isLower || c.isUpper || c.isDigit || c = ':' || c = '-' || c = '_' || c = '.'

/-- `auth.ValidIdentifier`. -/
def ValidIdentifier (value : String) (max : ℕ) : Prop :=
  value ≠ "" ∧ byteLength value.toList ≤ max ∧ ∀ c ∈ value.toList, isIdentifierChar c = true

instance (value : String) (max : ℕ) : Decidable (ValidIdentifier value max) :=
  decidable_of_iff (value ≠ "" ∧ byteLength value.toList ≤ max ∧
    value.toList.all isIdentifierChar = true) (by rw [List.all_eq_true, ValidIdentifier])

theorem isPlain_of_isIdentifierChar (h : isIdentifierChar c = true) : Json.IsPlain c := by
  have hbounds : 0x20 ≤ c.toNat ∧ c.toNat < 128 := by
    simp only [isIdentifierChar, Bool.or_eq_true, decide_eq_true_eq, Char.isLower, Char.isUpper,
      Char.isDigit, Bool.and_eq_true, ge_iff_le, UInt32.le_iff_toNat_le] at h
    change ((((((97 ≤ c.toNat ∧ c.toNat ≤ 122) ∨ (65 ≤ c.toNat ∧ c.toNat ≤ 90)) ∨
      (48 ≤ c.toNat ∧ c.toNat ≤ 57)) ∨ _) ∨ _) ∨ _) ∨ _ at h
    rcases h with ((((((h | h) | h) | rfl) | rfl) | rfl) | rfl)
    · omega
    · omega
    · omega
    all_goals decide
  have hnone : ['"', '\\', '<', '>', '&'].all (fun c => !isIdentifierChar c) = true := by decide
  refine ⟨hbounds.1, hbounds.2, fun hmem => ?_⟩
  simpa [h] using List.all_eq_true.mp hnone c hmem

theorem ValidIdentifier.isPlain {value : String} {max : ℕ} (h : ValidIdentifier value max) :
    ∀ c ∈ value.toList, Json.IsPlain c :=
  fun c hc => isPlain_of_isIdentifierChar (h.2.2 c hc)

theorem ValidIdentifier.length_le {value : String} {max : ℕ} (h : ValidIdentifier value max) :
    value.toList.length ≤ max := by
  have hlength := h.2.1
  rwa [byteLength_of_ascii fun c hc => (h.isPlain c hc).2.1] at hlength

end XiaozhiPlatform.Auth
