import XiaozhiPlatform.GoLib.Error

/-!
# The Device Agent protocol, version 1

The limits of the protocol, its protocol violations and its outgoing events. A function of the
protocol package fails with a `Violation`, which the gateway reports with its code, or with an
ordinary error such as `errStale`.
-/

namespace XiaozhiPlatform.Protocol

open GoLib

def agentVersion : ℕ := 1
def maxControlBytes : ℕ := 4096
def maxSessionIDBytes : ℕ := 63
def maxTTSTextBytes : ℕ := 512
def maxOpusPacketBytes : ℕ := 4096

/-- `ErrStale`. -/
def errStale : Error := .text "stale session or request"

structure Violation where
  code : String
  detail : String
deriving DecidableEq, Repr

/-- The `error` values of the protocol package. -/
inductive Failure where
  | violation (value : Violation)
  | error (cause : Error)
deriving DecidableEq, Repr

/-- The `violation` constructor of the source. -/
def violation (code detail : String) : Failure := .violation ⟨code, detail⟩

/-- `errors.Is` on such an error; a violation wraps nothing. -/
def Failure.is : Failure → Error → Bool
  | .violation _, _ => false
  | .error cause, target => cause.is target

/-- The value or the refusal of a function with guard clauses. -/
abbrev Decoded (α : Type) := Except Failure α

/-- A guard clause of the package. -/
def refuseIf (condition : Prop) [Decidable condition] (failure : Failure) : Decoded Unit :=
  if condition then .error failure else .ok ()

section Guards

variable {α β : Type} {condition : Prop} [Decidable condition] {failure : Failure}

theorem refuseIf_of_pos (h : condition) : refuseIf condition failure = .error failure := if_pos h

theorem refuseIf_of_neg (h : ¬ condition) : refuseIf condition failure = .ok () := if_neg h

theorem decoded_bind_eq_ok (x : Decoded α) (f : α → Decoded β) (b : β) :
    (x >>= f) = .ok b ↔ ∃ a, x = .ok a ∧ f a = .ok b := by
  cases x with
  | error | ok => simp [bind, Except.bind]

@[simp]
theorem refuseIf_bind_eq_ok (rest : Unit → Decoded β) (b : β) :
    (refuseIf condition failure >>= rest) = .ok b ↔ ¬ condition ∧ rest () = .ok b := by
  by_cases h : condition
  · rw [refuseIf_of_pos h]
    simp [h, bind, Except.bind]
  · rw [refuseIf_of_neg h]
    exact ⟨fun hrest => ⟨h, hrest⟩, And.right⟩

theorem decoded_bind_eq_error (x : Decoded α) (f : α → Decoded β) (e : Failure) :
    (x >>= f) = .error e ↔ x = .error e ∨ ∃ a, x = .ok a ∧ f a = .error e := by
  cases x with
  | error | ok => simp [bind, Except.bind]

theorem refuseIf_eq_error (h : refuseIf condition failure = .error e) : e = failure := by
  by_cases hcondition : condition
  · rw [refuseIf_of_pos hcondition] at h
    exact (Except.error.inj h).symm
  · rw [refuseIf_of_neg hcondition] at h
    cases h

theorem refuseIf_bind_eq_error {rest : Unit → Decoded β}
    (h : (refuseIf condition failure >>= rest) = .error e) : e = failure ∨ rest () = .error e := by
  rcases (decoded_bind_eq_error _ _ _).mp h with h | ⟨_, -, h⟩
  · exact Or.inl (refuseIf_eq_error h)
  · exact Or.inr h

end Guards

end XiaozhiPlatform.Protocol
