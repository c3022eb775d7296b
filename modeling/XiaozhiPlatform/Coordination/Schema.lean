import XiaozhiPlatform.Auth.Token
import XiaozhiPlatform.GoLib.Sha256
import XiaozhiPlatform.GoLib.Sql
import XiaozhiPlatform.GoLib.Time

/-!
# The runtime coordination tables

The tables of the migration `0005_runtime_coordination.sql` that proofs and leases use, with the
columns that a statement reads or writes. A digest column has the type of a digest and the kind of
a lease is an enumeration, so their `CHECK` conditions hold by the type of the row. The guard row
only serializes transactions, which are serializable here.

`serializable` runs a transaction whose business errors are committed: the statements before a
refusal stay.
-/

namespace XiaozhiPlatform.Coordination

open GoLib Auth Sql

abbrev Digest := Vector UInt8 32

/-! ## Tables -/

/-- A row of `runtime_coordination_proof_nonces`. -/
structure NonceRow where
  proofScope : ℕ
  subjectSHA256 : Digest
  nonceSHA256 : Digest
  expiresAt : Time
deriving DecidableEq, Repr

def NonceRow.key (row : NonceRow) : ℕ × Digest × Digest :=
  (row.proofScope, row.subjectSHA256, row.nonceSHA256)

def proofNoncesSchema : Schema NonceRow where
  name := "runtime_coordination_proof_nonces"
  checks := [
    ⟨"runtime_coordination_proof_nonces_proof_scope_check",
      fun row => 1 ≤ row.proofScope ∧ row.proofScope ≤ 6⟩]
  uniques := [.on "runtime_coordination_proof_nonces_pkey" NonceRow.key]

/-- A row of `runtime_coordination_proof_limits`. -/
structure LimitRow where
  proofScope : ℕ
  subjectSHA256 : Digest
  lastAcceptedAt : Option Time
  expiresAt : Time
deriving DecidableEq, Repr

def LimitRow.key (row : LimitRow) : ℕ × Digest := (row.proofScope, row.subjectSHA256)

def proofLimitsSchema : Schema LimitRow where
  name := "runtime_coordination_proof_limits"
  checks := [
    ⟨"runtime_coordination_proof_limits_proof_scope_check",
      fun row => 1 ≤ row.proofScope ∧ row.proofScope ≤ 6⟩]
  uniques := [.on "runtime_coordination_proof_limits_pkey" LimitRow.key]

/-- `LeaseKind`. -/
inductive LeaseKind where
  | voiceLease
  | agentLease
deriving DecidableEq, Repr

/-- The texts that match `^[A-Za-z0-9][A-Za-z0-9_.:-]{0,63}$`. -/
def IsHolder (value : String) : Bool :=
  match value.toList with
  | [] => false
  | first :: rest => first.isAlphanum && rest.length ≤ 63 && rest.all isIdentifierChar

/-- A row of `runtime_coordination_leases`. -/
structure LeaseRow where
  leaseKind : LeaseKind
  subjectSHA256 : Digest
  leaseID : List UInt8
  holderID : String
  acquiredAt : Time
  renewedAt : Time
  expiresAt : Time
deriving DecidableEq, Repr

def LeaseRow.key (row : LeaseRow) : LeaseKind × Digest := (row.leaseKind, row.subjectSHA256)

def leasesSchema : Schema LeaseRow where
  name := "runtime_coordination_leases"
  checks := [
    ⟨"runtime_coordination_leases_lease_id_check", fun row => row.leaseID.length = 16⟩,
    ⟨"runtime_coordination_leases_holder_id_check", fun row => IsHolder row.holderID⟩]
  uniques := [
    .on "runtime_coordination_leases_pkey" LeaseRow.key,
    .on "runtime_coordination_lease_id_idx" LeaseRow.leaseID]

/-- A row of `runtime_coordination_agent_limits`. -/
structure AgentLimitRow where
  subjectSHA256 : Digest
  windowStartedAt : Time
  acceptedRequests : ℤ
  expiresAt : Time
deriving DecidableEq, Repr

def agentLimitsSchema : Schema AgentLimitRow where
  name := "runtime_coordination_agent_limits"
  checks := [
    ⟨"runtime_coordination_agent_limits_accepted_requests_check",
      fun row => 0 ≤ row.acceptedRequests ∧ row.acceptedRequests ≤ 600⟩]
  uniques := [.on "runtime_coordination_agent_limits_pkey" AgentLimitRow.subjectSHA256]

structure Database where
  proofNonces : Table proofNoncesSchema
  proofLimits : Table proofLimitsSchema
  leases : Table leasesSchema
  agentLimits : Table agentLimitsSchema

def Database.empty : Database := ⟨.empty, .empty, .empty, .empty⟩

/-! ## Errors and transactions -/

def errInvalid : Error := .text "invalid runtime coordination request"

def errUnavailable : Error := .text "runtime coordination unavailable"

def errReplay : Error := .text "runtime coordination replay"

def errRateLimited : Error := .text "runtime coordination rate limited"

def errConflict : Error := .text "runtime coordination lease conflict"

def errLeaseLost : Error := .text "runtime coordination lease lost"

/-- `unavailable`, which keeps no more of the error than the step that failed. -/
def unavailable (action : String) : Error := .detailed errUnavailable action

/-- The error of a transaction that fails at a step. -/
def failedAt (step : Error) : Error := unavailable (step.message ++ " coordination transaction")

/-- `serializable`. The cause of an outcome that is not reported is the step of the transaction that
failed, `begin`, `execute`, `commit` or `retry`. -/
def serializable {α : Type} (outcome : Outcome)
    (action : Database → Except Error (Except Error α × Database)) (db : Database) :
    Database × Except Error α :=
  let attempt := runTransaction failedAt (fun _ => failedAt (.text "execute")) outcome action db
  (attempt.1, attempt.2.bind id)

theorem serializable_cases {α : Type} (outcome : Outcome) (action : Database → Except Error (Except
    Error α × Database)) (db : Database) : (serializable outcome action db).1 = db ∨ ∃ business,
    action db = .ok (business, (serializable outcome action db).1) :=
  runTransaction_cases _ _ outcome action db

theorem serializable_eq_ok {α : Type} {outcome : Outcome} {action : Database → Except Error (Except
    Error α × Database)} {db next : Database} {value : α} : serializable outcome action db = (next,
    .ok value) ↔ outcome = .reported ∧ action db = .ok (.ok value, next) := by
  simp only [serializable, Prod.mk.injEq]
  constructor
  · rintro ⟨hnext, hresult⟩
    match hr : runTransaction failedAt (fun _ => failedAt (.text "execute")) outcome action db with
    | (_, .error error) => simp [hr, Except.bind] at hresult
    | (_, .ok business) => grind [Except.bind, id, runTransaction_eq_ok]
  · intro h
    rw [runTransaction_eq_ok.mpr h]
    exact ⟨rfl, rfl⟩

end XiaozhiPlatform.Coordination
