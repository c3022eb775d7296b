import XiaozhiPlatform.DeviceClaim.Store
import XiaozhiPlatform.GoLib.Sql

/-!
# The ownership tables

The tables of the migration `0001_ownership.sql`, with the columns that a statement reads or writes
and with all of their constraints. A column `NOT NULL` has a plain type, a `varchar` with a finite
list of values an enumeration, and `claim_digest` the type of a digest, so these constraints hold
by the type of the row.
-/

namespace XiaozhiPlatform.DeviceClaim

open GoLib Auth Sql

/-- The texts that match `^[A-Za-z0-9_-]{22}$`. -/
def IsToken (value : String) : Bool :=
  value.toList.length = 22 && value.toList.all fun c => c ∈ Base64.alphabet

/-- A row of `ownership_app_nonces`. -/
structure NonceRow where
  tenantID : String
  ownerID : String
  appNonce : String
  expiresAt : Time
deriving DecidableEq, Repr

def NonceRow.key (row : NonceRow) : String × String × String :=
  (row.tenantID, row.ownerID, row.appNonce)

def noncesSchema : Schema NonceRow where
  name := "ownership_app_nonces"
  checks := [
    ⟨"ownership_app_nonces_tenant_id_check", fun row => ValidIdentifier row.tenantID 128⟩,
    ⟨"ownership_app_nonces_owner_id_check", fun row => ValidIdentifier row.ownerID 128⟩,
    ⟨"ownership_app_nonces_app_nonce_check", fun row => IsToken row.appNonce⟩]
  uniques := [.on "ownership_app_nonces_pkey" NonceRow.key]

/-- A row of `ownership_claims`. -/
structure ClaimRow where
  requestID : String
  tenantID : String
  ownerID : String
  deviceID : String
  claimDigest : Digest
  status : Status
  expiresAt : Time
  createdAt : Time
deriving DecidableEq, Repr

def claimsSchema : Schema ClaimRow where
  name := "ownership_claims"
  checks := [
    ⟨"ownership_claims_request_id_check", fun row => IsToken row.requestID⟩,
    ⟨"ownership_claims_tenant_id_check", fun row => ValidIdentifier row.tenantID 128⟩,
    ⟨"ownership_claims_owner_id_check", fun row => ValidIdentifier row.ownerID 128⟩,
    ⟨"ownership_claims_device_id_check", fun row => ValidIdentifier row.deviceID 64⟩,
    ⟨"ownership_claims_status_check", fun row => row.status = .pending || row.status = .bound⟩,
    ⟨"ownership_claims_check", fun row => row.createdAt < row.expiresAt⟩]
  uniques := [
    .on "ownership_claims_pkey" ClaimRow.requestID,
    .on "ownership_claims_claim_digest_key" ClaimRow.claimDigest]

/-- The values of the column `device_owners.status`. -/
inductive OwnerStatus where
  | active
  | released
deriving DecidableEq, Repr

/-- A row of `device_owners`. -/
structure OwnerRow where
  deviceID : String
  tenantID : String
  ownerID : String
  bindingID : String
  bindingRevision : UInt64
  status : OwnerStatus
  boundAt : Time
deriving DecidableEq, Repr

def ownersSchema : Schema OwnerRow where
  name := "device_owners"
  checks := [
    ⟨"device_owners_device_id_check", fun row => ValidIdentifier row.deviceID 64⟩,
    ⟨"device_owners_tenant_id_check", fun row => ValidIdentifier row.tenantID 128⟩,
    ⟨"device_owners_owner_id_check", fun row => ValidIdentifier row.ownerID 128⟩,
    ⟨"device_owners_binding_id_check", fun row => IsToken row.bindingID⟩,
    ⟨"device_owners_binding_revision_check", fun row =>
      1 ≤ row.bindingRevision && row.bindingRevision ≤ 4294967295⟩]
  uniques := [
    .on "device_owners_pkey" OwnerRow.deviceID,
    .on "device_owners_binding_id_key" OwnerRow.bindingID]

/-- The values of the column `device_ownership_events.event_type`. -/
inductive EventType where
  | bind
  | release
deriving DecidableEq, Repr

/-- A row of `device_ownership_events`. -/
structure EventRow where
  eventID : String
  eventType : EventType
  deviceID : String
  tenantID : String
  ownerID : String
  bindingID : String
  bindingRevision : UInt64
  requestID : Option String
  occurredAt : Time
deriving DecidableEq, Repr

def eventsSchema : Schema EventRow where
  name := "device_ownership_events"
  checks := [
    ⟨"device_ownership_events_event_id_check", fun row => IsToken row.eventID⟩,
    ⟨"device_ownership_events_binding_id_check", fun row => IsToken row.bindingID⟩,
    ⟨"device_ownership_events_binding_revision_check", fun row =>
      1 ≤ row.bindingRevision && row.bindingRevision ≤ 4294967295⟩,
    ⟨"device_ownership_events_request_id_check", fun row => row.requestID.all IsToken⟩]
  uniques := [
    .on "device_ownership_events_pkey" EventRow.eventID,
    .on "device_ownership_events_device_id_binding_revision_key"
      fun row => (row.deviceID, row.bindingRevision)]

/-- The ownership tables of one database. -/
structure Database where
  nonces : Table noncesSchema
  claims : Table claimsSchema
  owners : Table ownersSchema
  events : Table eventsSchema

def Database.empty : Database := ⟨.empty, .empty, .empty, .empty⟩

/-! ## The constraints -/

theorem checked_nonce : noncesSchema.Checked row ↔ ValidIdentifier row.tenantID 128
    ∧ ValidIdentifier row.ownerID 128 ∧ IsToken row.appNonce = true := by
  simp [Schema.Checked, noncesSchema]

theorem distinct_nonces : noncesSchema.Distinct a b ↔ a.key ≠ b.key := by
  simp [Schema.Distinct, noncesSchema, Unique.on]

theorem checked_claim :
    claimsSchema.Checked row ↔ IsToken row.requestID = true ∧ ValidIdentifier row.tenantID 128 ∧
      ValidIdentifier row.ownerID 128 ∧ ValidIdentifier row.deviceID 64 ∧
      (row.status = .pending ∨ row.status = .bound) ∧ row.createdAt < row.expiresAt := by
  simp [Schema.Checked, claimsSchema]

theorem distinct_claims :
    claimsSchema.Distinct a b ↔ a.requestID ≠ b.requestID ∧ a.claimDigest ≠ b.claimDigest := by
  simp [Schema.Distinct, claimsSchema, Unique.on]

theorem checked_owner : ownersSchema.Checked row ↔ ValidIdentifier row.deviceID 64
    ∧ ValidIdentifier row.tenantID 128 ∧ ValidIdentifier row.ownerID 128 ∧ IsToken row.bindingID =
    true ∧ 1 ≤ row.bindingRevision ∧ row.bindingRevision ≤ 4294967295 := by
  simp [Schema.Checked, ownersSchema]

theorem distinct_owners :
    ownersSchema.Distinct a b ↔ a.deviceID ≠ b.deviceID ∧ a.bindingID ≠ b.bindingID := by
  simp [Schema.Distinct, ownersSchema, Unique.on]

theorem checked_event : eventsSchema.Checked row ↔ IsToken row.eventID = true ∧
    IsToken row.bindingID = true ∧ (1 ≤ row.bindingRevision ∧ row.bindingRevision ≤ 4294967295) ∧
    row.requestID.all IsToken = true := by
  simp [Schema.Checked, eventsSchema]

theorem distinct_events : eventsSchema.Distinct a b ↔ a.eventID ≠ b.eventID ∧
    (a.deviceID = b.deviceID → a.bindingRevision ≠ b.bindingRevision) := by
  simp [Schema.Distinct, eventsSchema, Unique.on]

/-! ## Tokens -/

theorem mem_alphabet_of_isSymbol (h : Base64.IsSymbol c) : c ∈ Base64.alphabet := by
  have hall : ∀ n : Fin 64, Base64.symbol n ∈ Base64.alphabet := by decide +kernel
  obtain ⟨n, hn, rfl⟩ := h
  exact hall ⟨n, hn⟩

theorem isToken_of_canonical (h : Base64.Canonical value 16) : IsToken value = true := by
  obtain ⟨bytes, hlength, rfl⟩ := Base64.canonical_iff.mp h
  rw [IsToken, Base64.encodeToString, String.toList_ofList, Base64.length_encode, hlength]
  simp only [Nat.reduceMul, Nat.reduceAdd, Nat.reduceDiv, decide_true, Bool.true_and,
    List.all_eq_true, decide_eq_true_eq]
  exact fun c hc => mem_alphabet_of_isSymbol (Base64.isSymbol_of_mem_encode hc)

end XiaozhiPlatform.DeviceClaim
