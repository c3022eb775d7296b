import XiaozhiPlatform.Auth.Token
import XiaozhiPlatform.GoLib.Encoding
import XiaozhiPlatform.GoLib.Error
import XiaozhiPlatform.GoLib.Map
import XiaozhiPlatform.GoLib.Sha256
import XiaozhiPlatform.GoLib.Time

/-!
# The reference device claim store

An app announces a claim code for a device (`Begin`), the device presents the same code
(`Confirm`), and the device is bound to the user of the app until that user lets it go (`Release`).
`Store` is the single-process implementation of `OwnershipStore`, with its maps as finite maps and
its lock as the fact that calls are served one after the other.

A method returns the store that it leaves next to its result, because a call that fails has swept
the expired claims and may have used up its nonce. The bytes that the random source delivers
during a call are an argument; a source that runs out of them fails.

`Call` lists the calls of the `OwnershipStore` interface; `Store.serve` is the store as the object
that serves them.
-/

namespace XiaozhiPlatform.DeviceClaim

open GoLib Auth

/-! ## Claims and ownership -/

def claimBytes : ℕ := 32

def requestBytes : ℕ := 16

def nonceBytes : ℕ := 16

def bindingBytes : ℕ := 16

def errInvalid : Error := .text "invalid device claim"

def errReplay : Error := .text "replayed app claim request"

def errCapacity : Error := .text "device claim capacity reached"

def errConflict : Error := .text "device claim conflict"

def errNotFound : Error := .text "device claim not found"

def errExpired : Error := .text "device claim expired"

def errUnauthorized : Error := .text "device claim unauthorized"

def errUnavailable : Error := .text "device ownership store unavailable"

inductive Status where
  | pending
  | bound
  | expired
deriving DecidableEq, Repr

/-- What a caller learns about a claim. -/
structure Record where
  requestID : String
  deviceID : String
  status : Status
  expiresAt : Time
deriving DecidableEq, Repr

structure Ownership where
  ownerID : String
  tenantID : String
  bindingID : String
  bindingRevision : UInt64
deriving DecidableEq, Repr

/-- The ownership of a device with the mark whether it is in force. -/
structure OwnershipEntry extends Ownership where
  active : Bool
deriving DecidableEq, Repr

/-- The revision of the ownership that follows another one. -/
def nextRevision : Option OwnershipEntry → UInt64
  | none => 1
  | some owner => owner.bindingRevision + 1

/-- The digest of a claim code. -/
abbrev Digest := Vector UInt8 32

structure StoredRecord where
  requestID : String
  userID : String
  tenantID : String
  deviceID : String
  digest : Digest
  status : Status
  expiresAt : Time
deriving DecidableEq, Repr

def ValidClaimCode (value : String) : Prop := Base64.Canonical value claimBytes
deriving Decidable

def ValidAppNonce (value : String) : Prop := Base64.Canonical value nonceBytes
deriving Decidable

def ValidRequestID (value : String) : Prop := Base64.Canonical value requestBytes
deriving Decidable

def ValidBindingID (value : String) : Prop := Base64.Canonical value bindingBytes
deriving Decidable

/-- `Ownership.Matches`. -/
def Ownership.Matches (ownership : Ownership) (ownerID tenantID bindingID : String)
    (bindingRevision : UInt64) : Prop :=
  ownership.ownerID = ownerID ∧ ownership.tenantID = tenantID ∧ ownership.bindingID = bindingID ∧
    ownership.bindingRevision = bindingRevision ∧ ValidBindingID bindingID ∧
    ValidBindingRevision bindingRevision
deriving Decidable

def claimDigest (code : String) : Digest :=
  Sha256.sum256 (utf8 ("xiaozhi-device-claim-code-v1\n" ++ code).toList)

/-- The arguments that `Begin` accepts. -/
def ValidBegin (userID tenantID deviceID code appNonce : String) (now : Time) : Prop :=
  ValidIdentifier userID 128 ∧ ValidIdentifier tenantID 128 ∧ ValidIdentifier deviceID 64 ∧
    ValidClaimCode code ∧ ValidAppNonce appNonce ∧ now ≠ zeroTime
deriving Decidable

/-- The arguments that `Confirm` accepts. -/
def ValidConfirm (deviceID code : String) (now : Time) : Prop :=
  ValidIdentifier deviceID 64 ∧ ValidClaimCode code ∧ now ≠ zeroTime
deriving Decidable

/-- The arguments that `Lookup` accepts. -/
def ValidLookup (userID tenantID requestID : String) (now : Time) : Prop :=
  ValidIdentifier userID 128 ∧ ValidIdentifier tenantID 128 ∧ ValidRequestID requestID ∧
    now ≠ zeroTime
deriving Decidable

/-- The arguments that `Release` accepts. -/
def ValidRelease (userID tenantID deviceID : String) (now : Time) : Prop :=
  ValidIdentifier userID 128 ∧ ValidIdentifier tenantID 128 ∧ ValidIdentifier deviceID 64 ∧
    now ≠ zeroTime
deriving Decidable

/-! ## The store -/

structure Store where
  ttl : ℤ
  maxRecords : ℤ
  records : Std.ExtTreeMap String StoredRecord
  byDigest : Std.ExtTreeMap Digest String
  owners : Std.ExtTreeMap String OwnershipEntry
  appNonces : Std.ExtTreeMap String Time

def newStore (ttl maxRecords : ℤ) : Except Error Store := do
  failIf (ttl < minute ∨ 10 * minute < ttl ∨ maxRecords < 1 ∨ 100000 < maxRecords)
    (.text "invalid device claim store configuration")
  return ⟨ttl, maxRecords, ∅, ∅, ∅, ∅⟩

/-- The attempts of `newCanonicalID` that are left. -/
def drawCanonicalID (size : ℕ) (taken : String → Bool) : ℕ → List UInt8 → Except Error String
  | 0, _ => .error errCapacity
  | attempts + 1, random => do
    let (raw, rest) ← readFull size random
    let encoded := Base64.encodeToString raw
    if taken encoded then drawCanonicalID size taken attempts rest else .ok encoded

def newCanonicalID (size : ℕ) (taken : String → Bool) (random : List UInt8) :
    Except Error String := drawCanonicalID size taken 4 random

def publicRecord (record : StoredRecord) (now : Time) : Record where
  requestID := record.requestID
  deviceID := record.deviceID
  status := if ¬ now < record.expiresAt then .expired else record.status
  expiresAt := record.expiresAt

/-- The key of a nonce: identifiers hold no NUL, so the three parts can be told apart. -/
def nonceKey (tenantID userID appNonce : String) : String :=
  tenantID ++ "\x00" ++ userID ++ "\x00" ++ appNonce

namespace Store

def newRequestID (store : Store) (random : List UInt8) : Except Error String :=
  newCanonicalID requestBytes (fun candidate => store.records.contains candidate) random

def newBindingID (store : Store) (random : List UInt8) : Except Error String :=
  newCanonicalID bindingBytes
    (fun candidate => store.owners.toList.any fun owner => owner.2.bindingID = candidate) random

def activeRecords (store : Store) (now : Time) : ℕ :=
  store.records.toList.countP fun record => now < record.2.expiresAt

/-- The turn of `cleanup` for one claim. -/
def cleanupRecord (now : Time) (store : Store) (requestID : String) (record : StoredRecord) :
    Store :=
  { store with
    byDigest :=
      if ¬ now < record.expiresAt ∧ store.byDigest[record.digest]? = some requestID then
        store.byDigest.erase record.digest
      else store.byDigest
    records :=
      let records :=
        if ¬ now < record.expiresAt then
          store.records.insert requestID { record with status := .expired }
        else store.records
      if ¬ now < record.expiresAt + store.ttl then records.erase requestID else records }

/-- The first loop of `cleanup`. -/
def cleanupNonces (store : Store) (now : Time) : Store :=
  { store with appNonces := store.appNonces.filter fun _ expires => now < expires }

def cleanup (store : Store) (now : Time) : Store :=
  store.records.foldl (cleanupRecord now) (store.cleanupNonces now)

/-- The store with a nonce used up. -/
def useNonce (store : Store) (key : String) (now : Time) : Store :=
  { store with appNonces := store.appNonces.insert key (now + store.ttl) }

/-- The store with a new claim and its index entry. -/
def addClaim (store : Store) (record : StoredRecord) : Store :=
  { store with
    records := store.records.insert record.requestID record
    byDigest := store.byDigest.insert record.digest record.requestID }

/-- The store with a claim that a device has confirmed. -/
def markBound (store : Store) (requestID : String) (record : StoredRecord) : Store :=
  { store with records := store.records.insert requestID { record with status := .bound } }

/-- `Begin` once the nonce is accepted. -/
def register (store : Store) (userID tenantID deviceID : String) (digest : Digest) (now : Time)
    (random : List UInt8) : Store × Except Error Record :=
  match store.byDigest[digest]? with
  | some requestID =>
    (store,
      match store.records[requestID]? with
      | none => .error errConflict
      | some existing =>
        if existing.userID ≠ userID ∨ existing.tenantID ≠ tenantID ∨
            existing.deviceID ≠ deviceID ∨ ¬ now < existing.expiresAt then .error errConflict
        else .ok (publicRecord existing now))
  | none =>
    if ∃ owner ∈ store.owners[deviceID]?, owner.active = true ∧
        (owner.ownerID ≠ userID ∨ owner.tenantID ≠ tenantID) then (store, .error errConflict)
    else if store.maxRecords ≤ store.activeRecords now then (store, .error errCapacity)
    else
      match (store.newRequestID random).mapError (.wrap "generate claim request id") with
      | .error err => (store, .error err)
      | .ok requestID =>
        let record : StoredRecord :=
          ⟨requestID, userID, tenantID, deviceID, digest, .pending, now + store.ttl⟩
        (store.addClaim record, .ok (publicRecord record now))

def begin (store : Store) (userID tenantID deviceID code appNonce : String) (now : Time)
    (random : List UInt8) : Store × Except Error Record :=
  if ¬ ValidBegin userID tenantID deviceID code appNonce now then (store, .error errInvalid)
  else
    let store := store.cleanup now
    let key := nonceKey tenantID userID appNonce
    if ∃ expires ∈ store.appNonces[key]?, now < expires then (store, .error errReplay)
    else if store.maxRecords * 4 ≤ store.appNonces.size then (store, .error errCapacity)
    else
      (store.useNonce key now).register userID tenantID deviceID (claimDigest code) now random

/-- The ownership that `Confirm` creates for a device whose last ownership is not in force. -/
def newOwner (store : Store) (record : StoredRecord) (last : Option OwnershipEntry)
    (random : List UInt8) : Except Error OwnershipEntry := do
  let bindingID ← (store.newBindingID random).mapError (.wrap "generate binding id")
  failIf (∃ owner ∈ last, maximumBindingRevision ≤ owner.bindingRevision) errConflict
  return ⟨⟨record.userID, record.tenantID, bindingID, nextRevision last⟩, true⟩

/-- The owners once `Confirm` has bound the device to the user of a claim, unless it is bound
already. -/
def bindOwner (store : Store) (deviceID : String) (record : StoredRecord) (random : List UInt8) :
    Except Error (Std.ExtTreeMap String OwnershipEntry) :=
  if ∃ owner ∈ store.owners[deviceID]?, owner.active = true then .ok store.owners
  else do
    let entry ← store.newOwner record store.owners[deviceID]? random
    return store.owners.insert deviceID entry

def confirm (store : Store) (deviceID code : String) (now : Time) (random : List UInt8) :
    Store × Except Error Record :=
  if ¬ ValidConfirm deviceID code now then (store, .error errInvalid)
  else
    let store := store.cleanup now
    match store.byDigest[claimDigest code]? with
    | none => (store, .error errNotFound)
    | some requestID =>
      match store.records[requestID]? with
      | none => (store, .error errConflict)
      | some record =>
        if record.deviceID ≠ deviceID then (store, .error errConflict)
        else if ¬ now < record.expiresAt then (store, .error errExpired)
        else if ∃ owner ∈ store.owners[deviceID]?, owner.active = true ∧
            (owner.ownerID ≠ record.userID ∨ owner.tenantID ≠ record.tenantID) then
          (store, .error errConflict)
        else
          match store.bindOwner deviceID record random with
          | .error err => (store, .error err)
          | .ok owners =>
            ({ store.markBound requestID record with owners := owners },
              .ok (publicRecord { record with status := .bound } now))

def lookup (store : Store) (userID tenantID requestID : String) (now : Time) :
    Store × Except Error Record :=
  if ¬ ValidLookup userID tenantID requestID now then (store, .error errInvalid)
  else
    let store := store.cleanup now
    (store,
      match store.records[requestID]? with
      | none => .error errNotFound
      | some record =>
        if record.userID ≠ userID ∨ record.tenantID ≠ tenantID then .error errUnauthorized
        else .ok (publicRecord record now))

/-- The ownership of a device that is in force. -/
def current (store : Store) (deviceID : String) : Option Ownership :=
  (store.owners[deviceID]?.filter (·.active)).map (·.toOwnership)

def owner (store : Store) (deviceID : String) : Except Error (Option Ownership) := do
  failIf (¬ ValidIdentifier deviceID 64) errInvalid
  return store.current deviceID

/-- The loop of `Owners`: the identifiers left, those seen and the answer so far. -/
def ownersLoop (store : Store) : List String → List String → Std.ExtTreeMap String Ownership →
    Except Error (Std.ExtTreeMap String Ownership)
  | [], _, owners => .ok owners
  | deviceID :: rest, seen, owners => do
    failIf (¬ ValidIdentifier deviceID 64) errInvalid
    failIf (deviceID ∈ seen) errInvalid
    store.ownersLoop rest (deviceID :: seen)
      ((store.current deviceID).elim owners fun owner => owners.insert deviceID owner)

/-- `Owners`. -/
def ownersOf (store : Store) (deviceIDs : List String) :
    Except Error (Std.ExtTreeMap String Ownership) := do
  failIf (1000 < deviceIDs.length) errInvalid
  store.ownersLoop deviceIDs [] ∅

def release (store : Store) (userID tenantID deviceID : String) (now : Time) :
    Store × Except Error Ownership :=
  if ¬ ValidRelease userID tenantID deviceID now then (store, .error errInvalid)
  else
    match store.owners[deviceID]? with
    | none => (store, .error errNotFound)
    | some entry =>
      if entry.ownerID ≠ userID ∨ entry.tenantID ≠ tenantID then (store, .error errUnauthorized)
      else if ¬ entry.active then (store, .ok entry.toOwnership)
      else if maximumBindingRevision ≤ entry.bindingRevision then (store, .error errConflict)
      else
        let entry :=
          { entry with bindingRevision := entry.bindingRevision + 1, active := false }
        ({ store with owners := store.owners.insert deviceID entry }, .ok entry.toOwnership)

/-- The claim that the store holds for a code. -/
def claim (store : Store) (digest : Digest) : Option StoredRecord :=
  store.byDigest[digest]?.bind (store.records[·]?)

end Store

/-! ## Calls -/

/-- A call through the `OwnershipStore` interface. -/
inductive Call where
  | begin (userID tenantID deviceID code appNonce : String) (now : Time)
  | confirm (deviceID code : String) (now : Time)
  | lookup (userID tenantID requestID : String) (now : Time)
  | owner (deviceID : String)
  | owners (deviceIDs : List String)
  | release (userID tenantID deviceID : String) (now : Time)
deriving DecidableEq, Repr

inductive Reply where
  | record (result : Except Error Record)
  | owner (result : Except Error (Option Ownership))
  | owners (result : Except Error (Std.ExtTreeMap String Ownership))
  | ownership (result : Except Error Ownership)
  | done (result : Except Error Unit)
deriving DecidableEq

/-- The store serves a call with the bytes that its random source has for it. -/
def Store.serve (store : Store) (input : Call × List UInt8) : Store × Reply :=
  match input.1 with
  | .begin userID tenantID deviceID code appNonce now =>
    (store.begin userID tenantID deviceID code appNonce now input.2).map id .record
  | .confirm deviceID code now => (store.confirm deviceID code now input.2).map id .record
  | .lookup userID tenantID requestID now =>
    (store.lookup userID tenantID requestID now).map id .record
  | .owner deviceID => (store, .owner (store.owner deviceID))
  | .owners deviceIDs => (store, .owners (store.ownersOf deviceIDs))
  | .release userID tenantID deviceID now =>
    (store.release userID tenantID deviceID now).map id .ownership

end XiaozhiPlatform.DeviceClaim
