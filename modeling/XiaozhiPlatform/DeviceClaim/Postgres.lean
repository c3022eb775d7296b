import XiaozhiPlatform.DeviceClaim.Ownership
import XiaozhiPlatform.DeviceClaim.Schema

/-!
# The PostgreSQL device claim store

`PostgresStore` implements `OwnershipStore` on the ownership tables. Every replica serves its calls
as serializable transactions on one database, so a run is a list of calls, each with the replica
that serves it, the clock of the database, the bytes of the random source and the outcome of the
transaction. The advisory locks do not change what a serializable transaction computes.

- `Database.Effect`, `effect_serve`: everything that a call can do to the tables.
- `Effect.moves`: the tables run the machine of every device.
-/

namespace XiaozhiPlatform.DeviceClaim

open GoLib Auth Sql

/-! ## Configuration and errors -/

structure PostgresStore where
  ttl : ℤ
  maxRecords : ℤ
  operationTimeout : ℤ
  ttl_valid : minute ≤ ttl ∧ ttl ≤ 10 * minute
  maxRecords_valid : 1 ≤ maxRecords ∧ maxRecords ≤ 100000
  operationTimeout_valid : 100 * millisecond ≤ operationTimeout ∧ operationTimeout ≤ 30 * second

def newPostgresStore (ttl maxRecords operationTimeout : ℤ) : Except Error PostgresStore :=
  if h : (minute ≤ ttl ∧ ttl ≤ 10 * minute) ∧ (1 ≤ maxRecords ∧ maxRecords ≤ 100000) ∧
      100 * millisecond ≤ operationTimeout ∧ operationTimeout ≤ 30 * second then
    .ok ⟨ttl, maxRecords, operationTimeout, h.1, h.2.1, h.2.2⟩
  else .error (.text "invalid PostgreSQL ownership store configuration")

def unavailable (operation : String) (err : Error) : Error :=
  .detailed errUnavailable (operation ++ ": " ++ err.message)

def isBusinessError (err : Error) : Bool :=
  [errInvalid, errReplay, errCapacity, errConflict, errNotFound, errExpired, errUnauthorized].any
    err.is

/-- What the transaction loops make of the error of the last attempt. -/
def settle (err : Error) : Error :=
  if isBusinessError err then err else unavailable "ownership transaction" err

/-- `runRecordTransaction` and `runOwnershipTransaction`. -/
def runOwnership {α δ : Type} (outcome : Outcome) (body : δ → Except Error (α × δ)) (db : δ) :
    δ × Except Error α :=
  runTransaction (unavailable "ownership transaction") settle outcome body db

/-- A statement outside of a transaction, which fails as a whole or reads the tables. -/
def query {α : Type} (operation : String) (outcome : Outcome) (result : Except Error α) :
    Except Error α :=
  match outcome with
  | .reported => result
  | .failed cause => .error (unavailable operation cause)
  | .lost cause => .error (unavailable operation cause)

def randomID (size : ℕ) (random : List UInt8) : Except Error (String × List UInt8) := do
  let (raw, rest) ← readFull size random
  return (Base64.encodeToString raw, rest)

/-! ## Statements -/

def ClaimRow.record (row : ClaimRow) : Record :=
  ⟨row.requestID, row.deviceID, row.status, row.expiresAt⟩

def OwnerRow.entry (row : OwnerRow) : OwnershipEntry :=
  ⟨⟨row.ownerID, row.tenantID, row.bindingID, row.bindingRevision⟩, row.status = .active⟩

namespace Database

variable (db : Database)

def selectClaimByDigest (digest : Digest) : Option ClaimRow :=
  db.claims.select (byKey ClaimRow.claimDigest digest)

def selectOwner (deviceID : String) : Option OwnershipEntry :=
  (db.owners.select (byKey OwnerRow.deviceID deviceID)).map OwnerRow.entry

/-- The ownership of a device that is in force. -/
def current (deviceID : String) : Option Ownership :=
  ((db.selectOwner deviceID).filter (·.active)).map (·.toOwnership)

/-- `INSERT … ON CONFLICT … DO UPDATE … WHERE expires_at <= now RETURNING 1` on the nonces: no row
is returned when the nonce is in use. -/
def acceptNonce (tenantID userID appNonce : String) (expiresAt now : Time) :
    Except Error (Option Database) :=
  let row : NonceRow := ⟨tenantID, userID, appNonce, timestamptz expiresAt⟩
  match db.nonces.select (byKey NonceRow.key row.key) with
  | none => do
    let nonces ← db.nonces.insert row
    return some { db with nonces }
  | some existing =>
    if existing.expiresAt ≤ now then do
      let nonces ← db.nonces.update (byKey NonceRow.key row.key) fun old =>
        { old with expiresAt := row.expiresAt }
      return some { db with nonces }
    else return none

def insertClaim (row : ClaimRow) : Except Error Database := do
  let claims ← db.claims.insert row
  return { db with claims }

def updateClaimBound (requestID : String) : Except Error Database := do
  let claims ← db.claims.update (byKey ClaimRow.requestID requestID) fun row =>
    { row with status := .bound }
  return { db with claims }

def insertOwner (row : OwnerRow) : Except Error Database := do
  let owners ← db.owners.insert row
  return { db with owners }

def updateOwner (deviceID : String) (f : OwnerRow → OwnerRow) : Except Error Database := do
  let owners ← db.owners.update (byKey OwnerRow.deviceID deviceID) f
  return { db with owners }

def insertEvent (row : EventRow) : Except Error Database := do
  let events ← db.events.insert row
  failIf ((db.owners.select (byKey OwnerRow.deviceID row.deviceID)).isNone = true)
    (foreignKeyViolation "device_ownership_events" "device_ownership_events_device_id_fkey")
  return { db with events }

/-! ## Transactions -/

/-- The transaction of `Begin`. -/
def beginClaim (ttl maxRecords : ℤ) (userID tenantID deviceID appNonce requestID : String)
    (digest : Digest) (now : Time) : Except Error (Record × Database) := do
  let expiresAt := now + ttl
  match ← db.acceptNonce tenantID userID appNonce expiresAt now with
  | none => .error errReplay
  | some db =>
    match db.selectClaimByDigest digest with
    | some existing => do
      failIf (existing.ownerID ≠ userID ∨ existing.tenantID ≠ tenantID ∨
        existing.deviceID ≠ deviceID ∨ ¬ now < existing.expiresAt) errConflict
      return (existing.record, db)
    | none => do
      failIf (∃ owner ∈ db.selectOwner deviceID, owner.active = true ∧
        (owner.ownerID ≠ userID ∨ owner.tenantID ≠ tenantID)) errConflict
      failIf (maxRecords ≤ db.claims.count fun row => now < row.expiresAt) errCapacity
      let db ← db.insertClaim ⟨requestID, tenantID, userID, deviceID, digest, .pending,
        timestamptz expiresAt, timestamptz now⟩
      return (⟨requestID, deviceID, .pending, expiresAt⟩, db)

/-- The statement of `Confirm` on the owner of the device: a first row, a new binding, or none. -/
def writeOwner (last : Option OwnershipEntry) (claim : ClaimRow) (bindingID : String) (now : Time) :
    Except Error Database :=
  match last with
  | none =>
    db.insertOwner ⟨claim.deviceID, claim.tenantID, claim.ownerID, bindingID, 1, .active,
      timestamptz now⟩
  | some owner =>
    if ¬ owner.active then
      db.updateOwner claim.deviceID fun row =>
        { row with
          tenantID := claim.tenantID
          ownerID := claim.ownerID
          bindingID := bindingID
          bindingRevision := nextRevision (some owner)
          status := .active
          boundAt := timestamptz now }
    else return db

/-- The statements of `Confirm` on the claim and on the event log. -/
def writeBound (last : Option OwnershipEntry) (claim : ClaimRow) (eventID bindingID : String)
    (now : Time) : Except Error Database :=
  if claim.status ≠ .bound then do
    let db ← db.updateClaimBound claim.requestID
    if last.all fun owner => !owner.active then
      db.insertEvent ⟨eventID, .bind, claim.deviceID, claim.tenantID, claim.ownerID, bindingID,
        nextRevision last, some claim.requestID, timestamptz now⟩
    else return db
  else return db

/-- The transaction of `Confirm`. -/
def confirmClaim (deviceID eventID bindingID : String) (digest : Digest) (now : Time) :
    Except Error (Record × Database) :=
  match db.selectClaimByDigest digest with
  | none => .error errNotFound
  | some claim => do
    failIf (claim.deviceID ≠ deviceID) errConflict
    failIf (¬ now < claim.expiresAt) errExpired
    let last := db.selectOwner deviceID
    failIf (∃ owner ∈ last, owner.active = true ∧
      (owner.ownerID ≠ claim.ownerID ∨ owner.tenantID ≠ claim.tenantID)) errConflict
    failIf (∃ owner ∈ last, maximumBindingRevision ≤ owner.bindingRevision) errConflict
    let db ← db.writeOwner last claim bindingID now
    let db ← db.writeBound last claim eventID bindingID now
    return ({ claim.record with status := .bound }, db)

/-- The transaction of `Release`. -/
def releaseOwner (userID tenantID deviceID eventID : String) (now : Time) :
    Except Error (Ownership × Database) :=
  match db.selectOwner deviceID with
  | none => .error errNotFound
  | some owner => do
    failIf (owner.ownerID ≠ userID ∨ owner.tenantID ≠ tenantID) errUnauthorized
    if ¬ owner.active then return (owner.toOwnership, db)
    else
      failIf (maximumBindingRevision ≤ owner.bindingRevision) errConflict
      let bindingRevision := owner.bindingRevision + 1
      let db ← db.updateOwner deviceID fun row =>
        { row with bindingRevision := bindingRevision, status := .released }
      let db ← db.insertEvent ⟨eventID, .release, deviceID, tenantID, userID, owner.bindingID,
        bindingRevision, none, timestamptz now⟩
      return ({ owner.toOwnership with bindingRevision := bindingRevision }, db)

/-- The transaction of `Prune`. -/
def pruneExpired (ttl : ℤ) (now : Time) : Except Error (Unit × Database) :=
  .ok ((), { db with
    nonces := db.nonces.delete fun row => row.expiresAt ≤ now
    claims := db.claims.delete fun row => row.expiresAt ≤ now - ttl / second * second })

/-! ## Queries -/

def queryOwner (deviceID : String) : Option Ownership := db.current deviceID

/-- The loop of `queryOwners` over its arguments. -/
def checkDevices : List String → List String → Except Error Unit
  | [], _ => .ok ()
  | deviceID :: rest, seen => do
    failIf (¬ ValidIdentifier deviceID 64) errInvalid
    failIf (deviceID ∈ seen) errInvalid
    checkDevices rest (deviceID :: seen)

/-- The loop of `queryOwners` over the rows that the database returns. -/
def scanOwners (deviceIDs : List String) : List OwnerRow → Std.ExtTreeMap String Ownership →
    Except Error (Std.ExtTreeMap String Ownership)
  | [], owners => .ok owners
  | row :: rest, owners => do
    failIf (row.deviceID ∉ deviceIDs ∨ ¬ ValidIdentifier row.ownerID 128 ∨
      ¬ ValidIdentifier row.tenantID 128 ∨ ¬ ValidBindingID row.bindingID ∨
      ¬ ValidBindingRevision row.bindingRevision) (unavailable "validate device owner" errInvalid)
    scanOwners deviceIDs rest (owners.insert row.deviceID row.entry.toOwnership)

def queryOwners (outcome : Outcome) (deviceIDs : List String) :
    Except Error (Std.ExtTreeMap String Ownership) := do
  failIf (1000 < deviceIDs.length) errInvalid
  if deviceIDs = [] then return ∅
  else
    checkDevices deviceIDs []
    query "resolve device owners" outcome (scanOwners deviceIDs
      (db.owners.rows.filter fun row => row.status = .active && decide (row.deviceID ∈ deviceIDs)) ∅)

def queryClaim (userID tenantID requestID : String) (now : Time) : Except Error Record :=
  match db.claims.select (byKey ClaimRow.requestID requestID) with
  | none => .error errNotFound
  | some row => do
    failIf (row.ownerID ≠ userID ∨ row.tenantID ≠ tenantID) errUnauthorized
    return if ¬ now < row.expiresAt then { row.record with status := .expired } else row.record

end Database

/-! ## Calls -/

namespace PostgresStore

variable (store : PostgresStore) (db : Database) (userID tenantID deviceID : String) (now clock : Time)
  (random : List UInt8) (outcome : Outcome)

def begin (code appNonce : String) : Database × Except Error Record :=
  if ¬ ValidBegin userID tenantID deviceID code appNonce now then (db, .error errInvalid)
  else
    match (randomID requestBytes random).mapError (.wrap "generate claim request id") with
    | .error err => (db, .error err)
    | .ok (requestID, _) =>
      runOwnership outcome (fun db =>
        db.beginClaim store.ttl store.maxRecords userID tenantID deviceID appNonce requestID
          (claimDigest code) (timestamptz clock)) db

def confirm (code : String) : Database × Except Error Record :=
  if ¬ ValidConfirm deviceID code now then (db, .error errInvalid)
  else
    match (randomID requestBytes random).mapError (.wrap "generate ownership event id") with
    | .error err => (db, .error err)
    | .ok (eventID, rest) =>
      match (randomID bindingBytes rest).mapError (.wrap "generate ownership binding id") with
      | .error err => (db, .error err)
      | .ok (bindingID, _) =>
        runOwnership outcome (fun db =>
          db.confirmClaim deviceID eventID bindingID (claimDigest code) (timestamptz clock)) db

def lookup (requestID : String) : Except Error Record :=
  if ¬ ValidLookup userID tenantID requestID now then .error errInvalid
  else
    query "lookup ownership claim" outcome
      (db.queryClaim userID tenantID requestID (timestamptz clock))

def owner : Except Error (Option Ownership) :=
  if ¬ ValidIdentifier deviceID 64 then .error errInvalid
  else query "resolve device owner" outcome (.ok (db.queryOwner deviceID))

def owners (deviceIDs : List String) : Except Error (Std.ExtTreeMap String Ownership) :=
  db.queryOwners outcome deviceIDs

def release : Database × Except Error Ownership :=
  if ¬ ValidRelease userID tenantID deviceID now then (db, .error errInvalid)
  else
    match (randomID requestBytes random).mapError (.wrap "generate ownership release event id") with
    | .error err => (db, .error err)
    | .ok (eventID, _) =>
      runOwnership outcome (fun db =>
        db.releaseOwner userID tenantID deviceID eventID (timestamptz clock)) db

def prune : Database × Except Error Unit :=
  if now = zeroTime then (db, .error errInvalid)
  else
    runTransaction (unavailable "prune ownership claims") (unavailable "prune ownership claims")
      outcome (fun db => db.pruneExpired store.ttl (timestamptz clock)) db

end PostgresStore

/-- A call that a replica serves: the clock of the database, the random bytes of the replica and
the outcome of the transaction are as they happen to be. -/
structure PostgresInput where
  store : PostgresStore
  /-- The call through the interface; none is a call of `Prune`. -/
  call : Option Call
  now : Time
  clock : Time
  random : List UInt8
  outcome : Outcome

def Database.serve (db : Database) (input : PostgresInput) : Database × Reply :=
  match input.call with
  | some (.begin userID tenantID deviceID code appNonce now) =>
    (input.store.begin db userID tenantID deviceID now input.clock input.random input.outcome
      code appNonce).map id .record
  | some (.confirm deviceID code now) =>
    (PostgresStore.confirm db deviceID now input.clock input.random input.outcome code).map
      id .record
  | some (.lookup userID tenantID requestID now) =>
    (db, .record (PostgresStore.lookup db userID tenantID now input.clock input.outcome requestID))
  | some (.owner deviceID) => (db, .owner (PostgresStore.owner db deviceID input.outcome))
  | some (.owners deviceIDs) => (db, .owners (PostgresStore.owners db input.outcome deviceIDs))
  | some (.release userID tenantID deviceID now) =>
    (PostgresStore.release db userID tenantID deviceID now input.clock input.random
      input.outcome).map id .ownership
  | none =>
    (input.store.prune db input.now input.clock input.outcome).map id .done

/-! ## Effects -/

variable {deviceID bindingID tenantID eventID userID : String} {now : Time} {claim row : ClaimRow}
  {digest : Digest}

namespace Database

variable {db next : Database}

theorem nodup_claimDigest (db : Database) : (db.claims.rows.map ClaimRow.claimDigest).Nodup :=
  Table.nodup_key "ownership_claims_claim_digest_key" (by simp [claimsSchema])

theorem nodup_requestID (db : Database) : (db.claims.rows.map ClaimRow.requestID).Nodup :=
  Table.nodup_key "ownership_claims_pkey" (by simp [claimsSchema])

theorem nodup_deviceID (db : Database) : (db.owners.rows.map OwnerRow.deviceID).Nodup :=
  Table.nodup_key "device_owners_pkey" (by simp [ownersSchema])

theorem selectClaimByDigest_eq_some :
    db.selectClaimByDigest digest = some row ↔ row ∈ db.claims.rows ∧ row.claimDigest = digest :=
  find?_key_iff db.nodup_claimDigest

/-! A statement changes its own table alone. -/

theorem acceptNonce_ok
    (h : db.acceptNonce tenantID userID appNonce expiresAt now = .ok (some next)) :
    next.claims = db.claims ∧ next.owners = db.owners ∧ next.events = db.events := by
  simp only [acceptNonce] at h
  split at h
  · obtain ⟨nonces, -, hnext⟩ := (bind_eq_ok _ _ _).mp h
    obtain rfl := Option.some.inj (Except.ok.inj hnext)
    exact ⟨rfl, rfl, rfl⟩
  · split at h
    · obtain ⟨nonces, -, hnext⟩ := (bind_eq_ok _ _ _).mp h
      obtain rfl := Option.some.inj (Except.ok.inj hnext)
      exact ⟨rfl, rfl, rfl⟩
    · simp [pure, Except.pure] at h

theorem insertClaim_ok (h : db.insertClaim row = .ok next) : next.claims.rows =
    db.claims.rows ++ [row] ∧ next.owners = db.owners ∧ next.events = db.events := by
  obtain ⟨claims, hclaims, hnext⟩ := (bind_eq_ok _ _ _).mp h
  obtain rfl := Except.ok.inj hnext
  exact ⟨Table.rows_insert hclaims, rfl, rfl⟩

theorem updateClaimBound_ok (h : db.updateClaimBound requestID = .ok next) :
    (next.claims.rows = db.claims.rows.map fun row =>
      if byKey ClaimRow.requestID requestID row then { row with status := .bound } else row) ∧
      next.owners = db.owners ∧ next.events = db.events := by
  obtain ⟨claims, hclaims, hnext⟩ := (bind_eq_ok _ _ _).mp h
  obtain rfl := Except.ok.inj hnext
  exact ⟨Table.rows_update hclaims, rfl, rfl⟩

theorem insertOwner_ok {row : OwnerRow} (h : db.insertOwner row = .ok next) : next.owners.rows =
    db.owners.rows ++ [row] ∧ next.claims = db.claims ∧ next.events = db.events := by
  obtain ⟨owners, howners, hnext⟩ := (bind_eq_ok _ _ _).mp h
  obtain rfl := Except.ok.inj hnext
  exact ⟨Table.rows_insert howners, rfl, rfl⟩

theorem updateOwner_ok {f : OwnerRow → OwnerRow} (h : db.updateOwner deviceID f
    = .ok next) : (next.owners.rows = db.owners.rows.map fun row => if byKey OwnerRow.deviceID
    deviceID row then f row else row) ∧ next.claims = db.claims ∧ next.events = db.events := by
  obtain ⟨owners, howners, hnext⟩ := (bind_eq_ok _ _ _).mp h
  obtain rfl := Except.ok.inj hnext
  exact ⟨Table.rows_update howners, rfl, rfl⟩

theorem insertEvent_ok {row : EventRow} (h : db.insertEvent row = .ok next) : next.events.rows =
    db.events.rows ++ [row] ∧ next.claims = db.claims ∧ next.owners = db.owners := by
  obtain ⟨events, hevents, hrest⟩ := (bind_eq_ok _ _ _).mp h
  rw [failIf_bind_eq_ok] at hrest
  obtain rfl := Except.ok.inj hrest.2
  exact ⟨Table.rows_insert hevents, rfl, rfl⟩

/-! The rows that a statement leaves, as the selects see them. -/

theorem selectClaim_insert (hrows : next.claims.rows = db.claims.rows ++ [row])
    (hfresh : db.selectClaimByDigest row.claimDigest = none) (digest : Digest) :
    next.selectClaimByDigest digest =
      if row.claimDigest = digest then some row else db.selectClaimByDigest digest :=
  Table.select_insert hrows hfresh

theorem selectClaim_bound (hclaim : db.selectClaimByDigest digest = some claim)
    (hrows : next.claims.rows = db.claims.rows.map fun row =>
      if byKey ClaimRow.requestID claim.requestID row then { row with status := .bound } else row)
    (other : Digest) :
    next.selectClaimByDigest other =
      if digest = other then some { claim with status := .bound }
      else db.selectClaimByDigest other := by
  have hselect : next.selectClaimByDigest other = (db.selectClaimByDigest other).map fun row =>
      if byKey ClaimRow.requestID claim.requestID row then { row with status := .bound } else row :=
    Table.select_update hrows fun _ => rfl
  rw [hselect]
  obtain ⟨hmem, hdigest⟩ := selectClaimByDigest_eq_some.mp hclaim
  split
  next heq =>
    subst heq
    rw [hclaim, Option.map_some, if_pos (byKey_iff.mpr rfl)]
  next hne =>
    cases hother : db.selectClaimByDigest other with
    | none => rfl
    | some row =>
      -- A row with the request of the claim is the claim, and has its digest.
      obtain ⟨hrow, hrowDigest⟩ := selectClaimByDigest_eq_some.mp hother
      have hid : ¬ byKey ClaimRow.requestID claim.requestID row = true := by
        rw [byKey_iff]
        intro heq
        have := List.inj_on_of_nodup_map db.nodup_requestID hrow hmem heq
        exact hne (by rw [← hdigest, ← this, hrowDigest])
      rw [Option.map_some, if_neg hid]

theorem selectOwner_insert {row : OwnerRow} (hrows : next.owners.rows = db.owners.rows ++ [row])
    (hfresh : db.selectOwner row.deviceID = none) (device : String) :
    next.selectOwner device = if row.deviceID = device then some row.entry else db.selectOwner device := by
  rw [selectOwner, Table.select_insert hrows (Option.map_eq_none_iff.mp hfresh)]
  split <;> rfl

theorem selectOwner_update {f : OwnerRow → OwnerRow} (hf : ∀ row, (f
    row).deviceID = row.deviceID) (hrows : next.owners.rows = db.owners.rows.map fun row => if byKey
    OwnerRow.deviceID deviceID row then f row else row) (device : String) : next.selectOwner device
    = if deviceID = device then (db.owners.select (byKey OwnerRow.deviceID device)).map fun row =>
    (f row).entry else db.selectOwner device := by
  rw [selectOwner, Table.select_update_key hrows hf]
  split
  · exact Option.map_map ..
  · rfl

/-- Everything that a call can do to the tables, as far as claims and owners are concerned. -/
inductive Effect (db : Database) : Option Call → Database → Prop
  | same (call : Option Call) : Effect db call db
  | nonce {next : Database} (call : Option Call) (hclaims : next.claims = db.claims)
      (howners : next.owners = db.owners) : Effect db call next
  | registered {userID tenantID deviceID code appNonce : String} {now : Time} {next : Database}
      (row : ClaimRow) (hstatus : row.status = .pending)
      (hdigest : row.claimDigest = claimDigest code)
      (hfresh : db.selectClaimByDigest row.claimDigest = none)
      (hclaims : next.claims.rows = db.claims.rows ++ [row]) (howners : next.owners = db.owners) :
      Effect db (some (.begin userID tenantID deviceID code appNonce now)) next
  | confirmed {deviceID code : String} {now : Time} {claim : ClaimRow} {next : Database}
      (bindingID : String) (hclaim : db.selectClaimByDigest (claimDigest code) = some claim)
      (hdevice : claim.deviceID = deviceID)
      (hclaims : ∀ digest, next.selectClaimByDigest digest =
        if claimDigest code = digest then some { claim with status := .bound }
        else db.selectClaimByDigest digest)
      (hroom : ∀ owner ∈ db.selectOwner deviceID, owner.bindingRevision < maximumBindingRevision)
      (howners : ∀ device, next.selectOwner device =
        if deviceID = device ∧ ¬ ∃ owner ∈ db.selectOwner deviceID, owner.active = true then
          some ⟨⟨claim.ownerID, claim.tenantID, bindingID, nextRevision (db.selectOwner deviceID)⟩,
            true⟩
        else db.selectOwner device) :
      Effect db (some (.confirm deviceID code now)) next
  | released {userID tenantID deviceID : String} {now : Time} {entry : OwnershipEntry}
      {next : Database} (hentry : db.selectOwner deviceID = some entry)
      (hactive : entry.active = true) (hroom : entry.bindingRevision < maximumBindingRevision)
      (hclaims : next.claims = db.claims)
      (howners : ∀ device, next.selectOwner device =
        if deviceID = device then
          some { entry with bindingRevision := entry.bindingRevision + 1, active := false }
        else db.selectOwner device) :
      Effect db (some (.release userID tenantID deviceID now)) next
  | pruned (keep : ClaimRow → Bool) {next : Database}
      (hclaims : next.claims.rows = db.claims.rows.filter keep)
      (howners : next.owners = db.owners) : Effect db none next

theorem effect_beginClaim (h : db.beginClaim ttl maxRecords userID tenantID
    deviceID appNonce requestID (claimDigest code) now = .ok (record, next)) : db.Effect (some
    (.begin userID tenantID deviceID code appNonce sent)) next := by
  obtain ⟨accepted, haccepted, hrest⟩ := (bind_eq_ok _ _ _).mp h
  cases accepted with
  | none => simp at hrest
  | some used =>
    obtain ⟨hclaims, howners, hevents⟩ := acceptNonce_ok haccepted
    simp only at hrest
    split at hrest
    next existing hexisting =>
      rw [failIf_bind_eq_ok] at hrest
      obtain ⟨-, rfl⟩ := Prod.mk.inj (Except.ok.inj hrest.2)
      exact .nonce _ hclaims howners
    next hnone =>
      rw [failIf_bind_eq_ok, failIf_bind_eq_ok, bind_eq_ok] at hrest
      obtain ⟨-, -, inserted, hinserted, hlast⟩ := hrest
      cases hlast
      obtain ⟨hrows, howners', -⟩ := insertClaim_ok hinserted
      refine .registered _ rfl rfl ?_ (hclaims ▸ hrows) (howners'.trans howners)
      rw [selectClaimByDigest, ← hclaims]
      exact hnone

theorem writeOwner_ok (h : db.writeOwner
    (db.selectOwner claim.deviceID) claim bindingID now = .ok next) : next.claims = db.claims ∧
    next.events = db.events ∧ ∀ device, next.selectOwner device = if claim.deviceID = device ∧ ¬ ∃
    owner ∈ db.selectOwner claim.deviceID, owner.active = true then some ⟨⟨claim.ownerID,
    claim.tenantID, bindingID, nextRevision (db.selectOwner claim.deviceID)⟩, true⟩ else
    db.selectOwner device := by
  unfold writeOwner at h
  split at h
  next hnone =>
    obtain ⟨hrows, hclaims, hevents⟩ := insertOwner_ok h
    refine ⟨hclaims, hevents, fun device => ?_⟩
    rw [selectOwner_insert hrows hnone, hnone]
    simp [OwnerRow.entry, nextRevision]
  next owner hsome =>
    split at h
    next hreleased =>
      obtain ⟨hrows, hclaims, hevents⟩ := updateOwner_ok h
      refine ⟨hclaims, hevents, fun device => ?_⟩
      rw [selectOwner_update (by simp) hrows, hsome]
      obtain ⟨row, hrow, -⟩ := Option.map_eq_some_iff.mp hsome
      by_cases hdevice : claim.deviceID = device
      · subst hdevice
        simp [hrow, OwnerRow.entry, hreleased]
      · simp [hdevice]
    next hactive =>
      obtain rfl := Except.ok.inj h
      refine ⟨rfl, rfl, fun device => ?_⟩
      rw [if_neg]
      rintro ⟨-, hfree⟩
      exact hfree ⟨owner, hsome, not_not.mp hactive⟩

theorem writeBound_ok {last : Option OwnershipEntry}
    (hclaim : db.selectClaimByDigest digest = some claim)
    (h : db.writeBound last claim eventID bindingID now = .ok next) :
    next.owners = db.owners ∧ ∀ other, next.selectClaimByDigest other =
      if digest = other then some { claim with status := .bound }
      else db.selectClaimByDigest other := by
  rw [writeBound] at h
  split at h
  next hpending =>
    obtain ⟨updated, hupdated, hrest⟩ := (bind_eq_ok _ _ _).mp h
    obtain ⟨hrows, howners, -⟩ := updateClaimBound_ok hupdated
    have hselect := selectClaim_bound hclaim hrows
    split at hrest
    · obtain ⟨-, hclaims, howners'⟩ := insertEvent_ok hrest
      refine ⟨howners'.trans howners, fun other => ?_⟩
      rw [selectClaimByDigest, hclaims]
      exact hselect other
    · obtain rfl := Except.ok.inj hrest
      exact ⟨howners, hselect⟩
  next hbound =>
    obtain rfl := Except.ok.inj h
    refine ⟨rfl, fun other => ?_⟩
    split
    next heq =>
      subst heq
      rw [hclaim, ← not_not.mp hbound]
    next hne => rfl

theorem effect_confirmClaim
    (h : db.confirmClaim deviceID eventID bindingID (claimDigest code) now = .ok (record,
    next)) : db.Effect (some (.confirm deviceID code sent)) next := by
  rw [confirmClaim] at h
  split at h
  · simp at h
  next claim hclaim =>
    simp only [failIf_bind_eq_ok] at h
    simp only [bind_eq_ok] at h
    obtain ⟨hdevice, hlive, hother, hroom, bound, hbound, marked, hmarked, hlast⟩ := h
    obtain rfl := not_not.mp hdevice
    cases hlast
    obtain ⟨hclaims, -, howners⟩ := writeOwner_ok hbound
    have hclaim' : bound.selectClaimByDigest (claimDigest code) = some claim := by
      rw [selectClaimByDigest, hclaims]
      exact hclaim
    obtain ⟨howners', hselect⟩ := writeBound_ok hclaim' hmarked
    refine .confirmed bindingID hclaim rfl (fun digest => ?_) (fun owner howner => ?_) (fun device => ?_)
    · rw [hselect, selectClaimByDigest, hclaims, selectClaimByDigest]
    · grind
    · rw [selectOwner, howners', ← selectOwner, howners]

theorem effect_releaseOwner {sent : Time} {ownership : Ownership}
    (h : db.releaseOwner userID tenantID deviceID eventID now = .ok (ownership,
    next)) : db.Effect (some (.release userID tenantID deviceID sent)) next := by
  rw [releaseOwner] at h
  split at h
  · simp at h
  next owner hsome =>
    rw [failIf_bind_eq_ok] at h
    obtain ⟨-, h⟩ := h
    split at h
    · cases h
      exact .same _
    next hactive =>
      simp only [failIf_bind_eq_ok] at h
      simp only [bind_eq_ok] at h
      obtain ⟨hroom, updated, hupdated, logged, hlogged, hlast⟩ := h
      cases hlast
      obtain ⟨hrows, hclaims, -⟩ := updateOwner_ok hupdated
      obtain ⟨-, hclaims', howners⟩ := insertEvent_ok hlogged
      refine .released hsome (not_not.mp hactive) (UInt64.not_le.mp hroom)
        (hclaims'.trans hclaims) fun device => ?_
      rw [selectOwner, howners, ← selectOwner, selectOwner_update (by simp) hrows]
      obtain ⟨row, hrow, rfl⟩ := Option.map_eq_some_iff.mp hsome
      by_cases hdevice : deviceID = device
      · subst hdevice
        simp [hrow, OwnerRow.entry]
      · simp [hdevice]

theorem effect_transaction {α : Type} {unavailable settle : Error → Error}
    {body : Database → Except Error (α × Database)}
    (hbody : ∀ value next, body db = .ok (value, next) → db.Effect call next) :
    db.Effect call (runTransaction unavailable settle outcome body db).1 := by
  rcases runTransaction_cases unavailable settle outcome body db with hsame | ⟨value, hok⟩
  · rw [hsame]
    exact .same _
  · exact hbody value _ hok

theorem effect_serve (db : Database) (input : PostgresInput) :
    db.Effect input.call (db.serve input).1 := by
  obtain ⟨store, call, now, clock, random, outcome⟩ := input
  match call with
  | some (.begin userID tenantID deviceID code appNonce sent) =>
    simp only [serve, PostgresStore.begin, Prod.map_fst, id_eq]
    split
    · exact .same _
    split
    · exact .same _
    · exact effect_transaction fun _ _ h => effect_beginClaim h
  | some (.confirm deviceID code sent) =>
    simp only [serve, PostgresStore.confirm, Prod.map_fst, id_eq]
    split
    · exact .same _
    split
    · exact .same _
    split
    · exact .same _
    · exact effect_transaction fun _ _ h => effect_confirmClaim h
  | some (.lookup userID tenantID requestID sent) => exact .same _
  | some (.owner deviceID) => exact .same _
  | some (.owners deviceIDs) => exact .same _
  | some (.release userID tenantID deviceID sent) =>
    simp only [serve, PostgresStore.release, Prod.map_fst, id_eq]
    split
    · exact .same _
    split
    · exact .same _
    · exact effect_transaction fun _ _ h => effect_releaseOwner h
  | none =>
    simp only [serve, PostgresStore.prune, Prod.map_fst, id_eq]
    split
    · exact .same _
    · refine effect_transaction fun _ _ h => ?_
      cases h
      exact .pruned _ rfl rfl

/-- Every call moves the machine of every device. -/
theorem Effect.moves (h : db.Effect call next) (device : String) :
    Moves (db.selectOwner device) (next.selectOwner device) := by
  cases h with
  | same => exact .keep _
  | nonce _ _ howners | registered _ _ _ _ _ howners | pruned _ _ howners =>
    rw [selectOwner, selectOwner, howners]
    exact .keep _
  | confirmed _ _ _ _ hroom howners =>
    rw [howners]
    split
    next hfree =>
      obtain ⟨rfl, hfree⟩ := hfree
      refine .bind (fun owner howner => ?_) hroom rfl rfl
      by_contra hactive
      exact hfree ⟨owner, howner, by simpa using hactive⟩
    next => exact .keep _
  | released hentry hactive hroom _ howners =>
    rw [howners]
    split
    next heq =>
      rw [← heq, hentry]
      exact .release hactive hroom
    next => exact .keep _

theorem versioned_owners (device : String) :
    Versioned Database.serve (fun _ => True) (fun db => db.selectOwner device) revision where
  invariant _ _ _ := trivial
  step db input _ := ((effect_serve db input).moves device).revision_lt

end Database

end XiaozhiPlatform.DeviceClaim
