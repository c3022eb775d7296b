import XiaozhiPlatform.ActionConsent.Contract
import XiaozhiPlatform.DeviceClaim.Postgres

/-!
# The PostgreSQL consent store

`PostgresStore` implements `DecisionStore` and `WakeOutbox` on the tables of the migrations
`0002_action_consent.sql` and `0003_action_consent_wake_outbox.sql`, which refer to the ownership
tables of the same database. The calls of both stores are serializable transactions on that one
database, so a run is a list of calls of either store. The column `capability` has one permitted
value and is left out.

- `ConsentEffect`, `effect_consent`: everything that a call can do to the challenges.
-/

namespace XiaozhiPlatform.ActionConsent

open GoLib Auth Sql
open DeviceClaim (IsToken OwnerRow OwnershipEntry)

/-! ## Tables -/

/-- A row of `action_consent_challenges`. -/
structure ChallengeRow where
  challengeID : String
  deviceID : String
  tenantID : String
  ownerID : String
  ownerRevision : UInt64
  sessionID : String
  requestID : UInt32
  indicatorOn : Bool
  decision : Option Decision
  createdAt : Time
  expiresAt : Time
  decidedAt : Option Time
  consumedAt : Option Time
deriving DecidableEq, Repr

def challengesSchema : Schema ChallengeRow where
  name := "action_consent_challenges"
  checks := [
    ⟨"action_consent_challenges_challenge_id_check", fun row => IsToken row.challengeID⟩,
    ⟨"action_consent_challenges_tenant_id_check", fun row => ValidIdentifier row.tenantID 128⟩,
    ⟨"action_consent_challenges_owner_id_check", fun row => ValidIdentifier row.ownerID 128⟩,
    ⟨"action_consent_challenges_owner_revision_check", fun row =>
      1 ≤ row.ownerRevision && row.ownerRevision ≤ 4294967295⟩,
    ⟨"action_consent_challenges_session_id_check", fun row => ValidIdentifier row.sessionID 64⟩,
    ⟨"action_consent_challenges_request_id_check", fun row => 1 ≤ row.requestID⟩,
    ⟨"action_consent_challenges_check", fun row => row.createdAt < row.expiresAt⟩,
    ⟨"action_consent_challenges_check1", fun row => row.expiresAt ≤ row.createdAt + 30 * second⟩,
    ⟨"action_consent_challenges_check2", fun row => row.decision.isNone == row.decidedAt.isNone⟩,
    ⟨"action_consent_challenges_check3", fun row => row.consumedAt.isNone || row.decision.isSome⟩]
  uniques := [
    .on "action_consent_challenges_pkey" ChallengeRow.challengeID,
    .on "action_consent_challenges_device_id_session_id_request_id_key"
      fun row => (row.deviceID, row.sessionID, row.requestID)]

/-- A row of `action_consent_wake_outbox`. -/
structure WakeRow where
  challengeID : String
  createdAt : Time
  availableAt : Time
  expiresAt : Time
  attempts : UInt32
  claimedBy : Option String
  leaseUntil : Option Time
deriving DecidableEq, Repr

def wakesSchema : Schema WakeRow where
  name := "action_consent_wake_outbox"
  checks := [
    ⟨"action_consent_wake_outbox_attempts_check", fun row => row.attempts ≤ 100000⟩,
    ⟨"action_consent_wake_outbox_claimed_by_check", fun row =>
      row.claimedBy.all fun worker => ValidIdentifier worker 64⟩,
    ⟨"action_consent_wake_outbox_check", fun row => row.createdAt < row.expiresAt⟩,
    ⟨"action_consent_wake_outbox_check1", fun row => row.expiresAt ≤ row.createdAt + 30 * second⟩,
    ⟨"action_consent_wake_outbox_check2", fun row => row.createdAt ≤ row.availableAt⟩,
    ⟨"action_consent_wake_outbox_check3", fun row =>
      row.claimedBy.isNone == row.leaseUntil.isNone⟩]
  uniques := [.on "action_consent_wake_outbox_pkey" WakeRow.challengeID]

/-- The tables of ownership and of action consents in one database. -/
structure Database extends DeviceClaim.Database where
  challenges : Table challengesSchema
  wakes : Table wakesSchema

def Database.empty : Database := ⟨.empty, .empty, .empty⟩

/-! ## Configuration and errors -/

structure PostgresStore where
  maxRecords : ℤ
  operationTimeout : ℤ
  maxRecords_valid : 1 ≤ maxRecords ∧ maxRecords ≤ 100000
  operationTimeout_valid : 100 * millisecond ≤ operationTimeout ∧ operationTimeout ≤ 30 * second

def newPostgresStore (maxRecords operationTimeout : ℤ) : Except Error PostgresStore :=
  if h : (1 ≤ maxRecords ∧ maxRecords ≤ 100000) ∧
      100 * millisecond ≤ operationTimeout ∧ operationTimeout ≤ 30 * second then
    .ok ⟨maxRecords, operationTimeout, h.1, h.2⟩
  else .error (.text "invalid PostgreSQL action consent configuration")

def postgresUnavailable (operation : String) (err : Error) : Error :=
  .detailed errUnavailable (operation ++ ": " ++ err.message)

def postgresBusinessError (err : Error) : Bool :=
  [errInvalid, errReplay, errCapacity, errConflict, errNotFound, errExpired, errPending].any err.is

def postgresUniqueViolation (err : Error) : Bool := err.sqlState = some "23505"

/-- What `runTransaction` makes of the error of the last attempt. -/
def settleConsent (err : Error) : Error :=
  if postgresUniqueViolation err then errConflict
  else if postgresBusinessError err then err
  else postgresUnavailable "action consent transaction" err

/-- What `runWakeTransaction` makes of it: here a key that occurs twice is no conflict. -/
def settleWake (err : Error) : Error :=
  if postgresBusinessError err then err else postgresUnavailable "action wake transaction" err

def runConsent {α : Type} (outcome : Outcome) (body : Database → Except Error (α × Database))
    (db : Database) : Database × Except Error α :=
  runTransaction (postgresUnavailable "action consent transaction") settleConsent outcome body db

def runWake {α : Type} (outcome : Outcome) (body : Database → Except Error (α × Database))
    (db : Database) : Database × Except Error α :=
  runTransaction (postgresUnavailable "action wake transaction") settleWake outcome body db

/-! ## Statements -/

/-- The row that `Register` inserts. -/
def Challenge.row (challenge : Challenge) (now : Time) : ChallengeRow where
  challengeID := challenge.challengeID
  deviceID := challenge.deviceID
  tenantID := challenge.tenantID
  ownerID := challenge.ownerID
  ownerRevision := challenge.ownerRevision
  sessionID := challenge.sessionID
  requestID := challenge.requestID
  indicatorOn := challenge.action.indicatorOn
  decision := none
  createdAt := timestamptz now
  expiresAt := timestamptz challenge.expiresAt
  decidedAt := none
  consumedAt := none

def ChallengeRow.challenge (row : ChallengeRow) : Challenge where
  challengeID := row.challengeID
  deviceID := row.deviceID
  ownerID := row.ownerID
  tenantID := row.tenantID
  ownerRevision := row.ownerRevision
  sessionID := row.sessionID
  requestID := row.requestID
  action := ⟨row.indicatorOn⟩
  expiresAt := row.expiresAt

/-- `scanChallenge` on a row that was found. The checks of the table leave the tests on the decision
and the consumption nothing to refuse, but a text of the table need not be a canonical identifier. -/
def ChallengeRow.scan (row : ChallengeRow) : Except Error Record := do
  failIf (¬ ValidChallengeID row.challengeID ∨ ¬ ValidIdentifier row.deviceID 64 ∨
    ¬ ValidIdentifier row.ownerID 128 ∨ ¬ ValidIdentifier row.tenantID 128 ∨
    ¬ ValidBindingRevision row.ownerRevision ∨ ¬ ValidIdentifier row.sessionID 64 ∨
    row.requestID = 0) errInvalid
  failIf (row.decision ≠ none ∧ row.decidedAt = none) errInvalid
  failIf (row.consumedAt ≠ none ∧ row.decision = none) errInvalid
  return ⟨row.challenge, row.decision, row.decidedAt.getD zeroTime, row.consumedAt.getD zeroTime⟩

/-- The owner of a device is in force and is the given one. -/
def IsCurrentOwner (owner : Option OwnershipEntry) (ownerID tenantID : String) (revision : UInt64) :
    Prop :=
  ∃ entry ∈ owner, entry.active = true ∧ entry.ownerID = ownerID ∧ entry.tenantID = tenantID ∧
    entry.bindingRevision = revision
deriving Decidable

/-- `matchesAppRequest` and `matchesDeviceRequest`. -/
def DeviceRequest.Matches (request : DeviceRequest) (challenge : Challenge) : Prop :=
  request.challengeID = challenge.challengeID ∧ request.Carries challenge
deriving Decidable

/-- The order of `ORDER BY expires_at, challenge_id`, as the test of the smaller of two rows. -/
def firstOf {ρ : Type} (expiresAt : ρ → Time) (challengeID : ρ → String) (rows : List ρ) : Option ρ :=
  rows.foldl (fun selected row =>
    match selected with
    | none => some row
    | some other =>
      if expiresBefore (expiresAt row) (challengeID row) (expiresAt other) (challengeID other) then
        some row
      else some other) none

namespace Database

variable (db : Database)

def selectChallenge (challengeID : String) : Option ChallengeRow :=
  db.challenges.select (byKey ChallengeRow.challengeID challengeID)

def selectWake (challengeID : String) : Option WakeRow :=
  db.wakes.select (byKey WakeRow.challengeID challengeID)

def insertChallenge (row : ChallengeRow) : Except Error Database := do
  let challenges ← db.challenges.insert row
  failIf ((db.owners.select (byKey OwnerRow.deviceID row.deviceID)).isNone = true)
    (foreignKeyViolation "action_consent_challenges" "action_consent_challenges_device_id_fkey")
  return { db with challenges }

def insertWake (row : WakeRow) : Except Error Database := do
  let wakes ← db.wakes.insert row
  failIf ((db.selectChallenge row.challengeID).isNone = true)
    (foreignKeyViolation "action_consent_wake_outbox" "action_consent_wake_outbox_challenge_id_fkey")
  return { db with wakes }

/-- `UPDATE action_consent_challenges … WHERE challenge_id = id AND p`, which fails with `errReplay`
unless it changes one row. -/
def updateChallenge (challengeID : String) (p : ChallengeRow → Bool)
    (f : ChallengeRow → ChallengeRow) : Except Error Database := do
  let which := fun row => byKey ChallengeRow.challengeID challengeID row && p row
  let challenges ← db.challenges.update which f
  failIf (db.challenges.count which ≠ 1) errReplay
  return { db with challenges }

/-! ## Transactions on challenges -/

/-- The transaction of `Register`. -/
def registerChallenge (maxRecords : ℤ) (challenge : Challenge) (now : Time) :
    Except Error (Unit × Database) := do
  -- The lifetime is measured on the clock of the database, not on that of the replica.
  let lifetime := challenge.expiresAt - now
  failIf (lifetime ≤ 0 ∨ maximumLifetime < lifetime) errExpired
  failIf (¬ IsCurrentOwner (db.selectOwner challenge.deviceID) challenge.ownerID challenge.tenantID
    challenge.ownerRevision) errConflict
  failIf (maxRecords ≤ db.challenges.count fun row => now < row.expiresAt && row.consumedAt.isNone)
    errCapacity
  let db ← db.insertChallenge (challenge.row now)
  let db ← db.insertWake ⟨challenge.challengeID, timestamptz now, timestamptz now,
    timestamptz challenge.expiresAt, 0, none, none⟩
  return ((), db)

/-- The transaction of `Pending`. -/
def pendingChallenge (actor : Actor) (now : Time) : Except Error (Record × Database) := do
  failIf (¬ IsCurrentOwner (db.selectOwner actor.deviceID) actor.ownerID actor.tenantID
    actor.ownerRevision) errConflict
  match firstOf ChallengeRow.expiresAt ChallengeRow.challengeID (db.challenges.rows.filter fun row =>
      actor.Owns row.challenge && now < row.expiresAt && row.decision.isNone &&
        row.consumedAt.isNone) with
  | none => .error errNotFound
  | some row => do
    let record ← row.scan
    return (record, db)

/-- The transaction of `Decide`. -/
def decideChallenge (actor : Actor) (request : Request) (now : Time) :
    Except Error (Record × Database) :=
  match db.selectChallenge request.challengeID with
  | none => .error errNotFound
  | some row => do
    let record ← row.scan
    failIf (record.decision ≠ none) errReplay
    failIf (¬ now < record.challenge.expiresAt) errExpired
    failIf (¬ (IsCurrentOwner (db.selectOwner record.challenge.deviceID) record.challenge.ownerID
      record.challenge.tenantID record.challenge.ownerRevision ∧ actor.Owns record.challenge ∧
      request.Matches record.challenge)) errConflict
    let db ← db.updateChallenge request.challengeID (fun row => row.decision.isNone) fun row =>
      { row with decision := request.decision, decidedAt := some (timestamptz now) }
    return ({ record with decision := request.decision, decidedAt := now }, db)

/-- The transaction of `Consume`. -/
def consumeChallenge (request : DeviceRequest) (now : Time) : Except Error (Record × Database) :=
  match db.selectChallenge request.challengeID with
  | none => .error errNotFound
  | some row => do
    let record ← row.scan
    failIf (¬ now < record.challenge.expiresAt) errExpired
    failIf (record.consumedAt ≠ zeroTime) errReplay
    failIf (¬ (IsCurrentOwner (db.selectOwner record.challenge.deviceID) record.challenge.ownerID
      record.challenge.tenantID record.challenge.ownerRevision ∧
      request.Matches record.challenge)) errConflict
    failIf (record.decision = none) errPending
    let db ← db.updateChallenge request.challengeID (fun row => row.consumedAt.isNone) fun row =>
      { row with consumedAt := some (timestamptz now) }
    return ({ record with consumedAt := now }, db)

/-! ## Transactions on wakes -/

/-- The wake is of no use any more. -/
def IsStaleWake (now : Time) (row : WakeRow) : Bool :=
  (db.selectChallenge row.challengeID).any fun challenge =>
    row.expiresAt ≤ now || challenge.decision.isSome

/-- The wakes that `ClaimWake` may select, with their challenges; `SKIP LOCKED` passes over the
rows that a transaction in progress has locked. -/
def claimableWakes (locked : List String) (now : Time) : List (WakeRow × ChallengeRow) :=
  db.wakes.rows.filterMap fun row =>
    (db.selectChallenge row.challengeID).bind fun challenge =>
      if row.availableAt ≤ now ∧ now < row.expiresAt ∧ challenge.decision = none ∧
          (row.claimedBy = none ∨ ∃ until_ ∈ row.leaseUntil, until_ ≤ now) ∧
          row.challengeID ∉ locked then some (row, challenge)
      else none

/-- `UPDATE action_consent_wake_outbox … WHERE p`, which fails unless it changes one row. -/
def updateWake (p : WakeRow → Bool) (f : WakeRow → WakeRow) : Except Error Database := do
  let wakes ← db.wakes.update p f
  failIf (db.wakes.count p ≠ 1) errConflict
  return { db with wakes }

def deleteWakes (p : WakeRow → Bool) : Database := { db with wakes := db.wakes.delete p }

/-- The transaction of `ClaimWake`. -/
def claimWakeRow (locked : List String) (workerID : String) (now : Time) (lease : ℤ) :
    Except Error (Option Wake × Database) :=
  let db := db.deleteWakes (db.IsStaleWake now)
  match firstOf (fun entry : WakeRow × ChallengeRow => entry.1.expiresAt)
      (fun entry => entry.1.challengeID) (db.claimableWakes locked now) with
  | none => .error errNotFound
  | some (row, challenge) => do
    let target : Actor :=
      ⟨challenge.ownerID, challenge.tenantID, challenge.deviceID, challenge.ownerRevision⟩
    failIf (¬ ValidChallengeID row.challengeID ∨ ¬ target.Valid) errInvalid
    if maximumWakeAttempts ≤ row.attempts then
      return (none, db.deleteWakes (byKey WakeRow.challengeID row.challengeID))
    else
      let db ← db.updateWake (byKey WakeRow.challengeID row.challengeID) fun row =>
        { row with
          claimedBy := some workerID
          leaseUntil := some (timestamptz (now + lease))
          attempts := row.attempts + 1 }
      return (some ⟨row.challengeID, target, row.expiresAt, row.attempts + 1⟩, db)

/-- A worker holds the wake. -/
def HoldsWake (row : WakeRow) (workerID : String) (now : Time) : Prop :=
  row.claimedBy = some workerID ∧ ∃ until_ ∈ row.leaseUntil, now < until_
deriving Decidable

/-- The condition `challenge_id = id AND claimed_by = worker`. -/
def claimedWake (wakeID workerID : String) (row : WakeRow) : Bool :=
  byKey WakeRow.challengeID wakeID row && row.claimedBy = some workerID

/-- The transaction of `AcknowledgeWake`. The deletion of an expired wake is part of a transaction
that fails, so it is rolled back. -/
def acknowledgeWakeRow (workerID wakeID : String) (now : Time) : Except Error (Unit × Database) :=
  match db.selectWake wakeID with
  | none => .error errNotFound
  | some row => do
    failIf (¬ now < row.expiresAt) errExpired
    failIf (¬ HoldsWake row workerID now) errConflict
    failIf (db.wakes.count (claimedWake wakeID workerID) ≠ 1) errConflict
    return ((), db.deleteWakes (claimedWake wakeID workerID))

/-- The transaction of `RetryWake`. Here too the deletion of an expired wake is rolled back. -/
def retryWakeRow (workerID wakeID : String) (now : Time) (retryAfter : ℤ) :
    Except Error (Unit × Database) :=
  match db.selectWake wakeID with
  | none => .error errNotFound
  | some row => do
    failIf (¬ HoldsWake row workerID now) errConflict
    let availableAt := now + retryAfter
    failIf (¬ availableAt < row.expiresAt) errExpired
    let db ← db.updateWake (claimedWake wakeID workerID) fun row =>
      { row with availableAt := timestamptz availableAt, claimedBy := none, leaseUntil := none }
    return ((), db)

end Database

/-! ## Calls -/

/-- A consent call that a replica serves: the clock of the database, the locks of other
transactions and the outcome of the transaction are as they happen to be. -/
structure ConsentInput where
  store : PostgresStore
  call : Call
  clock : Time
  locked : List String
  outcome : Outcome

/-- A reply of `errNotFound` from the transaction means that there is nothing to return. -/
def absentIfNotFound {α : Type} (result : Except Error (Option α)) : Except Error (Option α) :=
  match result with
  | .error err => if err.is errNotFound then .ok none else .error err
  | .ok value => .ok value

namespace Database

variable (db : Database)

def serveConsent (input : ConsentInput) : Database × Reply :=
  let clock := timestamptz input.clock
  match input.call with
  | .register challenge now =>
    if ¬ challenge.Valid now then (db, .done (.error errInvalid))
    else
      (runConsent input.outcome (fun db =>
        db.registerChallenge input.store.maxRecords challenge clock) db).map id .done
  | .pending actor now =>
    if now = zeroTime ∨ ¬ actor.Valid then (db, .found (.error errInvalid))
    else
      (runConsent input.outcome (fun db => db.pendingChallenge actor clock) db).map id
        fun result => .found (absentIfNotFound (result.map some))
  | .decide actor request now =>
    if now = zeroTime ∨ ¬ actor.Valid ∨ ¬ request.Valid then (db, .record (.error errInvalid))
    else
      (runConsent input.outcome (fun db => db.decideChallenge actor request clock) db).map id .record
  | .consume request now =>
    if now = zeroTime ∨ ¬ request.Valid then (db, .record (.error errInvalid))
    else
      (runConsent input.outcome (fun db => db.consumeChallenge request clock) db).map id .record
  | .claimWake workerID now lease =>
    if now = zeroTime ∨ ¬ ValidWakeWorker workerID ∨ ¬ ValidWakeLease lease then
      (db, .wake (.error errInvalid))
    else
      (runWake input.outcome (fun db => db.claimWakeRow input.locked workerID clock lease) db).map
        id fun result => .wake (absentIfNotFound result)
  | .acknowledgeWake workerID wakeID now =>
    if now = zeroTime ∨ ¬ ValidWakeWorker workerID ∨ ¬ ValidChallengeID wakeID then
      (db, .done (.error errInvalid))
    else
      (runWake input.outcome (fun db => db.acknowledgeWakeRow workerID wakeID clock) db).map id .done
  | .retryWake workerID wakeID now retryAfter =>
    if now = zeroTime ∨ ¬ ValidWakeWorker workerID ∨ ¬ ValidChallengeID wakeID ∨
        ¬ ValidWakeRetry retryAfter then (db, .done (.error errInvalid))
    else
      (runWake input.outcome (fun db => db.retryWakeRow workerID wakeID clock retryAfter) db).map
        id .done

end Database

/-- A call of one of the two stores that share the database. -/
inductive SharedInput where
  | ownership (input : DeviceClaim.PostgresInput)
  | consent (input : ConsentInput)

inductive SharedReply where
  | ownership (reply : DeviceClaim.Reply)
  | consent (reply : Reply)
deriving DecidableEq

def Database.serve (db : Database) : SharedInput → Database × SharedReply
  | .ownership input =>
    (db.toDatabase.serve input).map (fun tables => { db with toDatabase := tables }) .ownership
  | .consent input => (db.serveConsent input).map id .consent

/-! ## Effects -/

variable {now sent : Time} {record : Record} {workerID : String}

namespace Database

variable {db next : Database}

/-- Everything that a consent call can do to the challenges. It never touches the ownership tables. -/
inductive ConsentEffect (db : Database) : Call → Database → Prop
  | keep (call : Call) {next : Database} (htables : next.toDatabase = db.toDatabase)
      (hchallenges : next.challenges = db.challenges) : ConsentEffect db call next
  | registered (challenge : Challenge) (sent now : Time) {next : Database}
      (htables : next.toDatabase = db.toDatabase)
      (howner : IsCurrentOwner (db.selectOwner challenge.deviceID) challenge.ownerID
        challenge.tenantID challenge.ownerRevision)
      (hchallenges : next.challenges.rows = db.challenges.rows ++ [challenge.row now]) :
      ConsentEffect db (.register challenge sent) next
  | changed (call : Call) (p : ChallengeRow → Bool) (f : ChallengeRow → ChallengeRow)
      (hf : ∀ row, (f row).challenge = row.challenge) {next : Database}
      (htables : next.toDatabase = db.toDatabase)
      (hchallenges : next.challenges.rows =
        db.challenges.rows.map fun row => if p row then f row else row) :
      ConsentEffect db call next

theorem insertChallenge_ok (h : db.insertChallenge row = .ok next) :
    next.toDatabase = db.toDatabase ∧ next.challenges.rows = db.challenges.rows ++ [row] := by
  obtain ⟨challenges, hchallenges, hrest⟩ := (bind_eq_ok _ _ _).mp h
  rw [failIf_bind_eq_ok] at hrest
  obtain rfl := Except.ok.inj hrest.2
  exact ⟨rfl, Table.rows_insert hchallenges⟩

theorem insertWake_ok (h : db.insertWake row = .ok next) :
    next.toDatabase = db.toDatabase ∧ next.challenges = db.challenges := by
  obtain ⟨wakes, -, hrest⟩ := (bind_eq_ok _ _ _).mp h
  rw [failIf_bind_eq_ok] at hrest
  obtain rfl := Except.ok.inj hrest.2
  exact ⟨rfl, rfl⟩

theorem updateChallenge_ok {p : ChallengeRow → Bool}
    {f : ChallengeRow → ChallengeRow} (h : db.updateChallenge challengeID p f = .ok next) :
    next.toDatabase = db.toDatabase ∧ next.challenges.rows = db.challenges.rows.map fun row =>
      if byKey ChallengeRow.challengeID challengeID row && p row then f row else row := by
  obtain ⟨challenges, hchallenges, hrest⟩ := (bind_eq_ok _ _ _).mp h
  rw [failIf_bind_eq_ok] at hrest
  obtain rfl := Except.ok.inj hrest.2
  exact ⟨rfl, Table.rows_update hchallenges⟩

theorem updateWake_ok {p : WakeRow → Bool} {f : WakeRow → WakeRow} (h : db.updateWake p f = .ok
    next) : next.toDatabase = db.toDatabase ∧ next.challenges = db.challenges := by
  obtain ⟨wakes, -, hrest⟩ := (bind_eq_ok _ _ _).mp h
  rw [failIf_bind_eq_ok] at hrest
  obtain rfl := Except.ok.inj hrest.2
  exact ⟨rfl, rfl⟩

theorem effect_registerChallenge (h : db.registerChallenge maxRecords challenge now = .ok (value,
    next)) :
    db.ConsentEffect (.register challenge sent) next := by
  simp only [registerChallenge, failIf_bind_eq_ok] at h
  simp only [bind_eq_ok] at h
  obtain ⟨-, howner, -, inserted, hinserted, woken, hwoken, hlast⟩ := h
  cases hlast
  obtain ⟨htables, hrows⟩ := insertChallenge_ok hinserted
  obtain ⟨htables', hchallenges⟩ := insertWake_ok hwoken
  exact .registered challenge sent now (htables'.trans htables) (not_not.mp howner)
    (hchallenges ▸ hrows)

theorem effect_pendingChallenge (h : db.pendingChallenge actor now = .ok (record, next)) :
    db.ConsentEffect (.pending actor sent) next := by
  simp only [pendingChallenge, failIf_bind_eq_ok] at h
  obtain ⟨-, h⟩ := h
  split at h
  · cases h
  · obtain ⟨_, -, hlast⟩ := (bind_eq_ok _ _ _).mp h
    cases hlast
    exact .keep _ rfl rfl

theorem effect_decideChallenge (h : db.decideChallenge actor request now = .ok (record, next)) :
    db.ConsentEffect (.decide actor request sent) next := by
  unfold decideChallenge at h
  split at h
  · cases h
  obtain ⟨_, -, h⟩ := (bind_eq_ok _ _ _).mp h
  simp only [failIf_bind_eq_ok] at h
  simp only [bind_eq_ok] at h
  obtain ⟨-, -, -, updated, hupdated, hlast⟩ := h
  cases hlast
  obtain ⟨htables, hrows⟩ := updateChallenge_ok hupdated
  exact .changed _ _ _ (by intro _; rfl) htables hrows

theorem consumeChallenge_ok (h : db.consumeChallenge request now = .ok (record, next)) :
    ∃ row, db.selectChallenge request.challengeID = some row ∧
      IsCurrentOwner (db.selectOwner row.deviceID) row.ownerID row.tenantID row.ownerRevision ∧
      next.toDatabase = db.toDatabase ∧
      next.challenges.rows = db.challenges.rows.map fun row =>
        if byKey ChallengeRow.challengeID request.challengeID row && row.consumedAt.isNone then
          { row with consumedAt := some (timestamptz now) }
        else row := by
  unfold consumeChallenge at h
  split at h
  · cases h
  next row hrow =>
  obtain ⟨scanned, hscanned, h⟩ := (bind_eq_ok _ _ _).mp h
  simp only [failIf_bind_eq_ok] at h
  simp only [bind_eq_ok] at h
  obtain ⟨-, -, howner, -, updated, hupdated, hlast⟩ := h
  cases hlast
  simp only [ChallengeRow.scan, failIf_bind_eq_ok] at hscanned
  obtain rfl := Except.ok.inj hscanned.2.2.2
  exact ⟨row, hrow, (not_not.mp howner).1, updateChallenge_ok hupdated⟩

theorem effect_consumeChallenge (h : db.consumeChallenge request now = .ok (record, next)) :
    db.ConsentEffect (.consume request sent) next := by
  obtain ⟨_, -, -, htables, hrows⟩ := consumeChallenge_ok h
  exact .changed _ _ _ (by intro _; rfl) htables hrows

theorem effect_claimWakeRow (h : db.claimWakeRow locked workerID now lease = .ok (wake, next)) :
    db.ConsentEffect (.claimWake workerID sent lease) next := by
  unfold claimWakeRow at h
  dsimp only at h
  split at h
  · cases h
  rw [failIf_bind_eq_ok] at h
  obtain ⟨-, h⟩ := h
  split at h
  · cases h
    exact .keep _ rfl rfl
  · obtain ⟨updated, hupdated, hlast⟩ := (bind_eq_ok _ _ _).mp h
    cases hlast
    obtain ⟨htables, hchallenges⟩ := updateWake_ok hupdated
    exact .keep _ htables hchallenges

theorem effect_acknowledgeWakeRow
    (h : db.acknowledgeWakeRow workerID wakeID now = .ok (value, next)) :
    db.ConsentEffect (.acknowledgeWake workerID wakeID sent) next := by
  unfold acknowledgeWakeRow at h
  split at h
  · cases h
  simp only [failIf_bind_eq_ok] at h
  obtain ⟨-, rfl⟩ := Prod.mk.inj (Except.ok.inj h.2.2.2)
  exact .keep _ rfl rfl

theorem effect_retryWakeRow (h : db.retryWakeRow workerID wakeID now retryAfter = .ok (value,
    next)) :
    db.ConsentEffect (.retryWake workerID wakeID sent retryAfter) next := by
  unfold retryWakeRow at h
  split at h
  · cases h
  simp only [failIf_bind_eq_ok] at h
  simp only [bind_eq_ok] at h
  obtain ⟨-, -, updated, hupdated, hlast⟩ := h
  cases hlast
  obtain ⟨htables, hchallenges⟩ := updateWake_ok hupdated
  exact .keep _ htables hchallenges

theorem effect_consentTransaction {α : Type} {unavailable settle : Error → Error}
    {body : Database → Except Error (α × Database)}
    (hbody : ∀ value next, body db = .ok (value, next) → db.ConsentEffect call next) :
    db.ConsentEffect call (runTransaction unavailable settle outcome body db).1 := by
  rcases runTransaction_cases unavailable settle outcome body db with hsame | ⟨value, hok⟩
  · rw [hsame]
    exact .keep _ rfl rfl
  · exact hbody value _ hok

theorem effect_serveConsent (db : Database) (input : ConsentInput) :
    db.ConsentEffect input.call (db.serveConsent input).1 := by
  obtain ⟨store, call, clock, locked, outcome⟩ := input
  cases call <;> simp only [serveConsent] <;> split
  all_goals first
    | exact .keep _ rfl rfl
    | simp only [Prod.map_fst, id_eq, runConsent, runWake]
  · exact effect_consentTransaction fun _ _ h => effect_registerChallenge h
  · exact effect_consentTransaction fun _ _ h => effect_pendingChallenge h
  · exact effect_consentTransaction fun _ _ h => effect_decideChallenge h
  · exact effect_consentTransaction fun _ _ h => effect_consumeChallenge h
  · exact effect_consentTransaction fun _ _ h => effect_claimWakeRow h
  · exact effect_consentTransaction fun _ _ h => effect_acknowledgeWakeRow h
  · exact effect_consentTransaction fun _ _ h => effect_retryWakeRow h

end Database

end XiaozhiPlatform.ActionConsent
