import XiaozhiPlatform.Coordination.Proofs
import XiaozhiPlatform.GoLib.RateWindow
import XiaozhiPlatform.GoLib.Run

/-!
# Runtime leases

A voice connection and an Agent request each hold a lease of their subject for as long as they renew
it. `PostgresCoordinator` keeps the leases in one table, with one row for each kind and subject, and
counts the Agent requests of a subject in windows of a minute.

A run is a list of calls, each with the coordinator that serves it, the clock of the database and the
outcome of the transaction. The instants that are stored here all come from that clock, so they are
whole microseconds already.
-/

namespace XiaozhiPlatform.Coordination

open GoLib Auth Sql

/-! ## Model -/

def maximumLeaseTTL : ℤ := 5 * minute

/-- `Lease`. -/
structure Lease where
  kind : LeaseKind
  subjectSHA256 : String
  leaseID : List UInt8
  holderID : String
  expiresAt : Time
deriving DecidableEq, Repr

/-- The text of a digest. -/
def digestText (digest : Digest) : String := String.ofList (Hex.encode digest.toList)

/-- The digest of its text. -/
def decodeDigest (text : String) : Option Digest :=
  match Hex.decode text.toList with
  | none => none
  | some bytes =>
    if h : bytes.length = 32 ∧ String.ofList (Hex.encode bytes) = text then
      some ⟨bytes.toArray, by simp [h.1]⟩
    else none

/-- `decodeLease`. -/
def decodeLease (holderID : String) (lease : Lease) : Except Error Digest :=
  if lease.holderID ≠ holderID ∨ ¬ ValidIdentifier lease.holderID 64 then .error errInvalid
  else
    match decodeDigest lease.subjectSHA256 with
    | none => .error errInvalid
    | some subject =>
      if lease.leaseID.all (· = 0) then .error errInvalid else .ok subject

namespace Database

variable (databaseNow : Time) (kind : LeaseKind) (subject : Digest) (db : Database)

/-- The statement that drops the leases of a kind that have expired. -/
def pruneLeases : Database :=
  { db with leases := db.leases.delete fun row => row.leaseKind = kind ∧ row.expiresAt ≤ databaseNow }

/-- The number of leases of a subject that have not expired. -/
def held : ℕ := db.leases.count fun row =>
  row.leaseKind = kind ∧ row.subjectSHA256 = subject ∧ databaseNow < row.expiresAt

/-- The number of leases of a kind that have not expired. -/
def active : ℕ := db.leases.count fun row => row.leaseKind = kind ∧ databaseNow < row.expiresAt

section

variable (leaseID : List UInt8) (holderID : String)

/-- The lease that is inserted. The lifetime is a number of milliseconds. -/
def leaseRow (ttl : ℤ) : LeaseRow :=
  ⟨kind, subject, leaseID, holderID, databaseNow, databaseNow,
    databaseNow + ttl / millisecond * millisecond⟩

def insertLease (ttl : ℤ) : Except Error Database := do
  let leases ← db.leases.insert (leaseRow databaseNow kind subject leaseID holderID ttl)
  return { db with leases }

/-- The transaction of `AcquireVoice`. -/
def acquireVoiceIn (globalMaximum ttl : ℤ) : Except Error (Except Error Time × Database) :=
  let db := db.pruneLeases databaseNow .voiceLease
  if db.held databaseNow .voiceLease subject ≠ 0 then .ok (.error errConflict, db)
  else if globalMaximum ≤ db.active databaseNow .voiceLease then .ok (.error errRateLimited, db)
  else do
    let db ← db.insertLease databaseNow .voiceLease subject leaseID holderID ttl
    return (.ok (databaseNow + ttl / millisecond * millisecond), db)

end

/-- The statement that drops the rate windows that have expired. -/
def pruneAgentLimits : Database :=
  { db with agentLimits := db.agentLimits.delete fun row => row.expiresAt ≤ databaseNow }

/-- The statement that makes sure of a rate window. -/
def ensureAgentLimit : Except Error Database :=
  if (db.agentLimits.select (byKey AgentLimitRow.subjectSHA256 subject)).isSome then .ok db else do
    let limits ← db.agentLimits.insert ⟨subject, databaseNow, 0, databaseNow + minute⟩
    return { db with agentLimits := limits }

/-- The statement that reads the rate window. -/
def readAgentLimit : Except Error AgentLimitRow :=
  match db.agentLimits.select (byKey AgentLimitRow.subjectSHA256 subject) with
  | none => .error (.text "sql: no rows in result set")
  | some row => .ok row

/-- The start of the window that a request falls into, and the requests that it has accepted. -/
def rateWindow (row : AgentLimitRow) : Time × ℤ :=
  if minute ≤ timeSub databaseNow row.windowStartedAt then (databaseNow, 0)
  else (row.windowStartedAt, row.acceptedRequests)

/-- The statement that counts a request. -/
def updateAgentLimit (window : Time × ℤ) : Except Error Database := do
  let limits ← db.agentLimits.update (byKey AgentLimitRow.subjectSHA256 subject) fun row =>
    { row with
      windowStartedAt := window.1
      acceptedRequests := window.2 + 1
      expiresAt := databaseNow + minute }
  return { db with agentLimits := limits }

/-- The transaction of `AcquireAgent`. -/
def acquireAgentIn (leaseID : List UInt8) (holderID : String)
    (requestsPerMinute globalMaximum ttl : ℤ) : Except Error (Except Error Time × Database) :=
  let db := (db.pruneLeases databaseNow .agentLease).pruneAgentLimits databaseNow
  if db.held databaseNow .agentLease subject ≠ 0 then .ok (.error errConflict, db)
  else do
    let db ← db.ensureAgentLimit databaseNow subject
    let row ← db.readAgentLimit subject
    let window := rateWindow databaseNow row
    if requestsPerMinute ≤ window.2 ∨ globalMaximum ≤ db.active databaseNow .agentLease then
      return (.error errRateLimited, db)
    else
      let db ← db.insertLease databaseNow .agentLease subject leaseID holderID ttl
      let db ← db.updateAgentLimit databaseNow subject window
      return (.ok (databaseNow + ttl), db)

/-- The condition of the statements of `Renew` and `Release` on a row. -/
def matchesLease (lease : Lease) (row : LeaseRow) : Bool :=
  row.leaseKind = lease.kind && row.subjectSHA256 = subject && row.leaseID = lease.leaseID &&
    row.holderID = lease.holderID

/-- The statement of `Renew`, with the new expiry of the row that it finds. -/
def renewIn (lease : Lease) (ttl : ℤ) : Except Error (Option Time × Database) :=
  let renewable row := matchesLease subject lease row && databaseNow < row.expiresAt
  let expiresAt := databaseNow + ttl / millisecond * millisecond
  if db.leases.count renewable = 0 then .ok (none, db)
  else do
    let leases ← db.leases.update renewable fun row =>
      { row with renewedAt := databaseNow, expiresAt := expiresAt }
    return (some expiresAt, { db with leases })

/-- The statement of `Release`, and whether it finds the row. -/
def releaseIn (lease : Lease) : Bool × Database :=
  (db.leases.count (matchesLease subject lease) ≠ 0,
    { db with leases := db.leases.delete (matchesLease subject lease) })

end Database

/-- What every call brings along: the holder that makes it, the clock of the database and the outcome
of its transaction. -/
structure Context where
  holderID : String
  started : Time
  outcome : Outcome

/-- The timestamp of the transaction. -/
def Context.databaseNow (context : Context) : Time := timestamptz context.started

/-- The part that the two acquisitions share: a fresh identifier and a transaction. -/
def acquire (context : Context) (kind : LeaseKind) (subject : Digest) (fencing : String)
    (random : List UInt8)
    (transaction : List UInt8 → Database → Except Error (Except Error Time × Database))
    (db : Database) : Database × Except Error Lease :=
  match readFull 16 random with
  | .error _ => (db, .error (unavailable fencing))
  | .ok (leaseID, _) =>
    let result := serializable context.outcome (transaction leaseID) db
    (result.1, result.2.map fun expiresAt =>
      ⟨kind, digestText subject, leaseID, context.holderID, expiresAt⟩)

section

variable (context : Context) (random : List UInt8) (subject : String)

/-- `AcquireVoice`. -/
def acquireVoice (globalMaximum ttl : ℤ) (db : Database) : Database × Except Error Lease :=
  match subjectDigest "voice-lease" subject with
  | .error _ => (db, .error errInvalid)
  | .ok digest =>
    if globalMaximum < 1 ∨ 1000000 < globalMaximum ∨ ttl < 5 * second ∨ maximumLeaseTTL < ttl then
      (db, .error errInvalid)
    else
      acquire context .voiceLease digest "generate voice lease fencing id" random (fun leaseID db =>
        db.acquireVoiceIn context.databaseNow digest leaseID context.holderID globalMaximum ttl) db

/-- `AcquireAgent`. -/
def acquireAgent (requestsPerMinute globalMaximum ttl : ℤ) (db : Database) : Database × Except Error Lease :=
  match subjectDigest "agent-lease" subject with
  | .error _ => (db, .error errInvalid)
  | .ok digest =>
    if requestsPerMinute < 1 ∨ 600 < requestsPerMinute ∨ globalMaximum < 1 ∨ 10000 < globalMaximum ∨
        ttl < 5 * second ∨ maximumLeaseTTL < ttl then (db, .error errInvalid)
    else
      acquire context .agentLease digest "generate Agent permit fencing id" random (fun leaseID db =>
        db.acquireAgentIn context.databaseNow digest leaseID context.holderID requestsPerMinute
          globalMaximum ttl) db

end

/-- `Renew`. -/
def renew (context : Context) (lease : Lease) (ttl : ℤ) (db : Database) :
    Database × Except Error Lease :=
  match decodeLease context.holderID lease with
  | .error _ => (db, .error errInvalid)
  | .ok subject =>
    if ttl < 5 * second ∨ maximumLeaseTTL < ttl then (db, .error errInvalid)
    else
      let failed := fun _ => unavailable "renew runtime lease"
      let result := runTransaction failed failed context.outcome
        (fun db => db.renewIn context.databaseNow subject lease ttl) db
      (result.1, result.2.bind fun
        | none => .error errLeaseLost
        | some expiresAt => .ok { lease with expiresAt })

/-- `Release`. -/
def release (context : Context) (lease : Lease) (db : Database) : Database × Except Error Unit :=
  match decodeLease context.holderID lease with
  | .error _ => (db, .error errInvalid)
  | .ok subject =>
    let failed := fun _ => unavailable "release runtime lease"
    let result := runTransaction failed failed context.outcome
      (fun db => .ok (db.releaseIn subject lease)) db
    (result.1, result.2.bind fun deleted => if deleted then .ok () else .error errLeaseLost)

/-- A call of a coordinator. -/
inductive LeaseCall where
  | acquireVoice (context : Context) (random : List UInt8) (subject : String) (globalMaximum ttl : ℤ)
  | acquireAgent (context : Context) (random : List UInt8) (subject : String)
      (requestsPerMinute globalMaximum ttl : ℤ)
  | renew (context : Context) (lease : Lease) (ttl : ℤ)
  | release (context : Context) (lease : Lease)

def LeaseCall.context : LeaseCall → Context
  | .acquireVoice context _ _ _ _ => context
  | .acquireAgent context _ _ _ _ _ => context
  | .renew context _ _ => context
  | .release context _ => context

/-- The lease of a call, where there is one to return. -/
def serveLease (db : Database) : LeaseCall → Database × Except Error (Option Lease)
  | .acquireVoice context random subject globalMaximum ttl =>
    let result := acquireVoice context random subject globalMaximum ttl db
    (result.1, result.2.map some)
  | .acquireAgent context random subject requestsPerMinute globalMaximum ttl =>
    let result := acquireAgent context random subject requestsPerMinute globalMaximum ttl db
    (result.1, result.2.map some)
  | .renew context lease ttl =>
    let result := renew context lease ttl db
    (result.1, result.2.map some)
  | .release context lease =>
    let result := release context lease db
    (result.1, result.2.map fun _ => none)

/-! ## What a call does to the leases -/

namespace Database

variable {databaseNow : Time} {kind : LeaseKind} {subject : Digest} {db next : Database}
  {leaseID : List UInt8} {holderID : String} {requestsPerMinute globalMaximum ttl : ℤ}
  {business : Except Error Time}

/-- A lease of the kind is inserted next to those that have not expired, which are fewer than the
maximum. -/
structure Inserted (databaseNow : Time) (kind : LeaseKind) (leaseID : List UInt8) (globalMaximum : ℤ)
    (db next : Database) (row : LeaseRow) : Prop where
  rows : next.leases.rows = (db.pruneLeases databaseNow kind).leases.rows ++ [row]
  leaseID : row.leaseID = leaseID
  below : (db.pruneLeases databaseNow kind).active databaseNow kind < globalMaximum

theorem insertLease_eq_ok (h : db.insertLease databaseNow kind subject leaseID holderID ttl = .ok
    next) : next.leases.rows = db.leases.rows ++ [leaseRow databaseNow kind subject leaseID holderID
    ttl] ∧ next.agentLimits = db.agentLimits := by
  simp only [insertLease, bind_eq_ok] at h
  obtain ⟨leases, hleases, h⟩ := h
  cases h
  exact ⟨Table.rows_insert hleases, rfl⟩

theorem acquireVoiceIn_cases (h : db.acquireVoiceIn databaseNow subject leaseID holderID
    globalMaximum ttl = .ok (business, next)) : next.agentLimits = db.agentLimits ∧ ((next.leases =
    (db.pruneLeases databaseNow .voiceLease).leases ∧ ∀ expiresAt, business ≠ .ok expiresAt) ∨ ∃
    row, Inserted databaseNow .voiceLease leaseID globalMaximum db next row) := by
  simp only [acquireVoiceIn] at h
  split at h
  · cases h
    exact ⟨rfl, .inl ⟨rfl, nofun⟩⟩
  · split at h
    · cases h
      exact ⟨rfl, .inl ⟨rfl, nofun⟩⟩
    next hbelow =>
      simp only [bind_eq_ok] at h
      obtain ⟨inserted, hinserted, h⟩ := h
      cases h
      obtain ⟨hrows, hlimits⟩ := insertLease_eq_ok hinserted
      exact ⟨hlimits, .inr ⟨_, hrows, rfl, not_le.mp hbelow⟩⟩

/-- The rate window of a subject. -/
def limitOf (db : Database) (subject : Digest) : Option AgentLimitRow :=
  db.agentLimits.select (byKey AgentLimitRow.subjectSHA256 subject)

theorem limitOf_pruneAgentLimits (other : Digest) : (db.pruneAgentLimits databaseNow).limitOf other
    = (db.limitOf other).filter fun row => databaseNow < row.expiresAt := by
  have hnodup : (db.agentLimits.rows.map AgentLimitRow.subjectSHA256).Nodup :=
    db.agentLimits.nodup_key "runtime_coordination_agent_limits_pkey" List.mem_cons_self
  rw [limitOf, limitOf, pruneAgentLimits, Table.select, Table.delete, find?_filter_key hnodup,
    Table.select]
  congr 1
  funext row
  rw [← decide_not]
  exact decide_eq_decide.mpr not_le

theorem limitOf_ensureAgentLimit (h : db.ensureAgentLimit databaseNow subject = .ok next) (other :
    Digest) : next.leases = db.leases ∧ next.limitOf other = (db.limitOf other).or (if subject =
    other then some ⟨subject, databaseNow, 0, databaseNow + minute⟩ else none) := by
  unfold ensureAgentLimit at h
  split at h
  next hpresent =>
    cases h
    refine ⟨rfl, ?_⟩
    split
    next heq =>
      subst heq
      obtain ⟨row, hrow⟩ := Option.isSome_iff_exists.mp hpresent
      rw [limitOf, hrow, Option.some_or]
    next => rw [Option.or_none]
  next =>
    simp only [bind_eq_ok] at h
    obtain ⟨limits, hlimits, h⟩ := h
    cases h
    exact ⟨rfl, Table.select_append (Table.rows_insert hlimits)⟩

/-- The row of a request that is counted. -/
def countRequest (databaseNow : Time) (window : Time × ℤ) (row : AgentLimitRow) : AgentLimitRow :=
  { row with
    windowStartedAt := window.1
    acceptedRequests := window.2 + 1
    expiresAt := databaseNow + minute }

theorem limitOf_updateAgentLimit (h : db.updateAgentLimit databaseNow subject
    window = .ok next) : next.leases = db.leases ∧ next.limitOf subject = (db.limitOf subject).map
    (countRequest databaseNow window) ∧ ∀ other ≠ subject, next.limitOf other = db.limitOf other
    := by
  simp only [updateAgentLimit, bind_eq_ok] at h
  obtain ⟨limits, hlimits, h⟩ := h
  cases h
  have hselect (other : Digest) : limits.select (byKey AgentLimitRow.subjectSHA256 other) = _ :=
    Table.select_update (Table.rows_update hlimits) fun _ => rfl
  refine ⟨rfl, (hselect subject).trans (Option.map_congr fun row hrow => ?_),
    fun other hne => (hselect other).trans ?_⟩
  · exact if_pos (byKey_iff.mpr (key_of_find? hrow))
  · refine (Option.map_congr fun row hrow => ?_).trans Option.map_id'
    rw [if_neg]
    rw [byKey_iff, key_of_find? hrow]
    exact hne

/-- The transaction of `AcquireAgent` drops expired leases and rate windows. It inserts a lease and
counts the request when it succeeds. -/
theorem acquireAgentIn_cases (h : db.acquireAgentIn databaseNow subject leaseID holderID
    requestsPerMinute globalMaximum ttl = .ok (business, next)) : ((next.leases = (db.pruneLeases
    databaseNow .agentLease).leases ∧ ∀ expiresAt, business ≠ .ok expiresAt) ∨ ∃ row, Inserted
    databaseNow .agentLease leaseID globalMaximum db next row) ∧ (∀ other ≠ subject, next.limitOf
    other = (db.limitOf other).filter fun row => databaseNow < row.expiresAt) ∧ (next.limitOf
    subject = (db.limitOf subject).filter (fun row => databaseNow < row.expiresAt) ∧ (∀ expiresAt,
    business ≠ .ok expiresAt) ∨ ∃ row, ((db.limitOf subject).filter fun row => databaseNow <
    row.expiresAt).or (some ⟨subject, databaseNow, 0, databaseNow + minute⟩) = some row ∧
    (next.limitOf subject = some row ∧ (∀ expiresAt, business ≠ .ok expiresAt) ∨ (rateWindow
    databaseNow row).2 < requestsPerMinute ∧ next.limitOf subject = some (countRequest databaseNow
    (rateWindow databaseNow row) row))) := by
  simp only [acquireAgentIn] at h
  split at h
  · cases h
    exact ⟨.inl ⟨rfl, nofun⟩, fun other _ => limitOf_pruneAgentLimits other,
      .inl ⟨limitOf_pruneAgentLimits subject, nofun⟩⟩
  · simp only [bind_eq_ok] at h
    obtain ⟨ensured, hensured, row, hrow, h⟩ := h
    have hkept (other : Digest) := limitOf_ensureAgentLimit hensured other
    have hother : ∀ other ≠ subject, ensured.limitOf other =
        (db.limitOf other).filter fun row => databaseNow < row.expiresAt := by
      intro other hne
      rw [(hkept other).2, if_neg hne.symm, Option.or_none]
      exact limitOf_pruneAgentLimits other
    have hread : ensured.limitOf subject = some row := by
      unfold readAgentLimit at hrow
      split at hrow
      · cases hrow
      next h => cases hrow; exact h
    have hfound : ((db.limitOf subject).filter fun row => databaseNow < row.expiresAt).or
        (some ⟨subject, databaseNow, 0, databaseNow + minute⟩) = some row := by
      rw [← hread, (hkept subject).2, if_pos rfl]
      exact congrArg (Option.or · _) (limitOf_pruneAgentLimits subject).symm
    split at h
    · cases h
      exact ⟨.inl ⟨(hkept subject).1, nofun⟩, hother, .inr ⟨row, hfound, .inl ⟨hread, nofun⟩⟩⟩
    next hbelow =>
      obtain ⟨hlimit, hglobal⟩ := not_or.mp hbelow
      simp only [bind_eq_ok] at h
      obtain ⟨inserted, hinserted, updated, hupdated, h⟩ := h
      cases h
      obtain ⟨hrows, hlimits⟩ := insertLease_eq_ok hinserted
      obtain ⟨hleases, hself, hothers⟩ := limitOf_updateAgentLimit hupdated
      have hsame (other : Digest) : inserted.limitOf other = ensured.limitOf other := by
        rw [limitOf, hlimits, limitOf]
      refine ⟨.inr ⟨leaseRow databaseNow .agentLease subject leaseID holderID ttl, ?_, rfl, ?_⟩,
        fun other hne => ?_, .inr ⟨row, hfound, .inr ⟨not_le.mp hlimit, ?_⟩⟩⟩
      · rw [hleases, hrows, (hkept subject).1]
        rfl
      · have hbelow := not_le.mp hglobal
        rw [active, (hkept subject).1] at hbelow
        exact hbelow
      · grind
      · rw [hself, hsame, hread, Option.map_some]

/-- Every lease with the identifier has expired by an instant. -/
def Gone (leaseID : List UInt8) (t : Time) (db : Database) : Prop :=
  ∀ row ∈ db.leases.rows, row.leaseID = leaseID → row.expiresAt ≤ t

theorem mem_of_mem_pruneLeases
    (h : row ∈ (db.pruneLeases databaseNow kind).leases.rows) : row ∈ db.leases.rows :=
  List.mem_of_mem_filter h

theorem renewIn_eq_ok (h : db.renewIn databaseNow subject
    lease ttl = .ok (expiry, next)) : (expiry = none ∧ next = db) ∨ (∃ row ∈ db.leases.rows,
    row.leaseID = lease.leaseID ∧ databaseNow < row.expiresAt) ∧ next.agentLimits = db.agentLimits ∧
    ∀ row ∈ next.leases.rows, row ∈ db.leases.rows ∨ row.leaseID = lease.leaseID := by
  simp only [renewIn] at h
  split at h
  · cases h
    exact .inl ⟨rfl, rfl⟩
  next hcount =>
    right
    simp only [bind_eq_ok] at h
    obtain ⟨leases, hleases, h⟩ := h
    cases h
    have hmatch : ∀ row, (matchesLease subject lease row && decide (databaseNow < row.expiresAt)) = true →
        row.leaseID = lease.leaseID ∧ databaseNow < row.expiresAt := by
      intro row hrow
      simp only [matchesLease, Bool.and_eq_true, decide_eq_true_eq] at hrow
      exact ⟨hrow.1.1.2, hrow.2⟩
    refine ⟨?_, rfl, fun row hrow => ?_⟩
    · obtain ⟨row, hrow, hrenewable⟩ := List.countP_pos_iff.mp (Nat.pos_of_ne_zero hcount)
      exact ⟨row, hrow, hmatch row hrenewable⟩
    · grind [Table.rows_update]

end Database

/-! ## Calls -/

/-- The identifier that a call draws for a new lease. -/
def LeaseCall.drawn : LeaseCall → Option (List UInt8)
  | .acquireVoice _ random _ _ _ => (readFull 16 random).toOption.map Prod.fst
  | .acquireAgent _ random _ _ _ _ => (readFull 16 random).toOption.map Prod.fst
  | .renew _ _ _ => none
  | .release _ _ => none

section Calls

variable {context : Context} {kind : LeaseKind} {subject : Digest} {fencing : String}
  {random : List UInt8} {transaction : List UInt8 → Database → Except Error (Except Error Time × Database)}
  {db : Database}

variable (context kind subject fencing random transaction db) in
theorem acquire_cases : ((acquire context kind subject fencing random transaction db).1 = db ∧ ∀
    lease, (acquire context kind subject fencing random transaction db).2 ≠ .ok lease) ∨ ∃ leaseID
    business, (readFull 16 random).toOption.map Prod.fst = some leaseID ∧ transaction leaseID db =
    .ok (business, (acquire context kind subject fencing random transaction db).1) ∧ ∀ lease,
    (acquire context kind subject fencing random transaction db).2 = .ok lease → ∃ expiresAt,
    business = .ok expiresAt ∧ lease.leaseID = leaseID := by
  unfold acquire
  split
  · exact .inl ⟨rfl, nofun⟩
  next leaseID rest hrandom =>
    dsimp only
    rcases hresult : serializable context.outcome (transaction leaseID) db with ⟨next, result⟩
    cases result with
    | ok expiresAt =>
      obtain ⟨-, haction⟩ := serializable_eq_ok.mp hresult
      refine .inr ⟨leaseID, .ok expiresAt, by rw [hrandom]; rfl, haction, ?_⟩
      rintro lease hlease
      cases hlease
      exact ⟨expiresAt, rfl, rfl⟩
    | error err =>
      have hcases := serializable_cases context.outcome (transaction leaseID) db
      rw [hresult] at hcases
      rcases hcases with hsame | ⟨business, haction⟩
      · exact .inl ⟨hsame, nofun⟩
      · exact .inr ⟨leaseID, business, by rw [hrandom]; rfl, haction, nofun⟩

variable {subjectText : String} {requestsPerMinute globalMaximum ttl : ℤ}

/-- An acquisition drops leases, or it inserts one under the identifier that it has drawn. It inserts
one when it succeeds. -/
def Acquires (databaseNow : Time) (drawn : Option (List UInt8)) (kind : LeaseKind) (globalMaximum : ℤ)
    (db : Database) (result : Database × Except Error Lease) : Prop :=
  ((∀ row ∈ result.1.leases.rows, row ∈ db.leases.rows) ∧ ∀ lease, result.2 ≠ .ok lease) ∨
    ∃ leaseID row, drawn = some leaseID ∧
      Database.Inserted databaseNow kind leaseID globalMaximum db result.1 row

theorem acquires_of_transaction (kind : LeaseKind) (htransaction : ∀ leaseID business next,
    transaction leaseID db = .ok (business, next) → (next.leases = (db.pruneLeases
    context.databaseNow kind).leases ∧ ∀ expiresAt, business ≠ .ok expiresAt) ∨ ∃ row,
    Database.Inserted context.databaseNow kind leaseID globalMaximum db next row) : Acquires
    context.databaseNow ((readFull 16 random).toOption.map Prod.fst) kind globalMaximum db (acquire
    context kind subject fencing random transaction db) := by
  rcases acquire_cases context kind subject fencing random transaction db with
    ⟨hsame, hfailed⟩ | ⟨leaseID, business, hdrawn, haction, hlease⟩
  · exact .inl ⟨fun row hrow => hsame ▸ hrow, hfailed⟩
  · rcases htransaction leaseID business _ haction with ⟨hleases, hfailed⟩ | ⟨row, hinserted⟩
    · refine .inl ⟨fun row hrow => ?_, fun lease hok => ?_⟩
      · rw [hleases] at hrow
        exact Database.mem_of_mem_pruneLeases hrow
      · grind
    · exact .inr ⟨leaseID, row, hdrawn, hinserted⟩

theorem acquires_acquireVoice :
    Acquires context.databaseNow ((readFull 16 random).toOption.map Prod.fst) .voiceLease globalMaximum
      db (acquireVoice context random subjectText globalMaximum ttl db) := by
  unfold acquireVoice
  split
  · exact .inl ⟨fun _ hrow => hrow, nofun⟩
  · split
    · exact .inl ⟨fun _ hrow => hrow, nofun⟩
    · exact acquires_of_transaction _ fun leaseID business next h =>
        (Database.acquireVoiceIn_cases h).2

theorem acquires_acquireAgent :
    Acquires context.databaseNow ((readFull 16 random).toOption.map Prod.fst) .agentLease globalMaximum
      db (acquireAgent context random subjectText requestsPerMinute globalMaximum ttl db) := by
  unfold acquireAgent
  split
  · exact .inl ⟨fun _ hrow => hrow, nofun⟩
  · split
    · exact .inl ⟨fun _ hrow => hrow, nofun⟩
    · exact acquires_of_transaction _ fun leaseID business next h =>
        (Database.acquireAgentIn_cases h).1

variable (context ttl db) in
theorem renew_cases (lease : Lease) : ((renew context lease ttl db).1 = db ∧ ∀ renewed, (renew
    context lease ttl db).2 ≠ .ok renewed) ∨ (∃ row ∈ db.leases.rows, row.leaseID = lease.leaseID ∧
    context.databaseNow < row.expiresAt) ∧ (renew context lease ttl db).1.agentLimits =
    db.agentLimits ∧ ∀ row ∈ (renew context lease ttl db).1.leases.rows, row ∈ db.leases.rows ∨
    row.leaseID = lease.leaseID := by
  unfold renew
  split
  · exact .inl ⟨rfl, nofun⟩
  · split
    · exact .inl ⟨rfl, nofun⟩
    next subject _ _ =>
      have hcases := runTransaction_cases (fun _ : Error => unavailable "renew runtime lease")
        (fun _ => unavailable "renew runtime lease") context.outcome
        (fun db => db.renewIn context.databaseNow subject lease ttl) db
      dsimp only
      generalize hresult : runTransaction _ _ _ _ _ = answer at hcases ⊢
      obtain ⟨next, result⟩ := answer
      cases result with
      | error err =>
        rcases hcases with hsame | ⟨expiry, hin⟩
        · exact .inl ⟨hsame, nofun⟩
        · rcases Database.renewIn_eq_ok hin with ⟨-, hsame⟩ | hrenewed
          · exact .inl ⟨hsame, nofun⟩
          · exact .inr hrenewed
      | ok expiry =>
        rcases Database.renewIn_eq_ok (runTransaction_eq_ok.mp hresult).2 with
          ⟨rfl, hsame⟩ | hrenewed
        · exact .inl ⟨hsame, nofun⟩
        · exact .inr hrenewed

theorem release_cases (lease : Lease) : (∀ row ∈ (release context lease db).1.leases.rows, row ∈
    db.leases.rows) ∧ (release context lease db).1.agentLimits = db.agentLimits ∧ ((release context
    lease db).2 = .ok () → (∃ row ∈ db.leases.rows, row.leaseID = lease.leaseID) ∧ ∀ row ∈ (release
    context lease db).1.leases.rows, row.leaseID ≠ lease.leaseID) := by
  unfold release
  split
  · exact ⟨fun _ hrow => hrow, rfl, nofun⟩
  next subject _ =>
    have hcases := runTransaction_cases (fun _ : Error => unavailable "release runtime lease")
      (fun _ => unavailable "release runtime lease") context.outcome
      (fun db => .ok (db.releaseIn subject lease)) db
    dsimp only
    generalize hresult : runTransaction _ _ _ _ _ = answer at hcases ⊢
    obtain ⟨next, result⟩ := answer
    have hremoved : (∀ row ∈ next.leases.rows, row ∈ db.leases.rows) ∧
        next.agentLimits = db.agentLimits := by
      rcases hcases with rfl | ⟨deleted, hin⟩
      · exact ⟨fun _ hrow => hrow, rfl⟩
      · cases hin
        exact ⟨fun row hrow => List.mem_of_mem_filter hrow, rfl⟩
    refine ⟨hremoved.1, hremoved.2, fun hok => ?_⟩
    cases result with
    | error err => cases hok
    | ok deleted =>
      have hin := (runTransaction_eq_ok.mp hresult).2
      simp only [Except.ok.injEq, Database.releaseIn, Prod.mk.injEq] at hin
      obtain ⟨hdeleted, rfl⟩ := hin
      -- The row that was found is the only one with its identifier.
      have hfound : db.leases.count (Database.matchesLease subject lease) ≠ 0 := by
        intro hzero
        simp [hzero] at hdeleted
        subst hdeleted
        cases hok
      obtain ⟨row, hrow, hmatch⟩ := List.countP_pos_iff.mp (Nat.pos_of_ne_zero hfound)
      have hid : row.leaseID = lease.leaseID := by grind [Database.matchesLease]
      refine ⟨⟨row, hrow, hid⟩, fun other hother heq => ?_⟩
      obtain ⟨hmem, hkept⟩ := List.mem_filter.mp hother
      have hnodup : (db.leases.rows.map LeaseRow.leaseID).Nodup :=
        db.leases.nodup_key "runtime_coordination_lease_id_idx" (by simp [leasesSchema])
      have hsame := List.inj_on_of_nodup_map hnodup hrow hmem (hid.trans heq.symm)
      subst hsame
      simp [hmatch] at hkept

end Calls

end XiaozhiPlatform.Coordination
