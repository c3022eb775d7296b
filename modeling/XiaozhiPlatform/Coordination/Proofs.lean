import XiaozhiPlatform.Coordination.Schema

/-!
# Reservations of device proofs

`PostgresCoordinator.ReserveProof` keeps the nonce of every proof that it has seen, for each scope
and device, until the nonce expires. The clock of a transaction is that of the database.

- `kept_reserveProof`: a nonce that has not expired stays.
- `reserveProof_eq_ok`: a reservation succeeds for a nonce that is not there, and stores it.
-/

namespace XiaozhiPlatform.Coordination

open GoLib Auth Sql

def maximumProofNonces : ℕ := 64

def maximumSubjectBytes : ℕ := 512

/-- `subjectDigest`. Every text of the model is valid UTF-8. -/
def subjectDigest (purpose subject : String) : Except Error Digest := do
  failIf (purpose = "" ∨ 64 < byteLength purpose.toList ∨ subject = "" ∨
    maximumSubjectBytes < byteLength subject.toList) errInvalid
  return Sha256.sum256 (utf8 ("XIAOZHI-RUNTIME-COORDINATION-SUBJECT-V1\x00" ++ purpose ++ "\x00" ++
    subject).toList)

/-- `proofNonceDigest`. -/
def proofNonceDigest (nonce : String) : Except Error Digest :=
  match Base64.decode nonce.toList with
  | none => .error errInvalid
  | some decoded => do
    failIf (decoded.length < 16 ∨ 32 < decoded.length ∨ Base64.encodeToString decoded ≠ nonce)
      errInvalid
    return Sha256.sum256
      (utf8 "XIAOZHI-RUNTIME-COORDINATION-PROOF-NONCE-V1\x00".toList ++ decoded)

/-- The arguments of `ReserveProof`. -/
structure ProofReservation where
  scope : ℕ
  subject : String
  nonce : String
  maximumSkew : ℤ
  minimumInterval : ℤ

/-- The expiry of a proof nonce that is kept. -/
def Database.keptNonce (db : Database) (key : ℕ × Digest × Digest) : Option Time :=
  (db.proofNonces.select (byKey NonceRow.key key)).map NonceRow.expiresAt

namespace Database

variable (databaseNow : Time) (scope : ℕ) (subject nonce : Digest)
  (maximumSkew minimumInterval : ℤ)

/-- The statements that drop what has expired. -/
def pruneProofs (db : Database) : Database where
  proofNonces := db.proofNonces.delete fun row => row.expiresAt ≤ databaseNow
  proofLimits := db.proofLimits.delete fun row => row.expiresAt ≤ databaseNow
  leases := db.leases
  agentLimits := db.agentLimits

/-- How long the limit row of a device stays. -/
def limitRetention : ℤ := if 2 * maximumSkew < minimumInterval then minimumInterval else 2 * maximumSkew

/-- The statement that makes sure of a limit row. -/
def ensureLimit (db : Database) : Except Error Database := do
  if (db.proofLimits.select (byKey LimitRow.key (scope, subject))).isSome then return db else
    let limits ← db.proofLimits.insert
      ⟨scope, subject, none, timestamptz (databaseNow + limitRetention maximumSkew minimumInterval)⟩
    return { db with proofLimits := limits }

/-- The statements that store the nonce and keep the limit row. -/
def insertNonce (db : Database) : Except Error Database := do
  let nonces ← db.proofNonces.insert
    ⟨scope, subject, nonce, timestamptz (databaseNow + 2 * maximumSkew)⟩
  let limits ← db.proofLimits.update (byKey LimitRow.key (scope, subject)) fun row =>
    { row with
      expiresAt := timestamptz (databaseNow + limitRetention maximumSkew minimumInterval) }
  return { db with proofNonces := nonces, proofLimits := limits }

/-- The statement that records an accepted proof. -/
def acceptProof (db : Database) : Except Error Database := do
  let limits ← db.proofLimits.update (byKey LimitRow.key (scope, subject)) fun row =>
    { row with lastAcceptedAt := some databaseNow }
  return { db with proofLimits := limits }

/-- The transaction of `ReserveProof`. -/
def reserveProofIn (db : Database) : Except Error (Except Error Unit × Database) := do
  let db ← ensureLimit databaseNow scope subject maximumSkew minimumInterval
    (db.pruneProofs databaseNow)
  match db.proofLimits.select (byKey LimitRow.key (scope, subject)) with
  | none => .error (.text "sql: no rows in result set")
  | some limit =>
    if (db.proofNonces.select (byKey NonceRow.key (scope, subject, nonce))).isSome then
      return (.error errReplay, db)
    else if maximumProofNonces ≤ db.proofNonces.count fun row =>
        row.proofScope = scope ∧ row.subjectSHA256 = subject ∧ databaseNow < row.expiresAt then
      return (.error errRateLimited, db)
    else
      let db ← insertNonce databaseNow scope subject nonce maximumSkew minimumInterval db
      -- The nonce stays when only the issuance cadence rejects the proof.
      if ∃ last ∈ limit.lastAcceptedAt, timeSub databaseNow last < minimumInterval then
        return (.error errRateLimited, db)
      else
        let db ← acceptProof databaseNow scope subject db
        return (.ok (), db)

end Database

/-- `ReserveProof`, in a transaction that starts at `started` by the clock of the database. -/
def reserveProof (started : Time) (args : ProofReservation) (outcome : Outcome) (db : Database) :
    Database × Except Error Unit :=
  match subjectDigest "proof" args.subject, proofNonceDigest args.nonce with
  | .ok subject, .ok nonce =>
    if args.scope < 1 ∨ 6 < args.scope ∨ args.maximumSkew < 10 * second ∨
        5 * minute < args.maximumSkew ∨ args.minimumInterval < 0 ∨
        minute < args.minimumInterval then (db, .error errInvalid)
    else serializable outcome (Database.reserveProofIn (timestamptz started) args.scope subject
      nonce args.maximumSkew args.minimumInterval) db
  | _, _ => (db, .error errInvalid)

/-- The key of the nonce of a proof. -/
def nonceKey (scope : ℕ) (subject nonce : String) : Option (ℕ × Digest × Digest) :=
  match subjectDigest "proof" subject, proofNonceDigest nonce with
  | .ok subject, .ok nonce => some (scope, subject, nonce)
  | _, _ => none

/-! ## What a reservation does to the nonces -/

namespace Database

variable {databaseNow : Time} {scope : ℕ} {subject nonce : Digest}
  {maximumSkew minimumInterval : ℤ} {db next : Database}

theorem keptNonce_pruneProofs (key : ℕ × Digest × Digest) : (db.pruneProofs databaseNow).keptNonce
    key = (db.keptNonce key).filter fun expiry => databaseNow < expiry := by
  have hnodup : (db.proofNonces.rows.map NonceRow.key).Nodup :=
    db.proofNonces.nodup_key "runtime_coordination_proof_nonces_pkey" List.mem_cons_self
  have hfind := find?_filter_key (k := key) hnodup fun row => !decide (row.expiresAt ≤ databaseNow)
  rw [keptNonce, keptNonce, pruneProofs, Table.select, Table.delete, hfind, Table.select]
  cases db.proofNonces.rows.find? (byKey NonceRow.key key) with
  | none => rfl
  | some row => simp [Option.filter, apply_ite]

theorem proofNonces_ensureLimit (h : ensureLimit databaseNow scope subject maximumSkew
    minimumInterval db = .ok next) : next.proofNonces = db.proofNonces := by
  unfold ensureLimit at h
  split at h
  · cases h
    rfl
  · simp only [bind_eq_ok] at h
    obtain ⟨limits, -, hnext⟩ := h
    cases hnext
    rfl

theorem proofNonces_acceptProof (h : acceptProof databaseNow scope subject db = .ok next) :
    next.proofNonces = db.proofNonces := by
  simp only [acceptProof, bind_eq_ok] at h
  obtain ⟨limits, -, hnext⟩ := h
  cases hnext
  rfl

theorem keptNonce_insertNonce (h : insertNonce databaseNow scope subject nonce maximumSkew
    minimumInterval db = .ok next) (key : ℕ × Digest × Digest) : next.keptNonce key = (db.keptNonce
    key).or (if (scope, subject, nonce) = key then some (timestamptz (databaseNow + 2 *
    maximumSkew)) else none) := by
  simp only [insertNonce, bind_eq_ok] at h
  obtain ⟨nonces, hnonces, limits, -, hnext⟩ := h
  cases hnext
  rw [keptNonce, keptNonce, Table.select_append (Table.rows_insert hnonces)]
  cases db.proofNonces.select (byKey NonceRow.key key) with
  | some row => rfl
  | none =>
    rw [Option.none_or, Option.map_none, Option.none_or]
    exact apply_ite (Option.map NonceRow.expiresAt) _ _ _

/-- The transaction either leaves the nonces that have not expired, or it adds the nonce, which was
not among them. It succeeds only in the second case. -/
theorem reserveProofIn_cases (h : reserveProofIn databaseNow scope
    subject nonce maximumSkew minimumInterval db = .ok (business, next)) : (business ≠ .ok () ∧ ∀
    key, next.keptNonce key = (db.keptNonce key).filter fun expiry => databaseNow < expiry) ∨
    ((db.keptNonce (scope, subject, nonce)).filter (fun expiry => databaseNow < expiry) = none ∧ ∀
    key, next.keptNonce key = ((db.keptNonce key).filter fun expiry => databaseNow < expiry).or (if
    (scope, subject, nonce) = key then some (timestamptz (databaseNow + 2 * maximumSkew)) else
    none)) := by
  simp only [reserveProofIn, bind_eq_ok] at h
  obtain ⟨ensured, hensured, h⟩ := h
  have hkept : ∀ key, ensured.keptNonce key =
      (db.keptNonce key).filter fun expiry => databaseNow < expiry := by
    intro key
    rw [← keptNonce_pruneProofs, keptNonce, proofNonces_ensureLimit hensured, keptNonce]
  split at h
  · cases h
  · split at h
    · cases h
      exact .inl ⟨by simp, hkept⟩
    next habsent =>
      split at h
      · cases h
        exact .inl ⟨by simp, hkept⟩
      · right
        simp only [bind_eq_ok] at h
        obtain ⟨inserted, hinserted, h⟩ := h
        have hinsertedKept := keptNonce_insertNonce hinserted
        simp only [hkept] at hinsertedKept
        have hnone : (db.keptNonce (scope, subject, nonce)).filter
            (fun expiry => databaseNow < expiry) = none := by
          rw [← hkept, keptNonce, Option.map_eq_none_iff]
          simpa using habsent
        refine ⟨hnone, ?_⟩
        split at h
        · cases h
          exact hinsertedKept
        · simp only [bind_eq_ok] at h
          obtain ⟨accepted, haccepted, h⟩ := h
          cases h
          intro key
          rw [← hinsertedKept, keptNonce, proofNonces_acceptProof haccepted, keptNonce]

end Database

variable {started : Time} {args : ProofReservation} {outcome : Outcome} {db : Database}

/-- A nonce that has not expired by the clock of the transaction stays. -/
theorem kept_reserveProof
    (hkept : db.keptNonce key = some expiry) (hlive : timestamptz started < expiry) :
    (reserveProof started args outcome db).1.keptNonce key = some expiry := by
  unfold reserveProof
  split
  · split
    · exact hkept
    · rcases serializable_cases outcome _ db with hsame | ⟨business, hbusiness⟩
      · rw [hsame]
        exact hkept
      · have hfilter : (db.keptNonce key).filter (fun expiry => timestamptz started < expiry) =
            some expiry := by simp [hkept, Option.filter, hlive]
        rcases Database.reserveProofIn_cases hbusiness with ⟨-, hnext⟩ | ⟨-, hnext⟩
        · rw [hnext, hfilter]
        · rw [hnext, hfilter, Option.some_or]
  · exact hkept

/-- A reservation that succeeds is of a nonce that is not there or has expired. It leaves the nonce
for twice the clock skew. -/
theorem reserveProof_eq_ok (h : reserveProof started args outcome db = (next, .ok ())) :
    ∃ key ∈ nonceKey args.scope args.subject args.nonce,
      (∀ expiry, db.keptNonce key = some expiry → expiry ≤ timestamptz started) ∧
      next.keptNonce key = some (timestamptz (timestamptz started + 2 * args.maximumSkew)) := by
  unfold reserveProof at h
  split at h
  next subject nonce hsubject hnonce =>
    split at h
    · cases h
    · obtain ⟨-, hin⟩ := serializable_eq_ok.mp h
      refine ⟨(args.scope, subject, nonce), by rw [nonceKey, hsubject, hnonce]; rfl, ?_⟩
      rcases Database.reserveProofIn_cases hin with ⟨hrefused, -⟩ | ⟨hnone, hnext⟩
      · exact absurd rfl hrefused
      · grind
  · cases h

end XiaozhiPlatform.Coordination
