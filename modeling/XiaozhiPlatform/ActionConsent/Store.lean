import XiaozhiPlatform.ActionConsent.Contract
import XiaozhiPlatform.GoLib.Map
import XiaozhiPlatform.GoLib.Run

/-!
# The reference consent store

The single-process store of challenges with its outbox of wakes. A challenge is never deleted, so a
decision and its consumption stay on record. The loops over a map of the store look for the entry
that expires first; the model goes through the entries in the order of their keys.

- `Effect`, `effect_serve`: everything that one call can do to the challenges, with what it checks.
- `pending_eq_ok`: what a device's owner can see.
-/

namespace XiaozhiPlatform.ActionConsent

open GoLib Auth

structure StoredWake where
  wake : Wake
  availableAt : Time
  claimedBy : String
  leaseUntil : Time
deriving DecidableEq, Repr

/-- The wake is not due yet, or a worker holds it. -/
def StoredWake.IsHeld (candidate : StoredWake) (now : Time) : Prop :=
  now < candidate.availableAt ∨ candidate.claimedBy ≠ "" ∧ now < candidate.leaseUntil
deriving Decidable

structure Store where
  maxRecords : ℤ
  records : Std.ExtTreeMap String Record
  wakes : Std.ExtTreeMap String StoredWake

def newStore (maxRecords : ℤ) : Except Error Store := do
  failIf (maxRecords < 1 ∨ 100000 < maxRecords) (.text "invalid action consent store configuration")
  return ⟨maxRecords, ∅, ∅⟩

namespace Store

variable (store : Store)

def register (challenge : Challenge) (now : Time) : Store × Except Error Unit :=
  if ¬ challenge.Valid now then (store, .error errInvalid)
  else if store.records.contains challenge.challengeID then (store, .error errConflict)
  else if store.records.toList.any fun existing =>
      existing.2.challenge.deviceID = challenge.deviceID &&
        existing.2.challenge.sessionID = challenge.sessionID &&
        existing.2.challenge.requestID = challenge.requestID then (store, .error errConflict)
  else if store.maxRecords ≤ store.records.size then (store, .error errCapacity)
  else
    ({ store with
      records := store.records.insert challenge.challengeID ⟨challenge, none, zeroTime, zeroTime⟩
      wakes := store.wakes.insert challenge.challengeID ⟨challenge.wake, now, "", zeroTime⟩ }, .ok ())

/-! ## Wakes -/

/-- The challenge of a wake is gone, decided or expired. -/
def isStale (now : Time) (wakeID : String) (candidate : StoredWake) : Bool :=
  match store.records[wakeID]? with
  | none => true
  | some record => record.decision ≠ none || ¬ now < candidate.wake.expiresAt

/-- One turn of the loop of `claimWake`, with the wakes that are left and the one selected. -/
def claimTurn (now : Time) (loop : Std.ExtTreeMap String StoredWake × Option StoredWake)
    (entry : String × StoredWake) : Std.ExtTreeMap String StoredWake × Option StoredWake :=
  let (wakeID, candidate) := entry
  if store.isStale now wakeID candidate then (loop.1.erase wakeID, loop.2)
  else if candidate.IsHeld now then loop
  else
    match loop.2 with
    | none => (loop.1, some candidate)
    | some selected =>
      if expiresBefore candidate.wake.expiresAt candidate.wake.wakeID selected.wake.expiresAt
          selected.wake.wakeID then (loop.1, some candidate)
      else loop

def claimWake (workerID : String) (now : Time) (lease : ℤ) : Store × Except Error (Option Wake) :=
  if now = zeroTime ∨ ¬ ValidWakeWorker workerID ∨ ¬ ValidWakeLease lease then
    (store, .error errInvalid)
  else
    let (wakes, selected) := store.wakes.toList.foldl (store.claimTurn now) (store.wakes, none)
    match selected with
    | none => ({ store with wakes }, .ok none)
    | some selected =>
      if maximumWakeAttempts ≤ selected.wake.attempts then
        ({ store with wakes := wakes.erase selected.wake.wakeID }, .ok none)
      else
        let wake := { selected.wake with attempts := selected.wake.attempts + 1 }
        ({ store with
          wakes := wakes.insert wake.wakeID
            { selected with wake, claimedBy := workerID, leaseUntil := now + lease } },
          .ok (some wake))

def acknowledgeWake (workerID wakeID : String) (now : Time) : Store × Except Error Unit :=
  if now = zeroTime ∨ ¬ ValidWakeWorker workerID ∨ ¬ ValidChallengeID wakeID then
    (store, .error errInvalid)
  else
    match store.wakes[wakeID]? with
    | none => (store, .error errNotFound)
    | some wake =>
      if ¬ now < wake.wake.expiresAt then
        ({ store with wakes := store.wakes.erase wakeID }, .error errExpired)
      else if wake.claimedBy ≠ workerID ∨ ¬ now < wake.leaseUntil then (store, .error errConflict)
      else ({ store with wakes := store.wakes.erase wakeID }, .ok ())

def retryWake (workerID wakeID : String) (now : Time) (retryAfter : ℤ) : Store × Except Error Unit :=
  if now = zeroTime ∨ ¬ ValidWakeWorker workerID ∨ ¬ ValidChallengeID wakeID ∨
      ¬ ValidWakeRetry retryAfter then (store, .error errInvalid)
  else
    match store.wakes[wakeID]? with
    | none => (store, .error errNotFound)
    | some wake =>
      if wake.claimedBy ≠ workerID ∨ ¬ now < wake.leaseUntil then (store, .error errConflict)
      else if ¬ now + retryAfter < wake.wake.expiresAt then
        ({ store with wakes := store.wakes.erase wakeID }, .error errExpired)
      else
        ({ store with
          wakes := store.wakes.insert wakeID
            { wake with availableAt := now + retryAfter, claimedBy := "", leaseUntil := zeroTime } },
          .ok ())

/-! ## Decisions -/

/-- The challenge is open at a time and bound to an actor. -/
def IsOpenFor (record : Record) (actor : Actor) (now : Time) : Prop :=
  record.decision = none ∧ record.consumedAt = zeroTime ∧ now < record.challenge.expiresAt ∧
    actor.Owns record.challenge
deriving Decidable

/-- One turn of the loop of `pending`. -/
def pendingTurn (actor : Actor) (now : Time) (selected : Option Record) (candidate : Record) :
    Option Record :=
  if ¬ IsOpenFor candidate actor now then selected
  else
    match selected with
    | none => some candidate
    | some other =>
      if expiresBefore candidate.challenge.expiresAt candidate.challenge.challengeID
          other.challenge.expiresAt other.challenge.challengeID then some candidate
      else some other

def pending (actor : Actor) (now : Time) : Except Error (Option Record) :=
  if now = zeroTime ∨ ¬ actor.Valid then .error errInvalid
  else
    let selected := (store.records.toList.map Prod.snd).foldl (pendingTurn actor now) none
    .ok (selected.map fun record => ⟨record.challenge, none, zeroTime, zeroTime⟩)

def decide (actor : Actor) (request : Request) (now : Time) : Store × Except Error Record :=
  if now = zeroTime ∨ ¬ actor.Valid ∨ ¬ request.Valid then (store, .error errInvalid)
  else
    match store.records[request.challengeID]? with
    | none => (store, .error errNotFound)
    | some record =>
      if record.decision ≠ none then (store, .error errReplay)
      else if ¬ now < record.challenge.expiresAt then (store, .error errExpired)
      else if ¬ (actor.Owns record.challenge ∧ request.Carries record.challenge) then
        (store, .error errConflict)
      else
        let record := { record with decision := request.decision, decidedAt := now }
        ({ store with records := store.records.insert request.challengeID record }, .ok record)

def consume (request : DeviceRequest) (now : Time) : Store × Except Error Record :=
  if now = zeroTime ∨ ¬ request.Valid then (store, .error errInvalid)
  else
    match store.records[request.challengeID]? with
    | none => (store, .error errNotFound)
    | some record =>
      if ¬ now < record.challenge.expiresAt then (store, .error errExpired)
      else if record.consumedAt ≠ zeroTime then (store, .error errReplay)
      else if ¬ request.Carries record.challenge then (store, .error errConflict)
      else if record.decision = none then (store, .error errPending)
      else
        let record := { record with consumedAt := now }
        ({ store with records := store.records.insert request.challengeID record }, .ok record)

/-- The store behind the interfaces `DecisionStore` and `WakeOutbox`. -/
def serve (store : Store) : Call → Store × Reply
  | .register challenge now => (store.register challenge now).map id .done
  | .pending actor now => (store, .found (store.pending actor now))
  | .decide actor request now => (store.decide actor request now).map id .record
  | .consume request now => (store.consume request now).map id .record
  | .claimWake workerID now lease => (store.claimWake workerID now lease).map id .wake
  | .acknowledgeWake workerID wakeID now => (store.acknowledgeWake workerID wakeID now).map id .done
  | .retryWake workerID wakeID now retryAfter =>
    (store.retryWake workerID wakeID now retryAfter).map id .done

/-! ## What a call does to the challenges -/

/-- The call is one that writes a challenge, and its reply says that it did. -/
def Writes : Call → Reply → Prop
  | .register .., .done (.ok _) => True
  | .decide .., .record (.ok _) => True
  | .consume .., .record (.ok _) => True
  | _, _ => False

/-- Everything that one call can do to the challenges. -/
inductive Effect (records : Std.ExtTreeMap String Record) :
    Call → Reply → Std.ExtTreeMap String Record → Prop
  | register (challenge : Challenge) (now : Time)
      (habsent : records[challenge.challengeID]? = none) :
      Effect records (.register challenge now) (.done (.ok ()))
        (records.insert challenge.challengeID ⟨challenge, none, zeroTime, zeroTime⟩)
  | decide (actor : Actor) (request : Request) (now : Time) (record : Record)
      (hfound : records[request.challengeID]? = some record) (hdecision : request.decision.isSome)
      (hopen : record.decision = none) (hlive : now < record.challenge.expiresAt)
      (howns : actor.Owns record.challenge) (hcarries : request.Carries record.challenge) :
      Effect records (.decide actor request now)
        (.record (.ok { record with decision := request.decision, decidedAt := now }))
        (records.insert request.challengeID
          { record with decision := request.decision, decidedAt := now })
  | consume (request : DeviceRequest) (now : Time) (record : Record)
      (hfound : records[request.challengeID]? = some record) (hnow : now ≠ zeroTime)
      (hdecided : record.decision ≠ none) (hfresh : record.consumedAt = zeroTime)
      (hlive : now < record.challenge.expiresAt) (hcarries : request.Carries record.challenge) :
      Effect records (.consume request now) (.record (.ok { record with consumedAt := now }))
        (records.insert request.challengeID { record with consumedAt := now })
  | keep (call : Call) (reply : Reply) (hreply : ¬ Writes call reply) : Effect records call reply records

variable {store}

theorem Effect.of_eq (h : Effect kept call reply kept) (heq : next = kept) :
    Effect kept call reply next := by
  rw [heq]
  exact h

theorem effect_register (challenge : Challenge) (now : Time) :
    Effect store.records (.register challenge now) (.done (store.register challenge now).2)
      (store.register challenge now).1.records := by
  unfold register
  split
  · exact .keep _ _ id
  split
  · exact .keep _ _ id
  next habsent =>
  split
  · exact .keep _ _ id
  split
  · exact .keep _ _ id
  exact .register challenge now (by simpa using habsent)

theorem effect_decide (actor : Actor) (request : Request) (now : Time) :
    Effect store.records (.decide actor request now) (.record (store.decide actor request now).2)
      (store.decide actor request now).1.records := by
  unfold decide
  split
  · exact .keep _ _ id
  next hvalid =>
  push Not at hvalid
  split
  · exact .keep _ _ id
  next record hfound =>
  split
  · exact .keep _ _ id
  next hopen =>
  split
  · exact .keep _ _ id
  next hlive =>
  split
  · exact .keep _ _ id
  next hmatch =>
  rw [not_not] at hopen hlive hmatch
  exact .decide actor request now record hfound hvalid.2.2.2 hopen hlive hmatch.1 hmatch.2

theorem effect_consume (request : DeviceRequest) (now : Time) : Effect store.records (.consume
    request now) (.record (store.consume request now).2) (store.consume request now).1.records := by
  unfold consume
  split
  · exact .keep _ _ id
  next hvalid =>
  push Not at hvalid
  split
  · exact .keep _ _ id
  next record hfound =>
  split
  · exact .keep _ _ id
  next hlive =>
  split
  · exact .keep _ _ id
  next hfresh =>
  split
  · exact .keep _ _ id
  next hcarries =>
  split
  · exact .keep _ _ id
  next hdecided =>
  rw [not_not] at hlive hfresh hcarries
  exact .consume request now record hfound hvalid.1 hdecided hfresh hlive hcarries

theorem records_claimWake (workerID : String) (now : Time) (lease : ℤ) :
    (store.claimWake workerID now lease).1.records = store.records := by grind [claimWake]

theorem records_acknowledgeWake (workerID wakeID : String) (now : Time) :
    (store.acknowledgeWake workerID wakeID now).1.records = store.records := by
  grind [acknowledgeWake]

theorem records_retryWake (workerID wakeID : String) (now : Time) (retryAfter : ℤ) :
    (store.retryWake workerID wakeID now retryAfter).1.records = store.records := by
  grind [retryWake]

theorem effect_serve (store : Store) (call : Call) :
    Effect store.records call (store.serve call).2 (store.serve call).1.records := by
  cases call with
  | register challenge now => exact effect_register challenge now
  | pending actor now => exact .keep _ _ id
  | decide actor request now => exact effect_decide actor request now
  | consume request now => exact effect_consume request now
  | claimWake workerID now lease =>
    exact .of_eq (.keep _ _ id) (records_claimWake workerID now lease)
  | acknowledgeWake workerID wakeID now =>
    exact .of_eq (.keep _ _ id) (records_acknowledgeWake workerID wakeID now)
  | retryWake workerID wakeID now retryAfter =>
    exact .of_eq (.keep _ _ id) (records_retryWake workerID wakeID now retryAfter)

/-! ## What an owner can see -/

theorem mem_of_foldl_pendingTurn {actor : Actor} {now : Time} {candidates : List Record} {selected :
    Option Record} {record : Record} (h : candidates.foldl (pendingTurn actor now) selected = some
    record) : selected = some record ∨ record ∈ candidates ∧ IsOpenFor record actor now := by
  induction candidates generalizing selected with
  | nil => exact Or.inl h
  | cons candidate candidates ih =>
    rcases ih h with hturn | ⟨hmem, hopen⟩
    · -- One turn keeps what it had or takes the candidate, which it found open.
      unfold pendingTurn at hturn
      split at hturn
      · exact Or.inl hturn
      next hopen =>
      rw [not_not] at hopen
      have htaken : some candidate = some record → selected = some record ∨
          record ∈ candidate :: candidates ∧ IsOpenFor record actor now := by grind
      split at hturn
      · exact htaken hturn
      split at hturn
      · exact htaken hturn
      · exact Or.inl hturn
    · grind

theorem pending_eq_ok {actor : Actor} {now : Time} {shown : Record} (h : store.pending actor now =
    .ok (some shown)) : ∃ (id : String) (record : Record), store.records[id]? = some record ∧
    IsOpenFor record actor now ∧ shown.challenge = record.challenge := by
  unfold pending at h
  split at h
  · cases h
  obtain ⟨record, hselected, hshown⟩ := Option.map_eq_some_iff.mp (Except.ok.inj h)
  rcases mem_of_foldl_pendingTurn hselected with hnone | ⟨hmem, hopen⟩
  · cases hnone
  · grind

end Store

end XiaozhiPlatform.ActionConsent
