import XiaozhiPlatform.Generation.Codec
import XiaozhiPlatform.GoLib.FileSystem

/-!
# The coordinator store

The operations of the generation coordinator on its directory of record files. Every operation
decides under the store's lock what the next record is and commits it: the record is written to a
temporary file, linked under its revision, and only then becomes the state in memory. `CURRENT`
names the newest record and is rewritten after each commit, and by `OpenStore` when it is stale.

An operation is split where the source has its comment "the immutable record is the commit point":
`publishRecord`, `abortRecord` and `acknowledgeAction` are the part before any file is touched.
The failpoints of the source are test hooks and nil in operation; a crash after any system call
covers them. The private directory and its lock are taken for granted.
-/

namespace XiaozhiPlatform.Generation

open GoLib Auth

/-- The coordinator in memory. -/
structure Store where
  key : List UInt8
  state : State
  digest : String
  drainStarted : Time

/-- The store that `openEmptyStore` returns. -/
def emptyStore (key : List UInt8) : Store := ⟨key, zeroState, "", zeroTime⟩

/-! ## File names -/

/-- The verb `%020d`. -/
def padded (n : ℕ) : List Char :=
  List.replicate (20 - (formatNat n).length) '0' ++ formatNat n

def stateFileName (revision : UInt64) : String :=
  String.ofList ("state-".toList ++ padded revision.toNat ++ ".json".toList)

def parseStateFileName (name : String) : Option UInt64 :=
  let text := name.toList
  if byteLength text ≠ 31 ∨ ¬ "state-".toList <+: text ∨ ¬ ".json".toList <:+ text then none
  else
    let digits := (text.drop 6).take (text.length - 11)
    match parseNat digits with
    | none => none
    | some value =>
      if value < 2 ^ 64 ∧ 0 < value ∧ padded value = digits then some (UInt64.ofNat value)
      else none

def stateTempName (revision : UInt64) : String :=
  String.ofList (".state-tmp-".toList ++ formatNat revision.toNat)

def currentTempName (revision : UInt64) : String :=
  String.ofList (".current-tmp-".toList ++ formatNat revision.toNat)

/-- A name that `loadLocked` takes for a left-over temporary file. -/
def IsTemporary (name : String) : Prop :=
  ".state-tmp-".toList <+: name.toList ∨ ".current-tmp-".toList <+: name.toList
deriving Decidable

/-! ## Files -/

/-- `writeSyncedExclusive`. A failure closes and removes the file again. -/
def writeSyncedExclusive {σ : Type} (name : String) (data : List Char) : Proc σ Unit := do
  createExclusive name
  let result ← Proc.attempt do
    write name data
    noEffect
    fsync name data
    noEffect
  match result with
  | .ok () => pure ()
  | .error e => do
    let _ ← noEffect.attempt
    let _ ← (unlink name).attempt
    Proc.ofExcept (.error e)

/-- `readBoundedRegular`. -/
def readBoundedRegular (files : Entries) (name : String) (maximum : ℕ) :
    Except Error (List Char) :=
  match files[name]? with
  | none => .error (.text "file is unavailable or outside size bounds")
  | some file => do
    failIf (byteLength file.data < 1 ∨ maximum < byteLength file.data)
      (.text "file is unavailable or outside size bounds")
    return file.data

/-! ## CURRENT -/

structure CurrentPointer where
  revision : UInt64
  recordSHA256 : String
deriving DecidableEq

def currentPointerFields : List (Json.Field CurrentPointer) :=
  [Json.uintField 64 "revision" (fun p => p.revision.toNat)
      fun v p => { p with revision := UInt64.ofNat v },
    Json.stringField "record_sha256" CurrentPointer.recordSHA256
      fun v p => { p with recordSHA256 := v }]

/-- The text of `CURRENT`. -/
def currentText (pointer : CurrentPointer) : List Char :=
  Json.render (Json.encode currentPointerFields pointer) ++ ['\n']

/-- `writeCurrentLocked`. -/
def writeCurrentLocked : Proc Store Unit := do
  let store ← Proc.receiver
  let temporary := currentTempName store.state.revision
  let _ ← (unlink temporary).attempt
  (writeSyncedExclusive temporary (currentText ⟨store.state.revision, store.digest⟩)).wrapping
    "write generation CURRENT"
  (rename temporary "CURRENT").wrapping "commit generation CURRENT"
  syncDirectory

/-- `currentMatchesLocked`. -/
def currentMatches (store : Store) (files : Entries) : Bool :=
  match readBoundedRegular files "CURRENT" 256 with
  | .error _ => false
  | .ok text =>
    match (Json.parse text).bind (Json.decode currentPointerFields ⟨0, ""⟩) with
    | none => false
    | some pointer =>
      pointer.revision = store.state.revision && pointer.recordSHA256 = store.digest &&
        currentText pointer = text

/-! ## Commit -/

/-- The checks of `commitLocked`. The first record of a store has no predecessor. -/
def checkCommit (store : Store) (state : State) : Except Error Unit := do
  validateState state
  if store.state.revision ≠ 0 then validateTransition store.state state store.digest else .ok ()

/-- The store after a commit. -/
def Store.committed (store : Store) (state : State) : Store :=
  { store with
    state := sign store.key state
    digest := digestText (payload (sign store.key state)) }

/-- `commitLocked`. -/
def commitLocked (state : State) : Proc Store Unit := do
  let store ← Proc.receiver
  checkCommit store state
  let signed := sign store.key state
  let temporary := stateTempName signed.revision
  (writeSyncedExclusive temporary (payload signed)).wrapping "write generation state record"
  (link temporary (stateFileName signed.revision)).wrapping "commit generation state record"
  (unlink temporary).wrapping "remove committed generation state temporary link"
  syncDirectory
  Proc.update fun store => store.committed state
  writeCurrentLocked

/-! ## Records of the operations -/

/-- `cloneState`: copying an empty slice gives a nil slice. -/
def cloneState (value : State) : State :=
  { value with acknowledgements := if value.acks = [] then none else some value.acks }

/-- `nextLocked`. -/
def nextLocked (store : Store) (now : Time) : State :=
  { cloneState store.state with
    revision := store.state.revision + 1
    previousRecordSHA256 := store.digest
    updatedAt := unix now
    recordHMACB64URL := "" }

@[simp]
theorem acks_cloneState (value : State) : (cloneState value).acks = value.acks := by
  grind [cloneState, State.acks]

section NextLocked

variable (store : Store) (now : Time)

@[simp]
theorem acks_nextLocked : (nextLocked store now).acks = store.state.acks :=
  acks_cloneState store.state

@[simp]
theorem phase_nextLocked : (nextLocked store now).phase = store.state.phase := rfl

@[simp]
theorem pending_nextLocked : (nextLocked store now).pending = store.state.pending := rfl

end NextLocked

/-- `makeStable`. -/
def makeStable (state : State) : State :=
  { state with
    phase := .stable
    pending := none
    acknowledgements := some []
    prepareDeadline := 0
    drainUntil := 0
    commitDeadline := 0 }

/-- The record that starts a publication. -/
def preparingRecord (store : Store) (pending : Generation) (prepareTimeout commitTimeout : ℤ)
    (now : Time) : State :=
  { nextLocked store now with
    phase := .preparing
    pending := some pending
    acknowledgements := some []
    prepareDeadline := unix (now + prepareTimeout)
    commitDeadline := commitTimeout / second }

/-- The decision of `Publish`. -/
def publishRecord (store : Store) (expectedRevision : UInt64) (expectedActive pending : Generation)
    (prepareTimeout commitTimeout : ℤ) (now : Time) : Except Error State := do
  failIf (store.state.revision ≠ expectedRevision ∨ store.state.phase ≠ .stable ∨
      ¬ sameGeneration store.state.active expectedActive) errConflict
  failIf (¬ ValidGeneration pending ∨ pending.sequence ≠ expectedActive.sequence + 1 ∨
      pending.id = expectedActive.id ∨ prepareTimeout < 30 * second ∨
      86400 * second < prepareTimeout ∨ commitTimeout < 30 * second ∨
      86400 * second < commitTimeout ∨ ¬ ValidTime now)
    (.text "generation publication inputs are invalid")
  return preparingRecord store pending prepareTimeout commitTimeout now

/-- The decision of `Abort`. -/
def abortRecord (store : Store) (expectedRevision : UInt64) (pending : Generation) (now : Time) :
    Except Error State := do
  failIf (store.state.revision ≠ expectedRevision ∨ store.state.phase ≠ .preparing ∨
      ¬ samePending store.state.pending (some pending)) errConflict
  return makeStable (nextLocked store now)

/-- The loop over the acknowledgements in `Acknowledge`, where the first entry of the replica is
at another stage. -/
def updateAck (replicaID : String) (stage : AckStage) (time : ℤ) :
    List Acknowledgement → List Acknowledgement
  | [] => []
  | ack :: rest =>
    if ack.replicaID = replicaID then { ack with stage := stage, acknowledgedAt := time } :: rest
    else ack :: updateAck replicaID stage time rest

/-- The acknowledgements with that of a replica added or moved on, or `none` when the replica is
at that stage already. -/
def withAck (acks : List Acknowledgement) (replica : ReplicaRef) (generation : Generation)
    (stage : AckStage) (time : ℤ) : Option (List Acknowledgement) :=
  match ackStage acks replica.id with
  | none => some (sortAcks (acks ++ [⟨replica.id, replica.role, stage, generation.id,
      generation.receiptSHA256, time⟩]))
  | some old => if old = stage then none else some (sortAcks (updateAck replica.id stage time acks))

/-- What `Acknowledge` does once it has accepted its arguments. -/
inductive AckAction where
  /-- The prepare deadline has passed: roll back and report `ErrExpired`. -/
  | expire (next : State)
  | unchanged
  | record (next : State)
  /-- Every replica is prepared: the drain starts. -/
  | drain (next : State)
  /-- As `record`, and the generation may have converged. -/
  | activate (next : State)

section

variable (store : Store) (acks : List Acknowledgement) (now : Time)

/-- The next record with new acknowledgements. -/
def ackRecord : State :=
  { nextLocked store now with acknowledgements := some acks }

/-- The record that starts the drain. -/
def drainRecord : State :=
  { ackRecord store acks now with
    phase := .draining
    prepareDeadline := 0
    drainUntil := unix (now + drainDuration) }

end

section

variable (store : Store) (replica : ReplicaRef) (generation : Generation) (now : Time)

/-- `Acknowledge` at the stage PREPARED. -/
def preparedAction : AckAction :=
  match withAck (nextLocked store now).acks replica generation .prepared (unix now) with
  | none => .unchanged
  | some acks =>
    if allAcknowledged (ackRecord store acks now) .prepared then
      .drain (drainRecord store acks now)
    else .record (ackRecord store acks now)

/-- `Acknowledge` at the stage ACTIVE. -/
def activeAction : AckAction :=
  match withAck (nextLocked store now).acks replica generation .active (unix now) with
  | none => .unchanged
  | some acks => .activate (ackRecord store acks now)

end

/-- The decision of `Acknowledge`. -/
def acknowledgeAction (store : Store) (expectedRevision : UInt64) (replica : ReplicaRef)
    (generation : Generation) (stage : String) (now : Time) : Except Error AckAction := do
  failIf (store.state.revision ≠ expectedRevision ∨
      ¬ containsReplica store.state.requiredReplicas replica ∨ ¬ ValidTime now) errConflict
  match AckStage.ofText stage with
  | some .prepared => do
    failIf (store.state.phase ≠ .preparing ∨
        ¬ samePending store.state.pending (some generation)) errConflict
    if store.state.prepareDeadline < unix now then
      return .expire (makeStable (nextLocked store now))
    else return preparedAction store replica generation now
  | some .active => do
    failIf (store.state.phase ≠ .committing ∨
        ¬ sameGeneration store.state.active generation ∨
        ¬ samePending store.state.pending (some generation) ∨
        ackStage store.state.acks replica.id ≠ some .prepared) errConflict
    return activeAction store replica generation now
  | none => .error (.text "generation acknowledgement stage is invalid")

/-- The record of `Advance` that makes the pending generation active. -/
def flipRecord (store : Store) (now : Time) : State :=
  { nextLocked store now with
    phase := .committing
    active := (nextLocked store now).pending.getD zeroGeneration
    drainUntil := 0
    commitDeadline := unix (now + store.state.commitDeadline * second) }

/-! ## Operations -/

/-- Every return of an operation hands out a copy of the state beside its error. -/
def replying (body : Proc Store Unit) : Proc Store (State × Option Error) := do
  let result ← body.attempt
  let store ← Proc.receiver
  return (cloneState store.state, match result with
    | .ok () => none
    | .error e => some e)

/-- `Store.Publish`. -/
def publish (expectedRevision : UInt64) (expectedActive pending : Generation)
    (prepareTimeout commitTimeout : ℤ) (now : Time) : Proc Store (State × Option Error) :=
  replying do
    let store ← Proc.receiver
    let next ← publishRecord store expectedRevision expectedActive pending prepareTimeout
      commitTimeout now
    commitLocked next

/-- `Store.Abort`. -/
def abort (expectedRevision : UInt64) (pending : Generation) (now : Time) :
    Proc Store (State × Option Error) :=
  replying do
    let store ← Proc.receiver
    let next ← abortRecord store expectedRevision pending now
    commitLocked next

/-- The step to STABLE once every replica is active. -/
def converge (now : Time) : Proc Store Unit := do
  let store ← Proc.receiver
  if allAcknowledged store.state .active then commitLocked (makeStable (nextLocked store now))
  else pure ()

/-- The store with the start of its drain set. -/
def Store.drainingSince (store : Store) (now : Time) : Store := { store with drainStarted := now }

/-- The part of `Acknowledge` after its decision. -/
def performAction (now : Time) : AckAction → Proc Store Unit
  | .expire next => do
    commitLocked next
    Proc.ofExcept (.error errExpired)
  | .unchanged => pure ()
  | .record next => commitLocked next
  | .drain next => do
    Proc.update fun store => store.drainingSince now
    commitLocked next
  | .activate next => do
    commitLocked next
    converge now

/-- `Store.Acknowledge`. -/
def acknowledge (expectedRevision : UInt64) (replica : ReplicaRef) (generation : Generation)
    (stage : String) (now : Time) : Proc Store (State × Option Error) :=
  replying do
    let store ← Proc.receiver
    let action ← acknowledgeAction store expectedRevision replica generation stage now
    performAction now action

/-- The DRAINING case of `Store.Advance`. -/
def advanceDrain (now : Time) : Proc Store Unit := do
  Proc.update fun store =>
    if store.drainStarted = zeroTime then store.drainingSince now else store
  let store ← Proc.receiver
  if unix now < store.state.drainUntil ∨ now - store.drainStarted < drainDuration then pure ()
  else commitLocked (flipRecord store now)

/-- `Store.Advance`. -/
def advance (now : Time) : Proc Store (State × Option Error) :=
  replying do
    let store ← Proc.receiver
    failIf (¬ ValidTime now) (.text "generation coordinator time is invalid")
    match store.state.phase with
    | .stable => pure ()
    | .preparing =>
      if unix now ≤ store.state.prepareDeadline then pure ()
      else commitLocked (makeStable (nextLocked store now))
    | .draining => advanceDrain now
    | .committing => converge now

/-! ## Opening -/

/-- The first loop of `loadLocked`: the revisions of the record files; temporary files are
removed. -/
def scanEntries : List String → Proc Store (List UInt64)
  | [] => pure []
  | name :: rest =>
    if name = "CURRENT" then scanEntries rest
    else if IsTemporary name then do
      (unlink name).wrapping "remove incomplete generation state temporary file"
      scanEntries rest
    else
      match parseStateFileName name with
      | none => Proc.ofExcept (.error (.text
          ("unexpected generation state directory entry " ++ String.ofList (Json.quote name))))
      | some revision => do
        let revisions ← scanEntries rest
        return revision :: revisions

/-- One round of the second loop of `loadLocked`, with the previous record and its digest. -/
def loadRecord (key : List UInt8) (files : Entries) (revisions : List UInt64)
    (previous : State) (previousDigest : String) (revision : UInt64) :
    Except Error (State × String) := do
  failIf (revision ∉ revisions) (.text "generation state record sequence has a gap")
  let text ← (readBoundedRegular files (stateFileName revision) maximumStateBytes).mapError
    (.wrap "read generation state record")
  let state ← (decodeCanonicalState text key).mapError
    (.wrap ("verify generation state record " ++ toString revision))
  failIf (state.revision ≠ revision) (.text "generation state filename/revision mismatch")
  if revision = 1 then
    failIf (state.previousRecordSHA256 ≠ zeroDigest ∨ state.phase ≠ .stable)
      (.text "generation state genesis is invalid")
  else
    (validateTransition previous state previousDigest).mapError
      (.wrap "generation state transition is invalid")
  return (state, digestText text)

/-- The second loop of `loadLocked` up to a revision. -/
def replay (key : List UInt8) (files : Entries) (revisions : List UInt64) :
    ℕ → Except Error (State × String)
  | 0 => .ok (zeroState, "")
  | n + 1 => do
    let (previous, previousDigest) ← replay key files revisions n
    loadRecord key files revisions previous previousDigest (UInt64.ofNat (n + 1))

/-- The store after its records have been read. After a restart a full drain is required again,
whatever the recorded deadline says. -/
def Store.loaded (store : Store) (state : State) (digest : String) (now : Time) : Store :=
  { store with
    state := state
    digest := digest
    drainStarted := if state.phase = .draining then now else store.drainStarted }

/-- `loadLocked`, where `now` is its reading of the clock. -/
def loadLocked (now : Time) : Proc Store Unit := do
  let entries ← Proc.entries
  let revisions ← scanEntries entries.keys
  failIf (revisions = []) (.text "generation state directory is not initialized")
  let store ← Proc.receiver
  let files ← Proc.entries
  let (state, digest) ← replay store.key files revisions revisions.length
  Proc.update fun store => store.loaded state digest now
  let store ← Proc.receiver
  if currentMatches store files then pure ()
  else writeCurrentLocked.wrapping "repair generation CURRENT"

/-- `OpenStore`, run on an empty store with the given key. -/
def openStore (now : Time) : Proc Store Unit := do
  let store ← Proc.receiver
  failIf (store.key.length < 32 ∨ 128 < store.key.length)
    (.text "generation state HMAC key must be 32 through 128 bytes")
  loadLocked now

section

variable (initial : Generation) (replicas : List ReplicaRef) (now : Time)

/-- The record that `InitializeStore` commits. -/
def genesisRecord : State :=
  { zeroState with
    schema := 1
    revision := 1
    previousRecordSHA256 := zeroDigest
    phase := .stable
    active := initial
    requiredReplicas := sortReplicas replicas
    acknowledgements := some []
    updatedAt := unix now }

/-- `InitializeStore`, run on an empty store with the given key and in a new directory. -/
def initializeStore :
    Proc Store Unit := do
  let store ← Proc.receiver
  failIf (store.key.length < 32 ∨ 128 < store.key.length ∨ ¬ ValidGeneration initial ∨
      ¬ ValidReplicas replicas ∨ ¬ ValidTime now)
    (.text "generation store bootstrap inputs are invalid")
  commitLocked (genesisRecord initial replicas now)

end

end XiaozhiPlatform.Generation
