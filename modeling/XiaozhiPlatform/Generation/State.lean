import XiaozhiPlatform.Auth.Token
import XiaozhiPlatform.GoLib.Error
import XiaozhiPlatform.GoLib.Time

/-!
# Coordinator state records

The records of the generation coordinator and the two checks that every record passes before it
is committed and again when it is read back: `validateState` on the record alone and
`validateTransition` on the record after its predecessor.

Instants are nanoseconds since the Unix epoch, durations nanoseconds. Fields of type `int64` are
integers, the counters `revision` and `sequence` wrap around as in Go. A slice that may be nil is
an `Option` of a list, because nil and empty differ in JSON.

- `validateState_eq_ok`: the records that `validateState` accepts are those with `State.Valid`.
- `validateTransition_eq_ok`: the pairs that `validateTransition` accepts.
- `allAcknowledged_iff`: the index-by-index comparison as a relation between the two lists.
-/

set_option linter.dupNamespace false

namespace XiaozhiPlatform.Generation

open GoLib Auth

/-! ## Time -/

/-- How long a replica may act on one authenticated snapshot of the coordinator. -/
def stateLeaseDuration : ℤ := 5 * second

/-- How long a generation drains before the next one becomes active. -/
def drainDuration : ℤ := 10 * second

def minimumUnix : ℤ := 1609459200

def maximumUnix : ℤ := 4102444800

/-- `validTime`. -/
def ValidTime (value : Time) : Prop := minimumUnix ≤ unix value ∧ unix value ≤ maximumUnix
deriving Decidable

/-! ## Records -/

inductive Phase where
  | stable
  | preparing
  | draining
  | committing
deriving DecidableEq, Repr

def Phase.text : Phase → String
  | .stable => "STABLE"
  | .preparing => "PREPARING"
  | .draining => "DRAINING"
  | .committing => "COMMITTING"

inductive AckStage where
  | prepared
  | active
deriving DecidableEq, Repr

def AckStage.text : AckStage → String
  | .prepared => "PREPARED"
  | .active => "ACTIVE"

/-- The roles of the principals that the coordinator knows. -/
inductive Role where
  | controlplane
  | firmwareorigin
  | publisher
deriving DecidableEq, Repr

def Role.text : Role → String
  | .controlplane => "controlplane"
  | .firmwareorigin => "firmwareorigin"
  | .publisher => "publisher"

structure Generation where
  id : String
  sequence : UInt32
  receiptSHA256 : String
deriving DecidableEq, Repr

structure ReplicaRef where
  id : String
  role : Role
deriving DecidableEq, Repr

structure Acknowledgement where
  replicaID : String
  role : Role
  stage : AckStage
  generationID : String
  receiptSHA256 : String
  acknowledgedAt : ℤ
deriving DecidableEq, Repr

/-- A record of the coordinator. -/
structure State where
  schema : ℤ
  revision : UInt64
  previousRecordSHA256 : String
  phase : Phase
  active : Generation
  pending : Option Generation
  requiredReplicas : List ReplicaRef
  acknowledgements : Option (List Acknowledgement)
  prepareDeadline : ℤ
  drainUntil : ℤ
  commitDeadline : ℤ
  updatedAt : ℤ
  recordHMACB64URL : String
deriving DecidableEq, Repr

/-- The acknowledgements as a list, for the code that only ranges over the slice. -/
def State.acks (state : State) : List Acknowledgement := state.acknowledgements.getD []

def zeroDigest : String := "0000000000000000000000000000000000000000000000000000000000000000"

def errConflict : Error := .text "generation state conflict"

def errExpired : Error := .text "generation transition expired"

/-! ## Checks of single fields -/

/-- `validSHA256`: 64 lower-case hexadecimal digits. -/
def ValidSHA256 (value : String) : Prop :=
  byteLength value.toList = 64 ∧ value.toList.map Char.toLower = value.toList ∧
    ∃ bytes ∈ Hex.decode value.toList, bytes.length = 32
deriving Decidable

def ValidGeneration (value : Generation) : Prop :=
  ValidIdentifier value.id 64 ∧ ValidSHA256 value.receiptSHA256
deriving Decidable

/-- `validReplicas`. The map of seen identifiers is a test for duplicates, the map of role counts
a test that both roles occur. -/
def ValidReplicas (values : List ReplicaRef) : Prop :=
  2 ≤ values.length ∧ values.length ≤ 64 ∧
    (∀ value ∈ values, ValidIdentifier value.id 64 ∧
      (value.role = .controlplane ∨ value.role = .firmwareorigin)) ∧
    (values.map ReplicaRef.id).Nodup ∧
    (∃ value ∈ values, value.role = .controlplane) ∧
    (∃ value ∈ values, value.role = .firmwareorigin)
deriving Decidable

def ValidPending (state : State) : Prop :=
  ∃ pending ∈ state.pending, ValidGeneration pending ∧
    pending.sequence = state.active.sequence + 1 ∧ pending.id ≠ state.active.id
deriving Decidable

/-- `sameGeneration`. The constant-time comparison of the receipts is plain equality. -/
def sameGeneration (left right : Generation) : Bool :=
  left.id = right.id && left.sequence = right.sequence && left.receiptSHA256 = right.receiptSHA256

@[simp]
theorem sameGeneration_iff (left right : Generation) :
    sameGeneration left right = true ↔ left = right := by
  cases left
  cases right
  simp [sameGeneration, and_assoc]

/-- Both pointers are set, to the same generation. -/
def samePending (left right : Option Generation) : Bool :=
  match left, right with
  | some left, some right => sameGeneration left right
  | _, _ => false

theorem samePending_iff (left right : Option Generation) : samePending left right = true ↔ ∃
    generation, left = some generation ∧ right = some generation := by
  cases left with
  | none => simp [samePending]
  | some left =>
    cases right with
    | none => simp [samePending]
    | some right => grind [samePending, sameGeneration_iff, Option.some.injEq]

/-! ## Acknowledgements -/

def containsReplica (values : List ReplicaRef) (target : ReplicaRef) : Bool :=
  values.any fun value => value = target

@[simp]
theorem containsReplica_iff (values : List ReplicaRef) (target : ReplicaRef) :
    containsReplica values target = true ↔ target ∈ values := by
  simp [containsReplica]

/-- `ackStage`, where the empty text of Go is `none`. -/
def ackStage (values : List Acknowledgement) (replicaID : String) : Option AckStage :=
  (values.find? fun value => value.replicaID = replicaID).map Acknowledgement.stage

def ackMatches (ack : Acknowledgement) (generation : Generation) : Bool :=
  ack.generationID = generation.id && ack.receiptSHA256 = generation.receiptSHA256

@[simp]
theorem ackMatches_iff (ack : Acknowledgement) (generation : Generation) : ackMatches ack generation
    = true ↔ ack.generationID = generation.id ∧ ack.receiptSHA256 = generation.receiptSHA256 := by
  simp [ackMatches]

/-- `sort.Slice` by replica identifier. The identifiers are distinct wherever it is called, so
the result does not depend on the algorithm. -/
def sortReplicas (values : List ReplicaRef) : List ReplicaRef :=
  values.insertionSort fun left right => left.id ≤ right.id

def sortAcks (values : List Acknowledgement) : List Acknowledgement :=
  values.insertionSort fun left right => left.replicaID ≤ right.replicaID

/-- `allAcknowledged`: the two lists are compared index by index. -/
def allAcknowledged (state : State) (stage : AckStage) : Bool :=
  state.acks.length = state.requiredReplicas.length &&
    (state.requiredReplicas.zip state.acks).all fun (replica, ack) =>
      ack.replicaID = replica.id && ack.role = replica.role && ack.stage = stage

/-- The acknowledgement answers for this replica. -/
def Answers (replica : ReplicaRef) (ack : Acknowledgement) : Prop :=
  ack.replicaID = replica.id ∧ ack.role = replica.role

theorem allAcknowledged_iff (state : State) (stage : AckStage) : allAcknowledged state stage = true
    ↔ List.Forall₂ (fun replica ack => Answers replica ack ∧ ack.stage = stage)
    state.requiredReplicas state.acks := by
  rw [List.forall₂_iff_zip]
  simp only [allAcknowledged, Bool.and_eq_true, decide_eq_true_eq, List.all_eq_true, Answers]
  constructor
  · grind
  · grind

/-- The entry of `priorByID`: a later acknowledgement of the same replica replaces an earlier. -/
def priorByID (prior : List Acknowledgement) (replicaID : String) : Option Acknowledgement :=
  prior.reverse.find? fun ack => ack.replicaID = replicaID

/-- One round of the loop of `ackProgresses`: the number of changes that it counts, or `none`
where the function returns false. -/
def ackChange (old : Option Acknowledgement) (target : AckStage) (ack : Acknowledgement) :
    Option ℕ :=
  match old with
  | none => if target ≠ .prepared ∨ ack.stage ≠ .prepared then none else some 1
  | some old =>
    if old.stage = ack.stage then if old ≠ ack then none else some 0
    else if target ≠ .active ∨ old.stage ≠ .prepared ∨ ack.stage ≠ .active then none
    else some 1

def ackProgresses (prior next : List Acknowledgement) (target : AckStage) : Bool :=
  prior.length ≤ next.length && next.length ≤ prior.length + 1 &&
    (next.mapM fun ack => ackChange (priorByID prior ack.replicaID) target ack).map List.sum
      = some 1

/-! ## validateState -/

/-- The conditions on the acknowledgement loop of `validateState`, duplicates apart. -/
def AckValid (state : State) (ack : Acknowledgement) : Prop :=
  ⟨ack.replicaID, ack.role⟩ ∈ state.requiredReplicas ∧ ValidIdentifier ack.generationID 64 ∧
    ValidSHA256 ack.receiptSHA256 ∧ minimumUnix ≤ ack.acknowledgedAt ∧
    ack.acknowledgedAt ≤ state.updatedAt
deriving Decidable

def StableShape (state : State) : Prop :=
  state.pending = none ∧ state.acks = [] ∧ state.prepareDeadline = 0 ∧ state.drainUntil = 0 ∧
    state.commitDeadline = 0
deriving Decidable

def PreparingShape (state : State) : Prop :=
  ValidPending state ∧ state.updatedAt < state.prepareDeadline ∧ state.drainUntil = 0 ∧
    30 ≤ state.commitDeadline ∧ state.commitDeadline ≤ 86400
deriving Decidable

def DrainingShape (state : State) : Prop :=
  ValidPending state ∧ state.prepareDeadline = 0 ∧ state.drainUntil = state.updatedAt + 10 ∧
    30 ≤ state.commitDeadline ∧ allAcknowledged state .prepared = true
deriving Decidable

def CommittingShape (state : State) : Prop :=
  state.pending = some state.active ∧ state.prepareDeadline = 0 ∧ state.drainUntil = 0 ∧
    state.updatedAt < state.commitDeadline ∧ state.acks.length = state.requiredReplicas.length
deriving Decidable

/-- The acknowledgement is one for the pending generation. -/
def AckForPending (state : State) (ack : Acknowledgement) : Prop :=
  ∃ pending ∈ state.pending, ackMatches ack pending = true
deriving Decidable

/-- The switch over the phase at the end of `validateState`. -/
def validatePhase (state : State) : Except Error Unit :=
  match state.phase with
  | .stable => failIf (¬ StableShape state) (.text "stable generation state is invalid")
  | .preparing => do
    failIf (¬ PreparingShape state) (.text "preparing generation state is invalid")
    failIf (¬ ∀ ack ∈ state.acks, ack.stage = .prepared ∧ AckForPending state ack)
      (.text "preparing acknowledgement is invalid")
  | .draining => failIf (¬ DrainingShape state) (.text "draining generation state is invalid")
  | .committing => do
    failIf (¬ CommittingShape state) (.text "committing generation state is invalid")
    failIf (¬ ∀ ack ∈ state.acks, ackMatches ack state.active = true)
      (.text "committing acknowledgement is invalid")

/-- `validateState`. -/
def validateState (state : State) : Except Error Unit := do
  failIf (state.schema ≠ 1 ∨ state.revision = 0 ∨ ¬ ValidSHA256 state.previousRecordSHA256 ∨
      ¬ ValidGeneration state.active ∨ ¬ ValidReplicas state.requiredReplicas ∨
      state.updatedAt < minimumUnix ∨ maximumUnix < state.updatedAt)
    (.text "generation state fields are invalid")
  failIf (state.recordHMACB64URL ≠ "" ∧
      ¬ ∃ decoded ∈ Base64.decode state.recordHMACB64URL.toList, decoded.length = 32)
    (.text "generation state HMAC field is invalid")
  failIf (¬ state.requiredReplicas.IsChain (fun left right => ¬ right.id < left.id) ∨
      ¬ state.acks.IsChain (fun left right => ¬ right.replicaID < left.replicaID))
    (.text "generation state arrays are not canonical")
  failIf (¬ ((state.acks.map Acknowledgement.replicaID).Nodup ∧
      ∀ ack ∈ state.acks, AckValid state ack))
    (.text "generation acknowledgement is invalid")
  validatePhase state

/-- What `validateState` demands of the fields that belong to the phase. -/
def PhaseShape (state : State) : Prop :=
  match state.phase with
  | .stable => StableShape state
  | .preparing =>
    PreparingShape state ∧ ∀ ack ∈ state.acks, ack.stage = .prepared ∧ AckForPending state ack
  | .draining => DrainingShape state
  | .committing =>
    CommittingShape state ∧ ∀ ack ∈ state.acks, ackMatches ack state.active = true

/-- A record that `validateState` accepts. -/
structure State.Valid (state : State) : Prop where
  schema : state.schema = 1
  revision : state.revision ≠ 0
  previous : ValidSHA256 state.previousRecordSHA256
  active : ValidGeneration state.active
  replicas : ValidReplicas state.requiredReplicas
  updatedAt_ge : minimumUnix ≤ state.updatedAt
  updatedAt_le : state.updatedAt ≤ maximumUnix
  hmac : state.recordHMACB64URL ≠ "" →
    ∃ decoded ∈ Base64.decode state.recordHMACB64URL.toList, decoded.length = 32
  replicas_sorted : state.requiredReplicas.IsChain fun left right => ¬ right.id < left.id
  acks_sorted : state.acks.IsChain fun left right => ¬ right.replicaID < left.replicaID
  acks_nodup : (state.acks.map Acknowledgement.replicaID).Nodup
  acks_valid : ∀ ack ∈ state.acks, AckValid state ack
  shape : PhaseShape state

theorem validatePhase_eq_ok (state : State) : validatePhase state = .ok () ↔ PhaseShape state := by
  rw [validatePhase, PhaseShape]
  cases state.phase <;> simp only [failIf_bind_eq_ok, failIf_eq_ok, not_not]

theorem validateState_eq_ok (state : State) : validateState state = .ok () ↔ state.Valid := by
  simp only [validateState, failIf_bind_eq_ok, validatePhase_eq_ok, not_or, not_not, not_lt,
    not_and_not_right]
  constructor
  · rintro ⟨⟨h1, h2, h3, h4, h5, h6, h7⟩, h8, ⟨h9, h10⟩, ⟨h11, h12⟩, h13⟩
    exact ⟨h1, h2, h3, h4, h5, h6, h7, h8, h9, h10, h11, h12, h13⟩
  · rintro ⟨h1, h2, h3, h4, h5, h6, h7, h8, h9, h10, h11, h12, h13⟩
    exact ⟨⟨h1, h2, h3, h4, h5, h6, h7⟩, h8, ⟨h9, h10⟩, ⟨h11, h12⟩, h13⟩

/-! ## validateTransition -/

/-- The switch over the phase of the predecessor in `validateTransition`. -/
def validateSuccessor (prior next : State) : Except Error Unit :=
  match prior.phase with
  | .stable =>
    failIf (next.phase ≠ .preparing ∨ ¬ sameGeneration next.active prior.active ∨
        ¬ ∃ pending ∈ next.pending, pending.sequence = prior.active.sequence + 1)
      (.text "stable state did not enter preparing")
  | .preparing => do
    failIf (¬ sameGeneration next.active prior.active)
      (.text "preparing state changed active generation")
    if next.phase = .stable then
      failIf (next.pending ≠ none) (.text "aborted generation retained pending state")
    else
      failIf (¬ samePending next.pending prior.pending ∨
          (next.phase ≠ .preparing ∧ next.phase ≠ .draining) ∨
          ¬ ackProgresses prior.acks next.acks .prepared)
        (.text "preparing acknowledgements did not progress")
  | .draining =>
    failIf (next.phase ≠ .committing ∨ ¬ samePending prior.pending next.pending ∨
        ¬ samePending (some next.active) next.pending ∨ prior.acks ≠ next.acks)
      (.text "draining state did not atomically commit pending generation")
  | .committing =>
    if next.phase = .stable then do
      failIf (¬ sameGeneration next.active prior.active ∨ next.pending ≠ none)
        (.text "converged state changed active generation")
      failIf (¬ allAcknowledged prior .active)
        (.text "generation converged before every active acknowledgement")
    else
      failIf (next.phase ≠ .committing ∨ ¬ sameGeneration next.active prior.active ∨
          ¬ samePending next.pending prior.pending ∨
          ¬ ackProgresses prior.acks next.acks .active)
        (.text "active acknowledgements did not progress")

/-- `validateTransition`. -/
def validateTransition (prior next : State) (priorDigest : String) : Except Error Unit := do
  failIf (next.revision ≠ prior.revision + 1 ∨ next.previousRecordSHA256 ≠ priorDigest ∨
      next.updatedAt < prior.updatedAt ∨ prior.requiredReplicas ≠ next.requiredReplicas)
    (.text "generation state chain metadata changed")
  validateSuccessor prior next

/-- What `validateTransition` demands of the phases of a record and its successor. -/
def Follows (prior next : State) : Prop :=
  match prior.phase with
  | .stable => next.phase = .preparing ∧ next.active = prior.active ∧
      ∃ pending ∈ next.pending, pending.sequence = prior.active.sequence + 1
  | .preparing => next.active = prior.active ∧
      if next.phase = .stable then next.pending = none
      else (∃ pending, next.pending = some pending ∧ prior.pending = some pending) ∧
        (next.phase = .preparing ∨ next.phase = .draining) ∧
        ackProgresses prior.acks next.acks .prepared = true
  | .draining => next.phase = .committing ∧ prior.pending = some next.active ∧
      next.pending = some next.active ∧ prior.acks = next.acks
  | .committing => next.active = prior.active ∧
      if next.phase = .stable then next.pending = none ∧ allAcknowledged prior .active = true
      else next.phase = .committing ∧
        (∃ pending, next.pending = some pending ∧ prior.pending = some pending) ∧
        ackProgresses prior.acks next.acks .active = true

theorem validateSuccessor_eq_ok (prior next : State) :
    validateSuccessor prior next = .ok () ↔ Follows prior next := by
  rw [validateSuccessor, Follows]
  cases prior.phase with
  | stable => simp only [failIf_eq_ok, not_or, not_not, sameGeneration_iff]
  | preparing => grind [failIf_bind_eq_ok, failIf_eq_ok, sameGeneration_iff, samePending_iff]
  | draining => grind [failIf_eq_ok, samePending_iff, Option.some.inj]
  | committing =>
    by_cases hstable : next.phase = .stable
    · simp [hstable, and_assoc]
    · grind [failIf_eq_ok, sameGeneration_iff, samePending_iff]

theorem validateTransition_eq_ok (prior next : State) (priorDigest : String) : validateTransition
    prior next priorDigest = .ok () ↔ (next.revision = prior.revision + 1 ∧
    next.previousRecordSHA256 = priorDigest ∧ prior.updatedAt ≤ next.updatedAt ∧
    prior.requiredReplicas = next.requiredReplicas) ∧ Follows prior next := by
  simp only [validateTransition, failIf_bind_eq_ok, validateSuccessor_eq_ok, not_or, not_not,
    not_lt]

end XiaozhiPlatform.Generation
