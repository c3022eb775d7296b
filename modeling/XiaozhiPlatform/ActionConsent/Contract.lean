import XiaozhiPlatform.Auth.Token
import XiaozhiPlatform.GoLib.Encoding
import XiaozhiPlatform.GoLib.Error
import XiaozhiPlatform.GoLib.Time

/-!
# Action consents

A device registers a challenge for one exact action, the app of its owner decides on it, and the
device consumes the decision. This module has the records that both stores of consents work on, and
the checks that they share. A decision of a request that is neither of the two texts is `none`, and
so is the empty decision of a challenge that is still open.
-/

namespace XiaozhiPlatform.ActionConsent

open GoLib Auth

/-! ## Errors -/

def errInvalid : Error := .text "invalid action consent"
def errReplay : Error := .text "action consent already decided"
def errCapacity : Error := .text "action consent capacity reached"
def errConflict : Error := .text "action consent mismatch"
def errNotFound : Error := .text "action consent not found"
def errExpired : Error := .text "action consent expired"
def errPending : Error := .text "action consent decision pending"
def errUnavailable : Error := .text "action consent store unavailable"

/-! ## Records -/

def maximumLifetime : ℤ := 30 * second

def challengeBytes : ℕ := 16

inductive Decision where
  | approve
  | deny
deriving DecidableEq, Repr

structure Action where
  indicatorOn : Bool
deriving DecidableEq, Repr

structure Challenge where
  challengeID : String
  deviceID : String
  ownerID : String
  tenantID : String
  ownerRevision : UInt64
  sessionID : String
  requestID : UInt32
  action : Action
  expiresAt : Time
deriving DecidableEq, Repr

/-- What a device presents when it consumes a decision. -/
structure DeviceRequest where
  challengeID : String
  deviceID : String
  ownerRevision : UInt64
  sessionID : String
  requestID : UInt32
  action : Action
deriving DecidableEq, Repr

/-- What the app presents with its decision. -/
structure Request extends DeviceRequest where
  decision : Option Decision
deriving DecidableEq, Repr

structure Actor where
  ownerID : String
  tenantID : String
  deviceID : String
  ownerRevision : UInt64
deriving DecidableEq, Repr

/-- `Record` and `storedRecord`. A time that is not set is `zeroTime`. -/
structure Record where
  challenge : Challenge
  decision : Option Decision
  decidedAt : Time
  consumedAt : Time
deriving DecidableEq, Repr

/-! ## Checks -/

def ValidChallengeID (value : String) : Prop := Base64.Canonical value challengeBytes
deriving Decidable

/-- `ValidChallenge`. -/
def Challenge.Valid (challenge : Challenge) (now : Time) : Prop :=
  now ≠ zeroTime ∧ ValidChallengeID challenge.challengeID ∧
    ValidIdentifier challenge.deviceID 64 ∧ ValidIdentifier challenge.ownerID 128 ∧
    ValidIdentifier challenge.tenantID 128 ∧ ValidBindingRevision challenge.ownerRevision ∧
    ValidIdentifier challenge.sessionID 64 ∧ challenge.requestID ≠ 0 ∧
    challenge.expiresAt ≠ zeroTime ∧ 0 < challenge.expiresAt - now ∧
    challenge.expiresAt - now ≤ maximumLifetime
deriving Decidable

/-- `validActor`. -/
def Actor.Valid (actor : Actor) : Prop :=
  ValidIdentifier actor.ownerID 128 ∧ ValidIdentifier actor.tenantID 128 ∧
    ValidIdentifier actor.deviceID 64 ∧ ValidBindingRevision actor.ownerRevision
deriving Decidable

/-- `validDeviceRequest`. -/
def DeviceRequest.Valid (request : DeviceRequest) : Prop :=
  ValidChallengeID request.challengeID ∧ ValidIdentifier request.deviceID 64 ∧
    ValidBindingRevision request.ownerRevision ∧ ValidIdentifier request.sessionID 64 ∧
    request.requestID ≠ 0
deriving Decidable

/-- `validAppRequest`, with the decision that it accepts. -/
def Request.Valid (request : Request) : Prop :=
  request.toDeviceRequest.Valid ∧ request.decision.isSome = true
deriving Decidable

/-- The binding of a challenge to its owner is the one of an actor. -/
def Actor.Owns (actor : Actor) (challenge : Challenge) : Prop :=
  actor.ownerID = challenge.ownerID ∧ actor.tenantID = challenge.tenantID ∧
    actor.deviceID = challenge.deviceID ∧ actor.ownerRevision = challenge.ownerRevision
deriving Decidable

/-- The fields of a request, apart from the challenge that it names, are those of a challenge. -/
def DeviceRequest.Carries (request : DeviceRequest) (challenge : Challenge) : Prop :=
  request.deviceID = challenge.deviceID ∧ request.ownerRevision = challenge.ownerRevision ∧
    request.sessionID = challenge.sessionID ∧ request.requestID = challenge.requestID ∧
    request.action = challenge.action
deriving Decidable

/-- The order in which challenges expire, by identifier when they expire together. -/
def expiresBefore (expiresAt : Time) (id : String) (otherExpiresAt : Time) (otherID : String) : Prop :=
  expiresAt < otherExpiresAt ∨ expiresAt = otherExpiresAt ∧ id < otherID
deriving Decidable

/-! ## Wakes -/

def maximumWakeLease : ℤ := 10 * second

def maximumWakeRetry : ℤ := 5 * second

def minimumWakeLease : ℤ := 100 * millisecond

def maximumWakeAttempts : UInt32 := 100000

/-- What the notification worker learns about a challenge. -/
structure Wake where
  wakeID : String
  target : Actor
  expiresAt : Time
  attempts : UInt32
deriving DecidableEq, Repr

def ValidWakeWorker (workerID : String) : Prop := ValidIdentifier workerID 64
deriving Decidable

def ValidWakeLease (lease : ℤ) : Prop := minimumWakeLease ≤ lease ∧ lease ≤ maximumWakeLease
deriving Decidable

def ValidWakeRetry (retryAfter : ℤ) : Prop := 0 ≤ retryAfter ∧ retryAfter ≤ maximumWakeRetry
deriving Decidable

/-- `wakeFromChallenge`. -/
def Challenge.wake (challenge : Challenge) : Wake where
  wakeID := challenge.challengeID
  target := ⟨challenge.ownerID, challenge.tenantID, challenge.deviceID, challenge.ownerRevision⟩
  expiresAt := challenge.expiresAt
  attempts := 0

/-! ## Calls -/

/-- A call through the interfaces `DecisionStore` and `WakeOutbox`. -/
inductive Call where
  | register (challenge : Challenge) (now : Time)
  | pending (actor : Actor) (now : Time)
  | decide (actor : Actor) (request : Request) (now : Time)
  | consume (request : DeviceRequest) (now : Time)
  | claimWake (workerID : String) (now : Time) (lease : ℤ)
  | acknowledgeWake (workerID wakeID : String) (now : Time)
  | retryWake (workerID wakeID : String) (now : Time) (retryAfter : ℤ)
deriving DecidableEq, Repr

inductive Reply where
  | done (result : Except Error Unit)
  | found (result : Except Error (Option Record))
  | record (result : Except Error Record)
  | wake (result : Except Error (Option Wake))
deriving DecidableEq

end XiaozhiPlatform.ActionConsent
