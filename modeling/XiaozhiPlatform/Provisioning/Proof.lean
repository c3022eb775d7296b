import XiaozhiPlatform.Coordination.Proofs
import XiaozhiPlatform.GoLib.Retention
import XiaozhiPlatform.GoLib.Strconv

/-!
# Device proofs

`ProofVerifier.authorize` reads the fields of a proof from the headers of a request, checks their
syntax, the signature of the device and the timestamp, and reserves the nonce, either in the memory
of the process or with the shared coordinator.

The device registry can change while a request is served, so a presentation carries the registry as
each of the three lookups sees it. It also carries the readings of the clocks and the outcome of
the transaction.
-/

namespace XiaozhiPlatform.Provisioning

open GoLib Auth

/-! ## Scopes and errors -/

inductive ProofScope where
  | session
  | agentToken
  | otaOffer
  | deviceClaim
  | actionConsentChallenge
  | actionConsentResult
deriving DecidableEq, Repr

/-- The scope as the number that the coordinator stores. -/
def ProofScope.number : ProofScope → ℕ
  | .session => 1
  | .agentToken => 2
  | .otaOffer => 3
  | .deviceClaim => 4
  | .actionConsentChallenge => 5
  | .actionConsentResult => 6

def errMalformedProof : Error := .text "malformed device proof"

def errUnauthorized : Error := .text "unauthorized device proof"

def errReplay : Error := .text "replayed device proof"

def errRateLimited : Error := .text "device session issuance rate limited"

def errUnavailable : Error := .text "device proof coordination unavailable"

def isActionConsentProof (scope : ProofScope) : Bool :=
  scope = .actionConsentChallenge || scope = .actionConsentResult

def proofDomain : ProofScope → String
  | .session => "xiaozhi-session-proof-v1"
  | .agentToken => "xiaozhi-agent-token-proof-v1"
  | .otaOffer => "xiaozhi-ota-offer-proof-v1"
  | .deviceClaim => "xiaozhi-device-claim-proof-v1"
  | .actionConsentChallenge => "xiaozhi-action-consent-challenge-proof-v1"
  | .actionConsentResult => "xiaozhi-action-consent-result-proof-v1"

def proofPath : ProofScope → String
  | .session => "/v1/session"
  | .agentToken => "/v1/agent-token"
  | .otaOffer => "/v1/ota/offer"
  | .deviceClaim => "/v1/device-claim/device"
  | .actionConsentChallenge => "/v1/action-consents/device/challenge"
  | .actionConsentResult => "/v1/action-consents/device/result"

/-! ## Syntax of the fields -/

/-- The characters of a SHA-256 digest in lower-case hexadecimal. -/
def isLowerHex (c : Char) : Bool := ('0' ≤ c && c ≤ '9') || ('a' ≤ c && c ≤ 'f')

/-- `validSHA256`. -/
def ValidSHA256 (value : String) : Prop :=
  byteLength value.toList = 64 ∧ ∀ c ∈ value.toList, isLowerHex c = true

instance (value : String) : Decidable (ValidSHA256 value) :=
  decidable_of_iff (byteLength value.toList = 64 ∧ value.toList.all isLowerHex = true)
    (by rw [List.all_eq_true, ValidSHA256])

/-- The characters of a version. -/
def isVersionChar (c : Char) : Bool :=
  c.isLower || c.isUpper || c.isDigit || c = '.' || c = '+' || c = '-' || c = '_'

/-- `validVersion`. -/
def ValidVersion (value : String) : Prop :=
  value ≠ "" ∧ byteLength value.toList ≤ 32 ∧ ∀ c ∈ value.toList, isVersionChar c = true

instance (value : String) : Decidable (ValidVersion value) :=
  decidable_of_iff (value ≠ "" ∧ byteLength value.toList ≤ 32 ∧
    value.toList.all isVersionChar = true) (by rw [List.all_eq_true, ValidVersion])

/-- The timestamps that `authorize` accepts: a positive number in its one decimal form. -/
def ValidTimestamp (value : String) : Prop :=
  ∃ timestamp ∈ parseInt64 value.toList, 0 < timestamp ∧ formatInt timestamp = value.toList
deriving Decidable

/-- The release sequences that `authorize` accepts: a positive number of 31 bits in its one decimal
form. -/
def ValidReleaseSequence (value : String) : Prop :=
  ∃ sequence ∈ parseUint 31 value.toList, sequence ≠ 0 ∧ formatNat sequence = value.toList
deriving Decidable

/-- The nonces that `authorize` accepts: 16 to 32 bytes in canonical base64. -/
def ValidNonce (value : String) : Prop :=
  ∃ nonce ∈ Base64.decode value.toList, 16 ≤ nonce.length ∧ nonce.length ≤ 32 ∧
    Base64.encodeToString nonce = value
deriving Decidable

/-! ## Canonical texts -/

/-- `CanonicalScopedProof`. -/
def canonicalScopedProof (scope : ProofScope) (deviceID clientID timestamp nonce : String) : String :=
  if scope = .otaOffer ∨ scope = .deviceClaim ∨ isActionConsentProof scope = true then ""
  else proofDomain scope ++ "\nPOST\n" ++ proofPath scope ++ "\n" ++ deviceID ++ "\n" ++ clientID ++
    "\n" ++ timestamp ++ "\n" ++ nonce

/-- `CanonicalActionConsentProof`. -/
def canonicalActionConsentProof (scope : ProofScope)
    (deviceID clientID timestamp nonce bodySHA256 : String) : String :=
  if ¬ isActionConsentProof scope = true ∨ ¬ ValidSHA256 bodySHA256 then ""
  else proofDomain scope ++ "\nPOST\n" ++ proofPath scope ++ "\n" ++ deviceID ++ "\n" ++ clientID ++
    "\n" ++ timestamp ++ "\n" ++ nonce ++ "\n" ++ bodySHA256

/-- `CanonicalOTAProof`. -/
def canonicalOTAProof (deviceID clientID timestamp nonce board channel releaseSequence
    version : String) : String :=
  proofDomain .otaOffer ++ "\nPOST\n" ++ proofPath .otaOffer ++ "\n" ++ deviceID ++ "\n" ++
    clientID ++ "\n" ++ timestamp ++ "\n" ++ nonce ++ "\n" ++ board ++ "\n" ++ channel ++ "\n" ++
    releaseSequence ++ "\n" ++ version

/-- `CanonicalDeviceClaimProof`. -/
def canonicalDeviceClaimProof (deviceID clientID timestamp nonce claim : String) : String :=
  if ¬ Base64.Canonical claim 32 then ""
  else proofDomain .deviceClaim ++ "\nPOST\n" ++ proofPath .deviceClaim ++ "\n" ++ deviceID ++
    "\n" ++ clientID ++ "\n" ++ timestamp ++ "\n" ++ nonce ++ "\n" ++ claim

/-- The fields of a proof. Those that a scope does not have are empty. -/
@[ext]
structure Fields where
  deviceID : String
  clientID : String
  timestamp : String
  nonce : String
  board : String := ""
  channel : String := ""
  releaseSequence : String := ""
  version : String := ""
  claim : String := ""
  bodySHA256 : String := ""
deriving DecidableEq, Repr

/-- The text that a device signs for a scope. -/
def canonical (scope : ProofScope) (fields : Fields) : String :=
  if scope = .otaOffer then
    canonicalOTAProof fields.deviceID fields.clientID fields.timestamp fields.nonce fields.board
      fields.channel fields.releaseSequence fields.version
  else if scope = .deviceClaim then
    canonicalDeviceClaimProof fields.deviceID fields.clientID fields.timestamp fields.nonce
      fields.claim
  else if isActionConsentProof scope then
    canonicalActionConsentProof scope fields.deviceID fields.clientID fields.timestamp fields.nonce
      fields.bodySHA256
  else
    canonicalScopedProof scope fields.deviceID fields.clientID fields.timestamp fields.nonce

/-! ## The registry -/

/-- `deviceRecord`. -/
structure DeviceRecord where
  secret : List UInt8
  board : String
  otaChannel : String
  disabled : Bool

/-- The registry as a lookup sees it, with the reading of its clock. -/
structure Registry where
  devices : Std.ExtTreeMap String DeviceRecord
  revision : UInt64
  validUntil : Time
  now : Time

namespace Registry

variable (registry : Registry) (deviceID : String)

/-- `readyLocked`. -/
def Ready : Prop := registry.validUntil = zeroTime ∨ registry.now < registry.validUntil
deriving Decidable

/-- `lookupVersioned`. -/
def lookupVersioned : Option DeviceRecord × UInt64 :=
  if registry.Ready then (registry.devices[deviceID]?, registry.revision) else (none, 0)

/-- `OTAProfile`. -/
def otaProfile : Option (String × String) :=
  match (registry.lookupVersioned deviceID).1 with
  | none => none
  | some record =>
    if record.disabled = true ∨ record.board = "" ∨ record.otaChannel = "" then none
    else some (record.board, record.otaChannel)

/-- `stillAllowedAtRevision`. -/
def stillAllowedAtRevision (revision : UInt64) : Bool :=
  registry.Ready && registry.revision = revision &&
    match registry.devices[deviceID]? with
    | none => false
    | some record => !record.disabled

end Registry

/-! ## Requests -/

structure Request where
  method : String
  path : String
  rawQuery : String
  contentLength : ℤ
  transferEncoding : List String
  /-- `Header.Values`. -/
  values : String → List String

/-- `singleHeader`, with the refusal of a request without the header. -/
def singleHeader (request : Request) (name : String) : Except Error String :=
  match request.values name with
  | [value] => if value = "" then .error errMalformedProof else .ok value
  | _ => .error errMalformedProof

/-- The checks of the request line and of the body. `body` is `none` for `Authorize`. -/
def checkRequest (scope : ProofScope) (request : Request) (body : Option (List UInt8)) :
    Except Error Unit := do
  failIf (request.method ≠ "POST" ∨ request.path ≠ proofPath scope ∨ request.rawQuery ≠ "")
    errMalformedProof
  match isActionConsentProof scope, body with
  | true, some body =>
    failIf (body = [] ∨ 1024 < body.length ∨ request.contentLength ≠ body.length ∨
      request.transferEncoding ≠ []) errMalformedProof
  | true, none => .error errMalformedProof
  | false, some _ => .error errMalformedProof
  | false, none => failIf (request.contentLength ≠ 0) errMalformedProof

/-- The fields of an OTA offer. -/
def readOTA (request : Request) : Except Error (String × String × String × String) := do
  let board ← singleHeader request "X-OTA-Board"
  let channel ← singleHeader request "X-OTA-Channel"
  let releaseSequence ← singleHeader request "X-OTA-Release-Sequence"
  let version ← singleHeader request "X-OTA-Version"
  failIf (¬ ValidIdentifier board 32 ∨ ¬ ValidIdentifier channel 32 ∨ ¬ ValidVersion version ∨
    ¬ ValidReleaseSequence releaseSequence) errMalformedProof
  return (board, channel, releaseSequence, version)

/-- The claim of a device claim. -/
def readClaim (request : Request) : Except Error String := do
  let claim ← singleHeader request "X-Device-Claim"
  failIf (¬ Base64.Canonical claim 32) errMalformedProof
  return claim

/-- The body digest of an action consent. -/
def readBodySHA256 (request : Request) (body : List UInt8) : Except Error String := do
  let bodySHA256 ← singleHeader request "X-Action-Consent-Body-SHA256"
  failIf (¬ ValidSHA256 bodySHA256 ∨
    bodySHA256 ≠ String.ofList (Hex.encode (Sha256.sum256 body).toList)) errMalformedProof
  return bodySHA256

/-- The fields that only some scopes have. -/
def readScoped (scope : ProofScope) (request : Request) (body : List UInt8) (fields : Fields) :
    Except Error Fields :=
  match scope with
  | .session => .ok fields
  | .agentToken => .ok fields
  | .otaOffer => do
    let (board, channel, releaseSequence, version) ← readOTA request
    return { fields with board, channel, releaseSequence, version }
  | .deviceClaim => do
    let claim ← readClaim request
    return { fields with claim }
  | .actionConsentChallenge => do
    let bodySHA256 ← readBodySHA256 request body
    return { fields with bodySHA256 }
  | .actionConsentResult => do
    let bodySHA256 ← readBodySHA256 request body
    return { fields with bodySHA256 }

/-- The bytes of the signature header. -/
def decodeSignature (text : String) : Except Error (List UInt8) :=
  match Base64.decode text.toList with
  | none => .error errMalformedProof
  | some signature => do
    failIf (signature.length ≠ 32 ∨ Base64.encodeToString signature ≠ text) errMalformedProof
    return signature

/-- The part of `authorize` that reads the headers and checks their syntax. -/
def readFields (scope : ProofScope) (request : Request) (body : List UInt8) :
    Except Error (Fields × List UInt8) := do
  let deviceID ← singleHeader request "Device-Id"
  let clientID ← singleHeader request "Client-Id"
  let timestamp ← singleHeader request "X-Device-Timestamp"
  let nonce ← singleHeader request "X-Device-Nonce"
  let signatureText ← singleHeader request "X-Device-Signature"
  failIf (¬ ValidIdentifier deviceID 64 ∨ ¬ ValidIdentifier clientID 64) errMalformedProof
  let fields ← readScoped scope request body { deviceID, clientID, timestamp, nonce }
  failIf (¬ ValidTimestamp timestamp) errMalformedProof
  failIf (¬ ValidNonce nonce) errMalformedProof
  let signature ← decodeSignature signatureText
  return (fields, signature)

/-! ## The verifier -/

/-- The configuration of a verifier, as `NewScopedProofVerifier` accepts it. -/
structure ProofVerifier where
  scope : ProofScope
  maxSkew : ℤ
  minInterval : ℤ
  maxSkew_valid : 10 * second ≤ maxSkew ∧ maxSkew ≤ 5 * minute
  minInterval_valid : 0 ≤ minInterval ∧ minInterval ≤ minute

/-- `NewScopedProofVerifier`, for a registry that is ready for proofs. -/
def newScopedProofVerifier (scope : ProofScope) (maxSkew minInterval : ℤ) :
    Except Error ProofVerifier :=
  if h : (10 * second ≤ maxSkew ∧ maxSkew ≤ 5 * minute) ∧ 0 ≤ minInterval ∧ minInterval ≤ minute then
    .ok ⟨scope, maxSkew, minInterval, h.1, h.2⟩
  else .error (.text "invalid device proof verifier configuration")

def maximumNonces : ℕ := 64

/-- The replay and issuance state of a process. -/
structure Memory where
  usedNonces : Std.ExtTreeMap String (Std.ExtTreeMap String Time)
  lastIssued : Std.ExtTreeMap String Time

def Memory.empty : Memory := ⟨∅, ∅⟩

/-- Where a verifier reserves its nonces: in the process, or with the coordinator. -/
inductive Nonces where
  | memory (memory : Memory)
  | coordinator (database : Coordination.Database)

/-- A request together with what `authorize` reads while it serves the request. -/
structure Presentation where
  request : Request
  /-- The body of `AuthorizeBody`. -/
  body : Option (List UInt8) := none
  /-- The registry that `lookupVersioned` reads. -/
  registry : Registry
  /-- The registry that `OTAProfile` reads. -/
  profiles : Registry
  /-- The registry that `stillAllowedAtRevision` reads. -/
  allowed : Registry
  /-- The clock of the process. -/
  now : Time
  /-- The clock of the database when the transaction of the coordinator starts. -/
  started : Time
  outcome : Sql.Outcome := .reported
  /-- The clock when the reservation takes effect. -/
  turn : Time

namespace ProofVerifier

variable (verifier : ProofVerifier)

/-- The board and the channel are those of the device. -/
def ProfileMatches (profiles : Registry) (fields : Fields) : Prop :=
  verifier.scope ≠ .otaOffer ∨ profiles.otaProfile fields.deviceID = some (fields.board, fields.channel)
deriving Decidable

/-- The instant of a proof. -/
def proofTime (fields : Fields) : Time := ofUnix ((parseInt64 fields.timestamp.toList).getD 0)

/-- The timestamp of a proof is within the clock skew. -/
def InWindow (now : Time) (fields : Fields) : Prop :=
  now - verifier.maxSkew ≤ proofTime fields ∧ proofTime fields ≤ now + verifier.maxSkew
deriving Decidable

/-- `authorize` up to the reservation: the fields of the proof and the revision of the registry. -/
def authenticate (p : Presentation) : Except Error (Fields × UInt64) := do
  checkRequest verifier.scope p.request p.body
  let (fields, signature) ← readFields verifier.scope p.request (p.body.getD [])
  match p.registry.lookupVersioned fields.deviceID with
  | (none, _) => .error errUnauthorized
  | (some record, revision) =>
    failIf (record.disabled = true) errUnauthorized
    failIf (¬ verifier.ProfileMatches p.profiles fields) errUnauthorized
    failIf (signature ≠ (Sha256.hmac record.secret
      (utf8 (canonical verifier.scope fields).toList)).toList) errUnauthorized
    failIf (¬ verifier.InWindow p.now fields) errUnauthorized
    return (fields, revision)

/-- The part of `reserve` that uses the memory of the process. -/
def reserveMemory (deviceID nonce : String) (now : Time) (memory : Memory) :
    Memory × Except Error Unit :=
  let nonces := prune now (memory.usedNonces[deviceID]?.getD ∅)
  if nonce ∈ nonces then
    ({ memory with usedNonces := memory.usedNonces.insert deviceID nonces }, .error errReplay)
  else if maximumNonces ≤ nonces.size then
    ({ memory with usedNonces := memory.usedNonces.insert deviceID nonces }, .error errRateLimited)
  else
    -- Every authenticated nonce is reserved, also that of a rate-limited request.
    let usedNonces := memory.usedNonces.insert deviceID
      (nonces.insert nonce (now + 2 * verifier.maxSkew))
    if ∃ previous ∈ memory.lastIssued[deviceID]?, timeSub now previous < verifier.minInterval then
      ({ memory with usedNonces }, .error errRateLimited)
    else ({ usedNonces, lastIssued := memory.lastIssued.insert deviceID now }, .ok ())

/-- What `reserve` makes of an error of the coordinator. -/
def coordinatorError (err : Error) : Error :=
  if err.is Coordination.errReplay then errReplay
  else if err.is Coordination.errRateLimited then errRateLimited
  else errUnavailable

/-- The call that `reserve` makes to the coordinator. -/
def reservation (deviceID nonce : String) : Coordination.ProofReservation where
  scope := verifier.scope.number
  subject := deviceID
  nonce := nonce
  maximumSkew := verifier.maxSkew
  minimumInterval := verifier.minInterval

/-- `reserve`. -/
def reserve (deviceID nonce : String) (p : Presentation) : Nonces → Nonces × Except Error Unit
  | .memory memory =>
    let (memory, result) := verifier.reserveMemory deviceID nonce p.now memory
    (.memory memory, result)
  | .coordinator database =>
    let (database, result) := Coordination.reserveProof p.started
      (verifier.reservation deviceID nonce) p.outcome database
    (.coordinator database, result.mapError coordinatorError)

/-- `authorize`. -/
def authorize (p : Presentation) (nonces : Nonces) : Nonces × Except Error String :=
  match verifier.authenticate p with
  | .error err => (nonces, .error err)
  | .ok (fields, revision) =>
    match verifier.reserve fields.deviceID fields.nonce p nonces with
    | (nonces, .error err) => (nonces, .error err)
    | (nonces, .ok ()) =>
      if p.allowed.stillAllowedAtRevision fields.deviceID revision then
        (nonces, .ok fields.deviceID)
      else (nonces, .error errUnauthorized)

end ProofVerifier

end XiaozhiPlatform.Provisioning
