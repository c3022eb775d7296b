import XiaozhiPlatform.Auth.Token
import XiaozhiPlatform.GoLib.Error
import XiaozhiPlatform.GoLib.JsonStruct
import XiaozhiPlatform.GoLib.Time
import XiaozhiPlatform.GoLib.Unicode

/-!
# Claims of a device token

What a device token says, how it is written as JSON into the payload of the token, and which claims
a verifier lets pass. Every field but the audience and the two instants is left out when it is
empty. The identifier of the signing key is not part of the payload.

- `unmarshalClaims_marshalClaims`: the verifier reads back the claims that the issuer wrote.
- `validateClaims_eq_ok`: what the verifier checks.
-/

namespace XiaozhiPlatform.Token

open GoLib Auth

def voiceAudience : String := "xiaozhi-agent-gateway"

def agentAudience : String := "xiaozhi-agent-proxy"

def otaAudience : String := "xiaozhi-product-ota"

def companionAudience : String := "xiaozhi-companion-claim"

def companionClaimAction : String := "device:claim"

def companionReleaseAction : String := "device:release"

def companionConsentAction : String := "device:action-consent"

def maxTokenBytes : ℕ := 2048

def maxDeviceID : ℕ := 64

def errMalformed : Error := .text "malformed device token"

def errSignature : Error := .text "invalid device token signature"

def errClaims : Error := .text "invalid device token claims"

def errExpired : Error := .text "expired device token"

def errKeyRetired : Error := .text "retired device token key"

structure Claims where
  deviceID : String
  subject : String
  issuer : String
  ownerID : String
  tenantID : String
  bindingID : String
  bindingRevision : UInt64
  action : String
  audience : String
  issuedAt : ℤ
  expires : ℤ
  tokenID : String
  releaseID : String
  imageSHA256 : String
  signingKeyID : String
deriving DecidableEq, Repr

/-! ## Payload -/

/-- `Claims{}`. -/
def zeroClaims : Claims := ⟨"", "", "", "", "", "", 0, "", "", 0, 0, "", "", "", ""⟩

/-- The tagged fields of `Claims`. -/
def claimTags : List (Json.Tag Claims) := [
  Json.optionalString "device_id" (·.deviceID) fun s c => { c with deviceID := s },
  Json.optionalString "sub" (·.subject) fun s c => { c with subject := s },
  Json.optionalString "iss" (·.issuer) fun s c => { c with issuer := s },
  Json.optionalString "owner_id" (·.ownerID) fun s c => { c with ownerID := s },
  Json.optionalString "tenant_id" (·.tenantID) fun s c => { c with tenantID := s },
  Json.optionalString "binding_id" (·.bindingID) fun s c => { c with bindingID := s },
  Json.optionalUint 64 "binding_revision" (·.bindingRevision.toNat) fun n c =>
    { c with bindingRevision := UInt64.ofNat n },
  Json.optionalString "action" (·.action) fun s c => { c with action := s },
  (Json.stringField "aud" (·.audience) fun s c => { c with audience := s }).always,
  (Json.intField "iat" (·.issuedAt) fun n c => { c with issuedAt := n }).always,
  (Json.intField "exp" (·.expires) fun n c => { c with expires := n }).always,
  Json.optionalString "jti" (·.tokenID) fun s c => { c with tokenID := s },
  Json.optionalString "release_id" (·.releaseID) fun s c => { c with releaseID := s },
  Json.optionalString "image_sha256" (·.imageSHA256) fun s c => { c with imageSHA256 := s }]

/-- `json.Marshal(claims)`. -/
def marshalClaims (claims : Claims) : List UInt8 := utf8 (Json.render (Json.marshal claimTags claims))

/-- A decoder with `DisallowUnknownFields` over the payload; nothing may come after the value. -/
def unmarshalClaims (payload : List UInt8) : Option Claims := do
  let json ← Json.parse (decodeRunes payload)
  Json.decode (claimTags.map Json.Tag.toField) zeroClaims json

theorem nodup_claimTags : (claimTags.map fun tag => tag.name).Nodup := by decide

theorem valid_marshal_claimTags (claims : Claims) : (Json.marshal claimTags claims).Valid := by
  rw [Json.marshal, Json.Valid, Json.validMembers_iff]
  intro member hmember
  obtain ⟨tag, htag, rfl⟩ := List.mem_map.mp hmember
  have hmem := (List.mem_filter.mp htag).1
  simp only [claimTags, List.mem_cons, List.not_mem_nil, or_false] at hmem
  rcases hmem with rfl | rfl | rfl | rfl | rfl | rfl | rfl | rfl | rfl | rfl | rfl | rfl | rfl | rfl
  case inr.inr.inr.inr.inr.inr.inl => exact Json.valid_nat _
  case inr.inr.inr.inr.inr.inr.inr.inr.inr.inl => exact Json.valid_int _
  case inr.inr.inr.inr.inr.inr.inr.inr.inr.inr.inl => exact Json.valid_int _
  all_goals trivial

/-- The payload holds every field but the identifier of the signing key. -/
theorem unmarshalClaims_marshalClaims
    (hissued : -2 ^ 63 ≤ claims.issuedAt ∧ claims.issuedAt < 2 ^ 63)
    (hexpires : -2 ^ 63 ≤ claims.expires ∧ claims.expires < 2 ^ 63) :
    unmarshalClaims (marshalClaims claims) = some { claims with signingKeyID := "" } := by
  have hparse : Json.parse (Json.render (Json.marshal claimTags claims) ++ []) =
      some (Json.marshal claimTags claims) :=
    Json.parse_render (valid_marshal_claimTags claims) (by simp)
  rw [List.append_nil] at hparse
  rw [unmarshalClaims, marshalClaims, decodeRunes_utf8, hparse, Option.bind_eq_bind,
    Option.bind_some, Json.decode_marshal nodup_claimTags]
  simp only [claimTags, List.foldlM_cons, List.foldlM_nil]
  -- The fields are stored one after the other, each into a struct that does not hold it yet.
  iterate 6
    refine Option.bind_eq_some_iff.mpr ⟨_, Json.store_optionalString _ _ _ _ rfl, ?_⟩
  refine Option.bind_eq_some_iff.mpr
    ⟨_, Json.store_optionalUint _ _ (by exact claims.bindingRevision.toNat_lt) rfl, ?_⟩
  refine Option.bind_eq_some_iff.mpr ⟨_, Json.store_optionalString _ _ _ _ rfl, ?_⟩
  refine Option.bind_eq_some_iff.mpr ⟨_, Json.set_stringField _ _ _ _ _, ?_⟩
  refine Option.bind_eq_some_iff.mpr ⟨_, Json.set_intField _ hissued _ _ _, ?_⟩
  refine Option.bind_eq_some_iff.mpr ⟨_, Json.set_intField _ hexpires _ _ _, ?_⟩
  iterate 3
    refine Option.bind_eq_some_iff.mpr ⟨_, Json.store_optionalString _ _ _ _ rfl, ?_⟩
  simp [zeroClaims]

/-! ## Checks -/

/-- The versions of a token: with or without the identifier of the key, and for the two audiences
that speak for an owner or for the others. -/
inductive Version where
  | v1
  | v2
  | v3
  | v4
deriving DecidableEq, Repr

def Version.text : Version → List Char
  | .v1 => ['v', '1']
  | .v2 => ['v', '2']
  | .v3 => ['v', '3']
  | .v4 => ['v', '4']

def Version.ofText (text : List Char) : Option Version :=
  [Version.v1, .v2, .v3, .v4].find? fun version => version.text = text

theorem Version.ofText_text (version : Version) : ofText version.text = some version := by
  cases version <;> decide

/-- `ValidBindingID`. -/
def ValidBindingID (value : String) : Prop := Base64.Canonical value 16
deriving Decidable

/-- `validSHA256`: 64 lower case hexadecimal digits. -/
def ValidSHA256 (value : String) : Prop :=
  byteLength value.toList = 64 ∧ ∀ c ∈ value.toList, ('0' ≤ c ∧ c ≤ '9') ∨ ('a' ≤ c ∧ c ≤ 'f')
deriving Decidable

/-- `validCompanionActionDevice`. -/
def ValidCompanionActionDevice (action deviceID : String) : Prop :=
  if action = companionClaimAction then deviceID = ""
  else if action = companionReleaseAction ∨ action = companionConsentAction then
    ValidIdentifier deviceID maxDeviceID
  else False
deriving Decidable

/-- The fields that the claims of an audience have: the `switch` of `validateClaims`. -/
def ValidScope (version : Version) (claims : Claims) : Prop :=
  if claims.audience = companionAudience then
    (version = .v1 ∨ version = .v2) ∧ ValidIdentifier claims.subject 128 ∧
      ValidIdentifier claims.tenantID 128 ∧ claims.issuer = "" ∧ claims.ownerID = "" ∧
      claims.bindingID = "" ∧ claims.bindingRevision = 0 ∧ claims.tokenID ≠ "" ∧
      claims.releaseID = "" ∧ claims.imageSHA256 = "" ∧
      ValidCompanionActionDevice claims.action claims.deviceID
  else if claims.audience = voiceAudience ∨ claims.audience = agentAudience then
    (version = .v3 ∨ version = .v4) ∧ ValidIdentifier claims.deviceID maxDeviceID ∧
      ValidIdentifier claims.ownerID 128 ∧ ValidIdentifier claims.tenantID 128 ∧
      ValidBindingID claims.bindingID ∧ ValidBindingRevision claims.bindingRevision ∧
      claims.tokenID ≠ "" ∧ claims.subject = "" ∧ claims.issuer = "" ∧ claims.action = "" ∧
      claims.releaseID = "" ∧ claims.imageSHA256 = ""
  else if claims.audience = otaAudience then
    (version = .v1 ∨ version = .v2) ∧ ValidIdentifier claims.deviceID maxDeviceID ∧
      claims.subject = "" ∧ claims.issuer = "" ∧ claims.ownerID = "" ∧ claims.tenantID = "" ∧
      claims.bindingID = "" ∧ claims.bindingRevision = 0 ∧ claims.action = "" ∧
      ValidIdentifier claims.releaseID 64 ∧ ValidSHA256 claims.imageSHA256 ∧ claims.tokenID ≠ ""
  else
    (version = .v1 ∨ version = .v2) ∧ ValidIdentifier claims.deviceID maxDeviceID ∧
      claims.subject = "" ∧ claims.issuer = "" ∧ claims.ownerID = "" ∧ claims.tenantID = "" ∧
      claims.bindingID = "" ∧ claims.bindingRevision = 0 ∧ claims.releaseID = "" ∧
      claims.action = "" ∧ claims.imageSHA256 = ""
deriving Decidable

/-- `Verifier.validateClaims` for the audience, the longest lifetime and the tolerance of the
verifier. -/
def validateClaims (audience : String) (maxTTL skew : ℤ) (now : Time) (version : Version)
    (claims : Claims) : Except Error Unit := do
  failIf (claims.audience ≠ audience ∨ claims.issuedAt ≤ 0 ∨ claims.expires ≤ claims.issuedAt ∨
    maxTTL / second < claims.expires - claims.issuedAt) errClaims
  failIf (unix now + skew / second < claims.issuedAt) errClaims
  failIf (claims.expires ≤ unix now - skew / second) errExpired
  failIf (claims.tokenID ≠ "" ∧ ¬ ValidIdentifier claims.tokenID 128) errClaims
  failIf (¬ ValidScope version claims) errClaims

theorem validateClaims_eq_ok : validateClaims audience maxTTL skew now version claims = .ok () ↔
      (claims.audience = audience ∧ 0 < claims.issuedAt ∧ claims.issuedAt < claims.expires ∧
        claims.expires - claims.issuedAt ≤ maxTTL / second) ∧
      claims.issuedAt ≤ unix now + skew / second ∧ unix now - skew / second < claims.expires ∧
      (claims.tokenID ≠ "" → ValidIdentifier claims.tokenID 128) ∧ ValidScope version claims := by
  grind [validateClaims, failIf_bind_eq_ok, failIf_eq_ok]

/-! ## Owned devices -/

/-- `OwnedDeviceScope`: the binding, its revision and the device of a token for a device with an
owner. -/
def ownedDeviceScope (claims : Claims) : Option String :=
  if (claims.audience ≠ voiceAudience ∧ claims.audience ≠ agentAudience) ∨
      ¬ ValidIdentifier claims.deviceID maxDeviceID ∨ ¬ ValidIdentifier claims.ownerID 128 ∨
      ¬ ValidIdentifier claims.tenantID 128 ∨ ¬ ValidBindingID claims.bindingID ∨
      ¬ ValidBindingRevision claims.bindingRevision then none
  else some (claims.bindingID ++ "\x00" ++
    String.ofList (formatNat claims.bindingRevision.toNat) ++ "\x00" ++ claims.deviceID)

end XiaozhiPlatform.Token
