import XiaozhiPlatform.Auth.Keyring
import XiaozhiPlatform.GoLib.Sha256

/-!
# Issuing device tokens

An issuer signs claims with one key. An issuer of a managed keyring signs with the active key and
names it in the token, so that a verifier finds the key again after it has been replaced. Each kind
of token has a method of its own, which fills the claims that its audience requires.

- `Request`, `Issuer.issueRequest`: the methods of an issuer.
- `Issued`: what holds of every token that an issuer returns, with `issued_issueRequest`.
-/

namespace XiaozhiPlatform.Token

open GoLib Auth

/-! ## Model -/

def minimumIssuedTTL : ℤ := minute

def maximumIssuedTTL : ℤ := 60 * minute

def tokenIDBytes : ℕ := 16

structure Issuer where
  secret : List UInt8
  keyID : String
  verifyUntil : Time
  managed : Bool
  ttl : ℤ
  audience : String
deriving DecidableEq, Repr

def newIssuerForAudience (secret : List UInt8) (ttl : ℤ) (audience : String) : Except Error Issuer := do
  failIf (secret.length < 32) (.text "device token HMAC key must be at least 32 bytes")
  failIf (ttl < minimumIssuedTTL ∨ maximumIssuedTTL < ttl)
    (.text "device token TTL must be from 60 through 3600 seconds")
  failIf (¬ ValidIdentifier audience 64) (.text "device token audience is invalid")
  return ⟨secret, "", zeroTime, false, ttl, audience⟩

def newManagedIssuerForAudience (keyring : Keyring) (ttl : ℤ) (audience : String) (now : Time) :
    Except Error Issuer := do
  failIf (¬ ValidIdentifier keyring.activeKeyID 64) (.text "managed token issuer keyring is invalid")
  match keyring.keys[keyring.activeKeyID]? with
  | none => .error (.text "managed token issuer active key is invalid")
  | some key =>
    failIf (key.state ≠ .active) (.text "managed token issuer active key is invalid")
    let issuer ← newIssuerForAudience key.secret ttl audience
    failIf (key.verifyUntil < now + (ttl + 30 * second))
      (.text "managed token issuer key expires before issued tokens")
    return { issuer with keyID := key.id, verifyUntil := key.verifyUntil, managed := true }

namespace Issuer

variable (issuer : Issuer)

/-- The audiences whose tokens speak for the owner of the device. -/
def OwnedAudience (audience : String) : Prop := audience = voiceAudience ∨ audience = agentAudience
deriving Decidable

def version : Version :=
  if issuer.managed then if OwnedAudience issuer.audience then .v4 else .v2
  else if OwnedAudience issuer.audience then .v3 else .v1

/-- The part of a token that is signed. -/
def signingInput (claims : Claims) : List Char :=
  let encoded := Base64.encode (marshalClaims claims)
  issuer.version.text ++ '.' :: if issuer.managed then issuer.keyID.toList ++ '.' :: encoded else encoded

/-- The token with its signature. -/
def sign (claims : Claims) : List Char :=
  issuer.signingInput claims ++ '.' ::
    Base64.encode (Sha256.hmac issuer.secret (utf8 (issuer.signingInput claims))).toList

/-- The expiry of a token: the lifetime of the issuer in whole seconds, unless the access of the
account ends before. -/
def expiresAt (validUntil now : Time) : Time :=
  let truncated := (now + issuer.ttl) / second * second
  if validUntil ≠ zeroTime ∧ validUntil < truncated then validUntil else truncated

def issueUntil (deviceID subject ownerID tenantID bindingID : String) (bindingRevision : UInt64)
    (releaseID imageSHA256 action : String) (validUntil now : Time) (random : List UInt8) :
    Except Error (String × Claims) := do
  failIf ((subject = "" ∧ ¬ ValidIdentifier deviceID maxDeviceID) ∨
    (subject ≠ "" ∧ deviceID ≠ "" ∧ action ≠ companionReleaseAction ∧ action ≠ companionConsentAction))
    errClaims
  let (tokenID, _) ← (readFull tokenIDBytes random).mapError (.wrap "generate token id")
  let expiresAt := issuer.expiresAt validUntil now
  failIf (unix expiresAt - unix now < minimumIssuedTTL / second) errClaims
  failIf (issuer.managed = true ∧
    (¬ ValidIdentifier issuer.keyID 64 ∨ issuer.verifyUntil < expiresAt + 30 * second)) errKeyRetired
  let claims : Claims := ⟨deviceID, subject, "", ownerID, tenantID, bindingID, bindingRevision, action,
    issuer.audience, unix now, unix expiresAt, Base64.encodeToString tokenID, releaseID, imageSHA256,
    issuer.keyID⟩
  let token := issuer.sign claims
  failIf (maxTokenBytes < byteLength token) errMalformed
  return (String.ofList token, claims)

variable (now : Time) (random : List UInt8)

def issue (deviceID : String) : Except Error (String × Claims) := do
  failIf (issuer.audience = voiceAudience ∨ issuer.audience = agentAudience ∨
    issuer.audience = otaAudience ∨ issuer.audience = companionAudience) errClaims
  issuer.issueUntil deviceID "" "" "" "" 0 "" "" "" zeroTime now random

def issueCompanion (subject tenantID : String) : Except Error (String × Claims) := do
  failIf (issuer.audience ≠ companionAudience ∨ ¬ ValidIdentifier subject 128 ∨
    ¬ ValidIdentifier tenantID 128) errClaims
  issuer.issueUntil "" subject "" tenantID "" 0 "" "" companionClaimAction zeroTime now random

/-- The two methods for an action on a device of the user. -/
def issueCompanionAction (action subject tenantID deviceID : String) :
    Except Error (String × Claims) := do
  failIf (issuer.audience ≠ companionAudience ∨ ¬ ValidIdentifier subject 128 ∨
    ¬ ValidIdentifier tenantID 128 ∨ ¬ ValidIdentifier deviceID maxDeviceID) errClaims
  issuer.issueUntil deviceID subject "" tenantID "" 0 "" "" action zeroTime now random

def issueCompanionRelease (subject tenantID deviceID : String) : Except Error (String × Claims) :=
  issuer.issueCompanionAction now random companionReleaseAction subject tenantID deviceID

def issueCompanionActionConsent (subject tenantID deviceID : String) :
    Except Error (String × Claims) :=
  issuer.issueCompanionAction now random companionConsentAction subject tenantID deviceID

section

variable (deviceID ownerID tenantID bindingID : String) (bindingRevision : UInt64)

def issueOwnedWithin (validUntil : Time) : Except Error (String × Claims) := do
  failIf (¬ OwnedAudience issuer.audience ∨ ¬ ValidIdentifier deviceID maxDeviceID ∨
    ¬ ValidIdentifier ownerID 128 ∨ ¬ ValidIdentifier tenantID 128 ∨ ¬ ValidBindingID bindingID ∨
    ¬ ValidBindingRevision bindingRevision) errClaims
  issuer.issueUntil deviceID "" ownerID tenantID bindingID bindingRevision "" "" "" validUntil now random

def issueOwned : Except Error (String × Claims) :=
  issuer.issueOwnedWithin now random deviceID ownerID tenantID bindingID bindingRevision zeroTime

def issueOwnedUntil (validUntil : Time) : Except Error (String × Claims) := do
  failIf (validUntil = zeroTime ∨ validUntil % second ≠ 0) errClaims
  issuer.issueOwnedWithin now random deviceID ownerID tenantID bindingID bindingRevision validUntil

end

def issueForRelease (deviceID releaseID imageSHA256 : String) : Except Error (String × Claims) := do
  failIf (issuer.audience ≠ otaAudience ∨ ¬ ValidIdentifier releaseID 64 ∨ ¬ ValidSHA256 imageSHA256)
    errClaims
  issuer.issueUntil deviceID "" "" "" "" 0 releaseID imageSHA256 "" zeroTime now random

end Issuer

/-- A call of one of the methods. -/
inductive Request where
  | issue (deviceID : String)
  | companion (subject tenantID : String)
  | companionRelease (subject tenantID deviceID : String)
  | companionActionConsent (subject tenantID deviceID : String)
  | owned (deviceID ownerID tenantID bindingID : String) (bindingRevision : UInt64)
  | ownedUntil (deviceID ownerID tenantID bindingID : String) (bindingRevision : UInt64)
      (validUntil : Time)
  | forRelease (deviceID releaseID imageSHA256 : String)
deriving DecidableEq, Repr

def Issuer.issueRequest (issuer : Issuer) (now : Time) (random : List UInt8) :
    Request → Except Error (String × Claims)
  | .issue deviceID => issuer.issue now random deviceID
  | .companion subject tenantID => issuer.issueCompanion now random subject tenantID
  | .companionRelease subject tenantID deviceID =>
    issuer.issueCompanionRelease now random subject tenantID deviceID
  | .companionActionConsent subject tenantID deviceID =>
    issuer.issueCompanionActionConsent now random subject tenantID deviceID
  | .owned deviceID ownerID tenantID bindingID bindingRevision =>
    issuer.issueOwned now random deviceID ownerID tenantID bindingID bindingRevision
  | .ownedUntil deviceID ownerID tenantID bindingID bindingRevision validUntil =>
    issuer.issueOwnedUntil now random deviceID ownerID tenantID bindingID bindingRevision validUntil
  | .forRelease deviceID releaseID imageSHA256 =>
    issuer.issueForRelease now random deviceID releaseID imageSHA256

/-! ## Issued tokens -/

/-- What every token of an issuer is like. -/
structure Issued (issuer : Issuer) (now : Time) (token : String) (claims : Claims) : Prop where
  token_eq : token.toList = issuer.sign claims
  length_le : byteLength token.toList ≤ maxTokenBytes
  audience : claims.audience = issuer.audience
  issuedAt : claims.issuedAt = unix now
  lifetime : minimumIssuedTTL / second ≤ claims.expires - claims.issuedAt
  expires_le : claims.expires ≤ unix (now + issuer.ttl)
  tokenID : ValidIdentifier claims.tokenID 128
  signingKeyID : claims.signingKeyID = issuer.keyID
  managed : issuer.managed = true → ValidIdentifier issuer.keyID 64 ∧
    claims.expires * second + 30 * second ≤ issuer.verifyUntil
  scope : ValidScope issuer.version claims

theorem isIdentifierChar_of_isSymbol (h : Base64.IsSymbol c) :
    isIdentifierChar c = true ∧ c.toNat < 128 ∧ c ≠ '.' := by
  have hall : ∀ n : Fin 64, isIdentifierChar (Base64.symbol n) = true ∧
      (Base64.symbol n).toNat < 128 ∧ Base64.symbol n ≠ '.' := by decide +kernel
  obtain ⟨n, hn, rfl⟩ := h
  exact hall ⟨n, hn⟩

theorem validIdentifier_encodeToString (h : bytes.length = tokenIDBytes) :
    ValidIdentifier (Base64.encodeToString bytes) 128 ∧ Base64.encodeToString bytes ≠ "" := by
  have hlength : (Base64.encode bytes).length = 22 := by
    rw [Base64.length_encode, h]
    rfl
  have hne : Base64.encodeToString bytes ≠ "" := by
    intro hempty
    have hnil := congrArg String.toList hempty
    rw [Base64.encodeToString, String.toList_ofList, String.toList_empty] at hnil
    rw [hnil] at hlength
    cases hlength
  refine ⟨⟨hne, ?_, ?_⟩, hne⟩
  · rw [Base64.encodeToString, String.toList_ofList, byteLength_of_ascii, hlength]
    · decide
    · exact fun c hc => (isIdentifierChar_of_isSymbol (Base64.isSymbol_of_mem_encode hc)).2.1
  · rw [Base64.encodeToString, String.toList_ofList]
    exact fun c hc => (isIdentifierChar_of_isSymbol (Base64.isSymbol_of_mem_encode hc)).1

theorem expiresAt_spec (issuer : Issuer) (hwhole : validUntil % second = 0) (now :
    ℤ) : unix (issuer.expiresAt validUntil now) * second = issuer.expiresAt validUntil now ∧ unix
    (issuer.expiresAt validUntil now) ≤ unix (now + issuer.ttl) := by
  have hseconds : validUntil % 1000000000 = 0 := hwhole
  simp only [Issuer.expiresAt, unix]
  split
  next h =>
    have hlt : validUntil < (now + issuer.ttl) / 1000000000 * 1000000000 := h.2
    simp only [second]
    omega
  next =>
    simp only [second]
    omega

section

variable {issuer : Issuer} {deviceID subject ownerID tenantID bindingID : String}
  {bindingRevision : UInt64} {releaseID imageSHA256 action : String} {validUntil now : Time}

theorem issued_issueUntil {random : List UInt8} {token : String} {claims : Claims}
    (hwhole : validUntil % second = 0)
    (h : issuer.issueUntil deviceID subject ownerID tenantID bindingID bindingRevision releaseID
      imageSHA256 action validUntil now random = .ok (token, claims))
    (hscope : (subject = "" → ValidIdentifier deviceID maxDeviceID) →
      ∀ issuedAt expires tokenID, tokenID ≠ "" → ValidScope issuer.version
        ⟨deviceID, subject, "", ownerID, tenantID, bindingID, bindingRevision, action,
          issuer.audience, issuedAt, expires, tokenID, releaseID, imageSHA256, issuer.keyID⟩) :
    Issued issuer now token claims := by
  simp only [Issuer.issueUntil, bind_eq_ok, failIf_eq_ok, exists_and_left, exists_const, not_or,
    mapError_eq_ok] at h
  obtain ⟨hdevice, ⟨tokenID, rest⟩, hrandom, hlifetime, hmanaged, hlength, hresult⟩ := h
  obtain ⟨rfl, rfl⟩ := Prod.mk.inj (Except.ok.inj hresult)
  have htokenID : tokenID.length = tokenIDBytes := by grind [readFull]
  obtain ⟨hidentifier, hne⟩ := validIdentifier_encodeToString htokenID
  have hseconds := expiresAt_spec issuer hwhole now
  refine ⟨String.toList_ofList, ?_, rfl, rfl, not_lt.mp hlifetime, hseconds.2, hidentifier, rfl, ?_, ?_⟩
  · rw [String.toList_ofList]
    exact not_lt.mp hlength
  · grind
  · grind

end

theorem zeroTime_whole : zeroTime % second = 0 := by decide

theorem Issuer.version_of_not_owned {issuer : Issuer} (h : ¬ OwnedAudience issuer.audience) :
    issuer.version = .v1 ∨ issuer.version = .v2 := by
  rw [version, if_neg h, if_neg h]
  split <;> simp

theorem Issuer.version_of_owned {issuer : Issuer} (h : OwnedAudience issuer.audience) :
    issuer.version = .v3 ∨ issuer.version = .v4 := by
  rw [version, if_pos h, if_pos h]
  split <;> simp

variable {deviceID tenantID : String}

section Methods

variable {issuer : Issuer} {now : Time} {random : List UInt8} {token : String} {claims : Claims}

theorem issued_issue (h : issuer.issue now random deviceID = .ok (token, claims)) :
    Issued issuer now token claims := by
  simp only [Issuer.issue, failIf_bind_eq_ok, not_or] at h
  obtain ⟨⟨hvoice, hagent, hota, hcompanion⟩, h⟩ := h
  refine issued_issueUntil zeroTime_whole h fun hdevice _ _ _ _ => ?_
  have howned : ¬ Issuer.OwnedAudience issuer.audience := not_or.mpr ⟨hvoice, hagent⟩
  dsimp only [ValidScope]
  rw [if_neg hcompanion, if_neg (not_or.mpr ⟨hvoice, hagent⟩), if_neg hota]
  exact ⟨Issuer.version_of_not_owned howned, hdevice rfl, rfl, rfl, rfl, rfl, rfl, rfl, rfl, rfl, rfl⟩

theorem not_owned_companion (h : issuer.audience = companionAudience) :
    ¬ Issuer.OwnedAudience issuer.audience := by
  rw [h]
  simp [Issuer.OwnedAudience, companionAudience, voiceAudience, agentAudience]

theorem issued_issueCompanion {subject : String} (h : issuer.issueCompanion now random
    subject tenantID = .ok (token, claims)) : Issued issuer now token claims := by
  simp only [Issuer.issueCompanion, failIf_bind_eq_ok, not_or, not_not, ne_eq] at h
  obtain ⟨⟨haudience, hsubject, htenant⟩, h⟩ := h
  refine issued_issueUntil zeroTime_whole h fun _ _ _ _ htoken => ?_
  dsimp only [ValidScope]
  rw [if_pos haudience]
  exact ⟨Issuer.version_of_not_owned (not_owned_companion haudience), hsubject, htenant, rfl, rfl, rfl,
    rfl, htoken, rfl, rfl, by simp [ValidCompanionActionDevice]⟩

theorem issued_issueCompanionAction {action subject : String} (haction : action =
    companionReleaseAction ∨ action = companionConsentAction) (h : issuer.issueCompanionAction now
    random action subject tenantID deviceID = .ok (token, claims)) : Issued issuer now token claims
    := by
  simp only [Issuer.issueCompanionAction, failIf_bind_eq_ok, not_or, not_not, ne_eq] at h
  obtain ⟨⟨haudience, hsubject, htenant, hdevice⟩, h⟩ := h
  refine issued_issueUntil zeroTime_whole h fun _ _ _ _ htoken => ?_
  have hclaim : action ≠ companionClaimAction := by
    grind [companionReleaseAction, companionClaimAction, companionConsentAction]
  dsimp only [ValidScope]
  rw [if_pos haudience]
  refine ⟨Issuer.version_of_not_owned (not_owned_companion haudience), hsubject, htenant, rfl, rfl, rfl,
    rfl, htoken, rfl, rfl, ?_⟩
  rw [ValidCompanionActionDevice, if_neg hclaim, if_pos haction]
  exact hdevice

theorem issued_issueOwnedWithin {ownerID bindingID : String} {bindingRevision :
    UInt64} {validUntil : Time} (hwhole : validUntil % second = 0) (h : issuer.issueOwnedWithin now
    random deviceID ownerID tenantID bindingID bindingRevision validUntil = .ok (token, claims)) :
    Issued issuer now token claims := by
  simp only [Issuer.issueOwnedWithin, failIf_bind_eq_ok, not_or, not_not] at h
  obtain ⟨⟨haudience, hdevice, howner, htenant, hbinding, hrevision⟩, h⟩ := h
  refine issued_issueUntil hwhole h fun _ _ _ _ htoken => ?_
  have hcompanion : issuer.audience ≠ companionAudience :=
    fun hcompanion => not_owned_companion hcompanion haudience
  dsimp only [ValidScope]
  rw [if_neg hcompanion, if_pos (show _ ∨ _ from haudience)]
  exact ⟨Issuer.version_of_owned haudience, hdevice, howner, htenant, hbinding, hrevision, htoken, rfl,
    rfl, rfl, rfl, rfl⟩

theorem issued_issueForRelease {releaseID imageSHA256 : String}
    (h : issuer.issueForRelease now random deviceID releaseID imageSHA256 = .ok (token, claims)) :
    Issued issuer now token claims := by
  simp only [Issuer.issueForRelease, failIf_bind_eq_ok, not_or, not_not, ne_eq] at h
  obtain ⟨⟨haudience, hrelease, himage⟩, h⟩ := h
  refine issued_issueUntil zeroTime_whole h fun hdevice _ _ _ htoken => ?_
  have hcompanion : issuer.audience ≠ companionAudience := by
    rw [haudience]
    simp [otaAudience, companionAudience]
  have howned : ¬ (issuer.audience = voiceAudience ∨ issuer.audience = agentAudience) := by
    rw [haudience]
    simp [otaAudience, voiceAudience, agentAudience]
  dsimp only [ValidScope]
  rw [if_neg hcompanion, if_neg howned, if_pos haudience]
  exact ⟨Issuer.version_of_not_owned howned, hdevice rfl, rfl, rfl, rfl, rfl, rfl, rfl, rfl, hrelease,
    himage, htoken⟩

/-- Every method that returns a token returns one that its audience accepts. -/
theorem issued_issueRequest (h : issuer.issueRequest now random request = .ok
    (token, claims)) : Issued issuer now token claims := by
  cases request with
  | issue => exact issued_issue h
  | companion => exact issued_issueCompanion h
  | companionRelease => exact issued_issueCompanionAction (.inl rfl) h
  | companionActionConsent => exact issued_issueCompanionAction (.inr rfl) h
  | owned => exact issued_issueOwnedWithin zeroTime_whole h
  | ownedUntil =>
    grind [Issuer.issueRequest, Issuer.issueOwnedUntil, failIf_bind_eq_ok, issued_issueOwnedWithin]
  | forRelease => exact issued_issueForRelease h

end Methods

end XiaozhiPlatform.Token
