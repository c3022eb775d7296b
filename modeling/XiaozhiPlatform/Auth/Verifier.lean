import XiaozhiPlatform.Auth.Issuer

/-!
# Verifying device tokens

A verifier accepts a token whose signature is that of one of its keys, whose claims are valid at the
moment and, for a managed keyring, whose key is still in its window. The token names its key, apart
from the tokens of a former format, which the keyring verifies with one retiring key for a while.

- `Verifier.verify_issued`: the tokens of an issuer are accepted with the claims that were issued.
- `Verifier.verify_of_dot_mem`: unless the identifier of the key holds a dot.
- `Verifier.check_eq_ok`: everything that an accepted token was checked for.
-/

namespace XiaozhiPlatform.Token

open GoLib Auth

/-! ## Model -/

structure Verifier where
  secrets : List (List UInt8)
  managed : Option Keyring
  audience : String
  maxTTL : ℤ
  skew : ℤ

def newKeyringVerifierForAudience (secrets : List (List UInt8)) (maxTTL : ℤ) (audience : String) :
    Except Error Verifier := do
  failIf (secrets = [] ∨ 3 < secrets.length)
    (.text "device token keyring must contain 1 through 3 keys")
  failIf (maxTTL ≤ 0 ∨ ¬ ValidIdentifier audience 64)
    (.text "device token maximum TTL/audience is invalid")
  failIf (∃ secret ∈ secrets, secret.length < 32)
    (.text "device token HMAC key must be at least 32 bytes")
  return ⟨secrets, none, audience, maxTTL, 30 * second⟩

def newManagedKeyringVerifierForAudience (keyring : Keyring) (maxTTL : ℤ) (audience : String)
    (now : Time) : Except Error Verifier := do
  failIf (keyring.keys.size < 1 ∨ maxTTL ≤ 0 ∨ ¬ ValidIdentifier audience 64)
    (.text "managed token verifier configuration is invalid")
  let skew := 30 * second
  failIf (¬ ∃ active ∈ keyring.keys[keyring.activeKeyID]?, active.state = .active ∧
    now + (maxTTL + skew) ≤ active.verifyUntil)
    (.text "managed active token key expires before issued tokens")
  failIf (∃ entry ∈ keyring.keys.toList, entry.2.state = .retiring ∧
    entry.2.verifyUntil < entry.2.issueBefore + (maxTTL + skew))
    (.text "managed retiring token key window is too short")
  return ⟨[], some keyring, audience, maxTTL, skew⟩

/-- A token that was taken apart, with the key that it is verified with. -/
structure Selected where
  version : Version
  key : Option Key
  legacyManaged : Bool
  signingInput : List Char
  payload : List Char
  signature : List Char

namespace Verifier

variable (verifier : Verifier)

/-- The version of a token that names its key. -/
def keyedVersion (text : List Char) : Option Version :=
  (Version.ofText text).filter fun version => version = .v2 ∨ version = .v4

/-- The version of a token that does not. -/
def unkeyedVersion (text : List Char) : Option Version :=
  (Version.ofText text).filter fun version => version = .v1 ∨ version = .v3

def selectKeyed (keyring : Keyring) (text id payload signature : List Char) : Except Error Selected :=
  match keyedVersion text with
  | none => .error errMalformed
  | some version => do
    failIf (¬ ValidIdentifier (String.ofList id) 64 ∨ payload = [] ∨ signature = []) errMalformed
    match keyring.keys[String.ofList id]? with
    | none => .error errSignature
    | some key =>
      .ok ⟨version, some key, false, text ++ '.' :: (id ++ '.' :: payload), payload, signature⟩

/-- The key for tokens that do not name one. -/
def legacyKey (now : Time) (keyring : Keyring) : Except Error Key := do
  failIf (keyring.legacyUnkeyedKeyID = "" ∨ ¬ now < keyring.legacyVerifyUntil) errKeyRetired
  match keyring.keys[keyring.legacyUnkeyedKeyID]? with
  | none => .error errKeyRetired
  | some key =>
    failIf (key.state ≠ .retiring) errKeyRetired
    return key

def selectUnkeyed (now : Time) (text payload signature : List Char) : Except Error Selected :=
  match unkeyedVersion text with
  | none => .error errMalformed
  | some version => do
    failIf (payload = [] ∨ signature = []) errMalformed
    match verifier.managed with
    | some keyring =>
      let key ← legacyKey now keyring
      return ⟨version, some key, true, text ++ '.' :: payload, payload, signature⟩
    | none =>
      failIf (verifier.secrets = []) errMalformed
      return ⟨version, none, false, text ++ '.' :: payload, payload, signature⟩

/-- The first half of `Verify`: the parts of the token and the key. -/
def select (now : Time) (parts : List (List Char)) : Except Error Selected :=
  match parts with
  | [text, id, payload, signature] =>
    match verifier.managed with
    | none => .error errMalformed
    | some keyring => selectKeyed keyring text id payload signature
  | [text, payload, signature] => verifier.selectUnkeyed now text payload signature
  | _ => .error errMalformed

def decodePart (text : List Char) (error : Error) : Except Error (List UInt8) :=
  match Base64.decode text with
  | none => .error error
  | some bytes => .ok bytes

def decodeClaims (payload : List UInt8) : Except Error Claims :=
  match unmarshalClaims payload with
  | none => .error errClaims
  | some claims => .ok claims

/-- The signature is that of the selected key or of one of the secrets. -/
def ValidSignature (selected : Selected) (signature : List UInt8) : Prop :=
  (∃ key ∈ selected.key, signature = (Sha256.hmac key.secret (utf8 selected.signingInput)).toList) ∨
    ∃ secret ∈ verifier.secrets, signature = (Sha256.hmac secret (utf8 selected.signingInput)).toList
deriving Decidable

/-- The claims are outside the window of the key. -/
def Retired (key : Key) (legacyManaged : Bool) (claims : Claims) : Prop :=
  unix key.verifyUntil < claims.expires ∨ (key.state = .retiring ∧
    (unix key.issueBefore ≤ claims.issuedAt ∨ (legacyManaged = true ∧
      ∃ keyring ∈ verifier.managed, unix keyring.legacyVerifyUntil < claims.expires)))
deriving Decidable

/-- The last checks, against the window of the key. -/
def accept (selected : Selected) (claims : Claims) : Except Error Claims :=
  match selected.key with
  | none => .ok claims
  | some key => do
    failIf (verifier.Retired key selected.legacyManaged claims) errKeyRetired
    return { claims with signingKeyID := key.id }

/-- The second half of `Verify`. -/
def check (now : Time) (selected : Selected) : Except Error Claims := do
  let payload ← decodePart selected.payload errMalformed
  let signature ← decodePart selected.signature errMalformed
  failIf (signature.length ≠ 32) errMalformed
  failIf (∃ key ∈ selected.key, ¬ now < key.verifyUntil) errKeyRetired
  failIf (¬ verifier.ValidSignature selected signature) errSignature
  let claims ← decodeClaims payload
  validateClaims verifier.audience verifier.maxTTL verifier.skew now selected.version claims
  verifier.accept selected claims

/-- `Verify`, while the clock shows `now`. -/
def verify (now : Time) (token : String) : Except Error Claims := do
  failIf (token = "" ∨ maxTokenBytes < byteLength token.toList) errMalformed
  let selected ← verifier.select now (token.toList.splitOn '.')
  verifier.check now selected

/-! ## Accepted tokens -/

theorem decodePart_eq_ok :
    decodePart text error = .ok bytes ↔ Base64.decode text = some bytes := by grind [decodePart]

theorem decodeClaims_eq_ok :
    decodeClaims payload = .ok claims ↔ unmarshalClaims payload = some claims := by
  grind [decodeClaims]

variable {verifier} {now : Time} {selected : Selected} {claims : Claims}

theorem check_eq_ok (hkey : selected.key = some key) : verifier.check now selected = .ok claims ↔
      ∃ payload signature decoded, Base64.decode selected.payload = some payload ∧
        Base64.decode selected.signature = some signature ∧ signature.length = 32 ∧
        now < key.verifyUntil ∧ verifier.ValidSignature selected signature ∧
        unmarshalClaims payload = some decoded ∧
        validateClaims verifier.audience verifier.maxTTL verifier.skew now selected.version decoded
    =
          .ok () ∧
        ¬ verifier.Retired key selected.legacyManaged decoded ∧
        claims = { decoded with signingKeyID := key.id } := by
  have hretired : (∃ k ∈ selected.key, ¬ now < k.verifyUntil) ↔ ¬ now < key.verifyUntil := by
    simp [hkey]
  have haccept : ∀ decoded, verifier.accept selected decoded = .ok claims ↔
      ¬ verifier.Retired key selected.legacyManaged decoded ∧
        claims = { decoded with signingKeyID := key.id } := by
    intro decoded
    simp only [accept, hkey, failIf_bind_eq_ok, pure, Except.pure, Except.ok.injEq]
    exact and_congr_right fun _ => eq_comm
  simp only [check, bind_eq_ok, failIf_eq_ok, exists_and_left, decodePart_eq_ok, decodeClaims_eq_ok,
    hretired, haccept, not_not, ne_eq, Unique.exists_iff, PUnit.default_eq_unit]

/-! ## Tokens of an issuer -/

section Issued

variable {issuer : Issuer} {keyring : Keyring} {key : Key}

theorem dot_notMem_encode (bytes : List UInt8) : '.' ∉ Base64.encode bytes := fun h =>
  (isIdentifierChar_of_isSymbol (Base64.isSymbol_of_mem_encode h)).2.2 rfl

theorem dot_notMem_version (version : Version) : '.' ∉ version.text := by
  cases version <;> decide

theorem splitOn_sign (issuer : Issuer) (claims : Claims) : (issuer.sign claims).splitOn '.' =
    issuer.version.text :: ((if issuer.managed then issuer.keyID.toList.splitOn '.' else []) ++
      [Base64.encode (marshalClaims claims),
        Base64.encode (Sha256.hmac issuer.secret (utf8 (issuer.signingInput claims))).toList]) := by
  rw [Issuer.sign, List.splitOn_append_cons_self,
    List.splitOn_eq_singleton (dot_notMem_encode _), Issuer.signingInput]
  split <;> rw [List.splitOn_append_cons_self_of_not_mem (dot_notMem_version _)]
  · rw [List.splitOn_append_cons_self, List.splitOn_eq_singleton (dot_notMem_encode _)]
    simp
  · rw [List.splitOn_eq_singleton (dot_notMem_encode _)]
    simp

theorem length_splitOn (text : List Char) (c : Char) :
    (text.splitOn c).length = text.count c + 1 := by
  induction text with
  | nil => rfl
  | cons d text ih => grind [List.splitOn_cons_eq_if_modifyHead]

/-- No verifier takes a token apart whose key has a dot in its name. -/
theorem verify_of_dot_mem (hmanaged : issuer.managed = true) (hdot : '.' ∈ issuer.keyID.toList)
    (htoken : token.toList = issuer.sign claims) (verifier : Verifier) (now : Time) :
    verifier.verify now token = .error errMalformed := by
  have hparts : 2 ≤ (issuer.keyID.toList.splitOn '.').length := by
    have hcount := List.count_pos_iff.mpr hdot
    rw [length_splitOn]
    omega
  have hlength : 5 ≤ (token.toList.splitOn '.').length := by
    grind [splitOn_sign, List.length_cons, List.length_append, List.length_nil]
  have hselect : verifier.select now (token.toList.splitOn '.') = .error errMalformed := by
    unfold select
    split
    next h => simp [h] at hlength
    next h => simp [h] at hlength
    next => rfl
  rw [verify]
  by_cases hbytes : token = "" ∨ maxTokenBytes < byteLength token.toList
  · rw [failIf_of_pos hbytes, error_bind]
  · rw [failIf_of_neg hbytes, ok_bind, hselect, error_bind]

/-- The parts of a token that names its key. -/
def issuedSelection (issuer : Issuer) (key : Key) (claims : Claims) : Selected :=
  ⟨issuer.version, some key, false, issuer.signingInput claims, Base64.encode (marshalClaims claims),
    Base64.encode (Sha256.hmac issuer.secret (utf8 (issuer.signingInput claims))).toList⟩

theorem keyedVersion_version (hmanaged : issuer.managed = true) :
    keyedVersion issuer.version.text = some issuer.version := by
  grind [keyedVersion, Version.ofText_text, Issuer.version]

theorem encode_ne_nil (h : bytes ≠ []) : Base64.encode bytes ≠ [] := by
  grind [Base64.length_encode, List.length_nil, List.length_pos_iff]

theorem marshalClaims_ne_nil (claims : Claims) : marshalClaims claims ≠ [] := by
  grind [decodeRunes, marshalClaims, decodeRunes_utf8, Json.marshal, Json.render]

theorem signature_ne_nil (issuer : Issuer) (claims : Claims) : Base64.encode
    (Sha256.hmac issuer.secret (utf8 (issuer.signingInput claims))).toList ≠ [] :=
  encode_ne_nil (List.ne_nil_of_length_pos (by simp))

theorem select_issued (hmanaged : issuer.managed = true) (hdot : '.' ∉ issuer.keyID.toList)
    (hidentifier : ValidIdentifier issuer.keyID 64) (hkeyring : verifier.managed = some keyring)
    (hkey : keyring.keys[issuer.keyID]? = some key) (now : Time) (claims : Claims) :
    verifier.select now ((issuer.sign claims).splitOn '.') = .ok (issuedSelection issuer key claims) := by
  rw [splitOn_sign, hmanaged, if_pos rfl, List.splitOn_eq_singleton hdot]
  simp only [List.cons_append, List.nil_append, select, hkeyring, selectKeyed,
    keyedVersion_version hmanaged, String.ofList_toList, hkey]
  rw [failIf_of_neg (by simp [hidentifier, signature_ne_nil,
    encode_ne_nil (marshalClaims_ne_nil claims)]), ok_bind, issuedSelection, Issuer.signingInput]
  simp [hmanaged]

theorem unkeyedVersion_version (hmanaged : issuer.managed = false) :
    unkeyedVersion issuer.version.text = some issuer.version := by
  grind [unkeyedVersion, Version.ofText_text, Issuer.version]

/-- The claims of the issuer are for the verifier, and in their window at the instant. -/
structure InWindow (verifier : Verifier) (issuer : Issuer) (claims : Claims) (now : Time) : Prop where
  audience : verifier.audience = issuer.audience
  lifetime : claims.expires - claims.issuedAt ≤ verifier.maxTTL / second
  positive : 0 < claims.issuedAt
  range : claims.expires < 2 ^ 63
  started : claims.issuedAt ≤ unix now + verifier.skew / second
  live : unix now - verifier.skew / second < claims.expires

variable {issuedAt : Time} {token : String} (hissued : Issued issuer issuedAt token claims)
  (hwindow : verifier.InWindow issuer claims now)

include hissued

omit hwindow in
theorem ne_empty_of_issued : token ≠ "" := by
  rintro rfl
  have hnil := hissued.token_eq
  simp [Issuer.sign] at hnil

include hwindow

/-- A verifier reads the claims of an issued token back, and they pass in their window. -/
theorem valid_issued :
    unmarshalClaims (marshalClaims claims) = some { claims with signingKeyID := "" } ∧
      validateClaims verifier.audience verifier.maxTTL verifier.skew now issuer.version
        { claims with signingKeyID := "" } = .ok () := by
  have hshort : 60 ≤ claims.expires - claims.issuedAt := hissued.lifetime
  obtain ⟨haudience, hlifetime, hpositive, hrange, hstarted, hlive⟩ := hwindow
  refine ⟨unmarshalClaims_marshalClaims ⟨by omega, by omega⟩ ⟨by omega, hrange⟩,
    validateClaims_eq_ok.mpr ⟨⟨hissued.audience.trans haudience.symm, hpositive, ?_, hlifetime⟩,
      hstarted, hlive, fun _ => hissued.tokenID, hissued.scope⟩⟩
  show claims.issuedAt < claims.expires
  omega

/-- A token that is taken apart as it was put together, and signed with a secret of the verifier, is
accepted while its claims and its key are in their windows. -/
theorem verify_of_select (key : Option Key)
    (hselect : verifier.select now ((issuer.sign claims).splitOn '.') = .ok
      ⟨issuer.version, key, false, issuer.signingInput claims, Base64.encode (marshalClaims claims),
        Base64.encode (Sha256.hmac issuer.secret (utf8 (issuer.signingInput claims))).toList⟩)
    (huntil : ¬ ∃ k ∈ key, ¬ now < k.verifyUntil)
    (hsecret : (∃ k ∈ key, k.secret = issuer.secret) ∨ issuer.secret ∈ verifier.secrets)
    (haccept : ∀ selected : Selected, selected.key = key → selected.legacyManaged = false →
      verifier.accept selected { claims with signingKeyID := "" } = .ok claims) :
    verifier.verify now token = .ok claims := by
  obtain ⟨hpayload, hvalid⟩ := valid_issued hissued hwindow
  rw [verify, failIf_of_neg (not_or.mpr ⟨ne_empty_of_issued hissued, not_lt.mpr hissued.length_le⟩),
    ok_bind, hissued.token_eq, hselect, ok_bind]
  simp only [ok_bind, check, decodePart, Base64.decode_encode, decodeClaims, hpayload, hvalid]
  rw [failIf_of_neg (by simp), ok_bind, failIf_of_neg huntil, ok_bind, failIf_of_neg, ok_bind,
    haccept _ rfl rfl]
  refine not_not.mpr (hsecret.imp ?_ fun hmem => ⟨_, hmem, rfl⟩)
  rintro ⟨k, hk, heq⟩
  exact ⟨k, hk, by rw [heq]⟩

/-- A verifier that holds the key of the issuer accepts its tokens while the claims and the key are
in their windows. -/
theorem verify_issued (hmanaged : issuer.managed = true) (hdot : '.' ∉ issuer.keyID.toList)
    (hkeyring : verifier.managed = some keyring) (hkey : keyring.keys[issuer.keyID]? = some key)
    (hid : key.id = issuer.keyID) (hsecret : key.secret = issuer.secret)
    (huntil : now < key.verifyUntil)
    (hretired : ¬ verifier.Retired key false { claims with signingKeyID := "" }) :
    verifier.verify now token = .ok claims := by
  refine verify_of_select hissued hwindow (some key)
    (select_issued hmanaged hdot (hissued.managed hmanaged).1 hkeyring hkey now claims)
    (by simpa using huntil) (.inl ⟨key, rfl, hsecret⟩) fun selected hselected hunkeyed => ?_
  simp only [accept, hselected, hunkeyed]
  rw [failIf_of_neg hretired, ok_bind, hid, ← hissued.signingKeyID]
  rfl

/-- A verifier that holds the bare secret of the issuer accepts its tokens while the claims are in
their window. -/
theorem verify_issued_secret (hmanaged : issuer.managed = false) (hid : issuer.keyID = "")
    (hverifier : verifier.managed = none) (hsecret : issuer.secret ∈ verifier.secrets) :
    verifier.verify now token = .ok claims := by
  refine verify_of_select hissued hwindow none ?_ (by simp) (.inr hsecret)
    fun selected hselected _ => ?_
  · rw [splitOn_sign, hmanaged, if_neg Bool.false_ne_true]
    simp only [List.nil_append, select, selectUnkeyed, unkeyedVersion_version hmanaged, hverifier]
    rw [failIf_of_neg (by simp [signature_ne_nil, encode_ne_nil (marshalClaims_ne_nil claims)]),
      ok_bind, failIf_of_neg (List.ne_nil_of_mem hsecret), ok_bind]
    simp [Issuer.signingInput, hmanaged, pure, Except.pure]
  · have hkeyID := hissued.signingKeyID.trans hid
    cases claims
    simp_all [accept]

end Issued

end Verifier

end XiaozhiPlatform.Token
