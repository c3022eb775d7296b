import XiaozhiPlatform.GoLib.Int64
import XiaozhiPlatform.GoLib.JsonStruct
import XiaozhiPlatform.GoLib.Unicode
import XiaozhiPlatform.GoLib.Url
import XiaozhiPlatform.Provisioning.Proof

/-!
# OTA releases of the gateway

`verifyManifest` reads a release manifest for the registry, checks its fields and its signature and
builds the text that the signature covers. The elliptic curve is a parameter.
-/

namespace XiaozhiPlatform.OtaReleases

open GoLib CLib Auth

/-- `manifestDocument`. -/
structure ManifestDocument where
  schema : ℤ
  releaseID : String
  project : String
  board : String
  channel : String
  version : String
  releaseSequence : ℕ
  secureVersion : ℕ
  imageURL : String
  imageSize : ℤ
  imageSHA256 : String
  resetQualificationSHA256 : String
  notBefore : ℤ
  expiresAt : ℤ
  signingKeyID : String
  signatureAlgorithm : String
  signatureB64URL : String
deriving DecidableEq, Repr

def ManifestDocument.zero : ManifestDocument :=
  ⟨0, "", "", "", "", "", 0, 0, "", 0, "", "", 0, 0, "", "", ""⟩

/-- The tags of the struct. -/
def manifestFields : List (Json.Field ManifestDocument) := [
  Json.intField "schema" (·.schema) fun n d => { d with schema := n },
  Json.stringField "release_id" (·.releaseID) fun s d => { d with releaseID := s },
  Json.stringField "project" (·.project) fun s d => { d with project := s },
  Json.stringField "board" (·.board) fun s d => { d with board := s },
  Json.stringField "channel" (·.channel) fun s d => { d with channel := s },
  Json.stringField "version" (·.version) fun s d => { d with version := s },
  Json.uintField 32 "release_sequence" (·.releaseSequence) fun n d => { d with releaseSequence := n },
  Json.uintField 32 "secure_version" (·.secureVersion) fun n d => { d with secureVersion := n },
  Json.stringField "image_url" (·.imageURL) fun s d => { d with imageURL := s },
  Json.intField "image_size" (·.imageSize) fun n d => { d with imageSize := n },
  Json.stringField "image_sha256" (·.imageSHA256) fun s d => { d with imageSHA256 := s },
  Json.stringField "reset_qualification_sha256" (·.resetQualificationSHA256)
    fun s d => { d with resetQualificationSHA256 := s },
  Json.intField "not_before" (·.notBefore) fun n d => { d with notBefore := n },
  Json.intField "expires_at" (·.expiresAt) fun n d => { d with expiresAt := n },
  Json.stringField "signing_key_id" (·.signingKeyID) fun s d => { d with signingKeyID := s },
  Json.stringField "signature_algorithm" (·.signatureAlgorithm)
    fun s d => { d with signatureAlgorithm := s },
  Json.stringField "signature_b64url" (·.signatureB64URL) fun s d => { d with signatureB64URL := s }]

/-! ## URLs -/

/-- `validDNSName`. -/
def validDNSName (value : List UInt8) : Bool :=
  value ≠ [] && value.length ≤ 253 && (value.splitOn 46).all fun label =>
    label ≠ [] && label.length ≤ 63 && label.head? ≠ some 45 && label.getLast? ≠ some 45 &&
      label.all fun byte => isAlnum byte || byte = 45

/-- `validImageURL`, on the bytes of the URL. -/
def validImageURL (value : List UInt8) : Bool :=
  if 512 < value.length ∨ value.take 8 ≠ bytesOf "https://" ∨ 92 ∈ value then false
  else
    match Url.parse (value.drop 6) with
    | none => false
    | some parsed =>
      if parsed.host = [] ∨ parsed.user = true ∨ parsed.rawQuery ≠ [] ∨ parsed.fragment ≠ [] ∨
          parsed.path = [] ∨ parsed.path = [47] ∨ 1 < parsed.host.count 58 then false
      else if ¬ validDNSName (Url.cut 58 parsed.host).1 = true then false
      else if 58 ∈ parsed.host ∧
          ¬ ∃ port ∈ parseInt64 (text (Url.cut 58 parsed.host).2), 1 ≤ port ∧ port ≤ 65535 then false
      else value.all fun byte => 32 < byte && byte < 127

/-! ## Manifests -/

/-- `maximumValidity`. -/
def maximumValidity : ℤ := 30 * 24 * 60 * minute

/-- The checks of the fields in `verifyManifest`. The subtraction and the product are of 64 bits. -/
def ManifestDocument.Valid (manifest : ManifestDocument) : Prop :=
  manifest.schema = 2 ∧ ValidIdentifier manifest.releaseID 64 ∧
    ValidIdentifier manifest.project 32 ∧ ValidIdentifier manifest.board 32 ∧
    ValidIdentifier manifest.channel 32 ∧ Provisioning.ValidVersion manifest.version ∧
    manifest.releaseSequence ≠ 0 ∧ manifest.releaseSequence ≤ 2 ^ 31 - 1 ∧
    1024 ≤ manifest.imageSize ∧ manifest.imageSize ≤ 2 ^ 31 - 1 ∧
    Provisioning.ValidSHA256 manifest.imageSHA256 ∧
    Provisioning.ValidSHA256 manifest.resetQualificationSHA256 ∧
    1609459200 ≤ manifest.notBefore ∧ manifest.expiresAt ≤ 4102444800 ∧
    manifest.notBefore < manifest.expiresAt ∧
    ((manifest.expiresAt - manifest.notBefore).bmod (2 ^ 64) * second).bmod (2 ^ 64) ≤
      maximumValidity ∧
    ValidIdentifier manifest.signingKeyID 64 ∧
    manifest.signatureAlgorithm = "ECDSA_P256_SHA256" ∧
    validImageURL (bytesOf manifest.imageURL) = true
deriving Decidable

/-- The lines of `canonicalManifest`. -/
def canonicalManifestLines (manifest : ManifestDocument) : List String := [
  "xiaozhi-product-ota-v2",
  "board=" ++ manifest.board,
  "channel=" ++ manifest.channel,
  "expires_at=" ++ String.ofList (formatInt manifest.expiresAt),
  "image_sha256=" ++ manifest.imageSHA256,
  "image_size=" ++ String.ofList (formatInt manifest.imageSize),
  "image_url=" ++ manifest.imageURL,
  "not_before=" ++ String.ofList (formatInt manifest.notBefore),
  "project=" ++ manifest.project,
  "release_id=" ++ manifest.releaseID,
  "release_sequence=" ++ String.ofList (formatNat manifest.releaseSequence),
  "reset_qualification_sha256=" ++ manifest.resetQualificationSHA256,
  "schema=" ++ String.ofList (formatInt manifest.schema),
  "secure_version=" ++ String.ofList (formatNat manifest.secureVersion),
  "signature_algorithm=" ++ manifest.signatureAlgorithm,
  "signing_key_id=" ++ manifest.signingKeyID,
  "version=" ++ manifest.version]

/-- `canonicalManifest`: every line ends with a line feed. -/
def canonicalManifest (manifest : ManifestDocument) : List UInt8 :=
  (canonicalManifestLines manifest).flatMap fun line => bytesOf line ++ [10]

/-- `rejectDuplicateJSONNames`, on the value of a text. -/
def noDuplicateNames : Json → Bool
  | .obj members => (members.map Prod.fst).Nodup && noDuplicateMembers members
  | .arr items => noDuplicateItems items
  | _ => true
where
  noDuplicateItems : List Json → Bool
    | [] => true
    | item :: items => noDuplicateNames item && noDuplicateItems items
  noDuplicateMembers : List (String × Json) → Bool
    | [] => true
    | (_, value) :: members => noDuplicateNames value && noDuplicateMembers members

/-- `decodeStrict` after `rejectDuplicateJSONNames`. The texts of the errors of the decoder are left
out. -/
def decodeStrict (payload : List UInt8) : Except Error ManifestDocument :=
  match Json.parse (decodeRunes payload) with
  | none => .error (.text "invalid JSON")
  | some value =>
    if ¬ noDuplicateNames value = true then .error (.text "duplicate JSON name")
    else
      match Json.decode manifestFields .zero value with
      | none => .error (.text "invalid JSON")
      | some manifest => .ok manifest

/-- `verifyManifest`. `verifyASN1` is `ecdsa.VerifyASN1`. -/
def verifyManifest {Key : Type} (verifyASN1 : Key → Vector UInt8 32 → List UInt8 → Bool)
    (keys : Std.ExtTreeMap String Key) (payload : List UInt8) : Except Error ManifestDocument := do
  let manifest ← decodeStrict payload
  failIf (¬ manifest.Valid) (.text "manifest fields are invalid")
  match keys[manifest.signingKeyID]? with
  | none => .error (.text "manifest signing key ID is unknown")
  | some key =>
    match Base64.decode manifest.signatureB64URL.toList with
    | none => .error (.text "manifest signature is invalid")
    | some signature =>
      failIf (signature.length < 8 ∨ 80 < signature.length ∨
        Base64.encodeToString signature ≠ manifest.signatureB64URL ∨
        ¬ verifyASN1 key (Sha256.sum256 (canonicalManifest manifest)) signature = true)
        (.text "manifest signature is invalid")
      return manifest

end XiaozhiPlatform.OtaReleases
