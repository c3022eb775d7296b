import XiaozhiPlatform.CLib.CJson
import XiaozhiPlatform.GoLib.Lines
import XiaozhiPlatform.GoLib.Strconv
import XiaozhiPlatform.GoLib.Unicode

/-!
# OTA manifests on the device

`product_ota_manifest_parse` reads a signed manifest, and `product_ota_manifest_canonicalize` writes
the text that the signature covers into a buffer of a fixed size.

- `Checked`: what the parser has checked of a manifest.
- `canonicalText_injective`: the text determines every field that it covers.
- `manifest_canonical`: the text of a manifest that was parsed always fits the buffer.
-/

namespace XiaozhiPlatform.ProductOta

open GoLib CLib

/-! ## Model -/

def manifestMaxBytes : ℕ := 8192

def canonicalMaxBytes : ℕ := 2048

def signatureMaxBytes : ℕ := 80

def authorityMax : ℕ := 253

/-- `product_ota_manifest_t`. The arrays of characters hold C strings. -/
structure Manifest where
  schema : ℕ
  releaseID : CString
  project : CString
  board : CString
  channel : CString
  version : CString
  releaseSequence : ℕ
  secureVersion : ℕ
  imageURL : CString
  imageSize : ℕ
  imageSHA256Hex : CString
  imageSHA256 : List UInt8
  resetQualificationSHA256Hex : CString
  resetQualificationSHA256 : List UInt8
  notBefore : ℕ
  expiresAt : ℕ
  signingKeyID : CString
  signature : List UInt8
deriving DecidableEq

theorem zero_notMem_nil : (0 : UInt8) ∉ [] := List.not_mem_nil

/-- The manifest of zeros that the parser fills. -/
def Manifest.zero : Manifest where
  schema := 0
  releaseID := ⟨[], zero_notMem_nil⟩
  project := ⟨[], zero_notMem_nil⟩
  board := ⟨[], zero_notMem_nil⟩
  channel := ⟨[], zero_notMem_nil⟩
  version := ⟨[], zero_notMem_nil⟩
  releaseSequence := 0
  secureVersion := 0
  imageURL := ⟨[], zero_notMem_nil⟩
  imageSize := 0
  imageSHA256Hex := ⟨[], zero_notMem_nil⟩
  imageSHA256 := []
  resetQualificationSHA256Hex := ⟨[], zero_notMem_nil⟩
  resetQualificationSHA256 := []
  notBefore := 0
  expiresAt := 0
  signingKeyID := ⟨[], zero_notMem_nil⟩
  signature := []

/-- `copy_string` into an array of a size. -/
def copyString (outputSize : ℕ) (item : Option CString) : Option CString :=
  item.filter fun value => value.bytes.length ≠ 0 ∧ value.bytes.length < outputSize

def isIdentifierByte (byte : UInt8) : Bool :=
  isAlnum byte || byte = 58 || byte = 95 || byte = 45 || byte = 46

/-- `identifier_valid`. -/
def identifierValid (value : CString) (maximum : ℕ) : Bool :=
  value.bytes.length ≠ 0 && value.bytes.length ≤ maximum && value.bytes.all isIdentifierByte

def isVersionByte (byte : UInt8) : Bool :=
  isAlnum byte || byte = 46 || byte = 43 || byte = 45 || byte = 95

/-- `version_valid`. -/
def versionValid (value : CString) : Bool :=
  value.bytes.length ≠ 0 && value.bytes.length ≤ 32 && value.bytes.all isVersionByte

/-- `exact_uint`. A number beyond 64 bits is above every maximum. -/
def exactUint (item : Option (Option ℚ)) (minimum maximum : ℕ) : Option ℕ :=
  match item with
  | some (some valuedouble) =>
    if valuedouble < 0 then none
    else
      let value := valuedouble.floor.toNat
      if (value : ℚ) ≠ valuedouble ∨ value < minimum ∨ maximum < value then none else some value
  | _ => none

/-- `base64url_value`. -/
def base64urlValue (byte : UInt8) : ℤ :=
  if 65 ≤ byte ∧ byte ≤ 90 then byte.toNat - 65
  else if 97 ≤ byte ∧ byte ≤ 122 then byte.toNat - 97 + 26
  else if 48 ≤ byte ∧ byte ≤ 57 then byte.toNat - 48 + 52
  else if byte = 45 then 62
  else if byte = 95 then 63
  else -1

/-- The loop of `decode_base64url`, with the bits that have not made a byte yet. At most six of them
are left after a step, so the accumulator stays small. -/
def decodeLoop (capacity : ℕ) (produced : List UInt8) (accumulator bits : ℕ) :
    List UInt8 → Option (List UInt8 × ℕ)
  | [] => some (produced, accumulator)
  | byte :: rest =>
    let value := base64urlValue byte
    if value < 0 then none
    else
      let accumulator := accumulator * 64 + value.toNat
      let bits := bits + 6
      if 8 ≤ bits then
        let bits := bits - 8
        if capacity ≤ produced.length then none
        else
          decodeLoop capacity (produced ++ [UInt8.ofNat (accumulator / 2 ^ bits)])
            (accumulator % 2 ^ bits) bits rest
      else decodeLoop capacity produced accumulator bits rest

/-- `decode_base64url`. -/
def decodeBase64url (input : CString) (capacity : ℕ) : Option (List UInt8) :=
  if 61 ∈ input.bytes ∨ input.bytes.length = 0 ∨ input.bytes.length % 4 = 1 then none
  else
    match decodeLoop capacity [] 0 0 input.bytes with
    | none => none
    | some (produced, accumulator) => if accumulator ≠ 0 then none else some produced

def isLowerHex (byte : UInt8) : Bool := (48 ≤ byte && byte ≤ 57) || (97 ≤ byte && byte ≤ 102)

def hexValue (byte : UInt8) : ℕ := if byte ≤ 57 then byte.toNat - 48 else byte.toNat - 97 + 10

/-- The loop of `sha256_hex_decode`. -/
def hexDecode : List UInt8 → Option (List UInt8)
  | high :: low :: rest =>
    if isLowerHex high && isLowerHex low then
      (hexDecode rest).map fun bytes => UInt8.ofNat (hexValue high * 16 + hexValue low) :: bytes
    else none
  | _ => some []

/-- `sha256_hex_decode`. -/
def sha256HexDecode (input : CString) : Option (List UInt8) :=
  if input.bytes.length ≠ 64 then none else hexDecode input.bytes

/-- `contains_escaped_nul`. -/
def containsEscapedNul : List UInt8 → Bool
  | a :: b :: c :: d :: e :: f :: rest =>
    (a = 92 && (b = 117 || b = 85) && c = 48 && d = 48 && e = 48 && f = 48) ||
      containsEscapedNul (b :: c :: d :: e :: f :: rest)
  | _ => false

/-- The names of `field_bit`. -/
def fieldNames : List String := [
  "schema", "release_id", "project", "board", "channel", "version", "release_sequence",
  "secure_version", "image_url", "image_size", "image_sha256", "reset_qualification_sha256",
  "not_before", "expires_at", "signing_key_id", "signature_algorithm", "signature_b64url"]

theorem lawfulBEq_bytes : LawfulBEq (List UInt8) := inferInstance

attribute [local instance] lawfulBEq_bytes

/-- `root_fields_exact`: the loop over the members with the names that were seen. -/
def fieldsExactLoop (seen : List (List UInt8)) : List CString → Bool
  | [] => fieldNames.all fun name => bytesOf name ∈ seen
  | name :: rest =>
    if name.bytes ∉ fieldNames.map bytesOf ∨ name.bytes ∈ seen then false
    else fieldsExactLoop (name.bytes :: seen) rest

def rootFieldsExact (root : CJson) : Bool :=
  match root with
  | .object members => fieldsExactLoop [] (members.map Prod.fst)
  | _ => false

/-! ### URLs -/

/-- The loop over the host: the byte before, the length of the label so far and the rest. -/
def hostLoop (previous : UInt8) (labelSize : ℕ) : List UInt8 → Option ℕ
  | [] => some labelSize
  | byte :: rest =>
    if byte = 46 then
      if labelSize = 0 ∨ 63 < labelSize ∨ previous = 45 then none else hostLoop byte 0 rest
    else if isAlnum byte = false ∧ byte ≠ 45 then none
    else if labelSize = 0 ∧ byte = 45 then none
    else hostLoop byte (labelSize + 1) rest

/-- The check of the host. -/
def hostValid (host : List UInt8) : Bool :=
  if host = [] ∨ host.head? = some 46 ∨ host.getLast? = some 46 then false
  else
    match hostLoop 0 0 host with
    | none => false
    | some labelSize => labelSize ≠ 0 && labelSize ≤ 63 && host.getLast? ≠ some 45

/-- The loop over the digits of the port. -/
def portLoop (port : ℕ) : List UInt8 → Option ℕ
  | [] => some port
  | byte :: rest =>
    if isDigit byte = false then none
    else
      let port := port * 10 + (byte.toNat - 48)
      if 65535 < port then none else portLoop port rest

/-- The check of what follows the colon. -/
def portValid (port : List UInt8) : Bool :=
  port ≠ [] && 58 ∉ port && (match portLoop 0 port with | none => false | some port => port ≠ 0)

/-- `ascii_case_equal_n` for texts of one length. -/
def asciiCaseEqual (left right : List UInt8) : Bool :=
  left.map toLower = right.map toLower

/-- `product_ota_url_has_authority`. -/
def urlHasAuthority (url : CString) (allowedAuthority : Option CString) : Bool :=
  if url.bytes.take 8 ≠ bytesOf "https://" then false
  else
    let authority := (url.bytes.drop 8).takeWhile (· ≠ 47)
    let path := (url.bytes.drop 8).dropWhile (· ≠ 47)
    if path = [] ∨ authority = [] ∨ path.length = 1 then false
    else if authorityMax < authority.length ∨ 64 ∈ authority ∨ 92 ∈ authority ∨ 63 ∈ path ∨
        35 ∈ path then false
    else
      let host := authority.takeWhile (· ≠ 58)
      let port := authority.dropWhile (· ≠ 58)
      if ¬ hostValid host = true ∨ (port ≠ [] ∧ ¬ portValid port.tail = true) then false
      else if ¬ path.all (fun byte => 32 < byte && byte < 127 && byte ≠ 92) = true then false
      else
        match allowedAuthority with
        | none => true
        | some allowed =>
          allowed.bytes.length = authority.length && allowed.bytes.length ≠ 0 &&
            asciiCaseEqual authority allowed.bytes

/-! ### Manifests -/

/-- The part of `parse_fields` that copies the texts. -/
def parseTexts (root : CJson) (manifest : Manifest) : Option Manifest := do
  let releaseID ← copyString 65 (root.stringItem "release_id")
  let project ← copyString 33 (root.stringItem "project")
  let board ← copyString 33 (root.stringItem "board")
  let channel ← copyString 33 (root.stringItem "channel")
  let version ← copyString 33 (root.stringItem "version")
  let imageURL ← copyString 513 (root.stringItem "image_url")
  let imageSHA256Hex ← copyString 65 (root.stringItem "image_sha256")
  let resetQualificationSHA256Hex ← copyString 65 (root.stringItem "reset_qualification_sha256")
  let signingKeyID ← copyString 65 (root.stringItem "signing_key_id")
  return {
    manifest with
    releaseID, project, board, channel, version, imageURL, imageSHA256Hex,
    resetQualificationSHA256Hex, signingKeyID }

/-- The part of `parse_fields` that reads the numbers after the texts. -/
def parseNumbers (root : CJson) (manifest : Manifest) : Option Manifest := do
  let releaseSequence ← exactUint (root.numberItem "release_sequence") 1 (2 ^ 31 - 1)
  let secureVersion ← exactUint (root.numberItem "secure_version") 0 (2 ^ 32 - 1)
  let imageSize ← exactUint (root.numberItem "image_size") 1024 (2 ^ 31 - 1)
  let notBefore ← exactUint (root.numberItem "not_before") 1609459200 4102444800
  let expiresAt ← exactUint (root.numberItem "expires_at") 1609459200 4102444800
  return { manifest with releaseSequence, secureVersion, imageSize, notBefore, expiresAt }

/-- The part of `parse_fields` that reads the signature. -/
def parseSignature (root : CJson) : Option (List UInt8) := do
  let algorithm ← root.stringItem "signature_algorithm"
  guard (algorithm.bytes = bytesOf "ECDSA_P256_SHA256")
  let signatureText ← root.stringItem "signature_b64url"
  let signature ← decodeBase64url signatureText signatureMaxBytes
  guard (8 ≤ signature.length)
  return signature

/-- The texts that `parse_fields` checks before it decodes the digests. -/
def textsValid (manifest : Manifest) : Bool :=
  identifierValid manifest.releaseID 64 && identifierValid manifest.project 32 &&
    identifierValid manifest.board 32 && identifierValid manifest.channel 32 &&
    versionValid manifest.version && identifierValid manifest.signingKeyID 64

/-- `parse_fields`, which starts from a manifest of zeros. -/
def parseFields (root : CJson) : Option Manifest := do
  let schema ← exactUint (root.numberItem "schema") 2 2
  let manifest ← parseTexts root { Manifest.zero with schema }
  let manifest ← parseNumbers root manifest
  let signature ← parseSignature root
  guard (textsValid manifest = true)
  let imageSHA256 ← sha256HexDecode manifest.imageSHA256Hex
  let resetQualificationSHA256 ← sha256HexDecode manifest.resetQualificationSHA256Hex
  return { manifest with signature, imageSHA256, resetQualificationSHA256 }

/-- `product_ota_manifest_parse`. -/
def manifestParse (cJSON : CJsonParser) (json : List UInt8) : Option Manifest := do
  guard (json ≠ [] ∧ json.length ≤ manifestMaxBytes ∧ containsEscapedNul json = false)
  let (root, size) ← cJSON json
  guard (rootFieldsExact root = true)
  guard ((json.drop size).all isSpace = true)
  let parsed ← parseFields root
  guard (urlHasAuthority parsed.imageURL none = true)
  return parsed

/-- A line of the text: a name and a value. -/
def line (name : String) (value : List UInt8) : List UInt8 := bytesOf name ++ value

/-- The lines of the format of `product_ota_manifest_canonicalize`. -/
def canonicalLines (manifest : Manifest) : List (List UInt8) := [
  bytesOf "xiaozhi-product-ota-v2",
  line "board=" manifest.board.bytes,
  line "channel=" manifest.channel.bytes,
  line "expires_at=" (utf8 (formatNat manifest.expiresAt)),
  line "image_sha256=" manifest.imageSHA256Hex.bytes,
  line "image_size=" (utf8 (formatNat manifest.imageSize)),
  line "image_url=" manifest.imageURL.bytes,
  line "not_before=" (utf8 (formatNat manifest.notBefore)),
  line "project=" manifest.project.bytes,
  line "release_id=" manifest.releaseID.bytes,
  line "release_sequence=" (utf8 (formatNat manifest.releaseSequence)),
  line "reset_qualification_sha256=" manifest.resetQualificationSHA256Hex.bytes,
  line "schema=" (utf8 (formatNat manifest.schema)),
  line "secure_version=" (utf8 (formatNat manifest.secureVersion)),
  bytesOf "signature_algorithm=ECDSA_P256_SHA256",
  line "signing_key_id=" manifest.signingKeyID.bytes,
  line "version=" manifest.version.bytes]

/-- The text that the format gives: every line ends with a line feed. -/
def canonicalText (manifest : Manifest) : List UInt8 := (canonicalLines manifest).flatMap (· ++ [10])

/-- `product_ota_manifest_canonicalize` into a buffer of a size: the text before the final zero. -/
def canonicalize (manifest : Manifest) (outputSize : ℕ) : Option (List UInt8) :=
  let text := canonicalText manifest
  if outputSize = 0 ∨ outputSize ≤ text.length then none else some text

/-! ## What the parser has checked -/

/-- A manifest that the parser has accepted. -/
structure Checked (manifest : Manifest) : Prop where
  schema : manifest.schema = 2
  releaseID : identifierValid manifest.releaseID 64 = true
  project : identifierValid manifest.project 32 = true
  board : identifierValid manifest.board 32 = true
  channel : identifierValid manifest.channel 32 = true
  version : versionValid manifest.version = true
  releaseSequence : manifest.releaseSequence < 10 ^ 10
  secureVersion : manifest.secureVersion < 10 ^ 10
  imageURL : urlHasAuthority manifest.imageURL none = true
  imageURLLength : manifest.imageURL.bytes.length ≤ 512
  imageSize : manifest.imageSize < 10 ^ 10
  imageSHA256 : sha256HexDecode manifest.imageSHA256Hex = some manifest.imageSHA256
  resetQualificationSHA256 :
    sha256HexDecode manifest.resetQualificationSHA256Hex = some manifest.resetQualificationSHA256
  notBefore : manifest.notBefore < 10 ^ 10
  expiresAt : manifest.expiresAt < 10 ^ 10
  signingKeyID : identifierValid manifest.signingKeyID 64 = true

section Parser

variable {cJSON : CJsonParser} {json : List UInt8} {manifest : Manifest} {root : CJson}

theorem exactUint_eq_some
    (h : exactUint item minimum maximum = some n) : minimum ≤ n ∧ n ≤ maximum := by
  unfold exactUint at h
  split at h
  · grind
  · cases h

theorem copyString_eq_some
    (h : copyString size item = some value) : item = some value ∧ value.bytes.length < size := by
  obtain ⟨hitem, hsize⟩ := Option.filter_eq_some_iff.mp h
  exact ⟨hitem, (of_decide_eq_true hsize).2⟩

theorem parseTexts_eq_some (h : parseTexts root before = some manifest) :
    manifest.imageURL.bytes.length ≤ 512 ∧ manifest.schema = before.schema := by
  simp only [parseTexts, Option.bind_eq_bind, Option.bind_eq_some_iff] at h
  obtain ⟨releaseID, -, project, -, board, -, channel, -, version, -, imageURL, himageURL,
    imageSHA256Hex, -, resetHex, -, signingKeyID, -, h⟩ := h
  cases h
  exact ⟨Nat.le_of_lt_succ (copyString_eq_some himageURL).2, rfl⟩

theorem parseNumbers_eq_some (h : parseNumbers root before = some manifest) :
    (manifest.releaseSequence < 10 ^ 10 ∧ manifest.secureVersion < 10 ^ 10 ∧
        manifest.imageSize < 10 ^ 10 ∧ manifest.notBefore < 10 ^ 10 ∧ manifest.expiresAt < 10 ^ 10)
    ∧
      manifest.imageURL = before.imageURL ∧ manifest.schema = before.schema := by
  simp only [parseNumbers, Option.bind_eq_bind, Option.bind_eq_some_iff] at h
  obtain ⟨sequence, hsequence, secureVersion, hsecure, imageSize, himageSize, notBefore, hnotBefore,
    expiresAt, hexpires, h⟩ := h
  cases h
  have hlt : ∀ {item minimum maximum n}, exactUint item minimum maximum = some n →
      maximum < 10 ^ 10 → n < 10 ^ 10 :=
    fun h hmaximum => Nat.lt_of_le_of_lt (exactUint_eq_some h).2 hmaximum
  exact ⟨⟨hlt hsequence (by decide), hlt hsecure (by decide), hlt himageSize (by decide),
    hlt hnotBefore (by decide), hlt hexpires (by decide)⟩, rfl, rfl⟩

theorem checked_of_manifestParse (h : manifestParse cJSON json = some manifest) : Checked manifest := by
  simp only [manifestParse, Option.bind_eq_bind, Option.bind_eq_some_iff, Option.guard_eq_some',
    exists_const] at h
  obtain ⟨-, ⟨root, size⟩, -, -, -, parsed, hfields, hurl, h⟩ := h
  cases h
  simp only [parseFields, Option.bind_eq_bind, Option.bind_eq_some_iff, Option.guard_eq_some',
    exists_const] at hfields
  obtain ⟨schema, hschema, texts, htexts, numbers, hnumbers, signature, -, hvalid, imageSHA256, himage,
    reset, hreset, hfields⟩ := hfields
  cases hfields
  obtain ⟨hlength, hschemaTexts⟩ := parseTexts_eq_some htexts
  obtain ⟨⟨hsequence, hsecure, himageSize, hnotBefore, hexpires⟩, hurlNumbers, hschemaNumbers⟩ :=
    parseNumbers_eq_some hnumbers
  simp only [textsValid, Bool.and_eq_true] at hvalid
  obtain ⟨⟨⟨⟨⟨hreleaseID, hproject⟩, hboard⟩, hchannel⟩, hversion⟩, hsigning⟩ := hvalid
  have htwo : schema = 2 := by
    have hrange := exactUint_eq_some hschema
    omega
  exact {
    schema := (hschemaNumbers.trans hschemaTexts).trans htwo
    releaseID := hreleaseID
    project := hproject
    board := hboard
    channel := hchannel
    version := hversion
    releaseSequence := hsequence
    secureVersion := hsecure
    imageURL := hurl
    imageURLLength := hurlNumbers ▸ hlength
    imageSize := himageSize
    imageSHA256 := himage
    resetQualificationSHA256 := hreset
    notBefore := hnotBefore
    expiresAt := hexpires
    signingKeyID := hsigning }

end Parser

/-! ## Texts of one line -/

section Lines

variable {value url : CString} {maximum : ℕ}

theorem notMem_of_all {bytes : List UInt8} {check : UInt8 → Bool} {byte : UInt8}
    (hcheck : check byte = false) (h : bytes.all check = true) : byte ∉ bytes := by grind

theorem identifierValid_spec (h : identifierValid value maximum = true) :
    10 ∉ value.bytes ∧ value.bytes.length ≤ maximum := by
  simp only [identifierValid, Bool.and_eq_true, decide_eq_true_eq] at h
  exact ⟨notMem_of_all (by decide) h.2, h.1.2⟩

theorem versionValid_spec (h : versionValid value = true) :
    10 ∉ value.bytes ∧ value.bytes.length ≤ 32 := by
  simp only [versionValid, Bool.and_eq_true, decide_eq_true_eq] at h
  exact ⟨notMem_of_all (by decide) h.2, h.1.2⟩

theorem isLowerHex_of_hexDecode : ∀ {input output : List UInt8}, input.length % 2 = 0 →
    hexDecode input = some output → input.all isLowerHex = true
  | [], _, _, _ => rfl
  | [_], _, hlength, _ => by simp at hlength
  | high :: low :: rest, output, hlength, h => by
    unfold hexDecode at h
    split at h
    next hhex =>
      obtain ⟨bytes, hrest, -⟩ := Option.map_eq_some_iff.mp h
      simp only [List.length_cons] at hlength
      rw [List.all_cons, List.all_cons, isLowerHex_of_hexDecode (by omega) hrest]
      simpa using hhex
    next => cases h

theorem sha256HexDecode_spec {output : List UInt8} (h : sha256HexDecode value = some output) :
    10 ∉ value.bytes ∧ value.bytes.length = 64 := by
  unfold sha256HexDecode at h
  split at h
  · cases h
  next hlength =>
    rw [not_not] at hlength
    exact ⟨notMem_of_all (by decide)
      (isLowerHex_of_hexDecode (by omega) h), hlength⟩

/-- The bytes of an authority: letters, digits, and what separates labels and the port. -/
def isAuthorityByte (byte : UInt8) : Bool := isAlnum byte || byte = 45 || byte = 46 || byte = 58

theorem all_of_hostLoop
    (h : hostLoop previous labelSize host = some result) : host.all isAuthorityByte = true := by
  induction host generalizing previous labelSize with
  | nil => rfl
  | cons byte rest ih =>
    unfold hostLoop at h
    split at h
    next hdot =>
      split at h
      · cases h
      · rw [List.all_cons, ih h, hdot]
        rfl
    next =>
      split at h
      · cases h
      next hbyte =>
        split at h
        · cases h
        · rw [List.all_cons, ih h, Bool.and_true]
          simp only [not_and, not_not] at hbyte
          cases halnum : isAlnum byte with
          | true => simp [isAuthorityByte, halnum]
          | false => simp [isAuthorityByte, hbyte halnum]

theorem all_of_hostValid (h : hostValid host = true) :
    host.all isAuthorityByte = true := by grind [hostValid, all_of_hostLoop]

theorem all_of_portLoop
    (h : portLoop port digits = some result) : digits.all isAuthorityByte = true := by
  induction digits generalizing port with
  | nil => rfl
  | cons byte rest ih =>
    unfold portLoop at h
    split at h
    · cases h
    next hbyte =>
      dsimp only at h
      split at h
      · cases h
      · rw [List.all_cons, ih h, Bool.and_true]
        have hdigit : isDigit byte = true := by simpa using hbyte
        simp [isAuthorityByte, isAlnum, hdigit]

/-- The part of a URL between the scheme and the path. -/
def authorityOf (url : List UInt8) : List UInt8 := (url.drop 8).takeWhile (· ≠ 47)

/-- The path of a URL. -/
def pathOf (url : List UInt8) : List UInt8 := (url.drop 8).dropWhile (· ≠ 47)

/-- What is checked of a URL when no authority is given. -/
structure UrlChecked (url : List UInt8) : Prop where
  scheme : url.take 8 = bytesOf "https://"
  path : pathOf url ≠ [] ∧ (pathOf url).length ≠ 1
  authority : authorityOf url ≠ [] ∧ (authorityOf url).length ≤ authorityMax
  clean : 64 ∉ authorityOf url ∧ 92 ∉ authorityOf url ∧ 63 ∉ pathOf url ∧ 35 ∉ pathOf url
  host : hostValid ((authorityOf url).takeWhile (· ≠ 58)) = true
  port : (authorityOf url).dropWhile (· ≠ 58) ≠ [] →
    portValid ((authorityOf url).dropWhile (· ≠ 58)).tail = true
  visible : (pathOf url).all (fun byte => 32 < byte && byte < 127 && byte ≠ 92) = true

theorem urlHasAuthority_iff : urlHasAuthority url none = true ↔ UrlChecked url.bytes := by
  constructor
  · intro h
    unfold urlHasAuthority at h
    split at h
    · cases h
    next hscheme =>
      dsimp only at h
      split at h
      · cases h
      next hparts =>
        split at h
        · cases h
        next hclean =>
          split at h
          · cases h
          next hauthority =>
            split at h
            · cases h
            next hvisible =>
              simp only [not_or, not_and, not_not, not_lt] at hscheme hparts hclean hauthority hvisible
              obtain ⟨hpath, hnonempty, hslash⟩ := hparts
              exact ⟨hscheme, ⟨hpath, hslash⟩, ⟨hnonempty, hclean.1⟩, hclean.2, hauthority.1,
                hauthority.2, hvisible⟩
  · rintro ⟨hscheme, hpath, hauthority, hclean, hhost, hport, hvisible⟩
    have hparts : ¬ (pathOf url.bytes = [] ∨ authorityOf url.bytes = [] ∨
        (pathOf url.bytes).length = 1) := by grind
    have hwithin : ¬ (authorityMax < (authorityOf url.bytes).length ∨ 64 ∈ authorityOf url.bytes ∨
        92 ∈ authorityOf url.bytes ∨ 63 ∈ pathOf url.bytes ∨ 35 ∈ pathOf url.bytes) := by grind
    have hname : ¬ (¬ hostValid ((authorityOf url.bytes).takeWhile (· ≠ 58)) = true ∨
        (authorityOf url.bytes).dropWhile (· ≠ 58) ≠ [] ∧
          ¬ portValid ((authorityOf url.bytes).dropWhile (· ≠ 58)).tail = true) := by grind
    unfold urlHasAuthority
    rw [if_neg (not_not.mpr hscheme)]
    exact (if_neg hparts).trans ((if_neg hwithin).trans ((if_neg hname).trans
      (if_neg (not_not.mpr hvisible))))

theorem UrlChecked.all_authority {url : List UInt8} (h : UrlChecked url) :
    (authorityOf url).all isAuthorityByte = true := by
  have hhost := all_of_hostValid h.host
  have hport : ((authorityOf url).dropWhile (· ≠ 58)).all isAuthorityByte = true := by
    have hvalid := h.port
    have hcolon := List.head?_dropWhile_not (fun byte : UInt8 => decide (byte ≠ 58)) (authorityOf url)
    generalize (authorityOf url).dropWhile (· ≠ 58) = suffix at hvalid hcolon ⊢
    cases suffix with
    | nil => rfl
    | cons colon digits =>
      have hdigits := hvalid (List.cons_ne_nil _ _)
      simp only [portValid, List.tail_cons, Bool.and_eq_true] at hdigits
      have hcolon : colon = 58 := by simpa using hcolon
      cases hloop : portLoop 0 digits with
      | none => simp [hloop] at hdigits
      | some port =>
        rw [List.all_cons, all_of_portLoop hloop, hcolon]
        rfl
  rw [← List.takeWhile_append_dropWhile (p := (· ≠ 58)) (l := authorityOf url), List.all_append, hhost,
    hport]
  rfl

theorem UrlChecked.notMem {url : List UInt8} {byte : UInt8} (h : UrlChecked url)
    (hscheme : byte ∉ bytesOf "https://") (hauthority : isAuthorityByte byte = false)
    (hpath : byte ∉ pathOf url) : byte ∉ url := by
  rw [← List.take_append_drop 8 url, h.scheme,
    ← List.takeWhile_append_dropWhile (p := (· ≠ 47)) (l := url.drop 8)]
  simp only [List.mem_append, not_or]
  exact ⟨hscheme, notMem_of_all hauthority h.all_authority, hpath⟩

theorem newline_notMem_of_urlHasAuthority (h : urlHasAuthority url none = true) : 10 ∉ url.bytes := by
  have hchecked := urlHasAuthority_iff.mp h
  exact hchecked.notMem (by decide +kernel) (by decide) (notMem_of_all (by decide) hchecked.visible)

end Lines

/-! ## The canonical text -/

section Canonical

variable {manifest first second : Manifest}

theorem formatNat_bytes (n : ℕ) :
    10 ∉ utf8 (formatNat n) ∧ (utf8 (formatNat n)).length = (formatNat n).length := by
  have hascii : ∀ c ∈ formatNat n, c.toNat < 128 := fun c hc =>
    ascii_of_isDigit (isDigit_of_mem_formatNat hc)
  refine ⟨fun hmem => ?_, byteLength_of_ascii hascii⟩
  obtain ⟨c, hc, hbyte⟩ := List.mem_flatMap.mp hmem
  obtain ⟨m, hm, rfl⟩ : ∃ m < 10, c = Nat.digitChar m := by
    obtain ⟨hlt, hchar⟩ := digitChar_of_isDigit (isDigit_of_mem_formatNat hc)
    exact ⟨_, hlt, hchar.symm⟩
  revert hbyte
  interval_cases m <;> decide +kernel

theorem formatNat_bytes_injective (h : utf8 (formatNat m) = utf8 (formatNat n)) : m = n := by
  grind [decodeRunes, decodeRunes_utf8, parseNat, parseNat_formatNat, Option.some.inj]

theorem newline_notMem_line (hname : 10 ∉ bytesOf name)
    (hvalue : 10 ∉ value) : 10 ∉ line name value := by grind [line]

theorem newline_notMem_canonicalLines (h : Checked manifest) :
    ∀ text ∈ canonicalLines manifest, 10 ∉ text := by
  intro text htext
  simp only [canonicalLines, List.mem_cons, List.not_mem_nil, or_false] at htext
  rcases htext with rfl | rfl | rfl | rfl | rfl | rfl | rfl | rfl | rfl | rfl | rfl | rfl | rfl | rfl |
    rfl | rfl | rfl
  any_goals refine newline_notMem_line (by decide +kernel) ?_
  · decide +kernel
  · exact (identifierValid_spec h.board).1
  · exact (identifierValid_spec h.channel).1
  · exact (formatNat_bytes _).1
  · exact (sha256HexDecode_spec h.imageSHA256).1
  · exact (formatNat_bytes _).1
  · exact (newline_notMem_of_urlHasAuthority h.imageURL)
  · exact (formatNat_bytes _).1
  · exact (identifierValid_spec h.project).1
  · exact (identifierValid_spec h.releaseID).1
  · exact (formatNat_bytes _).1
  · exact (sha256HexDecode_spec h.resetQualificationSHA256).1
  · exact (formatNat_bytes _).1
  · exact (formatNat_bytes _).1
  · decide +kernel
  · exact (identifierValid_spec h.signingKeyID).1
  · exact (versionValid_spec h.version).1

/-- Everything that the signature covers is in the text. -/
theorem canonicalText_injective (hfirst : Checked first) (hsecond : Checked second)
    (h : canonicalText first = canonicalText second) :
    { first with signature := second.signature } = second := by
  have hlines : canonicalLines first = canonicalLines second :=
    flatMap_separator_injective rfl (newline_notMem_canonicalLines hfirst) h
  simp only [canonicalLines, line, List.cons.injEq, List.append_cancel_left_eq, true_and, and_true]
    at hlines
  obtain ⟨hboard, hchannel, hexpires, hsha, hsize, hurl, hnotBefore, hproject, hrelease, hsequence,
    hreset, hschema, hsecure, hsigning, hversion⟩ := hlines
  have hshaHex := CString.ext hsha
  have hresetHex := CString.ext hreset
  have hshaBytes := hfirst.imageSHA256.symm.trans (hshaHex ▸ hsecond.imageSHA256)
  have hresetBytes :=
    hfirst.resetQualificationSHA256.symm.trans (hresetHex ▸ hsecond.resetQualificationSHA256)
  obtain ⟨⟩ := second
  simp only [Manifest.mk.injEq]
  exact ⟨formatNat_bytes_injective hschema, CString.ext hrelease, CString.ext hproject,
    CString.ext hboard, CString.ext hchannel, CString.ext hversion,
    formatNat_bytes_injective hsequence, formatNat_bytes_injective hsecure, CString.ext hurl,
    formatNat_bytes_injective hsize, hshaHex, Option.some.inj hshaBytes, hresetHex,
    Option.some.inj hresetBytes, formatNat_bytes_injective hnotBefore,
    formatNat_bytes_injective hexpires, CString.ext hsigning, trivial⟩

/-- The text of a manifest that was parsed has at most the bytes of the names and of the longest
values. -/
theorem length_canonicalText (h : Checked manifest) :
    (canonicalText manifest).length < canonicalMaxBytes := by
  have hnumber : ∀ {n}, n < 10 ^ 10 → (utf8 (formatNat n)).length ≤ 10 := fun hn => by
    rw [(formatNat_bytes _).2]
    exact length_formatNat_le (by decide) hn
  have hboard := (identifierValid_spec h.board).2
  have hchannel := (identifierValid_spec h.channel).2
  have hexpires := hnumber h.expiresAt
  have hsha := (sha256HexDecode_spec h.imageSHA256).2
  have hsize := hnumber h.imageSize
  have hurl := h.imageURLLength
  have hnotBefore := hnumber h.notBefore
  have hproject := (identifierValid_spec h.project).2
  have hrelease := (identifierValid_spec h.releaseID).2
  have hsequence := hnumber h.releaseSequence
  have hreset := (sha256HexDecode_spec h.resetQualificationSHA256).2
  have hschema : (utf8 (formatNat manifest.schema)).length ≤ 10 := hnumber (by rw [h.schema]; decide)
  have hsecure := hnumber h.secureVersion
  have hsigning := (identifierValid_spec h.signingKeyID).2
  have hversion := (versionValid_spec h.version).2
  -- The names take as many bytes as in the manifest of zeros.
  have hzero : (canonicalText Manifest.zero).length ≤ 400 := by decide +kernel
  simp only [canonicalText, canonicalLines, line, List.flatMap_cons, List.flatMap_nil,
    List.length_append, List.length_cons, List.length_nil] at hzero ⊢
  rw [canonicalMaxBytes]
  omega

/-- Whatever trees the JSON parser builds: two manifests that were parsed and have the same canonical
text agree on everything that the signature covers, and the canonical text of a manifest that was
parsed fits the buffer. -/
theorem manifest_canonical (cJSON : CJsonParser) :
    (∀ text other manifest otherManifest, manifestParse cJSON text = some manifest →
      manifestParse cJSON other = some otherManifest →
        canonicalText manifest = canonicalText otherManifest →
          { manifest with signature := otherManifest.signature } = otherManifest) ∧
      ∀ text manifest, manifestParse cJSON text = some manifest →
        canonicalize manifest canonicalMaxBytes = some (canonicalText manifest) := by
  refine ⟨fun text other manifest otherManifest hfirst hsecond => ?_, fun text manifest hparse => ?_⟩
  · exact canonicalText_injective (checked_of_manifestParse hfirst) (checked_of_manifestParse hsecond)
  · have hlength := length_canonicalText (checked_of_manifestParse hparse)
    rw [canonicalize, if_neg]
    rw [not_or, not_le]
    exact ⟨by decide, hlength⟩

end Canonical

namespace OtaExample

/-- A C string from a literal. -/
def cString (literal : String) : CString where
  bytes := (bytesOf literal).filter (· ≠ 0)
  nonzero h := by simp at h

def digest : String := "0123456789abcdef0123456789abcdef0123456789abcdef0123456789abcdef"

/-- The tree of a manifest. -/
def root : CJson := .object [
  (cString "schema", .number (some 2)),
  (cString "release_id", .string (cString "release-1")),
  (cString "project", .string (cString "xiaozhi-agent")),
  (cString "board", .string (cString "box3")),
  (cString "channel", .string (cString "stable")),
  (cString "version", .string (cString "1.0.0")),
  (cString "release_sequence", .number (some 7)),
  (cString "secure_version", .number (some 0)),
  (cString "image_url", .string (cString "https://updates.example.com:8443/box3.bin")),
  (cString "image_size", .number (some 2048)),
  (cString "image_sha256", .string (cString digest)),
  (cString "reset_qualification_sha256", .string (cString digest)),
  (cString "not_before", .number (some 1700000000)),
  (cString "expires_at", .number (some 1700003600)),
  (cString "signing_key_id", .string (cString "release-key-1")),
  (cString "signature_algorithm", .string (cString "ECDSA_P256_SHA256")),
  (cString "signature_b64url", .string (cString "AAECAwQFBgcICQoL"))]

end OtaExample

open OtaExample in
theorem manifest_canonical_example : ((manifestParse (fun json => some (root, json.length)) [123,
    125]).map fun manifest => (canonicalize manifest canonicalMaxBytes).isSome) = some true := by
  cases hparse : manifestParse (fun json => some (root, json.length)) [123, 125] with
  | none =>
    have hsome : (manifestParse (fun json => some (root, json.length)) [123, 125]).isSome = true := by
      decide +kernel
    rw [hparse] at hsome
    cases hsome
  | some manifest =>
    rw [Option.map_some, (manifest_canonical _).2 _ manifest hparse]
    rfl

end XiaozhiPlatform.ProductOta
