import XiaozhiPlatform.CLib.Ascii
import XiaozhiPlatform.Provisioning.ProofText

/-!
# The proofs that a device signs

Before the device signs a message, `agent_device_proof_validate_scoped` reads it line by line and
checks every field. The gateway builds the text of a proof with its `Canonical…Proof` functions and
checks the syntax of the headers with its own rules.

- `validateRest_spec`: the lines of a message that the device accepts.
- `eq_of_canonical_eq`: the text of a proof determines its scope and its fields.
- `device_proof_canonical`: a message that the device accepts is the text of exactly one proof.
-/

namespace XiaozhiPlatform.DeviceProof

open GoLib CLib Auth Provisioning

/-! ## Model -/

/-- `agent_device_proof_scope_t`, with the values outside the enumeration in one. -/
inductive Scope where
  | session
  | agentToken
  | otaOffer
  | deviceClaim
  | actionConsentChallenge
  | actionConsentResult
  | other
deriving DecidableEq, Repr

/-- The constant that a message of a scope starts with. -/
def prefixOf : Scope → Option (List UInt8)
  | .session => some (bytesOf "xiaozhi-session-proof-v1\nPOST\n/v1/session\n")
  | .agentToken => some (bytesOf "xiaozhi-agent-token-proof-v1\nPOST\n/v1/agent-token\n")
  | .otaOffer => some (bytesOf "xiaozhi-ota-offer-proof-v1\nPOST\n/v1/ota/offer\n")
  | .deviceClaim => some (bytesOf "xiaozhi-device-claim-proof-v1\nPOST\n/v1/device-claim/device\n")
  | .actionConsentChallenge => some (bytesOf
      ("xiaozhi-action-consent-challenge-proof-v1\nPOST\n" ++
        "/v1/action-consents/device/challenge\n"))
  | .actionConsentResult => some (bytesOf
      ("xiaozhi-action-consent-result-proof-v1\nPOST\n" ++ "/v1/action-consents/device/result\n"))
  | .other => none

/-- The characters of an identifier. -/
def isIdentifierByte (c : UInt8) : Bool :=
  (97 ≤ c && c ≤ 122) || (65 ≤ c && c ≤ 90) || (48 ≤ c && c ≤ 57) || c = 58 || c = 45 || c = 95 ||
    c = 46

/-- `safe_identifier_field`. -/
def safeIdentifierField (value : List UInt8) : Bool :=
  value ≠ [] && value.length ≤ 64 && value.all isIdentifierByte

/-- `agent_device_proof_safe_identifier`, for a string that is not null. -/
def safeIdentifier (value : CString) : Bool := safeIdentifierField value.bytes

/-- `field`: the bytes up to the next line feed and those after it. -/
def field (cursor : List UInt8) : Option (List UInt8 × List UInt8) :=
  match cursor.dropWhile (· ≠ 10) with
  | [] => none
  | _ :: rest =>
    let value := cursor.takeWhile (· ≠ 10)
    if value = [] then none else some (value, rest)

def isVersionByte (c : UInt8) : Bool :=
  (97 ≤ c && c ≤ 122) || (65 ≤ c && c ≤ 90) || (48 ≤ c && c ≤ 57) || c = 46 || c = 43 || c = 45 ||
    c = 95

/-- `safe_version_field`. -/
def safeVersionField (value : List UInt8) : Bool :=
  value ≠ [] && value.length ≤ 32 && value.all isVersionByte

/-- The loop over the digits of a number. The test before each step keeps the number below a
maximum, so nothing overflows. -/
def digits (maximum parsed : ℕ) : List UInt8 → Option ℕ
  | [] => some parsed
  | c :: rest =>
    if c < 48 ∨ 57 < c ∨ (maximum - (c.toNat - 48)) / 10 < parsed then none
    else digits maximum (parsed * 10 + (c.toNat - 48)) rest

/-- The number in at most ten digits without a leading zero. -/
def number (maximum : ℕ) : List UInt8 → Option ℕ
  | [] => none
  | first :: rest =>
    if 10 < (first :: rest).length ∨ first < 49 ∨ 57 < first then none
    else digits maximum 0 (first :: rest)

/-- `release_sequence_field`. -/
def releaseSequenceField (value : List UInt8) : Bool :=
  match number (2 ^ 31 - 1) value with
  | none => false
  | some sequence => 0 < sequence && sequence ≤ 2 ^ 31 - 1

def minimumUnixTime : ℕ := 1609459200

def maximumUnixTime : ℕ := 4102444800

/-- `parse_timestamp`. -/
def parseTimestamp (value : List UInt8) : Option ℕ :=
  match number (2 ^ 63 - 1) value with
  | none => none
  | some parsed => if parsed < minimumUnixTime ∨ maximumUnixTime < parsed then none else some parsed

/-- `base64url_value`. -/
def base64urlValue (value : UInt8) : ℤ :=
  if 65 ≤ value ∧ value ≤ 90 then value.toNat - 65
  else if 97 ≤ value ∧ value ≤ 122 then value.toNat - 97 + 26
  else if 48 ≤ value ∧ value ≤ 57 then value.toNat - 48 + 52
  else if value = 45 then 62
  else if value = 95 then 63
  else -1

/-- The loop of the two checks of base64: a number of symbols, with no bit of a mask in the last. -/
def canonicalBase64 (size mask : ℕ) (value : List UInt8) : Bool :=
  value.length = size &&
    value.zipIdx.all fun (byte, index) =>
      let decoded := base64urlValue byte
      !(decoded < 0 || (index = size - 1 && decoded.toNat &&& mask ≠ 0))

/-- `canonical_nonce`. -/
def canonicalNonce (value : List UInt8) : Bool := canonicalBase64 22 0x0f value

/-- `canonical_device_claim`. -/
def canonicalDeviceClaim (value : List UInt8) : Bool := canonicalBase64 43 0x03 value

/-- `canonical_sha256`. -/
def canonicalSHA256 (value : List UInt8) : Bool :=
  value.length = 64 && value.all fun c => !((c < 48 || 57 < c) && (c < 97 || 102 < c))

/-- The three fields that every message has, with what is left and the timestamp. -/
def readCommon (expectedDeviceID : CString) (cursor : List UInt8) : Option (List UInt8 × ℕ) := do
  let (device, cursor) ← field cursor
  let (client, cursor) ← field cursor
  let (time, cursor) ← field cursor
  guard (cursor ≠ [] ∧ device = expectedDeviceID.bytes ∧ safeIdentifierField client = true)
  let timestamp ← parseTimestamp time
  return (cursor, timestamp)

/-- A nonce, and a last field that passes a check. -/
def nonceThen (last : List UInt8 → Bool) (cursor : List UInt8) : Bool :=
  match field cursor with
  | none => false
  | some (nonce, cursor) => cursor ≠ [] && canonicalNonce nonce && last cursor

/-- The fields of an OTA offer. -/
def readOffer (cursor : List UInt8) : Option Unit := do
  let (nonce, cursor) ← field cursor
  let (board, cursor) ← field cursor
  let (channel, cursor) ← field cursor
  let (sequence, cursor) ← field cursor
  guard (cursor ≠ [] ∧ canonicalNonce nonce = true ∧ safeIdentifierField board = true ∧
    board.length ≤ 32 ∧ safeIdentifierField channel = true ∧ channel.length ≤ 32 ∧
    releaseSequenceField sequence = true ∧ safeVersionField cursor = true)

/-- The fields that depend on the scope. -/
def validateRest (scope : Scope) (cursor : List UInt8) : Bool :=
  match scope with
  | .session => canonicalNonce cursor
  | .agentToken => canonicalNonce cursor
  | .deviceClaim => nonceThen canonicalDeviceClaim cursor
  | .actionConsentChallenge => nonceThen canonicalSHA256 cursor
  | .actionConsentResult => nonceThen canonicalSHA256 cursor
  | .otaOffer => (readOffer cursor).isSome
  | .other => (readOffer cursor).isSome

/-- `agent_device_proof_validate_scoped`, with what `timestamp` points at afterwards. A pointer that
may be null is an `Option`. -/
def validateScoped (message : Option (List UInt8)) (expectedDeviceID : Option CString) (scope : Scope)
    (timestamp : Option ℕ) : Bool × Option ℕ :=
  match message, timestamp, expectedDeviceID, prefixOf scope with
  | some message, some _, some expectedDeviceID, some start =>
    if ¬ safeIdentifier expectedDeviceID = true ∨ message.length ≤ start.length ∨
        message.take start.length ≠ start then (false, timestamp)
    else
      match readCommon expectedDeviceID (message.drop start.length) with
      | none => (false, timestamp)
      | some (cursor, parsed) => (validateRest scope cursor, some parsed)
  | _, _, _, _ => (false, timestamp)

/-! ## Fields -/

section Fields

variable {cursor value rest : List UInt8} {maximum parsed n : ℕ}

/-- The text of a field. -/
def str (value : List UInt8) : String := String.ofList (text value)

/-- A field of one line in ASCII. -/
def Plain (value : List UInt8) : Prop := ∀ byte ∈ value, byte < 128 ∧ byte ≠ 10

theorem toList_str (value : List UInt8) : (str value).toList = text value := String.toList_ofList

theorem Plain.utf8_str (h : Plain value) : utf8 (str value).toList = value := by
  rw [toList_str]
  exact utf8_text fun byte hbyte => (h byte hbyte).1

theorem Plain.byteLength_str (h : Plain value) : byteLength (str value).toList = value.length := by
  rw [byteLength, h.utf8_str]

theorem str_ne_empty (h : value ≠ []) : str value ≠ "" := by
  intro heq
  have htext := congrArg String.toList heq
  rw [toList_str] at htext
  exact h (List.map_eq_nil_iff.mp htext)

theorem field_eq_some (h : field cursor = some (value, rest)) : cursor = value ++ 10 :: rest := by
  unfold field at h
  split at h
  · cases h
  next newline tail hdrop => grind [List.head?_dropWhile_not, List.takeWhile_append_dropWhile]

theorem plain_of_all {check : UInt8 → Bool} {gateway : Char → Bool} (hcheck : ∀ byte, check byte =
    true → (byte < 128 ∧ byte ≠ 10) ∧ gateway (charOf byte) = true) (h : value.all check = true) :
    Plain value ∧ ∀ c ∈ (str value).toList, gateway c = true := by
  rw [List.all_eq_true] at h
  refine ⟨fun byte hbyte => (hcheck byte (h byte hbyte)).1, fun c hc => ?_⟩
  rw [toList_str] at hc
  obtain ⟨byte, hbyte, rfl⟩ := List.mem_map.mp hc
  exact (hcheck byte (h byte hbyte)).2

/-- What every byte class of the component says about the byte as a character. -/
theorem byteClass_spec : ∀ byte : UInt8,
    (isIdentifierByte byte = true →
      (byte < 128 ∧ byte ≠ 10) ∧ isIdentifierChar (charOf byte) = true) ∧
    (isVersionByte byte = true → (byte < 128 ∧ byte ≠ 10) ∧ isVersionChar (charOf byte) = true) ∧
    (isDigit byte = true → (byte < 128 ∧ byte ≠ 10) ∧ (charOf byte).isDigit = true) ∧
    ((!((byte < 48 || 57 < byte) && (byte < 97 || 102 < byte))) = true →
      (byte < 128 ∧ byte ≠ 10) ∧ isLowerHex (charOf byte) = true) ∧
    (0 ≤ base64urlValue byte → (byte < 128 ∧ byte ≠ 10) ∧ (base64urlValue byte).toNat < 64 ∧
      charOf byte = Base64.symbol (base64urlValue byte).toNat) ∧
    (charOf byte).toNat = byte.toNat ∧ (49 ≤ byte → byte < 128 → charOf byte ≠ '0') :=
  forall_byte (by decide +kernel)

theorem safeIdentifierField_spec (h : safeIdentifierField value = true) :
    Plain value ∧ ∀ {max}, value.length ≤ max → ValidIdentifier (str value) max := by
  simp only [safeIdentifierField, Bool.and_eq_true, decide_eq_true_eq] at h
  obtain ⟨⟨hne, -⟩, hall⟩ := h
  obtain ⟨hplain, hchars⟩ := plain_of_all (fun byte => (byteClass_spec byte).1) hall
  refine ⟨hplain, fun hlength => ⟨str_ne_empty hne, ?_, hchars⟩⟩
  rwa [hplain.byteLength_str]

theorem safeIdentifierField_length (h : safeIdentifierField value = true) : value.length ≤ 64 := by
  grind [safeIdentifierField]

theorem safeVersionField_spec (h : safeVersionField value = true) :
    Plain value ∧ ValidVersion (str value) := by
  simp only [safeVersionField, Bool.and_eq_true, decide_eq_true_eq] at h
  obtain ⟨⟨hne, hlength⟩, hall⟩ := h
  obtain ⟨hplain, hchars⟩ := plain_of_all (fun byte => (byteClass_spec byte).2.1) hall
  refine ⟨hplain, str_ne_empty hne, ?_, hchars⟩
  rwa [hplain.byteLength_str]

theorem digits_spec (hmaximum : 9 ≤ maximum) (hparsed : parsed ≤ maximum) (h : digits maximum parsed
    value = some n) : (∀ byte ∈ value, isDigit byte = true) ∧ n = Nat.ofDigitChars 10 (text value)
    parsed ∧ n ≤ maximum := by
  induction value generalizing parsed with
  | nil =>
    cases h
    exact ⟨nofun, rfl, hparsed⟩
  | cons c rest ih =>
    unfold digits at h
    split at h
    · cases h
    next hc =>
      simp only [not_or, UInt8.not_lt, Nat.not_lt] at hc
      obtain ⟨hlow, hhigh, hroom⟩ := hc
      have hd : c.toNat - 48 < 10 := by grind [UInt8.le_iff_toNat_le]
      obtain ⟨hrest, hvalue, hn⟩ := ih (by omega) h
      have hchar : (charOf c).toNat - '0'.toNat = c.toNat - 48 := by
        rw [(byteClass_spec c).2.2.2.2.2.1]
        rfl
      refine ⟨?_, ?_, hn⟩
      · intro byte hbyte
        rcases List.mem_cons.mp hbyte with rfl | hbyte
        · simp [isDigit, hlow, hhigh]
        · exact hrest byte hbyte
      · grind [text, charOf, Nat.ofDigitChars_cons, Nat.mul_comm]

theorem number_spec (hmaximum : 9 ≤ maximum) (h : number maximum value = some n) :
    Plain value ∧ formatNat n = (str value).toList ∧ 0 < n ∧ n ≤ maximum := by
  unfold number at h
  split at h
  · cases h
  next first rest =>
    split at h
    · cases h
    next hfirst =>
      simp only [not_or, UInt8.not_lt] at hfirst
      obtain ⟨-, hlow, -⟩ := hfirst
      obtain ⟨hdigits, rfl, hn⟩ := digits_spec hmaximum (Nat.zero_le maximum) h
      obtain ⟨hplain, hchars⟩ := plain_of_all (fun byte => (byteClass_spec byte).2.2.1)
        (List.all_eq_true.mpr hdigits)
      obtain ⟨-, -, -, -, -, -, hnonzero⟩ := byteClass_spec first
      rw [toList_str] at hchars
      obtain ⟨hformat, hpos⟩ := formatNat_ofDigitChars
        (hnonzero hlow (hplain first List.mem_cons_self).1) hchars
      exact ⟨hplain, by rw [toList_str]; exact hformat, hpos, hn⟩

theorem releaseSequenceField_spec (h : releaseSequenceField value = true) :
    Plain value ∧ ValidReleaseSequence (str value) := by
  unfold releaseSequenceField at h
  split at h
  · cases h
  next sequence hnumber =>
    obtain ⟨hplain, hformat, hpos, hle⟩ := number_spec (by decide) hnumber
    exact ⟨hplain, exists_parseUint_iff.mpr ⟨sequence, by omega, by omega, hformat⟩⟩

theorem parseTimestamp_spec (h : parseTimestamp value = some n) :
    Plain value ∧ ValidTimestamp (str value) := by
  unfold parseTimestamp at h
  split at h
  · cases h
  next parsed hnumber =>
    obtain ⟨hplain, hformat, hpos, hle⟩ := number_spec (by decide) hnumber
    refine ⟨hplain, exists_parseInt64_iff.mpr ⟨parsed, by omega, by omega, by omega, ?_⟩⟩
    rw [formatInt, if_neg (by omega)]
    exact hformat

/-- The values of the symbols of a field. -/
def symbolValues (value : List UInt8) : List ℕ := value.map fun byte => (base64urlValue byte).toNat

/-- The symbols of a field that passes are those of the gateway, and the last one has no bit of the
mask. -/
theorem canonicalBase64_spec (bits : ℕ) (h : canonicalBase64 size (2 ^ bits - 1) value =
    true) : Plain value ∧ value.length = size ∧ (∀ v ∈ symbolValues value, v < 64) ∧ text value =
    (symbolValues value).map Base64.symbol ∧ ∀ v ∈ (symbolValues value)[size - 1]?, v % 2 ^ bits = 0
    := by
  simp only [canonicalBase64, Bool.and_eq_true, decide_eq_true_eq, List.all_eq_true] at h
  obtain ⟨hlength, hall⟩ := h
  have hat : ∀ index byte, value[index]? = some byte → 0 ≤ base64urlValue byte ∧
      (index = size - 1 → (base64urlValue byte).toNat % 2 ^ bits = 0) := by
    intro index byte hbyte
    have hchecked := hall (byte, index) (List.mem_zipIdx_iff_getElem?.mpr hbyte)
    simp only [Bool.not_eq_eq_eq_not, Bool.not_true, Bool.or_eq_false_iff, decide_eq_false_iff_not,
      Bool.and_eq_false_imp, decide_eq_true_eq, not_not, not_lt, Nat.and_two_pow_sub_one_eq_mod]
      at hchecked
    exact hchecked
  have hsymbol : ∀ byte ∈ value, 0 ≤ base64urlValue byte := by grind [List.mem_iff_getElem?]
  have htable := fun byte => (byteClass_spec byte).2.2.2.2.1
  refine ⟨fun byte hbyte => (htable byte (hsymbol byte hbyte)).1, hlength, ?_, ?_, ?_⟩
  · intro v hv
    obtain ⟨byte, hbyte, rfl⟩ := List.mem_map.mp hv
    exact (htable byte (hsymbol byte hbyte)).2.1
  · rw [text, symbolValues, List.map_map]
    exact List.map_congr_left fun byte hbyte => (htable byte (hsymbol byte hbyte)).2.2
  · intro v hv
    rw [symbolValues, List.getElem?_map] at hv
    obtain ⟨byte, hbyte, rfl⟩ := Option.map_eq_some_iff.mp hv
    exact (hat (size - 1) byte hbyte).2 rfl

theorem exists_encode_eq (hsmall : ∀ v ∈ symbolValues value, v < 64) (htext : text value =
    (symbolValues value).map Base64.symbol) (hpacked : Base64.Packed (symbolValues value)) : ∃
    bytes, Base64.encodeToString bytes = str value ∧ value.length = (bytes.length * 4 + 2) / 3 := by
  obtain ⟨bytes, hbytes⟩ := Base64.exists_values_eq hsmall hpacked
  have hencode : Base64.encode bytes = text value := by rw [Base64.encode_eq_map, hbytes, htext]
  refine ⟨bytes, congrArg String.ofList hencode, ?_⟩
  rw [← Base64.length_encode, hencode, text, List.length_map]

theorem canonicalNonce_spec (h : canonicalNonce value = true) :
    Plain value ∧ ValidNonce (str value) := by
  obtain ⟨hplain, hlength, hsmall, htext, hlast⟩ := canonicalBase64_spec 4 h
  have hcount : (symbolValues value).length = 4 * 5 + 2 := by
    rw [symbolValues, List.length_map, hlength]
  obtain ⟨bytes, hencode, hsize⟩ :=
    exists_encode_eq hsmall htext (Base64.packed_of_length_two 5 hcount hlast)
  refine ⟨hplain, bytes, ?_, by omega, by omega, hencode⟩
  rw [← hencode, Base64.encodeToString, String.toList_ofList, Base64.decode_encode,
    Option.mem_some_iff]

theorem canonicalDeviceClaim_spec (h : canonicalDeviceClaim value = true) :
    Plain value ∧ Base64.Canonical (str value) 32 := by
  obtain ⟨hplain, hlength, hsmall, htext, hlast⟩ := canonicalBase64_spec 2 h
  have hcount : (symbolValues value).length = 4 * 10 + 3 := by
    rw [symbolValues, List.length_map, hlength]
  obtain ⟨bytes, hencode, hsize⟩ :=
    exists_encode_eq hsmall htext (Base64.packed_of_length_three 10 hcount hlast)
  exact ⟨hplain, Base64.canonical_iff.mpr ⟨bytes, by omega, hencode⟩⟩

theorem canonicalSHA256_spec (h : canonicalSHA256 value = true) :
    Plain value ∧ ValidSHA256 (str value) := by
  simp only [canonicalSHA256, Bool.and_eq_true, decide_eq_true_eq] at h
  obtain ⟨hlength, hall⟩ := h
  obtain ⟨hplain, hchars⟩ := plain_of_all (fun byte => (byteClass_spec byte).2.2.2.1) hall
  refine ⟨hplain, ?_, hchars⟩
  rwa [hplain.byteLength_str]

end Fields

/-! ## Messages -/

/-- The scope of the gateway. -/
def Scope.gateway : Scope → Option ProofScope
  | .session => some .session
  | .agentToken => some .agentToken
  | .otaOffer => some .otaOffer
  | .deviceClaim => some .deviceClaim
  | .actionConsentChallenge => some .actionConsentChallenge
  | .actionConsentResult => some .actionConsentResult
  | .other => none

section Messages

variable {message cursor : List UInt8} {expectedDeviceID : CString} {scope : Scope}
  {gatewayScope : ProofScope} {n : ℕ}

theorem prefixOf_eq (h : scope.gateway = some gatewayScope) :
    prefixOf scope = some (utf8 (proofDomain gatewayScope).toList ++ 10 :: (utf8 "POST".toList ++
      10 :: (utf8 (proofPath gatewayScope).toList ++ [10]))) := by
  cases scope <;> cases h <;> decide +kernel

theorem readCommon_spec (h : readCommon expectedDeviceID cursor = some (message, n)) (hexpected :
    safeIdentifier expectedDeviceID = true) : ∃ device client time, cursor = device ++ 10 :: (client
    ++ 10 :: (time ++ 10 :: message)) ∧ (Plain device ∧ ValidIdentifier (str device) 64) ∧ (Plain
    client ∧ ValidIdentifier (str client) 64) ∧ Plain time ∧ ValidTimestamp (str time) := by
  simp only [readCommon, Option.bind_eq_bind, Option.bind_eq_some_iff, Option.guard_eq_some',
    exists_const] at h
  obtain ⟨⟨device, afterDevice⟩, hdevice, ⟨client, afterClient⟩, hclient, ⟨time, afterTime⟩, htime,
    ⟨-, rfl, hsafe⟩, timestamp, hparsed, h⟩ := h
  cases h
  dsimp only at hclient htime hsafe hparsed ⊢
  refine ⟨expectedDeviceID.bytes, client, time, ?_, ?_, ?_, parseTimestamp_spec hparsed⟩
  · grind [field_eq_some]
  · obtain ⟨hplain, hvalid⟩ := safeIdentifierField_spec hexpected
    exact ⟨hplain, hvalid (safeIdentifierField_length hexpected)⟩
  · grind [safeIdentifierField_spec, safeIdentifierField_length]

theorem nonceThen_spec {last : List UInt8 → Bool} (h : nonceThen last cursor = true) : ∃ nonce rest,
    cursor = nonce ++ 10 :: rest ∧ (Plain nonce ∧ ValidNonce (str nonce)) ∧ last rest = true := by
  unfold nonceThen at h
  split at h
  · cases h
  next nonce rest hfield =>
    simp only [Bool.and_eq_true, decide_eq_true_eq] at h
    exact ⟨nonce, rest, field_eq_some hfield, canonicalNonce_spec h.1.2, h.2⟩

theorem utf8_intercalate (lines : List String) :
    utf8 ("\n".intercalate lines).toList = [10].intercalate (lines.map bytesOf) := by
  rw [String.toList_intercalate]
  induction lines with
  | nil => rfl
  | cons line lines ih =>
    cases lines with
    | nil => simp [bytesOf]
    | cons next rest =>
      simp only [List.map_cons, List.intercalate_cons_cons, utf8_append] at ih ⊢
      rw [ih]
      rfl

theorem readOffer_spec (h : (readOffer cursor).isSome = true) : ∃ nonce board channel sequence
    version, cursor = nonce ++ 10 :: (board ++ 10 :: (channel ++ 10 :: (sequence ++ 10 :: version)))
    ∧ (Plain nonce ∧ ValidNonce (str nonce)) ∧ (Plain board ∧ ValidIdentifier (str board) 32) ∧
    (Plain channel ∧ ValidIdentifier (str channel) 32) ∧ (Plain sequence ∧ ValidReleaseSequence (str
    sequence)) ∧ Plain version ∧ ValidVersion (str version) := by
  obtain ⟨⟨⟩, h⟩ := Option.isSome_iff_exists.mp h
  simp only [readOffer, Option.bind_eq_bind, Option.bind_eq_some_iff, Option.guard_eq_some'] at h
  obtain ⟨⟨nonce, afterNonce⟩, hnonce, ⟨board, afterBoard⟩, hboard, ⟨channel, afterChannel⟩, hchannel,
    ⟨sequence, version⟩, hsequence, -, hnonceOk, hboardOk, hboardSize, hchannelOk, hchannelSize,
    hsequenceOk, hversionOk⟩ := h
  dsimp only at hboard hchannel hsequence hnonceOk hboardOk hboardSize hchannelOk hchannelSize
  dsimp only at hsequenceOk hversionOk
  obtain ⟨hboardPlain, hboardValid⟩ := safeIdentifierField_spec hboardOk
  obtain ⟨hchannelPlain, hchannelValid⟩ := safeIdentifierField_spec hchannelOk
  refine ⟨nonce, board, channel, sequence, version, ?_, canonicalNonce_spec hnonceOk,
    ⟨hboardPlain, hboardValid hboardSize⟩, ⟨hchannelPlain, hchannelValid hchannelSize⟩,
    releaseSequenceField_spec hsequenceOk, safeVersionField_spec hversionOk⟩
  rw [field_eq_some hnonce, field_eq_some hboard, field_eq_some hchannel, field_eq_some hsequence]

theorem Plain.bytesOf_str (h : Plain value) : bytesOf (str value) = value :=
  h.utf8_str

theorem validateRest_spec (hgateway : scope.gateway = some gatewayScope) (h : validateRest scope
    cursor = true) (device client time : String) : ∃ fields : Fields, fields.deviceID = device ∧
    fields.clientID = client ∧ fields.timestamp = time ∧ ValidNonce fields.nonce ∧ ValidScoped
    gatewayScope fields ∧ fields.restrict gatewayScope = fields ∧ cursor = [10].intercalate
    ((fields.nonce :: scopeLines gatewayScope fields).map bytesOf) := by
  have hlast : ∀ {value : List UInt8}, Plain value → [10].intercalate ([str value].map bytesOf) = value := by
    intro value hplain
    rw [List.map_singleton, List.intercalate_singleton, hplain.bytesOf_str]
  have hnext : ∀ {value : List UInt8} {line : String} {lines : List String}, Plain value →
      [10].intercalate ((str value :: line :: lines).map bytesOf) =
        value ++ 10 :: [10].intercalate ((line :: lines).map bytesOf) := by
    intro value line lines hplain
    rw [List.map_cons, List.map_cons, List.intercalate_cons_cons, hplain.bytesOf_str, List.append_assoc]
    rfl
  cases scope with
  | other => cases hgateway
  | session | agentToken =>
    cases hgateway
    obtain ⟨hplain, hnonce⟩ := canonicalNonce_spec h
    exact ⟨⟨device, client, time, str cursor, "", "", "", "", "", ""⟩, rfl, rfl, rfl, hnonce, trivial,
      rfl, (hlast hplain).symm⟩
  | deviceClaim =>
    cases hgateway
    obtain ⟨nonce, claim, rfl, ⟨hplain, hnonce⟩, hclaim⟩ := nonceThen_spec h
    obtain ⟨hclaimPlain, hcanonical⟩ := canonicalDeviceClaim_spec hclaim
    refine ⟨⟨device, client, time, str nonce, "", "", "", "", str claim, ""⟩, rfl, rfl, rfl, hnonce,
      hcanonical, rfl, ?_⟩
    exact ((hnext hplain).trans (by rw [hlast hclaimPlain])).symm
  | actionConsentChallenge | actionConsentResult =>
    cases hgateway
    obtain ⟨nonce, sha, rfl, ⟨hplain, hnonce⟩, hsha⟩ := nonceThen_spec h
    obtain ⟨hshaPlain, hvalid⟩ := canonicalSHA256_spec hsha
    refine ⟨⟨device, client, time, str nonce, "", "", "", "", "", str sha⟩, rfl, rfl, rfl, hnonce,
      hvalid, rfl, ?_⟩
    exact ((hnext hplain).trans (by rw [hlast hshaPlain])).symm
  | otaOffer =>
    cases hgateway
    obtain ⟨nonce, board, channel, sequence, version, rfl, ⟨hplain, hnonce⟩, ⟨hboardPlain, hboard⟩,
      ⟨hchannelPlain, hchannel⟩, ⟨hsequencePlain, hsequence⟩, hversionPlain, hversion⟩ :=
      readOffer_spec h
    refine ⟨⟨device, client, time, str nonce, str board, str channel, str sequence, str version, "",
      ""⟩, rfl, rfl, rfl, hnonce, ⟨hboard, hchannel, hversion, hsequence⟩, rfl, ?_⟩
    simp only [scopeLines]
    rw [hnext hplain, hnext hboardPlain, hnext hchannelPlain, hnext hsequencePlain,
      hlast hversionPlain]

theorem exists_canonical (h : (validateScoped pointer device scope timestamp).1 = true) : ∃ message
    gatewayScope fields, pointer = some message ∧ scope.gateway = some gatewayScope ∧ Fields.Valid
    gatewayScope fields ∧ message = utf8 (canonical gatewayScope fields).toList := by
  unfold validateScoped at h
  split at h
  next message old expectedDeviceID start hprefix =>
    split at h
    · cases h
    next hstart =>
      simp only [not_or, not_not] at hstart
      obtain ⟨hexpected, -, htake⟩ := hstart
      split at h
      · cases h
      next cursor parsed hcommon =>
        obtain ⟨gatewayScope, hgateway⟩ : ∃ gatewayScope, scope.gateway = some gatewayScope := by
          cases scope with
          | other => cases hprefix
          | _ => exact ⟨_, rfl⟩
        obtain ⟨device, client, time, hdrop, ⟨hdevicePlain, hdevice⟩, ⟨hclientPlain, hclient⟩, htimePlain,
          htime⟩ := readCommon_spec hcommon hexpected
        obtain ⟨fields, hdeviceID, hclientID, htimestamp, hnonce, hextra, hrestrict, hcursor⟩ :=
          validateRest_spec hgateway h (str device) (str client) (str time)
        refine ⟨message, gatewayScope, fields, rfl, hgateway, ⟨hdeviceID ▸ hdevice, hclientID ▸ hclient,
          htimestamp ▸ htime, hnonce, hextra, hrestrict⟩, ?_⟩
        have hcanonical := (canonical_eq gatewayScope fields).resolve_right fun hempty =>
          hempty.2 hextra
        have hmessage : message = start ++ (device ++ 10 :: (client ++ 10 :: (time ++ 10 :: cursor))) := by
          grind [List.take_append_drop]
        rw [prefixOf_eq hgateway] at hprefix
        cases hprefix
        rw [hcanonical, utf8_intercalate, hmessage, hcursor]
        simp only [proofLines, hdeviceID, hclientID, htimestamp, List.cons_append, List.nil_append,
          List.map_cons, List.intercalate_cons_cons, hdevicePlain.utf8_str, hclientPlain.utf8_str,
          htimePlain.utf8_str, List.append_assoc, bytesOf]
  · cases h

/-- A message that the device accepts is the text that the gateway builds for exactly one scope and
exactly one tuple of fields, which pass the syntax checks of the gateway: no other scope or fields
have that text, no other request is read as a proof with that text, and the device does not accept
the message under another scope. -/
theorem device_proof_canonical {pointer : Option (List UInt8)} {device : Option CString} {timestamp
    : Option ℕ} (h : (validateScoped pointer device scope timestamp).1 = true) : ∃ message
    gatewayScope fields, pointer = some message ∧ scope.gateway = some gatewayScope ∧ Fields.Valid
    gatewayScope fields ∧ message = utf8 (canonical gatewayScope fields).toList ∧ (∀ otherScope
    otherFields, Fields.restrict otherScope otherFields = otherFields → utf8 (canonical otherScope
    otherFields).toList = message → otherScope = gatewayScope ∧ otherFields = fields) ∧ (∀
    otherScope request body otherFields signature, readFields otherScope request body = .ok
    (otherFields, signature) → utf8 (canonical otherScope otherFields).toList = message → otherScope
    = gatewayScope ∧ otherFields = fields) ∧ ∀ otherScope otherDevice otherTimestamp,
    (validateScoped pointer otherDevice otherScope otherTimestamp).1 = true → otherScope = scope
    := by
  obtain ⟨message, gatewayScope, fields, rfl, hgateway, hvalid, rfl⟩ := exists_canonical h
  refine ⟨_, gatewayScope, fields, rfl, hgateway, hvalid, rfl, ?_, ?_, ?_⟩
  · grind [eq_of_canonical_eq]
  · intro otherScope request body otherFields signature hread htext
    exact eq_of_canonical_eq hvalid (valid_of_readFields hread).restrict htext
  · intro otherScope otherDevice otherTimestamp haccepted
    obtain ⟨message, otherGateway, otherFields, heq, hotherGateway, hotherValid, rfl⟩ :=
      exists_canonical haccepted
    have hsame := (eq_of_canonical_eq hvalid hotherValid.restrict (Option.some.inj heq).symm).1
    rw [hsame, ← hgateway] at hotherGateway
    cases otherScope <;> cases scope <;> first | rfl | cases hotherGateway

end Messages

/-- A session proof of a device. -/
def sessionProof : List UInt8 := bytesOf ("xiaozhi-session-proof-v1\nPOST\n/v1/session\nbox3-demo-001\n" ++
  "app-1\n1700000000\nAAECAwQFBgcICQoLDA0ODw")

theorem device_proof_canonical_session : ∃ message gatewayScope fields, some sessionProof = some
    message ∧ Scope.session.gateway = some gatewayScope ∧ Fields.Valid gatewayScope fields ∧ message
    = utf8 (canonical gatewayScope fields).toList := by
  have haccepted : (validateScoped (some sessionProof)
      (some ⟨bytesOf "box3-demo-001", by decide +kernel⟩) .session (some 0)).1 = true := by
    decide +kernel
  obtain ⟨message, gatewayScope, fields, hmessage, hgateway, hvalid, htext, -⟩ :=
    device_proof_canonical haccepted
  exact ⟨message, gatewayScope, fields, hmessage, hgateway, hvalid, htext⟩

end XiaozhiPlatform.DeviceProof
