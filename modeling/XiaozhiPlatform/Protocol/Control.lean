import XiaozhiPlatform.GoLib.Float64
import XiaozhiPlatform.GoLib.JsonStruct
import XiaozhiPlatform.GoLib.Unicode
import XiaozhiPlatform.Protocol.Basic

/-!
# Control messages

`DecodeControl` of the protocol package: a JSON object of at most `maxControlBytes` bytes is decoded
into a `ControlMessage`, and its session, its request id and the field of its type are checked. The
request id keeps its literal until `ParseRequestID` reads it as a `float64`.

`decodeControl_eq_ok` says what an accepted message is.
-/

namespace XiaozhiPlatform.Protocol

open GoLib

/-- `ControlMessage`; a `StrictNumber` is its literal, empty for an absent field. -/
structure ControlMessage where
  sessionID : String := ""
  type : String := ""
  requestID : List Char := []
  text : String := ""
  reason : String := ""
deriving DecidableEq, Repr

/-- `StrictNumber.UnmarshalJSON`: only a number in the range of a `float64` is stored. -/
def strictNumberField (name : String) {σ : Type} (get : σ → List Char) (put : List Char → σ → σ) :
    Json.Field σ where
  name := name
  get value := .num (get value)
  set
    | .num literal, value => (Float64.parseFloat literal).map fun _ => put literal value
    | _, _ => none

def controlFields : List (Json.Field ControlMessage) :=
  [Json.stringField "session_id" (·.sessionID) fun s m => { m with sessionID := s },
    Json.stringField "type" (·.type) fun s m => { m with type := s },
    strictNumberField "request_id" (·.requestID) fun s m => { m with requestID := s },
    Json.stringField "text" (·.text) fun s m => { m with text := s },
    Json.stringField "reason" (·.reason) fun s m => { m with reason := s }]

/-- `decodeOne` into a control message. The error of the JSON decoder is its own. -/
def decodeOne (data : List UInt8) : Option ControlMessage := do
  if data.length = 0 ∨ data.length > maxControlBytes then none
  let value ← Json.parse (decodeRunes data)
  Json.decodeLoose controlFields {} value

/-- `validString` has no error. -/
def validString (value : String) (maxBytes : ℕ) : Option String :=
  if isBlank value.toList then some "value must be non-empty"
  else if byteLength value.toList > maxBytes then
    some (String.ofList ("value exceeds ".toList ++ formatNat maxBytes ++ " UTF-8 bytes".toList))
  else none

/-- `validAbortReason`. -/
def validAbortReason (reason : String) : Bool :=
  reason = "barge_in" || reason = "button" || reason = "network_lost" || reason = "session_closed"

/-- `ParseRequestID`: a `float64` that is an integer in the range of a `uint32`, and not zero. -/
def parseRequestID (number : List Char) : Decoded UInt32 :=
  let refused := violation "invalid_request_id" "request_id must be a uint32 integer"
  match if number = [] then none else Float64.parseFloat number with
  | none => .error refused
  | some value =>
    if value < 1 ∨ value > 4294967295 ∨ value.den ≠ 1 then .error refused
    else .ok (UInt32.ofNat value.num.toNat)

/-- The check that depends on the type of the message. -/
def checkControl (message : ControlMessage) : Decoded Unit :=
  if message.type = "tts_request" then
    match validString message.text maxTTSTextBytes with
    | some detail => .error (violation "invalid_tts_text" detail)
    | none => .ok ()
  else if message.type = "tts_abort" then
    refuseIf (validAbortReason message.reason = false)
      (violation "invalid_abort_reason" "unsupported reason")
  else .error (violation "unsupported_message" "unsupported Agent control type")

/-- `DecodeControl`. The detail of a message that does not decode is the text of the JSON decoder,
which is left empty here. -/
def decodeControl (data : List UInt8) (sessionID : String) : Decoded (ControlMessage × UInt32) :=
  match decodeOne data with
  | none => .error (violation "invalid_json" "")
  | some message => do
    refuseIf (message.sessionID ≠ sessionID) (.error (.detailed errStale "session_id mismatch"))
    let requestID ← parseRequestID message.requestID
    checkControl message
    return (message, requestID)

/-- What an accepted message is: it decodes, names the session, and passes the checks. -/
theorem decodeControl_eq_ok : decodeControl data sessionID = .ok (message, requestID) ↔ decodeOne
    data
    = some message ∧ message.sessionID = sessionID ∧ parseRequestID message.requestID = .ok
    requestID ∧ checkControl message = .ok () := by
  rw [decodeControl]
  split
  · next h => simp [h]
  · next decoded h =>
    rw [refuseIf_bind_eq_ok]
    simp only [decoded_bind_eq_ok, not_not, h, Option.some.injEq]
    constructor
    · rintro ⟨hsession, id, hid, _, hcheck, hresult⟩
      cases hresult
      exact ⟨rfl, hsession, hid, hcheck⟩
    · rintro ⟨rfl, hsession, hid, hcheck⟩
      exact ⟨hsession, requestID, hid, (), hcheck, rfl⟩

theorem parseRequestID_formatNat (h : requestID ≠ 0) :
    parseRequestID (formatNat requestID.toNat) = .ok requestID := by
  have hlt : requestID.toNat < 4294967296 := requestID.toNat_lt
  have hpos : 1 ≤ requestID.toNat := by
    rw [Nat.one_le_iff_ne_zero]
    exact fun hzero => h (UInt32.toNat_inj.mp hzero)
  have hparse := Float64.parseFloat_formatNat (n := requestID.toNat) (by omega)
  rw [parseRequestID, if_neg (formatNat_ne_nil _), hparse]
  have hone : ¬ (requestID.toNat : ℚ) < 1 := by
    rw [not_lt]
    exact_mod_cast hpos
  have hmax : ¬ (requestID.toNat : ℚ) > 4294967295 := by
    rw [gt_iff_lt, not_lt]
    exact_mod_cast Nat.le_of_lt_succ hlt
  simp only [hone, hmax, Rat.den_natCast, ne_eq, not_true_eq_false, or_self, if_false,
    Rat.num_natCast, Int.toNat_natCast, UInt32.ofNat_toNat]

end XiaozhiPlatform.Protocol
