import XiaozhiPlatform.Device.AgentTurns
import XiaozhiPlatform.Device.ControlRoundTrip
import XiaozhiPlatform.Gateway.Synthesis

/-!
# The adapter of the device

`xiaozhi_agent_adapter_handle_json` turns a JSON message of the gateway into an event of the
controller. The message is a JSON value here; `cJSON` keeps a text as the C string of its UTF-8 bytes
and a number as a `double`.

`Message.json` is the value that the gateway marshals for a message. The lemmas `receive_tts`,
`receive_stt` and `receive_error` say what the adapter does with such a value.
-/

namespace XiaozhiPlatform.VoiceAgent

open GoLib CLib VoiceAgentProtocol VoiceConnection

/-! ## Values of `cJSON` -/

/-- `valuestring` of a text: what follows a zero byte is not seen. -/
def valueString (text : String) : CString where
  bytes := (utf8 text.toList).takeWhile (· ≠ 0)
  nonzero h := by simpa using List.mem_takeWhile_imp h

theorem cString_eq_valueString {text : String} (h : Char.ofNat 0 ∉ text.toList) :
    cString text h = valueString text := by
  have hbytes : (utf8 text.toList).takeWhile (· ≠ 0) = utf8 text.toList := by
    rw [List.takeWhile_eq_self_iff]
    intro byte hbyte
    have hnonzero := (cString text h).nonzero
    rw [decide_eq_true_eq]
    rintro rfl
    exact hnonzero hbyte
  simp only [valueString, hbytes]
  rfl

/-- `cJSON_GetObjectItemCaseSensitive`. -/
def objectItem (root : Json) (key : String) : Option Json :=
  match root with
  | .obj members => (members.find? fun m => valueString m.1 = valueString key).map Prod.snd
  | _ => none

/-- `cJSON_IsString` and the string. -/
def stringItem (root : Json) (key : String) : Option CString :=
  match objectItem root key with
  | some (.str text) => some (valueString text)
  | _ => none

/-- `resolve_session_id`. -/
def resolveSessionID (root : Json) (protocolSessionID : CString) : Except Outcome CString :=
  if protocolSessionID.bytes = [] then .error .invalidArg
  else
    match objectItem root "session_id" with
    | none => .ok protocolSessionID
    | some (.str text) =>
      if (valueString text).bytes = [] then .error .invalidArg
      else if valueString text ≠ protocolSessionID then .error .staleEvent
      else .ok protocolSessionID
    | some _ => .error .invalidArg

/-- `parse_request_id`; a literal outside the range of a `double` is an infinity there. -/
def parseRequestID (root : Json) : Except Outcome UInt32 :=
  match objectItem root "request_id" with
  | some (.num literal) =>
    match Float64.parseFloat literal with
    | none => .error .invalidArg
    | some value =>
      if 0 < value ∧ value ≤ 4294967295 then
        let parsed := UInt32.ofNat value.floor.toNat
        if (parsed.toNat : ℚ) ≠ value then .error .invalidArg else .ok parsed
      else .error .invalidArg
  | _ => .error .invalidArg

/-! ## The adapter -/

/-- `xiaozhi_agent_service_error_t`. -/
inductive ServiceError where
  | none | speechBudgetExceeded | speechBudgetUnavailable
deriving DecidableEq, Repr

/-- `xiaozhi_agent_message_outcome_t`. -/
structure MessageOutcome where
  handled : Bool := false
  acceptedRequestID : UInt32 := 0
  serviceError : ServiceError := .none
deriving DecidableEq, Repr

/-- The codes of the two budget errors. -/
def serviceErrorOf (code : CString) : ServiceError :=
  if code = valueString "speech_budget_exceeded" then .speechBudgetExceeded
  else if code = valueString "speech_budget_unavailable" then .speechBudgetUnavailable
  else .none

/-- The lifecycle states of a TTS message; `sentence_start` and unknown ones are for the UI. -/
def ttsEventOf (state : CString) : Option TTSEvent :=
  if state = valueString "start" then some .started
  else if state = valueString "stop" then some .stopped
  else if state = valueString "error" then some .error
  else none

namespace Controller

variable (answers : Answers) (c : Controller)

/-- The branch of `xiaozhi_agent_adapter_handle_json` for errors. They name no request, so a budget
error goes to whatever request waits for speech. -/
def handleError (root : Json) (protocolSessionID : CString) :
    Controller × Outcome × MessageOutcome :=
  match stringItem root "code" with
  | none => (c, .invalidArg, {})
  | some code =>
    if serviceErrorOf code = .none then (c, .ok, {})
    else if ¬ c.Speaking then (c, .ok, { handled := true, serviceError := serviceErrorOf code })
    else
      let called := c.onTTSEvent (some protocolSessionID) c.bridge.activeRequestID (some .error)
      (called.1, called.2, ⟨true, c.bridge.activeRequestID, serviceErrorOf code⟩)

/-- The branch for transcripts. -/
def handleSTT (root : Json) (sessionID : CString) : Controller × Outcome × MessageOutcome :=
  match stringItem root "text" with
  | none => (c, .invalidArg, {})
  | some text =>
    if text.bytes = [] then (c, .invalidArg, {})
    else
      let called := c.onSTTFinal answers (some sessionID) (some text)
      let accepted := if called.2 = .ok then called.1.bridge.activeRequestID else 0
      (called.1, called.2, { handled := true, acceptedRequestID := accepted })

/-- The branch for speech events. -/
def handleTTS (root : Json) (sessionID : CString) : Controller × Outcome × MessageOutcome :=
  match stringItem root "state" with
  | none => (c, .invalidArg, {})
  | some state =>
    match ttsEventOf state with
    | none => (c, .ok, {})
    | some event =>
      match parseRequestID root with
      | .error outcome => (c, outcome, {})
      | .ok requestID =>
        let called := c.onTTSEvent (some sessionID) requestID (some event)
        (called.1, called.2, { handled := true, acceptedRequestID := requestID })

/-- `xiaozhi_agent_adapter_handle_json`. -/
def handleJSON (root : Json) (protocolSessionID : CString) :
    Controller × Outcome × MessageOutcome :=
  match stringItem root "type" with
  | none => (c, .invalidArg, {})
  | some type =>
    if type = valueString "error" then c.handleError root protocolSessionID
    else if type ≠ valueString "stt" ∧ type ≠ valueString "tts" then (c, .ok, {})
    else
      match resolveSessionID root protocolSessionID with
      | .error outcome => (c, outcome, {})
      | .ok sessionID =>
        if type = valueString "stt" then c.handleSTT answers root sessionID
        else c.handleTTS root sessionID

end Controller

/-! ## Messages of the gateway -/

/-- The text of a state. -/
def stateText : TTSState → String
  | .start => "start"
  | .sentenceStart => "sentence_start"
  | .stop => "stop"
  | .error => "error"

/-- The member of a field with `omitempty`. -/
def omitEmpty (name text : String) : List (String × Json) :=
  if text = "" then [] else [(name, .str text)]

/-- What the gateway marshals for a message; audio is no JSON. -/
def messageJSON : Message → Option Json
  | .tts event => some (.obj ([("session_id", .str event.sessionID), ("type", .str "tts"),
      ("state", .str (stateText event.state)),
      ("request_id", .num (formatNat event.requestID.toNat))] ++
      omitEmpty "text" event.text ++ omitEmpty "code" event.code))
  | .error code => some (.obj [("type", .str "error"), ("code", .str code)])
  | .stt sessionID text => some (.obj [("session_id", .str sessionID), ("type", .str "stt"),
      ("text", .str text)])
  | .audio _ => none

/-- What the device does with a message; it plays audio without the controller. -/
def Controller.receive (answers : Answers) (c : Controller) (protocolSessionID : CString)
    (message : Message) : Controller :=
  match messageJSON message with
  | some root => (c.handleJSON answers root protocolSessionID).1
  | none => c

/-! ## What the adapter makes of them -/

theorem objectItem_cons (name : String) (value : Json) (members : List (String × Json)) (key :
    String) : objectItem (.obj ((name, value) :: members)) key = if valueString name = valueString
    key then some value else objectItem (.obj members) key := by
  grind [objectItem]

theorem objectItem_self (name : String) (value : Json) (members : List (String × Json)) :
    objectItem (.obj ((name, value) :: members)) name = some value := by
  rw [objectItem_cons, if_pos rfl]

theorem parseRequestID_formatNat
    (h : objectItem root "request_id" = some (.num (formatNat requestID.toNat))) :
    parseRequestID root = if requestID = 0 then .error .invalidArg else .ok requestID := by
  have hlt : requestID.toNat < 4294967296 := requestID.toNat_lt
  have hmax : (requestID.toNat : ℚ) ≤ 4294967295 := by exact_mod_cast Nat.le_of_lt_succ hlt
  simp only [parseRequestID, h, Float64.parseFloat_formatNat (show requestID.toNat < 2 ^ 53 by omega)]
  by_cases hzero : requestID = 0
  · subst hzero
    simp
  · have hpos : (0 : ℚ) < requestID.toNat := by
      rw [Nat.cast_pos, Nat.pos_iff_ne_zero]
      exact fun h => hzero (UInt32.toNat_inj.mp h)
    have hfloor : (requestID.toNat : ℚ).floor.toNat = requestID.toNat := by
      rw [← Int.cast_natCast, Rat.floor_intCast, Int.toNat_natCast]
    rw [if_pos ⟨hpos, hmax⟩, if_neg hzero]
    simp only [hfloor, UInt32.ofNat_toNat, ne_eq, not_true_eq_false, if_false]

/-- The lifecycle event of a state. -/
def lifecycle : TTSState → Option TTSEvent
  | .start => some .started
  | .sentenceStart => none
  | .stop => some .stopped
  | .error => some .error

theorem ttsEventOf_stateText (state : TTSState) :
    ttsEventOf (valueString (stateText state)) = lifecycle state := by
  cases state <;> decide

theorem resolveSessionID_eq (h : objectItem root "session_id" = some (.str sessionID))
    (hopen : protocolSessionID.bytes ≠ []) : resolveSessionID root protocolSessionID =
      if valueString sessionID = protocolSessionID then .ok protocolSessionID
      else if (valueString sessionID).bytes = [] then .error .invalidArg else .error .staleEvent :=
    by
  simp only [resolveSessionID, if_neg hopen, h]
  by_cases hsession : valueString sessionID = protocolSessionID
  · simp [hsession, hopen]
  · simp [hsession]

namespace Controller

variable (answers : Answers) (c : Controller) {protocolSessionID : CString}

theorem receive_tts (hopen : protocolSessionID.bytes ≠ []) (event : VoiceConnection.TTSEvent) :
    c.receive answers protocolSessionID (.tts event) =
      if valueString event.sessionID = protocolSessionID ∧ event.requestID ≠ 0 then
        match lifecycle event.state with
        | some kind => (c.onTTSEvent (some protocolSessionID) event.requestID (some kind)).1
        | none => c
      else c := by
  simp only [receive, messageJSON, List.cons_append]
  generalize hroot : Json.obj _ = root
  have hsession : objectItem root "session_id" = some (.str event.sessionID) := by
    rw [← hroot, objectItem_self]
  have htype : stringItem root "type" = some (valueString "tts") := by
    rw [stringItem, ← hroot, objectItem_cons, if_neg (by decide), objectItem_self]
  have hstate : stringItem root "state" = some (valueString (stateText event.state)) := by
    rw [stringItem, ← hroot, objectItem_cons, if_neg (by decide), objectItem_cons,
      if_neg (by decide), objectItem_self]
  have hid : objectItem root "request_id" = some (.num (formatNat event.requestID.toNat)) := by
    rw [← hroot, objectItem_cons, if_neg (by decide), objectItem_cons, if_neg (by decide),
      objectItem_cons, if_neg (by decide), objectItem_self]
  simp only [handleJSON, htype, if_neg (show valueString "tts" ≠ valueString "error" by decide),
    ne_eq, not_true_eq_false, and_false, if_false, resolveSessionID_eq hsession hopen,
    if_neg (show valueString "tts" ≠ valueString "stt" by decide)]
  by_cases hmatch : valueString event.sessionID = protocolSessionID
  · simp only [hmatch, if_true, true_and, handleTTS, hstate, ttsEventOf_stateText,
      parseRequestID_formatNat hid]
    cases lifecycle event.state with
    | none => simp
    | some kind => grind
  · grind

theorem receive_stt (hopen : protocolSessionID.bytes ≠ []) (sessionID text : String) : c.receive
    answers protocolSessionID (.stt sessionID text) = if valueString sessionID = protocolSessionID ∧
    (valueString text).bytes ≠ [] then (c.onSTTFinal answers (some protocolSessionID) (some
    (valueString text))).1 else c := by
  simp only [receive, messageJSON]
  generalize hroot : Json.obj _ = root
  have hsession : objectItem root "session_id" = some (.str sessionID) := by
    rw [← hroot, objectItem_self]
  have htype : stringItem root "type" = some (valueString "stt") := by
    rw [stringItem, ← hroot, objectItem_cons, if_neg (by decide), objectItem_self]
  have htext : stringItem root "text" = some (valueString text) := by
    rw [stringItem, ← hroot, objectItem_cons, if_neg (by decide), objectItem_cons,
      if_neg (by decide), objectItem_self]
  simp only [handleJSON, htype, if_neg (show valueString "stt" ≠ valueString "error" by decide),
    ne_eq, not_true_eq_false, false_and, if_false, resolveSessionID_eq hsession hopen, if_true]
  by_cases hmatch : valueString sessionID = protocolSessionID
  · grind [handleSTT, valueString, text]
  · grind

/-- A budget error reaches the controller as an error of the active request, whatever it was sent
for. -/
theorem receive_error (code : String) : c.receive answers protocolSessionID (.error code) = if
    serviceErrorOf (valueString code) ≠ .none ∧ c.Speaking then (c.onTTSEvent (some
    protocolSessionID) c.bridge.activeRequestID (some .error)).1 else c := by
  simp only [receive, messageJSON]
  generalize hroot : Json.obj _ = root
  have htype : stringItem root "type" = some (valueString "error") := by
    rw [stringItem, ← hroot, objectItem_self]
  have hcode : stringItem root "code" = some (valueString code) := by
    rw [stringItem, ← hroot, objectItem_cons, if_neg (by decide), objectItem_self]
  simp only [handleJSON, htype, if_true, handleError, hcode]
  by_cases hnone : serviceErrorOf (valueString code) = .none
  · simp [hnone]
  · grind

end Controller

end XiaozhiPlatform.VoiceAgent
