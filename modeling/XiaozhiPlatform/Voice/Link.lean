import XiaozhiPlatform.Device.AgentAdapter

/-!
# A device and its gateway connection

The device and the connection exchange messages over two ordered channels. The device sends the bytes
that its controller builds; the gateway sends the messages that the connection writes. A run
interleaves the events of the device, the handling of the oldest message of either channel, and what
happens at the gateway by itself.

`handleText` is the gateway's routing of a text message. `Controller.Handled` and
`Connection.Effect` say what the two ends do, so the results about the link need no more of their
definitions.
-/

namespace XiaozhiPlatform.VoiceConnection

open GoLib Protocol

/-! ## Text messages -/

/-- The fields that `handleText` looks at first. -/
structure Routing where
  type : String := ""
  sessionID : String := ""
deriving DecidableEq, Repr

def routingFields : List (Json.Field Routing) :=
  [Json.stringField "type" (·.type) fun s r => { r with type := s },
    Json.stringField "session_id" (·.sessionID) fun s r => { r with sessionID := s }]

/-- `json.Unmarshal` into these fields. -/
def routing (payload : List UInt8) : Option Routing := do
  Json.decodeLoose routingFields {} (← Json.parse (decodeRunes payload))

/-- `handleText`, up to the call that it makes; other types are for the voice backend. -/
def Connection.handleText (c : Connection) (payload : List UInt8) (reserved : Except Error Unit) :
    Option Call :=
  match routing payload with
  | none => some (.refused (violation "invalid_json" "missing message type"))
  | some route =>
    if route.type = "" then some (.refused (violation "invalid_json" "missing message type"))
    else if route.sessionID ≠ c.sessionID then
      some (.refused (.error (.detailed errStale "session_id mismatch")))
    else if route.type = "tts_request" ∨ route.type = "tts_abort" then
      match decodeControl payload c.sessionID with
      | .error failure => some (.refused failure)
      | .ok (message, requestID) =>
        if message.type = "tts_request" then
          some (.request message.sessionID requestID message.text reserved)
        else some (.abort message.sessionID requestID)
    else if route.type = "hello" then
      some (.refused (violation "duplicate_hello" "hello is only allowed once"))
    else none

/-- The reader on a text message. -/
def Connection.readText (c : Connection) (payload : List UInt8) (reserved : Except Error Unit) :
    Connection :=
  match c.handleText payload reserved with
  | some call => c.next call
  | none => c

/-! ## Messages of the device -/

section DeviceMessages

open VoiceAgentProtocol

variable {sessionID value type key : String} {requestID : UInt32}

theorem routing_message (hkind : (type, key) ∈ kinds) :
    routing (messageBytes (cString sessionID hsession)
    type requestID key (cString value hvalue)) = some ⟨type, sessionID⟩ := by
  rw [routing, messageBytes_eq _ _ _ _ hkind, decodeRunes_utf8, parse_messageText]
  simp only [kinds, List.mem_cons, List.not_mem_nil, or_false, Prod.mk.injEq] at hkind
  rcases hkind with ⟨rfl, rfl⟩ | ⟨rfl, rfl⟩
  · simp [Json.decodeLoose, Json.lookupField, routingFields, Json.stringField, Json.foldName,
      Json.foldChar]
  · simp [Json.decodeLoose, Json.lookupField, routingFields, Json.stringField, Json.foldName,
      Json.foldChar]

section

variable {c : Connection} (hc : c.sessionID = sessionID) (reserved : Except Error Unit)
  (hsession : Char.ofNat 0 ∉ sessionID.toList)

include hc reserved hsession

theorem handleText_request (hvalue : Char.ofNat 0 ∉ value.toList)
    (hsize : byteLength sessionID.toList ≤ maxSessionIDBytes) (hid : requestID ≠ 0)
    (hblank : isBlank value.toList = false) (hlength : byteLength value.toList ≤ maxTTSTextBytes) :
    c.handleText (messageBytes (cString sessionID hsession) "tts_request" requestID "text"
        (cString value hvalue)) reserved =
      some (.request sessionID requestID value reserved) := by
  grind [Connection.handleText, routing_message, kinds, decodeControl_ttsRequest, received]

theorem handleText_abort (hsize : byteLength sessionID.toList ≤ maxSessionIDBytes)
    (hid : requestID ≠ 0) (hreason : abortReasonString reason = some text) :
    c.handleText (messageBytes (cString sessionID hsession) "tts_abort" requestID "reason" text)
        reserved = some (.abort sessionID requestID) := by
  subst hc
  obtain ⟨name, hname, rfl, hvalid, hlength⟩ : ∃ (name : String)
      (hname : Char.ofNat 0 ∉ name.toList), text = cString name hname ∧ validAbortReason name = true ∧
        byteLength name.toList ≤ maxTTSTextBytes := by
    cases reason <;> cases hreason
    · exact ⟨"barge_in", by decide, rfl, by decide, by decide⟩
    · exact ⟨"button", by decide, rfl, by decide, by decide⟩
    · exact ⟨"network_lost", by decide, rfl, by decide, by decide⟩
    · exact ⟨"session_closed", by decide, rfl, by decide, by decide⟩
  have hcheck : checkControl (received c.sessionID requestID "tts_abort" name) = .ok () := by
    simp [checkControl, received, hvalid, refuseIf]
  have hdecode : decodeControl (messageBytes (cString c.sessionID hsession) "tts_abort" requestID
      "reason" (cString name hname)) c.sessionID =
      .ok (received c.sessionID requestID "tts_abort" name, requestID) :=
    decodeControl_eq_ok.mpr ⟨decodeOne_message (by simp [kinds]) hsize hlength, rfl,
      parseRequestID_formatNat hid, hcheck⟩
  rw [Connection.handleText, routing_message (by simp [kinds])]
  simp [hdecode, received]

end

end DeviceMessages

end XiaozhiPlatform.VoiceConnection

namespace XiaozhiPlatform.VoiceLink

open GoLib CLib Protocol VoiceAgent VoiceAgentProtocol VoiceConnection

/-! ## The link -/

/-- A device and its connection, with what is in flight, oldest message first. -/
structure Link where
  device : Controller
  protocolSessionID : CString
  gateway : Connection
  uplink : List (List UInt8) := []
  downlink : List Message := []

/-- What happens on a link: an event of the Agent or of the product on the device, the device takes
the next message, the gateway takes the next control message, with the result of `reserveTTS`, or
something at the gateway that is not a control message. -/
inductive Happening where
  | agentFinal (answers : Answers) (requestID : UInt32) (text : Option CString)
  | agentError (answers : Answers) (requestID : UInt32)
  | interrupt (answers : Answers) (reason : Option InterruptReason)
  | receive (answers : Answers)
  | control (reserved : Except Error Unit)
  | audio (packet : List UInt8) (handled : Except Error Unit)
  | stt (text : String)
  | step (request : ℕ) (input : Input)
  | deadline (request : ℕ)
  | disconnect

/-- The newer part of a list that grows at its head, oldest first. -/
def added {α : Type} (before after : List α) : List α :=
  (after.take (after.length - before.length)).reverse

namespace Link

variable (link : Link)

/-- The device has moved on, and its messages are in flight. -/
def setDevice (after : Controller) : Link :=
  { link with
    device := after
    uplink := link.uplink ++ added (sent link.device.log) (sent after.log) }

/-- The gateway has moved on, and its messages are in flight. -/
def setGateway (after : Connection) : Link :=
  { link with
    gateway := after
    downlink := link.downlink ++ (added link.gateway.wire after.wire).map Sent.message }

/-- One event of the device. -/
def handle (answers : Answers) (event : Event) : Link :=
  link.setDevice (link.device.handle answers event).1

/-- The device takes the oldest message of the gateway. -/
def takeDownlink (answers : Answers) : Link :=
  match link.downlink with
  | [] => link
  | message :: rest =>
    { link with downlink := rest }.setDevice
      (link.device.receive answers link.protocolSessionID message)

/-- The gateway takes the oldest message of the device. A closed connection drops it. -/
def takeUplink (reserved : Except Error Unit) : Link :=
  match link.uplink with
  | [] => link
  | payload :: rest =>
    if link.gateway.closed then { link with uplink := rest }
    else { link with uplink := rest }.setGateway (link.gateway.readText payload reserved)

def next : Happening → Link
  | .agentFinal answers requestID text => link.handle answers (.agentFinal requestID text)
  | .agentError answers requestID => link.handle answers (.agentError requestID)
  | .interrupt answers reason => link.handle answers (.interrupt reason)
  | .receive answers => link.takeDownlink answers
  | .control reserved => link.takeUplink reserved
  | .audio packet handled => link.setGateway (link.gateway.next (.audio packet handled))
  | .stt text => link.setGateway (link.gateway.next (.stt text))
  | .step request input => link.setGateway (link.gateway.next (.step request input))
  | .deadline request => link.setGateway (link.gateway.next (.deadline request))
  | .disconnect => link.setGateway (link.gateway.next .disconnect)

end Link

/-- A link serves what happens on it. -/
def serve (link : Link) (happening : Happening) : Link × Unit := (link.next happening, ())

/-- A link after the hellos: the device is idle, whatever it did before, its buffer holds a control
message, and it took the session from the hello of the gateway. -/
structure Opened (link : Link) : Prop where
  idle : link.device.bridge.state = .idle
  cleared : link.device.bridge.activeRequestID = 0
  buffer : maxControlBytes ≤ link.device.txBufferSize
  session : link.protocolSessionID = valueString link.gateway.sessionID
  text : Char.ofNat 0 ∉ link.gateway.sessionID.toList
  named : link.gateway.sessionID ≠ ""
  short : byteLength link.gateway.sessionID.toList ≤ maxSessionIDBytes
  fresh : ∃ version, link.gateway = opened link.gateway.sessionID version
  quiet : link.uplink = [] ∧ link.downlink = []

/-! ## Lists that grow -/

@[simp] theorem added_self {α : Type} (items : List α) : added items items = [] := by
  simp [added]

@[simp] theorem added_append {α : Type} (newer items : List α) :
    added items (newer ++ items) = newer.reverse := by
  rw [added, List.length_append, Nat.add_sub_cancel, List.take_left]

@[simp] theorem added_cons {α : Type} (item : α) (items : List α) :
    added items (item :: items) = [item] := added_append [item] items

end XiaozhiPlatform.VoiceLink
