import XiaozhiPlatform.Device.ControlWriter
import XiaozhiPlatform.GoLib.Run

/-!
# The voice agent of the device

`voice_agent_controller` over `agent_bridge`: the controller takes transcripts, answers of the Agent,
speech events of the gateway and interrupts, one after the other, and calls the operations that the
product injects. An operation succeeds or fails as it likes and does not call back, so each event
comes with the answers of the operations; the controller keeps a log of all calls, newest first.

The bridge is part of the controller, and its operations are those of the controller, so both are
modelled as functions on the controller, under the names of the source.
-/

namespace XiaozhiPlatform.VoiceAgent

open GoLib CLib VoiceAgentProtocol

/-- `agent_bridge_state_t`. -/
inductive State where
  | idle | agentRunning | ttsPending | ttsPlaying
deriving DecidableEq, Repr

/-- `agent_bridge_result_t`. -/
inductive Outcome where
  | ok | invalidArg | invalidState | staleEvent | operation
deriving DecidableEq, Repr

/-- `agent_bridge_interrupt_reason_t`. -/
inductive InterruptReason where
  | userBargeIn | button | networkLost | sessionClosed
deriving DecidableEq, Repr

/-- `voice_agent_tts_event_t`. -/
inductive TTSEvent where
  | started | stopped | error
deriving DecidableEq, Repr

/-- `voice_agent_playback_event_t`. -/
inductive PlaybackEvent where
  | begin | drain | flush
deriving DecidableEq, Repr

/-- `AGENT_BRIDGE_SESSION_ID_MAX`. -/
def sessionIDMax : ℕ := 64

def noSession : CString := ⟨[], List.not_mem_nil⟩

/-- `agent_bridge_t` without its operations. -/
structure Bridge where
  state : State := .idle
  activeRequestID : UInt32 := 0
  nextRequestID : UInt32 := 1
  sessionID : CString := noSession
deriving DecidableEq

/-- A call of an injected operation, with its success. -/
inductive Op where
  | submitAgent (requestID : UInt32) (sessionID text : CString) (ok : Bool)
  | cancelAgent (requestID : UInt32) (ok : Bool)
  | sendJSON (json : List UInt8) (ok : Bool)
  | stateChanged (previous next : State) (requestID : UInt32)
  | playback (event : PlaybackEvent) (requestID : UInt32)
deriving DecidableEq

/-- How the operations answer during an event; each is called at most once. -/
structure Answers where
  submitAgent : Bool
  cancelAgent : Bool
  sendJSON : Bool
deriving DecidableEq

/-- `voice_agent_controller_t`, in the memory of its buffer and with the log of its calls. -/
structure Controller where
  bridge : Bridge := {}
  pendingInterruptReason : InterruptReason := .userBargeIn
  txBuffer : ℕ
  txBufferSize : ℕ
  memory : Memory
  log : List Op := []

/-- An event; a pointer or an enumerator that may be invalid is an `Option`. -/
inductive Event where
  | sttFinal (sessionID text : Option CString)
  | agentFinal (requestID : UInt32) (text : Option CString)
  | agentError (requestID : UInt32)
  | ttsEvent (sessionID : Option CString) (requestID : UInt32) (event : Option TTSEvent)
  | interrupt (reason : Option InterruptReason)

namespace Controller

variable (answers : Answers) (c : Controller)

def emit (op : Op) : Controller := { c with log := op :: c.log }

/-! ## The bridge -/

/-- `transition`. -/
def transition (next : State) : Controller :=
  if c.bridge.state = next then c
  else { c with bridge := { c.bridge with state := next } }.emit
    (.stateChanged c.bridge.state next c.bridge.activeRequestID)

/-- `clear_active_request`. -/
def clearActiveRequest : Controller :=
  let c := c.transition .idle
  { c with bridge := { c.bridge with activeRequestID := 0, sessionID := noSession } }

/-- `allocate_request_id`. -/
def allocateRequestID : UInt32 × Controller :=
  let requestID := if c.bridge.nextRequestID = 0 then 1 else c.bridge.nextRequestID
  let next := requestID + 1
  (requestID,
    { c with bridge := { c.bridge with nextRequestID := if next = 0 then 1 else next } })

/-- `valid_active_request`. -/
def ValidActiveRequest (requestID : UInt32) : Prop :=
  requestID ≠ 0 ∧ c.bridge.activeRequestID = requestID
deriving Decidable

/-- `agent_bridge_active_session_id`. -/
def activeSessionID : CString :=
  if c.bridge.activeRequestID ≠ 0 then c.bridge.sessionID else noSession

/-- `map_abort_reason`. -/
def mapAbortReason : InterruptReason → AbortReason
  | .button => .button
  | .networkLost => .networkLost
  | .sessionClosed => .sessionClosed
  | .userBargeIn => .bargeIn

/-- The message in the buffer after a builder has run. -/
def built (result : Result × Memory × Option ℕ) : Option (List UInt8) :=
  match result with
  | (.ok, memory, some required) => some (memory.load c.txBuffer (required - 1))
  | _ => none

/-- What `request_tts` and `cancel_tts` do after their builder: only a message that was built is
sent. -/
def sendBuilt (result : Result × Memory × Option ℕ) : Controller × Bool :=
  let after := { c with memory := result.2.1 }
  match c.built result with
  | some json => (after.emit (.sendJSON json answers.sendJSON), answers.sendJSON)
  | none => (after, false)

section

variable (requestID : UInt32)

/-- The call of `voice_agent_build_tts_request` in `request_tts`. -/
def buildRequest (text : CString) : Result × Memory × Option ℕ :=
  buildTTSRequest (some c.txBuffer) c.txBufferSize (some c.bridge.sessionID) requestID (some text)
    (some 0) c.memory

/-- The call of `voice_agent_build_tts_abort` in `cancel_tts`. -/
def buildAbort : Result × Memory × Option ℕ :=
  buildTTSAbort (some c.txBuffer) c.txBufferSize (some c.activeSessionID) requestID
    (mapAbortReason c.pendingInterruptReason) (some 0) c.memory

/-- `request_tts` of the controller. -/
def requestTTS (text : CString) : Controller × Bool :=
  c.sendBuilt answers (c.buildRequest requestID text)

/-- `cancel_tts` of the controller. -/
def cancelTTS : Controller × Bool :=
  c.sendBuilt answers (c.buildAbort requestID)

end

/-- `agent_bridge_interrupt`. -/
def interruptBridge : Controller × Outcome :=
  if c.bridge.state = .idle then (c, .ok)
  else
    let (after, ok) :=
      if c.bridge.state = .agentRunning then
        (c.emit (.cancelAgent c.bridge.activeRequestID answers.cancelAgent), answers.cancelAgent)
      else c.cancelTTS answers c.bridge.activeRequestID
    (after.clearActiveRequest, if ok then .ok else .operation)

/-- A session that the bridge can store, and a text. -/
def ValidTurn (sessionID text : CString) : Prop :=
  sessionID.bytes ≠ [] ∧ text.bytes ≠ [] ∧ sessionID.bytes.length < sessionIDMax
deriving Decidable

/-- The start of a turn in `agent_bridge_on_stt_final`, on an idle bridge. -/
def startTurn (sessionID text : CString) : Controller × Outcome :=
  let (requestID, c) := c.allocateRequestID
  let c := { c with bridge := { c.bridge with sessionID, activeRequestID := requestID } }
  let c := c.transition .agentRunning
  let c := c.emit (.submitAgent requestID sessionID text answers.submitAgent)
  if answers.submitAgent then (c, .ok) else (c.clearActiveRequest, .operation)

/-- `agent_bridge_on_stt_final`; the id of the new request is the active one afterwards. -/
def bridgeOnSTTFinal (sessionID text : CString) : Controller × Outcome :=
  if ValidTurn sessionID text then
    let c := if c.bridge.state ≠ .idle then (c.interruptBridge answers).1 else c
    c.startTurn answers sessionID text
  else (c, .invalidArg)

section

variable (requestID : UInt32)

/-- `agent_bridge_on_agent_final`. -/
def bridgeOnAgentFinal (text : Option CString) : Controller × Outcome :=
  match text with
  | none => (c, .invalidArg)
  | some text =>
    if text.bytes = [] then (c, .invalidArg)
    else if ¬ c.ValidActiveRequest requestID then (c, .staleEvent)
    else if c.bridge.state ≠ .agentRunning then (c, .invalidState)
    else
      let (c, ok) := (c.transition .ttsPending).requestTTS answers requestID text
      if ok then (c, .ok) else (c.clearActiveRequest, .operation)

/-- The checks that the events of a request share, and what happens when they pass. -/
def onRequest (allowed : State → Bool) (next : Controller → Controller) : Controller × Outcome :=
  if requestID = 0 then (c, .invalidArg)
  else if ¬ c.ValidActiveRequest requestID then (c, .staleEvent)
  else if allowed c.bridge.state then (next c, .ok)
  else (c, .invalidState)

/-- `agent_bridge_on_agent_error`. -/
def bridgeOnAgentError : Controller × Outcome :=
  c.onRequest requestID (· = .agentRunning) clearActiveRequest

/-- `agent_bridge_on_tts_started`; a request that plays already stays as it is. -/
def bridgeOnTTSStarted : Controller × Outcome :=
  c.onRequest requestID (fun state => state = .ttsPlaying || state = .ttsPending)
    fun c => c.transition .ttsPlaying

/-- `agent_bridge_on_tts_stopped`. -/
def bridgeOnTTSStopped : Controller × Outcome :=
  c.onRequest requestID (fun state => state = .ttsPending || state = .ttsPlaying)
    clearActiveRequest

/-- `agent_bridge_on_tts_error`. -/
def bridgeOnTTSError : Controller × Outcome :=
  c.onRequest requestID (fun state => state = .ttsPending || state = .ttsPlaying)
    clearActiveRequest

end

/-! ## The controller -/

/-- The states in which speech is awaited or heard. -/
def Speaking : Prop := c.bridge.state = .ttsPending ∨ c.bridge.state = .ttsPlaying
deriving Decidable

/-- The controller remembers why it interrupts. -/
def because (reason : InterruptReason) : Controller := { c with pendingInterruptReason := reason }

/-- The playback of speech is flushed. -/
def flushSpeech : Controller :=
  if c.Speaking then c.emit (.playback .flush c.bridge.activeRequestID) else c

/-- `voice_agent_controller_on_stt_final`: local audio stops before the bridge sends its abort. -/
def onSTTFinal (sessionID text : Option CString) : Controller × Outcome :=
  match sessionID, text with
  | some sessionID, some text =>
    if ¬ ValidTurn sessionID text then (c, .invalidArg)
    else
      let called := (c.flushSpeech.because .userBargeIn).bridgeOnSTTFinal answers sessionID text
      (called.1.because .userBargeIn, called.2)
  | _, _ => (c, .invalidArg)

/-- A playback event after a bridge call that succeeded. -/
def playbackAfter (called : Controller × Outcome) (event : PlaybackEvent) (requestID : UInt32) :
    Controller × Outcome :=
  if called.2 = .ok then (called.1.emit (.playback event requestID), .ok) else called

/-- `voice_agent_controller_on_tts_event`. -/
def onTTSEvent (sessionID : Option CString) (requestID : UInt32) (event : Option TTSEvent) :
    Controller × Outcome :=
  match sessionID with
  | none => (c, .invalidArg)
  | some sessionID =>
    if sessionID.bytes = [] ∨ requestID = 0 then (c, .invalidArg)
    else if c.activeSessionID.bytes = [] ∨ c.activeSessionID ≠ sessionID ∨
        requestID ≠ c.bridge.activeRequestID then (c, .staleEvent)
    else
      match event with
      | some .started =>
        -- a second start of the same request is not heard
        if c.bridge.state = .ttsPending then
          playbackAfter (c.bridgeOnTTSStarted requestID) .begin requestID
        else c.bridgeOnTTSStarted requestID
      | some .stopped => playbackAfter (c.bridgeOnTTSStopped requestID) .drain requestID
      | some .error => playbackAfter (c.bridgeOnTTSError requestID) .flush requestID
      | none => (c, .invalidArg)

/-- `voice_agent_controller_interrupt`. -/
def interrupt (reason : Option InterruptReason) : Controller × Outcome :=
  match reason with
  | none => (c, .invalidArg)
  | some reason =>
    let called := (c.because reason).interruptBridge answers
    -- the state and the id are those of before the call
    let after := if c.Speaking then called.1.emit (.playback .flush c.bridge.activeRequestID)
      else called.1
    (after.because .userBargeIn, called.2)

/-- One event. -/
def handle : Event → Controller × Outcome
  | .sttFinal sessionID text => c.onSTTFinal answers sessionID text
  | .agentFinal requestID text => c.bridgeOnAgentFinal answers requestID text
  | .agentError requestID => c.bridgeOnAgentError requestID
  | .ttsEvent sessionID requestID event => c.onTTSEvent sessionID requestID event
  | .interrupt reason => c.interrupt answers reason

end Controller

/-- The controller serves its events one after the other. -/
def serve (c : Controller) (call : Answers × Event) : Controller × Outcome :=
  c.handle call.1 call.2

/-- `voice_agent_controller_init` with a buffer. -/
def initial (txBuffer txBufferSize : ℕ) (memory : Memory) : Controller :=
  { txBuffer, txBufferSize, memory }

end XiaozhiPlatform.VoiceAgent
