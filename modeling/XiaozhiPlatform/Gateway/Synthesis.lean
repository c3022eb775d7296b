import XiaozhiPlatform.Budget.Contracts
import XiaozhiPlatform.GoLib.Run
import XiaozhiPlatform.Protocol.Audio

/-!
# Speech synthesis on a voice connection

The reader of a voice connection starts a goroutine for every accepted `tts_request`. The
goroutines, the reader and the deadlines of the contexts share the `active` slot of the
connection. Everything between taking and releasing `stateMu` is one step, so a run is a sequence
of calls: messages that the reader handles, steps of a goroutine, and deadlines that pass.

A goroutine is known by its position in the list of all requests that were started; the slot keeps
that position for the `cancel` function that it holds. The wire records which goroutine wrote a
message. A write whose context has ended sends nothing and fails with the error of the context; any
other write sends its message.

`Effect` says once what a call can do to a connection, and `next_effect` that it does no more.
-/

namespace XiaozhiPlatform.VoiceConnection

open GoLib Protocol

/-! ## Messages and goroutines -/

def contextCanceled : Error := .text "context canceled"
def contextDeadlineExceeded : Error := .text "context deadline exceeded"

/-- How a context ended. -/
inductive Ended where
  | canceled
  | deadlineExceeded
deriving DecidableEq, Repr

/-- `ctx.Err()`. -/
def Ended.error : Ended → Error
  | .canceled => contextCanceled
  | .deadlineExceeded => contextDeadlineExceeded

/-- The states of a `TTSEvent`. -/
inductive TTSState where
  | start | sentenceStart | stop | error
deriving DecidableEq, Repr

structure TTSEvent where
  sessionID : String
  state : TTSState
  requestID : UInt32
  text : String := ""
  code : String := ""
deriving DecidableEq, Repr

/-- A message to the device. -/
inductive Message where
  | tts (event : TTSEvent)
  | audio (packet : List UInt8)
  | error (code : String)
  | stt (sessionID text : String)
deriving DecidableEq, Repr

/-- The events that end a request. -/
def TTSState.isTerminal : TTSState → Bool
  | .stop | .error => true
  | .start | .sentenceStart => false

def Message.isTerminal : Message → Bool
  | .tts event => event.state.isTerminal
  | .audio _ | .error _ | .stt _ _ => false

/-- Where the goroutine of a request is in `streamTTS`. -/
inductive Stage where
  | start
  | sentence
  | streaming (frames : ℕ)
  | settling (frames : ℕ)
  | finishing (state : TTSState) (code : String)
  | done
deriving DecidableEq, Repr

/-- The goroutine of a request, with its context. -/
structure Synthesis where
  requestID : UInt32
  text : String
  ended : Option Ended := none
  stage : Stage := .start
deriving DecidableEq, Repr

/-- `activeTTS`; `request` is the goroutine whose context `cancel` ends. -/
structure ActiveTTS where
  requestID : UInt32
  request : ℕ
deriving DecidableEq, Repr

/-- A message on the wire, with the goroutine that wrote it, if it was one. -/
structure Sent where
  writer : Option ℕ
  message : Message
deriving DecidableEq, Repr

/-- A connection after its hello. The wire is listed newest message first. -/
structure Connection where
  sessionID : String
  protocolVersion : ℤ
  active : Option ActiveTTS := none
  syntheses : List Synthesis := []
  wire : List Sent := []
  violations : ℕ := 0
  closed : Bool := false
deriving DecidableEq, Repr

/-- What a goroutine meets at its next step: nothing that it waits for, a frame that the
synthesizer emits, the result of `Stream` or the result of `settleTTS`. -/
inductive Input where
  | go
  | frame (opus : List UInt8)
  | returned (result : Except Failure Unit)
  | settled (result : Except Failure Unit)
deriving DecidableEq

/-- What happens to a connection: a control message with the result of `reserveTTS`, a text message
that is refused before it gets that far, an audio packet with the result of the meter, a transcript
of the voice backend, a step of a goroutine, a deadline or the end of the connection. -/
inductive Call where
  | request (sessionID : String) (requestID : UInt32) (text : String) (reserved : Except Error Unit)
  | abort (sessionID : String) (requestID : UInt32)
  | refused (failure : Failure)
  | audio (packet : List UInt8) (handled : Except Error Unit)
  | stt (text : String)
  | step (request : ℕ) (input : Input)
  | deadline (request : ℕ)
  | disconnect
deriving DecidableEq

/-! ## Operations -/

/-- `classifyError`. -/
def classifyError : Failure → String
  | .violation value => value.code
  | .error cause =>
    if cause.is errStale then "stale_event"
    else if cause.is contextDeadlineExceeded then "timeout"
    else "operation_failed"

/-- `isSpeechBudgetError`. -/
def isSpeechBudgetError (err : Error) : Bool :=
  err.is SpeechBudget.errInvalid || err.is SpeechBudget.errUnavailable ||
    err.is SpeechBudget.errReservationLost || err.is SpeechBudget.errUsageExceeded

/-- A context keeps the first reason for which it ended. -/
def Synthesis.finishContext (cause : Ended) (s : Synthesis) : Synthesis :=
  { s with ended := s.ended <|> some cause }

namespace Connection

variable (c : Connection)

/-- `write` under a context. -/
def write (ended : Option Ended) (writer : Option ℕ) (message : Message) :
    Connection × Except Failure Unit :=
  match ended with
  | some cause => (c, .error (.error cause.error))
  | none => ({ c with wire := ⟨writer, message⟩ :: c.wire }, .ok ())

/-- `writeJSON` under the context of the connection. -/
def writeJSON (message : Message) : Connection := (c.write none none message).1

/-- The context of a goroutine ends. -/
def endContext (cause : Ended) (request : ℕ) : Connection :=
  { c with syntheses := c.syntheses.modify request (Synthesis.finishContext cause) }

def setStage (request : ℕ) (stage : Stage) : Connection :=
  { c with syntheses := c.syntheses.modify request fun s => { s with stage } }

/-- The slot holds a request with this id. -/
def IsActive (requestID : UInt32) : Prop := c.active.map ActiveTTS.requestID = some requestID
deriving Decidable

/-- The goroutines after `active.cancel()`. -/
def canceled : List Synthesis :=
  match c.active with
  | none => c.syntheses
  | some active => c.syntheses.modify active.request (Synthesis.finishContext .canceled)

/-- `active.cancel()` and `active = nil`. -/
def clearActive : Connection := { c with active := none, syntheses := c.canceled }

/-- `startTTS`. -/
def startTTS (requestID : UInt32) (text : String) (reserved : Except Error Unit) :
    Connection × Except Failure Unit :=
  if c.active.isSome then
    (c, .error (violation "request_in_progress" "only one TTS request is allowed"))
  else
    match reserved with
    | .error err =>
      -- the budget error carries no request id
      let code := if err.is SpeechBudget.errBudgetExceeded then "speech_budget_exceeded"
        else "speech_budget_unavailable"
      (c.writeJSON (.error code), .ok ())
    | .ok () =>
      ({ c with
          active := some ⟨requestID, c.syntheses.length⟩
          syntheses := c.syntheses ++ [{ requestID, text }] }, .ok ())

/-- `abortTTS`. -/
def abortTTS (requestID : UInt32) : Connection × Except Failure Unit :=
  if c.IsActive requestID then (c.clearActive, .ok ())
  else (c, .error (.error (.detailed errStale "request_id mismatch")))

/-- `writeIfActive`. -/
def writeIfActive (request : ℕ) (s : Synthesis) (message : Message) :
    Connection × Except Failure Unit :=
  if c.IsActive s.requestID then c.write s.ended (some request) message
  else (c, .error (.error errStale))

/-- `finishTTS`. Its result is dropped by every caller. -/
def finishTTS (request : ℕ) (s : Synthesis) (state : TTSState) (code : String) : Connection :=
  if c.IsActive s.requestID then
    let event : TTSEvent := ⟨c.sessionID, state, s.requestID, "", code⟩
    (c.write s.ended (some request) (.tts event)).1.clearActive
  else c

/-- `handleTTSError`, up to its call of `finishTTS`. -/
def handleTTSError (cause : Failure) : Stage :=
  if cause.is contextCanceled ∨ cause.is errStale then .done
  else .finishing .error "synthesis_failed"

/-- Where the goroutine goes on after a call that may fail. -/
def afterCall (result : Except Failure Unit) (stage : Stage) : Stage :=
  match result with
  | .error cause => handleTTSError cause
  | .ok () => stage

/-- The `start` event of a request. -/
def startEvent (s : Synthesis) : TTSEvent := ⟨c.sessionID, .start, s.requestID, "", ""⟩

/-- The `sentence_start` event of a request. -/
def sentenceEvent (s : Synthesis) : TTSEvent :=
  ⟨c.sessionID, .sentenceStart, s.requestID, s.text, ""⟩

/-- One step of `streamTTS`. What `emit` returns to the synthesizer is its own affair: it may go on
or return any error. -/
def streamTTS (request : ℕ) (s : Synthesis) (input : Input) : Connection :=
  match s.stage, input with
  | .start, .go =>
    let (next, result) := c.writeIfActive request s (.tts (c.startEvent s))
    next.setStage request (afterCall result .sentence)
  | .sentence, .go =>
    let (next, result) := c.writeIfActive request s (.tts (c.sentenceEvent s))
    next.setStage request (afterCall result (.streaming 0))
  | .streaming frames, .frame opus =>
    match encodeAudioPacket c.protocolVersion opus with
    | .error _ => c.setStage request (.streaming (frames + 1))
    | .ok packet =>
      (c.writeIfActive request s (.audio packet)).1.setStage request (.streaming (frames + 1))
  | .streaming frames, .returned result =>
    c.setStage request (afterCall result (.settling frames))
  | .settling _, .settled result => c.setStage request (afterCall result (.finishing .stop ""))
  | .finishing state code, .go => (c.finishTTS request s state code).setStage request .done
  | _, _ => c

/-- `reportViolation`. -/
def reportViolation (cause : Failure) : Connection :=
  let reported := c.writeJSON (.error (classifyError cause))
  { reported with
    violations := c.violations + 1
    closed := decide (3 ≤ c.violations + 1) }

/-- The reader reports what `handleText` returns. -/
def report (outcome : Connection × Except Failure Unit) : Connection :=
  match outcome.2 with
  | .error cause => outcome.1.reportViolation cause
  | .ok () => outcome.1

/-- The part of `handleText` that both control messages share. -/
def handleControl (sessionID : String) (handle : Connection × Except Failure Unit) :
    Connection × Except Failure Unit :=
  if sessionID ≠ c.sessionID then (c, .error (.error (.detailed errStale "session_id mismatch")))
  else handle

/-- The reader on a binary message. -/
def handleAudio (packet : List UInt8) (handled : Except Error Unit) : Connection :=
  match decodeAudioPacket c.protocolVersion packet, handled with
  | .error cause, _ => c.reportViolation cause
  | .ok _, .ok () => c
  | .ok _, .error err =>
    if err.is SpeechBudget.errBudgetExceeded then c.writeJSON (.error "speech_budget_exceeded")
    else if isSpeechBudgetError err then
      { c.writeJSON (.error "speech_budget_unavailable") with closed := true }
    else { c with closed := true }

/-- A connection that is closed does nothing any more. -/
def next (call : Call) : Connection :=
  if c.closed then c
  else
    match call with
    | .request sessionID requestID text reserved =>
      report (c.handleControl sessionID (c.startTTS requestID text reserved))
    | .abort sessionID requestID => report (c.handleControl sessionID (c.abortTTS requestID))
    | .refused failure => c.reportViolation failure
    | .audio packet handled => c.handleAudio packet handled
    | .stt text => c.writeJSON (.stt c.sessionID text)
    | .step request input =>
      match c.syntheses[request]? with
      | none => c
      | some s => c.streamTTS request s input
    | .deadline request => c.endContext .deadlineExceeded request
    | .disconnect => { c.clearActive with closed := true }

end Connection

/-- A connection serves its calls one after the other. -/
def serve (c : Connection) (call : Call) : Connection × Unit := (c.next call, ())

/-- A connection after its hello. -/
def opened (sessionID : String) (protocolVersion : ℤ) : Connection := { sessionID, protocolVersion }

/-! ## What a call can do -/

/-- `Stream` or `settleTTS` fails with an error that `handleTTSError` takes for the end of the
request. -/
def Input.Dropped : Input → Prop
  | .returned (.error cause) | .settled (.error cause) =>
    cause.is contextCanceled = true ∨ cause.is errStale = true
  | .returned (.ok ()) | .settled (.ok ()) | .go | .frame _ => False

/-- What a call can do to an open connection. -/
inductive Effect (c : Connection) : Call → Connection → Prop
  /-- Only messages that belong to no request are sent. -/
  | notice (call : Call) (messages : List Message) (violations : ℕ) (closed : Bool) :
      Effect c call { c with
        wire := messages.map (Sent.mk none) ++ c.wire
        violations
        closed }
  /-- A request takes the free slot. -/
  | started (requestID : UInt32) (text : String) (free : c.active = none) :
      Effect c (.request c.sessionID requestID text (.ok ())) { c with
        active := some ⟨requestID, c.syntheses.length⟩
        syntheses := c.syntheses ++ [{ requestID, text }] }
  /-- The device aborts the request in the slot. -/
  | aborted (active : ActiveTTS) (held : c.active = some active) :
      Effect c (.abort c.sessionID active.requestID) c.clearActive
  | disconnected :
      Effect c .disconnect { c with active := none, syntheses := c.canceled, closed := true }
  | expired (request : ℕ) :
      Effect c (.deadline request) (c.endContext .deadlineExceeded request)
  /-- A goroutine goes on without a message. It ends here only if its context has ended, if the
  slot has another id, or if it takes an error for the end of its request. -/
  | silent (request : ℕ) (input : Input) (s : Synthesis) (stage : Stage)
      (goroutine : c.syntheses[request]? = some s) (running : s.stage ≠ .done)
      (ends : stage = .done → s.ended ≠ none ∨ ¬ c.IsActive s.requestID ∨ input.Dropped)
      (terminal : ∀ state code, stage = .finishing state code → state.isTerminal = true) :
      Effect c (.step request input) (c.setStage request stage)
  /-- A goroutine sends an event or a frame. -/
  | spoke (request : ℕ) (input : Input) (s : Synthesis) (stage : Stage) (message : Message)
      (goroutine : c.syntheses[request]? = some s) (running : s.stage ≠ .done)
      (live : s.ended = none) (active : c.IsActive s.requestID)
      (opening : message.isTerminal = false)
      (going : stage ≠ .done ∧ ∀ state code, stage ≠ .finishing state code) :
      Effect c (.step request input)
        ({ c with wire := ⟨some request, message⟩ :: c.wire }.setStage request stage)
  /-- A goroutine ends the request in the slot, with an event if its own context is live. -/
  | finished (request : ℕ) (s : Synthesis) (state : TTSState) (code : String) (active : ActiveTTS)
      (goroutine : c.syntheses[request]? = some s) (finishing : s.stage = .finishing state code)
      (held : c.active = some active) (same : active.requestID = s.requestID) :
      Effect c (.step request .go)
        ({ c with
            active := none
            syntheses := c.canceled
            wire := (if s.ended = none then
              [Sent.mk (some request) (.tts ⟨c.sessionID, state, s.requestID, "", code⟩)]
              else []) ++ c.wire }.setStage request .done)

variable {request : ℕ} {s : Synthesis}

namespace Connection

variable {c : Connection}

theorem effect_self (call : Call) : Effect c call c := .notice call [] c.violations c.closed

theorem effect_reportViolation (call : Call) (cause : Failure) :
    Effect c call (c.reportViolation cause) :=
  .notice call [.error (classifyError cause)] _ _

theorem isActive_iff :
    c.IsActive requestID ↔ ∃ active, c.active = some active ∧ active.requestID = requestID := by
  rw [IsActive, Option.map_eq_some_iff]

theorem effect_report (call : Call) (sessionID : String) (handle : Connection × Except Failure Unit)
    (hhandle : sessionID = c.sessionID → Effect c call (report handle)) : Effect c call (report
    (c.handleControl sessionID handle)) := by
  rw [handleControl]
  split
  · exact effect_reportViolation call _
  · next h => exact hhandle (not_not.mp h)

theorem effect_startTTS (requestID : UInt32) (text : String) (reserved : Except Error Unit) :
    Effect c (.request c.sessionID requestID text reserved)
      (report (c.startTTS requestID text reserved)) := by
  unfold startTTS
  split
  · exact effect_reportViolation _ _
  next hfree =>
  cases reserved with
  | error err => exact .notice _ [.error _] c.violations c.closed
  | ok value =>
    rw [Option.not_isSome_iff_eq_none] at hfree
    exact .started requestID text hfree

theorem effect_abortTTS (requestID : UInt32) :
    Effect c (.abort c.sessionID requestID) (report (c.abortTTS requestID)) := by
  rw [abortTTS]
  split
  · next hactive =>
    obtain ⟨active, hheld, rfl⟩ := isActive_iff.mp hactive
    exact .aborted active hheld
  · exact effect_reportViolation _ _

theorem effect_handleAudio (packet : List UInt8) (handled : Except Error Unit) :
    Effect c (.audio packet handled) (c.handleAudio packet handled) := by
  unfold handleAudio
  split
  · exact effect_reportViolation _ _
  · exact effect_self _
  split
  · exact .notice _ [.error _] c.violations c.closed
  split
  · exact .notice _ [.error _] c.violations true
  · exact .notice _ [] c.violations true

/-! The steps of a goroutine. -/

theorem handleTTSError_eq_done (h : handleTTSError cause = .done) :
    cause.is contextCanceled = true ∨ cause.is errStale = true := by
  rw [handleTTSError] at h
  split at h
  · assumption
  · cases h

theorem isTerminal_of_handleTTSError
    (h : handleTTSError cause = .finishing state code) : state.isTerminal = true := by
  rw [handleTTSError] at h
  split at h
  · cases h
  · cases h
    rfl

/-- A write of a goroutine goes out, or it fails because the context has ended or the slot has
another id. -/
theorem writeIfActive_cases (request : ℕ) (s : Synthesis) (message : Message) :
    (s.ended = none ∧ c.IsActive s.requestID ∧ c.writeIfActive request s message =
        ({ c with wire := ⟨some request, message⟩ :: c.wire }, .ok ())) ∨
      ((s.ended ≠ none ∨ ¬ c.IsActive s.requestID) ∧
        ∃ cause, c.writeIfActive request s message = (c, .error cause)) := by
  rw [writeIfActive]
  split
  · next hactive =>
    cases hended : s.ended with
    | none => exact Or.inl ⟨rfl, hactive, rfl⟩
    | some cause => exact Or.inr ⟨Or.inl (by simp), _, rfl⟩
  · grind

theorem effect_opening (hs : c.syntheses[request]? = some s) (hrunning : s.stage ≠ .done)
    (hmessage :
    message.isTerminal = false) (hstage : stage ≠ .done ∧ ∀ state code, stage ≠ .finishing state
    code) : Effect c (.step request input) ((c.writeIfActive request s message).1.setStage request
    (afterCall (c.writeIfActive request s message).2 stage)) := by
  rcases writeIfActive_cases (c := c) request s message with
    ⟨hlive, hactive, hwrite⟩ | ⟨hfailed, cause, hwrite⟩
  · rw [hwrite]
    exact .spoke request input s stage message hs hrunning hlive hactive hmessage hstage
  · rw [hwrite]
    exact .silent request input s _ hs hrunning (fun _ => hfailed.imp_right Or.inl)
      fun state code h => isTerminal_of_handleTTSError h

theorem effect_frame (hs : c.syntheses[request]? = some s) (hrunning : s.stage ≠ .done) (hmessage :
    message.isTerminal = false) : Effect c (.step request (.frame opus)) ((c.writeIfActive request s
    message).1.setStage request (.streaming frames)) := by
  rcases writeIfActive_cases (c := c) request s message with
    ⟨hlive, hactive, hwrite⟩ | ⟨hfailed, cause, hwrite⟩
  · rw [hwrite]
    exact .spoke request _ s _ message hs hrunning hlive hactive hmessage ⟨nofun, nofun⟩
  · rw [hwrite]
    exact .silent request _ s _ hs hrunning nofun nofun

theorem effect_returned (hs : c.syntheses[request]? = some s) (hrunning : s.stage ≠ .done)
    (hinput : ∀
    cause, result = .error cause → cause.is contextCanceled = true ∨ cause.is errStale = true →
    input.Dropped) (hgoes : stage ≠ .done) (hstage : ∀ state code, stage = .finishing state code →
    state.isTerminal = true) : Effect c (.step request input) (c.setStage request (afterCall result
    stage)) := by
  cases result with
  | error cause =>
    exact .silent request input s _ hs hrunning
      (fun h => Or.inr (Or.inr (hinput cause rfl (handleTTSError_eq_done h))))
      fun state code h => isTerminal_of_handleTTSError h
  | ok value => exact .silent request input s _ hs hrunning (fun h => absurd h hgoes) hstage

theorem effect_finishTTS
    (hs : c.syntheses[request]? = some s) (hstage : s.stage = .finishing state code) :
    Effect c (.step request .go) ((c.finishTTS request s state code).setStage request .done) := by
  rw [finishTTS]
  split
  · next hactive =>
    obtain ⟨active, hheld, hsame⟩ := isActive_iff.mp hactive
    have heffect := Effect.finished request s state code active hs hstage hheld hsame
    cases hended : s.ended with
    | none =>
      rw [hended, if_pos rfl] at heffect
      exact heffect
    | some cause =>
      rw [hended, if_neg (by simp)] at heffect
      exact heffect
  · next hactive =>
    exact .silent request .go s .done hs (by rw [hstage]; nofun) (fun _ => Or.inr (Or.inl hactive))
      nofun

theorem effect_streamTTS (hs : c.syntheses[request]? = some s)
    (input : Input) : Effect c (.step request input) (c.streamTTS request s input) := by
  unfold streamTTS
  split
  · next hstage => exact effect_opening hs (by rw [hstage]; nofun) rfl ⟨nofun, nofun⟩
  · next hstage => exact effect_opening hs (by rw [hstage]; nofun) rfl ⟨nofun, nofun⟩
  · next hstage =>
    split
    · exact .silent request _ s _ hs (by rw [hstage]; nofun) nofun nofun
    · exact effect_frame hs (by rw [hstage]; nofun) rfl
  · next result hstage =>
    exact effect_returned hs (by rw [hstage]; nofun) (fun cause h => h ▸ id) nofun nofun
  · next result hstage =>
    refine effect_returned hs (by rw [hstage]; nofun) (fun cause h => h ▸ id) nofun ?_
    rintro state code ⟨⟩
    rfl
  · next hstage => exact effect_finishTTS hs hstage
  · exact effect_self _

/-- A call does nothing else. -/
theorem next_effect (hopen : c.closed = false) (call : Call) : Effect c call (c.next call) := by
  unfold next
  rw [hopen]
  cases call with
  | request sessionID requestID text reserved => grind [effect_report, effect_startTTS]
  | abort sessionID requestID => exact effect_report _ _ _ fun h => h ▸ effect_abortTTS requestID
  | refused failure => exact effect_reportViolation _ failure
  | audio packet handled => exact effect_handleAudio packet handled
  | stt text => exact .notice _ [.stt c.sessionID text] c.violations c.closed
  | step request input => grind [Bool.false_eq_true, effect_self, effect_streamTTS]
  | deadline request => exact .expired request
  | disconnect => exact .disconnected

end Connection

end XiaozhiPlatform.VoiceConnection
