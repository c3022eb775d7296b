import XiaozhiPlatform.Device.AgentController

/-!
# Turns of the voice agent

The log of the controller tells which turns there were: a turn begins when a request is submitted to
the Agent, and what is played before the next submission belongs to it. `Effect` says once what an
event can do to the bridge, to the turns and to the messages that were sent, and `handle_effect` that
it does no more; a transcript during a turn is an interrupt followed by the start of a turn.

The main result is `controller_turns`.
-/

namespace XiaozhiPlatform.VoiceAgent

open GoLib CLib VoiceAgentProtocol

/-! ## Views of the log -/

/-- A request of the Agent, with the playback events until the next request, oldest first. -/
structure Turn where
  requestID : UInt32
  heard : List (PlaybackEvent × UInt32) := []
deriving DecidableEq

/-- A playback event belongs to the newest turn. Without a turn it belongs to none, which is kept
visible as a turn of request zero. -/
def hear (event : PlaybackEvent) (requestID : UInt32) : List Turn → List Turn
  | [] => [⟨0, [(event, requestID)]⟩]
  | turn :: older => { turn with heard := turn.heard ++ [(event, requestID)] } :: older

/-- The turns of a log, newest first. -/
def turns : List Op → List Turn
  | [] => []
  | .submitAgent requestID _ _ _ :: log => ⟨requestID, []⟩ :: turns log
  | .playback event requestID :: log => hear event requestID (turns log)
  | .cancelAgent _ _ :: log | .sendJSON _ _ :: log | .stateChanged _ _ _ :: log => turns log

/-- The messages that went out, newest first. -/
def sent : List Op → List (List UInt8)
  | [] => []
  | .sendJSON json true :: log => json :: sent log
  | .sendJSON _ false :: log | .submitAgent _ _ _ _ :: log | .playback _ _ :: log
  | .cancelAgent _ _ :: log | .stateChanged _ _ _ :: log => sent log

/-- The bridge without an active request. -/
def Bridge.cleared (bridge : Bridge) : Bridge :=
  { bridge with state := .idle, activeRequestID := 0, sessionID := noSession }

/-- The id after an id: the counter skips zero. -/
def successor (requestID : UInt32) : UInt32 := if requestID + 1 = 0 then 1 else requestID + 1

/-- The id that the bridge allocates next. -/
def Bridge.fresh (bridge : Bridge) : UInt32 :=
  if bridge.nextRequestID = 0 then 1 else bridge.nextRequestID

theorem successor_ne_zero (requestID : UInt32) : successor requestID ≠ 0 := by
  rw [successor]
  split
  · decide
  · assumption

theorem successor_ne (requestID : UInt32) : successor requestID ≠ requestID := by grind [successor]

/-! ## What an event can do -/

/-- What an event can do to a controller, on one side of a barge-in. -/
inductive Effect (c : Controller) (answers : Answers) : Event → Controller → Prop
  /-- Nothing that anybody sees. -/
  | unchanged (event : Event) (c' : Controller) (bridge : c'.bridge = c.bridge)
      (log : c'.log = c.log) : Effect c answers event c'
  /-- A transcript starts a turn. -/
  | submitted (sessionID text : CString) (c' : Controller) (idle : c.bridge.state = .idle)
      (valid : Controller.ValidTurn sessionID text)
      (bridge : c'.bridge = ⟨.agentRunning, c.bridge.fresh, successor c.bridge.fresh, sessionID⟩)
      (turn : turns c'.log = ⟨c.bridge.fresh, []⟩ :: turns c.log) (sends : sent c'.log = sent c.log) :
      Effect c answers (.sttFinal (some sessionID) (some text)) c'
  /-- The Agent refuses the turn. -/
  | rejected (sessionID text : CString) (c' : Controller) (idle : c.bridge.state = .idle)
      (bridge : c'.bridge = ⟨.idle, 0, successor c.bridge.fresh, noSession⟩)
      (turn : turns c'.log = ⟨c.bridge.fresh, []⟩ :: turns c.log) (sends : sent c'.log = sent c.log) :
      Effect c answers (.sttFinal (some sessionID) (some text)) c'
  /-- The answer of the Agent is sent to the gateway. -/
  | requested (text : CString) (json : List UInt8) (c' : Controller)
      (running : c.bridge.state = .agentRunning) (active : c.bridge.activeRequestID ≠ 0)
      (build : c.built (c.buildRequest c.bridge.activeRequestID text) = some json)
      (bridge : c'.bridge = { c.bridge with state := .ttsPending })
      (turn : turns c'.log = turns c.log) (sends : sent c'.log = json :: sent c.log) :
      Effect c answers (.agentFinal c.bridge.activeRequestID (some text)) c'
  /-- The turn ends before anything was asked of the gateway. -/
  | failed (event : Event) (c' : Controller) (running : c.bridge.state = .agentRunning)
      (bridge : c'.bridge = c.bridge.cleared) (turn : turns c'.log = turns c.log)
      (sends : sent c'.log = sent c.log) : Effect c answers event c'
  /-- The gateway starts to speak. -/
  | played (c' : Controller) (pending : c.bridge.state = .ttsPending)
      (bridge : c'.bridge = { c.bridge with state := .ttsPlaying })
      (turn : turns c'.log = hear .begin c.bridge.activeRequestID (turns c.log))
      (sends : sent c'.log = sent c.log) :
      Effect c answers
        (.ttsEvent (some c.bridge.sessionID) c.bridge.activeRequestID (some .started)) c'
  /-- The gateway ends the request. -/
  | ended (event : TTSEvent) (playback : PlaybackEvent) (c' : Controller) (speaking : c.Speaking)
      (terminal : event = .stopped ∧ playback = .drain ∨ event = .error ∧ playback = .flush)
      (bridge : c'.bridge = c.bridge.cleared)
      (turn : turns c'.log = hear playback c.bridge.activeRequestID (turns c.log))
      (sends : sent c'.log = sent c.log) :
      Effect c answers
        (.ttsEvent (some c.bridge.sessionID) c.bridge.activeRequestID (some event)) c'
  /-- The device ends the request and tells the gateway, if it can. -/
  | aborted (reason : InterruptReason) (c' : Controller) (speaking : c.Speaking)
      (bridge : c'.bridge = c.bridge.cleared)
      (turn : turns c'.log = hear .flush c.bridge.activeRequestID (turns c.log))
      (sends : sent c'.log = (if answers.sendJSON then
        (c.built ((c.because reason).buildAbort c.bridge.activeRequestID)).toList else []) ++ sent c.log) :
      Effect c answers (.interrupt (some reason)) c'

/-- What an event does: a transcript during a turn first interrupts it. -/
inductive Handled (c : Controller) (answers : Answers) (event : Event) (c' : Controller) : Prop
  | once (effect : Effect c answers event c')
  | bargeIn (between : Controller) (sessionID text : CString)
      (transcript : event = .sttFinal (some sessionID) (some text))
      (interrupts : Effect c answers (.interrupt (some .userBargeIn)) between)
      (buffer : between.txBufferSize = c.txBufferSize)
      (starts : Effect between answers event c')

namespace Controller

variable {answers : Answers} {c : Controller}

section Views

variable (c)

@[simp] theorem bridge_transition (next : State) :
    (c.transition next).bridge = { c.bridge with state := next } := by
  rw [transition]
  split
  · next h => rw [← h]
  · rfl

@[simp] theorem turns_transition (next : State) : turns (c.transition next).log = turns c.log := by
  rw [transition]
  split <;> rfl

@[simp] theorem sent_transition (next : State) : sent (c.transition next).log = sent c.log := by
  rw [transition]
  split <;> rfl

@[simp] theorem bridge_clearActiveRequest : c.clearActiveRequest.bridge = c.bridge.cleared := by
  simp [clearActiveRequest, Bridge.cleared]

@[simp] theorem turns_clearActiveRequest : turns c.clearActiveRequest.log = turns c.log := by
  simp [clearActiveRequest]

@[simp] theorem sent_clearActiveRequest : sent c.clearActiveRequest.log = sent c.log := by
  simp [clearActiveRequest]

theorem txBufferSize_transition (next : State) :
    (c.transition next).txBufferSize = c.txBufferSize := by
  unfold transition
  split <;> rfl

theorem txBufferSize_clearActiveRequest : c.clearActiveRequest.txBufferSize = c.txBufferSize :=
  txBufferSize_transition c .idle

theorem txBufferSize_sendBuilt (answers : Answers) (result : Result × Memory × Option ℕ) :
    (c.sendBuilt answers result).1.txBufferSize = c.txBufferSize := by
  simp only [sendBuilt]
  split <;> rfl

theorem txBufferSize_interruptBridge (answers : Answers) :
    (c.interruptBridge answers).1.txBufferSize = c.txBufferSize := by
  simp only [interruptBridge]
  split
  · rfl
  split
  · exact txBufferSize_clearActiveRequest _
  · exact (txBufferSize_clearActiveRequest _).trans (txBufferSize_sendBuilt c answers _)

theorem txBufferSize_flushSpeech : c.flushSpeech.txBufferSize = c.txBufferSize := by
  unfold flushSpeech
  split <;> rfl

theorem allocateRequestID_eq : c.allocateRequestID =
    (c.bridge.fresh, { c with
      bridge := { c.bridge with nextRequestID := successor c.bridge.fresh } }) := rfl

end Views

theorem sendBuilt_spec (answers : Answers) (c : Controller) (result : Result × Memory × Option ℕ) :
    (c.sendBuilt answers result).1.bridge = c.bridge ∧ turns (c.sendBuilt answers result).1.log =
    turns c.log ∧ sent (c.sendBuilt answers result).1.log = (if answers.sendJSON then (c.built
    result).toList else []) ++ sent c.log ∧ ((c.sendBuilt answers result).2 = true ↔
    answers.sendJSON = true ∧ (c.built result).isSome = true) := by
  unfold sendBuilt
  cases hjson : c.built result with
  | none => simp
  | some json =>
    cases hsend : answers.sendJSON <;> simp [emit, turns, sent]

theorem interruptBridge_spec (answers : Answers) (c : Controller) (hbusy : c.bridge.state ≠ .idle) :
    (c.interruptBridge answers).1.bridge = c.bridge.cleared ∧ turns (c.interruptBridge
    answers).1.log = turns c.log ∧ sent (c.interruptBridge answers).1.log = (if c.Speaking ∧
    answers.sendJSON then (c.built (c.buildAbort c.bridge.activeRequestID)).toList else []) ++ sent
    c.log := by
  obtain ⟨hbridge, hturns, hsent, -⟩ :=
    sendBuilt_spec answers c (c.buildAbort c.bridge.activeRequestID)
  simp only [interruptBridge, if_neg hbusy]
  by_cases hrunning : c.bridge.state = .agentRunning
  · simp [hrunning, emit, turns, sent, Speaking]
  · have hspeaking : c.Speaking := by
      unfold Speaking
      cases hstate : c.bridge.state <;> simp_all
    simp [hrunning, hspeaking, cancelTTS, hbridge, hturns, hsent]

/-- The start of a turn on an idle bridge. What the controller did before without a trace does not
matter. -/
theorem effect_startTurn (before : Controller) (hbridge : c.bridge = before.bridge) (hturns : turns
    c.log = turns before.log) (hsent : sent c.log = sent before.log) {sessionID text : CString}
    (hidle : before.bridge.state = .idle) (hvalid : ValidTurn sessionID text) (reason :
    InterruptReason) : Effect before answers (.sttFinal (some sessionID) (some text)) ((c.startTurn
    answers sessionID text).1.because reason) := by
  cases hsubmit : answers.submitAgent with
  | true =>
    refine .submitted sessionID text _ hidle hvalid ?_ ?_ ?_ <;>
      simp [startTurn, because, allocateRequestID_eq, hsubmit, emit, turns, sent, hbridge, hturns,
        hsent]
  | false =>
    refine .rejected sessionID text _ hidle ?_ ?_ ?_ <;>
      simp [startTurn, because, allocateRequestID_eq, hsubmit, emit, turns, sent, Bridge.cleared,
        hbridge, hturns, hsent]

theorem agentRunning_of_not_speaking (hbusy : c.bridge.state ≠ .idle) (h : ¬ c.Speaking) :
    c.bridge.state = .agentRunning := by
  unfold Speaking at h
  cases hstate : c.bridge.state <;> simp_all

theorem effect_bargeIn (answers : Answers) (hbusy : c.bridge.state ≠ .idle) :
    Effect c answers (.interrupt (some .userBargeIn))
      ((c.flushSpeech.because .userBargeIn).interruptBridge answers).1 := by
  have hbridge : (c.flushSpeech.because .userBargeIn).bridge = c.bridge := by
    simp only [because, flushSpeech]
    split <;> rfl
  obtain ⟨hcleared, hturns, hsent⟩ :=
    interruptBridge_spec answers (c.flushSpeech.because .userBargeIn) (by rwa [hbridge])
  rw [hbridge] at hcleared hsent
  by_cases hspeaking : c.Speaking
  · have hspeaking' : (c.flushSpeech.because .userBargeIn).Speaking := by
      rwa [Speaking, hbridge]
    simp only [hspeaking', true_and] at hsent
    rw [flushSpeech, if_pos hspeaking] at hcleared hturns hsent ⊢
    exact .aborted .userBargeIn _ hspeaking hcleared hturns hsent
  · have hspeaking' : ¬ (c.flushSpeech.because .userBargeIn).Speaking := by
      rwa [Speaking, hbridge]
    simp only [hspeaking', false_and, if_false, List.nil_append] at hsent
    rw [flushSpeech, if_neg hspeaking] at hcleared hturns hsent ⊢
    exact .failed _ _ (agentRunning_of_not_speaking hbusy hspeaking) hcleared hturns hsent

theorem handled_onSTTFinal (sessionID text : Option CString) :
    Handled c answers (.sttFinal sessionID text) (c.onSTTFinal answers sessionID text).1 := by
  have hnothing (event : Event) : Handled c answers event c := .once (.unchanged event c rfl rfl)
  unfold onSTTFinal
  split
  case h_2 => exact hnothing _
  next sessionID text =>
  split
  · exact hnothing _
  next hvalid =>
  rw [not_not] at hvalid
  simp only [bridgeOnSTTFinal, if_pos hvalid]
  by_cases hidle : c.bridge.state = .idle
  · have hsilent : c.flushSpeech = c := by simp [flushSpeech, Speaking, hidle]
    rw [hsilent, if_neg (by simpa [because] using hidle)]
    exact .once (effect_startTurn (c := c.because .userBargeIn) c rfl rfl rfl hidle hvalid _)
  · have hbridge : (c.flushSpeech.because .userBargeIn).bridge = c.bridge := by
      simp only [because, flushSpeech]
      split <;> rfl
    rw [if_pos (by rwa [hbridge])]
    have hinterrupts := effect_bargeIn answers hidle
    refine .bargeIn _ sessionID text rfl hinterrupts ?_ (effect_startTurn _ rfl rfl rfl ?_ hvalid _)
    · exact (txBufferSize_interruptBridge _ answers).trans (txBufferSize_flushSpeech c)
    · rw [(interruptBridge_spec answers _ (by rwa [hbridge])).1, Bridge.cleared]

theorem requestTTS_spec (answers : Answers) (hrunning : c.bridge.state = .agentRunning)
    (text : CString) :
    let called := (c.transition .ttsPending).requestTTS answers c.bridge.activeRequestID text
    let json := c.built (c.buildRequest c.bridge.activeRequestID text)
    called.1.bridge = { c.bridge with state := .ttsPending } ∧
      turns called.1.log = turns c.log ∧
      sent called.1.log = (if answers.sendJSON then json.toList else []) ++ sent c.log ∧
      (called.2 = true ↔ answers.sendJSON = true ∧ json.isSome = true) := by
  obtain ⟨hbridge, hturns, hsent, hok⟩ := sendBuilt_spec answers (c.transition .ttsPending)
    ((c.transition .ttsPending).buildRequest c.bridge.activeRequestID text)
  have hbuilt : (c.transition .ttsPending).built
      ((c.transition .ttsPending).buildRequest c.bridge.activeRequestID text) =
      c.built (c.buildRequest c.bridge.activeRequestID text) := by
    rw [transition, if_neg (by rw [hrunning]; decide)]
    rfl
  rw [hbuilt] at hsent hok
  rw [bridge_transition] at hbridge
  rw [turns_transition] at hturns
  rw [sent_transition] at hsent
  exact ⟨hbridge, hturns, hsent, hok⟩

theorem effect_bridgeOnAgentFinal (requestID : UInt32) (text : Option CString) :
    Effect c answers (.agentFinal requestID text) (c.bridgeOnAgentFinal answers requestID text).1 := by
  unfold bridgeOnAgentFinal
  cases text with
  | none => exact .unchanged _ c rfl rfl
  | some text =>
  simp only
  split
  · exact .unchanged _ c rfl rfl
  split
  · exact .unchanged _ c rfl rfl
  next hactive =>
  split
  · exact .unchanged _ c rfl rfl
  next hrunning =>
  rw [not_not] at hactive hrunning
  obtain ⟨hid, rfl⟩ := hactive
  obtain ⟨hbridge, hturns, hsent, hok⟩ := requestTTS_spec answers hrunning text
  split
  · next hsuccess =>
    obtain ⟨hsend, hsome⟩ := hok.mp hsuccess
    obtain ⟨json, hjson⟩ := Option.isSome_iff_exists.mp hsome
    refine .requested text json _ hrunning hid hjson hbridge hturns ?_
    rw [hsent, hjson, if_pos hsend]
    rfl
  · next hfailure =>
    rw [hok] at hfailure
    refine .failed _ _ hrunning ?_ ?_ ?_
    · rw [bridge_clearActiveRequest, hbridge]
      rfl
    · rw [turns_clearActiveRequest, hturns]
    · rw [sent_clearActiveRequest, hsent]
      by_cases hsend : answers.sendJSON
      · have hnone : c.built (c.buildRequest c.bridge.activeRequestID text) = none := by
          simpa [hsend] using hfailure
        simp [hnone]
      · simp [hsend]

theorem onRequest_cases (requestID : UInt32) (allowed : State → Bool) (next : Controller →
    Controller) : (c.onRequest requestID allowed next).1 = c ∧ (c.onRequest requestID allowed
    next).2 ≠ .ok ∨ c.bridge.activeRequestID = requestID ∧ allowed c.bridge.state = true ∧
    c.onRequest requestID allowed next = (next c, .ok) := by
  unfold onRequest
  split
  · exact Or.inl ⟨rfl, nofun⟩
  split
  · exact Or.inl ⟨rfl, nofun⟩
  next hactive =>
  rw [not_not] at hactive
  split
  · next hallowed => exact Or.inr ⟨hactive.2, hallowed, rfl⟩
  · exact Or.inl ⟨rfl, nofun⟩

theorem effect_bridgeOnAgentError (requestID : UInt32) :
    Effect c answers (.agentError requestID) (c.bridgeOnAgentError requestID).1 := by
  rcases onRequest_cases (c := c) requestID (· = .agentRunning) clearActiveRequest with
    ⟨h, -⟩ | ⟨-, hrunning, h⟩
  · exact .unchanged _ _ (by rw [bridgeOnAgentError, h]) (by rw [bridgeOnAgentError, h])
  · rw [bridgeOnAgentError, h]
    exact .failed _ _ (of_decide_eq_true hrunning) (bridge_clearActiveRequest c)
      (turns_clearActiveRequest c) (sent_clearActiveRequest c)

theorem effect_terminal (event : TTSEvent) (playback : PlaybackEvent) (hterminal : event = .stopped
    ∧ playback = .drain ∨ event = .error ∧ playback = .flush) : Effect c answers (.ttsEvent (some
    c.bridge.sessionID) c.bridge.activeRequestID (some event)) (playbackAfter (c.onRequest
    c.bridge.activeRequestID (fun state => state = .ttsPending || state = .ttsPlaying)
    clearActiveRequest) playback c.bridge.activeRequestID).1 := by
  rcases onRequest_cases (c := c) c.bridge.activeRequestID
    (fun state => state = .ttsPending || state = .ttsPlaying) clearActiveRequest with
    ⟨h, hfailed⟩ | ⟨-, hspeaking, h⟩
  · rw [playbackAfter, if_neg hfailed, h]
    exact .unchanged _ c rfl rfl
  · rw [h]
    have hspeaking : c.Speaking := by simpa [Speaking] using hspeaking
    refine .ended event playback _ hspeaking hterminal ?_ ?_ ?_ <;>
      simp [playbackAfter, emit, turns, sent]

theorem effect_onTTSEvent (sessionID : Option CString) (requestID : UInt32) (event : Option
    TTSEvent) : Effect c answers (.ttsEvent sessionID requestID event) (c.onTTSEvent sessionID
    requestID event).1 := by
  unfold onTTSEvent
  cases sessionID with
  | none => exact .unchanged _ c rfl rfl
  | some sessionID =>
  simp only
  split
  · exact .unchanged _ c rfl rfl
  split
  · exact .unchanged _ c rfl rfl
  next hmatch =>
  simp only [not_or, not_not] at hmatch
  obtain ⟨hopen, hsession, rfl⟩ := hmatch
  -- a session that is not empty is the session of an active request
  have hactive : c.activeSessionID = c.bridge.sessionID := by grind [activeSessionID]
  rw [hactive] at hsession
  subst hsession
  split
  · -- the first start is heard, a repeated one changes nothing
    rcases onRequest_cases (c := c) c.bridge.activeRequestID
      (fun state => state = .ttsPlaying || state = .ttsPending)
      (fun c => c.transition .ttsPlaying) with ⟨h, hfailed⟩ | ⟨-, hallowed, h⟩
    · split
      · rw [playbackAfter, bridgeOnTTSStarted, if_neg hfailed, h]
        exact .unchanged _ c rfl rfl
      · rw [bridgeOnTTSStarted, h]
        exact .unchanged _ c rfl rfl
    · rw [bridgeOnTTSStarted, h]
      split
      · next hpending =>
        refine .played _ hpending ?_ ?_ ?_ <;> simp [playbackAfter, emit, turns, sent]
      · next hpending =>
        have hplaying : c.bridge.state = .ttsPlaying := by simpa [hpending] using hallowed
        rw [transition, if_pos hplaying]
        exact .unchanged _ c rfl rfl
  · exact effect_terminal .stopped .drain (Or.inl ⟨rfl, rfl⟩)
  · exact effect_terminal .error .flush (Or.inr ⟨rfl, rfl⟩)
  · exact .unchanged _ c rfl rfl

theorem effect_interrupt (reason : Option InterruptReason) :
    Effect c answers (.interrupt reason) (c.interrupt answers reason).1 := by
  unfold interrupt
  cases reason with
  | none => exact .unchanged _ c rfl rfl
  | some reason =>
  simp only
  by_cases hidle : c.bridge.state = .idle
  · have hsilent : ¬ c.Speaking := by simp [Speaking, hidle]
    have hidle' : (c.because reason).bridge.state = .idle := hidle
    simp only [if_neg hsilent, interruptBridge, if_pos hidle']
    exact .unchanged _ _ rfl rfl
  · obtain ⟨hcleared, hturns, hsent⟩ :=
      interruptBridge_spec answers (c.because reason) hidle
    by_cases hspeaking : c.Speaking
    · have hspeaking' : (c.because reason).Speaking := hspeaking
      simp only [hspeaking', true_and] at hsent
      rw [if_pos hspeaking]
      exact .aborted reason _ hspeaking hcleared
        (congrArg (hear .flush c.bridge.activeRequestID) hturns) hsent
    · have hspeaking' : ¬ (c.because reason).Speaking := hspeaking
      simp only [hspeaking', false_and, if_false, List.nil_append] at hsent
      rw [if_neg hspeaking]
      exact .failed _ _ (agentRunning_of_not_speaking hidle hspeaking) hcleared hturns hsent

/-- An event does nothing else. -/
theorem handle_effect (answers : Answers) (c : Controller) (event : Event) :
    Handled c answers event (c.handle answers event).1 := by
  cases event with
  | sttFinal sessionID text => exact handled_onSTTFinal sessionID text
  | agentFinal requestID text => exact .once (effect_bridgeOnAgentFinal requestID text)
  | agentError requestID => exact .once (effect_bridgeOnAgentError requestID)
  | ttsEvent sessionID requestID event => exact .once (effect_onTTSEvent sessionID requestID event)
  | interrupt reason => exact .once (effect_interrupt reason)

end Controller

/-! ## The buffer keeps its size -/

namespace Controller

variable (answers : Answers) (c : Controller)

theorem txBufferSize_startTurn (sessionID text : CString) :
    (c.startTurn answers sessionID text).1.txBufferSize = c.txBufferSize := by
  simp only [startTurn]
  split
  · exact txBufferSize_transition _ _
  · exact (txBufferSize_clearActiveRequest _).trans (txBufferSize_transition _ _)

theorem txBufferSize_onSTTFinal (sessionID text : Option CString) :
    (c.onSTTFinal answers sessionID text).1.txBufferSize = c.txBufferSize := by
  unfold onSTTFinal
  split
  case h_2 => rfl
  split
  · rfl
  next hvalid =>
  have hflush := txBufferSize_flushSpeech c
  simp only [bridgeOnSTTFinal, if_pos (not_not.mp hvalid)]
  refine (txBufferSize_startTurn answers _ _ _).trans ?_
  split
  · exact (txBufferSize_interruptBridge _ answers).trans hflush
  · exact hflush

theorem txBufferSize_bridgeOnAgentFinal (requestID : UInt32) (text : Option CString) :
    (c.bridgeOnAgentFinal answers requestID text).1.txBufferSize = c.txBufferSize := by
  cases text with
  | none => rfl
  | some text =>
  have hsend : ((c.transition .ttsPending).requestTTS answers requestID text).1.txBufferSize =
      c.txBufferSize :=
    (txBufferSize_sendBuilt _ answers _).trans (txBufferSize_transition c .ttsPending)
  simp only [bridgeOnAgentFinal]
  repeat' split
  · rfl
  · rfl
  · rfl
  · exact hsend
  · exact (txBufferSize_clearActiveRequest _).trans hsend

theorem txBufferSize_onRequest (requestID : UInt32) (allowed : State → Bool)
    (next : Controller → Controller) (hnext : (next c).txBufferSize = c.txBufferSize) :
    (c.onRequest requestID allowed next).1.txBufferSize = c.txBufferSize := by
  grind [onRequest_cases]

theorem txBufferSize_playbackAfter (called : Controller × Outcome) (event : PlaybackEvent)
    (requestID : UInt32) :
    (playbackAfter called event requestID).1.txBufferSize = called.1.txBufferSize := by
  unfold playbackAfter
  split <;> rfl

theorem txBufferSize_onTTSEvent (sessionID : Option CString) (requestID : UInt32) (event : Option
    TTSEvent) : (c.onTTSEvent sessionID requestID event).1.txBufferSize = c.txBufferSize := by
  have hstarted := txBufferSize_onRequest c requestID
    (fun state => state = .ttsPlaying || state = .ttsPending) (fun c => c.transition .ttsPlaying)
    (txBufferSize_transition c .ttsPlaying)
  have hended := txBufferSize_onRequest c requestID
    (fun state => state = .ttsPending || state = .ttsPlaying) clearActiveRequest
    (txBufferSize_clearActiveRequest c)
  unfold onTTSEvent
  split
  · rfl
  split
  · rfl
  split
  · rfl
  split
  · split
    · exact (txBufferSize_playbackAfter _ _ _).trans hstarted
    · exact hstarted
  · exact (txBufferSize_playbackAfter _ _ _).trans hended
  · exact (txBufferSize_playbackAfter _ _ _).trans hended
  · rfl

theorem txBufferSize_handle (event : Event) :
    (c.handle answers event).1.txBufferSize = c.txBufferSize := by
  cases event with
  | sttFinal sessionID text => exact txBufferSize_onSTTFinal answers c sessionID text
  | agentFinal requestID text => exact txBufferSize_bridgeOnAgentFinal answers c requestID text
  | agentError requestID =>
    exact txBufferSize_onRequest c requestID _ _ (txBufferSize_clearActiveRequest c)
  | ttsEvent sessionID requestID event => exact txBufferSize_onTTSEvent c sessionID requestID event
  | interrupt reason =>
    cases reason with
    | none => rfl
    | some reason =>
      refine Eq.trans ?_ (txBufferSize_interruptBridge (c.because reason) answers)
      simp only [handle, interrupt]
      split <;> rfl

end Controller

/-! ## Whole runs -/

/-- A turn that is over, or that has not been heard: at most one start, and one drain or flush after
it, all of the turn's own request. -/
def Turn.Settled (turn : Turn) : Prop :=
  turn.heard ∈ [[], [(.drain, turn.requestID)], [(.flush, turn.requestID)],
    [(.begin, turn.requestID), (.drain, turn.requestID)],
    [(.begin, turn.requestID), (.flush, turn.requestID)]]

/-- A turn whose playback has begun and has not ended. -/
def Turn.Playing (turn : Turn) : Prop := turn.heard = [(.begin, turn.requestID)]

/-- The newest turn is that of the active request, and it has been heard as far as the state says;
all other turns are settled. -/
def Paired (bridge : Bridge) : List Turn → Prop
  | [] => bridge.state = .idle
  | turn :: older =>
    (∀ past ∈ older, past.Settled) ∧
      match bridge.state with
      | .idle => turn.Settled
      | .agentRunning | .ttsPending => turn.requestID = bridge.activeRequestID ∧ turn.heard = []
      | .ttsPlaying => turn.requestID = bridge.activeRequestID ∧ turn.Playing

/-- The ids of the turns are consecutive, and the next one follows the newest. -/
def Consecutive (bridge : Bridge) (requestIDs : List UInt32) : Prop :=
  (∀ requestID ∈ requestIDs, requestID ≠ 0) ∧
    requestIDs.IsChain (fun newer older => newer = successor older) ∧
    bridge.nextRequestID ≠ 0 ∧
    ∀ requestID ∈ requestIDs.head?, bridge.nextRequestID = successor requestID

/-- What holds between events. -/
structure Sound (c : Controller) : Prop where
  idle : c.bridge.state = .idle →
    c.bridge.activeRequestID = 0 ∧ c.bridge.sessionID = noSession
  busy : c.bridge.state ≠ .idle → c.bridge.activeRequestID ≠ 0 ∧
    c.bridge.sessionID.bytes ≠ [] ∧ c.bridge.sessionID.bytes.length < sessionIDMax
  paired : Paired c.bridge (turns c.log)
  consecutive : Consecutive c.bridge ((turns c.log).map Turn.requestID)

@[simp] theorem map_requestID_hear (event : PlaybackEvent) (requestID : UInt32) (turn : Turn)
    (older : List Turn) :
    (hear event requestID (turn :: older)).map Turn.requestID =
      (turn :: older).map Turn.requestID := rfl

theorem Consecutive.cons
    (h : Consecutive bridge requestIDs) (hnext : after.nextRequestID = successor bridge.fresh) :
    Consecutive after (bridge.fresh :: requestIDs) := by
  obtain ⟨hnonzero, hchain, hcounter, hnewest⟩ := h
  have hfresh : bridge.fresh = bridge.nextRequestID := if_neg hcounter
  refine ⟨?_, ?_, ?_, ?_⟩
  · grind
  · grind [List.isChain_cons]
  · rw [hnext]
    exact successor_ne_zero _
  · rintro requestID ⟨⟩
    exact hnext

namespace Sound

variable {c : Controller}

theorem settled (h : Sound c) (hidle : c.bridge.state = .idle) :
    ∀ turn ∈ turns c.log, turn.Settled := by
  have hpaired := h.paired
  cases hturns : turns c.log with
  | nil => simp
  | cons turn older => grind [Paired]

theorem current (h : Sound c) (hbusy : c.bridge.state ≠ .idle) : ∃ turn older, turns c.log = turn ::
    older ∧ turn.requestID = c.bridge.activeRequestID ∧ (∀ past ∈ older, past.Settled) ∧ turn.heard
    = if c.bridge.state = .ttsPlaying then [(.begin, turn.requestID)] else [] := by
  have hpaired := h.paired
  cases hturns : turns c.log with
  | nil =>
    rw [hturns] at hpaired
    exact absurd hpaired hbusy
  | cons turn older => grind [Paired, Turn.Playing]

section

variable {c' : Controller} (h : Sound c)

include h

/-- A turn starts on an idle controller, which may be idle again at once. -/
theorem start (hidle : c.bridge.state = .idle) (hturns : turns
    c'.log = ⟨c.bridge.fresh, []⟩ :: turns c.log) (hnext : c'.bridge.nextRequestID = successor
    c.bridge.fresh) (hafter : (c'.bridge.state = .idle ∧ c'.bridge.activeRequestID = 0 ∧
    c'.bridge.sessionID = noSession) ∨ (c'.bridge.state = .agentRunning ∧ c'.bridge.activeRequestID
    = c.bridge.fresh ∧ c'.bridge.sessionID.bytes ≠ [] ∧ c'.bridge.sessionID.bytes.length <
    sessionIDMax)) : Sound c' := by
  have hconsecutive : Consecutive c'.bridge ((turns c'.log).map Turn.requestID) := by
    rw [hturns]
    exact h.consecutive.cons hnext
  have hfresh : c.bridge.fresh ≠ 0 := by grind [Bridge.fresh]
  rcases hafter with ⟨hstate, hid, hsession⟩ | ⟨hstate, hid, hsession⟩
  · refine ⟨fun _ => ⟨hid, hsession⟩, fun hbusy => absurd hstate hbusy, ?_, hconsecutive⟩
    rw [hturns]
    simp only [Paired, hstate]
    exact ⟨h.settled hidle, by simp [Turn.Settled]⟩
  · refine ⟨fun h => by simp [hstate] at h, fun _ => ⟨by rwa [hid], hsession⟩, ?_, hconsecutive⟩
    rw [hturns]
    simp only [Paired, hstate]
    exact ⟨h.settled hidle, hid.symm, trivial⟩

theorem clear (hbusy : c.bridge.state ≠ .idle) (hbridge : c'.bridge
    = c.bridge.cleared) (hturns : (c.bridge.state = .agentRunning ∧ turns c'.log = turns c.log) ∨ ∃
    playback, (playback = .drain ∨ playback = .flush) ∧ turns c'.log = hear playback
    c.bridge.activeRequestID (turns c.log)) : Sound c' := by
  obtain ⟨turn, older, hcurrent, hid, hpast, hheard⟩ := h.current hbusy
  have hids : (turns c'.log).map Turn.requestID = (turns c.log).map Turn.requestID := by
    grind [map_requestID_hear]
  refine ⟨fun _ => by simp [hbridge, Bridge.cleared], fun hbusy' => ?_, ?_, ?_⟩
  · simp [hbridge, Bridge.cleared] at hbusy'
  · have hstate : c'.bridge.state = .idle := by rw [hbridge, Bridge.cleared]
    rcases hturns with ⟨hrunning, hturns⟩ | ⟨playback, hplayback, hturns⟩
    · grind [Paired, Turn.Settled]
    · rw [hturns, hcurrent]
      simp only [Paired, hstate, hear]
      refine ⟨hpast, ?_⟩
      -- the event ends a playback, or cancels one that has not begun
      rcases hplayback with rfl | rfl <;> by_cases hplaying : c.bridge.state = .ttsPlaying <;>
        simp [Turn.Settled, hheard, hplaying, hid]
  · rw [hids, hbridge]
    exact h.consecutive

theorem move (hnext : next ≠ .idle)
    (hbusy : c.bridge.state ≠ .idle) (hbridge : c'.bridge = { c.bridge with state := next })
    (hpaired : Paired c'.bridge (turns c'.log))
    (hids : (turns c'.log).map Turn.requestID = (turns c.log).map Turn.requestID) : Sound c' := by
  refine ⟨fun hidle => absurd ?_ hnext, fun _ => ?_, hpaired, ?_⟩
  · simpa [hbridge] using hidle
  · rw [hbridge]
    exact h.busy hbusy
  · rw [hids, hbridge]
    exact h.consecutive

end

end Sound

variable {c : Controller}

theorem Controller.Speaking.busy (h : c.Speaking) : c.bridge.state ≠ .idle := by
  rcases h with h | h <;> rw [h] <;> decide

section

variable {c c' : Controller} {answers : Answers} {event : Event}

theorem Effect.sound (h : Effect c answers event c') (hsound : Sound c) : Sound c' := by
  cases h with
  | unchanged _ _ hbridge hlog =>
    obtain ⟨hidle, hbusy, hpaired, hconsecutive⟩ := hsound
    constructor <;> simp only [hbridge, hlog] <;> assumption
  | submitted sessionID text _ hidle hvalid hbridge hturn =>
    refine hsound.start hidle hturn (by rw [hbridge]) (Or.inr ?_)
    rw [hbridge]
    exact ⟨rfl, rfl, hvalid.1, hvalid.2.2⟩
  | rejected sessionID text _ hidle hbridge hturn =>
    refine hsound.start hidle hturn (by rw [hbridge]) (Or.inl ?_)
    rw [hbridge]
    exact ⟨rfl, rfl, rfl⟩
  | requested text json _ hrunning hactive hbuild hbridge hturn =>
    have hbusy : c.bridge.state ≠ .idle := by
      rw [hrunning]
      decide
    obtain ⟨turn, older, hcurrent, hid, hpast, hheard⟩ := hsound.current hbusy
    refine hsound.move (by decide) hbusy hbridge ?_ (by rw [hturn])
    rw [hturn, hcurrent, hbridge]
    exact ⟨hpast, hid, by simpa [hrunning] using hheard⟩
  | failed _ _ hrunning hbridge hturn =>
    exact hsound.clear (by rw [hrunning]; decide) hbridge (Or.inl ⟨hrunning, hturn⟩)
  | played _ hpending hbridge hturn =>
    have hbusy : c.bridge.state ≠ .idle := by
      rw [hpending]
      decide
    obtain ⟨turn, older, hcurrent, hid, hpast, hheard⟩ := hsound.current hbusy
    refine hsound.move (by decide) hbusy hbridge ?_ (by rw [hturn, hcurrent, map_requestID_hear])
    rw [hturn, hcurrent, hbridge]
    refine ⟨hpast, hid, ?_⟩
    simp [Turn.Playing, hheard, hpending, hid]
  | ended event playback _ hspeaking hterminal hbridge hturn =>
    refine hsound.clear hspeaking.busy hbridge (Or.inr ⟨playback, ?_, hturn⟩)
    exact hterminal.imp And.right And.right
  | aborted reason _ hspeaking hbridge hturn =>
    exact hsound.clear hspeaking.busy hbridge (Or.inr ⟨.flush, Or.inr rfl, hturn⟩)

theorem Handled.sound (h : Handled c answers event c') (hsound : Sound c) : Sound c' := by
  cases h with
  | once heffect => exact heffect.sound hsound
  | bargeIn between sessionID text htranscript hinterrupts _ hstarts =>
    exact hstarts.sound (hinterrupts.sound hsound)

end

theorem sound_initial (txBuffer txBufferSize : ℕ) (memory : Memory) :
    Sound (initial txBuffer txBufferSize memory) where
  idle _ := ⟨rfl, rfl⟩
  busy h := absurd rfl h
  paired := rfl
  consecutive := ⟨by simp [initial, turns], by simp [initial, turns], by simp [initial],
    by simp [initial, turns]⟩

theorem sound_run (hrun : Run serve (initial txBuffer txBufferSize memory) history c) : Sound c :=
  hrun.invariant (fun c call hsound => (Controller.handle_effect call.1 c call.2).sound hsound)
    (sound_initial txBuffer txBufferSize memory)

/-! ## Events of other requests -/

/-- An event of a request or a session that is not the active one. -/
def Controller.Foreign (c : Controller) : Event → Prop
  | .agentFinal requestID _ | .agentError requestID => requestID ≠ c.bridge.activeRequestID
  | .ttsEvent sessionID requestID _ =>
    requestID ≠ c.bridge.activeRequestID ∨ sessionID ≠ some c.bridge.sessionID
  | .sttFinal _ _ | .interrupt _ => False

theorem Controller.handle_foreign (h : c.Foreign event)
    (answers : Answers) : (c.handle answers event).1 = c := by
  have hstale {requestID : UInt32} (h : requestID ≠ c.bridge.activeRequestID) :
      ¬ c.ValidActiveRequest requestID := fun hactive => h hactive.2.symm
  cases event with
  | sttFinal | interrupt => exact h.elim
  | agentFinal requestID text =>
    cases text with
    | none => rfl
    | some text =>
      simp only [handle, bridgeOnAgentFinal]
      split
      · rfl
      · rw [if_pos (hstale h)]
  | agentError requestID =>
    simp only [handle, bridgeOnAgentError, onRequest]
    split
    · rfl
    · rw [if_pos (hstale h)]
  | ttsEvent sessionID requestID event =>
    cases sessionID with
    | none => rfl
    | some sessionID =>
      simp only [handle, onTTSEvent]
      split
      · rfl
      · rw [if_pos]
        rcases h with h | h
        · exact Or.inr (Or.inr h)
        · grind [activeSessionID, noSession]

/-- Between the events of every run the bridge is idle exactly when it has no request and no
session; an event of another request or session changes nothing and calls nothing; every turn but
the newest is settled, and the newest is settled or plays, which it does exactly in the state for
it; and the allocated ids are never zero, and each differs from the one before. -/
theorem controller_turns {txBuffer txBufferSize : ℕ} {memory : Memory} {history : List (Served
    Controller (Answers × Event))} {c : Controller} (hrun : Run serve (initial txBuffer txBufferSize
    memory) history c) : (c.bridge.state = .idle ↔ c.bridge.activeRequestID = 0 ∧ c.bridge.sessionID
    = noSession) ∧ (∀ answers event, c.Foreign event → (c.handle answers event).1 = c) ∧ (∀ past ∈
    (turns c.log).tail, past.Settled) ∧ (∀ turn ∈ (turns c.log).head?, turn.Settled ∨ turn.Playing ∧
    c.bridge.state = .ttsPlaying ∧ c.bridge.activeRequestID = turn.requestID) ∧ (∀ turn ∈ turns
    c.log, turn.requestID ≠ 0) ∧ (turns c.log).IsChain (fun newer older => newer.requestID ≠
    older.requestID) := by
  have hsound := sound_run hrun
  obtain ⟨hnonzero, hchain, -, -⟩ := hsound.consecutive
  refine ⟨⟨hsound.idle, fun h => ?_⟩, fun answers event h => Controller.handle_foreign h answers,
    ?_, ?_, fun turn h => hnonzero _ (List.mem_map_of_mem h), ?_⟩
  · by_contra hbusy
    exact (hsound.busy hbusy).1 h.1
  · by_cases hidle : c.bridge.state = .idle
    · exact fun past h => hsound.settled hidle past (List.mem_of_mem_tail h)
    · obtain ⟨turn, older, hcurrent, -, hpast, -⟩ := hsound.current hidle
      rwa [hcurrent, List.tail_cons]
  · intro turn hnewest
    by_cases hidle : c.bridge.state = .idle
    · exact Or.inl (hsound.settled hidle turn (List.mem_of_mem_head? hnewest))
    · obtain ⟨current, older, hcurrent, hid, -, hheard⟩ := hsound.current hidle
      rw [hcurrent, List.head?_cons, Option.mem_some_iff] at hnewest
      subst hnewest
      by_cases hplaying : c.bridge.state = .ttsPlaying
      · rw [if_pos hplaying] at hheard
        exact Or.inr ⟨hheard, hplaying, hid.symm⟩
      · grind [Turn.Settled]
  · grind [List.isChain_map, successor_ne]

/-- Two transcripts, the second during the answer to the first. -/
def twoTranscripts : List (Answers × Event) :=
  let transcript : Event :=
    .sttFinal (some ⟨ascii "voice:1", by decide⟩) (some ⟨ascii "hello", by decide⟩)
  [(⟨true, true, true⟩, transcript), (⟨true, true, true⟩, transcript)]

theorem controller_turns_barge_in :
    let c := (replay serve (initial 0 4096 fun _ => 0) twoTranscripts).2
    turns c.log = [⟨2, []⟩, ⟨1, []⟩] ∧
      (turns c.log).IsChain (fun newer older => newer.requestID ≠ older.requestID) :=
  ⟨by decide, (controller_turns
    (run_replay serve (initial 0 4096 fun _ => 0) twoTranscripts)).2.2.2.2.2⟩

end XiaozhiPlatform.VoiceAgent
