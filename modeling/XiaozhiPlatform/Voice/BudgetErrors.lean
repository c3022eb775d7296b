import XiaozhiPlatform.Voice.Link

/-!
# Why a request on the device ends

A request that waits for speech ends when the device takes a terminal event of that very request, by
an interrupt or a new transcript, or by a budget error. Budget errors name no request: the gateway
sends them for a `tts_request` and for audio, and the device takes either for the end of the request
that is active when they arrive.

The main result is `speech_request_ends_for_cause`; `audio_budget_error_ends_request` is a run in
which audio ends a request that the gateway has not seen.
-/

namespace XiaozhiPlatform.VoiceConnection

open GoLib Protocol VoiceAgent

/-! ## Messages that the gateway writes -/

/-- What a goroutine sends is its own speech. -/
def Message.SpeechOf (sessionID : String) (requestID : UInt32) : Message → Prop
  | .audio _ => True
  | .tts event => event.sessionID = sessionID ∧ event.requestID = requestID
  | .error _ | .stt _ _ => False

namespace Connection

variable (c : Connection)

/-- What a step of a goroutine does to the slot and to the wire. -/
inductive Streams (s : Synthesis) (after : Connection) : Prop
  /-- The slot stays, and what is sent does not end the request. -/
  | goesOn (messages : List Sent) (wire : after.wire = messages ++ c.wire)
      (speech : ∀ x ∈ messages, x.message.SpeechOf c.sessionID s.requestID ∧
        x.message.isTerminal = false)
      (active : after.active = c.active)
  /-- The request in the slot ends, with at most one event. -/
  | ends (messages : List Sent) (active : ActiveTTS) (wire : after.wire = messages ++ c.wire)
      (speech : ∀ x ∈ messages, x.message.SpeechOf c.sessionID s.requestID)
      (once : messages.length ≤ 1) (held : c.active = some active)
      (same : active.requestID = s.requestID) (cleared : after.active = none)

variable {c} in
theorem Streams.speaks {s : Synthesis} {after : Connection} (h : c.Streams s after) :
    ∃ messages, after.wire = messages ++ c.wire ∧
      ∀ x ∈ messages, x.message.SpeechOf c.sessionID s.requestID := by
  cases h with
  | goesOn messages hwire hspeech _ => exact ⟨messages, hwire, fun x hx => (hspeech x hx).1⟩
  | ends messages _ hwire hspeech => exact ⟨messages, hwire, hspeech⟩

theorem streams_streamTTS (request : ℕ) (s : Synthesis) (input : Input) :
    c.Streams s (c.streamTTS request s input) := by
  -- every branch writes at most one message, and that one with `writeIfActive` or `finishTTS`
  have hwrite (message : Message) (hspeech : message.SpeechOf c.sessionID s.requestID)
      (hopening : message.isTerminal = false) (stage : Stage) :
      c.Streams s ((c.writeIfActive request s message).1.setStage request stage) := by
    rcases writeIfActive_cases (c := c) request s message with ⟨-, -, h⟩ | ⟨-, cause, h⟩
    · rw [h]
      exact .goesOn [⟨some request, message⟩] rfl (by simpa using ⟨hspeech, hopening⟩) rfl
    · rw [h]
      exact .goesOn [] rfl (by simp) rfl
  have hnone (stage : Stage) : c.Streams s (c.setStage request stage) :=
    .goesOn [] rfl (by simp) rfl
  unfold streamTTS
  split
  · exact hwrite (.tts (c.startEvent s)) ⟨rfl, rfl⟩ rfl _
  · exact hwrite (.tts (c.sentenceEvent s)) ⟨rfl, rfl⟩ rfl _
  · split
    · exact hnone _
    · next packet _ => exact hwrite (.audio packet) trivial rfl _
  · exact hnone _
  · exact hnone _
  · next state code _ =>
    unfold finishTTS
    split
    · next hactive =>
      obtain ⟨active, hheld, hsame⟩ := isActive_iff.mp hactive
      cases s.ended with
      | none =>
        exact .ends [⟨some request, .tts ⟨c.sessionID, state, s.requestID, "", code⟩⟩] active rfl
          (by simp [Message.SpeechOf]) le_rfl hheld hsame rfl
      | some cause => exact .ends [] active rfl (by simp) (Nat.zero_le 1) hheld hsame rfl
    · exact hnone _
  · exact .goesOn [] rfl (by simp) rfl

end Connection

/-! ## Budget errors -/

/-- The code of a budget error, as the device reads it. -/
def IsBudgetCode (code : String) : Prop := serviceErrorOf (valueString code) ≠ .none

/-- A failure that is not reported as a budget error. -/
def Ordinary (failure : Failure) : Prop := ¬ IsBudgetCode (classifyError failure)

variable {failure : Failure}

theorem ordinary_of_code (h : classifyError failure = code)
    (hcode : serviceErrorOf (valueString code) = .none) : Ordinary failure := by
  rw [Ordinary, IsBudgetCode, h, not_not]
  exact hcode

theorem ordinary_violation (detail : String)
    (hcode : serviceErrorOf (valueString code) = .none) : Ordinary (violation code detail) :=
  ordinary_of_code rfl hcode

theorem ordinary_stale (detail : String) : Ordinary (.error (.detailed errStale detail)) := by
  have hstale : (Error.detailed errStale detail).is errStale = true := by
    simp [Error.is, errStale]
  have hcode : classifyError (.error (.detailed errStale detail)) = "stale_event" := by
    simp [classifyError, hstale]
  exact ordinary_of_code hcode (by decide)

variable {sessionID : String}

theorem ordinary_decodeControl
    (h : decodeControl payload sessionID = .error failure) : Ordinary failure := by
  unfold decodeControl at h
  split at h
  · cases h
    exact ordinary_violation _ (by decide)
  next message hmessage =>
  rcases refuseIf_bind_eq_error h with rfl | h
  · exact ordinary_stale _
  rcases (decoded_bind_eq_error _ _ _).mp h with h | ⟨requestID, -, h⟩
  · unfold Protocol.parseRequestID at h
    simp only at h
    split at h
    · cases h
      exact ordinary_violation _ (by decide)
    split at h
    · cases h
      exact ordinary_violation _ (by decide)
    · cases h
  rcases (decoded_bind_eq_error _ _ _).mp h with h | ⟨_, -, h⟩
  · unfold checkControl at h
    split at h
    · split at h
      · cases h
        exact ordinary_violation _ (by decide)
      · cases h
    split at h
    · rw [refuseIf_eq_error h]
      exact ordinary_violation _ (by decide)
    · cases h
      exact ordinary_violation _ (by decide)
  · cases h

theorem ordinary_decodeAudioPacket
    (h : decodeAudioPacket version packet = .error failure) : Ordinary failure := by
  have hpacket (detail : String) : Ordinary (violation "invalid_audio_packet" detail) :=
    ordinary_violation detail (by decide)
  unfold decodeAudioPacket at h
  rcases (decoded_bind_eq_error _ _ _).mp h with h | ⟨opus, -, h⟩
  · unfold unframe at h
    split at h
    · cases h
    iterate 2
      split at h
      · rcases refuseIf_bind_eq_error h with rfl | h
        · exact hpacket _
        rcases refuseIf_bind_eq_error h with rfl | h
        · exact hpacket _
        · cases h
    · cases h
      exact ordinary_violation _ (by decide)
  · rcases refuseIf_bind_eq_error h with rfl | h
    · exact hpacket _
    · cases h

section

variable {c : Connection} {payload : List UInt8} {reserved : Except Error Unit}

theorem ordinary_handleText (h : c.handleText payload reserved = some (.refused failure)) :
    Ordinary failure := by
  unfold Connection.handleText at h
  iterate 2
    split at h
    · cases h
      exact ordinary_violation _ (by decide)
  split at h
  · cases h
    exact ordinary_stale _
  split at h
  · grind [ordinary_decodeControl]
  split at h
  · cases h
    exact ordinary_violation _ (by decide)
  · cases h

theorem request_or_not (h : c.handleText payload reserved = some call) :
    (∃ failure, call = .refused failure) ∨ (∃ sessionID requestID, call = .abort sessionID
    requestID) ∨
      ∃ sessionID requestID text, call = .request sessionID requestID text reserved := by
  grind [Connection.handleText]

end

/-- A call with which the gateway can send a budget error: it cannot reserve speech for a request,
or the meter refuses audio. -/
def Call.Unbudgeted : Call → Prop
  | .request _ _ _ (.error _) | .audio _ (.error _) => True
  | _ => False

namespace Connection

variable {c : Connection}

/-- What a connection writes during a call, newest first. -/
def Wrote (c after : Connection) (P : Message → Prop) : Prop :=
  ∃ messages, after.wire = messages ++ c.wire ∧ ∀ x ∈ messages, P x.message

/-- No budget error. -/
def NoBudgetError (message : Message) : Prop := ∀ code, message = .error code → ¬ IsBudgetCode code

theorem wrote_nothing {P : Message → Prop} (h : after.wire = c.wire) :
    Wrote c after P := ⟨[], h, by simp⟩

theorem wrote_reportViolation (h : Ordinary failure) :
    Wrote c (c.reportViolation failure) NoBudgetError := by
  refine ⟨[⟨none, .error (classifyError failure)⟩], rfl, ?_⟩
  intro x hx code hcode
  rw [List.mem_singleton.mp hx] at hcode
  cases hcode
  exact h

theorem noBudgetError_of_speech
    (h : message.SpeechOf sessionID requestID) : NoBudgetError message := by
  rintro code rfl
  exact h.elim

theorem wrote_report (hhandle : Wrote c (report handle) NoBudgetError) :
    Wrote c (report (c.handleControl sessionID handle)) NoBudgetError := by
  rw [handleControl]
  split
  · exact wrote_reportViolation (ordinary_stale _)
  · exact hhandle

theorem wrote_next (hbudget : ¬ call.Unbudgeted) (hrefused : ∀ failure, call =
    .refused failure → Ordinary failure) : Wrote c (c.next call) NoBudgetError := by
  unfold next
  split
  · exact wrote_nothing rfl
  cases call with
  | request sessionID requestID text reserved =>
    refine wrote_report ?_
    unfold startTTS
    split
    · exact wrote_reportViolation (ordinary_violation _ (by decide))
    cases reserved with
    | error err => exact absurd trivial hbudget
    | ok value => exact wrote_nothing rfl
  | abort sessionID requestID =>
    refine wrote_report ?_
    rw [abortTTS]
    split
    · exact wrote_nothing rfl
    · exact wrote_reportViolation (ordinary_stale _)
  | refused failure => exact wrote_reportViolation (hrefused failure rfl)
  | audio packet handled =>
    simp only [handleAudio]
    split
    · next hdecode => exact wrote_reportViolation (ordinary_decodeAudioPacket hdecode)
    · exact wrote_nothing rfl
    · exact absurd trivial hbudget
  | stt text =>
    refine ⟨[⟨none, .stt c.sessionID text⟩], rfl, ?_⟩
    intro x hx code hcode
    rw [List.mem_singleton.mp hx] at hcode
    cases hcode
  | step request input =>
    simp only
    split
    · exact wrote_nothing rfl
    next s _ =>
    obtain ⟨messages, hwire, hspeech⟩ := (c.streams_streamTTS request s input).speaks
    exact ⟨messages, hwire, fun x hx => noBudgetError_of_speech (hspeech x hx)⟩
  | deadline | disconnect => exact wrote_nothing rfl

end Connection

end XiaozhiPlatform.VoiceConnection

namespace XiaozhiPlatform.VoiceLink

open GoLib CLib Protocol VoiceAgent VoiceAgentProtocol VoiceConnection

/-! ## The end of a request on the device -/

/-- A request that waits for speech, or is heard, does so no more. -/
def Ends (before after : Controller) : Prop :=
  before.Speaking ∧
    ¬ (after.Speaking ∧ after.bridge.activeRequestID = before.bridge.activeRequestID)
deriving Decidable

theorem not_ends_self (c : Controller) : ¬ Ends c c := fun h => h.2 ⟨h.1, rfl⟩

variable {c : Controller}

theorem Controller.Speaking.not_running (h : c.Speaking) : c.bridge.state ≠ .agentRunning := by
  rcases h with h | h <;> rw [h] <;> decide

theorem ends_of_handled (h : Handled c
    answers event c') (hends : Ends c c') : (∃ sessionID text, event = .sttFinal sessionID text) ∨
    (∃ reason, event = .interrupt (some reason)) ∨ ∃ kind, (kind = .stopped ∨ kind = .error) ∧ event
    = .ttsEvent (some c.bridge.sessionID) c.bridge.activeRequestID (some kind) := by
  obtain ⟨hspeaking, hafter⟩ := hends
  cases h with
  | bargeIn between sessionID text htranscript => exact Or.inl ⟨_, _, htranscript⟩
  | once heffect =>
    cases heffect with
    | unchanged | played => grind [Controller.Speaking]
    | submitted | rejected => exact Or.inl ⟨_, _, rfl⟩
    | requested text json _ hrunning =>
      exact absurd hrunning (Controller.Speaking.not_running hspeaking)
    | failed _ _ hrunning => exact absurd hrunning (Controller.Speaking.not_running hspeaking)
    | ended kind playback _ _ hterminal => grind
    | aborted reason => exact Or.inr (Or.inl ⟨reason, rfl⟩)

theorem ends_of_receive (hopen : protocolSessionID.bytes ≠ []) (hends : Ends c (c.receive answers
    protocolSessionID message)) : (∃ sessionID text, message = .stt sessionID text) ∨ (∃ event,
    message = .tts event ∧ event.state.isTerminal = true ∧ event.requestID =
    c.bridge.activeRequestID ∧ valueString event.sessionID = c.bridge.sessionID) ∨ ∃ code, message =
    .error code ∧ IsBudgetCode code := by
  cases message with
  | stt sessionID text => exact Or.inl ⟨sessionID, text, rfl⟩
  | audio packet => exact absurd hends (not_ends_self c)
  | error code =>
    refine Or.inr (Or.inr ⟨code, rfl, ?_⟩)
    intro hnone
    rw [Controller.receive_error, hnone, if_neg (by simp)] at hends
    exact not_ends_self c hends
  | tts event =>
    rw [Controller.receive_tts answers c hopen] at hends
    split at hends
    case isFalse => exact absurd hends (not_ends_self c)
    next hmatch =>
    cases hkind : lifecycle event.state with
    | none => grind [not_ends_self]
    | some kind =>
      simp only [hkind] at hends
      rcases ends_of_handled (Controller.handle_effect answers c
        (.ttsEvent (some protocolSessionID) event.requestID (some kind))) hends with
        ⟨_, _, h⟩ | ⟨_, h⟩ | ⟨terminal, hterminal, h⟩
      · cases h
      · cases h
      · simp only [Event.ttsEvent.injEq, Option.some.injEq] at h
        obtain ⟨hsession, hid, rfl⟩ := h
        refine Or.inr (Or.inl ⟨event, rfl, ?_, hid, hmatch.1.trans hsession⟩)
        -- a `start` or a sentence is no terminal event
        cases hstate : event.state with
        | start => simp [hstate, lifecycle] at hkind; simp [← hkind] at hterminal
        | sentenceStart => simp [hstate, lifecycle] at hkind
        | stop => rfl
        | error => rfl

/-! ## Where budget errors come from -/

/-- In this step the gateway sent the error, because it could not reserve speech for a `tts_request`
of the device or because the meter refused audio. -/
def BudgetAnswer (code : String) (served : Served Link Happening) : Prop :=
  .error code ∈ (added served.before.gateway.wire (served.after serve).gateway.wire).map
      Sent.message ∧
    ((∃ packet err, served.call = .audio packet (.error err)) ∨
      ∃ err payload rest sessionID requestID text, served.call = .control (.error err) ∧
        served.before.uplink = payload :: rest ∧
        served.before.gateway.handleText payload (.error err) =
          some (.request sessionID requestID text (.error err)))

theorem of_mem_added {c after : Connection} {P : Message → Prop} (h : Connection.Wrote c after P)
    {message : Message} (hmem : message ∈ (added c.wire after.wire).map Sent.message) : P message := by
  obtain ⟨messages, hwire, hall⟩ := h
  rw [hwire, added_append, List.mem_map] at hmem
  obtain ⟨x, hx, rfl⟩ := hmem
  exact hall x (List.mem_reverse.mp hx)

variable {code : String}

theorem unbudgeted_of_mem_added {c : Connection} {call : Call} (hrefused : ∀
    failure, call = .refused failure → Ordinary failure) (hbudget : IsBudgetCode code) (hmem :
    .error code ∈ (added c.wire (c.next call).wire).map Sent.message) : call.Unbudgeted := by
  by_contra hcall
  exact of_mem_added (Connection.wrote_next hcall hrefused) hmem code rfl hbudget

theorem mem_downlink_next {link : Link} {happening : Happening}
    (hbudget : IsBudgetCode code) (hmem : .error code ∈ (link.next happening).downlink) :
    .error code ∈ link.downlink ∨ BudgetAnswer code ⟨link, happening⟩ := by
  -- what the gateway does by itself
  have hgateway (call : Call) (hnot : ∀ failure, call ≠ .refused failure)
      (hmem : .error code ∈ (link.setGateway (link.gateway.next call)).downlink) :
      .error code ∈ link.downlink ∨ call.Unbudgeted ∧
        .error code ∈ (added link.gateway.wire (link.gateway.next call).wire).map Sent.message :=
    (List.mem_append.mp hmem).imp_right fun hmem =>
      ⟨unbudgeted_of_mem_added (fun failure h => absurd h (hnot failure)) hbudget hmem, hmem⟩
  cases happening with
  | agentFinal | agentError | interrupt => exact Or.inl hmem
  | receive answers =>
    simp only [Link.next, Link.takeDownlink] at hmem
    split at hmem
    · exact Or.inl hmem
    · next message rest hdownlink =>
      rw [hdownlink]
      exact Or.inl (List.mem_cons_of_mem message hmem)
  | control reserved =>
    cases huplink : link.uplink with
    | nil => grind [Link.next, Link.takeUplink]
    | cons payload rest =>
      have hnext : link.next (.control reserved) =
          if link.gateway.closed then { link with uplink := rest }
          else { link with uplink := rest }.setGateway
            (link.gateway.readText payload reserved) := by
        simp only [Link.next, Link.takeUplink, huplink]
      rw [hnext] at hmem
      split at hmem
      · exact Or.inl hmem
      next hclosed =>
      rcases List.mem_append.mp hmem with hmem | hmem
      · exact Or.inl hmem
      refine Or.inr ⟨?_, Or.inr ?_⟩
      · simp only [Served.after, serve, hnext, if_neg hclosed]
        exact hmem
      · simp only [Connection.readText] at hmem
        split at hmem
        case h_2 => simp at hmem
        next call hcall =>
        have hunbudgeted := unbudgeted_of_mem_added
          (fun failure h => ordinary_handleText (h ▸ hcall)) hbudget hmem
        -- of the calls that the text can mean, only a request reserves speech
        rcases request_or_not hcall with ⟨_, rfl⟩ | ⟨_, _, rfl⟩ | ⟨sessionID, requestID, text, rfl⟩
        · exact hunbudgeted.elim
        · exact hunbudgeted.elim
        cases reserved with
        | ok value => exact hunbudgeted.elim
        | error err => grind
  | audio packet handled =>
    refine (hgateway (.audio packet handled) nofun hmem).imp_right fun ⟨hcall, hmem⟩ => ⟨hmem, Or.inl ?_⟩
    cases handled with
    | ok value => exact hcall.elim
    | error err => exact ⟨packet, err, rfl⟩
  | stt text => exact (hgateway (.stt text) nofun hmem).imp_right fun h => h.1.elim
  | step request input => exact (hgateway (.step request input) nofun hmem).imp_right fun h => h.1.elim
  | deadline request => exact (hgateway (.deadline request) nofun hmem).imp_right fun h => h.1.elim
  | disconnect => exact (hgateway .disconnect nofun hmem).imp_right fun h => h.1.elim

section

variable {start link : Link} {history : List (Served Link Happening)}

theorem budgetErrors_answered (hopened
    : Opened start) (hrun : Run serve start history link) (hbudget : IsBudgetCode
    code) (hmem : .error code ∈ link.downlink) : ∃ served ∈ history, BudgetAnswer code served := by
  induction hrun with
  | nil =>
    rw [hopened.quiet.2] at hmem
    cases hmem
  | step happening _ ih =>
    rcases mem_downlink_next hbudget hmem with hmem | hanswer
    · grind
    · exact ⟨_, List.mem_cons_self, hanswer⟩

theorem protocolSessionID_run (hrun : Run serve start history link) :
    link.protocolSessionID = start.protocolSessionID := by
  refine hrun.invariant (I := fun link => link.protocolSessionID = start.protocolSessionID)
    (fun link happening h => ?_) rfl
  rw [← h]
  cases happening with
  | receive answers =>
    simp only [serve, Link.next, Link.takeDownlink]
    split <;> rfl
  | control reserved =>
    simp only [serve, Link.next, Link.takeUplink]
    split
    · rfl
    · split <;> rfl
  | _ => rfl

end

theorem Opened.session_ne_nil {link : Link} (h : Opened link) :
    link.protocolSessionID.bytes ≠ [] := by
  rw [h.session, ← cString_eq_valueString h.text]
  exact bytes_ne_nil h.text h.named

/-- A request that waits for speech on the device, or is heard, ends only by an interrupt, by a new
transcript, by a terminal event that carries its own id and session, or by a budget error, which the
gateway sent in answer to a `tts_request` or to audio of the device. -/
theorem speech_request_ends_for_cause {start link : Link} {history : List (Served Link Happening)}
    (hopened : Opened start) (hrun : Run serve start history link) (happening : Happening) (hends :
    Ends link.device (link.next happening).device) : (∃ answers reason, happening = .interrupt
    answers (some reason)) ∨ ∃ answers message rest, happening = .receive answers ∧ link.downlink =
    message :: rest ∧ ((∃ sessionID text, message = .stt sessionID text) ∨ (∃ event, message = .tts
    event ∧ event.state.isTerminal = true ∧ event.requestID = link.device.bridge.activeRequestID ∧
    valueString event.sessionID = link.device.bridge.sessionID) ∨ ∃ code, message = .error code ∧
    IsBudgetCode code ∧ ∃ served ∈ history, BudgetAnswer code served) := by
  have hopen : link.protocolSessionID.bytes ≠ [] := by
    rw [protocolSessionID_run hrun]
    exact hopened.session_ne_nil
  cases happening with
  | interrupt answers reason =>
    rcases ends_of_handled (Controller.handle_effect answers link.device (.interrupt reason))
      hends with ⟨_, _, h⟩ | ⟨reason, h⟩ | ⟨_, _, h⟩
    · cases h
    · grind
    · cases h
  | agentFinal answers | agentError answers =>
    rcases ends_of_handled (Controller.handle_effect answers link.device _) hends with
      ⟨_, _, h⟩ | ⟨_, h⟩ | ⟨_, _, h⟩ <;> cases h
  | receive answers =>
    cases hdownlink : link.downlink with
    | nil => grind [Link.next, Link.takeDownlink, not_ends_self]
    | cons message rest =>
      simp only [Link.next, Link.takeDownlink, hdownlink] at hends
      refine Or.inr ⟨answers, message, rest, rfl, rfl, ?_⟩
      rcases ends_of_receive hopen hends with h | h | ⟨code, rfl, hbudget⟩
      · exact Or.inl h
      · exact Or.inr (Or.inl h)
      · grind [budgetErrors_answered, List.mem_cons_self]
  | control reserved =>
    simp only [Link.next, Link.takeUplink] at hends
    split at hends
    · exact absurd hends (not_ends_self _)
    · split at hends <;> exact absurd hends (not_ends_self _)
  | audio | stt | step | deadline | disconnect => exact absurd hends (not_ends_self _)

/-- A new link with a session of seven bytes. -/
def newLink : Link where
  device := initial 0 4096 fun _ => 0
  protocolSessionID := valueString "voice:1"
  gateway := opened "voice:1" 1

theorem opened_newLink : Opened newLink where
  idle := rfl
  cleared := rfl
  buffer := by decide
  session := rfl
  text := by decide
  named := by decide
  short := by decide
  fresh := ⟨1, rfl⟩
  quiet := ⟨rfl, rfl⟩

def allSucceed : Answers := ⟨true, true, true⟩

/-- The device has asked for speech, the gateway has not read that, and the meter refuses audio. -/
def audioRefused : List Happening :=
  [.audio [1] (.error SpeechBudget.errBudgetExceeded),
    .agentFinal allSucceed 1 (some (valueString "done")), .receive allSucceed, .stt "hello"]

/-- The budget error for audio ends a request for speech that the gateway has not answered. -/
theorem audio_budget_error_ends_request :
    let link := (replay serve newLink audioRefused).2
    Opened newLink ∧ Run serve newLink (replay serve newLink audioRefused).1 link ∧
      link.uplink.length = 1 ∧ link.gateway.syntheses = [] ∧
      link.downlink = [.error "speech_budget_exceeded"] ∧
      link.device.bridge.state = .ttsPending ∧
      (link.next (.receive allSucceed)).device.bridge.state = .idle :=
  ⟨opened_newLink, run_replay serve newLink audioRefused, by decide +kernel, by decide +kernel,
    by decide +kernel, by decide +kernel, by decide +kernel⟩

theorem speech_request_ends_for_cause_interrupt :
    let link := (replay serve newLink audioRefused).2
    let happening : Happening := .interrupt allSucceed (some .button)
    Ends link.device (link.next happening).device ∧
      ((∃ answers reason, happening = .interrupt answers (some reason)) ∨
        ∃ answers message rest, happening = .receive answers ∧ link.downlink = message :: rest ∧
          ((∃ sessionID text, message = .stt sessionID text) ∨
            (∃ event, message = .tts event ∧ event.state.isTerminal = true ∧
              event.requestID = link.device.bridge.activeRequestID ∧
              valueString event.sessionID = link.device.bridge.sessionID) ∨
            ∃ code, message = .error code ∧ IsBudgetCode code ∧
              ∃ served ∈ (replay serve newLink audioRefused).1, BudgetAnswer code served)) :=
  ⟨by decide +kernel, speech_request_ends_for_cause opened_newLink
    (run_replay serve newLink audioRefused) _ (by decide +kernel)⟩

end XiaozhiPlatform.VoiceLink
