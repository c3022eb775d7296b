import XiaozhiPlatform.Voice.BudgetErrors

/-!
# Protocol violations of a conforming device

The gateway counts a violation when it cannot follow a `tts_request` or `tts_abort`. What the device
has in flight is followed one message after the other (`Follows`), as long as two things do not
happen: the device aborts a request that the gateway has ended already, or the gateway ends a request
whose abort is in flight. Both can happen on a link without faults, and then the abort is counted as
a violation (`crossing_abort_is_violation`).

The main result is `no_violation_without_crossing`. Its invariant is `Agreed`: after everything in
flight the gateway holds the request that the device speaks, or none.
-/

namespace XiaozhiPlatform.VoiceLink

open GoLib CLib Protocol VoiceAgent VoiceAgentProtocol VoiceConnection Controller

/-! ## The condition -/

/-- The gateway has the request in its slot, or the request is on its way. -/
def Link.Awaited (link : Link) (requestID : UInt32) : Prop :=
  link.gateway.IsActive requestID ∨ ∃ payload ∈ link.uplink, ∃ sessionID text,
    link.gateway.handleText payload (.ok ()) = some (.request sessionID requestID text (.ok ()))

/-- An abort of the request is on its way. -/
def Link.AbortInFlight (link : Link) (requestID : UInt32) : Prop :=
  ∃ payload ∈ link.uplink, ∃ sessionID,
    link.gateway.handleText payload (.ok ()) = some (.abort sessionID requestID)

/-- A text that the gateway speaks. -/
def Speakable (text : CString) : Prop :=
  ∃ value : String, text.bytes = utf8 value.toList ∧ isBlank value.toList = false ∧
    byteLength value.toList ≤ maxTTSTextBytes

/-- The world of a conforming device: messages are not lost, speech can be reserved, and its audio
is well formed and not refused for a budget. -/
def Conforming (link : Link) : Happening → Prop
  | .agentFinal answers _ _ | .agentError answers _ | .interrupt answers _ | .receive answers =>
    answers.sendJSON = true
  | .control reserved => reserved = .ok ()
  | .audio packet handled =>
    (∃ opus, decodeAudioPacket link.gateway.protocolVersion packet = .ok opus) ∧
      ∀ err, handled = .error err →
        err.is SpeechBudget.errBudgetExceeded = false ∧ isSpeechBudgetError err = false
  | .stt _ | .step _ _ | .deadline _ | .disconnect => True

/-- No abort crosses the end of its request: the device aborts a request only while the gateway has
it or will get it, and the gateway ends no request whose abort is on its way. The Agent answers with
texts that can be spoken. -/
def Uncrossed (link : Link) : Happening → Prop
  | .agentFinal _ _ text => ∀ value, text = some value → value.bytes ≠ [] → Speakable value
  | .interrupt _ reason =>
    reason ≠ none → link.device.Speaking → link.Awaited link.device.bridge.activeRequestID
  | .receive _ => ∀ sessionID text, link.downlink.head? = some (.stt sessionID text) →
      link.device.Speaking → link.Awaited link.device.bridge.activeRequestID
  | .step request input => ∀ active, link.gateway.active = some active →
      (link.gateway.next (.step request input)).active = none →
      ¬ link.AbortInFlight active.requestID
  | .agentError _ _ | .control _ | .audio _ _ | .stt _ | .deadline _ | .disconnect => True

/-! ## What is in flight -/

/-- A message of the device. -/
inductive Control where
  | request (requestID : UInt32)
  | abort (requestID : UInt32)
deriving DecidableEq

/-- The gateway reads the bytes as the message. -/
def Carries (sessionID : String) (payload : List UInt8) : Control → Prop
  | .request requestID => ∃ text, ∀ (c : Connection) reserved, c.sessionID = sessionID →
      c.handleText payload reserved = some (.request sessionID requestID text reserved)
  | .abort requestID => ∀ (c : Connection) reserved, c.sessionID = sessionID →
      c.handleText payload reserved = some (.abort sessionID requestID)

/-- The gateway can follow the messages one after the other, from a slot to a slot. -/
inductive Follows : Option UInt32 → List Control → Option UInt32 → Prop
  | nil (slot : Option UInt32) : Follows slot [] slot
  | request {requestID : UInt32} {controls : List Control} {slot : Option UInt32}
      (rest : Follows (some requestID) controls slot) :
      Follows none (.request requestID :: controls) slot
  | abort {requestID : UInt32} {controls : List Control} {slot : Option UInt32}
      (rest : Follows none controls slot) :
      Follows (some requestID) (.abort requestID :: controls) slot

namespace Follows

variable {first slot : Option UInt32} {controls : List Control} {requestID : UInt32}

theorem append_request (h : Follows first controls none) :
    Follows first (controls ++ [.request requestID]) (some requestID) := by
  generalize hslot : none = slot at h
  induction h with
  | nil slot =>
    subst hslot
    exact .request (.nil _)
  | request _ ih => exact .request (ih hslot)
  | abort _ ih => exact .abort (ih hslot)

theorem append_abort (h : Follows first controls (some requestID)) :
    Follows first (controls ++ [.abort requestID]) none := by
  generalize hslot : some requestID = slot at h
  induction h with
  | nil slot =>
    subst hslot
    exact .abort (.nil _)
  | request _ ih => exact .request (ih hslot)
  | abort _ ih => exact .abort (ih hslot)

theorem slot_of_getLast? (h : Follows first controls slot)
    (hlast : controls.getLast? = some (.request requestID)) : slot = some requestID := by
  induction h with
  | nil slot => cases hlast
  | @request id controls slot rest ih =>
    cases controls with
    | nil =>
      cases rest
      cases hlast
      rfl
    | cons control controls => exact ih (by simpa [List.getLast?_cons_cons] using hlast)
  | @abort id controls slot rest ih => grind

theorem eq_nil_of_some (h : Follows (some requestID) controls slot)
    (habort : .abort requestID ∉ controls) : controls = [] := by
  cases h with
  | nil => rfl
  | abort => exact absurd List.mem_cons_self habort

end Follows

/-- The ids of the terminal events among the messages. -/
def terminals (messages : List Message) : List UInt32 :=
  messages.filterMap fun message =>
    match message with
    | .tts event => if event.state.isTerminal then some event.requestID else none
    | .audio _ | .error _ | .stt _ _ => none

theorem terminals_append (left right : List Message) :
    terminals (left ++ right) = terminals left ++ terminals right := List.filterMap_append

variable {messages : List Message}

theorem terminals_of_opening (h : ∀ m ∈ messages, m.isTerminal = false) :
    terminals messages = [] := by
  rw [terminals, List.filterMap_eq_nil_iff]
  intro message hmem
  have := h message hmem
  cases message with
  | tts event => exact if_neg (by simpa [Message.isTerminal] using this)
  | audio | error | stt => rfl

/-- The device, the slot of the gateway and what is in flight agree. -/
structure InStep (device : Controller) (first : Option UInt32) (controls : List Control)
    (slot : Option UInt32) (downlink : List Message) : Prop where
  follows : Follows first controls slot
  /-- In the end the gateway holds the request that the device speaks, or none. -/
  held : slot = none ∨ device.Speaking ∧ slot = some device.bridge.activeRequestID
  /-- The request that the device speaks is the last thing that it sent. -/
  last : device.Speaking → controls = [] ∨
    controls.getLast? = some (.request device.bridge.activeRequestID)
  /-- A terminal event in flight is for that request, which the gateway holds no more. -/
  terminal : terminals downlink = [] ∨
    terminals downlink = [device.bridge.activeRequestID] ∧ device.Speaking ∧ slot = none

/-- What holds on a link of a conforming device, apart from what is in flight to the gateway. -/
structure Kept (link : Link) : Prop where
  session : link.protocolSessionID = valueString link.gateway.sessionID
  text : Char.ofNat 0 ∉ link.gateway.sessionID.toList
  named : link.gateway.sessionID ≠ ""
  short : byteLength link.gateway.sessionID.toList ≤ maxSessionIDBytes
  buffer : maxControlBytes ≤ link.device.txBufferSize
  active : link.device.bridge.state ≠ .idle → link.device.bridge.activeRequestID ≠ 0 ∧
    link.device.bridge.sessionID = link.protocolSessionID
  counted : link.gateway.violations = 0
  budgeted : ∀ code, .error code ∈ link.downlink → ¬ IsBudgetCode code

/-- What holds on a link of a conforming device. -/
structure Agreed (link : Link) : Prop extends Kept link where
  inStep : link.gateway.closed = false → ∃ controls slot,
    List.Forall₂ (Carries link.gateway.sessionID) link.uplink controls ∧
      InStep link.device (link.gateway.active.map ActiveTTS.requestID) controls slot link.downlink

namespace InStep

variable {device device' : Controller} {first slot : Option UInt32} {controls : List Control}
  {downlink : List Message}

section

variable (h : InStep device first controls slot downlink)

include h

theorem same (hspeaking : device'.Speaking ↔
    device.Speaking) (hactive : device.Speaking → device'.bridge.activeRequestID =
    device.bridge.activeRequestID) : InStep device' first controls slot downlink := by
  refine ⟨h.follows, ?_, ?_, ?_⟩
  · refine h.held.imp_right fun ⟨hsp, hslot⟩ => ⟨hspeaking.mpr hsp, ?_⟩
    rwa [hactive hsp]
  · intro hsp
    rw [hactive (hspeaking.mp hsp)]
    exact h.last (hspeaking.mp hsp)
  · refine h.terminal.imp_right fun ⟨hids, hsp, hslot⟩ => ⟨?_, hspeaking.mpr hsp, hslot⟩
    rwa [hactive hsp]

theorem slot_eq_none (hsilent : ¬ device.Speaking) : slot = none ∧ terminals downlink = [] :=
  ⟨h.held.resolve_right fun h => hsilent h.1, h.terminal.resolve_right fun h => hsilent h.2.1⟩

theorem silent (hsilent : ¬ device.Speaking)
    (hafter : ¬ device'.Speaking) : InStep device' first controls slot downlink :=
  h.same ⟨fun h => absurd h hafter, fun h => absurd h hsilent⟩ fun h => absurd h hsilent

/-- The device sends a request. -/
theorem request (hsilent : ¬ device.Speaking)
    (hafter : device'.Speaking) : InStep device' first (controls ++ [.request
    device'.bridge.activeRequestID]) (some device'.bridge.activeRequestID) downlink := by
  obtain ⟨rfl, hterminals⟩ := h.slot_eq_none hsilent
  exact ⟨h.follows.append_request, Or.inr ⟨hafter, rfl⟩,
    fun _ => Or.inr (List.getLast?_concat ..), Or.inl hterminals⟩

/-- The device aborts a request that the gateway will hold. -/
theorem abort (hslot : slot = some device.bridge.activeRequestID) (hafter : ¬ device'.Speaking) :
    InStep device' first (controls ++ [.abort device.bridge.activeRequestID]) none downlink := by
  subst hslot
  refine ⟨h.follows.append_abort, Or.inl rfl, fun h => absurd h hafter, Or.inl ?_⟩
  exact h.terminal.resolve_right fun h => nomatch h.2.2

end

theorem tail (h : InStep device first controls slot (message :: downlink)) :
    InStep device first controls slot downlink := by
  have hterminals := terminals_append [message] downlink
  refine ⟨h.follows, h.held, h.last, ?_⟩
  rcases h.terminal with hnone | ⟨hone, hspeaking, hslot⟩
  · grind [List.singleton_append, List.append_eq_nil_iff]
  · grind [List.singleton_append, List.append_eq_singleton_iff]

theorem terminalEvent (h : InStep device first controls slot
    (.tts event :: downlink)) (hterminal : event.state.isTerminal = true) (hafter : ¬
    device'.Speaking) : InStep device' first controls slot downlink := by
  have hterminals : terminals (.tts event :: downlink) = event.requestID :: terminals downlink := by
    simp [terminals, hterminal]
  rcases h.terminal with hnone | ⟨hone, -, hslot⟩
  · rw [hterminals] at hnone
    cases hnone
  · rw [hterminals, List.cons.injEq] at hone
    exact ⟨h.follows, Or.inl hslot, fun h => absurd h hafter, Or.inl hone.2⟩

theorem slot_of_awaited (h : InStep device first controls slot downlink) (hspeaking :
    device.Speaking) (hawaited : first = some device.bridge.activeRequestID ∨ controls ≠ []) : slot
    = some device.bridge.activeRequestID := by
  rcases h.last hspeaking with rfl | hlast
  · cases h.follows
    exact hawaited.resolve_right fun h => h rfl
  · exact h.follows.slot_of_getLast? hlast

end InStep

theorem exists_of_mem_right {α β : Type} {R : α → β → Prop} {left : List α} {right : List β}
    (h : List.Forall₂ R left right) {b : β} (hb : b ∈ right) : ∃ a ∈ left, R a b := by
  induction h with
  | nil => cases hb
  | cons hr _ ih => grind

/-! ## The device -/

variable {text : CString}

section Device

variable {c : Controller}

theorem built_of_builds {builder : Option ℕ → ℕ → Option ℕ → Memory → Result ×
    Memory × Option ℕ} (h : Builds bytes builder) (hfits : bytes.length + 1 ≤ c.txBufferSize) :
    c.built (builder (some c.txBuffer) c.txBufferSize (some 0) c.memory) = some bytes := by
  obtain ⟨after, hbuilt, hload, -⟩ := h c.txBuffer c.txBufferSize 0 c.memory (by omega)
  rw [hbuilt, if_pos hfits]
  have hbytes := hload hfits
  rw [show bytes.length + 1 = (bytes ++ [0]).length by simp] at hbytes
  exact congrArg some (Memory.load_of_load_append hbytes)

section

variable (hbuffer : maxControlBytes ≤ c.txBufferSize) (hactive : c.bridge.activeRequestID ≠ 0)
  (hsession : c.bridge.sessionID.bytes ≠ [])
  (hshort : c.bridge.sessionID.bytes.length ≤ maxSessionIDBytes)

include hbuffer hactive hsession hshort

theorem built_abort (reason : InterruptReason) : ∃ kind value, abortReasonString kind = some value ∧
      c.built ((c.because reason).buildAbort c.bridge.activeRequestID) =
        some (messageBytes c.bridge.sessionID "tts_abort" c.bridge.activeRequestID "reason" value) := by
  obtain ⟨value, hvalue⟩ : ∃ value,
      abortReasonString (mapAbortReason reason) = some value := by
    cases reason <;> exact ⟨_, rfl⟩
  have hlength : value.bytes.length ≤ maxTTSTextBytes := by
    cases reason <;> cases hvalue <;> decide
  have hsize := length_messageBytes_lt (by simp [kinds] : ("tts_abort", "reason") ∈ kinds)
    c.bridge.activeRequestID hshort hlength
  have hsessionID : (c.because reason).activeSessionID = c.bridge.sessionID := if_pos hactive
  refine ⟨_, value, hvalue, ?_⟩
  rw [buildAbort, hsessionID]
  exact built_of_builds (builds_ttsAbort hsession hshort hactive hvalue) (by omega)

theorem built_request (htext : text.bytes ≠ []) (hlength : text.bytes.length ≤ maxTTSTextBytes) :
    c.built (c.buildRequest c.bridge.activeRequestID text) =
      some (messageBytes c.bridge.sessionID "tts_request" c.bridge.activeRequestID "text" text) :=
    by
  have hsize := length_messageBytes_lt (by simp [kinds] : ("tts_request", "text") ∈ kinds)
    c.bridge.activeRequestID hshort hlength
  exact built_of_builds (builds_ttsRequest hsession hshort hactive htext hlength) (by omega)

end

end Device

/-- The events that end a request at the device for the gateway. -/
def Terminal : Event → Prop
  | .ttsEvent _ _ kind => kind = some .stopped ∨ kind = some .error
  | .sttFinal _ _ | .agentFinal _ _ | .agentError _ | .interrupt _ => False

/-- The events that keep a link agreed. Terminal events are considered with the message that they
came in. -/
def Allowed (link : Link) : Event → Prop
  | .sttFinal sessionID _ => ∀ value, sessionID = some value → value = link.protocolSessionID
  | .agentFinal _ text => ∀ value, text = some value → value.bytes ≠ [] → Speakable value
  | .agentError _ | .ttsEvent _ _ _ => True
  | .interrupt reason =>
    reason ≠ none → link.device.Speaking → link.Awaited link.device.bridge.activeRequestID

variable {c' : Controller}

namespace Kept

variable {link : Link}

theorem session_eq (h : Kept link) :
    link.protocolSessionID = cString link.gateway.sessionID h.text :=
  h.session.trans (cString_eq_valueString h.text).symm

theorem session_ne_nil (h : Kept link) : link.protocolSessionID.bytes ≠ [] := by
  rw [h.session_eq]
  exact bytes_ne_nil h.text h.named

theorem session_length (h : Kept link) :
    link.protocolSessionID.bytes.length ≤ maxSessionIDBytes := by
  rw [h.session_eq]
  exact h.short

theorem setDevice (h : Kept link) (hbuffer : c'.txBufferSize = link.device.txBufferSize)
    (hactive : c'.bridge.state ≠ .idle → c'.bridge.activeRequestID ≠ 0 ∧
      c'.bridge.sessionID = link.protocolSessionID)
    (hinStep : link.gateway.closed = false → ∃ controls slot,
      List.Forall₂ (Carries link.gateway.sessionID)
        (link.uplink ++ added (sent link.device.log) (sent c'.log)) controls ∧
      InStep c' (link.gateway.active.map ActiveTTS.requestID) controls slot link.downlink) :
    Agreed (link.setDevice c') where
  session := h.session
  text := h.text
  named := h.named
  short := h.short
  buffer := hbuffer ▸ h.buffer
  active := hactive
  counted := h.counted
  budgeted := h.budgeted
  inStep := hinStep

end Kept

variable {requestID : UInt32} {controls : List Control} {slot : Option UInt32}

namespace Agreed

variable {link : Link}

section SetDevice

variable {c' : Controller} (h : Agreed link) (hbuffer : c'.txBufferSize = link.device.txBufferSize)
  (hactive : c'.bridge.state ≠ .idle → c'.bridge.activeRequestID ≠ 0 ∧
    c'.bridge.sessionID = link.protocolSessionID)

include h hbuffer hactive

theorem setDevice_silent (hsent : sent c'.log = sent link.device.log) (hinStep : ∀ controls slot,
    InStep link.device (link.gateway.active.map ActiveTTS.requestID) controls slot link.downlink →
    InStep c' (link.gateway.active.map ActiveTTS.requestID) controls slot link.downlink) : Agreed
    (link.setDevice c') := by
  refine h.setDevice hbuffer hactive fun hopen => ?_
  obtain ⟨controls, slot, hcarries, hstep⟩ := h.inStep hopen
  rw [hsent, added_self, List.append_nil]
  exact ⟨controls, slot, hcarries, hinStep controls slot hstep⟩

theorem setDevice_send {json : List UInt8} (hsent : sent c'.log = json ::
    sent link.device.log) {control : Control} (hcarried : Carries link.gateway.sessionID json
    control) (hinStep : ∀ controls slot, List.Forall₂ (Carries link.gateway.sessionID) link.uplink
    controls → InStep link.device (link.gateway.active.map ActiveTTS.requestID) controls slot
    link.downlink → ∃ slot', InStep c' (link.gateway.active.map ActiveTTS.requestID) (controls ++
    [control]) slot' link.downlink) : Agreed (link.setDevice c') := by
  refine h.setDevice hbuffer hactive fun hopen => ?_
  obtain ⟨controls, slot, hcarries, hstep⟩ := h.inStep hopen
  obtain ⟨slot', hstep'⟩ := hinStep controls slot hcarries hstep
  rw [hsent, added_cons]
  exact ⟨controls ++ [control], slot', List.rel_append hcarries (.cons hcarried .nil), hstep'⟩

end SetDevice

theorem slot_of_awaited (hspeaking : link.device.Speaking) (hawaited : link.Awaited
    link.device.bridge.activeRequestID) (hcarries :
    List.Forall₂ (Carries link.gateway.sessionID) link.uplink controls) (hstep : InStep link.device
    (link.gateway.active.map ActiveTTS.requestID) controls slot link.downlink) : slot = some
    link.device.bridge.activeRequestID := by
  refine hstep.slot_of_awaited hspeaking (hawaited.imp id ?_)
  rintro ⟨payload, hmem, -⟩ rfl
  rw [List.forall₂_nil_right_iff] at hcarries
  rw [hcarries] at hmem
  cases hmem

theorem carries_abort (h : Agreed link) (hid : requestID ≠ 0)
    (hkind : abortReasonString kind = some value) :
    Carries link.gateway.sessionID
      (messageBytes link.protocolSessionID "tts_abort" requestID "reason" value)
      (.abort requestID) := by
  intro c reserved hsession
  rw [h.session_eq]
  exact handleText_abort hsession reserved h.text h.short hid hkind

theorem exists_cString (h : text.bytes = utf8 value.toList) :
    ∃ hvalue : Char.ofNat 0 ∉ value.toList, text = cString value hvalue := by
  have hvalue : Char.ofNat 0 ∉ value.toList := by
    intro hzero
    refine text.nonzero (h ▸ List.mem_flatMap.mpr ⟨Char.ofNat 0, hzero, ?_⟩)
    decide
  refine ⟨hvalue, ?_⟩
  obtain ⟨bytes, hnonzero⟩ := text
  subst h
  rfl

theorem carries_request (h : Agreed link) (hid : requestID ≠ 0) (htext : Speakable text) :
    Carries link.gateway.sessionID
      (messageBytes link.protocolSessionID "tts_request" requestID "text" text)
      (.request requestID) := by
  obtain ⟨value, hbytes, hblank, hlength⟩ := htext
  obtain ⟨hvalue, rfl⟩ := exists_cString hbytes
  refine ⟨value, ?_⟩
  intro c reserved hsession
  rw [h.session_eq]
  exact handleText_request hsession reserved h.text hvalue h.short hid hblank hlength

end Agreed

variable {c : Controller}

theorem not_speaking_of_idle (h : c.bridge.state = .idle) : ¬ c.Speaking :=
  fun hspeaking => hspeaking.busy h

theorem not_speaking_of_cleared (h : c'.bridge = c.bridge.cleared) :
    ¬ c'.Speaking := not_speaking_of_idle (by rw [h, Bridge.cleared])

theorem not_speaking_of_running (h : c.bridge.state = .agentRunning) :
    ¬ c.Speaking := fun hspeaking => Controller.Speaking.not_running hspeaking h

variable {answers : Answers} {link : Link}

theorem Agreed.effect (h : Agreed link) {event : Event}
    (heffect : Effect link.device answers event c') (hsend : answers.sendJSON = true)
    (hallowed : Allowed link event) (hbuffer : c'.txBufferSize = link.device.txBufferSize) (hended :
    Terminal event → ¬ c'.Speaking → link.gateway.closed = false → ∃ controls slot, List.Forall₂
    (Carries link.gateway.sessionID) link.uplink controls ∧ InStep c' (link.gateway.active.map
    ActiveTTS.requestID) controls slot link.downlink) : Agreed (link.setDevice c') := by
  -- a bridge that is cleared has no active request
  have hcleared (hbridge : c'.bridge = link.device.bridge.cleared) :
      c'.bridge.state ≠ .idle → c'.bridge.activeRequestID ≠ 0 ∧
        c'.bridge.sessionID = link.protocolSessionID :=
    fun hbusy => absurd (by rw [hbridge, Bridge.cleared]) hbusy
  cases heffect with
  | unchanged _ _ hbridge hlog =>
    refine h.setDevice_silent hbuffer (by rw [hbridge]; exact h.active) (by rw [hlog])
      fun controls slot hstep => hstep.same ?_ fun _ => by rw [hbridge]
    rw [Controller.Speaking, Controller.Speaking, hbridge]
  | submitted sessionID text _ hidle hvalid hbridge _ hsends =>
    have hfresh : link.device.bridge.fresh ≠ 0 := by grind [Bridge.fresh]
    refine h.setDevice_silent hbuffer (fun _ => ?_) hsends fun controls slot hstep =>
      hstep.silent (not_speaking_of_idle hidle) (not_speaking_of_running (by rw [hbridge]))
    rw [hbridge]
    exact ⟨hfresh, hallowed sessionID rfl⟩
  | rejected sessionID text _ hidle hbridge _ hsends =>
    refine h.setDevice_silent hbuffer (fun hbusy => absurd (by rw [hbridge]) hbusy) hsends
      fun controls slot hstep =>
        hstep.silent (not_speaking_of_idle hidle) (not_speaking_of_idle (by rw [hbridge]))
  | requested text json _ hrunning hactive hbuild hbridge _ hsends =>
    have hbusy : link.device.bridge.state ≠ .idle := by rw [hrunning]; decide
    obtain ⟨-, hsession⟩ := h.active hbusy
    have hspeaks : c'.Speaking := Or.inl (by rw [hbridge])
    -- the builder refuses an empty text
    have htext : text.bytes ≠ [] := by
      intro hempty
      simp [buildRequest, buildTTSRequest, hempty, built] at hbuild
    have hspeakable := hallowed text rfl htext
    have hlength : text.bytes.length ≤ maxTTSTextBytes := by
      obtain ⟨value, hbytes, -, hlength⟩ := hspeakable
      rw [hbytes]
      exact hlength
    rw [built_request h.buffer hactive (by rw [hsession]; exact h.session_ne_nil)
      (by rw [hsession]; exact h.session_length) htext hlength, hsession] at hbuild
    obtain rfl := Option.some.inj hbuild
    have hid : c'.bridge.activeRequestID = link.device.bridge.activeRequestID := by rw [hbridge]
    refine h.setDevice_send hbuffer (fun _ => ?_) hsends (h.carries_request hactive hspeakable)
      fun controls slot _ hstep => ?_
    · grind
    · rw [← hid]
      exact ⟨_, hstep.request (not_speaking_of_running hrunning) hspeaks⟩
  | failed _ _ hrunning hbridge _ hsends =>
    exact h.setDevice_silent hbuffer (hcleared hbridge) hsends fun controls slot hstep =>
      hstep.silent (not_speaking_of_running hrunning) (not_speaking_of_cleared hbridge)
  | played _ hpending hbridge _ hsends =>
    have hbusy : link.device.bridge.state ≠ .idle := by rw [hpending]; decide
    refine h.setDevice_silent hbuffer (fun _ => ?_) hsends fun controls slot hstep =>
      hstep.same ⟨fun _ => Or.inl hpending, fun _ => Or.inr (by rw [hbridge])⟩ fun _ => by
        rw [hbridge]
    rw [hbridge]
    exact h.active hbusy
  | ended kind playback _ _ hterminal hbridge _ hsends =>
    refine h.setDevice hbuffer (hcleared hbridge) fun hopen => ?_
    have hkind : kind = .stopped ∨ kind = .error := hterminal.imp And.left And.left
    rw [hsends, added_self, List.append_nil]
    exact hended (hkind.imp (congrArg some) (congrArg some)) (not_speaking_of_cleared hbridge)
      hopen
  | aborted reason _ hspeaking hbridge _ hsends =>
    have hawaited := hallowed (by simp) hspeaking
    obtain ⟨hactive, hsession⟩ := h.active hspeaking.busy
    obtain ⟨kind, value, hkind, hbuilt⟩ := built_abort h.buffer hactive
      (by rw [hsession]; exact h.session_ne_nil) (by rw [hsession]; exact h.session_length) reason
    rw [hbuilt, if_pos hsend, hsession] at hsends
    exact h.setDevice_send hbuffer (hcleared hbridge) hsends (h.carries_abort hactive hkind)
      fun controls slot hcarries hstep => ⟨none, hstep.abort
        (Agreed.slot_of_awaited hspeaking hawaited hcarries hstep) (not_speaking_of_cleared hbridge)⟩

theorem setDevice_setDevice (link : Link) (h : sent after.log = sent
    between.log) : (link.setDevice between).setDevice after = link.setDevice after := by
  simp [Link.setDevice, h]

theorem sent_of_sttFinal
    (h : Effect c answers (.sttFinal sessionID text) c') : sent c'.log = sent c.log := by
  cases h with
  | unchanged _ _ _ hlog => rw [hlog]
  | submitted _ _ _ _ _ _ _ hsends | rejected _ _ _ _ _ _ hsends | failed _ _ _ _ _ hsends =>
    exact hsends

theorem Agreed.handle (h : Agreed link) (event : Event) (hsend :
    answers.sendJSON = true) (hallowed : Allowed link event) (hbargeIn : ∀ sessionID text, event =
    .sttFinal sessionID text → Allowed link (.interrupt (some .userBargeIn))) (hended : Terminal
    event → ∀ c' : Controller, ¬ c'.Speaking → link.gateway.closed = false → ∃ controls slot,
    List.Forall₂ (Carries link.gateway.sessionID) link.uplink controls ∧ InStep c'
    (link.gateway.active.map ActiveTTS.requestID) controls slot link.downlink) : Agreed (link.handle
    answers event) := by
  have hbuffer := txBufferSize_handle answers link.device event
  cases handle_effect answers link.device event with
  | once heffect => exact h.effect heffect hsend hallowed hbuffer fun h => hended h _
  | bargeIn between sessionID text htranscript hinterrupts hbetween hstarts =>
    subst htranscript
    have hstopped := h.effect hinterrupts hsend (hbargeIn _ _ rfl) hbetween False.elim
    have hstarted := hstopped.effect hstarts hsend hallowed (hbuffer.trans hbetween.symm)
      False.elim
    rwa [setDevice_setDevice link (sent_of_sttFinal hstarts)] at hstarted

theorem Agreed.takeDownlink (h : Agreed link)
    (hsend : answers.sendJSON = true) (huncrossed : Uncrossed link (.receive answers)) :
    Agreed (link.takeDownlink answers) := by
  unfold Link.takeDownlink
  split
  · exact h
  next message rest hdownlink =>
  -- once the message is out of the channel, it is an event of the device
  have hrest : Agreed { link with downlink := rest } := by
    refine { h with budgeted := fun code hmem => ?_, inStep := fun hopen => ?_ }
    · exact h.budgeted code (hdownlink ▸ List.mem_cons_of_mem _ hmem)
    · obtain ⟨controls, slot, hcarries, hstep⟩ := h.inStep hopen
      rw [hdownlink] at hstep
      exact ⟨controls, slot, hcarries, hstep.tail⟩
  have hnothing {c : Controller} (hc : c = link.device) :
      Agreed ({ link with downlink := rest }.setDevice c) := by
    subst hc
    rwa [Link.setDevice, added_self, List.append_nil]
  cases message with
  | audio packet => exact hnothing rfl
  | error code =>
    have hbudget : serviceErrorOf (valueString code) = .none := by
      have := h.budgeted code (hdownlink ▸ List.mem_cons_self)
      rwa [IsBudgetCode, not_not] at this
    refine hnothing ?_
    rw [receive_error, hbudget, if_neg (by simp)]
  | stt sessionID text =>
    rw [receive_stt answers link.device h.session_ne_nil]
    split
    · -- the interrupt before the new turn is the one that must not cross
      refine hrest.handle (.sttFinal (some link.protocolSessionID) (some (valueString text)))
        hsend ?_ ?_ False.elim
      · rintro value ⟨⟩
        rfl
      · rintro _ _ - - hspeaking
        exact huncrossed sessionID text (by rw [hdownlink]; rfl) hspeaking
    · exact hnothing rfl
  | tts event =>
    rw [receive_tts answers link.device h.session_ne_nil]
    split
    case isFalse => exact hnothing rfl
    cases hkind : lifecycle event.state with
    | none => exact hnothing rfl
    | some kind =>
      refine hrest.handle (.ttsEvent (some link.protocolSessionID) event.requestID (some kind))
        hsend trivial (by simp) fun hterminal c' hafter hopen => ?_
      have hstate : event.state.isTerminal = true := by
        cases hstate : event.state with
        | start =>
          rw [hstate] at hkind
          cases hkind
          simp [Terminal] at hterminal
        | sentenceStart =>
          rw [hstate] at hkind
          cases hkind
        | stop => rfl
        | error => rfl
      obtain ⟨controls, slot, hcarries, hstep⟩ := h.inStep hopen
      rw [hdownlink] at hstep
      exact ⟨controls, slot, hcarries, hstep.terminalEvent hstate hafter⟩

/-! ## The gateway -/

theorem Kept.setGateway (h : Kept link) {after : Connection} (hsession :
    after.sessionID = link.gateway.sessionID) (hviolations : after.violations =
    link.gateway.violations) (messages : List Sent) (hwire : after.wire = messages ++
    link.gateway.wire) (hbudgeted : ∀ x ∈ messages, Connection.NoBudgetError x.message) (hinStep :
    after.closed = false → ∃ controls slot, List.Forall₂ (Carries link.gateway.sessionID)
    link.uplink controls ∧ InStep link.device (after.active.map ActiveTTS.requestID) controls slot
    (link.downlink ++ (messages.map Sent.message).reverse)) : Agreed (link.setGateway after) := by
  have hdownlink : (link.setGateway after).downlink =
      link.downlink ++ (messages.map Sent.message).reverse := by
    rw [Link.setGateway, hwire, added_append, List.map_reverse]
  refine ⟨⟨hsession ▸ h.session, hsession ▸ h.text, hsession ▸ h.named, hsession ▸ h.short, h.buffer,
    h.active, hviolations.trans h.counted, ?_⟩, ?_⟩
  · intro code hmem
    rw [hdownlink, List.mem_append, List.mem_reverse, List.mem_map] at hmem
    rcases hmem with hmem | ⟨x, hx, hcode⟩
    · exact h.budgeted code hmem
    · exact hbudgeted x hx code hcode
  · rw [hdownlink]
    intro hopen
    rw [show (link.setGateway after).gateway = after from rfl, hsession]
    exact hinStep hopen

namespace Agreed

variable {link : Link}

theorem setGateway_silent (h : Agreed link) (hsession : after.sessionID =
    link.gateway.sessionID) (hviolations : after.violations = link.gateway.violations) (hwire :
    after.wire = link.gateway.wire) (hslot : after.closed = false → link.gateway.closed = false ∧
    after.active = link.gateway.active) : Agreed (link.setGateway after) := by
  refine h.setGateway hsession hviolations [] hwire (by simp) fun hopen => ?_
  obtain ⟨hbefore, hactive⟩ := hslot hopen
  rw [hactive, List.map_nil, List.reverse_nil, List.append_nil]
  exact h.inStep hbefore

theorem setGateway_self (h : Agreed link) : Agreed (link.setGateway link.gateway) :=
  h.setGateway_silent rfl rfl rfl fun hopen => ⟨hopen, rfl⟩

end Agreed

theorem InStep.add {device : Controller} {first : Option UInt32}
    {downlink : List Message} (h : InStep device first controls slot downlink)
    (hopening : ∀ m ∈ messages, m.isTerminal = false) :
    InStep device first controls slot (downlink ++ messages) := by
  refine ⟨h.follows, h.held, h.last, ?_⟩
  rw [terminals_append, terminals_of_opening hopening, List.append_nil]
  exact h.terminal

/-- The gateway ends the request in its slot, which the device waits for. -/
theorem InStep.ends {device : Controller} {downlink : List Message} (h : InStep device (some
    requestID) controls slot downlink) (huncrossed : .abort requestID ∉ controls) (hmessages :
    terminals messages = [] ∨ terminals messages = [requestID]) : InStep device none controls none
    (downlink ++ messages) := by
  obtain rfl := h.follows.eq_nil_of_some huncrossed
  obtain ⟨hfollows, held, -, terminal⟩ := h
  cases hfollows
  obtain ⟨hspeaking, hid⟩ := held.resolve_left nofun
  have hterminals : terminals downlink = [] := terminal.resolve_right fun h => nomatch h.2.2
  refine ⟨.nil none, Or.inl rfl, fun _ => Or.inl rfl, ?_⟩
  rw [terminals_append, hterminals, List.nil_append]
  refine hmessages.imp_right fun h => ⟨?_, hspeaking, rfl⟩
  rw [h, Option.some.inj hid]

theorem terminals_of_speech {sessionID : String} {messages : List Sent}
    (hspeech : ∀ x ∈ messages, x.message.SpeechOf sessionID requestID) (honce : messages.length ≤ 1)
    : terminals (messages.map Sent.message).reverse = [] ∨ terminals (messages.map
    Sent.message).reverse = [requestID] := by
  match messages, honce with
  | [], _ => exact Or.inl rfl
  | [⟨writer, message⟩], _ =>
    have hspeech := hspeech _ (List.mem_singleton_self _)
    cases message with
    | audio packet => exact Or.inl rfl
    | error | stt => exact hspeech.elim
    | tts event =>
      cases hterminal : event.state.isTerminal with
      | false => exact Or.inl (by simp [terminals, hterminal])
      | true => exact Or.inr (by simpa [terminals, hterminal] using hspeech.2)

theorem streamTTS_frame (c : Connection) (request : ℕ) (s : Synthesis) (input : Input) :
    (c.streamTTS request s input).sessionID = c.sessionID ∧ (c.streamTTS request s input).violations
    = c.violations ∧ (c.streamTTS request s input).closed = c.closed := by
  have hwrite (message : Message) (stage : Stage) :
      let after := (c.writeIfActive request s message).1.setStage request stage
      after.sessionID = c.sessionID ∧ after.violations = c.violations ∧ after.closed = c.closed := by
    rcases Connection.writeIfActive_cases (c := c) request s message with ⟨-, -, h⟩ | ⟨-, _, h⟩
    · rw [h]
      exact ⟨rfl, rfl, rfl⟩
    · rw [h]
      exact ⟨rfl, rfl, rfl⟩
  unfold Connection.streamTTS
  split
  · exact hwrite _ _
  · exact hwrite _ _
  · split
    · exact ⟨rfl, rfl, rfl⟩
    · exact hwrite _ _
  · exact ⟨rfl, rfl, rfl⟩
  · exact ⟨rfl, rfl, rfl⟩
  · unfold Connection.finishTTS
    split
    · cases s.ended <;> exact ⟨rfl, rfl, rfl⟩
    · exact ⟨rfl, rfl, rfl⟩
  · exact ⟨rfl, rfl, rfl⟩

namespace Agreed

variable {link : Link}

theorem takeUplink (h : Agreed link) : Agreed (link.takeUplink (.ok ())) := by
  unfold Link.takeUplink
  split
  · exact h
  next payload rest huplink =>
  have hkept : Kept { link with uplink := rest } := { h.toKept with }
  split
  · next hclosed => exact { hkept with inStep := fun hopen => by simp [hclosed] at hopen }
  next hopen =>
  rw [Bool.not_eq_true] at hopen
  obtain ⟨controls, slot, hcarries, hstep⟩ := h.inStep hopen
  rw [huplink] at hcarries
  cases hcarries with
  | @cons _ control _ controls hcarried hcarries =>
  obtain ⟨hfollows, hheld, hlast, hterminal⟩ := hstep
  -- the request that the device speaks stays the last message, if any is left
  have hlast' : link.device.Speaking → controls = [] ∨
      controls.getLast? = some (.request link.device.bridge.activeRequestID) := by grind
  cases hactive : link.gateway.active with
  | none =>
    rw [hactive] at hfollows
    cases hfollows with
    | @request requestID _ _ hrest =>
    obtain ⟨text, hread⟩ := hcarried
    have hafter : link.gateway.readText payload (.ok ()) = { link.gateway with
        active := some ⟨requestID, link.gateway.syntheses.length⟩
        syntheses := link.gateway.syntheses ++ [{ requestID, text }] } := by
      simp [Connection.readText, hread link.gateway (.ok ()) rfl, Connection.next, hopen,
        Connection.handleControl, Connection.startTTS, hactive, Connection.report]
    rw [hafter]
    refine hkept.setGateway rfl rfl [] rfl (by simp) fun _ => ⟨controls, slot, hcarries, ?_⟩
    rw [List.map_nil, List.reverse_nil, List.append_nil]
    exact ⟨hrest, hheld, hlast', hterminal⟩
  | some active =>
    rw [hactive] at hfollows
    cases hfollows with
    | abort hrest =>
    have hheld' : link.gateway.IsActive active.requestID := by
      rw [Connection.IsActive, hactive]
      rfl
    have hafter : link.gateway.readText payload (.ok ()) = link.gateway.clearActive := by
      simp [Connection.readText, hcarried link.gateway (.ok ()) rfl, Connection.next, hopen,
        Connection.handleControl, Connection.abortTTS, hheld', Connection.report]
    rw [hafter]
    refine hkept.setGateway rfl rfl [] rfl (by simp) fun _ => ⟨controls, slot, hcarries, ?_⟩
    rw [List.map_nil, List.reverse_nil, List.append_nil]
    exact ⟨hrest, hheld, hlast', hterminal⟩

theorem step (h : Agreed link) (request : ℕ) (input : Input) (huncrossed : Uncrossed link (.step
    request input)) : Agreed (link.setGateway (link.gateway.next (.step request input))) := by
  cases hclosed : link.gateway.closed with
  | true =>
    rw [Connection.next, if_pos hclosed]
    exact h.setGateway_self
  | false =>
  cases hs : link.gateway.syntheses[request]? with
  | none =>
    have hnext : link.gateway.next (.step request input) = link.gateway := by
      simp [Connection.next, hs]
    rw [hnext]
    exact h.setGateway_self
  | some s =>
  have hnext : link.gateway.next (.step request input) =
      link.gateway.streamTTS request s input := by
    simp [Connection.next, hclosed, hs]
  have hslot := huncrossed
  simp only [Uncrossed, hnext] at hslot
  rw [hnext]
  obtain ⟨hsession, hviolations, hclosed'⟩ := streamTTS_frame link.gateway request s input
  obtain ⟨controls, slot, hcarries, hstep⟩ := h.inStep hclosed
  cases link.gateway.streams_streamTTS request s input with
  | goesOn messages hwire hspeech hactive =>
    refine h.setGateway hsession hviolations messages hwire
      (fun x hx => Connection.noBudgetError_of_speech (hspeech x hx).1)
      fun _ => ⟨controls, slot, hcarries, ?_⟩
    rw [hactive]
    refine hstep.add fun m hm => ?_
    rw [List.mem_reverse, List.mem_map] at hm
    obtain ⟨x, hx, rfl⟩ := hm
    exact (hspeech x hx).2
  | ends messages active hwire hspeech honce hheld hsame hcleared =>
    refine h.setGateway hsession hviolations messages hwire
      (fun x hx => Connection.noBudgetError_of_speech (hspeech x hx))
      fun _ => ⟨controls, none, hcarries, ?_⟩
    rw [hcleared]
    rw [hheld] at hstep
    refine hstep.ends (fun hmem => ?_) ?_
    · -- the abort in flight would be one that crosses
      obtain ⟨payload, hpayload, hread⟩ := exists_of_mem_right hcarries hmem
      exact hslot active hheld hcleared ⟨payload, hpayload, _, hread link.gateway (.ok ()) rfl⟩
    · rw [hsame]
      exact terminals_of_speech hspeech honce

theorem gatewayCall (h : Agreed link) (hcall : (∃ text, call = .stt text) ∨ (∃
    request, call = .deadline request) ∨ call = .disconnect ∨ ∃ packet handled, call = .audio packet
    handled ∧ Conforming link (.audio packet handled)) : Agreed (link.setGateway (link.gateway.next
    call)) := by
  unfold Connection.next
  cases hclosed : link.gateway.closed with
  | true =>
    rw [if_pos rfl]
    exact h.setGateway_self
  | false =>
  rw [if_neg (by simp)]
  rcases hcall with ⟨text, rfl⟩ | ⟨request, rfl⟩ | rfl | ⟨packet, handled, rfl, ⟨opus, hdecode⟩, hhandled⟩
  · refine h.setGateway rfl rfl [⟨none, .stt link.gateway.sessionID text⟩] rfl ?_ fun _ => ?_
    · intro x hx code hcode
      rw [List.mem_singleton.mp hx] at hcode
      cases hcode
    · obtain ⟨controls, slot, hcarries, hstep⟩ := h.inStep hclosed
      exact ⟨controls, slot, hcarries, hstep.add (by simp [Message.isTerminal])⟩
  · exact h.setGateway_silent rfl rfl rfl fun _ => ⟨hclosed, rfl⟩
  · exact h.setGateway_silent rfl rfl rfl (by rintro ⟨⟩)
  · simp only [Connection.handleAudio, hdecode]
    cases handled with
    | ok value => exact h.setGateway_self
    | error err =>
      obtain ⟨hexceeded, hbudget⟩ := hhandled err rfl
      simp only [hexceeded, hbudget, Bool.false_eq_true, if_false]
      exact h.setGateway_silent rfl rfl rfl (by rintro ⟨⟩)

theorem next (h : Agreed link) {happening : Happening} (hconforming : Conforming link happening)
    (huncrossed : Uncrossed link happening) : Agreed (link.next happening) := by
  cases happening with
  | agentFinal answers requestID text =>
    exact h.handle (.agentFinal requestID text) hconforming huncrossed nofun False.elim
  | agentError answers requestID =>
    exact h.handle (.agentError requestID) hconforming trivial nofun False.elim
  | interrupt answers reason =>
    exact h.handle (.interrupt reason) hconforming huncrossed nofun False.elim
  | receive answers => exact h.takeDownlink hconforming huncrossed
  | control reserved =>
    rw [show reserved = .ok () from hconforming]
    exact h.takeUplink
  | audio packet handled =>
    exact h.gatewayCall (Or.inr (Or.inr (Or.inr ⟨packet, handled, rfl, hconforming⟩)))
  | stt text => exact h.gatewayCall (Or.inl ⟨text, rfl⟩)
  | step request input => exact h.step request input huncrossed
  | deadline request => exact h.gatewayCall (Or.inr (Or.inl ⟨request, rfl⟩))
  | disconnect => exact h.gatewayCall (Or.inr (Or.inr (Or.inl rfl)))

end Agreed

theorem Opened.agreed (h : Opened link) : Agreed link := by
  obtain ⟨version, hfresh⟩ := h.fresh
  refine ⟨⟨h.session, h.text, h.named, h.short, h.buffer, fun hbusy => absurd h.idle hbusy, ?_, ?_⟩,
    fun _ => ⟨[], none, ?_, ?_⟩⟩
  · rw [hfresh]
    rfl
  · rw [h.quiet.2]
    nofun
  · rw [h.quiet.1]
    exact .nil
  · rw [hfresh, h.quiet.2]
    exact ⟨.nil none, Or.inl rfl, fun _ => Or.inl rfl, Or.inl rfl⟩

/-- On every link whose device conforms, and on which no abort crosses the end of its request, the
gateway counts no violation. -/
theorem no_violation_without_crossing {start link : Link} {history : List (Served Link Happening)}
    (hopened : Opened start) (hrun : Run serve start history link) (hconforming : ∀ served ∈
    history, Conforming served.before served.call) (huncrossed : ∀ served ∈ history, Uncrossed
    served.before served.call) : link.gateway.violations = 0 := by
  have hagreed : Agreed link := by
    induction hrun with
    | nil => exact hopened.agreed
    | step happening _ ih =>
      obtain ⟨hnow, hbefore⟩ := List.forall_mem_cons.mp hconforming
      obtain ⟨hcalm, hcalm'⟩ := List.forall_mem_cons.mp huncrossed
      exact (ih hbefore hcalm').next hnow hcalm
  exact hagreed.counted

/-! ## An abort that crosses -/

/-- The device asks for speech. -/
def speechAsked : List Happening :=
  [.agentFinal allSucceed 1 (some (valueString "done")), .receive allSucceed, .stt "hello"]

/-- The link when the request is in flight. -/
def asked : Link := (replay serve newLink speechAsked).2

def requestBytes : List UInt8 :=
  messageBytes (cString "voice:1" (by decide)) "tts_request" 1 "text" (cString "done" (by decide))

/-- The gateway speaks and ends the request, and then the device aborts it: it has not taken the
terminal event yet. -/
def abortSent : List Happening :=
  [.interrupt allSucceed (some .button), .step 0 .go, .step 0 (.settled (.ok ())),
    .step 0 (.returned (.ok ())), .step 0 .go, .step 0 .go]

/-- The run with the crossing, newest happening first. -/
def crossing : List Happening := .control (.ok ()) :: abortSent ++ .control (.ok ()) :: speechAsked

/-- A conforming device aborts a request that the gateway ends at the same time, and the gateway
counts that as a violation. -/
theorem crossing_abort_is_violation : Opened newLink ∧ Run serve newLink (replay serve newLink
    crossing).1 (replay serve newLink crossing).2 ∧ (∀ served ∈ (replay serve newLink crossing).1,
    Conforming served.before served.call) ∧ (replay serve newLink crossing).2.gateway.violations = 1
    := by
  refine ⟨opened_newLink, run_replay serve newLink crossing, fun served hserved => ?_,
    by decide +kernel⟩
  have hcall := call_mem_of_mem_replay hserved
  simp only [crossing, abortSent, speechAsked, List.cons_append, List.nil_append, List.mem_cons,
    List.not_mem_nil, or_false] at hcall
  rcases hcall with h | h | h | h | h | h | h | h | h | h | h <;> rw [h] <;>
    simp [Conforming, allSucceed]

theorem uncrossed_asked : Uncrossed asked (.interrupt allSucceed (some .button)) :=
  fun _ _ => .inr ⟨requestBytes, by decide +kernel, "voice:1", "done", by decide +kernel⟩

/-- The device aborts its request while it is in flight. -/
theorem no_violation_without_crossing_button :
    let calls : List Happening := .interrupt allSucceed (some .button) :: speechAsked
    (replay serve newLink calls).2.uplink.length = 2 ∧
      (replay serve newLink calls).2.gateway.violations = 0 := by
  refine ⟨by decide +kernel, no_violation_without_crossing opened_newLink
    (run_replay serve newLink _) (fun served hserved => ?_) fun served hserved => ?_⟩
  · have hcall := call_mem_of_mem_replay hserved
    simp only [speechAsked, List.mem_cons, List.not_mem_nil, or_false] at hcall
    rcases hcall with h | h | h | h <;> rw [h] <;> simp [Conforming, allSucceed]
  · rcases List.mem_cons.mp hserved with rfl | hserved
    · exact uncrossed_asked
    simp only [speechAsked, replay, List.mem_cons, List.not_mem_nil, or_false] at hserved
    rcases hserved with rfl | rfl | rfl
    · rintro value ⟨⟩ -
      exact ⟨"done", by decide, by decide, by decide⟩
    · intro _ _ _ hspeaking
      exact absurd hspeaking (by decide)
    · trivial

end XiaozhiPlatform.VoiceLink
