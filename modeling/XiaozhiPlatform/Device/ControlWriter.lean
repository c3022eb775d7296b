import XiaozhiPlatform.CLib.Memory
import XiaozhiPlatform.Protocol.Control

/-!
# Control messages of the device

The allocation-free JSON writer of `voice_agent_protocol.c` and the two messages that it builds. The
writer counts every character and stores those that fit in the caller's buffer, so that it knows the
size that a message needs also when the buffer is too small.

`Wrote` says what a writer has done after some bytes, `wrote_message` what it has done for a message
and `Wrote.finish` what is then in the buffer, whatever its size.
-/

namespace XiaozhiPlatform.VoiceAgentProtocol

open GoLib CLib Protocol

/-- `SIZE_MAX` of the 32-bit device. -/
def sizeMax : ℕ := 2 ^ 32 - 1

/-- `voice_agent_protocol_result_t`. -/
inductive Result where
  | ok | invalidArg | bufferTooSmall
deriving DecidableEq, Repr

/-- `voice_agent_abort_reason_t`; any other value of the C type is `other`. -/
inductive AbortReason where
  | bargeIn | button | networkLost | sessionClosed | other
deriving DecidableEq, Repr

/-- The bytes of a string literal. -/
def ascii (text : String) : List UInt8 := utf8 text.toList

/-- `json_writer_t` in the memory that it writes to. -/
structure JsonWriter where
  output : ℕ
  capacity : ℕ
  length : ℕ := 0
  overflow : Bool := false
  memory : Memory

namespace JsonWriter

/-- `writer_put`. -/
def put (writer : JsonWriter) (value : UInt8) : JsonWriter :=
  if writer.length = sizeMax then { writer with overflow := true }
  else
    { writer with
      memory :=
        if writer.capacity > 0 ∧ writer.length + 1 < writer.capacity then
          writer.memory.store (writer.output + writer.length) value
        else writer.memory
      length := writer.length + 1 }

/-- `writer_literal`. -/
def literal (writer : JsonWriter) (value : List UInt8) : JsonWriter := value.foldl put writer

end JsonWriter

/-- The `switch` of `writer_escaped_string`. -/
def escapeByte (byte : UInt8) : List UInt8 :=
  if byte = 34 then ascii "\\\""
  else if byte = 92 then ascii "\\\\"
  else if byte = 8 then ascii "\\b"
  else if byte = 12 then ascii "\\f"
  else if byte = 10 then ascii "\\n"
  else if byte = 13 then ascii "\\r"
  else if byte = 9 then ascii "\\t"
  else if byte < 0x20 then
    ascii "\\u00" ++ utf8 [Hex.digit (byte.toNat / 16), Hex.digit (byte.toNat % 16)]
  else [byte]

namespace JsonWriter

/-- `writer_escaped_string`. -/
def escapedString (writer : JsonWriter) (value : CString) : JsonWriter :=
  (value.bytes.foldl (fun writer byte => writer.literal (escapeByte byte)) (writer.put 34)).put 34

/-- `writer_uint32`, with the eleven bytes that `snprintf` may fill. -/
def uint32 (writer : JsonWriter) (value : UInt32) : JsonWriter :=
  let digits := utf8 (formatNat value.toNat)
  if digits.length ≤ 0 ∨ 11 ≤ digits.length then { writer with overflow := true }
  else writer.literal digits

/-- `writer_finish`: the result, the memory and the value that `required_size` points at. -/
def finish (writer : JsonWriter) (requiredSize : ℕ) : Result × Memory × ℕ :=
  let reset :=
    if writer.capacity > 0 then writer.memory.store writer.output 0 else writer.memory
  if writer.overflow ∨ writer.length = sizeMax then (.invalidArg, reset, requiredSize)
  else if writer.capacity ≤ writer.length then (.bufferTooSmall, reset, writer.length + 1)
  else (.ok, writer.memory.store (writer.output + writer.length) 0, writer.length + 1)

end JsonWriter

/-- `abort_reason_string`. -/
def abortReasonString : AbortReason → Option CString
  | .bargeIn => some ⟨ascii "barge_in", by decide⟩
  | .button => some ⟨ascii "button", by decide⟩
  | .networkLost => some ⟨ascii "network_lost", by decide⟩
  | .sessionClosed => some ⟨ascii "session_closed", by decide⟩
  | .other => none

/-- What both messages start with. -/
def writeHead (writer : JsonWriter) (sessionID : CString) (type : String) (requestID : UInt32) :
    JsonWriter :=
  let writer := writer.literal (ascii "\x7b\"session_id\":")
  let writer := writer.escapedString sessionID
  let writer := writer.literal (ascii ",\"type\":\"" ++ ascii type ++ ascii "\",\"request_id\":")
  writer.uint32 requestID

/-- The last field of both messages and the end of the object. -/
def writeTail (writer : JsonWriter) (key : String) (value : CString) : JsonWriter :=
  ((writer.literal (ascii ",\"" ++ ascii key ++ ascii "\":")).escapedString value).put 125

/-- The two builders after their check of the arguments. -/
def build (output outputSize : ℕ) (sessionID : CString) (type : String) (requestID : UInt32)
    (key : String) (value : CString) (requiredSize : ℕ) (memory : Memory) :
    Result × Memory × Option ℕ :=
  let writer := writeTail (writeHead ⟨output, outputSize, 0, false, memory⟩ sessionID type requestID)
    key value
  let (result, memory, required) := writer.finish requiredSize
  (result, memory, some required)

/-- `voice_agent_build_tts_request`. A pointer that may be null is an `Option`. -/
def buildTTSRequest (output : Option ℕ) (outputSize : ℕ) (sessionID : Option CString)
    (requestID : UInt32) (text : Option CString) (requiredSize : Option ℕ) (memory : Memory) :
    Result × Memory × Option ℕ :=
  match output, sessionID, text, requiredSize with
  | some output, some sessionID, some text, some required =>
    if outputSize = 0 ∨ sessionID.bytes = [] ∨ requestID = 0 ∨ text.bytes = [] then
      (.invalidArg, memory, requiredSize)
    else build output outputSize sessionID "tts_request" requestID "text" text required memory
  | _, _, _, _ => (.invalidArg, memory, requiredSize)

/-- `voice_agent_build_tts_abort`. -/
def buildTTSAbort (output : Option ℕ) (outputSize : ℕ) (sessionID : Option CString)
    (requestID : UInt32) (reason : AbortReason) (requiredSize : Option ℕ) (memory : Memory) :
    Result × Memory × Option ℕ :=
  match output, sessionID, abortReasonString reason, requiredSize with
  | some output, some sessionID, some reason, some required =>
    if outputSize = 0 ∨ sessionID.bytes = [] ∨ requestID = 0 then
      (.invalidArg, memory, requiredSize)
    else build output outputSize sessionID "tts_abort" requestID "reason" reason required memory
  | _, _, _, _ => (.invalidArg, memory, requiredSize)

/-! ## What a writer has done -/

/-- The bytes of a string with its quotes. -/
def quoted (value : CString) : List UInt8 := 34 :: value.bytes.flatMap escapeByte ++ [34]

/-- The bytes of a message. -/
def messageBytes (sessionID : CString) (type : String) (requestID : UInt32) (key : String)
    (value : CString) : List UInt8 :=
  ascii "\x7b\"session_id\":" ++ quoted sessionID ++
    (ascii ",\"type\":\"" ++ ascii type ++ ascii "\",\"request_id\":") ++
    utf8 (formatNat requestID.toNat) ++ (ascii ",\"" ++ ascii key ++ ascii "\":") ++ quoted value ++
    [125]

/-- After some bytes the writer has counted them all and stored those that leave room for the
terminator. -/
structure Wrote (output capacity : ℕ) (start : Memory) (bytes : List UInt8) (writer : JsonWriter) :
    Prop where
  at_output : writer.output = output
  of_capacity : writer.capacity = capacity
  counted : writer.length = bytes.length
  fits : writer.overflow = false
  stored : writer.memory = start.storeBytes output (bytes.take (capacity - 1))

namespace Wrote

variable {output capacity : ℕ} {start : Memory} {bytes : List UInt8} {writer : JsonWriter}

section

variable (h : Wrote output capacity start bytes writer)

include h

theorem put (value : UInt8) (hroom : bytes.length <
    sizeMax) : Wrote output capacity start (bytes ++ [value]) (writer.put value) := by
  have hlength : writer.length ≠ sizeMax := by
    rw [h.counted]
    omega
  rw [JsonWriter.put, if_neg hlength]
  refine ⟨h.at_output, h.of_capacity, ?_, h.fits, ?_⟩
  · simp [h.counted]
  · simp only [h.at_output, h.of_capacity, h.counted, h.stored]
    split
    · next hfits =>
      -- everything so far was stored, and so is this byte
      rw [List.take_of_length_le (by omega), List.take_of_length_le (by simp; omega),
        Memory.storeBytes_append]
      rfl
    · grind

theorem literal (value : List UInt8) (hroom : bytes.length + value.length ≤ sizeMax) :
    Wrote output capacity start (bytes ++ value) (writer.literal value) := by
  induction value generalizing bytes writer with
  | nil => rwa [List.append_nil]
  | cons byte value ih =>
    rw [List.length_cons] at hroom
    have hput := h.put byte (by omega)
    have hrest := ih hput (by simp; omega)
    rwa [List.append_assoc] at hrest

theorem escapes (value : List UInt8)
    (hroom : bytes.length + (value.flatMap escapeByte).length ≤ sizeMax) :
    Wrote output capacity start (bytes ++ value.flatMap escapeByte)
      (value.foldl (fun writer byte => writer.literal (escapeByte byte)) writer) := by
  induction value generalizing bytes writer with
  | nil => simpa using h
  | cons byte value ih =>
    rw [List.flatMap_cons, List.length_append] at hroom
    have hbyte := h.literal (escapeByte byte) (by omega)
    have hrest := ih hbyte (by rw [List.length_append]; omega)
    rwa [List.append_assoc, ← List.flatMap_cons] at hrest

theorem escapedString (value : CString) (hroom : bytes.length + (quoted value).length ≤ sizeMax) :
    Wrote output capacity start (bytes ++ quoted value) (writer.escapedString value) := by
  simp only [quoted, List.length_append, List.length_cons, List.length_nil] at hroom
  have hopen := h.put 34 (by omega)
  have hbody := hopen.escapes value.bytes
    (by simp only [List.length_append, List.length_cons, List.length_nil]; omega)
  have hclose := hbody.put 34
    (by simp only [List.length_append, List.length_cons, List.length_nil]; omega)
  rw [quoted, JsonWriter.escapedString]
  simpa only [List.append_assoc, List.cons_append, List.nil_append] using hclose

theorem uint32 (value : UInt32) (hroom : bytes.length + 10 ≤ sizeMax) :
    Wrote output capacity start (bytes ++ utf8 (formatNat value.toNat)) (writer.uint32 value) := by
  have hdigits : (utf8 (formatNat value.toNat)).length = (formatNat value.toNat).length :=
    byteLength_of_ascii fun c hc => ascii_of_isDigit (isDigit_of_mem_formatNat hc)
  have hle : (formatNat value.toNat).length ≤ 10 :=
    length_formatNat_le (by decide) (value.toNat_lt.trans_le (by decide))
  have hpos : (formatNat value.toNat).length ≠ 0 := by
    rw [Ne, List.length_eq_zero_iff]
    exact formatNat_ne_nil _
  rw [JsonWriter.uint32, if_neg (by omega)]
  exact h.literal _ (by omega)

/-- The end of a message: the terminator is stored if the buffer has room for it, and otherwise the
output is reset to an empty string. -/
theorem finish (hroom : bytes.length < sizeMax)
    (hcapacity : 0 < capacity) (requiredSize : ℕ) : ∃ memory, writer.finish requiredSize = (if
    bytes.length + 1 ≤ capacity then .ok else .bufferTooSmall, memory, bytes.length + 1) ∧
    (bytes.length + 1 ≤ capacity → memory = start.storeBytes output (bytes ++ [0])) ∧ (capacity <
    bytes.length + 1 → memory output = 0) ∧ ∀ a, a < output ∨ output + capacity ≤ a → memory a =
    start a := by
  have houtside : ∀ a, a < output ∨ output + capacity ≤ a → writer.memory a = start a := by
    intro a ha
    rw [h.stored]
    refine Memory.storeBytes_outside ?_
    have := List.length_take_le (capacity - 1) bytes
    omega
  simp only [JsonWriter.finish, h.fits, h.counted, h.of_capacity, h.at_output]
  rw [if_neg (by simp; omega)]
  by_cases hfits : bytes.length + 1 ≤ capacity
  · rw [if_neg (by omega), if_pos hfits]
    refine ⟨_, rfl, fun _ => ?_, fun hsmall => absurd hsmall (by omega), fun a ha => ?_⟩
    · rw [h.stored, List.take_of_length_le (by omega), Memory.storeBytes_append]
      rfl
    · rw [Memory.store_outside (by omega), houtside a ha]
  · rw [if_pos (by omega), if_neg hfits, if_pos hcapacity]
    refine ⟨_, rfl, fun hlarge => absurd hlarge hfits, fun _ => Memory.store_self _ _ _,
      fun a ha => ?_⟩
    rw [Memory.store_outside (by omega), houtside a ha]

end

end Wrote

theorem wrote_message (output capacity : ℕ) (memory : Memory) (sessionID : CString) (type : String)
    (requestID : UInt32) (key : String) (value : CString) (hroom : (messageBytes sessionID type
    requestID key value).length + 10 ≤ sizeMax) : Wrote output capacity memory (messageBytes
    sessionID type requestID key value) (writeTail (writeHead ⟨output, capacity, 0, false, memory⟩
    sessionID type requestID) key value) := by
  have hstart : Wrote output capacity memory [] ⟨output, capacity, 0, false, memory⟩ :=
    ⟨rfl, rfl, rfl, rfl, by rw [List.take_nil]; rfl⟩
  simp only [messageBytes, List.length_append] at hroom
  have hopen := hstart.literal (ascii "\x7b\"session_id\":")
    (by simp only [List.length_nil]; omega)
  have hsession := hopen.escapedString sessionID
    (by simp only [List.length_append, List.length_nil]; omega)
  have htype := hsession.literal (ascii ",\"type\":\"" ++ ascii type ++ ascii "\",\"request_id\":")
    (by simp only [List.length_append, List.length_nil]; omega)
  have hid := htype.uint32 requestID (by simp only [List.length_append, List.length_nil]; omega)
  have hkey := hid.literal (ascii ",\"" ++ ascii key ++ ascii "\":")
    (by simp only [List.length_append, List.length_nil]; omega)
  have hvalue := hkey.escapedString value (by simp only [List.length_append, List.length_nil]; omega)
  have hclose := hvalue.put 125 (by simp only [List.length_append, List.length_nil]; omega)
  rwa [List.nil_append] at hclose

end XiaozhiPlatform.VoiceAgentProtocol
