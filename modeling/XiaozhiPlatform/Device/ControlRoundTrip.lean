import XiaozhiPlatform.CLib.Ascii
import XiaozhiPlatform.Device.ControlWriter

/-!
# The gateway reads the device's control messages

The device writes UTF-8 bytes and escapes them byte by byte; the gateway decodes runes and parses
JSON. `messageBytes_eq` brings both together: the bytes of a message are the encoding of a JSON text
whose strings are written with `deviceEscaping`, which the parser reads back.

The main result is `tts_messages_read_back`. A builder refuses a buffer of size zero without
reporting the size that it needs (`zero_capacity_unreported`).
-/

namespace XiaozhiPlatform.VoiceAgentProtocol

open GoLib CLib Protocol

/-! ## Escapes, byte by byte and character by character -/

/-- What the device writes for a character of a string. -/
def escapeChar (c : Char) : List Char :=
  if c = '"' ∨ c = '\\' then ['\\', c]
  else if c.toNat = 8 then ['\\', 'b']
  else if c.toNat = 12 then ['\\', 'f']
  else if c = '\n' then ['\\', 'n']
  else if c = '\r' then ['\\', 'r']
  else if c = '\t' then ['\\', 't']
  else if c.toNat < 0x20 then '\\' :: 'u' :: Json.hex4 c.toNat
  else [c]

/-- The code unit under which the parser reads such a character. -/
def unitOf (c : Char) : Char ⊕ ℕ :=
  if c.toNat < 0x20 ∧ c ≠ '\n' ∧ c ≠ '\r' ∧ c ≠ '\t' ∧ c.toNat ≠ 8 ∧ c.toNat ≠ 12 then .inr c.toNat
  else .inl c

theorem parseUnits_escapeChar (c : Char) (rest : List Char) : Json.parseUnits (escapeChar c ++ rest)
    = (Json.parseUnits rest).map fun (units, rest) => (unitOf c :: units, rest) := by
  by_cases hshort : c = '"' ∨ c = '\\' ∨ c.toNat = 8 ∨ c.toNat = 12 ∨ c = '\n' ∨ c = '\r' ∨ c = '\t'
  · -- the escapes of two characters
    rcases hshort with rfl | rfl | h | h | rfl | rfl | rfl
    · exact Json.parseUnits_short (e := '"') rfl rest
    · exact Json.parseUnits_short (e := '\\') rfl rest
    · obtain rfl : c = Char.ofNat 8 := by rw [← h, Char.ofNat_toNat]
      exact Json.parseUnits_short (e := 'b') rfl rest
    · obtain rfl : c = Char.ofNat 12 := by rw [← h, Char.ofNat_toNat]
      exact Json.parseUnits_short (e := 'f') rfl rest
    · exact Json.parseUnits_short (e := 'n') rfl rest
    · exact Json.parseUnits_short (e := 'r') rfl rest
    · exact Json.parseUnits_short (e := 't') rfl rest
  · grind [escapeChar, Json.hex4, unitOf, Json.value_hex4, Json.parseUnits_plain]

/-- The writer of the device. -/
def deviceEscaping : Json.Escaping where
  escape := escapeChar
  unit := unitOf
  parse := parseUnits_escapeChar
  stands := by
    intro c
    unfold unitOf
    split
    · next h => exact Or.inr ⟨rfl, by omega⟩
    · exact Or.inl rfl

theorem escapeByte_of_le (h : 128 ≤ byte) : escapeByte byte = [byte] := by
  have hne : ∀ other : UInt8, other < 128 → byte ≠ other := by grind
  have hcontrol : ¬ byte < 0x20 := UInt8.not_lt.mpr (UInt8.le_trans (by decide) h)
  simp [escapeByte, hne 34 (by decide), hne 92 (by decide), hne 8 (by decide), hne 12 (by decide),
    hne 10 (by decide), hne 13 (by decide), hne 9 (by decide), hcontrol]

theorem flatMap_escapeByte (c : Char) :
    (String.utf8EncodeChar c).flatMap escapeByte = utf8 (escapeChar c) := by
  by_cases hc : c.toNat < 128
  · have hascii : ∀ n < 128, (String.utf8EncodeChar (Char.ofNat n)).flatMap escapeByte =
        utf8 (escapeChar (Char.ofNat n)) := by decide
    have := hascii c.toNat hc
    rwa [Char.ofNat_toNat] at this
  · rw [Nat.not_lt] at hc
    have hplain : escapeChar c = [c] := by
      have hne : ∀ d : Char, d.toNat < 128 → c ≠ d := by
        rintro d hd rfl
        omega
      have hmark : ¬ (c = '"' ∨ c = '\\') :=
        not_or.mpr ⟨hne '"' (by decide), hne '\\' (by decide)⟩
      rw [escapeChar, if_neg hmark, if_neg (by omega), if_neg (by omega),
        if_neg (hne '\n' (by decide)), if_neg (hne '\r' (by decide)),
        if_neg (hne '\t' (by decide)), if_neg (by omega)]
    rw [hplain, List.flatMap_congr fun byte h => escapeByte_of_le (le_of_mem_utf8EncodeChar hc h)]
    simp [utf8]

theorem escape_utf8 (text : List Char) :
    (utf8 text).flatMap escapeByte = utf8 (text.flatMap escapeChar) := by
  rw [utf8, utf8, List.flatMap_assoc, List.flatMap_assoc]
  exact List.flatMap_congr fun c _ => flatMap_escapeByte c

/-! ## Texts as C strings -/

/-- A text without the zero character, as the device holds it. -/
def cString (text : String) (h : Char.ofNat 0 ∉ text.toList) : CString where
  bytes := utf8 text.toList
  nonzero := zero_notMem_utf8 h

variable {text : String}

theorem bytes_ne_nil (h : Char.ofNat 0 ∉ text.toList) (hne : text ≠ "") :
    (cString text h).bytes ≠ [] := by
  intro hnil
  have hlength := length_le_byteLength text.toList
  have hzero : byteLength text.toList = 0 := congrArg List.length hnil
  rw [hzero, Nat.le_zero, List.length_eq_zero_iff] at hlength
  exact hne (String.toList_inj.mp hlength)

theorem quoted_cString (text : String) (h : Char.ofNat 0 ∉ text.toList) :
    quoted (cString text h) = utf8 (deviceEscaping.quote text) := by
  rw [quoted, cString, escape_utf8, Json.Escaping.quote]
  simp only [utf8, List.flatMap_cons, List.flatMap_append, List.flatMap_nil, List.append_nil]
  rfl

/-! ## The text of a message -/

/-- The members of a message, with the texts of their values. -/
def members (sessionID type : String) (requestID : UInt32) (key value : String) :
    List (String × List Char × Json) :=
  [("session_id", deviceEscaping.quote sessionID, .str sessionID),
    ("type", deviceEscaping.quote type, .str type),
    ("request_id", formatNat requestID.toNat, .num (formatNat requestID.toNat)),
    (key, deviceEscaping.quote value, .str value)]

/-- The JSON text of a message. -/
def messageText (sessionID type : String) (requestID : UInt32) (key value : String) : List Char :=
  '{' :: Json.joinMembers ((members sessionID type requestID key value).map fun m => (m.1, m.2.1)) ++
    ['}']

/-- The kinds of messages: the type, and the key of the last member. -/
def kinds : List (String × String) := [("tts_request", "text"), ("tts_abort", "reason")]

/-- The bytes that the device writes are the encoding of the JSON text. -/
theorem messageBytes_eq (sessionID : String) (hsession : Char.ofNat 0 ∉ sessionID.toList) (type key
    : String) (hkind : (type, key) ∈ kinds) (requestID : UInt32) (value : String) (hvalue :
    Char.ofNat 0 ∉ value.toList) : messageBytes (cString sessionID hsession) type requestID key
    (cString value hvalue) = utf8 (messageText sessionID type requestID key value) := by
  have hbytes : messageBytes (cString sessionID hsession) type requestID key
      (cString value hvalue) =
      utf8 ("\x7b\"session_id\":".toList ++ (deviceEscaping.quote sessionID ++
        (",\"type\":\"".toList ++ (type.toList ++ ("\",\"request_id\":".toList ++
          (formatNat requestID.toNat ++ (",\"".toList ++ (key.toList ++ ("\":".toList ++
            (deviceEscaping.quote value ++ ['}'])))))))))) := by
    have hbrace : [125] = utf8 ['}'] := by decide
    simp only [messageBytes, quoted_cString, ascii, hbrace, utf8_append, List.append_assoc]
  rw [hbytes]
  simp only [messageText, members, List.map_cons, List.map_nil, Json.joinMembers,
    List.append_assoc, List.cons_append]
  simp only [kinds, List.mem_cons, List.not_mem_nil, or_false, Prod.mk.injEq] at hkind
  rcases hkind with ⟨rfl, rfl⟩ | ⟨rfl, rfl⟩
  · rfl
  · rfl

theorem reads_members (sessionID type : String) (requestID : UInt32) (key value : String) :
    ∀ m ∈ members sessionID type requestID key value, Json.Reads m.2.1 m.2.2 := by
  intro m hm
  simp only [members, List.mem_cons, List.not_mem_nil, or_false] at hm
  rcases hm with rfl | rfl | rfl | rfl
  · exact deviceEscaping.reads_quote sessionID
  · exact deviceEscaping.reads_quote type
  · exact Json.reads_num (Json.valid_nat requestID.toNat)
  · exact deviceEscaping.reads_quote value

theorem parse_messageText (sessionID type : String) (requestID : UInt32) (key value : String) :
    Json.parse (messageText sessionID type requestID key value) =
      some (.obj [("session_id", .str sessionID), ("type", .str type),
        ("request_id", .num (formatNat requestID.toNat)), (key, .str value)]) :=
  Json.parse_join _ (by simp [members]) (reads_members sessionID type requestID key value)

/-! ## Sizes -/

theorem length_escapeByte_le (byte : UInt8) : (escapeByte byte).length ≤ 6 := by
  have hcontrol : ∀ n < 32, (escapeByte (UInt8.ofNat n)).length ≤ 6 := by decide
  by_cases hbyte : byte < 0x20
  · grind [UInt8.lt_iff_toNat_lt, UInt8.ofNat_toNat]
  · rw [escapeByte, if_neg hbyte]
    have hone : [byte].length ≤ 6 := Nat.succ_le_succ (Nat.zero_le 5)
    repeat' split
    all_goals first | exact hone | decide

theorem length_quoted_le (value : CString) :
    (quoted value).length ≤ 6 * value.bytes.length + 2 := by
  have hbody : (value.bytes.flatMap escapeByte).length ≤ 6 * value.bytes.length := by
    induction value.bytes with
    | nil => exact Nat.le_refl 0
    | cons byte rest ih =>
      have := length_escapeByte_le byte
      rw [List.flatMap_cons, List.length_append, List.length_cons]
      omega
  rw [quoted, List.length_append, List.length_cons, List.length_singleton]
  omega

variable {sessionID value : CString} {type : String}

/-- A message with a session of the protocol and a value of at most 512 bytes fits in a control
message, with its terminator. -/
theorem length_messageBytes_lt (hkind : (type, key)
    ∈ kinds) (requestID : UInt32) (hsession : sessionID.bytes.length ≤ maxSessionIDBytes) (hvalue :
    value.bytes.length ≤ maxTTSTextBytes) : (messageBytes sessionID type requestID key value).length
    < maxControlBytes := by
  have hs := length_quoted_le sessionID
  have hv := length_quoted_le value
  have hdigits : (utf8 (formatNat requestID.toNat)).length = (formatNat requestID.toNat).length :=
    byteLength_of_ascii fun c hc => ascii_of_isDigit (isDigit_of_mem_formatNat hc)
  have hid : (formatNat requestID.toNat).length ≤ 10 :=
    length_formatNat_le (by decide) (requestID.toNat_lt.trans_le (by decide))
  have hfixed : (ascii "\x7b\"session_id\":").length + (ascii ",\"type\":\"").length +
      (ascii "\",\"request_id\":").length + (ascii ",\"").length + (ascii "\":").length = 42 := by
    decide
  have hnames : (ascii type).length + (ascii key).length ≤ 16 := by
    simp only [kinds, List.mem_cons, List.not_mem_nil, or_false, Prod.mk.injEq] at hkind
    rcases hkind with ⟨rfl, rfl⟩ | ⟨rfl, rfl⟩ <;> decide
  have hmax : maxSessionIDBytes = 63 ∧ maxTTSTextBytes = 512 ∧ maxControlBytes = 4096 :=
    ⟨rfl, rfl, rfl⟩
  simp only [messageBytes, List.length_append, List.length_singleton]
  omega

/-! ## Round trip -/

/-- The control message that the gateway makes of a message of the device. -/
def received (sessionID : String) (requestID : UInt32) (type value : String) : ControlMessage :=
  { sessionID, type, requestID := formatNat requestID.toNat
    text := if type = "tts_request" then value else ""
    reason := if type = "tts_abort" then value else "" }

theorem decodeLoose_message (sessionID type : String) (requestID : UInt32) (key value : String)
    (hkind : (type, key) ∈ kinds) :
    Json.decodeLoose controlFields {} (.obj [("session_id", .str sessionID), ("type", .str type),
        ("request_id", .num (formatNat requestID.toNat)), (key, .str value)]) =
      some (received sessionID requestID type value) := by
  have hparse : Float64.parseFloat (formatNat requestID.toNat) = some (requestID.toNat : ℚ) :=
    Float64.parseFloat_formatNat (by have := requestID.toNat_lt; omega)
  simp only [kinds, List.mem_cons, List.not_mem_nil, or_false, Prod.mk.injEq] at hkind
  rcases hkind with ⟨rfl, rfl⟩ | ⟨rfl, rfl⟩
  · simp [Json.decodeLoose, Json.lookupField, controlFields, Json.stringField, strictNumberField,
      hparse, received]
  · simp [Json.decodeLoose, Json.lookupField, controlFields, Json.stringField, strictNumberField,
      hparse, received]

theorem checkControl_request (sessionID : String) (requestID : UInt32)
    (hblank : isBlank text.toList = false) (hlength : byteLength text.toList ≤ maxTTSTextBytes) :
    checkControl (received sessionID requestID "tts_request" text) = .ok () := by
  have hvalid : validString text maxTTSTextBytes = none := by
    rw [validString, hblank, if_neg (by simp), if_neg (by omega)]
  simp [checkControl, received, hvalid]

variable {requestID : UInt32}

theorem decodeOne_message {sessionID value : String} {key : String}
    {hsession : Char.ofNat 0 ∉ sessionID.toList} {hvalue : Char.ofNat 0 ∉ value.toList} (hkind :
    (type, key) ∈ kinds) (hsize : byteLength sessionID.toList ≤ maxSessionIDBytes) (hlength :
    byteLength value.toList ≤ maxTTSTextBytes) : decodeOne (messageBytes (cString sessionID
    hsession) type requestID key (cString value hvalue)) = some (received sessionID requestID type
    value) := by
  have hle : (messageBytes (cString sessionID hsession) type requestID key
      (cString value hvalue)).length < maxControlBytes :=
    length_messageBytes_lt hkind requestID hsize hlength
  have hpos : (messageBytes (cString sessionID hsession) type requestID key
      (cString value hvalue)).length ≠ 0 := by
    simp [messageBytes]
  rw [decodeOne, if_neg (by omega), messageBytes_eq _ _ _ _ hkind, decodeRunes_utf8,
    parse_messageText]
  exact decodeLoose_message sessionID type requestID key value hkind

theorem decodeControl_ttsRequest {sessionID : String}
    (hsession : Char.ofNat 0 ∉ sessionID.toList) (htext : Char.ofNat 0 ∉ text.toList)
    (hsize : byteLength sessionID.toList ≤ maxSessionIDBytes) (hid : requestID ≠ 0)
    (hblank : isBlank text.toList = false) (hlength : byteLength text.toList ≤ maxTTSTextBytes) :
    decodeControl (messageBytes (cString sessionID hsession) "tts_request" requestID "text"
        (cString text htext)) sessionID =
      .ok (received sessionID requestID "tts_request" text, requestID) :=
  decodeControl_eq_ok.mpr ⟨decodeOne_message (by simp [kinds]) hsize hlength, rfl,
    parseRequestID_formatNat hid, checkControl_request _ _ hblank hlength⟩

/-- What the two builders promise for a message: with every buffer that is not empty they succeed
exactly when the buffer can hold the message and its terminator, they report that size either way,
and they write nothing outside the buffer. -/
def Builds (bytes : List UInt8)
    (builder : Option ℕ → ℕ → Option ℕ → Memory → Result × Memory × Option ℕ) : Prop :=
  ∀ output capacity required memory, 0 < capacity →
    ∃ after, builder (some output) capacity (some required) memory =
        (if bytes.length + 1 ≤ capacity then .ok else .bufferTooSmall, after,
          some (bytes.length + 1)) ∧
      (bytes.length + 1 ≤ capacity → after.load output (bytes.length + 1) = bytes ++ [0]) ∧
      ∀ a, a < output ∨ output + capacity ≤ a → after a = memory a

theorem builds_message (hkind :
    (type, key) ∈ kinds) (hsession : sessionID.bytes.length ≤ maxSessionIDBytes) (hvalue :
    value.bytes.length ≤ maxTTSTextBytes) {builder : Option ℕ → ℕ → Option ℕ → Memory → Result ×
    Memory × Option ℕ} (hbuilder : ∀ output capacity required memory, 0 < capacity → builder (some
    output) capacity (some required) memory = build output capacity sessionID type requestID key
    value required memory) : Builds (messageBytes sessionID type requestID key value) builder := by
  intro output capacity required memory hcapacity
  have hlt := length_messageBytes_lt hkind requestID hsession hvalue
  have hroom : maxControlBytes + 10 ≤ sizeMax := by decide
  have hwrote := wrote_message output capacity memory sessionID type requestID key value (by omega)
  obtain ⟨after, hfinish, hstored, -, houtside⟩ := hwrote.finish (by omega) hcapacity required
  refine ⟨after, ?_, fun hfits => ?_, houtside⟩
  · rw [hbuilder output capacity required memory hcapacity]
    simp only [build, hfinish]
  · have hload := Memory.load_storeBytes memory output
      (messageBytes sessionID type requestID key value ++ [0])
    rw [List.length_append, List.length_singleton] at hload
    rw [hstored hfits, hload]

theorem builds_ttsRequest {text : CString}
    (hsession : sessionID.bytes ≠ []) (hsize : sessionID.bytes.length ≤ maxSessionIDBytes)
    (hid : requestID ≠ 0) (htext : text.bytes ≠ [])
    (hlength : text.bytes.length ≤ maxTTSTextBytes) :
    Builds (messageBytes sessionID "tts_request" requestID "text" text)
      (fun output capacity => buildTTSRequest output capacity (some sessionID) requestID
        (some text)) := by
  refine builds_message (by simp [kinds]) hsize hlength fun output capacity required memory hc => ?_
  simp only [buildTTSRequest]
  rw [if_neg (by simp [hsession, htext, hid]; omega)]

theorem builds_ttsAbort
    (hsession : sessionID.bytes ≠ []) (hsize : sessionID.bytes.length ≤ maxSessionIDBytes)
    (hid : requestID ≠ 0) {reason : AbortReason} (hreason : abortReasonString reason = some value) :
    Builds (messageBytes sessionID "tts_abort" requestID "reason" value)
      (fun output capacity => buildTTSAbort output capacity (some sessionID) requestID reason) := by
  refine builds_message (by simp [kinds]) hsize ?_ fun output capacity required memory hc => ?_
  · cases reason <;> cases hreason <;> decide
  · simp only [buildTTSAbort, hreason]
    rw [if_neg (by simp [hsession, hid]; omega)]

/-- The request that the device builds for a session of the protocol, a nonzero id and a text that
is not blank is read back by the gateway, and the builders of requests and aborts keep to every
buffer that is not empty. -/
theorem tts_messages_read_back (sessionID text : String) (requestID : UInt32)
    (hsession : Char.ofNat 0 ∉ sessionID.toList) (hopen : sessionID ≠ "")
    (hsize : byteLength sessionID.toList ≤ maxSessionIDBytes) (hid : requestID ≠ 0)
    (htext : Char.ofNat 0 ∉ text.toList) (hblank : isBlank text.toList = false)
    (hlength : byteLength text.toList ≤ maxTTSTextBytes) :
    decodeControl (messageBytes (cString sessionID hsession) "tts_request" requestID "text"
        (cString text htext)) sessionID =
      .ok (received sessionID requestID "tts_request" text, requestID) ∧
    Builds (messageBytes (cString sessionID hsession) "tts_request" requestID "text"
        (cString text htext))
      (fun output capacity => buildTTSRequest output capacity (some (cString sessionID hsession))
        requestID (some (cString text htext))) ∧
    ∀ reason value, abortReasonString reason = some value →
      Builds (messageBytes (cString sessionID hsession) "tts_abort" requestID "reason" value)
        (fun output capacity => buildTTSAbort output capacity (some (cString sessionID hsession))
          requestID reason) := by
  have hbytes : (cString sessionID hsession).bytes ≠ [] := bytes_ne_nil hsession hopen
  have htextBytes : (cString text htext).bytes ≠ [] := by
    refine bytes_ne_nil htext ?_
    rintro rfl
    cases hblank
  exact ⟨decodeControl_ttsRequest hsession htext hsize hid hblank hlength,
    builds_ttsRequest hbytes hsize hid htextBytes hlength,
    fun reason value hreason => builds_ttsAbort hbytes hsize hid hreason⟩

/-- A request with a quote and a line break in its text. -/
theorem tts_messages_read_back_quote :
    ∃ hsession htext, decodeControl (messageBytes (cString "voice:1" hsession) "tts_request" 7 "text"
        (cString "say \"hi\"\n" htext)) "voice:1" =
      .ok (received "voice:1" 7 "tts_request" "say \"hi\"\n", 7) :=
  ⟨by decide, by decide, (tts_messages_read_back "voice:1" "say \"hi\"\n" 7 (by decide) (by decide)
    (by decide) (by decide) (by decide) (by decide) (by decide)).1⟩

/-- With a buffer of size zero the size that a message needs is not reported. -/
theorem zero_capacity_unreported :
    ∃ hsession htext, buildTTSRequest (some 0) 0 (some (cString "voice:1" hsession)) 7
        (some (cString "hi" htext)) (some 0) (fun _ => 0) = (.invalidArg, fun _ => 0, some 0) ∧
      (messageBytes (cString "voice:1" hsession) "tts_request" 7 "text"
        (cString "hi" htext)).length + 1 ≠ 0 :=
  ⟨by decide, by decide, by simp [buildTTSRequest], Nat.succ_ne_zero _⟩

end XiaozhiPlatform.VoiceAgentProtocol
