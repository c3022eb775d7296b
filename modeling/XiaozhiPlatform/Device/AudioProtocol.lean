import XiaozhiPlatform.CLib.Memory
import XiaozhiPlatform.Protocol.Audio

/-!
# Audio packets of the device

The `voice_audio_protocol` component. Its encoder fills a caller's buffer and its decoder returns
a view into the packet; a pointer that may be null is an `Option`. The component implements the
same framing as the gateway, with a timestamp in version 2:

- `encode_eq` says when the encoder succeeds and what it then writes;
- `decode_eq_ok` says that the decoder accepts exactly the framed packets;
- `audio_codecs_agree` compares the device's codec with the gateway's.
-/

namespace XiaozhiPlatform.VoiceAudioProtocol

open GoLib CLib Protocol

def maxOpusBytes : ℕ := 4096
def v2HeaderBytes : ℕ := 16
def v3HeaderBytes : ℕ := 4

/-- `voice_audio_protocol_result_t`. -/
inductive Result where
  | ok | invalidArg | bufferTooSmall | malformedPacket | unsupportedVersion
deriving DecidableEq, Repr

/-- `voice_audio_packet_view_t`: the payload that the view points at, and the timestamp. -/
structure PacketView where
  opus : List UInt8 := []
  timestampMs : ℕ := 0
deriving DecidableEq, Repr

/-- The header size of a transport version, the `switch` of both functions. -/
def headerSize (transportVersion : ℤ) : Option ℕ :=
  if transportVersion = 1 then some 0
  else if transportVersion = 2 then some v2HeaderBytes
  else if transportVersion = 3 then some v3HeaderBytes
  else none

/-- `validate_opus_size`. -/
def validateOpusSize (size : ℕ) : Result :=
  if size > 0 ∧ size ≤ maxOpusBytes then .ok else .invalidArg

/-- The stores into the header of a packet. -/
def writeHeader (transportVersion : ℤ) (timestampMs : UInt32) (size output : ℕ)
    (memory : Memory) : Memory :=
  if transportVersion = 2 then
    let memory := memory.storeBytes output (BigEndian.put 2 2)
    let memory := memory.storeBytes (output + 2) (BigEndian.put 2 0)
    let memory := memory.storeBytes (output + 4) (BigEndian.put 4 0)
    let memory := memory.storeBytes (output + 8) (BigEndian.put 4 timestampMs.toNat)
    memory.storeBytes (output + 12) (BigEndian.put 4 size)
  else if transportVersion = 3 then
    let memory := memory.store output 0
    let memory := memory.store (output + 1) 0
    memory.storeBytes (output + 2) (BigEndian.put 2 size)
  else memory

/-- `voice_audio_protocol_encode`: the result, the memory afterwards and the value that
`encoded_size` points at. -/
def encode (transportVersion : ℤ) (opus : Option (List UInt8)) (timestampMs : UInt32)
    (output : Option ℕ) (outputCapacity : ℕ) (encodedSize : Option ℕ) (memory : Memory) :
    Result × Memory × Option ℕ :=
  let cleared := encodedSize.map fun _ => 0
  match opus, output, encodedSize with
  | some opus, some output, some _ =>
    if validateOpusSize opus.length ≠ .ok then (.invalidArg, memory, cleared)
    else
      match headerSize transportVersion with
      | none => (.unsupportedVersion, memory, cleared)
      | some header =>
        let required := header + opus.length
        if outputCapacity < required then (.bufferTooSmall, memory, cleared)
        else
          let memory := writeHeader transportVersion timestampMs opus.length output memory
          (.ok, memory.storeBytes (output + header) opus, some required)
  | _, _, _ => (.invalidArg, memory, cleared)

/-- The version dependent part of the decoder: the header size, the declared payload size and the
timestamp. -/
def readHeader (transportVersion : ℤ) (packet : List UInt8) : Except Result (ℕ × ℕ × ℕ) :=
  if transportVersion = 1 then .ok (0, packet.length, 0)
  else if transportVersion = 2 then
    if packet.length < v2HeaderBytes ∨ BigEndian.readAt 0 2 packet ≠ 2 ∨
        BigEndian.readAt 2 2 packet ≠ 0 ∨ BigEndian.readAt 4 4 packet ≠ 0 then
      .error .malformedPacket
    else .ok (v2HeaderBytes, BigEndian.readAt 12 4 packet, BigEndian.readAt 8 4 packet)
  else if transportVersion = 3 then
    if packet.length < v3HeaderBytes ∨ packet[0]? ≠ some 0 ∨ packet[1]? ≠ some 0 then
      .error .malformedPacket
    else .ok (v3HeaderBytes, BigEndian.readAt 2 2 packet, 0)
  else .error .unsupportedVersion

/-- `voice_audio_protocol_decode`: the result and the view, which is cleared on an error. -/
def decode (transportVersion : ℤ) (packet : Option (List UInt8)) (view : Option PacketView) :
    Result × Option PacketView :=
  match view, packet with
  | none, _ => (.invalidArg, none)
  | some _, none => (.invalidArg, some {})
  | some _, some packet =>
    match readHeader transportVersion packet with
    | .error result => (result, some {})
    | .ok (header, declared, timestamp) =>
      if declared = 0 ∨ declared > maxOpusBytes ∨ declared ≠ packet.length - header then
        (.malformedPacket, some {})
      else (.ok, some ⟨(packet.drop header).take declared, timestamp⟩)

/-! ## The encoder frames -/

theorem validateOpusSize_eq_ok (opus : List UInt8) :
    validateOpusSize opus.length = .ok ↔ PayloadSize opus := by
  grind [maxOpusBytes, maxOpusPacketBytes, validateOpusSize, PayloadSize]

/-- The packet that the encoder writes. -/
def packetOf (transportVersion : ℤ) (timestampMs : UInt32) (opus : List UInt8) : List UInt8 :=
  if transportVersion = 2 then header2 timestampMs.toNat opus.length ++ opus
  else if transportVersion = 3 then header3 opus.length ++ opus
  else opus

section

variable {transportVersion : ℤ} {header : ℕ} (hheader : headerSize transportVersion = some header)
  (timestampMs : UInt32) (opus : List UInt8)

include hheader timestampMs opus

theorem storeBytes_writeHeader (output : ℕ) (memory
    : Memory) : (writeHeader transportVersion timestampMs opus.length output memory).storeBytes
    (output + header) opus = memory.storeBytes output (packetOf transportVersion timestampMs opus)
    := by
  rw [headerSize] at hheader
  split at hheader
  · next h =>
    subst h
    cases hheader
    rfl
  split at hheader
  · next h =>
    subst h
    cases hheader
    rw [writeHeader, if_pos rfl, packetOf, if_pos rfl, header2]
    simp only [Memory.storeBytes_append, BigEndian.length_put, List.length_append, v2HeaderBytes,
      Nat.add_assoc, Nat.reduceAdd]
  split at hheader
  · next h =>
    subst h
    cases hheader
    rw [writeHeader, if_neg (by decide), if_pos rfl, packetOf, if_neg (by decide), if_pos rfl,
      header3]
    simp only [Memory.storeBytes_append, BigEndian.length_put, List.length_append,
      List.length_cons, List.length_nil, Memory.storeBytes, v3HeaderBytes, Nat.reduceAdd]
  · cases hheader

theorem length_packetOf : (packetOf transportVersion timestampMs
    opus).length = header + opus.length := by
  rw [headerSize] at hheader
  rw [packetOf]
  split at hheader
  · grind
  split at hheader
  · next h =>
    cases hheader
    rw [if_pos h, List.length_append, length_header2]
    rfl
  split at hheader
  · next hne h =>
    cases hheader
    rw [if_neg hne, if_pos h, List.length_append, length_header3]
    rfl
  · cases hheader

end

variable {opus : List UInt8}

section

variable {transportVersion : ℤ} (hversion : transportVersion ∈ ([1, 2, 3] : List ℤ))

include hversion

theorem framed_packetOf (timestampMs : UInt32) (hsize : PayloadSize opus) : ∃ timestamp, Framed
    transportVersion (packetOf transportVersion timestampMs opus) opus timestamp := by
  simp only [List.mem_cons, List.not_mem_nil, or_false] at hversion
  rcases hversion with rfl | rfl | rfl
  · exact ⟨0, .raw hsize⟩
  · exact ⟨timestampMs.toNat, .timed _ hsize timestampMs.toNat_lt⟩
  · exact ⟨0, .short hsize⟩

theorem headerSize_isSome : ∃ header, headerSize transportVersion = some header ∧ header ≤
    v2HeaderBytes := by
  simp only [List.mem_cons, List.not_mem_nil, or_false] at hversion
  rcases hversion with rfl | rfl | rfl
  · exact ⟨0, rfl, by decide⟩
  · exact ⟨v2HeaderBytes, rfl, le_rfl⟩
  · exact ⟨v3HeaderBytes, rfl, by decide⟩

end

variable {transportVersion : ℤ}

/-- On a payload that fits, the encoder writes the packet when the buffer can hold it and leaves
the memory alone otherwise. -/
theorem encode_eq (hheader : headerSize transportVersion = some
    header) (timestampMs : UInt32) (hsize : PayloadSize opus) (output
    outputCapacity size : ℕ) (memory : Memory) : encode transportVersion (some opus) timestampMs
    (some output) outputCapacity (some size) memory = if outputCapacity < header + opus.length then
    (.bufferTooSmall, memory, some 0) else (.ok, memory.storeBytes output (packetOf transportVersion
    timestampMs opus), some (header + opus.length)) := by
  have hvalid := (validateOpusSize_eq_ok opus).mpr hsize
  simp only [encode, hvalid, hheader, ne_eq, not_true_eq_false, if_false, Option.map_some,
    storeBytes_writeHeader hheader]

/-! ## The decoder accepts the format -/

variable {packet : List UInt8} {timestamp : ℕ}

theorem readHeader_of_framed (h :
    Framed transportVersion packet opus timestamp) : ∃ header, readHeader transportVersion packet =
    .ok (header, opus.length, timestamp) ∧ packet.drop header = opus := by
  cases h with
  | raw size => exact ⟨0, rfl, rfl⟩
  | timed timestamp size range =>
    obtain ⟨hversion, htype, hreserved, htimestamp, hlength⟩ :=
      read_header2 opus range (size.lt.trans (by decide))
    refine ⟨v2HeaderBytes, ?_, List.drop_left' (length_header2 _ _)⟩
    rw [readHeader, if_neg (by decide), if_pos rfl, if_neg, hlength, htimestamp]
    simp [hversion, htype, hreserved, v2HeaderBytes]
  | short size =>
    refine ⟨v3HeaderBytes, ?_, List.drop_left' (length_header3 _)⟩
    rw [readHeader, if_neg (by decide), if_neg (by decide), if_pos rfl, if_neg,
      read_header3 opus size.lt]
    simp [header3, v3HeaderBytes]

theorem readHeader_ne_error_ok (transportVersion : ℤ) (packet : List UInt8) :
    readHeader transportVersion packet ≠ .error .ok := by grind [readHeader]

theorem framed_of_readHeader (h : readHeader transportVersion packet = .ok
    (header, declared, timestamp)) (hdeclared :
    declared = packet.length - header) (hsize : PayloadSize (packet.drop header)) : Framed
    transportVersion packet (packet.drop header) timestamp := by
  rw [readHeader] at h
  rw [← List.length_drop] at hdeclared
  split at h
  · next hversion =>
    subst hversion
    cases h
    exact .raw hsize
  split at h
  · next hversion =>
    subst hversion
    split at h
    · cases h
    next hheader =>
    simp only [not_or, not_lt, not_not] at hheader
    cases h
    have hpacket : packet = header2 _ _ ++ packet.drop v2HeaderBytes :=
      eq_header2_append hheader.1 hheader.2.1 hheader.2.2.1 hheader.2.2.2
    rw [hdeclared] at hpacket
    have := Framed.timed _ hsize (BigEndian.readAt_lt 8 4 packet)
    rwa [← hpacket] at this
  split at h
  · next hversion =>
    subst hversion
    split at h
    · cases h
    next hheader =>
    simp only [not_or, not_lt, not_not] at hheader
    cases h
    have hpacket : packet = header3 _ ++ packet.drop v3HeaderBytes :=
      eq_header3_append hheader.1 hheader.2.1 hheader.2.2
    rw [hdeclared] at hpacket
    have := Framed.short hsize
    rwa [← hpacket] at this
  · cases h

/-- The decoder accepts exactly the framed packets; the view shows their payload and their
timestamp. -/
theorem decode_eq_ok (view :
    PacketView) : decode transportVersion (some packet) (some view) = (.ok, some ⟨opus, timestamp⟩)
    ↔ Framed transportVersion packet opus timestamp := by
  constructor
  · intro h
    simp only [decode] at h
    split at h
    · grind [readHeader_ne_error_ok]
    · next header declared time hheader =>
      split at h
      · cases h
      next hguard =>
      simp only [not_or, not_lt, not_not] at hguard
      obtain ⟨hpositive, hlimit, hdeclared⟩ := hguard
      have hpayload : (packet.drop header).take declared = packet.drop header := by
        rw [hdeclared, ← List.length_drop, List.take_length]
      rw [hpayload] at h
      cases h
      refine framed_of_readHeader hheader hdeclared ⟨?_, ?_⟩
      · rwa [List.length_drop, ← hdeclared]
      · rwa [List.length_drop, ← hdeclared]
  · intro h
    obtain ⟨header, hheader, hdrop⟩ := readHeader_of_framed h
    have hlength : opus.length = packet.length - header := by rw [← hdrop, List.length_drop]
    obtain ⟨hpositive, hlimit⟩ := h.payloadSize
    simp only [decode, hheader]
    rw [if_neg, hdrop, List.take_length]
    simp only [not_or, not_lt, not_not]
    exact ⟨hpositive, hlimit, hlength⟩

/-! ## The two codecs -/

/-- The codecs of the gateway and of the device implement one format: their decoders accept the
same packets and return the same payload, and every packet that either encoder makes of a payload
of 1 to 4096 bytes is read back by both. -/
theorem audio_codecs_agree (version : ℤ) (hversion : version ∈ ([1, 2, 3] : List ℤ)) : (∀ (packet
    opus : List UInt8) (view : PacketView), decodeAudioPacket version packet = .ok opus ↔ ∃
    timestamp, decode version (some packet) (some view) = (.ok, some ⟨opus, timestamp⟩)) ∧ ∀ opus :
    List UInt8, 1 ≤ opus.length → opus.length ≤ 4096 → (∃ packet, encodeAudioPacket version opus =
    .ok packet ∧ decodeAudioPacket version packet = .ok opus ∧ ∀ view, ∃ timestamp, decode version
    (some packet) (some view) = (.ok, some ⟨opus, timestamp⟩)) ∧ ∃ header, headerSize version = some
    header ∧ ∀ (timestampMs : UInt32) (output capacity size : ℕ) (memory : Memory), header +
    opus.length ≤ capacity → ∃ written, encode version (some opus) timestampMs (some output)
    capacity (some size) memory = (.ok, written, some (header + opus.length)) ∧ (∀ a, a < output ∨
    output + (header + opus.length) ≤ a → written a = memory a) ∧ decodeAudioPacket version
    (written.load output (header + opus.length)) = .ok opus ∧ ∀ view, ∃ timestamp, decode version
    (some (written.load output (header + opus.length))) (some view) = (.ok, some ⟨opus, timestamp⟩)
    := by
  refine ⟨fun packet opus view => ?_, fun opus hpositive hlimit => ⟨?_, ?_⟩⟩
  · simp only [decodeAudioPacket_eq_ok, decode_eq_ok]
  · have hsize : PayloadSize opus := ⟨by omega, hlimit⟩
    obtain ⟨packet, hencode, hframed⟩ := encodeAudioPacket_framed hversion hsize
    exact ⟨packet, hencode, decodeAudioPacket_eq_ok.mpr ⟨0, hframed⟩,
      fun view => ⟨0, (decode_eq_ok view).mpr hframed⟩⟩
  · have hsize : PayloadSize opus := ⟨by omega, hlimit⟩
    obtain ⟨header, hheader, -⟩ := headerSize_isSome hversion
    refine ⟨header, hheader, fun timestampMs output capacity size memory hcapacity => ?_⟩
    obtain ⟨timestamp, hframed⟩ := framed_packetOf hversion timestampMs hsize
    have hlength := length_packetOf hheader timestampMs opus
    refine ⟨_, by rw [encode_eq hheader _ hsize, if_neg (by omega)], fun a ha => ?_, ?_⟩
    · exact Memory.storeBytes_outside (by rwa [hlength])
    · -- what is read back from the buffer is the packet
      rw [← hlength, Memory.load_storeBytes]
      exact ⟨decodeAudioPacket_eq_ok.mpr ⟨_, hframed⟩,
        fun view => ⟨_, (decode_eq_ok view).mpr hframed⟩⟩

/-- A version 2 packet of two payload bytes. -/
theorem audio_codecs_agree_timed : decodeAudioPacket 2 [0, 2, 0, 0, 0, 0, 0, 0, 0, 0, 0, 7, 0, 0, 0,
    2, 5, 6] = .ok [5, 6] ↔ ∃ timestamp, decode 2 (some [0, 2, 0, 0, 0, 0, 0, 0, 0, 0, 0, 7, 0, 0,
    0, 2, 5, 6]) (some {}) = (.ok, some ⟨[5, 6], timestamp⟩) :=
  (audio_codecs_agree 2 (by decide)).1 _ _ _

end XiaozhiPlatform.VoiceAudioProtocol
