import XiaozhiPlatform.GoLib.ByteOrder
import XiaozhiPlatform.Protocol.Basic

/-!
# Audio packets of the gateway

`EncodeAudioPacket` and `DecodeAudioPacket` of the protocol package, and the wire format that
they are about. `Framed version packet opus` says that a packet carries a payload in the framing
of a transport version; `decodeAudioPacket_eq_ok` says that the decoder accepts exactly the
framed packets and returns their payload.
-/

namespace XiaozhiPlatform.Protocol

open GoLib

/-- The payload sizes that fit in a packet. -/
def PayloadSize (opus : List UInt8) : Prop :=
  opus.length ≠ 0 ∧ opus.length ≤ maxOpusPacketBytes
deriving Decidable

/-- `EncodeAudioPacket`. -/
def encodeAudioPacket (version : ℤ) (opus : List UInt8) : Decoded (List UInt8) := do
  refuseIf (opus.length = 0 ∨ opus.length > maxOpusPacketBytes)
    (violation "invalid_audio_packet" "Opus packet size is out of range")
  if version = 1 then return opus
  else if version = 2 then
    return BigEndian.put 2 2 ++ BigEndian.put 2 0 ++ BigEndian.put 4 0 ++ BigEndian.put 4 0 ++
      BigEndian.put 4 opus.length ++ opus
  else if version = 3 then return [0, 0] ++ BigEndian.put 2 opus.length ++ opus
  else .error (violation "unsupported_transport_version" "version must be 1, 2, or 3")

/-- The part of `DecodeAudioPacket` that depends on the transport version: the payload behind
the header, if the header is well formed and declares its length. -/
def unframe (version : ℤ) (packet : List UInt8) : Decoded (List UInt8) :=
  if version = 1 then return packet
  else if version = 2 then do
    refuseIf (packet.length < 16 ∨ BigEndian.readAt 0 2 packet ≠ 2 ∨
        BigEndian.readAt 2 2 packet ≠ 0 ∨ BigEndian.readAt 4 4 packet ≠ 0)
      (violation "invalid_audio_packet" "invalid version 2 header")
    refuseIf (BigEndian.readAt 12 4 packet ≠ packet.length - 16)
      (violation "invalid_audio_packet" "version 2 length mismatch")
    return packet.drop 16
  else if version = 3 then do
    refuseIf (packet.length < 4 ∨ packet[0]? ≠ some 0 ∨ packet[1]? ≠ some 0)
      (violation "invalid_audio_packet" "invalid version 3 header")
    refuseIf (BigEndian.readAt 2 2 packet ≠ packet.length - 4)
      (violation "invalid_audio_packet" "version 3 length mismatch")
    return packet.drop 4
  else .error (violation "unsupported_transport_version" "version must be 1, 2, or 3")

/-- `DecodeAudioPacket`. -/
def decodeAudioPacket (version : ℤ) (packet : List UInt8) : Decoded (List UInt8) := do
  let opus ← unframe version packet
  refuseIf (opus.length = 0 ∨ opus.length > maxOpusPacketBytes)
    (violation "invalid_audio_packet" "Opus packet size is out of range")
  return opus

/-! ## The wire format -/

/-- The header of a version 2 packet: the version, the message type of Opus, a reserved word, a
timestamp and the payload size. -/
def header2 (timestamp size : ℕ) : List UInt8 :=
  BigEndian.put 2 2 ++ (BigEndian.put 2 0 ++ (BigEndian.put 4 0 ++
    (BigEndian.put 4 timestamp ++ BigEndian.put 4 size)))

/-- The header of a version 3 packet: the message type of Opus, a reserved byte and the payload
size. -/
def header3 (size : ℕ) : List UInt8 := [0, 0] ++ BigEndian.put 2 size

@[simp]
theorem length_header2 (timestamp size : ℕ) : (header2 timestamp size).length = 16 := by
  simp [header2]

@[simp]
theorem length_header3 (size : ℕ) : (header3 size).length = 4 := by
  simp [header3]

/-- A packet of a transport version that carries a payload, with the timestamp of its header;
only version 2 has a timestamp, and the other versions count as having a zero one. -/
inductive Framed : ℤ → List UInt8 → List UInt8 → ℕ → Prop
  | raw {opus : List UInt8} (size : PayloadSize opus) : Framed 1 opus opus 0
  | timed {opus : List UInt8} (timestamp : ℕ) (size : PayloadSize opus)
      (range : timestamp < 2 ^ 32) :
      Framed 2 (header2 timestamp opus.length ++ opus) opus timestamp
  | short {opus : List UInt8} (size : PayloadSize opus) :
      Framed 3 (header3 opus.length ++ opus) opus 0

theorem payloadSize_iff (opus : List UInt8) :
    PayloadSize opus ↔ ¬ (opus.length = 0 ∨ opus.length > maxOpusPacketBytes) := by
  rw [PayloadSize, not_or, gt_iff_lt, not_lt]

/-- The encoder accepts every payload that fits, for the three versions, and frames it with a
zero timestamp. -/
theorem encodeAudioPacket_framed (hversion : version ∈ ([1, 2, 3] : List ℤ))
    (hsize : PayloadSize opus) :
    ∃ packet, encodeAudioPacket version opus = .ok packet ∧ Framed version packet opus 0 := by
  have hguard := (payloadSize_iff opus).mp hsize
  simp only [encodeAudioPacket, refuseIf_bind_eq_ok]
  simp only [List.mem_cons, List.not_mem_nil, or_false] at hversion
  rcases hversion with rfl | rfl | rfl
  · exact ⟨_, ⟨hguard, rfl⟩, .raw hsize⟩
  · refine ⟨_, ⟨hguard, rfl⟩, ?_⟩
    have := Framed.timed 0 hsize (by decide)
    simpa only [header2, List.append_assoc] using this
  · exact ⟨_, ⟨hguard, rfl⟩, .short hsize⟩

/-! ## What the headers say

The fields of a header are read back from a packet that starts with it, and a packet whose fields
have the values of a header starts with that header. -/

section Headers

open BigEndian

variable {timestamp size : ℕ} (rest : List UInt8)

theorem read_header2 (htimestamp : timestamp < 2 ^ 32) (hsize : size < 2 ^ 32) : readAt 0 2 (header2
    timestamp size ++ rest) = 2 ∧ readAt 2 2 (header2 timestamp size ++ rest) = 0 ∧ readAt 4 4
    (header2 timestamp size ++ rest) = 0 ∧ readAt 8 4 (header2 timestamp size ++ rest) = timestamp ∧
    readAt 12 4 (header2 timestamp size ++ rest) = size := by
  simp only [header2, List.append_assoc]
  refine ⟨readAt_put_append (by decide) _, ?_, ?_, ?_, ?_⟩
  · rw [readAt_append (by simp)]
    exact readAt_put_append (by decide) _
  · rw [readAt_append (by simp), readAt_append (by simp)]
    exact readAt_put_append (by decide) _
  · rw [readAt_append (by simp), readAt_append (by simp), readAt_append (by simp)]
    exact readAt_put_append htimestamp _
  · rw [readAt_append (by simp), readAt_append (by simp), readAt_append (by simp),
      readAt_append (by simp)]
    exact readAt_put_append hsize _

theorem eq_header2_append (hlength : 16 ≤ packet.length) (hversion : readAt 0
    2 packet = 2) (htype : readAt 2 2 packet = 0) (hreserved : readAt 4 4 packet = 0) : packet =
    header2 (readAt 8 4 packet) (readAt 12 4 packet) ++ packet.drop 16 := by
  calc packet
      = packet.drop 0 := rfl
    _ = put 2 2 ++ packet.drop 2 := by
        rw [drop_eq_put_append 0 2 (by omega), hversion]
    _ = put 2 2 ++ (put 2 0 ++ packet.drop 4) := by
        rw [drop_eq_put_append 2 2 (by omega), htype]
    _ = put 2 2 ++ (put 2 0 ++ (put 4 0 ++ packet.drop 8)) := by
        rw [drop_eq_put_append 4 4 (by omega), hreserved]
    _ = put 2 2 ++ (put 2 0 ++ (put 4 0 ++ (put 4 (readAt 8 4 packet) ++ packet.drop 12))) := by
        rw [drop_eq_put_append 8 4 (by omega)]
    _ = put 2 2 ++ (put 2 0 ++ (put 4 0 ++ (put 4 (readAt 8 4 packet) ++
          (put 4 (readAt 12 4 packet) ++ packet.drop 16)))) := by
        rw [drop_eq_put_append 12 4 (by omega)]
    _ = header2 (readAt 8 4 packet) (readAt 12 4 packet) ++ packet.drop 16 := by
        simp only [header2, List.append_assoc]

theorem read_header3 (hsize : size < 2 ^ 16) : readAt 2 2 (header3 size ++ rest) = size := by
  rw [header3, List.append_assoc, readAt_append (by simp)]
  exact readAt_put_append hsize _

theorem eq_header3_append (hlength : 4 ≤ packet.length)
    (htype : packet[0]? = some 0) (hreserved : packet[1]? = some 0) :
    packet = header3 (readAt 2 2 packet) ++ packet.drop 4 := by
  obtain ⟨first, second, tail, rfl⟩ : ∃ first second tail, packet = first :: second :: tail := by
    match packet, hlength with
    | first :: second :: tail, _ => exact ⟨first, second, tail, rfl⟩
  cases htype
  cases hreserved
  have : (0 :: 0 :: tail).drop 2 = _ := drop_eq_put_append 2 2 hlength
  rw [header3, List.append_assoc, ← this]
  rfl

end Headers

/-! ## The decoder accepts the format -/

theorem PayloadSize.lt (h : PayloadSize opus) : opus.length < 2 ^ 16 :=
  Nat.lt_of_le_of_lt h.2 (by decide)

section

variable {version : ℤ} {packet opus : List UInt8}

theorem unframe_of_framed
    (h : Framed version packet opus timestamp) : unframe version packet = .ok opus := by
  cases h with
  | raw size => rfl
  | timed timestamp size range =>
    obtain ⟨hversion, htype, hreserved, -, hlength⟩ :=
      read_header2 opus range (size.lt.trans (by decide))
    rw [unframe, if_neg (by decide), if_pos rfl, refuseIf_of_neg (by simp [*]),
      refuseIf_of_neg (by simp [*])]
    exact congrArg Except.ok (List.drop_left' (length_header2 _ _))
  | short size =>
    have hlength := read_header3 opus size.lt
    rw [unframe, if_neg (by decide), if_neg (by decide), if_pos rfl,
      refuseIf_of_neg (by simp [header3]), refuseIf_of_neg (by simp [*])]
    exact congrArg Except.ok (List.drop_left' (length_header3 _))

theorem framed_of_unframe (hsize : PayloadSize opus)
    (h : unframe version packet = .ok opus) : ∃ timestamp, Framed version packet opus timestamp := by
  rw [unframe] at h
  split at h
  · next hversion =>
    subst hversion
    cases h
    exact ⟨0, .raw hsize⟩
  split at h
  · next hversion =>
    subst hversion
    simp only [refuseIf_bind_eq_ok, not_or, not_lt, not_not] at h
    obtain ⟨⟨hlength, hversion, htype, hreserved⟩, hdeclared, h⟩ := h
    cases h
    have hpacket := eq_header2_append hlength hversion htype hreserved
    rw [hdeclared, ← List.length_drop] at hpacket
    refine ⟨BigEndian.readAt 8 4 packet, ?_⟩
    have := Framed.timed _ hsize (BigEndian.readAt_lt 8 4 packet)
    rwa [← hpacket] at this
  split at h
  · next hversion =>
    subst hversion
    simp only [refuseIf_bind_eq_ok, not_or, not_lt, not_not] at h
    obtain ⟨⟨hlength, htype, hreserved⟩, hdeclared, h⟩ := h
    cases h
    have hpacket := eq_header3_append hlength htype hreserved
    rw [hdeclared, ← List.length_drop] at hpacket
    refine ⟨0, ?_⟩
    have := Framed.short hsize
    rwa [← hpacket] at this
  · cases h

theorem Framed.payloadSize (h : Framed version packet opus timestamp) : PayloadSize opus := by
  cases h <;> assumption

/-- The decoder accepts exactly the framed packets, and returns their payload. -/
theorem decodeAudioPacket_eq_ok : decodeAudioPacket version
    packet = .ok opus ↔ ∃ timestamp, Framed version packet opus timestamp := by
  rw [decodeAudioPacket, decoded_bind_eq_ok]
  simp only [refuseIf_bind_eq_ok, ← payloadSize_iff]
  constructor
  · rintro ⟨payload, hunframe, hsize, h⟩
    cases h
    exact framed_of_unframe hsize hunframe
  · rintro ⟨timestamp, h⟩
    exact ⟨opus, unframe_of_framed h, h.payloadSize, rfl⟩

end

end XiaozhiPlatform.Protocol
