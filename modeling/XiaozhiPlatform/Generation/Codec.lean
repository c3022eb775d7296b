import XiaozhiPlatform.Generation.State
import XiaozhiPlatform.GoLib.JsonStruct
import XiaozhiPlatform.GoLib.Sha256

/-!
# Record files

The text of a record file: the record in JSON with an HMAC over all its other fields, closed by a
line feed. `decodeCanonicalState` reads such a text back and accepts only the text that
`json.Marshal` would write again.

- `decodeCanonicalState_payload`: a signed record is read back from its own text.
- `byteLength_payload_le`: the text of a valid record stays within the size limit of the reader.
-/

namespace XiaozhiPlatform.Generation

open GoLib Auth Json

/-! ## JSON fields -/

def Phase.ofText (text : String) : Option Phase :=
  [Phase.stable, .preparing, .draining, .committing].find? fun phase => phase.text = text

def AckStage.ofText (text : String) : Option AckStage :=
  [AckStage.prepared, .active].find? fun stage => stage.text = text

def Role.ofText (text : String) : Option Role :=
  [Role.controlplane, .firmwareorigin, .publisher].find? fun role => role.text = text

theorem Phase.ofText_text (phase : Phase) : Phase.ofText phase.text = some phase := by
  cases phase <;> decide

theorem AckStage.ofText_text (stage : AckStage) : AckStage.ofText stage.text = some stage := by
  cases stage <;> decide

theorem Role.ofText_text (role : Role) : Role.ofText role.text = some role := by
  cases role <;> decide

def generationFields : List (Json.Field Generation) :=
  [stringField "generation_id" Generation.id fun v g => { g with id := v },
    uintField 32 "generation_sequence" (fun g => g.sequence.toNat)
      fun v g => { g with sequence := UInt32.ofNat v },
    stringField "receipt_sha256" Generation.receiptSHA256
      fun v g => { g with receiptSHA256 := v }]

def replicaRefFields : List (Json.Field ReplicaRef) :=
  [stringField "replica_id" ReplicaRef.id fun v r => { r with id := v },
    enumField "role" Role.text Role.ofText ReplicaRef.role fun v r => { r with role := v }]

def acknowledgementFields : List (Json.Field Acknowledgement) :=
  [stringField "replica_id" Acknowledgement.replicaID fun v a => { a with replicaID := v },
    enumField "role" Role.text Role.ofText Acknowledgement.role
      fun v a => { a with role := v },
    enumField "stage" AckStage.text AckStage.ofText Acknowledgement.stage
      fun v a => { a with stage := v },
    stringField "generation_id" Acknowledgement.generationID
      fun v a => { a with generationID := v },
    stringField "receipt_sha256" Acknowledgement.receiptSHA256
      fun v a => { a with receiptSHA256 := v },
    intField "acknowledged_at" Acknowledgement.acknowledgedAt
      fun v a => { a with acknowledgedAt := v }]

def zeroGeneration : Generation := ⟨"", 0, ""⟩

def zeroReplicaRef : ReplicaRef := ⟨"", .controlplane⟩

def zeroAcknowledgement : Acknowledgement := ⟨"", .controlplane, .prepared, "", "", 0⟩

/-- The empty record that the decoder fills. Its phase is never seen: a text that leaves the
phase out is not canonical. -/
def zeroState : State where
  schema := 0
  revision := 0
  previousRecordSHA256 := ""
  phase := .stable
  active := zeroGeneration
  pending := none
  requiredReplicas := []
  acknowledgements := none
  prepareDeadline := 0
  drainUntil := 0
  commitDeadline := 0
  updatedAt := 0
  recordHMACB64URL := ""

/-- The fields of `unsignedState`: those of a record without its HMAC. -/
def unsignedFields : List (Json.Field State) :=
  [intField "schema" State.schema fun v s => { s with schema := v },
    uintField 64 "revision" (fun s => s.revision.toNat)
      fun v s => { s with revision := UInt64.ofNat v },
    stringField "previous_record_sha256" State.previousRecordSHA256
      fun v s => { s with previousRecordSHA256 := v },
    enumField "phase" Phase.text Phase.ofText State.phase fun v s => { s with phase := v },
    structField "active" generationFields State.active fun v s => { s with active := v },
    pointerField "pending" generationFields zeroGeneration State.pending
      fun v s => { s with pending := v },
    sliceField "required_replicas" replicaRefFields zeroReplicaRef
      (fun s => some s.requiredReplicas) fun v s => { s with requiredReplicas := v.getD [] },
    sliceField "acknowledgements" acknowledgementFields zeroAcknowledgement
      State.acknowledgements fun v s => { s with acknowledgements := v },
    intField "prepare_deadline" State.prepareDeadline
      fun v s => { s with prepareDeadline := v },
    intField "drain_until" State.drainUntil fun v s => { s with drainUntil := v },
    intField "commit_deadline" State.commitDeadline fun v s => { s with commitDeadline := v },
    intField "updated_at" State.updatedAt fun v s => { s with updatedAt := v }]

def stateFields : List (Json.Field State) :=
  unsignedFields ++ [stringField "record_hmac_b64url" State.recordHMACB64URL
    fun v s => { s with recordHMACB64URL := v }]

/-! ## Signed texts -/

/-- `json.Marshal` of `unsignedFromState`. -/
def marshalUnsigned (state : State) : List Char := render (encode unsignedFields state)

/-- `json.Marshal` of a record. -/
def marshal (state : State) : List Char := render (encode stateFields state)

/-- The HMAC over the fields of a record. -/
def recordHMAC (key : List UInt8) (state : State) : List UInt8 :=
  (Sha256.hmac key (utf8 (marshalUnsigned state))).toList

/-- The record with its HMAC field filled in. -/
def sign (key : List UInt8) (state : State) : State :=
  { state with recordHMACB64URL := String.ofList (Base64.encode (recordHMAC key state)) }

section Sign

variable (key : List UInt8) (state : State)

@[simp]
theorem revision_sign : (sign key state).revision = state.revision := rfl

@[simp]
theorem active_sign : (sign key state).active = state.active := rfl

end Sign

/-- The text of a record file. -/
def payload (state : State) : List Char := marshal state ++ ['\n']

/-- The hexadecimal SHA-256 of a text. -/
def digestText (text : List Char) : String :=
  String.ofList (Hex.encode (Sha256.sum256 (utf8 text)).toList)

theorem validSHA256_digestText (text : List Char) : ValidSHA256 (digestText text) := by
  have hdigits : ∀ n < 16, (Hex.digit n).toNat < 128 ∧ (Hex.digit n).toLower = Hex.digit n := by
    decide
  have hchars : ∀ c ∈ (digestText text).toList, c.toNat < 128 ∧ c.toLower = c := by
    intro c hc
    rw [digestText, String.toList_ofList] at hc
    obtain ⟨n, hn, rfl⟩ := Hex.isDigit_of_mem_encode hc
    exact hdigits n hn
  refine ⟨?_, ?_, (Sha256.sum256 (utf8 text)).toList, ?_, Vector.length_toList⟩
  · grind [byteLength_of_ascii, digestText, String.toList_ofList, Hex.length_encode]
  · exact (List.map_congr_left fun c hc => (hchars c hc).2).trans (List.map_id _)
  · rw [digestText, String.toList_ofList]
    exact Hex.decode_encode _

/-- The error of `json.Decoder` on a text that it cannot decode. -/
def errDecode : Error := .text "json: cannot decode value"

/-- Decoding into an empty record, with unknown fields disallowed. Trailing content is refused by
the parser here, with its own error in Go. -/
def decodeState (text : List Char) : Except Error State :=
  match (parse text).bind (decode stateFields zeroState) with
  | none => .error errDecode
  | some state => .ok state

/-- The bytes of the HMAC field, which must be in canonical encoding. -/
def providedHMAC (state : State) : Except Error (List UInt8) :=
  match Base64.decode state.recordHMACB64URL.toList with
  | none => .error (.text "generation state HMAC encoding is invalid")
  | some provided => do
    failIf (provided.length ≠ 32 ∨
        String.ofList (Base64.encode provided) ≠ state.recordHMACB64URL)
      (.text "generation state HMAC encoding is invalid")
    return provided

/-- `decodeCanonicalState`. -/
def decodeCanonicalState (text : List Char) (key : List UInt8) : Except Error State := do
  let state ← decodeState text
  failIf (payload state ≠ text) (.text "generation state JSON is not canonical")
  validateState state
  let provided ← providedHMAC state
  failIf (provided ≠ recordHMAC key state) (.text "generation state HMAC is invalid")
  return state

/-! ## Round trips -/

def FitsInt64 (n : ℤ) : Prop := -2 ^ 63 ≤ n ∧ n < 2 ^ 63

/-- The integers of a record fit their type. -/
structure State.Fits (state : State) : Prop where
  schema : FitsInt64 state.schema
  prepareDeadline : FitsInt64 state.prepareDeadline
  drainUntil : FitsInt64 state.drainUntil
  commitDeadline : FitsInt64 state.commitDeadline
  updatedAt : FitsInt64 state.updatedAt
  acks : ∀ ack ∈ state.acks, FitsInt64 ack.acknowledgedAt

theorem decode_generation (start generation : Generation) : decode generationFields start
    (encode generationFields generation) = some generation := by
  rw [decode_encode (by decide)]
  have hsequence : generation.sequence.toNat < 2 ^ 32 := generation.sequence.toNat_lt
  simp [generationFields, set_uintField _ hsequence]

theorem decode_replicaRef (start replica : ReplicaRef) :
    decode replicaRefFields start (encode replicaRefFields replica) = some replica := by
  rw [decode_encode (by decide)]
  simp [replicaRefFields, set_enumField _ Role.ofText_text]

theorem decode_acknowledgement (start : Acknowledgement) {ack : Acknowledgement} (h : FitsInt64
    ack.acknowledgedAt) : Json.decode acknowledgementFields start (Json.encode acknowledgementFields
    ack) = some ack := by
  rw [decode_encode (by decide)]
  simp [acknowledgementFields, set_enumField _ Role.ofText_text,
    set_enumField _ AckStage.ofText_text, set_intField _ h]

theorem decode_state (h : state.Fits) :
    Json.decode stateFields zeroState (Json.encode stateFields state) = some state := by
  rw [decode_encode (by decide)]
  have hrevision : state.revision.toNat < 2 ^ 64 := state.revision.toNat_lt
  simp [stateFields, unsignedFields, set_enumField _ Phase.ofText_text,
    set_uintField _ hrevision, set_intField _ h.schema,
    set_intField _ h.prepareDeadline, set_intField _ h.drainUntil,
    set_intField _ h.commitDeadline, set_intField _ h.updatedAt,
    set_structField _ (fun start => decode_generation start state.active),
    set_pointerField _ (fun target _ start => decode_generation start target),
    set_sliceField_arr _ (fun replica _ => decode_replicaRef _ replica),
    set_sliceField _ (fun ack hack => decode_acknowledgement _ (h.acks ack hack))]

/-! ### The text of a record is read back -/

theorem valid_generation (generation : Generation) :
    (encode generationFields generation).Valid := by
  apply valid_encode
  simp [generationFields, Json.Valid, valid_nat]

theorem valid_replicaRef (replica : ReplicaRef) : (encode replicaRefFields replica).Valid := by
  apply valid_encode
  simp [replicaRefFields, Json.Valid]

theorem valid_acknowledgement (ack : Acknowledgement) :
    (encode acknowledgementFields ack).Valid := by
  apply valid_encode
  simp [acknowledgementFields, Json.Valid, valid_int]

theorem valid_pending (pending : Option Generation) :
    ((pending.map (encode generationFields)).getD .null).Valid := by
  cases pending with
  | none => trivial
  | some pending => exact valid_generation pending

theorem valid_replicas (replicas : List ReplicaRef) :
    (arr (replicas.map (encode replicaRefFields))).Valid := by
  rw [Json.Valid, validItems_iff]
  intro item hitem
  obtain ⟨replica, -, rfl⟩ := List.mem_map.mp hitem
  exact valid_replicaRef replica

theorem valid_acks (acks : Option (List Acknowledgement)) : ((acks.map fun items => arr
    (items.map (encode acknowledgementFields))).getD .null).Valid := by
  cases acks with
  | none => trivial
  | some acks =>
    rw [Option.map_some, Option.getD_some, Json.Valid, validItems_iff]
    intro item hitem
    obtain ⟨ack, -, rfl⟩ := List.mem_map.mp hitem
    exact valid_acknowledgement ack

theorem valid_state (state : State) : (encode stateFields state).Valid := by
  apply valid_encode
  simp [stateFields, unsignedFields, Json.Valid, valid_int, valid_nat, valid_generation,
    valid_pending, valid_replicas, valid_acks]

theorem parse_payload (state : State) :
    parse (payload state) = some (encode stateFields state) :=
  parse_render (valid_state state) (by simp [isSpace])

/-! ### Signatures -/

variable (key : List UInt8) (state : State)

theorem length_recordHMAC : (recordHMAC key state).length = 32 := by
  simp [recordHMAC]

theorem recordHMAC_sign : recordHMAC key (sign key state) = recordHMAC key state := rfl

theorem decode_recordHMACB64URL :
    Base64.decode (sign key state).recordHMACB64URL.toList = some (recordHMAC key state) := by
  rw [sign, String.toList_ofList, Base64.decode_encode]

variable {key state}

/-- Signing changes no field that `validateState` looks at but the HMAC, and that to a value that
it accepts. -/
theorem State.Valid.sign (h : state.Valid) : (sign key state).Valid :=
  { h with
    hmac := fun _ => ⟨recordHMAC key state, decode_recordHMACB64URL key state,
      length_recordHMAC key state⟩ }

theorem State.Fits.sign (h : state.Fits) : (sign key state).Fits := { h with }

theorem decodeState_payload (hfits : state.Fits) : decodeState (payload state) = .ok state := by
  rw [decodeState, parse_payload, Option.bind_some, decode_state hfits]

theorem providedHMAC_sign : providedHMAC (sign key state) = .ok (recordHMAC key state) := by
  have hencoding : String.ofList (Base64.encode (recordHMAC key state)) =
      (sign key state).recordHMACB64URL := rfl
  simp only [providedHMAC, decode_recordHMACB64URL, length_recordHMAC, hencoding]
  rw [failIf_of_neg (by simp)]
  rfl

/-- A signed record is read back from the text that the coordinator writes. -/
theorem decodeCanonicalState_payload (hvalid : state.Valid) (hfits : state.Fits) :
    decodeCanonicalState (payload (sign key state)) key = .ok (sign key state) := by
  rw [decodeCanonicalState, decodeState_payload hfits.sign, ok_bind,
    failIf_of_neg (not_not.mpr rfl), ok_bind, (validateState_eq_ok _).mpr hvalid.sign, ok_bind,
    providedHMAC_sign, ok_bind, failIf_of_neg (not_not.mpr (recordHMAC_sign key state).symm)]
  rfl

/-! ## Sizes

Every text of a valid record is plain ASCII, so the size of its JSON text is the sum of the
lengths of its fields and of the fixed parts. -/

theorem isPlain_of_value (h : (Hex.value c).isSome = true) : Json.IsPlain c := by
  have hnone : ['"', '\\', '<', '>', '&'].all (fun c => !(Hex.value c).isSome) = true := by decide
  refine ⟨?_, ?_, fun hmem => by simpa [h] using List.all_eq_true.mp hnone c hmem⟩
  all_goals
    unfold Hex.value at h
    simp only [Char.le_def, UInt32.le_iff_toNat_le] at h
    change (if 48 ≤ c.toNat ∧ c.toNat ≤ 57 then _ else if 97 ≤ c.toNat ∧ c.toNat ≤ 102 then _
      else if 65 ≤ c.toNat ∧ c.toNat ≤ 70 then _ else none : Option ℕ).isSome = true at h
    by_contra hc
    rw [if_neg (by omega), if_neg (by omega), if_neg (by omega)] at h
    simp at h

theorem ValidSHA256.isPlain (h : ValidSHA256 value) : ∀ c ∈ value.toList, Json.IsPlain c := by
  obtain ⟨-, -, bytes, hbytes, -⟩ := h
  exact fun c hc => isPlain_of_value (Hex.value_isSome_of_decode hbytes c hc)

theorem ValidSHA256.length (h : ValidSHA256 value) : value.toList.length = 64 := by
  have hlength := h.1
  rwa [byteLength_of_ascii fun c hc => (h.isPlain c hc).2.1] at hlength

theorem Role.isPlain (role : Role) : ∀ c ∈ role.text.toList, Json.IsPlain c :=
  forall_isPlain (by cases role <;> decide)

theorem AckStage.isPlain (stage : AckStage) : ∀ c ∈ stage.text.toList, Json.IsPlain c :=
  forall_isPlain (by cases stage <;> decide)

theorem Phase.isPlain (phase : Phase) : ∀ c ∈ phase.text.toList, Json.IsPlain c :=
  forall_isPlain (by cases phase <;> decide)

theorem byteLength_text (h : ∀ c ∈ s.toList, Json.IsPlain c) :
    byteLength (render (.str s)) = s.toList.length + 2 :=
  byteLength_quote_of_isPlain h

theorem byteLength_generation (h : ValidGeneration generation) :
    byteLength (render (encode generationFields generation)) =
      generation.id.toList.length + (formatNat generation.sequence.toNat).length + 127 := by
  have hfixed : overhead generationFields = 59 := by decide
  rw [byteLength_encode (by decide), hfixed]
  simp only [generationFields, List.map_cons, List.map_nil, List.sum_cons, List.sum_nil,
    stringField_get, uintField_get, byteLength_text h.1.isPlain,
    byteLength_text h.2.isPlain, byteLength_nat, h.2.length]
  omega

theorem byteLength_replicaRef (h : ValidIdentifier replica.id 64) :
    byteLength (render (encode replicaRefFields replica)) =
      replica.id.toList.length + replica.role.text.toList.length + 27 := by
  have hfixed : overhead replicaRefFields = 23 := by decide
  rw [byteLength_encode (by decide), hfixed]
  simp only [replicaRefFields, List.map_cons, List.map_nil, List.sum_cons, List.sum_nil,
    stringField_get, enumField_get, byteLength_text h.isPlain,
    byteLength_text replica.role.isPlain]
  omega

theorem byteLength_acknowledgement {state : State} {ack : Acknowledgement}
    (hreplicas : ValidReplicas state.requiredReplicas) (h : AckValid state ack) :
    byteLength (Json.render (Json.encode acknowledgementFields ack)) =
      ack.replicaID.toList.length + ack.role.text.toList.length + ack.stage.text.toList.length +
        ack.generationID.toList.length + (formatNat ack.acknowledgedAt.toNat).length + 160 := by
  obtain ⟨hmem, hgeneration, hreceipt, htime, -⟩ := h
  have hid : ValidIdentifier ack.replicaID 64 := (hreplicas.2.2.1 _ hmem).1
  have hfixed : overhead acknowledgementFields = 86 := by decide
  rw [byteLength_encode (by decide), hfixed]
  simp only [acknowledgementFields, List.map_cons, List.map_nil, List.sum_cons, List.sum_nil,
    stringField_get, enumField_get, intField_get, byteLength_text hid.isPlain,
    byteLength_text ack.role.isPlain, byteLength_text ack.stage.isPlain,
    byteLength_text hgeneration.isPlain, byteLength_text hreceipt.isPlain, hreceipt.length,
    byteLength_int_of_nonneg (show 0 ≤ ack.acknowledgedAt by unfold minimumUnix at htime; omega)]
  omega

/-! ### The bound on record files -/

/-- The largest record file that the coordinator reads. -/
def maximumStateBytes : ℕ := 1024 * 1024

theorem byteLength_int_le_of_fits (h : FitsInt64 n) :
    byteLength (render (int n)) ≤ 20 := by
  obtain ⟨hlow, hhigh⟩ := h
  exact byteLength_int_le (k := 19) (by decide) (by omega)

theorem Role.length_text_le (role : Role) : role.text.toList.length ≤ 14 := by
  cases role <;> decide

theorem AckStage.length_text_le (stage : AckStage) : stage.text.toList.length ≤ 8 := by
  cases stage <;> decide

theorem Phase.length_text_le (phase : Phase) : phase.text.toList.length ≤ 10 := by
  cases phase <;> decide

theorem byteLength_generation_le (h : ValidGeneration generation) :
    byteLength (render (encode generationFields generation)) ≤ 201 := by
  have hid := h.1.length_le
  have hsequence : (formatNat generation.sequence.toNat).length ≤ 10 :=
    length_formatNat_le (by decide) (by have := generation.sequence.toNat_lt; omega)
  rw [byteLength_generation h]
  omega

theorem State.Valid.pending (h : state.Valid) :
    ∀ pending ∈ state.pending, ValidGeneration pending := by
  intro pending hpending
  have hshape := h.shape
  unfold PhaseShape at hshape
  cases hphase : state.phase with
  | stable =>
    rw [hphase] at hshape
    rw [hshape.1] at hpending
    cases hpending
  | preparing =>
    rw [hphase] at hshape
    obtain ⟨other, hother, hvalid, -⟩ := hshape.1.1
    rwa [Option.mem_unique hpending hother]
  | draining =>
    rw [hphase] at hshape
    obtain ⟨other, hother, hvalid, -⟩ := hshape.1
    rwa [Option.mem_unique hpending hother]
  | committing =>
    rw [hphase] at hshape
    rw [hshape.1.1] at hpending
    cases hpending
    exact h.active

theorem State.Valid.length_acks_le (h : state.Valid) :
    state.acks.length ≤ state.requiredReplicas.length := by
  have hsub : state.acks.map Acknowledgement.replicaID ⊆
      state.requiredReplicas.map ReplicaRef.id := by
    intro id hid
    obtain ⟨ack, hack, rfl⟩ := List.mem_map.mp hid
    exact List.mem_map.mpr ⟨_, (h.acks_valid ack hack).1, rfl⟩
  simpa using (List.subperm_of_subset h.acks_nodup hsub).length_le

theorem byteLength_acks_le (h : state.Valid) (hfits : state.Fits) :
    byteLength (render ((state.acknowledgements.map fun items =>
      arr (items.map (encode acknowledgementFields))).getD .null)) ≤ 2 + 64 * 331 := by
  have hlength := h.length_acks_le
  have hreplicas := h.replicas.2.1
  cases hacks : state.acknowledgements with
  | none => decide
  | some acks =>
    have hall : ∀ item ∈ acks.map (encode acknowledgementFields),
        byteLength (render item) ≤ 330 := by
      intro item hitem
      obtain ⟨ack, hack, rfl⟩ := List.mem_map.mp hitem
      have hmem : ack ∈ state.acks := by rw [State.acks, hacks]; exact hack
      have hvalid := h.acks_valid ack hmem
      have hid := (h.replicas.2.2.1 _ hvalid.1).1.length_le
      have hgeneration := hvalid.2.1.length_le
      have hrole := ack.role.length_text_le
      have hstage := ack.stage.length_text_le
      have hdigits : (formatNat ack.acknowledgedAt.toNat).length ≤ 19 :=
        length_formatNat_le (by decide) (by have := (hfits.acks ack hmem).2; omega)
      rw [byteLength_acknowledgement h.replicas hvalid]
      dsimp only at hid
      omega
    rw [State.acks, hacks, Option.getD_some] at hlength
    have hbound := byteLength_arr_le hall
    rw [List.length_map] at hbound
    exact hbound.trans
      (Nat.add_le_add_left (Nat.mul_le_mul_right _ (hlength.trans hreplicas)) _)

theorem byteLength_replicas_le (h : ValidReplicas state.requiredReplicas) : byteLength (render
    (arr (state.requiredReplicas.map (encode replicaRefFields)))) ≤ 2 + 64 * 106 := by
  have hlength := h.2.1
  have hall : ∀ item ∈ state.requiredReplicas.map (encode replicaRefFields),
      byteLength (render item) ≤ 105 := by
    intro item hitem
    obtain ⟨replica, hreplica, rfl⟩ := List.mem_map.mp hitem
    have hid := (h.2.2.1 replica hreplica).1
    have hidLength := hid.length_le
    have hrole := replica.role.length_text_le
    rw [byteLength_replicaRef hid]
    omega
  have hbound := byteLength_arr_le hall
  rw [List.length_map] at hbound
  omega

theorem byteLength_pending_le (h : state.Valid) : byteLength (render ((state.pending.map
    (encode generationFields)).getD .null)) ≤ 201 := by
  cases hpending : state.pending with
  | none => decide
  | some pending => exact byteLength_generation_le (h.pending pending hpending)

theorem byteLength_hmac :
    byteLength (render (.str (sign key state).recordHMACB64URL)) = 45 := by
  have hlength : (sign key state).recordHMACB64URL.toList.length = 43 := by
    rw [sign, String.toList_ofList, Base64.length_encode, length_recordHMAC]
  have hplain : ∀ c ∈ (sign key state).recordHMACB64URL.toList, Json.IsPlain c := by
    have hsymbols : ∀ n : Fin 64, Json.IsPlain (Base64.symbol n) := by decide +kernel
    intro c hc
    rw [sign, String.toList_ofList] at hc
    obtain ⟨n, hn, rfl⟩ := Base64.isSymbol_of_mem_encode hc
    exact hsymbols ⟨n, hn⟩
  rw [byteLength_text hplain, hlength]

/-- The file of a signed valid record is never too large to be read back. -/
theorem byteLength_payload_le (h : state.Valid) (hfits : state.Fits) :
    byteLength (payload (sign key state)) ≤ maximumStateBytes := by
  have hfixed : overhead stateFields = 210 := by decide
  have hrevision : (formatNat (sign key state).revision.toNat).length ≤ 20 :=
    length_formatNat_le (by decide) (by have := (sign key state).revision.toNat_lt; omega)
  have hphase := (sign key state).phase.length_text_le
  have hsigned : (sign key state).Valid := h.sign
  have hsignedFits : (sign key state).Fits := hfits.sign
  have hactive := byteLength_generation_le hsigned.active
  have hpending := byteLength_pending_le hsigned
  have hreplicas := byteLength_replicas_le hsigned.replicas
  have hacks := byteLength_acks_le hsigned hsignedFits
  have hschema := byteLength_int_le_of_fits hsignedFits.schema
  have hprepare := byteLength_int_le_of_fits hsignedFits.prepareDeadline
  have hdrain := byteLength_int_le_of_fits hsignedFits.drainUntil
  have hcommit := byteLength_int_le_of_fits hsignedFits.commitDeadline
  have hupdated := byteLength_int_le_of_fits hsignedFits.updatedAt
  have hprevious := byteLength_text hsigned.previous.isPlain
  rw [hsigned.previous.length] at hprevious
  rw [payload, marshal, byteLength_append, byteLength_encode (by decide), hfixed]
  simp only [stateFields, unsignedFields, List.cons_append, List.nil_append, List.map_cons,
    List.map_nil, List.sum_cons, List.sum_nil, stringField_get, enumField_get,
    intField_get, uintField_get, structField_get, pointerField_get,
    sliceField_get, byteLength_hmac, byteLength_text (sign key state).phase.isPlain,
    byteLength_nat, hprevious, byteLength_cons, byteLength_nil,
    utf8Size_of_lt (c := '\n') (by decide), Option.map_some, Option.getD_some]
  unfold maximumStateBytes
  omega

end XiaozhiPlatform.Generation
