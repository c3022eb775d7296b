import XiaozhiPlatform.Generation.Lifecycle

/-!
# State responses

How a replica learns the state of the coordinator: `writeSignedState` renders a view of the newest
record and signs it for the principal that asked, `Client.receive` is what `Client.call` does with
the response. The transport and the request that precedes it are left out.

- `receive_writeSignedState`: of the checks of the client only the size limit can refuse a response
  of a reachable coordinator.
- `response_accepted_iff`: the same with the size of the response written out.
-/

namespace XiaozhiPlatform.Generation

open GoLib Auth Json

/-- The largest request and response body. -/
def maximumAPIBytes : ℕ := 16 * 1024

/-- A caller of the API with its shared key. -/
structure Principal where
  id : String
  role : Role
  key : List UInt8

/-- The coordinator state as the API shows it. -/
structure StateView where
  schema : ℤ
  revision : UInt64
  recordSHA256 : String
  phase : Phase
  active : Generation
  pending : Option Generation
  requiredReplicas : List ReplicaRef
  acknowledgements : Option (List Acknowledgement)
  prepareDeadline : ℤ
  drainUntil : ℤ
  commitDeadline : ℤ
  updatedAt : ℤ
deriving DecidableEq, Repr

/-- The empty view that the decoder fills. -/
def zeroView : StateView where
  schema := 0
  revision := 0
  recordSHA256 := ""
  phase := .stable
  active := zeroGeneration
  pending := none
  requiredReplicas := []
  acknowledgements := none
  prepareDeadline := 0
  drainUntil := 0
  commitDeadline := 0
  updatedAt := 0

def viewFields : List (Json.Field StateView) :=
  [intField "schema" StateView.schema fun v s => { s with schema := v },
    uintField 64 "revision" (fun s => s.revision.toNat)
      fun v s => { s with revision := UInt64.ofNat v },
    stringField "record_sha256" StateView.recordSHA256
      fun v s => { s with recordSHA256 := v },
    enumField "phase" Phase.text Phase.ofText StateView.phase fun v s => { s with phase := v },
    structField "active" generationFields StateView.active fun v s => { s with active := v },
    pointerField "pending" generationFields zeroGeneration StateView.pending
      fun v s => { s with pending := v },
    sliceField "required_replicas" replicaRefFields zeroReplicaRef
      (fun s => some s.requiredReplicas) fun v s => { s with requiredReplicas := v.getD [] },
    sliceField "acknowledgements" acknowledgementFields zeroAcknowledgement
      StateView.acknowledgements fun v s => { s with acknowledgements := v },
    intField "prepare_deadline" StateView.prepareDeadline
      fun v s => { s with prepareDeadline := v },
    intField "drain_until" StateView.drainUntil fun v s => { s with drainUntil := v },
    intField "commit_deadline" StateView.commitDeadline
      fun v s => { s with commitDeadline := v },
    intField "updated_at" StateView.updatedAt fun v s => { s with updatedAt := v }]

/-- `stateView`. The copy of an empty slice of acknowledgements is nil. -/
def stateView (state : State) (digest : String) : StateView where
  schema := state.schema
  revision := state.revision
  recordSHA256 := digest
  phase := state.phase
  active := state.active
  pending := state.pending
  requiredReplicas := state.requiredReplicas
  acknowledgements := if state.acks = [] then none else some state.acks
  prepareDeadline := state.prepareDeadline
  drainUntil := state.drainUntil
  commitDeadline := state.commitDeadline
  updatedAt := state.updatedAt

/-- The body of a response. -/
def viewText (view : StateView) : List Char := render (encode viewFields view) ++ ['\n']

/-! ## Server -/

/-- `canonicalAPIResponse`. -/
def canonicalAPIResponse (principal nonce : String) (status : ℕ) (bodySHA256 : String) : List Char :=
  "xiaozhi-generation-response-v1\n".toList ++
    "principal=".toList ++ principal.toList ++ "\n".toList ++
    "request_nonce=".toList ++ nonce.toList ++ "\n".toList ++
    "status=".toList ++ formatNat status ++ "\n".toList ++
    "body_sha256=".toList ++ bodySHA256.toList ++ "\n".toList

/-- A response with the headers that the client reads. -/
structure Response where
  status : ℕ
  signature : String
  body : List Char

/-- The HMAC of a response for a principal. -/
def responseHMAC (principal : Principal) (nonce : String) (status : ℕ) (body : List Char) :
    List UInt8 :=
  (Sha256.hmac principal.key
    (utf8 (canonicalAPIResponse principal.id nonce status (digestText body)))).toList

/-- `Store.Snapshot`. -/
def snapshot (store : Store) : State × String := (cloneState store.state, store.digest)

/-- `writeSignedState`. -/
def writeSignedState (store : Store) (status : ℕ) (principal : Principal) (requestNonce : String) :
    Response :=
  let body := viewText (stateView (snapshot store).1 (snapshot store).2)
  ⟨status, String.ofList (Base64.encode (responseHMAC principal requestNonce status body)), body⟩

/-! ## Client -/

/-- The record that `validateStateView` builds from a view: the digest of its predecessor is not
shown, so any valid one stands in. -/
def viewedState (view : StateView) : State where
  schema := view.schema
  revision := view.revision
  previousRecordSHA256 := zeroDigest
  phase := view.phase
  active := view.active
  pending := view.pending
  requiredReplicas := view.requiredReplicas
  acknowledgements := view.acknowledgements
  prepareDeadline := view.prepareDeadline
  drainUntil := view.drainUntil
  commitDeadline := view.commitDeadline
  updatedAt := view.updatedAt
  recordHMACB64URL := ""

/-- `validateStateView`. -/
def validateStateView (view : StateView) : Except Error Unit := do
  failIf (view.schema ≠ 1 ∨ view.revision = 0 ∨ ¬ ValidSHA256 view.recordSHA256 ∨
      ¬ ValidGeneration view.active ∨ ¬ ValidReplicas view.requiredReplicas ∨
      view.updatedAt < minimumUnix ∨ maximumUnix < view.updatedAt)
    (.text "state view fields are invalid")
  validateState (viewedState view)

/-- The signature that the response carries must be canonical and match. -/
def checkSignature (principal : Principal) (nonce : String) (response : Response) :
    Except Error Unit :=
  match Base64.decode response.signature.toList with
  | none => .error (.text "generation coordinator response signature is invalid")
  | some signature => do
    failIf (signature.length ≠ 32 ∨ String.ofList (Base64.encode signature) ≠ response.signature)
      (.text "generation coordinator response signature is invalid")
    failIf (signature ≠ responseHMAC principal nonce response.status response.body)
      (.text "generation coordinator response signature is invalid")

/-- The view in a response body, decoded with unknown fields disallowed, canonical and valid. -/
def decodeView (body : List Char) : Except Error StateView :=
  match (parse body).bind (decode viewFields zeroView) with
  | none => .error (.text "generation coordinator state is invalid")
  | some view => do
    failIf (viewText view ≠ body ∨ validateStateView view ≠ .ok ())
      (.text "generation coordinator state is invalid")
    return view

/-- What `Client.call` does with the response to its request. -/
def receive (principal : Principal) (nonce : String) (response : Response) :
    Except Error StateView := do
  failIf (maximumAPIBytes < byteLength response.body)
    (.text "generation coordinator response is invalid")
  failIf (response.status = 409) errConflict
  failIf (response.status ≠ 200)
    (.text ("generation coordinator rejected request: status " ++ toString response.status))
  checkSignature principal nonce response
  decodeView response.body

/-! ## Responses are read back -/

variable {digest : String}

section RoundTrip

variable {state : State}

/-- The integers of a view fit their type. -/
structure StateView.Fits (view : StateView) : Prop where
  schema : FitsInt64 view.schema
  prepareDeadline : FitsInt64 view.prepareDeadline
  drainUntil : FitsInt64 view.drainUntil
  commitDeadline : FitsInt64 view.commitDeadline
  updatedAt : FitsInt64 view.updatedAt
  acks : ∀ ack ∈ view.acknowledgements.getD [], FitsInt64 ack.acknowledgedAt

theorem decode_view (h : view.Fits) :
    Json.decode viewFields zeroView (Json.encode viewFields view) = some view := by
  rw [decode_encode (by decide)]
  have hrevision : view.revision.toNat < 2 ^ 64 := view.revision.toNat_lt
  simp [viewFields, set_enumField _ Phase.ofText_text,
    set_uintField _ hrevision, set_intField _ h.schema,
    set_intField _ h.prepareDeadline, set_intField _ h.drainUntil,
    set_intField _ h.commitDeadline, set_intField _ h.updatedAt,
    set_structField _ (fun start => decode_generation start view.active),
    set_pointerField _ (fun target _ start => decode_generation start target),
    set_sliceField_arr _ (fun replica _ => decode_replicaRef _ replica),
    set_sliceField _ (fun ack hack => decode_acknowledgement _ (h.acks ack hack))]

theorem getD_acknowledgements_stateView (state : State) (digest : String) :
    (stateView state digest).acknowledgements.getD [] = state.acks := by grind [stateView]

theorem State.Fits.stateView (h : state.Fits) (digest : String) :
    (stateView state digest).Fits := by
  refine ⟨h.schema, h.prepareDeadline, h.drainUntil, h.commitDeadline, h.updatedAt, ?_⟩
  rw [getD_acknowledgements_stateView]
  exact h.acks

theorem valid_view (view : StateView) : (encode viewFields view).Valid := by
  apply valid_encode
  simp [viewFields, Json.Valid, valid_int, valid_nat, valid_generation,
    valid_pending, valid_replicas, valid_acks]

theorem parse_viewText (view : StateView) :
    parse (viewText view) = some (encode viewFields view) :=
  parse_render (valid_view view) (by simp [isSpace])

theorem PhaseShape.congr (h : PhaseShape state) (hphase : other.phase = state.phase)
    (hactive : other.active = state.active) (hpending : other.pending = state.pending) (hreplicas :
    other.requiredReplicas = state.requiredReplicas) (hacks : other.acks = state.acks) (hprepare :
    other.prepareDeadline = state.prepareDeadline) (hdrain : other.drainUntil = state.drainUntil)
    (hcommit : other.commitDeadline = state.commitDeadline) (hupdated : other.updatedAt =
    state.updatedAt) : PhaseShape other := by
  unfold PhaseShape StableShape PreparingShape DrainingShape CommittingShape ValidPending
    AckForPending allAcknowledged at h ⊢
  rwa [hphase, hactive, hpending, hreplicas, hacks, hprepare, hdrain, hcommit, hupdated]

theorem validateStateView_stateView (h : state.Valid)
    (hdigest : ValidSHA256 digest) : validateStateView (stateView state digest) = .ok () := by
  have hzero : ValidSHA256 zeroDigest := by decide +kernel
  have hacks : (viewedState (stateView state digest)).acks = state.acks :=
    getD_acknowledgements_stateView state digest
  rw [validateStateView, failIf_of_neg, ok_bind, validateState_eq_ok]
  · refine ⟨h.schema, h.revision, hzero, h.active, h.replicas, h.updatedAt_ge, h.updatedAt_le, ?_,
      h.replicas_sorted, ?_, ?_, ?_, h.shape.congr rfl rfl rfl rfl hacks rfl rfl rfl rfl⟩
    · exact fun hset => absurd rfl hset
    · rw [hacks]
      exact h.acks_sorted
    · rw [hacks]
      exact h.acks_nodup
    · rw [hacks]
      exact h.acks_valid
  · simp only [stateView, not_or, not_not, not_lt]
    exact ⟨h.schema, h.revision, hdigest, h.active, h.replicas, h.updatedAt_ge, h.updatedAt_le⟩

theorem decodeView_viewText (hvalid : state.Valid) (hfits : state.Fits)
    (hdigest : ValidSHA256 digest) :
    decodeView (viewText (stateView state digest)) = .ok (stateView state digest) := by
  simp only [decodeView, parse_viewText, Option.bind_some, decode_view (hfits.stateView digest)]
  rw [failIf_of_neg, ok_bind]
  · rfl
  · rw [validateStateView_stateView hvalid hdigest]
    simp

theorem checkSignature_responseHMAC (principal : Principal) (nonce : String) (status : ℕ) (body :
    List Char) : checkSignature principal nonce ⟨status, String.ofList (Base64.encode (responseHMAC
    principal nonce status body)), body⟩ = .ok () := by
  simp only [checkSignature, String.toList_ofList, Base64.decode_encode]
  rw [failIf_of_neg (by simp [responseHMAC]), ok_bind, failIf_of_neg (by simp)]

end RoundTrip

/-! ## The size of a response -/

/-- The number of decimal digits. -/
def digits (n : ℕ) : ℕ := (formatNat n).length

def generationSize (generation : Generation) : ℕ :=
  generation.id.toList.length + digits generation.sequence.toNat + 127

def replicaSize (replica : ReplicaRef) : ℕ :=
  replica.id.toList.length + replica.role.text.toList.length + 27

def ackSize (ack : Acknowledgement) : ℕ :=
  ack.replicaID.toList.length + ack.role.text.toList.length + ack.stage.text.toList.length +
    ack.generationID.toList.length + digits ack.acknowledgedAt.toNat + 160

/-- The size in bytes of the response that shows a record. Only the identifiers, the numbers and
the lists make it vary. -/
def responseSize (state : State) : ℕ :=
  251 + digits state.revision.toNat + state.phase.text.toList.length +
    generationSize state.active + (state.pending.map generationSize).getD 4 +
    (state.requiredReplicas.map fun replica => replicaSize replica + 1).sum +
    (if state.acks = [] then 3 else (state.acks.map fun ack => ackSize ack + 1).sum) +
    digits state.prepareDeadline.toNat + digits state.drainUntil.toNat +
    digits state.commitDeadline.toNat + digits state.updatedAt.toNat

section Size

variable {state : State}

theorem byteLength_pending (h : state.Valid) : byteLength (render ((state.pending.map
    (encode generationFields)).getD .null)) = (state.pending.map generationSize).getD 4 := by
  cases hpending : state.pending with
  | none => decide
  | some pending => exact byteLength_generation (h.pending pending hpending)

theorem byteLength_replicas (h : ValidReplicas state.requiredReplicas) : byteLength (render
    (arr (state.requiredReplicas.map (encode replicaRefFields)))) = 1 +
    (state.requiredReplicas.map fun replica => replicaSize replica + 1).sum := by
  have hne : state.requiredReplicas ≠ [] := by
    intro hnil
    have := h.1
    rw [hnil] at this
    exact absurd this (by decide)
  rw [byteLength_arr, if_neg (by simpa using hne), List.map_map]
  congr 2
  refine List.map_congr_left fun replica hreplica => ?_
  exact congrArg (· + 1) (byteLength_replicaRef (h.2.2.1 replica hreplica).1)

theorem byteLength_acks (h : state.Valid) :
    byteLength (Json.render (((if state.acks = [] then none else some state.acks).map
      fun items => Json.arr (items.map (Json.encode acknowledgementFields))).getD .null)) =
        1 + if state.acks = [] then 3 else (state.acks.map fun ack => ackSize ack + 1).sum := by
  by_cases hnil : state.acks = []
  · rw [if_pos hnil, if_pos hnil]
    decide
  · rw [if_neg hnil, if_neg hnil, Option.map_some, Option.getD_some, byteLength_arr,
      if_neg (by simpa using hnil), List.map_map]
    congr 2
    refine List.map_congr_left fun ack hack => ?_
    exact congrArg (· + 1) (byteLength_acknowledgement h.replicas (h.acks_valid ack hack))

theorem byteLength_viewText (h : state.Sound) (hdigest : ValidSHA256 digest) :
    byteLength (viewText (stateView state digest)) = responseSize state := by
  have hfixed : overhead viewFields = 179 := by decide
  have hschema : byteLength (render (int 1)) = 1 := by decide
  obtain ⟨hprepare, hdrain, hcommit⟩ := h.deadlines_nonneg
  have hupdated : 0 ≤ state.updatedAt := le_trans (by decide) h.valid.updatedAt_ge
  rw [viewText, byteLength_append, byteLength_encode (by decide), hfixed]
  simp only [viewFields, stateView, List.map_cons, List.map_nil, List.sum_cons, List.sum_nil,
    stringField_get, enumField_get, intField_get, uintField_get,
    structField_get, pointerField_get, sliceField_get, Option.map_some,
    Option.getD_some, h.valid.schema, hschema, byteLength_nat, byteLength_text hdigest.isPlain,
    hdigest.length, byteLength_text state.phase.isPlain, byteLength_generation h.valid.active,
    byteLength_pending h.valid, byteLength_replicas h.valid.replicas, byteLength_acks h.valid,
    byteLength_int_of_nonneg hprepare, byteLength_int_of_nonneg hdrain,
    byteLength_int_of_nonneg hcommit, byteLength_int_of_nonneg hupdated, byteLength_cons,
    byteLength_nil, utf8Size_of_lt (c := '\n') (by decide)]
  unfold responseSize generationSize digits
  omega

theorem digits_le {n k : ℕ} (hk : 0 < k) (h : n < 10 ^ k) : digits n ≤ k := length_formatNat_le hk h

theorem generationSize_le {generation : Generation} (h : ValidGeneration generation) :
    generationSize generation ≤ 201 :=
  (byteLength_generation h).ge.trans (byteLength_generation_le h)

theorem replicaSize_le (h : state.Valid) {replica : ReplicaRef}
    (hreplica : replica ∈ state.requiredReplicas) : replicaSize replica ≤ 105 := by
  have hid := (h.replicas.2.2.1 replica hreplica).1.length_le
  have hrole := replica.role.length_text_le
  unfold replicaSize
  omega

theorem ackSize_le (h : state.Valid) {ack : Acknowledgement} (hack : ack ∈ state.acks) :
    ackSize ack ≤ 320 := by
  obtain ⟨hmem, hgeneration, -, -, htime⟩ := h.acks_valid ack hack
  have hid : ack.replicaID.toList.length ≤ 64 := (h.replicas.2.2.1 _ hmem).1.length_le
  have hgenerationID := hgeneration.length_le
  have hrole := ack.role.length_text_le
  have hstage := ack.stage.length_text_le
  have hupdated := h.updatedAt_le
  unfold maximumUnix at hupdated
  have hdigits : digits ack.acknowledgedAt.toNat ≤ 10 := digits_le (by decide) (by omega)
  unfold ackSize
  omega

theorem sum_map_add_one_le {α : Type} {f : α → ℕ} {items : List α} {bound : ℕ} (h : ∀ item ∈ items,
    f item ≤ bound) : (items.map fun item => f item + 1).sum ≤ items.length * (bound + 1) := by
  have hsum := List.sum_le_card_nsmul (items.map fun item => f item + 1) (bound + 1)
    (by simpa using h)
  rwa [List.length_map, smul_eq_mul] at hsum

theorem responseSize_le (h : state.Sound) (hcount : state.requiredReplicas.length ≤ 36) :
    responseSize state ≤ maximumAPIBytes := by
  have hrevision : digits state.revision.toNat ≤ 20 :=
    digits_le (by decide) (by have := state.revision.toNat_lt; omega)
  have hphase := state.phase.length_text_le
  have hactive := generationSize_le h.valid.active
  have hpending : (state.pending.map generationSize).getD 4 ≤ 201 := by
    cases hpending : state.pending with
    | none => decide
    | some pending => exact generationSize_le (h.valid.pending pending hpending)
  have hreplicas := sum_map_add_one_le fun replica hreplica => replicaSize_le h.valid hreplica
  have hacks := sum_map_add_one_le fun ack hack => ackSize_le h.valid hack
  have hlength := h.valid.length_acks_le
  have hdeadlines := h.deadlines_nonneg
  have hprepareLe := h.prepareDeadline_le
  have hcommitLe := h.commitDeadline_le
  have hdrainLe := h.drainUntil_le
  have hupdatedLe := h.valid.updatedAt_le
  unfold maximumUnix at hprepareLe hcommitLe hdrainLe hupdatedLe
  have hprepare : digits state.prepareDeadline.toNat ≤ 10 := digits_le (by decide) (by omega)
  have hdrain : digits state.drainUntil.toNat ≤ 10 := digits_le (by decide) (by omega)
  have hcommit : digits state.commitDeadline.toNat ≤ 10 := digits_le (by decide) (by omega)
  have hupdated : digits state.updatedAt.toNat ≤ 10 := digits_le (by decide) (by omega)
  have hlist : (if state.acks = [] then 3 else (state.acks.map fun ack => ackSize ack + 1).sum) ≤
      3 + state.acks.length * (320 + 1) := by
    split <;> omega
  unfold responseSize maximumAPIBytes
  omega

end Size

section Accepted

variable {key : List UInt8} {store : Store} {history : List State}

theorem acknowledgements_cloneState (value : State) :
    stateView (cloneState value) = stateView value := by
  funext digest
  simp only [stateView, acks_cloneState]
  rfl

/-- Of the checks of the client only the size limit can fail. -/
theorem receive_writeSignedState (hrun : Running key store history) (principal : Principal)
    (nonce : String) :
    receive principal nonce (writeSignedState store 200 principal nonce) =
      if maximumAPIBytes < byteLength (viewText (stateView store.state store.digest)) then
        .error (.text "generation coordinator response is invalid")
      else .ok (stateView store.state store.digest) := by
  have hdigest : ValidSHA256 store.digest := by
    rw [hrun.digest]
    exact validSHA256_digestText _
  have hview := decodeView_viewText hrun.sound.valid hrun.sound.fits hdigest
  simp only [receive, writeSignedState, snapshot, acknowledgements_cloneState,
    checkSignature_responseHMAC, hview, ok_bind]
  split
  case isTrue hlarge => rw [failIf_of_pos hlarge, error_bind]
  case isFalse hsmall => grind [failIf_of_neg, ok_bind]

theorem receive_eq_ok_iff (hrun : Running key store history) (principal : Principal) (nonce :
    String) : receive principal nonce (writeSignedState store 200 principal nonce) = .ok (stateView
    store.state store.digest) ↔ responseSize store.state ≤ maximumAPIBytes := by
  have hdigest : ValidSHA256 store.digest := by
    rw [hrun.digest]
    exact validSHA256_digestText _
  rw [receive_writeSignedState hrun, byteLength_viewText hrun.sound hdigest]
  by_cases hlarge : maximumAPIBytes < responseSize store.state
  · grind
  · grind

/-- For every reachable coordinator and every principal: the client accepts the response exactly
when it fits into the size limit, and it always fits when there are at most 36 replicas. -/
theorem response_accepted_iff {machine : Machine} (hreach : Reachable key machine)
    (hstore : machine.store = some store) (principal : Principal) (nonce : String) :
    (receive principal nonce (writeSignedState store 200 principal nonce) =
      .ok (stateView store.state store.digest) ↔ responseSize store.state ≤ maximumAPIBytes) ∧
    (store.state.requiredReplicas.length ≤ 36 → responseSize store.state ≤ maximumAPIBytes) := by
  obtain ⟨history, hhas⟩ := reachable_has hreach
  have hrun := (hhas.up store hstore).toRunning
  exact ⟨receive_eq_ok_iff hrun principal nonce, responseSize_le hrun.sound⟩

end Accepted

/-! ## A registry that is too large -/

/-- Identifiers of the largest length: `i` times the letter a, then the letter b. -/
def longID (i : ℕ) : String := String.ofList (List.replicate i 'a' ++ List.replicate (64 - i) 'b')

/-- A registry of the largest size with identifiers of the largest length. -/
def longReplicas : List ReplicaRef :=
  (List.range 64).map fun i => ⟨longID i, if i = 0 then .controlplane else .firmwareorigin⟩

theorem toList_longID (i : ℕ) :
    (longID i).toList = List.replicate i 'a' ++ List.replicate (64 - i) 'b' := String.toList_ofList

theorem length_longID (h : i < 64) : (longID i).toList.length = 64 := by
  rw [toList_longID, List.length_append, List.length_replicate, List.length_replicate]
  omega

theorem longID_injective : Function.Injective longID := by
  intro i j hij
  have hcount := congrArg (fun id => id.toList.count 'a') hij
  simpa [toList_longID, List.count_append, List.count_replicate] using hcount

theorem validIdentifier_longID (h : i < 64) : ValidIdentifier (longID i) 64 := by
  have hchars : ∀ c ∈ (longID i).toList, c = 'a' ∨ c = 'b' := by
    grind [toList_longID]
  refine ⟨fun hempty => ?_, ?_, fun c hc => ?_⟩
  · have hlength := length_longID h
    rw [hempty] at hlength
    exact absurd hlength (by decide)
  · rw [byteLength_of_ascii, length_longID h]
    intro c hc
    rcases hchars c hc with rfl | rfl <;> decide
  · rcases hchars c hc with rfl | rfl <;> decide

theorem mem_longReplicas (h : replica ∈ longReplicas) :
    ValidIdentifier replica.id 64 ∧ replica.id.toList.length = 64 ∧
      (replica.role = .controlplane ∨ replica.role = .firmwareorigin) := by
  obtain ⟨i, hi, rfl⟩ := List.mem_map.mp h
  rw [List.mem_range] at hi
  refine ⟨validIdentifier_longID hi, length_longID hi, ?_⟩
  dsimp only
  split
  · exact .inl rfl
  · exact .inr rfl

theorem validReplicas_long : ValidReplicas longReplicas := by
  refine ⟨by decide, by decide, fun replica h => ?_, ?_, ?_, ?_⟩
  · exact ⟨(mem_longReplicas h).1, (mem_longReplicas h).2.2⟩
  · rw [longReplicas, List.map_map]
    exact List.nodup_range.map longID_injective
  · exact ⟨_, List.mem_map.mpr ⟨0, by decide, rfl⟩, rfl⟩
  · exact ⟨_, List.mem_map.mpr ⟨1, by decide, rfl⟩, rfl⟩

theorem le_sum_map_add_one {α : Type} {f : α → ℕ} {items : List α} {bound : ℕ} (h : ∀ item ∈ items,
    bound ≤ f item) : items.length * (bound + 1) ≤ (items.map fun item => f item + 1).sum := by
  have hsum := List.card_nsmul_le_sum (items.map fun item => f item + 1) (bound + 1)
    (by simpa using h)
  rwa [List.length_map, smul_eq_mul] at hsum

theorem responseSize_long {state : State} (h : state.Valid) (hrequired : state.requiredReplicas =
    sortReplicas longReplicas) (hlength : state.acks.length = state.requiredReplicas.length) :
    maximumAPIBytes < responseSize state := by
  have hcount : state.requiredReplicas.length = 64 := by
    rw [hrequired, sortReplicas, List.length_insertionSort]
    decide
  have hid : ∀ replica ∈ state.requiredReplicas, replica.id.toList.length = 64 := by
    intro replica hreplica
    rw [hrequired] at hreplica
    exact (mem_longReplicas ((List.mem_insertionSort _).mp hreplica)).2.1
  have hreplicas : state.requiredReplicas.length * (91 + 1) ≤
      (state.requiredReplicas.map fun replica => replicaSize replica + 1).sum := by
    refine le_sum_map_add_one fun replica hreplica => ?_
    have := hid replica hreplica
    unfold replicaSize
    omega
  have hacks : state.acks.length * (224 + 1) ≤
      (state.acks.map fun ack => ackSize ack + 1).sum := by
    refine le_sum_map_add_one fun ack hack => ?_
    have hlong : ack.replicaID.toList.length = 64 := hid ack.replica (h.replica_mem hack)
    unfold ackSize
    omega
  have hne : state.acks ≠ [] := by grind
  unfold responseSize maximumAPIBytes
  rw [if_neg hne]
  omega

/-- The largest registry in the phase COMMITTING: no replica can read the state any more. -/
theorem large_response_refused : ∃ machine store, Reachable exampleKey machine ∧
    machine.store = some store ∧ store.state.phase = .committing ∧
    ∀ (principal : Principal) (nonce : String),
      receive principal nonce (writeSignedState store 200 principal nonce) =
        .error (.text "generation coordinator response is invalid") := by
  have hvalid : ValidBootstrap exampleKey exampleInitial longReplicas exampleNow :=
    ⟨example_bootstrap.key_length, example_bootstrap.initial, validReplicas_long,
      example_bootstrap.time⟩
  have hpending : ValidGeneration examplePending := by decide +kernel
  have hwindow : 30 * second ≤ 30 * second ∧ 30 * second ≤ 86400 * second := by decide
  obtain ⟨store, hserves, hcommits⟩ :=
    exists_committing hvalid hpending (by decide) (by decide) hwindow (by decide)
  obtain ⟨history, hrun⟩ := hserves.running
  obtain ⟨machine, hreach, hstore⟩ := hserves
  have hdigest : ValidSHA256 store.digest := by
    rw [hrun.digest]
    exact validSHA256_digestText _
  have hlength := ((allAcknowledged_iff _ _).mp hcommits.prepared).length_eq.symm
  have hlarge := responseSize_long hrun.sound.valid hcommits.required hlength
  refine ⟨machine, store, hreach, hstore, hcommits.phase, fun principal nonce => ?_⟩
  rw [receive_writeSignedState hrun, byteLength_viewText hrun.sound hdigest, if_pos hlarge]

/-- The small installation in the phase COMMITTING is readable by its first replica. -/
theorem response_accepted_committing : ∃ machine store, Reachable exampleKey machine ∧
    machine.store = some store ∧ store.state.phase = .committing ∧
    receive ⟨"cp-1", .controlplane, exampleKey⟩ "nonce"
      (writeSignedState store 200 ⟨"cp-1", .controlplane, exampleKey⟩ "nonce") =
        .ok (stateView store.state store.digest) := by
  obtain ⟨store, ⟨machine, hreach, hstore⟩, hcommits⟩ := example_commits
  obtain ⟨haccepted, hsmall⟩ :=
    response_accepted_iff hreach hstore ⟨"cp-1", .controlplane, exampleKey⟩ "nonce"
  refine ⟨machine, store, hreach, hstore, hcommits.phase, haccepted.mpr (hsmall ?_)⟩
  rw [hcommits.required]
  decide

end XiaozhiPlatform.Generation
