import XiaozhiPlatform.Generation.Acknowledgements

/-!
# Histories of records

A history is the list of the records that a coordinator has committed, the newest first.
`Chain key history` says that it starts with a stable record of revision one and that every
record is signed, valid, and an accepted successor of the one before it. These are the histories
that `loadLocked` accepts, and those that the operations build.

`Move store now next` lists the records that an operation may commit from a store, with all the
conditions that it has checked by then; `Move.sound` says that what is committed this way keeps
the invariants of a record.
-/

namespace XiaozhiPlatform.Generation

open GoLib Auth

/-! ## Sound records -/

/-- A valid record whose deadlines come from the coordinator's own clock and limits. -/
structure State.Sound (state : State) : Prop where
  valid : state.Valid
  prepareDeadline_le : state.prepareDeadline ≤ maximumUnix + 86400
  commitDeadline_le : state.commitDeadline ≤ maximumUnix + 86400
  /-- Until the drain is over the field holds the timeout that the publication asked for. -/
  window : state.phase = .draining → state.commitDeadline ≤ 86400
  /-- The checks of a draining record do not look at what its acknowledgements name. -/
  drain_acks : state.phase = .draining → ∀ ack ∈ state.acks, AckForPending state ack

namespace State.Sound

variable {state : State} {key : List UInt8}

theorem deadlines_nonneg (h : state.Sound) :
    0 ≤ state.prepareDeadline ∧ 0 ≤ state.drainUntil ∧ 0 ≤ state.commitDeadline := by
  have hshape := h.valid.shape
  have hupdated := h.valid.updatedAt_ge
  unfold minimumUnix at hupdated
  unfold PhaseShape at hshape
  cases hphase : state.phase with
  | stable =>
    rw [hphase] at hshape
    obtain ⟨-, -, hprepare, hdrain, hcommit⟩ := hshape
    omega
  | preparing | committing =>
    rw [hphase] at hshape
    obtain ⟨⟨-, hprepare, hdrain, hcommit, -⟩, -⟩ := hshape
    omega
  | draining =>
    rw [hphase] at hshape
    obtain ⟨-, hprepare, hdrain, hcommit, -⟩ := hshape
    omega

theorem drainUntil_le (h : state.Sound) : state.drainUntil ≤ maximumUnix + 10 := by
  have hshape := h.valid.shape
  have hupdated := h.valid.updatedAt_le
  unfold maximumUnix at hupdated ⊢
  unfold PhaseShape at hshape
  cases hphase : state.phase with
  | stable =>
    rw [hphase] at hshape
    have := hshape.2.2.2.1
    omega
  | preparing | committing =>
    rw [hphase] at hshape
    have := hshape.1.2.2.1
    omega
  | draining =>
    rw [hphase] at hshape
    have := hshape.2.2.1
    omega

theorem fits (h : state.Sound) : state.Fits := by
  have hnonneg := h.deadlines_nonneg
  have hprepare := h.prepareDeadline_le
  have hcommit := h.commitDeadline_le
  have hdrain := h.drainUntil_le
  have hlow := h.valid.updatedAt_ge
  have hhigh := h.valid.updatedAt_le
  unfold minimumUnix at hlow
  unfold maximumUnix at hprepare hcommit hdrain hhigh
  refine ⟨?_, ?_, ?_, ?_, ?_, ?_⟩
  · rw [h.valid.schema]
    exact ⟨by decide, by decide⟩
  · exact ⟨by omega, by omega⟩
  · exact ⟨by omega, by omega⟩
  · exact ⟨by omega, by omega⟩
  · exact ⟨by omega, by omega⟩
  · intro ack hack
    obtain ⟨-, -, -, hfrom, hto⟩ := h.valid.acks_valid ack hack
    unfold minimumUnix at hfrom
    exact ⟨by omega, by omega⟩

theorem sign (h : state.Sound) : (sign key state).Sound :=
  { h with valid := h.valid.sign }

end State.Sound

/-! ## Chains -/

/-- The digest that the successor of a record carries. -/
def recordDigest (record : State) : String := digestText (payload record)

/-- A history that `loadLocked` accepts, the newest record first. -/
inductive Chain (key : List UInt8) : List State → Prop
  | genesis {state : State} (hsound : state.Sound) (hrevision : state.revision = 1)
      (hprevious : state.previousRecordSHA256 = zeroDigest) (hphase : state.phase = .stable) :
      Chain key [sign key state]
  | extend {prior state : State} {older : List State} (hchain : Chain key (prior :: older))
      (hsound : state.Sound)
      (htransition : validateTransition prior state (recordDigest prior) = .ok ()) :
      Chain key (sign key state :: prior :: older)

namespace Chain

variable {key : List UInt8} {record : State} {history older : List State}

/-- Every record of a chain is a signed sound record. -/
theorem signed (h : Chain key history) :
    ∀ record ∈ history, ∃ state : State, state.Sound ∧ record = sign key state := by
  induction h with
  | genesis | extend => grind

section

variable (h : Chain key history) (hmem : record ∈ history)

include h hmem

theorem sound : record.Sound := by
  obtain ⟨state, hsound, rfl⟩ := h.signed record hmem
  exact hsound.sign

theorem decode_payload : decodeCanonicalState (payload record) key = .ok record := by
  obtain ⟨state, hsound, rfl⟩ := h.signed record hmem
  exact decodeCanonicalState_payload hsound.valid hsound.fits

theorem byteLength_payload_le : byteLength (payload record) ≤ maximumStateBytes := by
  obtain ⟨state, hsound, rfl⟩ := h.signed record hmem
  exact Generation.byteLength_payload_le hsound.valid hsound.fits

end

theorem toNat_succ {prior next : UInt64} (hnext : next = prior + 1) (hzero : next ≠ 0) :
    next.toNat = prior.toNat + 1 := by
  have hlt := prior.toNat_lt
  have htoNat : next.toNat = (prior.toNat + 1) % 2 ^ 64 := by
    rw [hnext, UInt64.toNat_add]
    rfl
  have hne : next.toNat ≠ 0 := fun h => hzero (UInt64.toNat_inj.mp h)
  omega

theorem revision_eq (h : Chain key (record :: older)) :
    record.revision.toNat = older.length + 1 := by
  generalize hhistory : record :: older = history at h
  induction h generalizing record older with
  | genesis _ hrevision =>
    cases hhistory
    rw [revision_sign, hrevision]
    rfl
  | @extend prior state _ _ hsound htransition ih =>
    cases hhistory
    have hmeta := ((validateTransition_eq_ok _ _ _).mp htransition).1
    have hprior := ih rfl
    have hnext := toNat_succ hmeta.1 hsound.valid.revision
    rw [revision_sign, hnext, hprior, List.length_cons]

theorem revision_le (h : Chain key history) :
    ∀ record ∈ history, 0 < record.revision.toNat ∧ record.revision.toNat ≤ history.length := by
  induction h with
  | @genesis state hsound hrevision =>
    intro record hrecord
    rw [List.mem_singleton.mp hrecord, revision_sign, hrevision]
    simp
  | @extend prior state older hchain hsound htransition ih =>
    intro record hrecord
    rcases List.mem_cons.mp hrecord with rfl | hrecord
    · rw [(extend hchain hsound htransition).revision_eq]
      simp
    · grind

theorem nodup_revisions (h : Chain key history) : (history.map State.revision).Nodup := by
  induction h with
  | genesis => simp
  | extend hchain hsound htransition ih =>
    rw [List.map_cons, List.nodup_cons]
    refine ⟨fun hmem => ?_, ih⟩
    obtain ⟨old, hold, heq⟩ := List.mem_map.mp hmem
    have hnew := (extend hchain hsound htransition).revision_eq
    have hle := (hchain.revision_le old hold).2
    rw [← heq] at hnew
    omega

theorem ne_nil (h : Chain key history) : history ≠ [] := by
  cases h <;> simp

section

variable {next prior : State} (h : Chain key (next :: prior :: older))

include h

theorem follows : Follows prior next ∧
    prior.requiredReplicas = next.requiredReplicas ∧ prior.updatedAt ≤ next.updatedAt := by
  cases h with
  | extend _ _ htransition =>
    have hpair := (validateTransition_eq_ok _ _ _).mp htransition
    exact ⟨hpair.2, hpair.1.2.2.2, hpair.1.2.2.1⟩

theorem prior_chain : Chain key (prior :: older) := by
  cases h with
  | extend hchain => exact hchain

end

theorem tail (h : Chain key (newer ++ history)) (hne : history ≠ []) : Chain key history := by
  induction newer with
  | nil => exact h
  | cons next newer ih =>
    apply ih
    rw [List.cons_append] at h
    generalize hrest : newer ++ history = rest at h
    cases h with
    | genesis => grind [List.append_eq_nil_iff]
    | extend hchain => exact hchain

end Chain

/-! ## What an operation may commit -/

/-- The record `next` is one that an operation at the time `now` commits from the store. -/
inductive Move (store : Store) (now : Time) : State → Prop
  | publish {pending : Generation} {prepareTimeout commitTimeout : ℤ}
      (hphase : store.state.phase = .stable) (hnow : ValidTime now)
      (hpending : ValidGeneration pending)
      (hsequence : pending.sequence = store.state.active.sequence + 1)
      (hid : pending.id ≠ store.state.active.id)
      (hprepare : 30 * second ≤ prepareTimeout ∧ prepareTimeout ≤ 86400 * second)
      (hcommit : 30 * second ≤ commitTimeout ∧ commitTimeout ≤ 86400 * second) :
      Move store now (preparingRecord store pending prepareTimeout commitTimeout now)
  | retreat (hphase : store.state.phase = .preparing) :
      Move store now (makeStable (nextLocked store now))
  | prepare {replica : ReplicaRef} {generation : Generation} {acks : List Acknowledgement}
      (hphase : store.state.phase = .preparing) (hnow : ValidTime now)
      (hreplica : replica ∈ store.state.requiredReplicas)
      (hpending : store.state.pending = some generation)
      (hdeadline : unix now ≤ store.state.prepareDeadline)
      (hacks : withAck store.state.acks replica generation .prepared (unix now) = some acks) :
      Move store now (ackRecord store acks now)
  | drain {replica : ReplicaRef} {generation : Generation} {acks : List Acknowledgement}
      (hphase : store.state.phase = .preparing) (hnow : ValidTime now)
      (hreplica : replica ∈ store.state.requiredReplicas)
      (hpending : store.state.pending = some generation)
      (hdeadline : unix now ≤ store.state.prepareDeadline)
      (hacks : withAck store.state.acks replica generation .prepared (unix now) = some acks)
      (hstarted : store.drainStarted = now) :
      Move store now (drainRecord store acks now)
  | flip (hphase : store.state.phase = .draining) (hnow : ValidTime now)
      (huntil : store.state.drainUntil ≤ unix now)
      (hdrained : drainDuration ≤ now - store.drainStarted) :
      Move store now (flipRecord store now)
  | activate {replica : ReplicaRef} {acks : List Acknowledgement}
      (hphase : store.state.phase = .committing) (hnow : ValidTime now)
      (hreplica : replica ∈ store.state.requiredReplicas)
      (hpending : store.state.pending = some store.state.active)
      (hstage : ackStage store.state.acks replica.id = some .prepared)
      (hacks : withAck store.state.acks replica store.state.active .active (unix now) = some acks) :
      Move store now (ackRecord store acks now)
  | converge (hphase : store.state.phase = .committing)
      (hall : allAcknowledged store.state .active = true) :
      Move store now (makeStable (nextLocked store now))

theorem unix_add_le (h : duration ≤ 86400 * second) : unix (now + duration) ≤ unix now + 86400 := by
  unfold unix second at *
  omega

/-- A committed record keeps the invariants of its predecessor. -/
theorem Move.sound (h : Move store now next)
    (hsound : store.state.Sound) (hvalid : next.Valid) : next.Sound := by
  have hprepareMax := hsound.prepareDeadline_le
  have hcommitMax := hsound.commitDeadline_le
  have hzero : (0 : ℤ) ≤ maximumUnix + 86400 := by decide
  cases h with
  | @publish _ prepareTimeout commitTimeout _ hnow _ _ _ hprepare hcommit =>
    refine ⟨hvalid, ?_, ?_, by rintro ⟨⟩, by rintro ⟨⟩⟩
    · exact (unix_add_le hprepare.2).trans (by have := hnow.2; omega)
    · have : commitTimeout / second ≤ 86400 := by
        have := hcommit.2
        unfold second at *
        omega
      change commitTimeout / second ≤ _
      unfold maximumUnix
      omega
  | retreat | converge =>
    exact ⟨hvalid, hzero, hzero, by rintro ⟨⟩, by rintro ⟨⟩⟩
  | prepare hphase | activate hphase =>
    have hnot : store.state.phase ≠ .draining := by simp [hphase]
    exact ⟨hvalid, hprepareMax, hcommitMax, fun h => absurd h hnot, fun h => absurd h hnot⟩
  | drain hphase _ _ hpending _ hacks =>
    have hshape := hsound.valid.shape
    rw [PhaseShape, hphase] at hshape
    refine ⟨hvalid, hzero, hcommitMax, fun _ => hshape.1.2.2.2.2, fun _ ack hack => ?_⟩
    refine ackForPending_of_mem_withAck hpending (fun old hold => ?_) hacks hack rfl
    exact (hshape.2 old hold).2
  | flip hphase hnow =>
    refine ⟨hvalid, hprepareMax, ?_, by rintro ⟨⟩, by rintro ⟨⟩⟩
    have hwindow := hsound.window hphase
    have hbound : store.state.commitDeadline * second ≤ 86400 * second := by
      unfold second
      omega
    exact (unix_add_le hbound).trans (by have := hnow.2; omega)

/-! ## Running coordinators -/

/-- The store in memory belongs to the newest record of the history. -/
structure Running (key : List UInt8) (store : Store) (history : List State) : Prop where
  chain : Chain key history
  newest : history.head? = some store.state
  key_eq : store.key = key
  digest : store.digest = recordDigest store.state

namespace Running

variable {key : List UInt8} {store : Store} {history : List State} {now : Time} {next : State}

theorem mem (h : Running key store history) : store.state ∈ history :=
  List.mem_of_head? h.newest

theorem sound (h : Running key store history) : store.state.Sound := h.chain.sound h.mem

section

variable (h : Running key store history) (hmove : Move store now next)
  (hcheck : checkCommit store next = .ok ())

include h hmove hcheck

theorem extend : Chain key (sign key next :: history) := by
  obtain ⟨older, rfl⟩ : ∃ older, history = store.state :: older := by
    obtain ⟨head, older, rfl⟩ := List.exists_cons_of_ne_nil h.chain.ne_nil
    exact ⟨older, by rw [Option.some.inj h.newest]⟩
  simp only [checkCommit, bind_eq_ok] at hcheck
  obtain ⟨⟨⟩, hvalid, htransition⟩ := hcheck
  rw [if_pos h.sound.valid.revision, h.digest] at htransition
  exact .extend h.chain (hmove.sound h.sound ((validateState_eq_ok next).mp hvalid)) htransition

theorem commit : Running key (store.committed next) (sign key next :: history) := by
  obtain rfl := h.key_eq
  exact ⟨h.extend hmove hcheck, rfl, rfl, rfl⟩

theorem revision_ne : ∀ old ∈ history, old.revision ≠ next.revision := by
  intro old hold heq
  have hnodup := (h.extend hmove hcheck).nodup_revisions
  rw [List.map_cons, List.nodup_cons, revision_sign] at hnodup
  exact hnodup.1 (List.mem_map.mpr ⟨old, hold, heq⟩)

end

end Running

end XiaozhiPlatform.Generation
