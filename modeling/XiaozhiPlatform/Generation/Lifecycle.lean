import XiaozhiPlatform.Generation.Machine

/-!
# The life of a generation

Which records pass the checks of `commitLocked`, for each of the operations, and the run that
takes a new store through a publication:

- `publish_enabled`, `prepare_enabled`, `drain_enabled`, `flip_enabled`, `activate_enabled_iff`,
  `converge_enabled`: the record that the operation builds is accepted. For `activate` the
  condition is exact.
- `exists_committing`: every coordinator can be brought from its first record to the phase
  COMMITTING of a valid publication.
-/

namespace XiaozhiPlatform.Generation

open GoLib Auth

/-! ## Records that pass the checks -/

/-- The clock and the revision counter allow another record. -/
structure Store.Ready (store : Store) (now : Time) : Prop where
  time : ValidTime now
  later : store.state.updatedAt ≤ unix now
  room : store.state.revision.toNat + 1 < 2 ^ 64

/-- A record with the book-keeping fields of `nextLocked`. -/
structure Proceeds (store : Store) (now : Time) (next : State) : Prop where
  schema : next.schema = store.state.schema
  revision : next.revision = store.state.revision + 1
  previous : next.previousRecordSHA256 = store.digest
  replicas : next.requiredReplicas = store.state.requiredReplicas
  updatedAt : next.updatedAt = unix now
  hmac : next.recordHMACB64URL = ""

/-- What `validateState` demands of the acknowledgements in every phase. -/
structure CanonicalAcks (state : State) : Prop where
  sorted : state.acks.IsChain fun left right => ¬ right.replicaID < left.replicaID
  nodup : (state.acks.map Acknowledgement.replicaID).Nodup
  valid : ∀ ack ∈ state.acks, AckValid state ack

section Checks

variable {key : List UInt8} {store : Store} {history : List State} {now : Time}
  {prior next : State}

theorem toNat_add_one {revision : UInt64} (h : revision.toNat + 1 < 2 ^ 64) :
    (revision + 1).toNat = revision.toNat + 1 := by
  rw [UInt64.toNat_add]
  exact Nat.mod_eq_of_lt h

theorem canonicalAcks_of_nil (h : next.acks = []) : CanonicalAcks next := by
  constructor <;> simp [h]

theorem AckValid.later {ack : Acknowledgement} (h : AckValid prior ack)
    (hreplicas : next.requiredReplicas = prior.requiredReplicas)
    (hupdated : prior.updatedAt ≤ next.updatedAt) : AckValid next ack := by
  obtain ⟨hmem, hid, hreceipt, hfrom, hto⟩ := h
  exact ⟨hreplicas ▸ hmem, hid, hreceipt, hfrom, hto.trans hupdated⟩

theorem State.Valid.canonicalAcks (h : prior.Valid) (hacks : next.acks = prior.acks)
    (hreplicas : next.requiredReplicas = prior.requiredReplicas)
    (hupdated : prior.updatedAt ≤ next.updatedAt) : CanonicalAcks next := by
  refine ⟨hacks ▸ h.acks_sorted, hacks ▸ h.acks_nodup, fun ack hack => ?_⟩
  exact (h.acks_valid ack (hacks ▸ hack)).later hreplicas hupdated

theorem Renews.canonicalAcks (hrenews : Renews prior.acks next.acks old fresh rest)
    (h : prior.Valid)
    (hreplicas : next.requiredReplicas = prior.requiredReplicas) (hupdated : prior.updatedAt ≤
    next.updatedAt) (hfresh : AckValid next fresh) : CanonicalAcks next := by
  refine ⟨hrenews.sorted, hrenews.nodup h.acks_nodup, fun ack hack => ?_⟩
  rcases hrenews.mem_next.mp hack with rfl | hrest
  · exact hfresh
  · exact (h.acks_valid ack (hrenews.mem_of_rest hrest)).later hreplicas hupdated

theorem valid_of_checkCommit (h : checkCommit store next = .ok ()) : next.Valid := by
  grind [checkCommit, bind_eq_ok, validateState_eq_ok]

theorem checkCommit_eq_ok (hrun : Running key store history) (hready : store.Ready now) (hnext :
    Proceeds store now next) (hactive : ValidGeneration next.active) (hacks : CanonicalAcks next)
    (hfollows : Follows store.state next) : checkCommit store next = .ok () ↔ PhaseShape next := by
  have hvalid := hrun.sound.valid
  have hrevision : next.revision ≠ 0 := by
    intro hzero
    have htoNat := toNat_add_one hready.room
    rw [← hnext.revision, hzero] at htoNat
    exact absurd htoNat (by simp)
  have htransition : validateTransition store.state next store.digest = .ok () := by
    refine (validateTransition_eq_ok _ _ _).mpr ⟨⟨hnext.revision, hnext.previous, ?_, ?_⟩, hfollows⟩
    · exact hnext.updatedAt ▸ hready.later
    · exact hnext.replicas.symm
  have hcheck : checkCommit store next = .ok () ↔ validateState next = .ok () := by
    grind [checkCommit, bind_eq_ok]
  rw [hcheck, validateState_eq_ok]
  refine ⟨fun h => h.shape, fun hshape => ?_⟩
  refine ⟨hnext.schema.trans hvalid.schema, hrevision, ?_, hactive, ?_, ?_, ?_, ?_, ?_, hacks.sorted,
    hacks.nodup, hacks.valid, hshape⟩
  · rw [hnext.previous, hrun.digest]
    exact validSHA256_digestText _
  · rw [hnext.replicas]
    exact hvalid.replicas
  · rw [hnext.updatedAt]
    exact hready.time.1
  · rw [hnext.updatedAt]
    exact hready.time.2
  · exact fun h => absurd hnext.hmac h
  · rw [hnext.replicas]
    exact hvalid.replicas_sorted

end Checks

/-! ## What the operations may commit -/

theorem unix_lt_unix_add {now duration : ℤ} (h : second ≤ duration) :
    unix now < unix (now + duration) := by
  unfold unix second at *
  omega

section Enabled

variable {key : List UInt8} {store : Store} {history : List State} {now : Time}
  (hrun : Running key store history) (hready : store.Ready now)

include hrun hready

theorem publish_enabled (hphase : store.state.phase = .stable) (hpending :
    ValidGeneration pending) (hsequence : pending.sequence = store.state.active.sequence + 1) (hid :
    pending.id ≠ store.state.active.id) (hprepare : 30 * second ≤
    prepareTimeout) (hcommit : 30 * second ≤ commitTimeout ∧ commitTimeout ≤ 86400 * second) :
    checkCommit store (preparingRecord store pending prepareTimeout commitTimeout now) = .ok ()
    := by
  have hstable := hrun.sound.valid.shape
  rw [PhaseShape, hphase] at hstable
  have hnext : Proceeds store now (preparingRecord store pending prepareTimeout commitTimeout now) :=
    ⟨rfl, rfl, rfl, rfl, rfl, rfl⟩
  refine (checkCommit_eq_ok hrun hready hnext hrun.sound.valid.active
    (canonicalAcks_of_nil rfl) ?_).mpr ?_
  · rw [Follows, hphase]
    exact ⟨rfl, rfl, pending, rfl, hsequence⟩
  · refine ⟨⟨⟨pending, rfl, hpending, hsequence, hid⟩, ?_, hstable.2.2.2.1, ?_⟩, by rintro _ ⟨⟩⟩
    · exact unix_lt_unix_add (by unfold second at *; omega)
    · change 30 ≤ commitTimeout / second ∧ commitTimeout / second ≤ 86400
      unfold second at *
      omega

theorem ackValid_sent (hnext : Proceeds store
    now next) (hreplica : replica ∈ store.state.requiredReplicas) (hpending : store.state.pending =
    some generation) : AckValid next (sentAck replica generation stage (unix now)) := by
  have hgeneration := hrun.sound.valid.pending generation hpending
  refine ⟨hnext.replicas.symm ▸ hreplica, hgeneration.1, hgeneration.2, hready.time.1, ?_⟩
  exact hnext.updatedAt.ge

section Prepare

variable {replica : ReplicaRef} {generation : Generation} {acks : List Acknowledgement}
  (hphase : store.state.phase = .preparing) (hreplica : replica ∈ store.state.requiredReplicas)
  (hpending : store.state.pending = some generation)
  (hrenews : Renews store.state.acks acks none (sentAck replica generation .prepared (unix now))
    store.state.acks)

include hphase hreplica hpending hrenews

theorem prepare_enabled (hdeadline : unix now < store.state.prepareDeadline) :
    checkCommit store (ackRecord store acks now) = .ok () := by
  have hvalid := hrun.sound.valid
  have hshape := hvalid.shape
  rw [PhaseShape, hphase] at hshape
  obtain ⟨⟨hvalidPending, -, hdrain, hcommit⟩, hall⟩ := hshape
  have hnext : Proceeds store now (ackRecord store acks now) := ⟨rfl, rfl, rfl, rfl, rfl, rfl⟩
  refine (checkCommit_eq_ok hrun hready hnext hvalid.active
    (Renews.canonicalAcks hrenews hvalid rfl hready.later
      (ackValid_sent hrun hready hnext hreplica hpending)) ?_).mpr ?_
  · rw [Follows, hphase]
    refine ⟨rfl, ?_⟩
    rw [if_neg (by simp [ackRecord, hphase])]
    exact ⟨⟨generation, hpending, hpending⟩, .inl hphase,
      hrenews.ackProgresses hvalid.acks_nodup rfl⟩
  · rw [PhaseShape, show (ackRecord store acks now).phase = .preparing from hphase]
    refine ⟨⟨hvalidPending, hdeadline, hdrain, hcommit⟩, fun ack hack => ?_⟩
    rcases hrenews.mem_next.mp hack with rfl | hold
    · exact ⟨rfl, generation, hpending, by simp [sentAck]⟩
    · exact hall ack hold

theorem drain_enabled (hall : allAcknowledged (ackRecord store acks now) .prepared = true) :
    checkCommit (store.drainingSince now) (drainRecord store acks now) = .ok () := by
  have hvalid := hrun.sound.valid
  have hshape := hvalid.shape
  rw [PhaseShape, hphase] at hshape
  have hnext : Proceeds store now (drainRecord store acks now) := ⟨rfl, rfl, rfl, rfl, rfl, rfl⟩
  refine (checkCommit_eq_ok hrun hready hnext hvalid.active
    (Renews.canonicalAcks hrenews hvalid rfl hready.later
      (ackValid_sent hrun hready hnext hreplica hpending)) ?_).mpr ?_
  · rw [Follows, hphase]
    exact ⟨rfl, ⟨generation, hpending, hpending⟩, .inr rfl,
      hrenews.ackProgresses hvalid.acks_nodup rfl⟩
  · refine ⟨hshape.1.1, rfl, ?_, hshape.1.2.2.2.1, hall⟩
    change unix (now + drainDuration) = unix now + 10
    unfold unix drainDuration second
    omega

end Prepare

theorem flip_enabled (hphase :
    store.state.phase = .draining) : checkCommit store (flipRecord store now) = .ok () := by
  have hvalid := hrun.sound.valid
  have hacks := hrun.sound.drain_acks hphase
  have hshape := hvalid.shape
  rw [PhaseShape, hphase] at hshape
  obtain ⟨⟨pending, hpending, hgeneration, -⟩, hprepare, -, hcommit, hall⟩ := hshape
  have hactive : (flipRecord store now).active = pending := by
    simp [flipRecord, show store.state.pending = some pending from hpending]
  have hsame : (flipRecord store now).acks = store.state.acks := acks_nextLocked store now
  have hnext : Proceeds store now (flipRecord store now) := ⟨rfl, rfl, rfl, rfl, rfl, rfl⟩
  refine (checkCommit_eq_ok hrun hready hnext (hactive ▸ hgeneration)
    (hvalid.canonicalAcks hsame rfl hready.later) ?_).mpr ?_
  · rw [Follows, hphase]
    exact ⟨rfl, hactive ▸ hpending, hactive ▸ hpending, hsame.symm⟩
  · refine ⟨⟨hactive ▸ hpending, hprepare, rfl, ?_, ?_⟩, fun ack hack => ?_⟩
    · change unix now < unix (now + store.state.commitDeadline * second)
      exact unix_lt_unix_add (by unfold second; omega)
    · rw [hsame]
      exact ((allAcknowledged_iff _ _).mp hall).length_eq.symm
    · obtain ⟨other, hother, hmatches⟩ := hacks ack (hsame ▸ hack)
      obtain rfl := Option.some.inj (hother.symm.trans hpending)
      exact hactive ▸ hmatches

/-- The record of an ACTIVE acknowledgement is accepted only before the commit deadline. -/
theorem activate_enabled_iff (hphase :
    store.state.phase = .committing) {ack : Acknowledgement} {acks rest : List Acknowledgement}
    (hprepared : ack.stage = .prepared) (hrenews : Renews store.state.acks acks (some ack) (ack.move
    .active (unix now)) rest) : checkCommit store (ackRecord store acks now) = .ok () ↔ unix now <
    store.state.commitDeadline := by
  have hvalid := hrun.sound.valid
  have hshape := hvalid.shape
  rw [PhaseShape, hphase] at hshape
  obtain ⟨⟨hpending, hprepare, hdrain, -, hlength⟩, hall⟩ := hshape
  have hack : ack ∈ store.state.acks := hrenews.mem_of_old rfl
  have hold := hvalid.acks_valid ack hack
  have hnext : Proceeds store now (ackRecord store acks now) := ⟨rfl, rfl, rfl, rfl, rfl, rfl⟩
  have hmoved : AckValid (ackRecord store acks now) (ack.move .active (unix now)) :=
    ⟨hold.1, hold.2.1, hold.2.2.1, hready.time.1, le_refl _⟩
  have hchange : ackChange (some ack) .active (ack.move .active (unix now)) = some 1 := by
    simp [ackChange, Acknowledgement.move, hprepared]
  rw [checkCommit_eq_ok hrun hready hnext hvalid.active
    (Renews.canonicalAcks hrenews hvalid rfl hready.later hmoved)]
  · rw [PhaseShape, show (ackRecord store acks now).phase = .committing from hphase]
    refine ⟨fun h => h.1.2.2.2.1, fun hdeadline => ⟨⟨hpending, hprepare, hdrain, hdeadline, ?_⟩, ?_⟩⟩
    · have := hrenews.length_next
      simp only [Option.toList_some, List.length_singleton] at this
      exact (Nat.add_right_cancel this).trans hlength
    · intro other hother
      rcases hrenews.mem_next.mp hother with rfl | hrest
      · exact hall ack hack
      · exact hall other (hrenews.mem_of_rest hrest)
  · rw [Follows, hphase]
    refine ⟨rfl, ?_⟩
    rw [if_neg (by simp [ackRecord, hphase])]
    exact ⟨hphase, ⟨_, hpending, hpending⟩, hrenews.ackProgresses hvalid.acks_nodup hchange⟩

/-- Convergence is not bound to the commit deadline. -/
theorem converge_enabled (hphase : store.state.phase = .committing) (hall : allAcknowledged
    store.state .active = true) : checkCommit store (makeStable (nextLocked store now)) = .ok ()
    := by
  have hnext : Proceeds store now (makeStable (nextLocked store now)) :=
    ⟨rfl, rfl, rfl, rfl, rfl, rfl⟩
  refine (checkCommit_eq_ok hrun hready hnext hrun.sound.valid.active
    (canonicalAcks_of_nil rfl) ?_).mpr ⟨rfl, rfl, rfl, rfl, rfl⟩
  rw [Follows, hphase]
  exact ⟨rfl, rfl, hall⟩

end Enabled

/-! ## Stores of reachable machines -/

/-- The store is that of a running coordinator in some run. -/
def Serves (key : List UInt8) (store : Store) : Prop :=
  ∃ machine, Reachable key machine ∧ machine.store = some store

namespace Serves

variable {key : List UInt8} {store : Store}

theorem running (h : Serves key store) : ∃ history, Running key store history := by
  obtain ⟨machine, hreach, hstore⟩ := h
  obtain ⟨history, hhas⟩ := reachable_has hreach
  exact ⟨history, (hhas.up store hstore).toRunning⟩

theorem request (h : Serves key store) (request : Request) :
    Serves key (request.effect store).store := by
  obtain ⟨⟨directory, _⟩, hreach, rfl⟩ := h
  obtain ⟨history, hhas⟩ := reachable_has hreach
  obtain ⟨later, hrun, -⟩ := run_eq (hhas.up store rfl) request
  exact ⟨_, hreach.step (.request request List.not_mem_nil hrun), rfl⟩

theorem initial {initial : Generation} {replicas : List ReplicaRef} {now : Time}
    (h : ValidBootstrap key initial replicas now) :
    Serves key ((emptyStore key).committed (genesisRecord initial replicas now)) := by
  obtain ⟨machine, hinitial⟩ := exists_initial h
  exact ⟨machine, .initial hinitial, (initial_has hinitial).2.2⟩

end Serves

/-! ## A publication from its start to its commit -/

section Effects

variable {key : List UInt8} {store : Store} {history : List State} {now : Time} {next : State}

theorem Effect.commit_of_ok (h : checkCommit store next = .ok ()) :
    Effect.commit store next = ⟨store.committed next, [sign store.key next], .ok ()⟩ := by
  rw [Effect.commit, h]

theorem effect_publish (hrun : Running key store history) (hready : store.Ready now) (hphase :
    store.state.phase = .stable) {pending : Generation} (hpending : ValidGeneration pending)
    (hsequence : pending.sequence = store.state.active.sequence + 1) (hid : pending.id ≠
    store.state.active.id) {prepareTimeout commitTimeout : ℤ} (hprepare : 30 * second ≤
    prepareTimeout ∧ prepareTimeout ≤ 86400 * second) (hcommit : 30 * second ≤ commitTimeout ∧
    commitTimeout ≤ 86400 * second) : ((Request.publish store.state.revision store.state.active
    pending prepareTimeout commitTimeout now).effect store).store = store.committed (preparingRecord
    store pending prepareTimeout commitTimeout now) := by
  have hdecision : publishRecord store store.state.revision store.state.active pending
      prepareTimeout commitTimeout now =
        .ok (preparingRecord store pending prepareTimeout commitTimeout now) := by
    simp only [publishRecord, failIf_bind_eq_ok, not_or, not_not, not_lt, sameGeneration_iff]
    exact ⟨⟨trivial, hphase, trivial⟩, ⟨hpending, hsequence, hid, hprepare.1, hprepare.2, hcommit.1,
      hcommit.2, hready.time⟩, rfl⟩
  rw [Request.effect, hdecision, Effect.ofRecord, Effect.commit_of_ok
    (publish_enabled hrun hready hphase hpending hsequence hid hprepare.1 hcommit)]

theorem effect_prepared (hready : store.Ready now) (hphase : store.state.phase = .preparing)
    {replica : ReplicaRef} (hreplica : replica ∈ store.state.requiredReplicas)
    {generation : Generation} (hpending : store.state.pending = some generation)
    (hdeadline : unix now ≤ store.state.prepareDeadline) :
    (Request.acknowledge store.state.revision replica generation "PREPARED" now).effect store =
      .ofAction now store (preparedAction store replica generation now) := by
  have hdecision : acknowledgeAction store store.state.revision replica generation "PREPARED" now =
      .ok (preparedAction store replica generation now) := by
    have hstage : AckStage.ofText "PREPARED" = some .prepared := rfl
    have hsame : samePending store.state.pending (some generation) = true :=
      (samePending_iff _ _).mpr ⟨generation, hpending, rfl⟩
    simp only [acknowledgeAction, failIf_bind_eq_ok, not_or, not_not, containsReplica_iff, hstage,
      if_neg (not_lt.mpr hdeadline)]
    exact ⟨⟨trivial, hreplica, hready.time⟩, ⟨hphase, hsame⟩, rfl⟩
  rw [Request.effect, hdecision]

end Effects

/-- The store `last` drains, at the time `now` and `count` records after `store`, the publication
that `store` prepares. -/
structure Drains (store last : Store) (now : Time) (count : ℕ) : Prop where
  phase : last.state.phase = .draining
  active : last.state.active = store.state.active
  pending : last.state.pending = store.state.pending
  replicas : last.state.requiredReplicas = store.state.requiredReplicas
  commitDeadline : last.state.commitDeadline = store.state.commitDeadline
  updatedAt : last.state.updatedAt = unix now
  started : last.drainStarted = now
  revision : last.state.revision.toNat = store.state.revision.toNat + count

/-- The publication waits for exactly the replicas `todo`. -/
structure Awaits (store : Store) (generation : Generation) (todo : List ReplicaRef) : Prop where
  phase : store.state.phase = .preparing
  pending : store.state.pending = some generation
  distinct : (todo.map ReplicaRef.id).Nodup
  required : ∀ replica ∈ todo, replica ∈ store.state.requiredReplicas
  silent : ∀ replica ∈ todo, ∀ ack ∈ store.state.acks, ack.replicaID ≠ replica.id
  answered : ∀ replica ∈ store.state.requiredReplicas, replica ∈ todo ∨
    ∃ ack ∈ store.state.acks, Answers replica ack ∧ ack.stage = .prepared

section Progress

variable {key : List UInt8} {store : Store} {now : Time} {generation : Generation}
  {replica : ReplicaRef} {todo : List ReplicaRef}

theorem Awaits.next {acks : List Acknowledgement} (h : Awaits store generation (replica :: todo))
    (hrenews : Renews store.state.acks acks none (sentAck replica generation .prepared (unix now))
    store.state.acks) : (∀ other ∈ todo, ∀ ack ∈ acks, ack.replicaID ≠ other.id) ∧ ∀ other ∈
    store.state.requiredReplicas, other ∈ todo ∨ ∃ ack ∈ acks, Answers other ack ∧ ack.stage =
    .prepared := by
  have hdistinct := List.nodup_cons.mp h.distinct
  constructor
  · intro other hother ack hack
    rcases hrenews.mem_next.mp hack with rfl | hold
    · intro heq
      have hid : other.id = replica.id := heq.symm
      exact hdistinct.1 (hid ▸ List.mem_map_of_mem hother)
    · exact h.silent other (List.mem_cons_of_mem _ hother) ack hold
  · intro other hother
    rcases h.answered other hother with hmem | ⟨ack, hack, hanswers⟩
    · rcases List.mem_cons.mp hmem with rfl | hmem
      · exact .inr ⟨_, hrenews.mem_next.mpr (.inl rfl), ⟨rfl, rfl⟩, rfl⟩
      · exact .inl hmem
    · exact .inr ⟨ack, hrenews.mem_next.mpr (.inr hack), hanswers⟩

theorem exists_draining (hserves : Serves key store) (h : Awaits store generation todo) (htodo :
    todo ≠ []) (htime : ValidTime now) (hlater : store.state.updatedAt ≤ unix now) (hdeadline : unix
    now < store.state.prepareDeadline) (hroom : store.state.revision.toNat + todo.length < 2 ^ 64) :
    ∃ last, Serves key last ∧ Drains store last now todo.length := by
  induction todo generalizing store with
  | nil => exact absurd rfl htodo
  | cons replica todo ih =>
    obtain ⟨history, hrun⟩ := hserves.running
    rw [List.length_cons] at hroom
    have hready : store.Ready now := ⟨htime, hlater, by omega⟩
    have hreplica := h.required replica List.mem_cons_self
    obtain ⟨acks, hacks, hrenews⟩ : ∃ acks,
        withAck store.state.acks replica generation .prepared (unix now) = some acks ∧
          Renews store.state.acks acks none (sentAck replica generation .prepared (unix now))
            store.state.acks := withAck_sent (h.silent replica List.mem_cons_self)
    obtain ⟨hsilent, hanswered⟩ := h.next hrenews
    have heffect := effect_prepared hready h.phase hreplica h.pending hdeadline.le
    have hstep := hserves.request
      (.acknowledge store.state.revision replica generation "PREPARED" now)
    rw [heffect, preparedAction, acks_nextLocked, hacks] at hstep
    dsimp only at hstep
    have hrevision := toNat_add_one hready.room
    cases todo with
    | nil =>
      -- the last answer: every replica is prepared
      have hvalid := valid_of_checkCommit
        (prepare_enabled hrun hready h.phase hreplica h.pending hrenews hdeadline)
      have hall : allAcknowledged (ackRecord store acks now) .prepared = true :=
        (hvalid.allAcknowledged_iff .prepared).mpr fun r hr =>
          (hanswered r hr).resolve_left List.not_mem_nil
      rw [if_pos hall, Effect.ofAction, Effect.commit_of_ok
        (drain_enabled hrun hready h.phase hreplica h.pending hrenews hall)] at hstep
      exact ⟨_, hstep, rfl, rfl, rfl, rfl, rfl, rfl, rfl, hrevision⟩
    | cons other todo =>
      have hall : ¬ allAcknowledged (ackRecord store acks now) .prepared = true := by
        intro hall
        rw [allAcknowledged_iff] at hall
        obtain ⟨ack, hack, hanswers, -⟩ := exists_of_forall₂ hall other
          (h.required other (List.mem_cons_of_mem _ List.mem_cons_self))
        exact hsilent other List.mem_cons_self ack hack hanswers.1
      rw [if_neg hall, Effect.ofAction, Effect.commit_of_ok
        (prepare_enabled hrun hready h.phase hreplica h.pending hrenews hdeadline)] at hstep
      have hnext : Awaits (store.committed (ackRecord store acks now)) generation
          (other :: todo) :=
        ⟨h.phase, h.pending, (List.nodup_cons.mp h.distinct).2,
          fun r hr => h.required r (List.mem_cons_of_mem _ hr), hsilent, hanswered⟩
      have hcount : (store.committed (ackRecord store acks now)).state.revision.toNat =
        store.state.revision.toNat + 1 := hrevision
      obtain ⟨last, hlast, hdrains⟩ := ih hstep hnext (List.cons_ne_nil _ _) (le_refl _)
        hdeadline (by rw [hcount]; omega)
      refine ⟨last, hlast, hdrains.phase, hdrains.active, hdrains.pending, hdrains.replicas,
        hdrains.commitDeadline, hdrains.updatedAt, hdrains.started, ?_⟩
      rw [hdrains.revision, hcount]
      simp only [List.length_cons]
      omega

theorem effect_advance_draining {history : List State} (hrun : Running key store history)
    (hready : store.Ready now) (hphase : store.state.phase = .draining)
    (huntil : store.state.drainUntil ≤ unix now) (hstarted : store.drainStarted ≠ zeroTime)
    (hdrained : drainDuration ≤ now - store.drainStarted) :
    ((Request.advance now).effect store).store = store.committed (flipRecord store now) := by
  have hwait : ¬ (unix now < store.state.drainUntil ∨ now - store.drainStarted < drainDuration) := by
    grind
  simp only [Request.effect, failIf_of_neg (not_not.mpr hready.time), hphase, Effect.advanceDrain,
    if_neg hstarted, Effect.flip, if_neg hwait,
    Effect.commit_of_ok (flip_enabled hrun hready hphase)]

/-- A coordinator that has just accepted its first publication. -/
structure Published (store : Store) (pending : Generation) (replicas : List ReplicaRef)
    (commitTimeout : ℤ) (now : Time) : Prop where
  awaits : Awaits store pending (sortReplicas replicas)
  required : store.state.requiredReplicas = sortReplicas replicas
  updatedAt : store.state.updatedAt = unix now
  deadline : unix now < store.state.prepareDeadline
  window : store.state.commitDeadline = commitTimeout / second
  revision : store.state.revision.toNat = 2

/-- A coordinator that has taken its first publication to the phase COMMITTING. -/
structure Commits (store : Store) (pending : Generation) (replicas : List ReplicaRef)
    (commitTimeout : ℤ) (now : Time) : Prop where
  phase : store.state.phase = .committing
  active : store.state.active = pending
  required : store.state.requiredReplicas = sortReplicas replicas
  prepared : allAcknowledged store.state .prepared = true
  updatedAt : store.state.updatedAt = unix now
  deadline : store.state.commitDeadline = unix now + commitTimeout / second
  revision : store.state.revision.toNat = replicas.length + 3

section Publication

variable {initial pending : Generation} {replicas : List ReplicaRef} {commitTimeout : ℤ}
  (hvalid : ValidBootstrap key initial replicas now) (hpending : ValidGeneration pending)
  (hsequence : pending.sequence = initial.sequence + 1) (hid : pending.id ≠ initial.id)
  (hcommit : 30 * second ≤ commitTimeout ∧ commitTimeout ≤ 86400 * second)

include hvalid hpending hsequence hid hcommit

theorem exists_published :
    ∃ store, Serves key store ∧ Published store pending replicas commitTimeout now := by
  have hfirst := Serves.initial hvalid
  obtain ⟨_, hrun⟩ := hfirst.running
  have hroom : (1 : UInt64).toNat + 1 < 2 ^ 64 := by decide
  have hday : 30 * second ≤ 86400 * second := by decide
  have hpublished := hfirst.request (.publish 1 initial pending (86400 * second) commitTimeout now)
  erw [effect_publish hrun ⟨hvalid.time, le_refl _, hroom⟩ rfl hpending hsequence hid
    ⟨hday, le_refl _⟩ hcommit] at hpublished
  refine ⟨_, hpublished, ⟨rfl, rfl, hvalid.replicas.sort.2.2.2.1, fun _ h => h, ?_, ?_⟩, rfl, rfl, ?_,
    rfl, rfl⟩
  · exact fun _ _ _ h => absurd h List.not_mem_nil
  · exact fun _ h => .inl h
  · exact unix_lt_unix_add (by decide)

/-- Every coordinator can be brought to the phase COMMITTING of a valid publication. -/
theorem exists_committing (htime : ValidTime (now + drainDuration)) : ∃ store, Serves key store ∧
    Commits store pending replicas commitTimeout (now + drainDuration) := by
  have hcount := hvalid.replicas.2.1
  have hlength : (sortReplicas replicas).length = replicas.length := List.length_insertionSort _ _
  have hsome : sortReplicas replicas ≠ [] := by
    have hmin := hvalid.replicas.sort.1
    intro hnil
    rw [hnil] at hmin
    exact absurd hmin (by decide)
  obtain ⟨published, hserves, hpublished⟩ :=
    exists_published hvalid hpending hsequence hid hcommit
  have hrevision := hpublished.revision
  obtain ⟨drained, hdrained, hdrains⟩ := exists_draining hserves hpublished.awaits hsome hvalid.time
    hpublished.updatedAt.le hpublished.deadline (by rw [hrevision, hlength]; omega)
  obtain ⟨_, hrun⟩ := hdrained.running
  have hunix : unix (now + drainDuration) = unix now + 10 := by
    unfold unix drainDuration second
    omega
  have hready : drained.Ready (now + drainDuration) := by
    refine ⟨htime, ?_, ?_⟩
    · rw [hdrains.updatedAt, hunix]
      omega
    · rw [hdrains.revision, hrevision, hlength]
      omega
  have hshape := hrun.sound.valid.shape
  rw [PhaseShape, hdrains.phase] at hshape
  obtain ⟨-, -, huntil, -, hprepared⟩ := hshape
  rw [hdrains.updatedAt, ← hunix] at huntil
  have hstarted : drained.drainStarted ≠ zeroTime := by
    have hlow := hvalid.time.1
    rw [hdrains.started]
    rintro rfl
    exact absurd hlow (by decide)
  have hflipped := hdrained.request (.advance (now + drainDuration))
  rw [effect_advance_draining hrun hready hdrains.phase huntil.le hstarted
    (by rw [hdrains.started]; omega)] at hflipped
  have hactive : drained.state.pending.getD zeroGeneration = pending := by
    rw [hdrains.pending, hpublished.awaits.pending, Option.getD_some]
  have hdeadline : unix (now + drainDuration + drained.state.commitDeadline * second) =
      unix (now + drainDuration) + commitTimeout / second := by
    rw [hdrains.commitDeadline, hpublished.window]
    unfold unix second
    omega
  refine ⟨_, hflipped, rfl, hactive, hdrains.replicas.trans hpublished.required, ?_, rfl, hdeadline,
    ?_⟩
  · have hsame : (drained.committed (flipRecord drained (now + drainDuration))).state.acks =
      drained.state.acks := acks_nextLocked drained (now + drainDuration)
    rw [allAcknowledged_iff, hsame]
    exact (allAcknowledged_iff _ _).mp hprepared
  · have hnext := toNat_add_one hready.room
    rw [hdrains.revision, hrevision, hlength] at hnext
    exact hnext.trans (by omega)

end Publication

end Progress

/-! ## A small installation -/

def exampleKey : List UInt8 := List.replicate 32 7

def exampleInitial : Generation := ⟨"gen-1", 1, zeroDigest⟩

def examplePending : Generation := ⟨"gen-2", 2, zeroDigest⟩

def exampleReplicas : List ReplicaRef := [⟨"cp-1", .controlplane⟩, ⟨"fo-1", .firmwareorigin⟩]

def exampleNow : Time := 1700000000 * second

theorem example_bootstrap : ValidBootstrap exampleKey exampleInitial exampleReplicas exampleNow
    := by
  refine ⟨by decide, ?_, ?_, by decide⟩ <;> decide +kernel

theorem example_commits : ∃ store, Serves exampleKey store ∧
    Commits store examplePending exampleReplicas (30 * second) (exampleNow + drainDuration) := by
  have hpending : ValidGeneration examplePending := by decide +kernel
  exact exists_committing example_bootstrap hpending (by decide) (by decide) (by decide) (by decide)

end XiaozhiPlatform.Generation
