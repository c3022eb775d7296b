import XiaozhiPlatform.Generation.Rollout

/-!
# Convergence of a committed generation

In the phase COMMITTING the required replicas report one after the other that they run the new
generation, and the last report makes the coordinator stable. The record of such a report must
itself pass `validateState`, which demands of a COMMITTING record that it is older than its commit
deadline. So a report that comes at or after the deadline is refused:

- `active_recorded_iff`: a report is recorded exactly when it comes before the commit deadline.
- `canConverge_iff`: the coordinator can still converge exactly when the deadline has not passed or
  every replica has reported.
-/

namespace XiaozhiPlatform.Generation

open GoLib

/-- The report of a replica that it runs the active generation, with the current revision. -/
def activeReport (store : Store) (replica : ReplicaRef) (now : Time) : Request :=
  .acknowledge store.state.revision replica store.state.active "ACTIVE" now

/-- The request commits a record with the acknowledgement of the replica at the stage ACTIVE. -/
def Records (store : Store) (request : Request) (replica : ReplicaRef) : Prop :=
  ∃ record ∈ (request.effect store).committed,
    Acknowledged record replica store.state.active .active

/-- The store after a sequence of requests. -/
def Store.after (store : Store) (requests : List Request) : Store :=
  requests.foldl (fun store request => (request.effect store).store) store

/-- Some requests, none of them before `now`, lead to the phase STABLE. -/
def CanConverge (store : Store) (now : Time) : Prop :=
  ∃ requests : List Request, (∀ request ∈ requests, now ≤ request.now) ∧
    (store.after requests).state.phase = .stable

section Report

variable {key : List UInt8} {store : Store} {history : List State} {now : Time}
  {ack : Acknowledgement}

theorem effect_activeReport (hrun : Running key store history) (htime : ValidTime now) (hphase :
    store.state.phase = .committing) (hack : ack ∈ store.state.acks) (hprepared : ack.stage =
    .prepared) : ∃ acks rest, Renews store.state.acks acks (some ack) (ack.move .active (unix now))
    rest ∧ Move store now (ackRecord store acks now) ∧ (activeReport store ack.replica now).effect
    store = (Effect.commit store (ackRecord store acks now)).andThen (.converge now) := by
  have hvalid := hrun.sound.valid
  have hshape := hvalid.shape
  rw [PhaseShape, hphase] at hshape
  have hstage : ackStage store.state.acks ack.replicaID = some .prepared :=
    (ackStage_eq_some hvalid.acks_nodup).mpr ⟨ack, hack, rfl, hprepared⟩
  have hne : ack.stage ≠ .active := by simp [hprepared]
  obtain ⟨acks, rest, hacks, hrenews⟩ : ∃ acks rest,
      withAck store.state.acks ack.replica store.state.active .active (unix now) = some acks ∧
        Renews store.state.acks acks (some ack) (ack.move .active (unix now)) rest :=
    withAck_move hvalid.acks_nodup hack rfl hne
  have hdecision : acknowledgeAction store store.state.revision ack.replica store.state.active
      "ACTIVE" now = .ok (.activate (ackRecord store acks now)) := by
    have hactive : AckStage.ofText "ACTIVE" = some .active := rfl
    have hsame : samePending store.state.pending (some store.state.active) = true :=
      (samePending_iff _ _).mpr ⟨_, hshape.1.1, rfl⟩
    simp only [acknowledgeAction, failIf_bind_eq_ok, not_or, not_not, containsReplica_iff, hactive,
      sameGeneration_iff, activeAction, acks_nextLocked, hacks]
    exact ⟨⟨trivial, hvalid.replica_mem hack, htime⟩, ⟨hphase, trivial, hsame, hstage⟩, rfl⟩
  refine ⟨acks, rest, hrenews, (legal_of_acknowledgeAction hdecision).2, ?_⟩
  rw [activeReport, Request.effect, hdecision]
  rfl

theorem checkCommit_late (acks : List Acknowledgement) (hphase : store.state.phase = .committing)
    (hlate : store.state.commitDeadline ≤ unix now) :
    checkCommit store (ackRecord store acks now) ≠ .ok () := by
  intro hcheck
  have hshape := (valid_of_checkCommit hcheck).shape
  rw [PhaseShape, show (ackRecord store acks now).phase = .committing from hphase] at hshape
  exact absurd hshape.1.2.2.2.1 (not_lt.mpr hlate)

theorem room_of_checkCommit (hcheck : checkCommit store next = .ok ()) (hrevision :
    next.revision = store.state.revision + 1) : store.state.revision.toNat + 1 < 2 ^ 64 := by
  have hne := (valid_of_checkCommit hcheck).revision
  have hlt := next.revision.toNat_lt
  rwa [Chain.toNat_succ hrevision hne] at hlt

theorem records_iff (hrun : Running key store history) (htime : ValidTime now)
    (hlater : store.state.updatedAt ≤ unix now) (hphase : store.state.phase = .committing)
    (hreplica : replica ∈ store.state.requiredReplicas)
    (hstage : ackStage store.state.acks replica.id = some .prepared) :
    Records store (activeReport store replica now) replica ↔
      unix now < store.state.commitDeadline ∧ store.state.revision.toNat + 1 < 2 ^ 64 := by
  have hvalid := hrun.sound.valid
  obtain ⟨ack, hack, hid, hprepared⟩ := (ackStage_eq_some hvalid.acks_nodup).mp hstage
  obtain rfl : ack.replica = replica := List.inj_on_of_nodup_map hvalid.replicas.2.2.2.1
    (hvalid.replica_mem hack) hreplica hid
  obtain ⟨acks, rest, hrenews, -, heffect⟩ :=
    effect_activeReport hrun htime hphase hack hprepared
  have hshape := hvalid.shape
  rw [PhaseShape, hphase] at hshape
  rw [Records, heffect]
  constructor
  · rintro ⟨record, hrecord, -⟩
    -- nothing is committed unless the first record passes its checks
    cases hcheck : checkCommit store (ackRecord store acks now) with
    | error e => grind [Effect.commit, Effect.andThen, Effect.idle]
    | ok =>
      refine ⟨not_le.mp fun hlate => checkCommit_late acks hphase hlate hcheck, ?_⟩
      exact room_of_checkCommit hcheck rfl
  · rintro ⟨hdeadline, hroom⟩
    have hcheck := (activate_enabled_iff hrun ⟨htime, hlater, hroom⟩ hphase hprepared hrenews).mpr
      hdeadline
    rw [Effect.commit_of_ok hcheck]
    refine ⟨sign store.key (ackRecord store acks now), ?_, ack.move .active (unix now), ?_, ?_, rfl,
      ?_⟩
    · exact List.mem_append_right _ List.mem_cons_self
    · exact hrenews.mem_next.mpr (.inl rfl)
    · exact ⟨rfl, rfl⟩
    · exact hshape.2 ack hack

end Report

/-! ## Past the deadline -/

section Late

variable {store : Store} {now : Time}

theorem acknowledgeAction_committing (hphase : store.state.phase = .committing) (h
    : acknowledgeAction store revision replica generation stage now = .ok action) : action =
    .unchanged ∨ ∃ acks, action = .activate (ackRecord store acks now) := by
  simp only [acknowledgeAction, failIf_bind_eq_ok, not_or, not_not, hphase] at h
  obtain ⟨-, h⟩ := h
  split at h
  · simp at h
  · simp only [failIf_bind_eq_ok] at h
    obtain rfl := Except.ok.inj h.2
    unfold activeAction
    split
    · exact .inl rfl
    · exact .inr ⟨_, rfl⟩
  · cases h

theorem effect_late (hphase : store.state.phase = .committing) (hwaiting : ¬ allAcknowledged
    store.state .active = true) (request : Request) (hlate : store.state.commitDeadline ≤ unix
    request.now) : (request.effect store).store = store := by
  cases request with
  | publish revision active pending prepareTimeout commitTimeout now =>
    rw [Request.effect, publishRecord, failIf_of_pos (by simp [hphase])]
    rfl
  | abort revision pending now =>
    rw [Request.effect, abortRecord, failIf_of_pos (by simp [hphase])]
    rfl
  | acknowledge revision replica generation stage now =>
    rw [Request.effect]
    cases h : acknowledgeAction store revision replica generation stage now with
    | error e => rfl
    | ok action =>
      rcases acknowledgeAction_committing hphase h with rfl | ⟨acks, rfl⟩
      · rfl
      · have hreject := checkCommit_late acks hphase hlate
        simp only [Effect.ofAction, Effect.commit]
        cases hcheck : checkCommit store (ackRecord store acks now) with
        | error e => rfl
        | ok => exact absurd hcheck hreject
  | advance now =>
    rw [Request.effect]
    cases failIf (¬ ValidTime now) (.text "generation coordinator time is invalid") with
    | error e => rfl
    | ok =>
      simp only [hphase, Effect.converge, if_neg hwaiting]
      rfl

theorem after_late (hphase : store.state.phase = .committing) (hwaiting : ¬ allAcknowledged
    store.state .active = true) (hlate : ∀ request ∈ requests,
    store.state.commitDeadline ≤ unix request.now) : store.after requests = store := by
  induction requests with
  | nil => rfl
  | cons request requests ih =>
    rw [Store.after, List.foldl_cons,
      effect_late hphase hwaiting request (hlate request List.mem_cons_self)]
    exact ih fun other hother => hlate other (List.mem_cons_of_mem _ hother)

end Late

/-! ## Before the deadline -/

section Early

variable {key : List UInt8} {store : Store} {now : Time}

theorem committing_answered (hvalid : store.state.Valid)
    (hphase : store.state.phase = .committing) (hreplica : replica ∈ store.state.requiredReplicas) :
    ∃ ack ∈ store.state.acks, ack.replica = replica := by
  have hshape := hvalid.shape
  rw [PhaseShape, hphase] at hshape
  have hnodup : (store.state.acks.map Acknowledgement.replica).Nodup := by
    refine List.Nodup.of_map ReplicaRef.id ?_
    rw [List.map_map]
    exact hvalid.acks_nodup
  have hsubset : store.state.acks.map Acknowledgement.replica ⊆ store.state.requiredReplicas := by
    intro other hother
    obtain ⟨ack, hack, rfl⟩ := List.mem_map.mp hother
    exact hvalid.replica_mem hack
  have hperm := (List.subperm_of_subset hnodup hsubset).perm_of_length_le
    (by rw [List.length_map, hshape.1.2.2.2.2])
  exact List.mem_map.mp (hperm.mem_iff.mpr hreplica)

theorem canConverge_of_request (request : Request) (hnow : request.now = now)
    (h : CanConverge (request.effect store).store now) : CanConverge store now := by
  obtain ⟨requests, htimes, hstable⟩ := h
  refine ⟨request :: requests, fun other hother => ?_, hstable⟩
  rcases List.mem_cons.mp hother with rfl | hother
  · exact hnow.ge
  · exact htimes other hother

theorem canConverge_of_stable (h : store.state.phase = .stable) : CanConverge store now :=
  ⟨[], fun _ h => absurd h List.not_mem_nil, h⟩

theorem canConverge_of_all (hserves : Serves key store) (hready : store.Ready now)
    (hphase : store.state.phase = .committing)
    (hall : allAcknowledged store.state .active = true) : CanConverge store now := by
  obtain ⟨history, hrun⟩ := hserves.running
  refine canConverge_of_request (.advance now) rfl (canConverge_of_stable ?_)
  simp only [Request.effect, failIf_of_neg (not_not.mpr hready.time), hphase, Effect.converge,
    if_pos hall, Effect.commit_of_ok (converge_enabled hrun hready hphase hall)]
  rfl

theorem canConverge_of_lt (hserves : Serves key store) (htime : ValidTime now)
    (hlater : store.state.updatedAt ≤ unix now) (hphase : store.state.phase = .committing)
    (hdeadline : unix now < store.state.commitDeadline) {n : ℕ}
    (hcount : store.state.acks.countP (fun ack => ack.stage = .prepared) = n)
    (hroom : store.state.revision.toNat + n + 1 < 2 ^ 64) : CanConverge store now := by
  induction n generalizing store with
  | zero =>
    obtain ⟨history, hrun⟩ := hserves.running
    refine canConverge_of_all hserves ⟨htime, hlater, by omega⟩ hphase ?_
    refine (hrun.sound.valid.allAcknowledged_iff .active).mpr fun replica hreplica => ?_
    obtain ⟨ack, hack, heq⟩ := committing_answered hrun.sound.valid hphase hreplica
    refine ⟨ack, hack, (answers_iff _ _).mpr heq, ?_⟩
    have hstage := List.countP_eq_zero.mp hcount ack hack
    cases hcase : ack.stage with
    | prepared => simp [hcase] at hstage
    | active => rfl
  | succ n ih =>
    obtain ⟨history, hrun⟩ := hserves.running
    have hready : store.Ready now := ⟨htime, hlater, by omega⟩
    have hsome : 0 < store.state.acks.countP fun ack => ack.stage = .prepared := by omega
    obtain ⟨ack, hack, hstage⟩ := List.countP_pos_iff.mp hsome
    have hprepared := of_decide_eq_true hstage
    obtain ⟨acks, rest, hrenews, hmove, heffect⟩ :=
      effect_activeReport hrun htime hphase hack hprepared
    have hcheck := (activate_enabled_iff hrun hready hphase hprepared hrenews).mpr hdeadline
    have hrevision := toNat_add_one hready.room
    refine canConverge_of_request (activeReport store ack.replica now) rfl ?_
    have hnext := hserves.request (activeReport store ack.replica now)
    rw [heffect, Effect.commit_of_ok hcheck, Effect.andThen] at hnext ⊢
    dsimp only at hnext ⊢
    by_cases hall : allAcknowledged (store.committed (ackRecord store acks now)).state .active
    · -- the last report: the coordinator becomes stable in the same request
      have hcommitted := converge_enabled (hrun.commit hmove hcheck)
        ⟨htime, le_refl _, (congrArg (· + 1) hrevision).trans_lt (by omega)⟩ hphase hall
      rw [Effect.converge, if_pos hall, Effect.commit_of_ok hcommitted]
      exact canConverge_of_stable rfl
    · rw [Effect.converge, if_neg hall] at hnext ⊢
      have hrest : acks.countP (fun ack => ack.stage = .prepared) = n := by
        rw [hrenews.acks_perm.countP_eq, Option.toList_some, List.singleton_append,
          List.countP_cons, if_pos hstage] at hcount
        rw [hrenews.next_perm.countP_eq, List.countP_cons, if_neg (by simp [Acknowledgement.move])]
        omega
      exact ih hnext (le_refl _) hphase hdeadline hrest
        ((congrArg (· + n + 1) hrevision).trans_lt (by omega))

end Early

/-! ## Reports of reachable coordinators -/

section Reachable

variable {key : List UInt8} {machine : Machine} {store : Store} {now : Time}

theorem canConverge_iff (hserves : Serves key store) (hphase : store.state.phase = .committing)
    (htime : ValidTime now) (hlater : store.state.updatedAt ≤ unix now)
    (hroom : store.state.revision.toNat + store.state.requiredReplicas.length + 1 < 2 ^ 64) :
    CanConverge store now ↔
      unix now < store.state.commitDeadline ∨ allAcknowledged store.state .active = true := by
  obtain ⟨history, hrun⟩ := hserves.running
  have hshape := hrun.sound.valid.shape
  rw [PhaseShape, hphase] at hshape
  constructor
  · rintro ⟨requests, htimes, hstable⟩
    by_contra hstuck
    rw [not_or, not_lt] at hstuck
    have hlate : ∀ request ∈ requests, store.state.commitDeadline ≤ unix request.now :=
      fun request hrequest => hstuck.1.trans
        (Int.ediv_le_ediv (by decide) (htimes request hrequest))
    rw [after_late hphase hstuck.2 hlate, hphase] at hstable
    cases hstable
  · rintro (hdeadline | hall)
    · have hle := List.countP_le_length (p := fun ack : Acknowledgement => ack.stage = .prepared)
        (l := store.state.acks)
      rw [hshape.1.2.2.2.2] at hle
      exact canConverge_of_lt hserves htime hlater hphase hdeadline rfl (by omega)
    · exact canConverge_of_all hserves ⟨htime, hlater, by omega⟩ hphase hall

/-- From every reachable COMMITTING state, at every valid time that is not before the newest
record: the ACTIVE report of a replica that is still prepared is recorded exactly when it comes
before the commit deadline, and the coordinator can still become stable exactly when the deadline
has not passed or no report is missing. The revision counter must not be exhausted. -/
theorem active_recorded_iff (hreach : Reachable key machine) (hstore : machine.store = some store)
    (hphase : store.state.phase = .committing) (htime : ValidTime now) (hlater :
    store.state.updatedAt ≤ unix now) : (∀ replica ∈ store.state.requiredReplicas, ackStage
    store.state.acks replica.id = some .prepared → (Records store (activeReport store replica now)
    replica ↔ unix now < store.state.commitDeadline ∧ store.state.revision.toNat + 1 < 2 ^ 64)) ∧
    (store.state.revision.toNat + store.state.requiredReplicas.length + 1 < 2 ^ 64 → (CanConverge
    store now ↔ unix now < store.state.commitDeadline ∨ allAcknowledged store.state .active = true))
    := by
  have hserves : Serves key store := ⟨machine, hreach, hstore⟩
  obtain ⟨history, hrun⟩ := hserves.running
  exact ⟨fun replica hreplica hstage => records_iff hrun htime hlater hphase hreplica hstage,
    canConverge_iff hserves hphase htime hlater⟩

/-- The small installation once its publication is committed: the first replica has prepared but
not reported. -/
theorem example_waits : ∃ machine store replica, Reachable exampleKey machine ∧
    machine.store = some store ∧ Commits store examplePending exampleReplicas (30 * second)
    (exampleNow + drainDuration) ∧ replica ∈ store.state.requiredReplicas ∧
    ackStage store.state.acks replica.id = some .prepared ∧
    ¬ allAcknowledged store.state .active = true ∧
    store.state.revision.toNat + store.state.requiredReplicas.length + 1 < 2 ^ 64 := by
  obtain ⟨store, hserves, hcommits⟩ := example_commits
  obtain ⟨history, hrun⟩ := hserves.running
  have hvalid := hrun.sound.valid
  obtain ⟨replica, hreplica⟩ : ∃ replica, replica ∈ store.state.requiredReplicas := by
    rw [hcommits.required]
    exact ⟨_, (List.mem_insertionSort _).mpr List.mem_cons_self⟩
  obtain ⟨ack, hack, hanswers, hprepared⟩ :=
    (hvalid.allAcknowledged_iff .prepared).mp hcommits.prepared replica hreplica
  obtain ⟨machine, hreach, hstore⟩ := hserves
  refine ⟨machine, store, replica, hreach, hstore, hcommits, hreplica,
    (ackStage_eq_some hvalid.acks_nodup).mpr ⟨ack, hack, hanswers.1, hprepared⟩, fun hall => ?_, ?_⟩
  · -- the replica has one acknowledgement only
    obtain ⟨other, hother, hsame, hactive⟩ :=
      (hvalid.allAcknowledged_iff .active).mp hall replica hreplica
    obtain rfl := List.inj_on_of_nodup_map hvalid.acks_nodup hother hack
      (hsame.1.trans hanswers.1.symm)
    rw [hprepared] at hactive
    cases hactive
  · rw [hcommits.revision, hcommits.required]
    decide

/-- A report thirty seconds after the commit, with the shortest commit timeout, is lost, and the
coordinator never becomes stable again. -/
theorem late_report_lost : ∃ machine store replica, Reachable exampleKey machine ∧ machine.store =
    some store ∧ store.state.phase = .committing ∧ replica ∈ store.state.requiredReplicas ∧ ackStage
    store.state.acks replica.id = some .prepared ∧ ValidTime (exampleNow + 40 * second) ∧
    store.state.updatedAt ≤ unix (exampleNow + 40 * second) ∧ ¬ Records store (activeReport store
    replica (exampleNow + 40 * second)) replica ∧ ¬ CanConverge store (exampleNow + 40 * second)
    := by
  obtain ⟨machine, store, replica, hreach, hstore, hcommits, hreplica, hstage, hwaiting, hroom⟩ :=
    example_waits
  have hserves : Serves exampleKey store := ⟨machine, hreach, hstore⟩
  obtain ⟨history, hrun⟩ := hserves.running
  have htime : ValidTime (exampleNow + 40 * second) := by decide
  have hlater : store.state.updatedAt ≤ unix (exampleNow + 40 * second) := by
    rw [hcommits.updatedAt]
    decide
  have hlate : ¬ unix (exampleNow + 40 * second) < store.state.commitDeadline := by
    rw [hcommits.deadline]
    decide
  refine ⟨machine, store, replica, hreach, hstore, hcommits.phase, hreplica, hstage, htime, hlater,
    ?_, ?_⟩
  · rw [records_iff hrun htime hlater hcommits.phase hreplica hstage]
    exact fun h => hlate h.1
  · rw [canConverge_iff hserves hcommits.phase htime hlater hroom]
    exact not_or.mpr ⟨hlate, hwaiting⟩

/-- A report right after the commit is recorded. -/
theorem active_recorded_in_time : ∃ machine store replica, Reachable exampleKey machine ∧
    machine.store = some store ∧ store.state.phase = .committing ∧ replica ∈
    store.state.requiredReplicas ∧ Records store (activeReport store replica (exampleNow +
    drainDuration)) replica ∧ CanConverge store (exampleNow + drainDuration) := by
  obtain ⟨machine, store, replica, hreach, hstore, hcommits, hreplica, hstage, -, hroom⟩ :=
    example_waits
  have hdeadline : unix (exampleNow + drainDuration) < store.state.commitDeadline := by
    rw [hcommits.deadline]
    decide
  obtain ⟨hrecords, hconverges⟩ := active_recorded_iff hreach hstore hcommits.phase (by decide)
    hcommits.updatedAt.le
  exact ⟨machine, store, replica, hreach, hstore, hcommits.phase, hreplica,
    (hrecords replica hreplica hstage).mpr ⟨hdeadline, by omega⟩, (hconverges hroom).mpr (.inl hdeadline)⟩

end Reachable

end XiaozhiPlatform.Generation
