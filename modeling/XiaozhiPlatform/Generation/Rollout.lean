import XiaozhiPlatform.Generation.Lifecycle

/-!
# How the active generation changes

What the history of a coordinator says about its publications. A generation becomes active only at
the end of a drain, only as the last published one, and only after every required replica has
prepared it; the coordinator is stable again only when every one of them is active.

The facts hold of every chain of records (`Chain.rollout`), so they hold of the history that any
run leaves on disk and in memory (`reachable_rollout`).
-/

namespace XiaozhiPlatform.Generation

open GoLib

/-- The replica has an acknowledgement for the generation at the stage. -/
def Acknowledged (state : State) (replica : ReplicaRef) (generation : Generation)
    (stage : AckStage) : Prop :=
  ∃ ack ∈ state.acks, Answers replica ack ∧ ack.stage = stage ∧ ackMatches ack generation = true

/-- The generation that the last publication of a history named: the pending one of the newest
record that entered PREPARING from STABLE. -/
def lastPublished : List State → Option Generation
  | next :: prior :: older =>
    if next.phase = .preparing ∧ prior.phase = .stable then next.pending
    else lastPublished (prior :: older)
  | _ => none

/-- What holds of every two neighbouring records, with the records before them. -/
structure RollsOut (next prior : State) (older : List State) : Prop where
  active : next.active ≠ prior.active →
    prior.phase = .draining ∧ next.phase = .committing ∧
      lastPublished (prior :: older) = some next.active ∧
      ∀ replica ∈ prior.requiredReplicas, Acknowledged prior replica next.active .prepared
  converged : prior.phase = .committing → next.phase = .stable →
    ∀ replica ∈ prior.requiredReplicas, Acknowledged prior replica prior.active .active

/-- What holds of a history. -/
structure Rollout (history : List State) : Prop where
  steps : ∀ newer next prior older, history = newer ++ next :: prior :: older →
    RollsOut next prior older
  aligned : ∀ state ∈ history, ∀ stage, allAcknowledged state stage = true ↔
    ∀ replica ∈ state.requiredReplicas, ∃ ack ∈ state.acks, Answers replica ack ∧ ack.stage = stage

section Chain

variable {key : List UInt8} {next prior record : State} {history older : List State}

theorem Chain.lastPublished_eq (h : Chain key (record :: older)) (hphase : record.phase ≠ .stable) :
    lastPublished (record :: older) = record.pending := by
  induction older generalizing record with
  | nil =>
    cases h with
    | genesis _ _ _ hstable => exact absurd hstable hphase
  | cons prior older ih =>
    have hchain := h.prior_chain
    have hfollows := h.follows.1
    rw [lastPublished]
    by_cases hprior : prior.phase = .stable
    · grind [Follows]
    · -- the record goes on with the publication of the one before it
      rw [if_neg fun h => hprior h.2, ih hchain hprior]
      cases hcase : prior.phase with
      | stable => exact absurd hcase hprior
      | preparing =>
        rw [Follows, hcase] at hfollows
        obtain ⟨-, hrest⟩ := hfollows
        rw [if_neg hphase] at hrest
        obtain ⟨⟨pending, hrecord, hpending⟩, -⟩ := hrest
        rw [hrecord, hpending]
      | draining => grind [Follows]
      | committing =>
        rw [Follows, hcase] at hfollows
        obtain ⟨-, hrest⟩ := hfollows
        rw [if_neg hphase] at hrest
        obtain ⟨-, ⟨pending, hrecord, hpending⟩, -⟩ := hrest
        rw [hrecord, hpending]

theorem Chain.rollsOut (h : Chain key (next :: prior :: older)) : RollsOut next prior older := by
  have hchain := h.prior_chain
  have hnext := (h.sound List.mem_cons_self).valid
  have hprior := (hchain.sound List.mem_cons_self).valid
  have hfollows := h.follows.1
  refine ⟨fun hactive => ?_, fun hcommitting hstable replica hreplica => ?_⟩
  · cases hphase : prior.phase with
    | stable => grind [Follows]
    | preparing | committing => grind [Follows]
    | draining =>
      rw [Follows, hphase] at hfollows
      obtain ⟨hcommitting, hpending, -, hacks⟩ := hfollows
      refine ⟨rfl, hcommitting, ?_, fun replica hreplica => ?_⟩
      · rw [hchain.lastPublished_eq (by simp [hphase]), hpending]
      · have hdraining := hprior.shape
        have hshape := hnext.shape
        rw [PhaseShape, hphase] at hdraining
        rw [PhaseShape, hcommitting] at hshape
        obtain ⟨ack, hack, hanswers, hstage⟩ :=
          (hprior.allAcknowledged_iff .prepared).mp hdraining.2.2.2.2 replica hreplica
        exact ⟨ack, hack, hanswers, hstage, hshape.2 ack (hacks ▸ hack)⟩
  · have hshape := hprior.shape
    rw [PhaseShape, hcommitting] at hshape
    rw [Follows, hcommitting] at hfollows
    obtain ⟨-, hrest⟩ := hfollows
    rw [if_pos hstable] at hrest
    obtain ⟨ack, hack, hanswers, hstage⟩ :=
      (hprior.allAcknowledged_iff .active).mp hrest.2 replica hreplica
    exact ⟨ack, hack, hanswers, hstage, hshape.2 ack hack⟩

theorem Chain.rollout (h : Chain key history) : Rollout history := by
  refine ⟨fun newer next prior older heq => ?_, fun state hstate stage => ?_⟩
  · rw [heq] at h
    exact (h.tail (List.cons_ne_nil _ _)).rollsOut
  · exact (h.sound hstate).valid.allAcknowledged_iff stage

end Chain

/-- Along every run of the coordinator, the history that it leaves is a rollout, its newest record
is the state in memory, and the next step only adds records to it. -/
theorem reachable_rollout {key : List UInt8} {machine : Machine} (hreach : Reachable key machine) :
    ∃ history, machine.Has key history ∧ Rollout history ∧ (∀ store ∈ machine.store, history.head? =
    some store.state) ∧ ∀ event next, Step key machine event next → ∃ longer, next.Has key longer ∧
    history <:+ longer ∧ Rollout longer := by
  obtain ⟨history, hhas⟩ := reachable_has hreach
  refine ⟨history, hhas, hhas.chain.rollout, fun store hstore => (hhas.up store hstore).newest, ?_⟩
  intro event next hstep
  obtain ⟨longer, hadvances, hnext⟩ := step_advances hhas hstep
  exact ⟨longer, hnext, hadvances.suffix, hnext.chain.rollout⟩

/-- A run that has changed the active generation. -/
theorem reachable_rollout_committing : ∃ machine store, Reachable exampleKey machine ∧ machine.store
    = some store ∧ store.state.active = examplePending ∧ ∃ history, machine.Has exampleKey history ∧
    Rollout history ∧ history.head? = some store.state := by
  obtain ⟨store, ⟨machine, hreach, hstore⟩, hcommits⟩ := example_commits
  obtain ⟨history, hhas, hrollout, hhead, -⟩ := reachable_rollout hreach
  exact ⟨machine, store, hreach, hstore, hcommits.active, history, hhas, hrollout,
    hhead store hstore⟩

/-! ## Sequence numbers -/

/-- The sequence number of the active generation never decreases, and it increases when the active
generation changes. -/
def Increases (history : List State) : Prop :=
  history.IsChain fun next prior => prior.active.sequence ≤ next.active.sequence ∧
    (next.active ≠ prior.active → prior.active.sequence < next.active.sequence)

/-- No drain ends under an active generation with the last sequence number. -/
def LeavesRoom (history : List State) : Prop :=
  history.IsChain fun _ prior => prior.phase = .draining → prior.active.sequence ≠ 4294967295

section Sequence

variable {key : List UInt8} {next prior record : State} {history older : List State}

theorem Chain.active_eq (h : Chain key (next :: prior :: older)) (hphase : prior.phase ≠ .draining) :
    next.active = prior.active := by
  have hfollows := h.follows.1
  cases hcase : prior.phase with
  | draining => exact absurd hcase hphase
  | stable | preparing | committing => grind [Follows]

/-- The end of a drain adds one to the sequence number. -/
theorem Chain.sequence_eq (h : Chain key (next :: prior :: older)) (hphase : prior.phase = .draining) :
    next.active.sequence = prior.active.sequence + 1 ∧ next.active ≠ prior.active := by
  have hfollows := h.follows.1
  have hshape := (h.prior_chain.sound List.mem_cons_self).valid.shape
  rw [Follows, hphase] at hfollows
  rw [PhaseShape, hphase] at hshape
  obtain ⟨pending, hpending, -, hsequence, hid⟩ := hshape.1
  obtain rfl := Option.some.inj (hfollows.2.1.symm.trans hpending)
  exact ⟨hsequence, fun hsame => hid (congrArg Generation.id hsame)⟩

theorem lt_add_one_iff (n : UInt32) : n < n + 1 ↔ n ≠ 4294967295 := by
  rw [UInt32.lt_iff_toNat_lt, UInt32.toNat_add, ne_eq, ← UInt32.toNat_inj]
  have hlt := n.toNat_lt
  simp only [UInt32.reduceToNat]
  omega

theorem Chain.increases_iff (h : Chain key (record :: older)) :
    Increases (record :: older) ↔ LeavesRoom (record :: older) := by
  induction older generalizing record with
  | nil => simp [Increases, LeavesRoom]
  | cons prior older ih =>
    rw [Increases, LeavesRoom, List.isChain_cons_cons, List.isChain_cons_cons]
    refine and_congr ?_ (ih h.prior_chain)
    by_cases hphase : prior.phase = .draining
    · -- The number after a drain is larger unless it wraps around.
      obtain ⟨hsequence, hchanged⟩ := h.sequence_eq hphase
      rw [hsequence, ← lt_add_one_iff]
      exact ⟨fun h _ => h.2 hchanged, fun h => ⟨UInt32.le_of_lt (h hphase), fun _ => h hphase⟩⟩
    · rw [h.active_eq hphase]
      exact ⟨fun _ h => absurd h hphase, fun _ => ⟨UInt32.le_rfl, fun h => absurd rfl h⟩⟩

theorem Chain.sequence_ne_zero (h : Chain key (record :: older)) (hphase : record.phase = .committing)
    (hincreases : Increases (record :: older)) : record.active.sequence ≠ 0 := by
  induction older generalizing record with
  | nil =>
    cases h with
    | genesis _ _ _ hstable => exact absurd (hstable.symm.trans hphase) nofun
  | cons prior older ih =>
    obtain ⟨hpair, hrest⟩ := List.isChain_cons_cons.mp hincreases
    have hfollows := h.follows.1
    cases hcase : prior.phase with
    | stable | preparing => grind [Follows]
    | draining =>
      intro hzero
      have hlt := hpair.2 (h.sequence_eq hcase).2
      rw [hzero, UInt32.lt_iff_toNat_lt] at hlt
      exact absurd hlt (Nat.not_lt_zero _)
    | committing =>
      rw [h.active_eq (by simp [hcase])]
      exact ih h.prior_chain hcase hrest

end Sequence

/-- Along every run of the coordinator the sequence number of the active generation increases if and
only if no drain ends under the last sequence number. -/
theorem reachable_increases_iff {key : List UInt8} {machine : Machine}
    (hreach : Reachable key machine) : ∃ history, machine.Has key history ∧
      (∀ store ∈ machine.store, history.head? = some store.state) ∧
      (Increases history ↔ LeavesRoom history) := by
  obtain ⟨history, hhas⟩ := reachable_has hreach
  refine ⟨history, hhas, fun store hstore => (hhas.up store hstore).newest, ?_⟩
  cases history with
  | nil => exact absurd rfl hhas.chain.ne_nil
  | cons record older => exact hhas.chain.increases_iff

theorem reachable_increases_committing : ∃ machine, Reachable exampleKey machine ∧
    ∃ history, machine.Has exampleKey history ∧ (Increases history ↔ LeavesRoom history) := by
  obtain ⟨store, ⟨machine, hreach, -⟩, -⟩ := example_commits
  obtain ⟨history, hhas, -, hiff⟩ := reachable_increases_iff hreach
  exact ⟨machine, hreach, history, hhas, hiff⟩

/-- The sequence number wraps around after an initial generation with the last one. -/
theorem sequence_wraps : ∃ machine history, Reachable exampleKey machine ∧
    machine.Has exampleKey history ∧ ¬ Increases history := by
  have hbootstrap : ValidBootstrap exampleKey ⟨"gen-1", 4294967295, zeroDigest⟩ exampleReplicas
      exampleNow := ⟨by decide, by decide +kernel, by decide +kernel, by decide⟩
  have hpending : ValidGeneration ⟨"gen-2", 0, zeroDigest⟩ := by decide +kernel
  obtain ⟨store, ⟨machine, hreach, hstore⟩, hcommits⟩ := exists_committing hbootstrap hpending
    (by decide) (by decide) (show _ ∧ 30 * second ≤ _ by decide) (by decide)
  obtain ⟨history, hhas⟩ := reachable_has hreach
  have hnewest := (hhas.up store hstore).newest
  refine ⟨machine, history, hreach, hhas, fun hincreases => ?_⟩
  cases history with
  | nil => cases hnewest
  | cons record older =>
    obtain rfl := Option.some.inj hnewest
    exact hhas.chain.sequence_ne_zero hcommits.phase hincreases (by rw [hcommits.active])

end XiaozhiPlatform.Generation
