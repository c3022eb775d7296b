import XiaozhiPlatform.Generation.Store
import XiaozhiPlatform.GoLib.Keyed

/-!
# Acknowledgements

The acknowledgements of a valid record are a list sorted by replica that holds each replica at
most once, and so are the required replicas. The code relies on this in two places:

- `State.Valid.allAcknowledged_iff`: the index-by-index comparison of the two lists tests that
  every required replica has an acknowledgement at the stage.
- `Renews.ackProgresses`: the list with one acknowledgement added or moved on passes the check of
  `validateTransition` that counts the changes.
-/

namespace XiaozhiPlatform.Generation

open GoLib Auth

/-- The replica that an acknowledgement answers for. -/
def Acknowledgement.replica (ack : Acknowledgement) : ReplicaRef := ⟨ack.replicaID, ack.role⟩

theorem answers_iff (replica : ReplicaRef) (ack : Acknowledgement) :
    Answers replica ack ↔ ack.replica = replica := by
  cases replica
  simp [Answers, Acknowledgement.replica]

/-! ## Alignment -/

variable {ack : Acknowledgement}

section Alignment

variable {state : State}

theorem State.Valid.replicas_increasing (h : state.Valid) :
    state.requiredReplicas.Pairwise fun a b => a.id < b.id :=
  Keyed.pairwise_lt h.replicas_sorted h.replicas.2.2.2.1

theorem State.Valid.acks_increasing (h : state.Valid) :
    state.acks.Pairwise fun a b => a.replicaID < b.replicaID :=
  Keyed.pairwise_lt h.acks_sorted h.acks_nodup

theorem State.Valid.replica_mem (h : state.Valid) (hack : ack ∈ state.acks) :
    ack.replica ∈ state.requiredReplicas := (h.acks_valid ack hack).1

/-- Once every required replica has answered, the acknowledgements are in the order of the
replicas. -/
theorem State.Valid.map_replica_eq (h : state.Valid)
    (hall : ∀ replica ∈ state.requiredReplicas, ∃ ack ∈ state.acks, Answers replica ack) :
    state.acks.map Acknowledgement.replica = state.requiredReplicas := by
  refine Keyed.eq_of_mem_iff (f := ReplicaRef.id) ?_ h.replicas_increasing fun replica => ?_
  · exact List.pairwise_map.mpr h.acks_increasing
  · constructor
    · intro hmem
      obtain ⟨ack, hack, rfl⟩ := List.mem_map.mp hmem
      exact h.replica_mem hack
    · grind [answers_iff]

theorem exists_of_forall₂ {α β : Type} {R : α → β → Prop} {l₁ : List α} {l₂ : List β}
    (h : List.Forall₂ R l₁ l₂) : ∀ a ∈ l₁, ∃ b ∈ l₂, R a b := by
  induction h with
  | nil => simp
  | cons hab _ ih => grind

/-- The index-by-index test says that every required replica is at the stage. -/
theorem State.Valid.allAcknowledged_iff (h : state.Valid) (stage : AckStage) :
    allAcknowledged state stage = true ↔ ∀ replica ∈ state.requiredReplicas,
      ∃ ack ∈ state.acks, Answers replica ack ∧ ack.stage = stage := by
  rw [Generation.allAcknowledged_iff]
  constructor
  · exact exists_of_forall₂
  · intro hall
    rw [← h.map_replica_eq fun replica hmem => (hall replica hmem).imp fun _ hack =>
      ⟨hack.1, hack.2.1⟩, List.forall₂_map_left_iff, List.forall₂_same]
    intro ack hack
    refine ⟨(answers_iff _ _).mpr rfl, ?_⟩
    -- the replica of `ack` has an acknowledgement at the stage, and it has no other one
    obtain ⟨other, hother, hanswers, hstage⟩ := hall ack.replica (h.replica_mem hack)
    rw [← List.inj_on_of_nodup_map h.acks_nodup hother hack hanswers.1]
    exact hstage

end Alignment

/-! ## Stages -/

section Stages

variable {acks : List Acknowledgement} {replicaID : String} {stage : AckStage}

theorem ackStage_eq_none : ackStage acks replicaID = none ↔
    ∀ ack ∈ acks, ack.replicaID ≠ replicaID := by
  simp [ackStage]

theorem ackStage_eq_some (hnodup : (acks.map Acknowledgement.replicaID).Nodup) : ackStage acks
    replicaID = some stage ↔ ∃ ack ∈ acks, ack.replicaID = replicaID ∧ ack.stage = stage := by
  simp only [ackStage, Option.map_eq_some_iff, Keyed.find?_key_eq_some hnodup, and_assoc]

end Stages

/-! ## One acknowledgement more -/

/-- The acknowledgement that a replica sends. -/
def sentAck (replica : ReplicaRef) (generation : Generation) (stage : AckStage) (time : ℤ) :
    Acknowledgement :=
  ⟨replica.id, replica.role, stage, generation.id, generation.receiptSHA256, time⟩

/-- An acknowledgement moved on to a stage. -/
def Acknowledgement.move (ack : Acknowledgement) (stage : AckStage) (time : ℤ) : Acknowledgement :=
  { ack with stage := stage, acknowledgedAt := time }

/-- `next` is `acks` with the acknowledgement `fresh` in the place of `old`, if there is one. -/
structure Renews (acks next : List Acknowledgement) (old : Option Acknowledgement)
    (fresh : Acknowledgement) (rest : List Acknowledgement) : Prop where
  next_perm : next.Perm (fresh :: rest)
  acks_perm : acks.Perm (old.toList ++ rest)
  old_id : ∀ ack ∈ old, ack.replicaID = fresh.replicaID
  rest_id : ∀ ack ∈ rest, ack.replicaID ≠ fresh.replicaID
  sorted : next.IsChain fun left right => ¬ right.replicaID < left.replicaID

section Renews

variable {acks next rest : List Acknowledgement} {old : Option Acknowledgement}
  {fresh : Acknowledgement} {replica : ReplicaRef} {generation : Generation} {stage : AckStage}
  {time : ℤ}

theorem sortAcks_sorted (acks : List Acknowledgement) :
    (sortAcks acks).IsChain fun left right => ¬ right.replicaID < left.replicaID :=
  Keyed.isChain_insertionSort Acknowledgement.replicaID acks

theorem sortAcks_perm (acks : List Acknowledgement) : (sortAcks acks).Perm acks :=
  List.perm_insertionSort _ acks

theorem updateAck_append (hfront : ∀
    other ∈ front, other.replicaID ≠ ack.replicaID) : updateAck ack.replicaID stage time (front ++
    ack :: back) = front ++ ack.move stage time :: back := by
  induction front with
  | nil =>
    rw [List.nil_append, updateAck, if_pos rfl]
    rfl
  | cons other front ih => grind [updateAck]

theorem withAck_sent (h : ∀ ack ∈ acks, ack.replicaID ≠ replica.id) :
    ∃ next, withAck acks replica generation stage time = some next ∧
      Renews acks next none (sentAck replica generation stage time) acks := by
  refine ⟨_, by rw [withAck, ackStage_eq_none.mpr h], ?_, by simp, by simp, h, sortAcks_sorted _⟩
  exact (sortAcks_perm _).trans (List.perm_append_singleton _ _)

theorem withAck_move (hnodup : (acks.map Acknowledgement.replicaID).Nodup)
    (hack : ack ∈ acks) (hid : ack.replicaID = replica.id) (hstage : ack.stage ≠ stage) :
    ∃ next rest, withAck acks replica generation stage time = some next ∧
      Renews acks next (some ack) (ack.move stage time) rest := by
  have hcurrent : ackStage acks replica.id = some ack.stage :=
    (ackStage_eq_some hnodup).mpr ⟨ack, hack, hid, rfl⟩
  obtain ⟨front, back, rfl⟩ := List.append_of_mem hack
  rw [List.map_append, List.map_cons, List.nodup_middle, List.nodup_cons, ← List.map_append]
    at hnodup
  have hothers : ∀ other ∈ front ++ back, other.replicaID ≠ ack.replicaID := fun other hmem heq =>
    hnodup.1 (heq ▸ List.mem_map_of_mem hmem)
  refine ⟨_, front ++ back, by rw [withAck, hcurrent]; exact if_neg hstage, ?_, ?_, ?_, hothers,
    sortAcks_sorted _⟩
  · grind [updateAck_append, List.mem_append_left, sortAcks_perm, List.perm_middle]
  · exact List.perm_middle
  · rintro _ ⟨⟩
    rfl

theorem mem_withAck (h : withAck acks replica generation stage time = some next)
    (hack : ack ∈ next) : ack ∈ acks ∨ ack = sentAck replica generation stage time
    ∨ ∃ old ∈ acks, old.replicaID = replica.id ∧ ack = old.move stage time := by
  have hupdate : ∀ acks : List Acknowledgement, ack ∈ updateAck replica.id stage time acks →
      ack ∈ acks ∨ ∃ old ∈ acks, old.replicaID = replica.id ∧ ack = old.move stage time := by
    intro acks
    fun_induction updateAck replica.id stage time acks with
    | case1 => simp
    | case2 old rest hid =>
      intro hmem
      rcases List.mem_cons.mp hmem with rfl | hmem
      · exact .inr ⟨old, List.mem_cons_self, hid, rfl⟩
      · exact .inl (List.mem_cons_of_mem _ hmem)
    | case3 old rest hid ih => grind
  unfold withAck at h
  cases hstage : ackStage acks replica.id with
  | none =>
    rw [hstage] at h
    obtain rfl := Option.some.inj h
    rcases List.mem_append.mp ((sortAcks_perm _).mem_iff.mp hack) with hold | hsent
    · exact .inl hold
    · exact .inr (.inl (List.mem_singleton.mp hsent))
  | some old =>
    rw [hstage] at h
    obtain ⟨-, hsorted⟩ := Option.ite_none_left_eq_some.mp h
    obtain rfl := Option.some.inj hsorted
    exact (hupdate acks ((sortAcks_perm _).mem_iff.mp hack)).imp_right .inr

theorem ackForPending_of_mem_withAck {state next : State} {acks : List Acknowledgement} (hpending :
    state.pending = some generation) (hall : ∀ ack ∈ state.acks, AckForPending state ack) (h :
    withAck state.acks replica generation stage time = some acks) (hack :
    ack ∈ acks) (hnext : next.pending = state.pending) : AckForPending next ack := by
  unfold AckForPending
  rw [hnext]
  rcases mem_withAck h hack with hold | rfl | ⟨old, hold, -, rfl⟩
  · exact hall ack hold
  · exact ⟨generation, hpending, by simp [sentAck]⟩
  · exact hall old hold

namespace Renews

section

variable (h : Renews acks next old fresh rest)

include h

theorem nodup (hnodup : (acks.map
    Acknowledgement.replicaID).Nodup) : (next.map Acknowledgement.replicaID).Nodup := by
  have hrest : (rest.map Acknowledgement.replicaID).Nodup := by
    have hall := (h.acks_perm.map _).nodup_iff.mp hnodup
    rw [List.map_append] at hall
    exact hall.of_append_right
  refine (h.next_perm.map _).nodup_iff.mpr (List.nodup_cons.mpr ⟨fun hmem => ?_, hrest⟩)
  obtain ⟨ack, hack, heq⟩ := List.mem_map.mp hmem
  exact h.rest_id ack hack heq

theorem mem_next : ack ∈ next ↔ ack = fresh ∨ ack ∈ rest := by
  rw [h.next_perm.mem_iff, List.mem_cons]

theorem mem_of_rest (hack : ack ∈ rest) : ack ∈ acks :=
  h.acks_perm.mem_iff.mpr (List.mem_append_right _ hack)

theorem mem_of_old (hack : ack ∈ old) : ack ∈ acks :=
  h.acks_perm.mem_iff.mpr (List.mem_append_left _ (Option.mem_toList.mpr hack))

theorem length_next : next.length + old.toList.length = acks.length + 1 := by
  rw [h.next_perm.length_eq, h.acks_perm.length_eq, List.length_append, List.length_cons]
  omega

theorem priorByID_fresh (hnodup : (acks.map
    Acknowledgement.replicaID).Nodup) : priorByID acks fresh.replicaID = old := by
  cases old with
  | none =>
    rw [priorByID, List.find?_eq_none]
    intro ack hack
    have hrest : ack ∈ rest := h.acks_perm.mem_iff.mp (List.mem_reverse.mp hack)
    simpa using h.rest_id ack hrest
  | some ack =>
    rw [priorByID, Keyed.find?_reverse_key_eq_some hnodup]
    exact ⟨h.mem_of_old rfl, h.old_id ack rfl⟩

end

end Renews

theorem mapM_eq_some_map {α β : Type} {g : α → Option β} {c : α → β} {l : List α}
    (h : ∀ a ∈ l, g a = some (c a)) : l.mapM g = some (l.map c) := by
  induction l with
  | nil => rfl
  | cons a l ih => grind

/-- The change of one acknowledgement counts as progress, if it is one that the stage allows. -/
theorem Renews.ackProgresses (h : Renews acks next old fresh rest) (hnodup : (acks.map
    Acknowledgement.replicaID).Nodup) (hchange : ackChange old stage fresh = some 1) :
    Generation.ackProgresses acks next stage = true := by
  have hlength := h.length_next
  have hold : old.toList.length ≤ 1 := by cases old <;> simp
  let count (ack : Acknowledgement) : ℕ := if ack.replicaID = fresh.replicaID then 1 else 0
  have hcounts : ∀ ack ∈ next,
      ackChange (priorByID acks ack.replicaID) stage ack = some (count ack) := by
    intro ack hack
    rcases h.mem_next.mp hack with rfl | hrest
    · rw [h.priorByID_fresh hnodup, hchange]
      simp [count]
    · have hprior : priorByID acks ack.replicaID = some ack :=
        (Keyed.find?_reverse_key_eq_some hnodup).mpr ⟨h.mem_of_rest hrest, rfl⟩
      rw [hprior]
      simp [ackChange, count, h.rest_id ack hrest]
  have hsum : (next.map count).sum = 1 := by
    have hrest : (rest.map count).sum = 0 := List.sum_eq_zero_iff.mpr fun n hn => by
      obtain ⟨ack, hack, rfl⟩ := List.mem_map.mp hn
      exact if_neg (h.rest_id ack hack)
    rw [(h.next_perm.map count).sum_eq, List.map_cons, List.sum_cons, hrest]
    simp [count]
  rw [Generation.ackProgresses, mapM_eq_some_map hcounts]
  simp only [Option.map_some, hsum, decide_true, Bool.and_true, Bool.and_eq_true, decide_eq_true_eq]
  omega

end Renews

end XiaozhiPlatform.Generation
