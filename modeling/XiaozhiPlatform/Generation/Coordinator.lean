import XiaozhiPlatform.Generation.Disk

/-!
# What an operation does

The operations of the coordinator as functions on the store in memory: `Request.effect` is the
store that a request leaves, the records that it commits on the way and the error that it returns.
The procedures of the store refine these functions:

- `wp_run`: when no system call fails, a request that returns has exactly its effect, on the
  store and in the directory; when the machine goes down in the middle of it, the directory keeps
  the old history with a first part of the records of that effect.
- `effect_trail`: every record of an effect comes from a `Move`.
-/

namespace XiaozhiPlatform.Generation

open GoLib

/-! ## Effects -/

/-- What a procedure does to the coordinator in memory. -/
structure Effect where
  store : Store
  /-- The records committed on the way, the newest first. -/
  committed : List State
  result : Except Error Unit

namespace Effect

/-- Nothing is committed. -/
def idle (store : Store) (result : Except Error Unit) : Effect := ⟨store, [], result⟩

/-- One effect after the other; an error skips the second. -/
def andThen (first : Effect) (second : Store → Effect) : Effect :=
  match first.result with
  | .error _ => first
  | .ok () =>
    ⟨(second first.store).store, (second first.store).committed ++ first.committed,
      (second first.store).result⟩

/-- `commitLocked`. -/
def commit (store : Store) (next : State) : Effect :=
  match checkCommit store next with
  | .error e => idle store (.error e)
  | .ok () => ⟨store.committed next, [sign store.key next], .ok ()⟩

/-- A decision that names the record to commit. -/
def ofRecord (store : Store) (decision : Except Error State) : Effect :=
  match decision with
  | .error e => idle store (.error e)
  | .ok next => commit store next

/-- `converge`. -/
def converge (now : Time) (store : Store) : Effect :=
  if allAcknowledged store.state .active then commit store (makeStable (nextLocked store now))
  else idle store (.ok ())

/-- The part of `advanceDrain` once the start of the drain is set. -/
def flip (now : Time) (store : Store) : Effect :=
  if unix now < store.state.drainUntil ∨ now - store.drainStarted < drainDuration then
    idle store (.ok ())
  else commit store (flipRecord store now)

/-- `advanceDrain`. -/
def advanceDrain (now : Time) (store : Store) : Effect :=
  flip now (if store.drainStarted = zeroTime then store.drainingSince now else store)

/-- The part of `Acknowledge` after its decision. -/
def ofAction (now : Time) (store : Store) : AckAction → Effect
  | .expire next => (commit store next).andThen fun store => idle store (.error errExpired)
  | .unchanged => idle store (.ok ())
  | .record next => commit store next
  | .drain next => commit (store.drainingSince now) next
  | .activate next => (commit store next).andThen (converge now)

end Effect

/-- A call of one of the operations, with its arguments. -/
inductive Request where
  | publish (expectedRevision : UInt64) (expectedActive pending : Generation)
      (prepareTimeout commitTimeout : ℤ) (now : Time)
  | abort (expectedRevision : UInt64) (pending : Generation) (now : Time)
  | acknowledge (expectedRevision : UInt64) (replica : ReplicaRef) (generation : Generation)
      (stage : String) (now : Time)
  | advance (now : Time)

namespace Request

/-- The reading of the clock that the request carries. -/
def now : Request → Time
  | publish _ _ _ _ _ now => now
  | abort _ _ now => now
  | acknowledge _ _ _ _ now => now
  | advance now => now

/-- The operation that the request calls. -/
def run : Request → Proc Store (State × Option Error)
  | publish revision active pending prepareTimeout commitTimeout now =>
    Generation.publish revision active pending prepareTimeout commitTimeout now
  | abort revision pending now => Generation.abort revision pending now
  | acknowledge revision replica generation stage now =>
    Generation.acknowledge revision replica generation stage now
  | advance now => Generation.advance now

/-- The effect of the operation. -/
def effect (store : Store) : Request → Effect
  | publish revision active pending prepareTimeout commitTimeout now =>
    .ofRecord store
      (publishRecord store revision active pending prepareTimeout commitTimeout now)
  | abort revision pending now => .ofRecord store (abortRecord store revision pending now)
  | acknowledge revision replica generation stage now =>
    match acknowledgeAction store revision replica generation stage now with
    | .error e => .idle store (.error e)
    | .ok action => .ofAction now store action
  | advance now =>
    match failIf (¬ ValidTime now) (.text "generation coordinator time is invalid") with
    | .error e => .idle store (.error e)
    | .ok () =>
      match store.state.phase with
      | .stable => .idle store (.ok ())
      | .preparing =>
        if unix now ≤ store.state.prepareDeadline then .idle store (.ok ())
        else .commit store (makeStable (nextLocked store now))
      | .draining => .advanceDrain now store
      | .committing => .converge now store

end Request

/-! ## Trails

What an operation can do, step by step: set the start of the drain while there is none, and
commit records that come from a `Move`. -/

/-- The store and the history that an operation at the time `now` can reach. -/
inductive Trail (key : List UInt8) (now : Time) : Store → List State → Store → List State → Prop
  | refl (store : Store) (history : List State) : Trail key now store history store history
  | touch {store last : Store} {history longer : List State}
      (hphase : store.state.phase ≠ .draining ∨ store.drainStarted = zeroTime)
      (hrest : Trail key now (store.drainingSince now) history last longer) :
      Trail key now store history last longer
  | commit {store last : Store} {history longer : List State} {next : State}
      (hmove : Move store now next) (hcheck : checkCommit store next = .ok ())
      (hrest : Trail key now (store.committed next) (sign key next :: history) last longer) :
      Trail key now store history last longer

namespace Trail

variable {key : List UInt8} {now : Time} {store middle last : Store}
  {history between longer : List State}

theorem trans (first : Trail key now store history middle between) (second : Trail key now middle
    between last longer) : Trail key now store history last longer := by
  induction first with
  | refl => exact second
  | touch hphase _ ih => exact .touch hphase (ih second)
  | commit hmove hcheck _ ih => exact .commit hmove hcheck (ih second)

section

variable (h : Trail key now store history last longer)

include h

theorem running (hrun : Running key store history) : Running key last longer := by
  induction h with
  | refl => exact hrun
  | touch _ _ ih => exact ih ⟨hrun.chain, hrun.newest, hrun.key_eq, hrun.digest⟩
  | commit hmove hcheck _ ih => exact ih (hrun.commit hmove hcheck)

theorem suffix : history <:+ longer := by
  induction h with
  | refl => exact List.suffix_refl _
  | touch _ _ ih => exact ih
  | commit _ _ _ ih => exact (List.suffix_cons _ _).trans ih

end

end Trail

/-- An effect is made of moves: its records extend the history along a trail. -/
def Effect.Trails (key : List UInt8) (now : Time) (store : Store) (effect : Effect) : Prop :=
  ∀ history, Trail key now store history effect.store (effect.committed ++ history)

namespace Effect

variable {key : List UInt8} {now : Time} {store : Store} {next : State}

theorem trails_idle (result : Except Error Unit) : (idle store result).Trails key now store :=
  fun history => .refl store history

theorem trails_commit (hkey : store.key = key) (hmove : Move store now next) :
    (commit store next).Trails key now store := by
  intro history
  unfold commit
  cases hcheck : checkCommit store next with
  | error e => exact .refl store history
  | ok => exact hkey ▸ .commit hmove hcheck (.refl _ _)

theorem trails_andThen {first : Effect} {second : Store → Effect} (hfirst : first.Trails key now
    store) (hsecond : first.result = .ok () → (second first.store).Trails key now first.store) :
    (first.andThen second).Trails key now store := by
  intro history
  unfold andThen
  cases hresult : first.result with
  | error e => exact hfirst history
  | ok =>
    rw [List.append_assoc]
    exact (hfirst history).trans (hsecond hresult _)

theorem trails_converge (hkey : store.key = key) (hphase : store.state.phase = .committing) :
    (converge now store).Trails key now store := by
  unfold converge
  split
  case isTrue hall => exact trails_commit hkey (.converge hphase hall)
  case isFalse => exact trails_idle _

end Effect

/-! ### Decisions are moves -/

variable {action : AckAction} {revision : UInt64}

section Decisions

variable {store : Store} {now : Time} {next : State}

theorem move_of_publishRecord {active pending : Generation} {prepareTimeout
    commitTimeout : ℤ} (h : publishRecord store revision active pending prepareTimeout commitTimeout
    now = .ok next) : Move store now next := by
  simp only [publishRecord, failIf_bind_eq_ok, not_or, not_not, not_lt, sameGeneration_iff] at h
  obtain ⟨⟨-, hphase, rfl⟩, ⟨hpending, hsequence, hid, hp1, hp2, hc1, hc2, hnow⟩, hnext⟩ := h
  obtain rfl := Except.ok.inj hnext
  exact .publish hphase hnow hpending hsequence hid ⟨hp1, hp2⟩ ⟨hc1, hc2⟩

theorem move_of_abortRecord {pending : Generation}
    (h : abortRecord store revision pending now = .ok next) : Move store now next := by
  simp only [abortRecord, failIf_bind_eq_ok, not_or, not_not] at h
  obtain ⟨⟨-, hphase, -⟩, hnext⟩ := h
  obtain rfl := Except.ok.inj hnext
  exact .retreat hphase

/-- The moves behind the actions of `Acknowledge`. -/
def AckAction.Legal (store : Store) (now : Time) : AckAction → Prop
  | .expire next => Move store now next
  | .unchanged => True
  | .record next => Move store now next
  | .drain next => store.state.phase = .preparing ∧ Move (store.drainingSince now) now next
  | .activate next => next.phase = .committing ∧ Move store now next

theorem legal_of_acknowledgeAction {replica : ReplicaRef} {generation :
    Generation} {stage : String} (h : acknowledgeAction store revision replica
    generation stage now = .ok action) : action.Legal store now := by
  simp only [acknowledgeAction, failIf_bind_eq_ok, not_or, not_not, containsReplica_iff] at h
  obtain ⟨⟨-, hreplica, hnow⟩, h⟩ := h
  split at h
  · simp only [failIf_bind_eq_ok, not_or, not_not, samePending_iff] at h
    obtain ⟨⟨hphase, pending, hpending, hgeneration⟩, h⟩ := h
    obtain rfl := Option.some.inj hgeneration
    split at h
    · obtain rfl := Except.ok.inj h
      exact .retreat hphase
    case isFalse hdeadline =>
      obtain rfl := Except.ok.inj h
      unfold preparedAction
      rw [acks_nextLocked]
      cases hacks : withAck store.state.acks replica generation .prepared (unix now) with
      | none => trivial
      | some acks =>
        dsimp only
        split
        · exact ⟨hphase, .drain hphase hnow hreplica hpending (not_lt.mp hdeadline) hacks rfl⟩
        · exact .prepare hphase hnow hreplica hpending (not_lt.mp hdeadline) hacks
  · simp only [failIf_bind_eq_ok, not_or, not_not, sameGeneration_iff, samePending_iff] at h
    obtain ⟨⟨hphase, rfl, ⟨pending, hpending, hgeneration⟩, hstage⟩, h⟩ := h
    obtain rfl := Option.some.inj hgeneration
    obtain rfl := Except.ok.inj h
    unfold activeAction
    rw [acks_nextLocked]
    cases hacks : withAck store.state.acks replica store.state.active .active (unix now) with
    | none => trivial
    | some acks => exact ⟨hphase, .activate hphase hnow hreplica hpending hstage hacks⟩
  · cases h

end Decisions

variable {key : List UInt8} {store : Store}

theorem Effect.trails_ofAction {now : Time} (hkey : store.key = key)
    (hlegal : action.Legal store now) : (Effect.ofAction now store action).Trails key now store :=
    by
  cases action with
  | expire next => exact trails_andThen (trails_commit hkey hlegal) fun _ => trails_idle _
  | unchanged => exact trails_idle _
  | record next => exact trails_commit hkey hlegal
  | drain next =>
    obtain ⟨hphase, hmove⟩ := hlegal
    have hstarted : (store.drainingSince now).key = key := hkey
    refine fun history => .touch (.inl ?_) (trails_commit hstarted hmove history)
    rw [hphase]
    decide
  | activate next =>
    refine trails_andThen (trails_commit hkey hlegal.2) fun hcommitted => ?_
    unfold commit at hcommitted ⊢
    cases hcheck : checkCommit store next with
    | error e =>
      rw [hcheck] at hcommitted
      cases hcommitted
    | ok => exact trails_converge hkey hlegal.1

section

variable {now : Time} (hkey : store.key = key) (hnow : ValidTime now)
  (hphase : store.state.phase = .draining)

include hkey hnow hphase

theorem Effect.trails_flip : (Effect.flip now store).Trails key now store := by
  unfold flip
  split
  · exact trails_idle _
  case isFalse hdrained =>
    rw [not_or, not_lt, not_lt] at hdrained
    exact trails_commit hkey (.flip hphase hnow hdrained.1 hdrained.2)

theorem Effect.trails_advanceDrain : (Effect.advanceDrain now store).Trails key now store := by
  unfold advanceDrain
  by_cases hzero : store.drainStarted = zeroTime
  · rw [if_pos hzero]
    have hstarted : (store.drainingSince now).key = key := hkey
    exact fun history => .touch (.inr hzero) (trails_flip hstarted hnow hphase history)
  · rw [if_neg hzero]
    exact trails_flip hkey hnow hphase

end

/-- Whatever a request does is made of moves. -/
theorem effect_trail (hkey : store.key = key) (request : Request) :
    (request.effect store).Trails key request.now store := by
  cases request with
  | publish revision active pending prepareTimeout commitTimeout now =>
    rw [Request.effect]
    cases h : publishRecord store revision active pending prepareTimeout commitTimeout now with
    | error e => exact Effect.trails_idle _
    | ok next => exact Effect.trails_commit hkey (move_of_publishRecord h)
  | abort revision pending now =>
    rw [Request.effect]
    cases h : abortRecord store revision pending now with
    | error e => exact Effect.trails_idle _
    | ok next => exact Effect.trails_commit hkey (move_of_abortRecord h)
  | acknowledge revision replica generation stage now =>
    rw [Request.effect]
    cases h : acknowledgeAction store revision replica generation stage now with
    | error e => exact Effect.trails_idle _
    | ok action => exact Effect.trails_ofAction hkey (legal_of_acknowledgeAction h)
  | advance now =>
    rw [Request.effect]
    by_cases hnow : ValidTime now
    · rw [failIf_of_neg (not_not.mpr hnow)]
      cases hphase : store.state.phase with
      | stable => exact Effect.trails_idle _
      | preparing =>
        dsimp only
        split
        · exact Effect.trails_idle _
        · exact Effect.trails_commit hkey (.retreat hphase)
      | draining => exact Effect.trails_advanceDrain hkey hnow hphase
      | committing => exact Effect.trails_converge hkey hphase
    · rw [failIf_of_pos hnow]
      exact Effect.trails_idle _

/-! ## The procedures refine the effects -/

/-- The procedure has returned with its effect on the store and in the directory. -/
structure Done (key : List UInt8) (F : List Fault) (history : List State) (effect : Effect)
    (result : Except Error Unit) (store : Store) (disk : Disk) : Prop where
  result_eq : result = effect.result
  store_eq : store = effect.store
  faults : disk.faults ⊆ F
  up : Up key store (effect.committed ++ history) disk.directory

/-- The machine has gone down: the directory keeps the history, extended by the first of the
records of the effect. -/
structure Cut (F : List Fault) (history : List State) (effect : Effect) (directory : Directory) :
    Prop where
  crash : Fault.crash ∈ F
  holds : directory.Always fun entries =>
    ∃ part, part <:+ effect.committed ∧ Holds (part ++ history) entries

variable {effect : Effect}

section Refinement

variable {F : List Fault} {history : List State} {d : Disk} {now : Time} {next : State}

/-- A body of an operation does what the effect says, from any running coordinator. -/
def Performs (key : List UInt8) (F : List Fault) (history : List State) (body : Proc Store Unit)
    (store : Store) (effect : Effect) : Prop :=
  ∀ d : Disk, d.faults ⊆ F → Up key store history d.directory →
    wp body (Done key F history effect) (Cut F history effect) store d

theorem performs_idle (result : Except Error Unit) :
    Performs key F history (Proc.ofExcept result) store (.idle store result) :=
  fun _ hd hup => ⟨rfl, rfl, hd, hup⟩

theorem performs_commit (hF : Fault.error ∉ F) (hmove : Move store now next) :
    Performs key F history (commitLocked next) store (.commit store next) := by
  intro d hd hup
  refine wp_commitLocked hF hd hup hmove (fun e hreject => ?_) (fun hcrash hcheck directory h => ?_)
    fun hcheck later hfaults hlater => ?_
  · rw [Effect.commit, hreject]
    exact ⟨rfl, rfl, hd, hup⟩
  · rw [Effect.commit, hcheck]
    refine ⟨hcrash, h.mono fun entries hholds => ?_⟩
    rcases hholds with hold | hnew
    · exact ⟨[], List.nil_suffix, hold⟩
    · exact ⟨_, List.suffix_refl _, hup.key_eq ▸ hnew⟩
  · rw [Effect.commit, hcheck]
    exact ⟨rfl, rfl, hfaults, hup.key_eq.symm ▸ hlater⟩

theorem performs_bind {first second : Proc Store Unit} {after : Store → Effect}
    (hfirst : Performs key F history first store effect) (hsecond : effect.result = .ok () →
    Performs key F (effect.committed ++ history) second effect.store (after effect.store)) :
    Performs key F history (first >>= fun _ => second) store (effect.andThen after) := by
  intro d hd hup
  rw [wp_bind]
  refine wp_mono (hfirst d hd hup) (fun result s later hdone => ?_) fun directory hcut => ?_
  · obtain ⟨rfl, rfl, hfaults, hlater⟩ := hdone
    unfold Effect.andThen
    cases hresult : effect.result with
    | error e => exact ⟨hresult.symm, rfl, hfaults, hlater⟩
    | ok =>
      refine wp_mono (hsecond hresult later hfaults hlater) (fun result s last hdone => ?_)
        fun directory hcut => ?_
      · exact ⟨hdone.result_eq, hdone.store_eq, hdone.faults,
          List.append_assoc _ _ _ ▸ hdone.up⟩
      · refine ⟨hcut.crash, hcut.holds.mono fun entries hpart => ?_⟩
        obtain ⟨part, hsuffix, hholds⟩ := hpart
        rw [← List.append_assoc] at hholds
        obtain ⟨rest, hrest⟩ := hsuffix
        exact ⟨part ++ effect.committed, ⟨rest, by rw [← List.append_assoc, hrest]⟩, hholds⟩
  · refine ⟨hcut.crash, hcut.holds.mono fun entries hpart => ?_⟩
    obtain ⟨part, hsuffix, hholds⟩ := hpart
    refine ⟨part, ?_, hholds⟩
    unfold Effect.andThen
    cases effect.result with
    | error e => exact hsuffix
    | ok => exact hsuffix.trans (List.suffix_append _ _)

theorem performs_receiver {body : Store → Proc Store Unit}
    (h : Performs key F history (body store) store effect) :
    Performs key F history (Proc.receiver >>= body) store effect :=
  fun d hd hup => (wp_bind _ _).mpr (h d hd hup)

theorem performs_error {α : Type} (e : Error) (body : α → Proc Store Unit) : Performs key F history
    (liftM (Except.error e : Except Error α) >>= body) store (.idle store (.error e)) :=
  fun _ hd hup => ⟨rfl, rfl, hd, hup⟩

theorem performs_ok {α : Type} {a : α} {body : α → Proc Store Unit}
    (h : Performs key F history (body a) store effect) :
    Performs key F history (liftM (Except.ok a : Except Error α) >>= body) store effect :=
  fun d hd hup => (wp_bind _ _).mpr (h d hd hup)

theorem performs_ofRecord (hF : Fault.error ∉ F) {decision : Except Error State} (hmove : ∀ next,
    decision = .ok next → Move store now next) : Performs key F history (liftM decision >>=
    commitLocked) store (.ofRecord store decision) := by
  cases hdecision : decision with
  | error e => exact performs_error e _
  | ok next => exact performs_ok (performs_commit hF (hmove next hdecision))

theorem performs_converge (hF : Fault.error ∉ F) (hphase : store.state.phase = .committing) :
    Performs key F history (converge now) store (.converge now store) := by
  refine performs_receiver ?_
  unfold Effect.converge
  split
  case isTrue hall => exact performs_commit hF (.converge hphase hall)
  case isFalse => exact performs_idle (.ok ())

theorem performs_update {f : Store → Store} {body : Proc Store Unit}
    (hf : ∀ history, Running key store history → Running key (f store) history)
    (h : Performs key F history body (f store) effect) :
    Performs key F history (Proc.update f >>= fun _ => body) store effect :=
  fun d hd hup => (wp_bind _ _).mpr
    (h d hd ⟨hf history hup.toRunning, hup.holds, hup.tidy⟩)

theorem running_drainingSince (history : List State) (h : Running key store history) :
    Running key (store.drainingSince now) history :=
  ⟨h.chain, h.newest, h.key_eq, h.digest⟩

theorem performs_action (hF : Fault.error ∉ F) (hlegal : action.Legal store now) :
    Performs key F history (performAction now action) store (.ofAction now store action) := by
  cases action with
  | expire next =>
    change Performs key F history _ store
      ((Effect.commit store next).andThen fun store => .idle store (.error errExpired))
    exact performs_bind (performs_commit hF hlegal) fun _ => performs_idle _
  | unchanged => exact performs_idle (.ok ())
  | record next => exact performs_commit hF hlegal
  | drain next => exact performs_update running_drainingSince (performs_commit hF hlegal.2)
  | activate next =>
    refine performs_bind (performs_commit hF hlegal.2) fun hcommitted => ?_
    unfold Effect.commit at hcommitted ⊢
    cases hcheck : checkCommit store next with
    | error e =>
      rw [hcheck] at hcommitted
      cases hcommitted
    | ok => exact performs_converge hF hlegal.1

theorem performs_advanceDrain (hF : Fault.error ∉ F) (hnow : ValidTime now)
    (hphase : store.state.phase = .draining) :
    Performs key F history (advanceDrain now) store (.advanceDrain now store) := by
  have hflip : ∀ started : Store, started.state.phase = .draining → Performs key F history
      (Proc.receiver >>= fun store =>
        if unix now < store.state.drainUntil ∨ now - store.drainStarted < drainDuration then pure ()
        else commitLocked (flipRecord store now)) started (.flip now started) := by
    intro started hphase
    refine performs_receiver ?_
    unfold Effect.flip
    split
    · exact performs_idle (.ok ())
    case isFalse hdrained =>
      rw [not_or, not_lt, not_lt] at hdrained
      exact performs_commit hF (.flip hphase hnow hdrained.1 hdrained.2)
  refine performs_update (fun history h => ?_) (hflip _ ?_)
  · split
    · exact running_drainingSince history h
    · exact h
  · split <;> exact hphase

/-- What an operation hands out. -/
def Effect.reply (effect : Effect) : State × Option Error :=
  (cloneState effect.store.state, match effect.result with
    | .ok () => none
    | .error e => some e)

/-- The outcome of a request, when no system call fails. -/
structure Answered (key : List UInt8) (F : List Fault) (history : List State) (effect : Effect)
    (reply : Except Error (State × Option Error)) (store : Store) (disk : Disk) : Prop where
  reply_eq : reply = .ok effect.reply
  store_eq : store = effect.store
  faults : disk.faults ⊆ F
  up : Up key store (effect.committed ++ history) disk.directory

theorem wp_replying {body : Proc Store Unit} (h : Performs key F history body
    store effect) (hd : d.faults ⊆ F) (hup : Up key store history d.directory) : wp (replying body)
    (Answered key F history effect) (Cut F history effect) store d := by
  unfold replying
  rw [wp_bind, wp_attempt]
  refine wp_mono (h d hd hup) (fun result s later hdone => ?_) fun _ hcut => hcut
  obtain ⟨rfl, rfl, hfaults, hup⟩ := hdone
  exact ⟨rfl, rfl, hfaults, hup⟩

/-- A request that returns has its effect on the store and in the directory; a crash in the
middle of it leaves the history with a first part of the records of that effect. -/
theorem wp_run (hF : Fault.error ∉ F) (hd : d.faults ⊆ F) (hup : Up key store history d.directory)
    (request : Request) : wp request.run (Answered key F history (request.effect store)) (Cut F
    history (request.effect store)) store d := by
  cases request with
  | publish revision active pending prepareTimeout commitTimeout now =>
    exact wp_replying (performs_receiver (performs_ofRecord hF fun _ => move_of_publishRecord))
      hd hup
  | abort revision pending now =>
    exact wp_replying (performs_receiver (performs_ofRecord hF fun _ => move_of_abortRecord))
      hd hup
  | acknowledge revision replica generation stage now =>
    refine wp_replying (performs_receiver ?_) hd hup
    rw [Request.effect]
    cases h : acknowledgeAction store revision replica generation stage now with
    | error e => exact performs_error e _
    | ok action => exact performs_ok (performs_action hF (legal_of_acknowledgeAction h))
  | advance now =>
    refine wp_replying (performs_receiver ?_) hd hup
    rw [Request.effect]
    by_cases hnow : ValidTime now
    · rw [failIf_of_neg (not_not.mpr hnow)]
      refine performs_ok ?_
      cases hphase : store.state.phase with
      | stable => exact performs_idle (.ok ())
      | preparing =>
        dsimp only
        split
        · exact performs_idle (.ok ())
        · exact performs_commit hF (.retreat hphase)
      | draining => exact performs_advanceDrain hF hnow hphase
      | committing => exact performs_converge hF hphase
    · rw [failIf_of_pos hnow]
      exact performs_error _ _

theorem run_eq (hup : Up key store history directory) (request : Request) :
    ∃ later, request.run store ⟨directory, []⟩ = .returned (.ok (request.effect store).reply)
    (request.effect store).store later ∧ Up key (request.effect store).store ((request.effect
    store).committed ++ history) later.directory := by
  have hwp := wp_run (F := []) (d := ⟨directory, []⟩) List.not_mem_nil (List.Subset.refl _) hup
    request
  cases hrun : request.run store ⟨directory, []⟩ with
  | returned reply after later =>
    obtain ⟨rfl, rfl, -, hafter⟩ := wp_returned hwp hrun
    exact ⟨later, rfl, hafter⟩
  | crashed down => exact absurd (wp_crashed hwp hrun).crash List.not_mem_nil

end Refinement

end XiaozhiPlatform.Generation
