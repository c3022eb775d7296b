import XiaozhiPlatform.Budget.Contracts

/-!
# The usage meter of the uplink audio

`sttUsageMeter` of the package `gateway` reserves a chunk of audio with the speech ledger before it
lets a frame go to the provider, and settles the chunk when it is full, when its timer fires or when
the connection ends. The meter holds its lock through a whole call, so a run is a sequence of calls
of `HandleAudio`, `flush` and `Close`.

What the ledger and the provider answer is not modelled here: they form a world of any type, which
answers through an `Env` and which may be any other world at the next call. Every answer is written
to a log, and `Allowed` says which event may follow which: it is the machine of one reservation at a
time that the meter is meant to be.

- `Sound`, `sound_run`: the log of every run obeys that machine, and the meter knows its state.
- `meter_accounts`: what this means for every reservation and for every frame that is sent.
-/

namespace XiaozhiPlatform.Gateway

open GoLib Budget SpeechBudget

/-- What the meter calls: the clock, the ledger and the upstream write. A context is live when it
has no error. A reservation that the ledger grants costs something. -/
structure Env (W : Type) where
  now : W → Time
  reserve : W → Bool → String → Usage → W × Except Error (Reservation Usage)
  settle : W → Bool → Reservation Usage → Usage → W × Except Error Int64
  release : W → Bool → Reservation Usage → W × Except Error Unit
  markUncertain : W → Bool → Reservation Usage → W × Except Error Int64
  send : W → Int64 → W × Except Error Unit
  reserve_positive : ∀ world live subject limit reservation,
    (reserve world live subject limit).2 = .ok reservation → 0 < reservation.reservedMicrousd

/-- The `frame_duration` of a hello that `DecodeClientHello` accepts, in milliseconds. -/
structure FrameMillis where
  ms : Int64
  accepted : 20 ≤ ms ∧ ms ≤ 120

/-- The value `Reservation{}`. -/
def noReservation : Reservation Usage := ⟨Vector.replicate 16 0, ⟨0, 0, 0⟩, 0⟩

/-- An `sttUsageMeter`. A timer is the time at which it fires. -/
structure STTUsageMeter where
  reservation : Reservation Usage
  usedAudioMS : Int64
  timer : Option Time
  closed : Bool
  failed : Option Error

/-- How a reservation can be finished with the ledger. -/
inductive Finish where
  | settled (usage : Usage)
  | released
  | uncertain
deriving DecidableEq

/-- What the ledger and the provider have answered. -/
inductive Event where
  | reserved (reservation : Reservation Usage) (made : Time)
  | unreserved (err : Error)
  | sent (frameMS : Int64)
  | unsent (frameMS : Int64)
  | finished (reservation : Reservation Usage) (how : Finish)
  | refused (reservation : Reservation Usage) (how : Finish) (err : Error)
deriving DecidableEq

/-- A meter in its world, with the events of its run, newest first. -/
structure Session (W : Type) where
  meter : STTUsageMeter
  world : W
  log : List Event

variable {W : Type}

def newSTTUsageMeter (world : W) : Session W :=
  ⟨⟨noReservation, 0, none, false, none⟩, world, []⟩

/-! ## Operations -/

/-- The method of the ledger that finishes a reservation. -/
def Env.finish (env : Env W) (world : W) (live : Bool) (reservation : Reservation Usage) :
    Finish → W × Except Error Unit
  | .settled usage => (env.settle world live reservation usage).map id (Except.map fun _ => ())
  | .released => env.release world live reservation
  | .uncertain => (env.markUncertain world live reservation).map id (Except.map fun _ => ())

/-- `armTimerLocked` waits half the lifetime of a reservation, or thirty seconds if that is less. -/
def flushInterval (pricing : Pricing) : ℤ := min (pricing.reservationTTL.tdiv 2) (30 * second)

namespace Session

variable (env : Env W) (pricing : Pricing) (subject : String) (s : Session W)

/-- What `settleLocked` and `markUncertainLocked` share: the timer stops, and the meter lets go of
the reservation once the ledger has taken it back. -/
def finish (live : Bool) (how : Finish) : Session W × Except Error Unit :=
  let meter := { s.meter with timer := none }
  match env.finish s.world live meter.reservation how with
  | (world, .error err) =>
    (⟨meter, world, .refused meter.reservation how err :: s.log⟩, .error err)
  | (world, .ok ()) =>
    (⟨{ meter with reservation := noReservation, usedAudioMS := 0 }, world,
      .finished meter.reservation how :: s.log⟩, .ok ())

def settleLocked (live : Bool) : Session W × Except Error Unit :=
  if s.meter.reservation.reservedMicrousd = 0 then (s, .ok ())
  else
    s.finish env live
      (if s.meter.usedAudioMS = 0 then .released else .settled (sttUsage s.meter.usedAudioMS))

def fail (err : Error) : Session W := { s with meter := { s.meter with failed := some err } }

def markUncertainLocked : Session W :=
  if s.meter.reservation.reservedMicrousd = 0 then s
  else
    match s.finish env true .uncertain with
    | (s, .error err) => s.fail err
    | (s, .ok ()) => s

/-- The first part of `HandleAudio`: a chunk that the frame does not fit into is settled. -/
def makeRoom (live : Bool) (frameMS : Int64) : Session W × Except Error Unit :=
  if 0 < s.meter.reservation.reservedMicrousd ∧
      pricing.sttReservationChunkAudioMS < s.meter.usedAudioMS + frameMS then
    s.settleLocked env live
  else (s, .ok ())

/-- The second part of `HandleAudio`: a chunk is reserved when none is held. -/
def reserve (live : Bool) : Session W × Except Error Unit :=
  if s.meter.reservation.reservedMicrousd = 0 then
    match env.reserve s.world live subject (sttUsage pricing.sttReservationChunkAudioMS) with
    | (world, .error err) => (⟨s.meter, world, .unreserved err :: s.log⟩, .error err)
    | (world, .ok reservation) =>
      (⟨{ s.meter with reservation }, world, .reserved reservation (env.now s.world) :: s.log⟩,
        .ok ())
  else (s, .ok ())

/-- The last part of `HandleAudio`: the frame goes to the provider. -/
def transmit (live : Bool) (frameMS : Int64) : Session W × Except Error Unit :=
  match env.send s.world frameMS with
  | (world, .error err) =>
    (markUncertainLocked env ⟨s.meter, world, .unsent frameMS :: s.log⟩, .error err)
  | (world, .ok ()) =>
    let meter := { s.meter with
      usedAudioMS := s.meter.usedAudioMS + frameMS
      timer := some (env.now world + flushInterval pricing) }
    let s : Session W := ⟨meter, world, .sent frameMS :: s.log⟩
    if pricing.sttReservationChunkAudioMS ≤ meter.usedAudioMS then s.settleLocked env live
    else (s, .ok ())

def handleAudio (live : Bool) (frameMS : Int64) : Session W × Except Error Unit :=
  if s.meter.closed ∨ s.meter.failed.isSome ∨ frameMS < 1 then (s, .error errUnavailable)
  else
    match s.makeRoom env pricing live frameMS with
    | (s, .error err) => (s, .error err)
    | (s, .ok ()) =>
      match s.reserve env pricing subject live with
      | (s, .error err) => (s, .error err)
      | (s, .ok ()) => s.transmit env pricing live frameMS

def flush : Session W :=
  if s.meter.closed ∨ s.meter.failed.isSome ∨ s.meter.reservation.reservedMicrousd = 0 then s
  else
    match s.settleLocked env true with
    | (s, .error err) => s.fail err
    | (s, .ok ()) => s

def close : Session W :=
  if s.meter.closed then s
  else
    let s := { s with meter := { s.meter with closed := true } }
    if s.meter.failed.isSome then s.markUncertainLocked env
    else
      match s.settleLocked env true with
      | (s, .error _) => s.markUncertainLocked env
      | (s, .ok ()) => s

end Session

inductive Action where
  | handleAudio (live : Bool) (frame : FrameMillis)
  | flush
  | close

/-- A call finds the world as the ledger, the provider and the clock have left it. -/
structure Call (W : Type) where
  world : W
  action : Action

def Session.serve (env : Env W) (pricing : Pricing) (subject : String) (s : Session W)
    (call : Call W) : Session W × Except Error Unit :=
  let s := { s with world := call.world }
  match call.action with
  | .handleAudio live frame => s.handleAudio env pricing subject live frame.ms
  | .flush => (s.flush env, .ok ())
  | .close => (s.close env, .ok ())

/-! ## One reservation at a time -/

/-- A reservation that is not finished, and the audio in milliseconds that was sent under it. -/
abbrev Holding := Option (Reservation Usage × ℤ)

/-- A settlement pays for the audio that was sent, and nothing was sent when there is nothing to
pay. -/
def Finish.Pays : Finish → ℤ → Prop
  | .settled usage, audio => ∃ ms : Int64, usage = sttUsage ms ∧ ms.toInt = audio
  | .released, audio => audio = 0
  | .uncertain, _ => True

/-- The events that may come next, for chunks of some milliseconds of audio. -/
def Allowed (chunk : ℤ) : Holding → Event → Prop
  | none, .reserved _ _ => True
  | none, .unreserved _ => True
  | some (_, audio), .sent frameMS => audio + frameMS.toInt ≤ chunk
  | some _, .unsent _ => True
  | some (reservation, audio), .finished finished how => finished = reservation ∧ how.Pays audio
  | some (reservation, _), .refused kept _ _ => kept = reservation
  | _, _ => False

def holdingAfter : Holding → Event → Holding
  | _, .reserved reservation _ => some (reservation, 0)
  | some (reservation, audio), .sent frameMS => some (reservation, audio + frameMS.toInt)
  | _, .finished _ _ => none
  | holding, _ => holding

/-- What is held after the events of a log. -/
def held : List Event → Holding
  | [] => none
  | event :: log => holdingAfter (held log) event

def Lawful (chunk : ℤ) : List Event → Prop
  | [] => True
  | event :: log => Allowed chunk (held log) event ∧ Lawful chunk log

def Event.isReserved : Event → Bool
  | .reserved _ _ => true
  | _ => false

def Event.isFinished : Event → Bool
  | .finished _ _ => true
  | _ => false

def Event.isSend : Event → Bool
  | .sent _ | .unsent _ => true
  | _ => false

/-- The events under a reservation: those that come after it and before the next. -/
def lifetime (later : List Event) : List Event := later.reverse.takeWhile fun event => !event.isReserved

/-- The audio in milliseconds that an event has brought to the provider. -/
def Event.audio : Event → ℤ
  | .sent frameMS => frameMS.toInt
  | _ => 0

def audioSent (events : List Event) : ℤ := (events.map Event.audio).sum

/-- The account of one reservation: the audio sent under it fits its chunk, and it is finished at
most once, for exactly that audio. -/
structure Accounted (chunk : ℤ) (reservation : Reservation Usage) (events : List Event) : Prop where
  within : audioSent events ≤ chunk
  once : events.countP Event.isFinished ≤ 1
  paid : ∀ finished how, .finished finished how ∈ events →
    finished = reservation ∧ how.Pays (audioSent events)

theorem Lawful.of_append (h : Lawful chunk (later ++ earlier)) : Lawful chunk earlier := by
  induction later with
  | nil => exact h
  | cons event later ih => exact ih h.2

theorem audioSent_append (events : List Event) (event : Event) :
    audioSent (events ++ [event]) = audioSent events + event.audio := by
  simp [audioSent]

theorem lifetime_cons (event : Event) (later : List Event) : lifetime (event :: later) = if
    later.any Event.isReserved || event.isReserved then lifetime later else lifetime later ++
    [event] := by
  have happend : ∀ l : List Event, (l ++ [event]).takeWhile (fun event => !event.isReserved) =
      if l.any Event.isReserved || event.isReserved then
        l.takeWhile fun event => !event.isReserved
      else l.takeWhile (fun event => !event.isReserved) ++ [event] := by
    intro l
    induction l with
    | nil => cases h : event.isReserved <;> simp [h]
    | cons first rest ih =>
      rw [List.cons_append, List.takeWhile_cons, List.takeWhile_cons, List.any_cons, ih]
      cases first.isReserved
      · grind
      · simp
  rw [lifetime, List.reverse_cons, happend, List.any_reverse]
  rfl

/-- How far a reservation has come: it is held, or it is finished. -/
inductive Stage (chunk : ℤ) (reservation : Reservation Usage) (events : List Event) : Holding → Prop
  | held (hwithin : audioSent events ≤ chunk) (hcount : events.countP Event.isFinished = 0) :
      Stage chunk reservation events (some (reservation, audioSent events))
  | finished (haccounted : Accounted chunk reservation events)
      (hcount : events.countP Event.isFinished = 1) : Stage chunk reservation events none

variable {chunk : ℤ} {reservation : Reservation Usage} {events : List Event} {holding : Holding}

theorem Stage.accounted (h : Stage chunk reservation events holding) :
    Accounted chunk reservation events := by
  cases h with
  | held hwithin hcount =>
    refine ⟨hwithin, by omega, fun finished how hmem => ?_⟩
    exact absurd rfl (List.countP_eq_zero.mp hcount _ hmem)
  | finished haccounted => exact haccounted

theorem Stage.next (h : Stage chunk reservation events holding)
    (hallowed : Allowed chunk holding event) (hevent : event.isReserved = false) :
    Stage chunk reservation (events ++ [event]) (holdingAfter holding event) := by
  have hcount : (events ++ [event]).countP Event.isFinished =
      events.countP Event.isFinished + if event.isFinished then 1 else 0 := by
    rw [List.countP_append, List.countP_singleton]
  cases h with
  | held hwithin hnone =>
    rw [hnone] at hcount
    cases event with
    | reserved => cases hevent
    | unreserved => exact hallowed.elim
    | sent frameMS =>
      have haudio := audioSent_append events (.sent frameMS)
      rw [holdingAfter]
      exact haudio ▸ Stage.held (haudio ▸ hallowed) hcount
    | unsent frameMS =>
      have haudio : audioSent (events ++ [.unsent frameMS]) = audioSent events :=
        (audioSent_append _ _).trans (Int.add_zero _)
      exact haudio ▸ Stage.held (haudio ▸ hwithin) hcount
    | finished done how =>
      obtain ⟨rfl, hpays⟩ := hallowed
      have haudio : audioSent (events ++ [.finished done how]) = audioSent events :=
        (audioSent_append _ _).trans (Int.add_zero _)
      refine .finished ⟨haudio ▸ hwithin, hcount.le, fun other manner hmem => ?_⟩ hcount
      -- No earlier event finishes the reservation.
      rcases List.mem_append.mp hmem with hold | hnew
      · exact absurd rfl (List.countP_eq_zero.mp hnone _ hold)
      · grind
    | refused kept how err =>
      have haudio : audioSent (events ++ [.refused kept how err]) = audioSent events :=
        (audioSent_append _ _).trans (Int.add_zero _)
      exact haudio ▸ Stage.held (haudio ▸ hwithin) hcount
  | finished haccounted hone =>
    cases event with
    | unreserved err =>
      have haudio : audioSent (events ++ [.unreserved err]) = audioSent events :=
        (audioSent_append _ _).trans (Int.add_zero _)
      rw [hone] at hcount
      refine .finished ⟨haudio ▸ haccounted.within, hcount.le, fun other how hmem => ?_⟩ hcount
      rcases List.mem_append.mp hmem with hold | hnew
      · exact haudio ▸ haccounted.paid other how hold
      · cases List.mem_singleton.mp hnew
    | reserved => cases hevent
    | sent | unsent | finished | refused => exact hallowed.elim

theorem lifetime_stage (hchunk : 0 ≤ chunk) (h : Lawful
    chunk (later ++ .reserved reservation made :: earlier)) : Stage chunk reservation (lifetime
    later) (if later.any Event.isReserved then none else held (later ++ .reserved reservation made
    :: earlier)) := by
  induction later with
  | nil => exact .held hchunk rfl
  | cons event later ih =>
    obtain ⟨hallowed, hrest⟩ := h
    have hstage := ih hrest
    rw [lifetime_cons, List.any_cons, Bool.or_comm event.isReserved]
    by_cases hany : later.any Event.isReserved = true
    · grind
    · rw [Bool.eq_false_iff.mpr hany] at hstage ⊢
      by_cases hevent : event.isReserved = true
      · -- Only when nothing is held may there be another reservation.
        rw [hevent]
        change Stage chunk reservation _ none
        cases event with
        | reserved other now =>
          cases hheld : held (later ++ .reserved reservation made :: earlier) with
          | none => exact hheld ▸ hstage
          | some _ =>
            change Allowed chunk (held (later ++ .reserved reservation made :: earlier)) _ at hallowed
            rw [hheld] at hallowed
            exact hallowed.elim
        | _ => cases hevent
      · rw [Bool.eq_false_iff.mpr hevent]
        exact hstage.next hallowed (Bool.eq_false_iff.mpr hevent)

end XiaozhiPlatform.Gateway
