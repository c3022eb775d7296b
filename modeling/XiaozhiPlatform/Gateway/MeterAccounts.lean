import XiaozhiPlatform.Gateway.SpeechMeter

/-!
# The account of the usage meter

Every operation of the meter keeps its log lawful and knows what is held. The lemmas follow the
operations: each says what an operation needs, and what it leaves to the next when it has no error.

- `sound_run`: every state of a run is sound.
- `settled_run`: what a closed meter has left unfinished.
- `meter_accounts`: the account of a whole run.
-/

namespace XiaozhiPlatform.Gateway

open GoLib Budget SpeechBudget

variable {W : Type} {env : Env W} {pricing : Pricing} {subject : String} {s : Session W}
  {chunk : ℤ} {live : Bool} {how : Finish} {frameMS : Int64}

theorem FrameMillis.toInt_bounds (frame : FrameMillis) : 0 ≤ frame.ms.toInt ∧ frame.ms.toInt ≤ 120 := by
  obtain ⟨hmin, hmax⟩ := frame.accepted
  rw [Int64.le_iff_toInt_le] at hmin hmax
  exact ⟨Int.le_trans (by decide) hmin, hmax⟩

/-- What the fields of a meter say is held. -/
def STTUsageMeter.holding (meter : STTUsageMeter) : Holding :=
  if meter.reservation.reservedMicrousd = 0 then none
  else some (meter.reservation, meter.usedAudioMS.toInt)

/-- The log is lawful, and the meter agrees with it on what is held. -/
structure Sound (chunk : ℤ) (s : Session W) : Prop where
  lawful : Lawful chunk s.log
  held : held s.log = s.meter.holding
  positive : 0 ≤ s.meter.reservation.reservedMicrousd
  idle : s.meter.reservation.reservedMicrousd = 0 → s.meter.usedAudioMS = 0
  used : 0 ≤ s.meter.usedAudioMS.toInt ∧ s.meter.usedAudioMS.toInt ≤ chunk

namespace Sound

theorem start (world : W) (hchunk : 0 ≤ chunk) : Sound chunk (newSTTUsageMeter world) where
  lawful := trivial
  held := rfl
  positive := Int64.le_refl 0
  idle _ := rfl
  used := ⟨Int.le_refl 0, hchunk⟩

theorem holding_of_held (hheld : s.meter.reservation.reservedMicrousd ≠ 0) :
    s.meter.holding = some (s.meter.reservation, s.meter.usedAudioMS.toInt) := if_neg hheld

theorem holding_of_idle (hidle : s.meter.reservation.reservedMicrousd = 0) :
    s.meter.holding = none := if_pos hidle

theorem congr (h : Sound chunk s) (hreservation : t.meter.reservation = s.meter.reservation)
    (hused : t.meter.usedAudioMS = s.meter.usedAudioMS) (hlog : t.log = s.log) : Sound chunk t where
  lawful := hlog ▸ h.lawful
  held := by rw [hlog, h.held, STTUsageMeter.holding, STTUsageMeter.holding, hreservation, hused]
  positive := hreservation ▸ h.positive
  idle := by rw [hreservation, hused]; exact h.idle
  used := hused ▸ h.used

theorem refuse (h : Sound chunk s) (hreservation
    : meter.reservation = s.meter.reservation) (hused : meter.usedAudioMS = s.meter.usedAudioMS)
    (hallowed : Allowed chunk s.meter.holding event) (hafter : holdingAfter s.meter.holding event =
    s.meter.holding) : Sound chunk ⟨meter, world, event :: s.log⟩ := by
  have hholding : meter.holding = s.meter.holding := by
    rw [STTUsageMeter.holding, STTUsageMeter.holding, hreservation, hused]
  refine ⟨⟨h.held ▸ hallowed, h.lawful⟩, ?_, hreservation ▸ h.positive, ?_, hused ▸ h.used⟩
  · exact (congrArg (holdingAfter · event) h.held).trans (hafter.trans hholding.symm)
  · rw [hreservation, hused]
    exact h.idle

/-! ## The operations -/

variable (env) (live)

/-- An operation keeps the session sound, and whether the meter is closed. -/
structure Progress (chunk : ℤ) (s t : Session W) : Prop where
  sound : Sound chunk t
  closed : t.meter.closed = s.meter.closed

theorem finish (how : Finish) (h : Sound chunk s) (hheld : s.meter.reservation.reservedMicrousd ≠ 0)
    (hpays : how.Pays s.meter.usedAudioMS.toInt) : Progress chunk s (s.finish env live how).1 ∧
    ((s.finish env live how).2 = .ok () → (s.finish env live
    how).1.meter.reservation.reservedMicrousd = 0) := by
  have hholding := holding_of_held hheld
  unfold Session.finish
  dsimp only
  split
  next world err _ =>
    refine ⟨⟨h.refuse rfl rfl ?_ ?_, rfl⟩, fun hok => by cases hok⟩
    · rw [hholding]
      rfl
    · rw [hholding]
      rfl
  next world _ =>
    refine ⟨⟨⟨⟨?_, h.lawful⟩, ?_, Int64.le_refl 0, fun _ => rfl, ?_⟩, rfl⟩, fun _ => rfl⟩
    · rw [h.held, hholding]
      exact ⟨rfl, hpays⟩
    · change holdingAfter (Gateway.held s.log) _ = none
      rw [h.held, hholding]
      rfl
    · exact ⟨Int.le_refl 0, h.used.1.trans h.used.2⟩

theorem settleLocked (h : Sound chunk s) : Progress chunk s (s.settleLocked env live).1 ∧
    ((s.settleLocked env live).2 = .ok () → (s.settleLocked env
    live).1.meter.reservation.reservedMicrousd = 0) := by
  unfold Session.settleLocked
  split
  next hidle => exact ⟨⟨h, rfl⟩, fun _ => hidle⟩
  next hheld =>
    refine h.finish env live _ hheld ?_
    split
    next hzero =>
      rw [hzero]
      rfl
    next => exact ⟨_, rfl, rfl⟩

theorem markUncertainLocked (h : Sound chunk s) : Progress chunk s (s.markUncertainLocked env) ∧
    ((s.markUncertainLocked env).meter.reservation.reservedMicrousd = 0 ∨ ∃ err,
    (s.markUncertainLocked env).log = .refused (s.markUncertainLocked env).meter.reservation
    .uncertain err :: s.log) := by
  unfold Session.markUncertainLocked
  split
  next hidle => exact ⟨⟨h, rfl⟩, Or.inl hidle⟩
  next hheld =>
    have hfinish := h.finish env true .uncertain hheld trivial
    split
    next t err ht =>
      rw [ht] at hfinish
      refine ⟨⟨hfinish.1.sound.congr rfl rfl rfl, hfinish.1.closed⟩, Or.inr ⟨err, ?_⟩⟩
      -- The refusal is what `finish` has just written.
      unfold Session.finish at ht
      dsimp only at ht
      split at ht
      · cases ht
        rfl
      · cases ht
    next t ht => grind

section

variable (h : Sound pricing.sttReservationChunkAudioMS.toInt s) (hpricing : pricing.Valid)
  (frame : FrameMillis)

include h hpricing frame

theorem toInt_used_add :
    (s.meter.usedAudioMS + frame.ms).toInt = s.meter.usedAudioMS.toInt + frame.ms.toInt := by
  obtain ⟨hused, hle⟩ := h.used
  obtain ⟨hframe, hframe'⟩ := frame.toInt_bounds
  have hchunk := hpricing.toInt_chunk.2
  exact Exact.toInt_add ⟨by omega, by omega⟩

theorem makeRoom : Progress pricing.sttReservationChunkAudioMS.toInt s (s.makeRoom env
    pricing live frame.ms).1 ∧ ((s.makeRoom env pricing live frame.ms).2 = .ok () → (s.makeRoom env
    pricing live frame.ms).1.meter.usedAudioMS.toInt + frame.ms.toInt ≤
    pricing.sttReservationChunkAudioMS.toInt) := by
  have hchunk := hpricing.toInt_chunk.1
  have hframe := frame.toInt_bounds.2
  -- An empty chunk takes any frame.
  have hempty : ∀ t : Session W, Sound pricing.sttReservationChunkAudioMS.toInt t →
      t.meter.reservation.reservedMicrousd = 0 →
      t.meter.usedAudioMS.toInt + frame.ms.toInt ≤ pricing.sttReservationChunkAudioMS.toInt := by
    intro t ht hidle
    rw [ht.idle hidle, Int64.toInt_zero]
    omega
  unfold Session.makeRoom
  split
  next =>
    obtain ⟨hprogress, hidle⟩ := h.settleLocked env live
    exact ⟨hprogress, fun hok => hempty _ hprogress.sound (hidle hok)⟩
  next hroom =>
    refine ⟨⟨h, rfl⟩, fun _ => ?_⟩
    by_cases hidle : s.meter.reservation.reservedMicrousd = 0
    · exact hempty s h hidle
    · have hheld : 0 < s.meter.reservation.reservedMicrousd :=
        Int64.lt_of_le_of_ne h.positive (Ne.symm hidle)
      have hfits := fun hfull => hroom ⟨hheld, hfull⟩
      rw [Int64.lt_iff_toInt_lt, h.toInt_used_add hpricing] at hfits
      simpa using hfits

end

theorem reserve (pricing : Pricing) (subject : String) (h : Sound chunk s) : Progress chunk s
    (s.reserve env pricing subject live).1 ∧ ((s.reserve env pricing subject live).2 = .ok () →
    (s.reserve env pricing subject live).1.meter.reservation.reservedMicrousd ≠ 0 ∧ (s.reserve env
    pricing subject live).1.meter.usedAudioMS = s.meter.usedAudioMS) := by
  unfold Session.reserve
  split
  next hidle =>
    have hholding := holding_of_idle hidle
    split
    next world err _ =>
      refine ⟨⟨h.refuse rfl rfl ?_ ?_, rfl⟩, fun hok => by cases hok⟩
      · rw [hholding]
        trivial
      · rw [hholding]
        rfl
    next world reservation hreserve =>
      have hpositive := env.reserve_positive _ _ _ _ reservation (congrArg Prod.snd hreserve)
      have hnonzero : reservation.reservedMicrousd ≠ 0 := (Int64.ne_of_lt hpositive).symm
      refine ⟨⟨⟨⟨?_, h.lawful⟩, ?_, Int64.le_of_lt hpositive, fun hzero => absurd hzero hnonzero, h.used⟩,
        rfl⟩, fun _ => ⟨hnonzero, rfl⟩⟩
      · rw [h.held, hholding]
        trivial
      · -- Nothing was held, so nothing counts as sent under the new reservation.
        rw [STTUsageMeter.holding, if_neg hnonzero, h.idle hidle]
        rfl
  next hheld => exact ⟨⟨h, rfl⟩, fun _ => ⟨hheld, rfl⟩⟩

theorem sent (world : W) (timer : Option Time) (h : Sound chunk s)
    (hheld : s.meter.reservation.reservedMicrousd ≠ 0)
    (hfits : s.meter.usedAudioMS.toInt + frameMS.toInt ≤ chunk)
    (hused : (s.meter.usedAudioMS + frameMS).toInt = s.meter.usedAudioMS.toInt + frameMS.toInt)
    (hframe : 0 ≤ frameMS.toInt) :
    Sound chunk ⟨{ s.meter with usedAudioMS := s.meter.usedAudioMS + frameMS, timer }, world,
      .sent frameMS :: s.log⟩ := by
  have hholding := holding_of_held hheld
  refine ⟨⟨?_, h.lawful⟩, ?_, h.positive, fun hidle => absurd hidle hheld, ?_⟩
  · rw [h.held, hholding]
    exact hfits
  · change holdingAfter (Gateway.held s.log) _ = _
    rw [h.held, hholding, STTUsageMeter.holding, if_neg hheld, hused]
    rfl
  · have hnonneg := h.used.1
    dsimp only
    rw [hused]
    exact ⟨by omega, hfits⟩

theorem transmit (h : Sound pricing.sttReservationChunkAudioMS.toInt s) (hpricing : pricing.Valid)
    (frame : FrameMillis) (hheld : s.meter.reservation.reservedMicrousd ≠ 0)
    (hfits : s.meter.usedAudioMS.toInt + frame.ms.toInt ≤ pricing.sttReservationChunkAudioMS.toInt) :
    Progress pricing.sttReservationChunkAudioMS.toInt s
      (s.transmit env pricing live frame.ms).1 := by
  have hholding := holding_of_held hheld
  unfold Session.transmit
  split
  next world err _ =>
    have hunsent : Sound pricing.sttReservationChunkAudioMS.toInt
        ⟨s.meter, world, .unsent frame.ms :: s.log⟩ := by
      refine h.refuse rfl rfl ?_ ?_
      · rw [hholding]
        trivial
      · rw [hholding]
        rfl
    exact ⟨(hunsent.markUncertainLocked env).1.sound, (hunsent.markUncertainLocked env).1.closed⟩
  next world _ =>
    have hsent := h.sent world (some (env.now world + flushInterval pricing)) hheld
      hfits (h.toInt_used_add hpricing frame) frame.toInt_bounds.1
    dsimp only
    split
    · exact ⟨(hsent.settleLocked env live).1.sound, (hsent.settleLocked env live).1.closed⟩
    · exact ⟨hsent, rfl⟩

theorem handleAudio (subject : String) (h : Sound pricing.sttReservationChunkAudioMS.toInt s)
    (hpricing : pricing.Valid)
    (frame : FrameMillis) :
    Progress pricing.sttReservationChunkAudioMS.toInt s
      (s.handleAudio env pricing subject live frame.ms).1 := by
  unfold Session.handleAudio
  split
  · exact ⟨h, rfl⟩
  have hroom := h.makeRoom env live hpricing frame
  split
  next t err ht =>
    rw [ht] at hroom
    exact hroom.1
  next t ht =>
  rw [ht] at hroom
  have hreserve := hroom.1.sound.reserve env live pricing subject
  split
  next u err hu =>
    rw [hu] at hreserve
    exact ⟨hreserve.1.sound, hreserve.1.closed.trans hroom.1.closed⟩
  next u hu =>
    rw [hu] at hreserve
    obtain ⟨hheld, hused⟩ := hreserve.2 rfl
    have htransmit := hreserve.1.sound.transmit env live hpricing frame hheld
      (by rw [hused]; exact hroom.2 rfl)
    exact ⟨htransmit.sound, htransmit.closed.trans (hreserve.1.closed.trans hroom.1.closed)⟩

theorem flush (h : Sound chunk s) : Progress chunk s (s.flush env) := by
  unfold Session.flush
  split
  · exact ⟨h, rfl⟩
  have hsettle := h.settleLocked env true
  split
  next t err ht =>
    rw [ht] at hsettle
    exact ⟨hsettle.1.sound.congr rfl rfl rfl, hsettle.1.closed⟩
  next t ht =>
    rw [ht] at hsettle
    exact hsettle.1

/-- A meter that closes has finished its reservation, or the ledger has refused to mark it. -/
theorem close (h : Sound chunk s) : Sound chunk (s.close env) ∧ (s.meter.closed = false → (s.close
    env).meter.reservation.reservedMicrousd = 0 ∨ ∃ err rest, (s.close env).log = .refused (s.close
    env).meter.reservation .uncertain err :: rest) := by
  unfold Session.close
  split
  next hclosed => exact ⟨h, fun hopen => by rw [hopen] at hclosed; cases hclosed⟩
  have hclosing : Sound chunk { s with meter := { s.meter with closed := true } } :=
    h.congr rfl rfl rfl
  dsimp only
  split
  next =>
    obtain ⟨hprogress, hleft⟩ := hclosing.markUncertainLocked env
    exact ⟨hprogress.sound, fun _ => hleft.imp_right fun ⟨err, hlog⟩ => ⟨err, _, hlog⟩⟩
  next =>
  have hsettle := hclosing.settleLocked env true
  split
  next t err ht =>
    rw [ht] at hsettle
    obtain ⟨hprogress, hleft⟩ := hsettle.1.sound.markUncertainLocked env
    exact ⟨hprogress.sound, fun _ => hleft.imp_right fun ⟨err, hlog⟩ => ⟨err, _, hlog⟩⟩
  next t ht =>
    rw [ht] at hsettle
    exact ⟨hsettle.1.sound, fun _ => Or.inl (hsettle.2 rfl)⟩

end Sound

/-! ## Runs -/

variable {world : W} {history : List (Served (Session W) (Call W))}

theorem Sound.serve (env : Env W) (subject : String) (hpricing : pricing.Valid)
    (h : Sound pricing.sttReservationChunkAudioMS.toInt s) (call : Call W) :
    Sound pricing.sttReservationChunkAudioMS.toInt (s.serve env pricing subject call).1 := by
  obtain ⟨world, action⟩ := call
  have hworld : Sound pricing.sttReservationChunkAudioMS.toInt { s with world } := h.congr rfl rfl rfl
  cases action with
  | handleAudio live frame => exact (hworld.handleAudio env live subject hpricing frame).sound
  | flush => exact (hworld.flush env).sound
  | close => exact (hworld.close env).1

theorem sound_run (hpricing : pricing.Valid) (hrun : Run (Session.serve env pricing subject)
    (newSTTUsageMeter world) history s) : Sound pricing.sttReservationChunkAudioMS.toInt s :=
  hrun.invariant (fun _ call h => h.serve env subject hpricing call)
    (Sound.start world (by have := hpricing.toInt_chunk.1; omega))

/-- A closed meter holds nothing, unless the ledger has refused its last `MarkUncertain`. -/
def Settled (s : Session W) : Prop :=
  s.meter.closed = true → s.meter.reservation.reservedMicrousd = 0 ∨
    ∃ err rest, s.log = .refused s.meter.reservation .uncertain err :: rest

section

variable {meter : STTUsageMeter} {log : List Event}
  (h : meter.closed = true ∨ meter.failed.isSome = true)

include h

theorem handleAudio_stopped : Session.handleAudio env pricing subject ⟨meter, world, log⟩ live
    frameMS = (⟨meter, world, log⟩, .error errUnavailable) :=
  if_pos (by tauto)

theorem flush_stopped : Session.flush env ⟨meter, world, log⟩ = ⟨meter, world, log⟩ :=
  if_pos (by tauto)

end

theorem serve_closed (hclosed : s.meter.closed = true) (call : Call W) :
    (s.serve env pricing subject call).1 = { s with world := call.world } := by
  obtain ⟨world, action⟩ := call
  cases action with
  | handleAudio live frame =>
    simp only [Session.serve]
    rw [handleAudio_stopped (Or.inl hclosed)]
  | flush =>
    simp only [Session.serve]
    rw [flush_stopped (Or.inl hclosed)]
  | close =>
    simp only [Session.serve]
    rw [Session.close, if_pos hclosed]

theorem Settled.serve (env : Env W) (subject : String) (hpricing : pricing.Valid)
    (hsound : Sound pricing.sttReservationChunkAudioMS.toInt s) (h : Settled s) (call : Call W) :
    Settled (s.serve env pricing subject call).1 := by
  by_cases hclosed : s.meter.closed = true
  · rw [serve_closed hclosed]
    exact h
  · have hopen : s.meter.closed = false := by simpa using hclosed
    obtain ⟨world, action⟩ := call
    have hworld : Sound pricing.sttReservationChunkAudioMS.toInt { s with world } :=
      hsound.congr rfl rfl rfl
    cases action with
    | handleAudio live frame =>
      intro hafter
      have hkept := (hworld.handleAudio env live subject hpricing frame).closed
      exact absurd (hkept.symm.trans hafter) hclosed
    | flush =>
      intro hafter
      exact absurd ((hworld.flush env).closed.symm.trans hafter) hclosed
    | close => exact fun _ => (hworld.close env).2 hopen

theorem settled_run (hpricing : pricing.Valid) (hrun : Run (Session.serve env pricing subject)
    (newSTTUsageMeter world) history s) : Settled s := by
  induction hrun with
  | nil => exact fun _ => Or.inl rfl
  | step call run ih => exact ih.serve env subject hpricing (sound_run hpricing run) call

/-- The events that a session has added to a log are not sends. -/
def Quiet (log : List Event) (s : Session W) : Prop :=
  (s.meter.closed = true ∨ s.meter.failed.isSome = true) ∧
    ∃ events, s.log = events ++ log ∧ ∀ event ∈ events, event.isSend = false

theorem markUncertainLocked_log (env : Env W) (s : Session W) : ∃ events, (s.markUncertainLocked
    env).log = events ++ s.log ∧ ∀ event ∈ events, event.isSend = false := by
  unfold Session.markUncertainLocked Session.finish
  split
  · exact ⟨[], rfl, by simp⟩
  dsimp only
  rcases env.finish s.world true s.meter.reservation .uncertain with ⟨world, err | ⟨⟩⟩
  · exact ⟨[.refused s.meter.reservation .uncertain err], rfl, by simp [Event.isSend]⟩
  · exact ⟨[.finished s.meter.reservation .uncertain], rfl, by simp [Event.isSend]⟩

theorem closed_markUncertainLocked (s : Session W) :
    (s.markUncertainLocked env).meter.closed = s.meter.closed := by
  unfold Session.markUncertainLocked Session.finish
  split
  · rfl
  dsimp only
  rcases env.finish s.world true s.meter.reservation .uncertain with ⟨world, err | ⟨⟩⟩ <;> rfl

theorem Quiet.serve (h : Quiet log s) (call : Call W) :
    Quiet log (s.serve env pricing subject call).1 := by
  obtain ⟨hstopped, events, hlog, hevents⟩ := h
  by_cases hclosed : s.meter.closed = true
  · rw [serve_closed hclosed]
    exact ⟨hstopped, events, hlog, hevents⟩
  have hfailed := hstopped.resolve_left hclosed
  obtain ⟨world, action⟩ := call
  cases action with
  | handleAudio live frame =>
    simp only [Session.serve]
    rw [handleAudio_stopped (Or.inr hfailed)]
    exact ⟨hstopped, events, hlog, hevents⟩
  | flush =>
    simp only [Session.serve]
    rw [flush_stopped (Or.inr hfailed)]
    exact ⟨hstopped, events, hlog, hevents⟩
  | close =>
    -- A failed meter that closes tries once more to mark its reservation.
    have hmark : (Session.serve env pricing subject s ⟨world, .close⟩).1 =
        Session.markUncertainLocked env ⟨{ s.meter with closed := true }, world, s.log⟩ := by
      grind [Session.serve, Session.close]
    rw [hmark]
    obtain ⟨marked, hmarked, hquiet⟩ := markUncertainLocked_log env
      (⟨{ s.meter with closed := true }, world, s.log⟩ : Session W)
    refine ⟨Or.inl (closed_markUncertainLocked _), marked ++ events, ?_, ?_⟩
    · rw [hmarked, List.append_assoc, ← hlog]
    · grind

/-- For every interleaving of the calls on a meter and every behaviour of its world: a frame goes to
the provider only while a reservation is held; every reservation is accounted for; a closed meter has
finished all of them, unless the ledger has refused the last `MarkUncertain`; and nothing is sent
after the meter was closed or has failed. -/
theorem meter_accounts (env : Env W) (pricing : Pricing) (hpricing : pricing.Valid) (subject :
    String) (world : W) (history : List (Served (Session W) (Call W))) (s : Session W) (hrun : Run
    (Session.serve env pricing subject) (newSTTUsageMeter world) history s) : (∀ later event
    earlier, s.log = later ++ event :: earlier → event.isSend = true → (held earlier).isSome = true)
    ∧ (∀ later reservation made earlier, s.log = later ++ .reserved reservation made :: earlier →
    Accounted pricing.sttReservationChunkAudioMS.toInt reservation (lifetime later)) ∧
    (s.meter.closed = true → ∀ later reservation made earlier, s.log = later ++ .reserved
    reservation made :: earlier → (lifetime later).countP Event.isFinished = 1 ∨ ∃ err rest, s.log =
    .refused reservation .uncertain err :: rest) ∧ ∀ later x earlier, history = later ++ x ::
    earlier → x.before.meter.closed = true ∨ x.before.meter.failed.isSome = true → ∃ events, s.log =
    events ++ x.before.log ∧ ∀ event ∈ events, event.isSend = false := by
  have hsound := sound_run hpricing hrun
  have hchunk : 0 ≤ pricing.sttReservationChunkAudioMS.toInt := by
    have := hpricing.toInt_chunk.1
    omega
  refine ⟨?_, ?_, ?_, ?_⟩
  · intro later event earlier hlog hsend
    have hlawful := (hlog ▸ hsound.lawful).of_append
    cases hheld : held earlier with
    | some _ => rfl
    | none =>
      rw [Lawful, hheld] at hlawful
      cases event with
      | sent | unsent => exact hlawful.1.elim
      | _ => cases hsend
  · intro later reservation made earlier hlog
    exact (lifetime_stage hchunk (hlog ▸ hsound.lawful)).accounted
  · intro hclosed later reservation made earlier hlog
    have hstage := lifetime_stage hchunk (hlog ▸ hsound.lawful)
    generalize hholding : (if later.any Event.isReserved then none
      else held (later ++ .reserved reservation made :: earlier)) = holding at hstage
    cases hstage with
    | finished _ hcount => exact Or.inl hcount
    | held =>
      -- The reservation is the one that the meter still holds.
      right
      split at hholding
      · cases hholding
      rw [← hlog, hsound.held, STTUsageMeter.holding] at hholding
      split at hholding
      · cases hholding
      next hheld =>
      obtain ⟨hreservation, -⟩ := Prod.mk.inj (Option.some.inj hholding)
      exact hreservation ▸ (settled_run hpricing hrun hclosed).resolve_left hheld
  · intro later x earlier hsplit hstopped
    subst hsplit
    obtain ⟨-, hlater⟩ := hrun.split
    have hquiet : Quiet x.before.log x.before := ⟨hstopped, [], rfl, by simp⟩
    exact (hlater.invariant (fun _ call h => h.serve call) (hquiet.serve x.call)).2

/-- A world in which everything succeeds, or everything is refused. -/
def exampleEnv : Env Bool where
  now _ := 0
  reserve up _ _ limit :=
    (up, if up then .ok ⟨Vector.replicate 16 1, limit, 5⟩ else .error errUnavailable)
  settle up _ _ _ := (up, if up then .ok 5 else .error errUnavailable)
  release up _ _ := (up, if up then .ok () else .error errUnavailable)
  markUncertain up _ _ := (up, if up then .ok 5 else .error errUnavailable)
  send up _ := (up, if up then .ok () else .error errUnavailable)
  reserve_positive up live subject limit reservation h := by
    cases up with
    | false => cases h
    | true =>
      obtain rfl := Except.ok.inj h
      exact (by decide : (0 : Int64) < 5)

def examplePricing : Pricing := ⟨"p", 1000000, 1000000, 0, 1000000, 1000, 1000, minute⟩

def exampleFrame : Action := .handleAudio true ⟨60, by decide⟩

/-- One frame is sent, the next is not and cannot be marked, and then the meter is closed. -/
def exampleCalls : List (Call Bool) := [⟨true, exampleFrame⟩, ⟨false, exampleFrame⟩, ⟨true, .close⟩]

def exampleState (n : ℕ) : Session Bool :=
  (exampleCalls.take n).foldl (fun s call => (s.serve exampleEnv examplePricing "scope" call).1)
    (newSTTUsageMeter true)

def exampleHistory : List (Served (Session Bool) (Call Bool)) :=
  [⟨exampleState 2, ⟨true, .close⟩⟩, ⟨exampleState 1, ⟨false, exampleFrame⟩⟩,
    ⟨exampleState 0, ⟨true, exampleFrame⟩⟩]

def exampleReservation : Reservation Usage := ⟨Vector.replicate 16 1, sttUsage 1000, 5⟩

/-- The reservation is marked uncertain when the meter is closed, after 60 ms were sent. -/
theorem meter_accounts_closed : (exampleState 3).log = [.finished exampleReservation .uncertain,
    .refused exampleReservation .uncertain errUnavailable, .unsent 60, .sent 60] ++ .reserved
    exampleReservation 0 :: [] ∧ Accounted 1000 exampleReservation [.sent 60, .unsent 60, .refused
    exampleReservation .uncertain errUnavailable, .finished exampleReservation .uncertain] := by
  have hlog : (exampleState 3).log =
      [.finished exampleReservation .uncertain,
        .refused exampleReservation .uncertain errUnavailable, .unsent 60, .sent 60] ++
        .reserved exampleReservation 0 :: [] := rfl
  refine ⟨hlog, ?_⟩
  exact (meter_accounts exampleEnv examplePricing (by decide +kernel) "scope" true exampleHistory
    (exampleState 3) (.step _ (.step _ (.step _ .nil)))).2.1 _ _ _ _ hlog

end XiaozhiPlatform.Gateway
