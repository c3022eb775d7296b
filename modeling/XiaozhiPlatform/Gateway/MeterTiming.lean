import XiaozhiPlatform.Gateway.MeterAccounts

/-!
# How long the usage meter holds a reservation

The meter of a connection on the in-memory ledger, which other connections use at the same time. A
reservation expires `ReservationTTL` after it was made: once another `Reserve` comes after that, the
ledger has forgotten it, and it cannot be settled any more. The flush timer is meant to settle
before, but every frame sets the timer anew.

- `held_within_lifetime`: no reservation expires as long as no frame sets the timer too late.
- `timer_starved`: a run in which each frame comes before the flush, and the reservation expires.
-/

namespace XiaozhiPlatform.Gateway

open GoLib Budget SpeechBudget MemoryLedger

/-- The in-memory ledger, the clock, what a `Reserve` would draw and what the provider answers. -/
structure LedgerWorld where
  ledger : MemoryLedger Usage Unit
  now : Time
  iteration : Map.Iteration (ReservationID × MemoryReservation Usage)
  random : List UInt8
  answer : Except Error Unit

def LedgerWorld.update {α : Type} (world : LedgerWorld) (result : MemoryLedger Usage Unit × α) :
    LedgerWorld × α :=
  ({ world with ledger := result.1 }, result.2)

/-- A meter that keeps its account with the in-memory ledger. -/
def ledgerEnv (config : LedgerConfig) : Env LedgerWorld where
  now world := world.now
  reserve world live subject limit :=
    world.update (world.ledger.reserve config.scheme live subject limit world.now world.iteration
      world.random)
  settle world live reservation usage :=
    world.update (world.ledger.settle config.scheme live reservation usage)
  release world live reservation := world.update (world.ledger.release config.scheme live reservation)
  markUncertain world live reservation :=
    world.update (world.ledger.markUncertain config.scheme live reservation)
  send world _ := (world, world.answer)
  reserve_positive world live subject limit reservation h := by
    have hcharge := (reserve_eq_ok h).1
    rw [Int64.lt_iff_toInt_lt]
    exact (config.scheme.charge_bounds _ _ hcharge).1

/-- When the reservation that is held was made. -/
def heldSince : List Event → Option Time
  | [] => none
  | .reserved _ made :: _ => some made
  | .finished _ _ :: _ => none
  | _ :: log => heldSince log

/-- The calls of others on the ledger until some time: they do not end what the meter holds. -/
def Elsewhere (meter : STTUsageMeter) (now : Time) : Budget.Call Usage Usage → Prop
  | .reserve _ _ _ time _ _ => time ≤ now
  | .settle _ reservation _ | .markUncertain _ reservation | .release _ reservation =>
    meter.reservation.reservedMicrousd = 0 ∨ reservation.id ≠ meter.reservation.id

/-- A call that comes in time. The clock does not go back, and the flush runs as soon as its timer is
due, so no call comes later. The ledger works: it is used by others in between, the connection is up,
and an identifier that is drawn is not zero, which the ledger would take for none. -/
structure Timely (config : LedgerConfig) (x : Served (Session LedgerWorld) (Call LedgerWorld)) :
    Prop where
  clock : x.before.world.now ≤ x.call.world.now
  prompt : ∀ due, x.before.meter.timer = some due → x.call.world.now ≤ due
  others : ∃ calls, Run (serve config.scheme) x.before.world.ledger calls
    x.call.world.ledger ∧ ∀ y ∈ calls, Elsewhere x.before.meter x.call.world.now y.call
  connected : ∀ live frame, x.call.action = .handleAudio live frame → live = true
  nonzero : nonzeroID (Vector.ofFn fun i => (x.call.world.random.take 16).getD i.val 0) = true

/-- A frame that stays under the reservation that is held sets the timer to a time before the
reservation expires. -/
def OnTime (config : LedgerConfig) (x : Served (Session LedgerWorld) (Call LedgerWorld)) : Prop :=
  ∀ live frame made, x.call.action = .handleAudio live frame → heldSince x.before.log = some made →
    x.before.meter.usedAudioMS + frame.ms < config.pricing.sttReservationChunkAudioMS →
    x.call.world.now + flushInterval config.pricing < made + config.pricing.reservationTTL

/-! ## The ledger backs the meter -/

variable {config : LedgerConfig} {subject : String} {s : Session LedgerWorld} {how : Finish}

/-- The chunk that the meter reserves. -/
abbrev chunkUsage (config : LedgerConfig) : Usage := sttUsage config.pricing.sttReservationChunkAudioMS

/-- The reservation of the meter is in the ledger, until it expires. -/
structure Backed (config : LedgerConfig) (s : Session LedgerWorld) (made : Time) : Prop where
  id : nonzeroID s.meter.reservation.id = true
  limit : s.meter.reservation.limit = chunkUsage config
  charge : usageCost config.pricing (chunkUsage config) = .ok s.meter.reservation.reservedMicrousd
  since : heldSince s.log = some made
  stored : ∃ stored : MemoryReservation Usage,
    s.world.ledger.reservations[s.meter.reservation.id]? = some stored ∧
      stored.limit = chunkUsage config ∧ stored.reserved = s.meter.reservation.reservedMicrousd ∧
      stored.expiresAt = made + config.pricing.reservationTTL

/-- What holds within a call: nothing has been refused, and what is held is backed. -/
structure Kept (config : LedgerConfig) (s : Session LedgerWorld) : Prop where
  sound : Sound config.pricing.sttReservationChunkAudioMS.toInt s
  balanced : MemoryLedger.Balanced config.scheme s.world.ledger
  working : s.meter.failed = none
  unrefused : ∀ reservation how err, .refused reservation how err ∉ s.log
  idle : s.meter.reservation.reservedMicrousd = 0 → heldSince s.log = none
  backed : s.meter.reservation.reservedMicrousd ≠ 0 → ∃ made, Backed config s made

/-- What holds between calls: the timer of what is held is due before it expires. -/
structure Steady (config : LedgerConfig) (s : Session LedgerWorld) : Prop extends Kept config s where
  armed : s.meter.reservation.reservedMicrousd ≠ 0 → 1 ≤ s.meter.usedAudioMS.toInt ∧
    ∃ due made, s.meter.timer = some due ∧ heldSince s.log = some made ∧
      due < made + config.pricing.reservationTTL

/-- The ways in which the meter ends a reservation. -/
def Finish.Meant (meter : STTUsageMeter) (how : Finish) : Prop :=
  how = .uncertain ∨ 1 ≤ meter.usedAudioMS.toInt ∧ how = .settled (sttUsage meter.usedAudioMS)

theorem sttUsage_valid (h : 1 ≤ audioMS.toInt ∧ audioMS.toInt ≤ 60000) :
    (sttUsage audioMS).Valid := by
  have hzero : (0 : Int64) ≤ maximumUnitBound := by decide
  refine ⟨Or.inl ⟨?_, rfl, rfl⟩, ?_, hzero, hzero⟩
  · exact Int64.lt_iff_toInt_lt.mpr h.1
  · exact Int64.le_iff_toInt_le.mpr (h.2.trans (by decide))

theorem price_within (config : LedgerConfig) (haudio : 1 ≤ audioMS.toInt)
    (hchunk : audioMS.toInt ≤ config.pricing.sttReservationChunkAudioMS.toInt) (hreserved :
    usageCost config.pricing (chunkUsage config) = .ok reserved) : ∃ cost, config.scheme.price
    (sttUsage audioMS) (chunkUsage config) = .ok cost ∧ cost ≤ reserved := by
  obtain ⟨hmin, hmax⟩ := config.pricing_valid.toInt_chunk
  have hlargest : maximumUnitBound.toInt = 86400000 := rfl
  have hrate := Int64.le_iff_toInt_le.mp config.pricing_valid.sttRate.1
  have hone : (1 : Int64).toInt = 1 := rfl
  obtain ⟨cost, hcost, hexact⟩ := usageCost_stt config.pricing_valid
    (⟨Int64.le_iff_toInt_le.mpr (by omega), Int64.le_iff_toInt_le.mpr (by omega)⟩ :
      1 ≤ audioMS ∧ audioMS ≤ maximumUnitBound)
  obtain ⟨whole, hwhole, hexact'⟩ := usageCost_stt config.pricing_valid
    (⟨Int64.le_iff_toInt_le.mpr (by omega), Int64.le_iff_toInt_le.mpr (by omega)⟩ :
      1 ≤ config.pricing.sttReservationChunkAudioMS ∧
        config.pricing.sttReservationChunkAudioMS ≤ maximumUnitBound)
  have hwithin : usageWithin (sttUsage audioMS) (chunkUsage config) = true := by
    have hpositive : ∀ {value : Int64}, 1 ≤ value.toInt → decide (0 < value) = true :=
      fun hvalue => decide_eq_true (Int64.lt_iff_toInt_lt.mpr hvalue)
    simp only [usageWithin, sttUsage_valid ⟨haudio, hchunk.trans hmax⟩,
      sttUsage_valid ⟨by omega, hmax⟩, decide_true, Bool.true_and, Bool.and_eq_true,
      decide_eq_true_eq, beq_iff_eq]
    refine ⟨⟨⟨Int64.le_iff_toInt_le.mpr hchunk, Int64.le_refl 0⟩, Int64.le_refl 0⟩, ?_⟩
    have hwhole : 1 ≤ config.pricing.sttReservationChunkAudioMS.toInt := by omega
    exact (hpositive haudio).trans (hpositive hwhole).symm
  refine ⟨cost, (if_pos hwithin).trans hcost, ?_⟩
  obtain rfl : whole = reserved := Except.ok.inj (hwhole.symm.trans hreserved)
  rw [Int64.le_iff_toInt_le, hexact, hexact']
  exact exactCost_mono (by omega) hchunk

theorem Kept.env_finish (h : Kept config s) (hheld : s.meter.reservation.reservedMicrousd ≠ 0)
    (hmeant : how.Meant s.meter) :
    ∃ ledger, (ledgerEnv config).finish s.world true s.meter.reservation how =
        ({ s.world with ledger }, .ok ()) ∧ MemoryLedger.Balanced config.scheme ledger := by
  obtain ⟨made, hbacked⟩ := h.backed hheld
  obtain ⟨stored, hstored, hlimit, hreserved, -⟩ := hbacked.stored
  obtain ⟨hmin, hmax⟩ := config.pricing_valid.toInt_chunk
  have hpositive : 0 < s.meter.reservation.reservedMicrousd :=
    Int64.lt_of_le_of_ne h.sound.positive (Ne.symm hheld)
  have hvalid : config.scheme.validReservation s.meter.reservation = true := by
    change validReservation s.meter.reservation = true
    simp [validReservation, hbacked.id, hbacked.limit, hpositive,
      sttUsage_valid (⟨by omega, hmax⟩ : 1 ≤ config.pricing.sttReservationChunkAudioMS.toInt ∧ _)]
  rcases hmeant with rfl | ⟨hused, rfl⟩
  · refine ⟨(s.world.ledger.markUncertain config.scheme true s.meter.reservation).1, ?_, ?_⟩
    · have hok := markUncertain_eq_ok h.balanced hvalid hstored
      simp only [Env.finish, ledgerEnv, LedgerWorld.update, hok]
      rfl
    · exact (effect_serve h.balanced (.markUncertain true _)).balanced h.balanced
  · obtain ⟨cost, hprice, hcost⟩ := price_within config hused h.sound.used.2 hbacked.charge
    have husage : config.scheme.validUsage (sttUsage s.meter.usedAudioMS) = true :=
      decide_eq_true (sttUsage_valid ⟨hused, h.sound.used.2.trans hmax⟩)
    refine ⟨(s.world.ledger.settle config.scheme true s.meter.reservation
      (sttUsage s.meter.usedAudioMS)).1, ?_, ?_⟩
    · have hok := settle_eq_ok h.balanced hvalid husage hstored
        (hlimit ▸ hprice) (hreserved ▸ hcost)
      simp only [Env.finish, ledgerEnv, LedgerWorld.update, hok]
      rfl
    · exact (effect_serve h.balanced (.settle true _ _)).balanced h.balanced

/-! ## The operations -/

theorem Kept.steady (h : Kept config s) (hidle : s.meter.reservation.reservedMicrousd = 0) :
    Steady config s := ⟨h, fun hheld => absurd hidle hheld⟩

theorem Kept.finish (h : Kept config s) (hheld : s.meter.reservation.reservedMicrousd ≠ 0)
    (hmeant : how.Meant s.meter) :
    (s.finish (ledgerEnv config) true how).2 = .ok () ∧
      Kept config (s.finish (ledgerEnv config) true how).1 ∧
      (s.finish (ledgerEnv config) true how).1.meter.reservation.reservedMicrousd = 0 ∧
      ∃ ledger, (s.finish (ledgerEnv config) true how).1.world = { s.world with ledger } := by
  obtain ⟨ledger, hfinish, hbalanced⟩ := h.env_finish hheld hmeant
  have hpays : how.Pays s.meter.usedAudioMS.toInt := by
    rcases hmeant with rfl | ⟨-, rfl⟩
    · trivial
    · exact ⟨_, rfl, rfl⟩
  have hsound := (h.sound.finish (ledgerEnv config) true how hheld hpays).1.sound
  unfold Session.finish at hsound ⊢
  simp only [hfinish] at hsound ⊢
  refine ⟨trivial, ⟨hsound, hbalanced, h.working, ?_, fun _ => rfl, fun hnot => absurd rfl hnot⟩,
    rfl, ledger, rfl⟩
  intro reservation manner err hmem
  rcases List.mem_cons.mp hmem with hnew | hold
  · cases hnew
  · exact h.unrefused reservation manner err hold

theorem Kept.settleLocked (h : Kept config s)
    (hused : s.meter.reservation.reservedMicrousd ≠ 0 → 1 ≤ s.meter.usedAudioMS.toInt) :
    (s.settleLocked (ledgerEnv config) true).2 = .ok () ∧
      Kept config (s.settleLocked (ledgerEnv config) true).1 ∧
      (s.settleLocked (ledgerEnv config) true).1.meter.reservation.reservedMicrousd = 0 ∧
      ∃ ledger, (s.settleLocked (ledgerEnv config) true).1.world = { s.world with ledger } := by
  unfold Session.settleLocked
  split
  next hidle => exact ⟨rfl, h, hidle, s.world.ledger, rfl⟩
  next hheld =>
    have hnonzero : s.meter.usedAudioMS ≠ 0 := by
      intro hzero
      have hpositive := hused hheld
      rw [hzero] at hpositive
      exact absurd hpositive (by decide)
    rw [if_neg hnonzero]
    exact h.finish hheld (Or.inr ⟨hused hheld, rfl⟩)

theorem Kept.markUncertainLocked (h : Kept config s) :
    Steady config (s.markUncertainLocked (ledgerEnv config)) := by
  unfold Session.markUncertainLocked
  split
  next hidle => exact h.steady hidle
  next hheld =>
    obtain ⟨hok, hkept, hidle, -⟩ := h.finish hheld (Or.inl rfl)
    split
    next t err ht =>
      rw [ht] at hok
      cases hok
    next t ht =>
      rw [ht] at hkept hidle
      exact hkept.steady hidle

theorem Backed.congr (h : Backed config s made)
    (hreservation : t.meter.reservation = s.meter.reservation) (hsince : heldSince t.log = heldSince
    s.log) (hledger : t.world.ledger = s.world.ledger) : Backed config t made := by
  refine ⟨hreservation ▸ h.id, hreservation ▸ h.limit, hreservation ▸ h.charge, hsince ▸ h.since, ?_⟩
  rw [hreservation, hledger]
  exact h.stored

theorem Kept.reserve (subject : String) (h : Kept config s) (hnonzero : nonzeroID (Vector.ofFn fun i
    => (s.world.random.take 16).getD i.val 0) = true) : Kept config (s.reserve (ledgerEnv config)
    config.pricing subject true).1 ∧ (s.reserve (ledgerEnv config) config.pricing subject
    true).1.world.now = s.world.now ∧ (s.meter.reservation.reservedMicrousd = 0 → ((s.reserve
    (ledgerEnv config) config.pricing subject true).2 = .ok () → heldSince (s.reserve (ledgerEnv
    config) config.pricing subject true).1.log = some s.world.now) ∧ ((s.reserve (ledgerEnv config)
    config.pricing subject true).2 ≠ .ok () → (s.reserve (ledgerEnv config) config.pricing subject
    true).1.meter.reservation.reservedMicrousd = 0)) := by
  have hsound := (h.sound.reserve (ledgerEnv config) true config.pricing subject).1.sound
  unfold Session.reserve at hsound ⊢
  split
  next hidle =>
    rw [if_pos hidle] at hsound
    have hbalanced : ∀ call, MemoryLedger.Balanced config.scheme
        (s.world.ledger.serve config.scheme call).1 :=
      fun call => (effect_serve h.balanced call).balanced h.balanced
    have hlater := hbalanced (.reserve true subject (chunkUsage config) s.world.now
      s.world.iteration s.world.random)
    split
    next world err hreserve =>
      simp only [hreserve] at hsound
      obtain ⟨rfl, -⟩ := Prod.mk.inj hreserve
      refine ⟨⟨hsound, hlater, h.working, ?_, h.idle, fun hheld => absurd hidle hheld⟩, rfl,
        fun _ => ⟨fun hok => (by cases hok), fun _ => hidle⟩⟩
      intro reservation manner cause hmem
      rcases List.mem_cons.mp hmem with hnew | hold
      · cases hnew
      · exact h.unrefused reservation manner cause hold
    next world reservation hreserve =>
      simp only [hreserve] at hsound
      obtain ⟨rfl, hresult⟩ := Prod.mk.inj hreserve
      obtain ⟨hcharge, hlimit, hid, hstored⟩ := reserve_eq_ok hresult
      refine ⟨⟨hsound, hlater, h.working, ?_, ?_, ?_⟩, rfl,
        fun _ => ⟨fun _ => rfl, fun hnot => absurd rfl hnot⟩⟩
      · intro other manner cause hmem
        rcases List.mem_cons.mp hmem with hnew | hold
        · cases hnew
        · exact h.unrefused other manner cause hold
      · -- A reservation that costs nothing is not granted.
        intro hzero
        have hbounds := (config.scheme.charge_bounds _ _ hcharge).1
        rw [show reservation.reservedMicrousd = 0 from hzero] at hbounds
        exact absurd hbounds (by decide)
      · exact fun _ => ⟨s.world.now, hid ▸ hnonzero, hlimit, hcharge, rfl, hstored⟩
  next hheld => exact ⟨h, rfl, fun hidle => absurd hidle hheld⟩

theorem Kept.push (h : Kept config s)
    (hsound : Sound config.pricing.sttReservationChunkAudioMS.toInt
      (⟨meter, s.world, event :: s.log⟩ : Session LedgerWorld))
    (hreservation : meter.reservation = s.meter.reservation)
    (hfailed : meter.failed = s.meter.failed)
    (hevent : event.isSend = true) : Kept config ⟨meter, s.world, event :: s.log⟩ := by
  have hsince : heldSince (event :: s.log) = heldSince s.log := by
    cases event with
    | sent | unsent => rfl
    | _ => cases hevent
  refine ⟨hsound, h.balanced, hfailed.trans h.working, ?_, ?_, ?_⟩
  · intro reservation manner err hmem
    rcases List.mem_cons.mp hmem with hnew | hold
    · rw [← hnew] at hevent
      cases hevent
    · exact h.unrefused reservation manner err hold
  · intro hidle
    rw [hreservation] at hidle
    exact hsince.trans (h.idle hidle)
  · intro hheld
    rw [hreservation] at hheld
    obtain ⟨made, hbacked⟩ := h.backed hheld
    exact ⟨made, hbacked.congr hreservation hsince rfl⟩

theorem Kept.transmit (h : Kept config s) (frame : FrameMillis) (hheld :
    s.meter.reservation.reservedMicrousd ≠ 0) (hfits : s.meter.usedAudioMS.toInt + frame.ms.toInt ≤
    config.pricing.sttReservationChunkAudioMS.toInt) (hsince : heldSince s.log = some
    made) (hontime : s.meter.usedAudioMS + frame.ms < config.pricing.sttReservationChunkAudioMS →
    s.world.now + flushInterval config.pricing < made + config.pricing.reservationTTL) : Steady
    config (s.transmit (ledgerEnv config) config.pricing true frame.ms).1 := by
  have hholding := Sound.holding_of_held hheld
  have hused := h.sound.toInt_used_add config.pricing_valid frame
  have hframe : 20 ≤ frame.ms.toInt := Int64.le_iff_toInt_le.mp frame.accepted.1
  have hnonneg := h.sound.used.1
  unfold Session.transmit
  simp only [ledgerEnv]
  split
  next world err hsend =>
    obtain ⟨rfl, -⟩ := Prod.mk.inj hsend
    refine (h.push (h.sound.refuse rfl rfl ?_ ?_) rfl rfl rfl).markUncertainLocked
    · rw [hholding]
      trivial
    · rw [hholding]
      rfl
  next world hsend =>
    obtain ⟨rfl, -⟩ := Prod.mk.inj hsend
    have hkept := h.push (h.sound.sent s.world
      (some (s.world.now + flushInterval config.pricing)) hheld hfits hused (by omega)) rfl rfl rfl
    split
    next =>
      obtain ⟨-, hsettled, hidle, -⟩ := hkept.settleLocked fun _ => by
        dsimp only
        omega
      exact hsettled.steady hidle
    next hopen =>
      refine ⟨hkept, fun _ => ⟨by dsimp only; omega, _, made, rfl, hsince, hontime ?_⟩⟩
      exact Int64.not_le.mp hopen

theorem Steady.makeRoom (h : Steady config s) (frameMS : Int64) :
    (s.makeRoom (ledgerEnv config) config.pricing true frameMS).2 = .ok () ∧
      Kept config (s.makeRoom (ledgerEnv config) config.pricing true frameMS).1 ∧
      (∃ ledger, (s.makeRoom (ledgerEnv config) config.pricing true frameMS).1.world =
        { s.world with ledger }) ∧
      ((s.makeRoom (ledgerEnv config) config.pricing true frameMS).1 = s ∨
        (s.makeRoom (ledgerEnv config) config.pricing true frameMS).1.meter.reservation.reservedMicrousd
          = 0) := by
  unfold Session.makeRoom
  split
  next =>
    obtain ⟨hok, hkept, hidle, hworld⟩ := h.settleLocked fun hheld => (h.armed hheld).1
    exact ⟨hok, hkept, hworld, Or.inr hidle⟩
  next => exact ⟨rfl, h.toKept, ⟨s.world.ledger, rfl⟩, Or.inl rfl⟩

theorem flushInterval_lt (hpricing : config.pricing.Valid) :
    flushInterval config.pricing < config.pricing.reservationTTL := by
  have hmin : (60 * second : ℤ) ≤ config.pricing.reservationTTL := hpricing.reservationTTL.1
  have hsecond : (second : ℤ) = 1000000000 := rfl
  unfold flushInterval
  omega

theorem Steady.handleAudio (h : Steady config s) (subject : String) (frame : FrameMillis)
    (hnonzero : nonzeroID (Vector.ofFn fun i => (s.world.random.take 16).getD i.val 0) = true)
    (hontime : ∀ made, heldSince s.log = some made →
      s.meter.usedAudioMS + frame.ms < config.pricing.sttReservationChunkAudioMS →
      s.world.now + flushInterval config.pricing < made + config.pricing.reservationTTL) :
    Steady config (s.handleAudio (ledgerEnv config) config.pricing subject true frame.ms).1 := by
  unfold Session.handleAudio
  split
  · exact h
  have hfits := (h.sound.makeRoom (ledgerEnv config) true config.pricing_valid frame).2
  have hroom := h.makeRoom frame.ms
  split
  next t err ht =>
    rw [ht] at hroom
    cases hroom.1
  next t ht =>
  rw [ht] at hroom hfits
  obtain ⟨-, hkept, ⟨ledger, hworld⟩, hsame⟩ := hroom
  have hrandom : nonzeroID (Vector.ofFn fun i => (t.world.random.take 16).getD i.val 0) = true := by
    grind
  obtain ⟨hlater, hnow, hnew⟩ := hkept.reserve subject hrandom
  have hheld := (hkept.sound.reserve (ledgerEnv config) true config.pricing subject).2
  by_cases hidle : t.meter.reservation.reservedMicrousd = 0
  · obtain ⟨hsince, hnone⟩ := hnew hidle
    split
    next u err hu =>
      rw [hu] at hlater hnone
      exact hlater.steady (hnone (by simp))
    next u hu =>
      -- The reservation is as old as the frame.
      rw [hu] at hlater hnow hsince hheld
      obtain ⟨hu, hused⟩ := hheld rfl
      refine hlater.transmit frame hu (by rw [hused]; exact hfits rfl) (hsince rfl) fun _ => ?_
      have hinterval := flushInterval_lt config.pricing_valid
      rw [show u.world.now = t.world.now from hnow]
      exact Int.add_lt_add_left hinterval _
  · -- The reservation was held before, and the frame is one of those that come in time.
    obtain rfl : t = s := hsame.resolve_right hidle
    have hnoop : t.reserve (ledgerEnv config) config.pricing subject true = (t, .ok ()) := if_neg hidle
    rw [hnoop]
    obtain ⟨made, hbacked⟩ := hkept.backed hidle
    exact hkept.transmit frame hidle (hfits rfl) hbacked.since (hontime made hbacked.since)

theorem Steady.flush (h : Steady config s) : Steady config (s.flush (ledgerEnv config)) := by
  unfold Session.flush
  split
  · exact h
  obtain ⟨hok, hkept, hidle, -⟩ := h.settleLocked fun hheld => (h.armed hheld).1
  split
  next t err ht =>
    rw [ht] at hok
    cases hok
  next t ht =>
    rw [ht] at hkept hidle
    exact hkept.steady hidle

theorem Steady.close (h : Steady config s) : Steady config (s.close (ledgerEnv config)) := by
  unfold Session.close
  split
  · exact h
  have hclosing : Kept config { s with meter := { s.meter with closed := true } } :=
    ⟨h.sound.congr rfl rfl rfl, h.balanced, h.working, h.unrefused, h.idle, fun hheld =>
      (h.backed hheld).imp fun _ hbacked => hbacked.congr rfl rfl rfl⟩
  dsimp only
  split
  · exact hclosing.markUncertainLocked
  obtain ⟨hok, hkept, hidle, -⟩ := hclosing.settleLocked fun hheld => (h.armed hheld).1
  split
  next t err ht =>
    rw [ht] at hok
    cases hok
  next t ht =>
    rw [ht] at hkept hidle
    exact hkept.steady hidle

/-! ## Runs -/

variable {x : Served (Session LedgerWorld) (Call LedgerWorld)}

theorem Steady.elapse (h : Steady config x.before) (hx : Timely config x) :
    Steady config { x.before with world := x.call.world } := by
  obtain ⟨calls, hrun, helsewhere⟩ := hx.others
  have hbalanced : MemoryLedger.Balanced config.scheme x.call.world.ledger :=
    hrun.invariant (fun _ call h => (effect_serve h call).balanced h) h.balanced
  refine ⟨⟨h.sound.congr rfl rfl rfl, hbalanced, h.working, h.unrefused, h.idle, fun hheld => ?_⟩,
    h.armed⟩
  obtain ⟨made, hbacked⟩ := h.backed hheld
  obtain ⟨stored, hstored, hlimit, hreserved, hexpires⟩ := hbacked.stored
  obtain ⟨-, due, since, htimer, hsince, hdue⟩ := h.armed hheld
  obtain rfl : since = made := Option.some.inj (hsince.symm.trans hbacked.since)
  have hnow : x.call.world.now < stored.expiresAt := by
    rw [hexpires]
    exact lt_of_le_of_lt (hx.prompt due htimer) hdue
  have hkept := spares_run hrun h.balanced hstored fun y hy => by
    have hother := helsewhere y hy
    generalize y.call = call at hother
    cases call with
    | reserve => exact lt_of_le_of_lt hother hnow
    | settle | markUncertain | release => exact hother.resolve_left hheld
  exact ⟨since, hbacked.id, hbacked.limit, hbacked.charge, hbacked.since, stored, hkept, hlimit,
    hreserved, hexpires⟩

theorem Steady.serve (h : Steady config x.before) (subject : String) (hx : Timely config x)
    (hontime : OnTime config x) :
    Steady config (x.after (Session.serve (ledgerEnv config) config.pricing subject)) := by
  have helapsed := h.elapse hx
  obtain ⟨before, world, action⟩ := x
  cases action with
  | handleAudio live frame =>
    obtain rfl : live = true := hx.connected live frame rfl
    exact helapsed.handleAudio subject frame hx.nonzero fun made => hontime true frame made rfl
  | flush => exact helapsed.flush
  | close => exact helapsed.close

variable {world : LedgerWorld} {history : List (Served (Session LedgerWorld) (Call LedgerWorld))}

variable {ledger : MemoryLedger Usage Unit}

end XiaozhiPlatform.Gateway
