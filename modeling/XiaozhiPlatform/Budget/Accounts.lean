import XiaozhiPlatform.Budget.Ledger

/-!
# Runs of a usage ledger

`Effect` says once what a call does to a balanced ledger. From it follow the balance of every state
of a run, and the account of the reservations: a reservation is live from the call that issues it to
the one call that finishes it.

- `balanced_run`: every state of a run is balanced.
- `count_run`: the calls that issue and finish a reservation, and whether it is live.
- `accounted_run`: all of it for a run whose identifiers are fresh.
-/

namespace XiaozhiPlatform.Budget

open GoLib

variable {Limit Usage Tally : Type}

variable {call : Call Limit Usage} {stored : MemoryReservation Limit} {reply : Reply Limit}
  {id : ReservationID}

namespace MemoryLedger

/-! ## One call -/

/-- The reservations that have expired. -/
def expired (ledger : MemoryLedger Limit Tally) (now : Time) : List ReservationID :=
  (ledger.reservations.toList.filter fun entry => !decide (now < entry.2.expiresAt)).map Prod.fst

/-- The reservations that a call finishes: one that it settles, marks uncertain or releases, or
those that have expired when the call reconciles them. -/
def finishedBy (scheme : Scheme Limit Usage Tally) (ledger : MemoryLedger Limit Tally) :
    Call Limit Usage → Reply Limit → List ReservationID
  | .reserve live subject limit now _ _, _ =>
    if live && subject ≠ "" && (scheme.charge limit).isOk then ledger.expired now else []
  | .settle _ reservation _, .settled (.ok _) => [reservation.id]
  | .markUncertain _ reservation, .uncertain (.ok _) => [reservation.id]
  | .release _ reservation, .released (.ok _) => [reservation.id]
  | _, _ => []

/-- The reservation that a call issues. -/
def issuedBy : Reply Limit → Option (Reservation Limit)
  | .reserved (.ok reservation) => some reservation
  | _ => none

/-- Everything that a call can do to a balanced ledger. -/
inductive Effect (scheme : Scheme Limit Usage Tally) (ledger : MemoryLedger Limit Tally) :
    Call Limit Usage → Reply Limit → MemoryLedger Limit Tally → Prop
  | refused (call : Call Limit Usage) (reply : Reply Limit)
      (hfinished : finishedBy scheme ledger call reply = []) (hissued : issuedBy reply = none) :
      Effect scheme ledger call reply ledger
  | settled (live : Bool) (reservation : Reservation Limit) (usage : Usage)
      (stored : MemoryReservation Limit) (cost : Int64) (tally : Tally)
      (hstored : ledger.reservations[reservation.id]? = some stored) (hnonneg : 0 ≤ cost.toInt)
      (hcost : cost.toInt ≤ stored.reserved.toInt) :
      Effect scheme ledger (.settle live reservation usage) (.settled (.ok cost))
        (ledger.finish reservation.id stored
          { committed := (ledger.bucket scheme stored.key).committed + cost
            uncertain := (ledger.bucket scheme stored.key).uncertain
            reserved := (ledger.bucket scheme stored.key).reserved - stored.reserved
            tally := tally })
  | uncertain (live : Bool) (reservation : Reservation Limit) (stored : MemoryReservation Limit)
      (hstored : ledger.reservations[reservation.id]? = some stored) :
      Effect scheme ledger (.markUncertain live reservation) (.uncertain (.ok stored.reserved))
        (ledger.finish reservation.id stored
          (forfeited scheme stored (ledger.bucket scheme stored.key)))
  | released (live : Bool) (reservation : Reservation Limit) (stored : MemoryReservation Limit)
      (hstored : ledger.reservations[reservation.id]? = some stored) :
      Effect scheme ledger (.release live reservation) (.released (.ok ()))
        (ledger.finish reservation.id stored
          { ledger.bucket scheme stored.key with
            reserved := (ledger.bucket scheme stored.key).reserved - stored.reserved })
  | reconciled (subject : String) (limit : Limit) (now : Time)
      (iteration : Map.Iteration (ReservationID × MemoryReservation Limit)) (random : List UInt8)
      (err : Error) (key : String) (hsubject : subject ≠ "")
      (hcharge : (scheme.charge limit).isOk = true) :
      Effect scheme ledger (.reserve true subject limit now iteration random) (.reserved (.error err))
        ((ledger.reconcileExpired scheme now iteration).touch scheme key)
  | reserved (subject : String) (limit : Limit) (now : Time)
      (iteration : Map.Iteration (ReservationID × MemoryReservation Limit)) (random : List UInt8)
      (id : ReservationID) (stored : MemoryReservation Limit) (daily : MemoryDaily Tally)
      (hdaily : daily = (ledger.reconcileExpired scheme now iteration).bucket scheme stored.key)
      (hsubject : subject ≠ "") (hcharge : scheme.charge limit = .ok stored.reserved)
      (habsent : (ledger.reconcileExpired scheme now iteration).reservations[id]? = none)
      (hroom : ¬ scheme.dailyBudgetMicrousd - stored.reserved <
        daily.committed + daily.uncertain + daily.reserved) :
      Effect scheme ledger (.reserve true subject limit now iteration random)
        (.reserved (.ok ⟨id, limit, stored.reserved⟩))
        (((ledger.reconcileExpired scheme now iteration).touch scheme stored.key).start id stored
          { daily with reserved := daily.reserved + stored.reserved })

variable {scheme : Scheme Limit Usage Tally} {ledger next : MemoryLedger Limit Tally}

theorem effect_reserve (live : Bool) (subject : String) (limit : Limit) (now : Time)
    (iteration : Map.Iteration (ReservationID × MemoryReservation Limit)) (random : List UInt8) :
    Effect scheme ledger (.reserve live subject limit now iteration random)
      (.reserved (ledger.reserve scheme live subject limit now iteration random).2)
      (ledger.reserve scheme live subject limit now iteration random).1 := by
  unfold reserve
  split
  next hinvalid =>
    refine .refused _ _ (if_neg ?_) rfl
    rcases hinvalid with rfl | rfl <;> simp
  next hvalid =>
  push Not at hvalid
  obtain ⟨hlive, hsubject⟩ := hvalid
  obtain rfl : live = true := by simpa using hlive
  split
  next err hcharge => exact .refused _ _ (if_neg (by simp [hcharge, Except.isOk, Except.toBool])) rfl
  next cost hcharge =>
  have hok : (scheme.charge limit).isOk = true := by rw [hcharge]; rfl
  dsimp only
  split
  · exact .reconciled subject limit now iteration random _ _ hsubject hok
  next hroom =>
  split
  · exact .reconciled subject limit now iteration random _ _ hsubject hok
  next raw rest hraw =>
  split
  · exact .reconciled subject limit now iteration random _ _ hsubject hok
  next habsent =>
  exact .reserved subject limit now iteration random _
    ⟨formatDate now, scheme.subjectKey subject, limit, cost, now + scheme.reservationTTL⟩ _ rfl
    hsubject hcharge (by simpa [touch] using habsent) hroom

section

variable (h : Balanced scheme ledger) (live : Bool) (reservation : Reservation Limit)

include h live reservation

theorem effect_settle (usage : Usage) :
    Effect scheme ledger (.settle live reservation usage) (.settled (ledger.settle
    scheme live reservation usage).2) (ledger.settle scheme live reservation usage).1 := by
  unfold settle
  split
  · exact .refused _ _ rfl rfl
  split
  · exact .refused _ _ rfl rfl
  next stored hstored =>
  split
  · exact .refused _ _ rfl rfl
  next cost hprice =>
  split
  · exact .refused _ _ rfl rfl
  next hcost =>
  rw [h.covering hstored]
  rw [Int64.lt_iff_toInt_lt, Int.not_lt] at hcost
  exact .settled live reservation usage stored cost _ hstored (scheme.price_nonneg _ _ _ hprice) hcost

theorem effect_markUncertain : Effect scheme ledger (.markUncertain live reservation) (.uncertain
    (ledger.markUncertain scheme live reservation).2) (ledger.markUncertain scheme live
    reservation).1 := by
  unfold markUncertain
  split
  · exact .refused _ _ rfl rfl
  split
  · exact .refused _ _ rfl rfl
  next stored hstored =>
  rw [h.covering hstored]
  exact .uncertain live reservation stored hstored

theorem effect_release : Effect scheme ledger (.release live reservation) (.released
    (ledger.release scheme live
    reservation).2) (ledger.release scheme live reservation).1 := by
  unfold release
  split
  · exact .refused _ _ rfl rfl
  split
  · exact .refused _ _ rfl rfl
  next stored hstored =>
  rw [h.covering hstored]
  exact .released live reservation stored hstored

end

theorem effect_serve (h : Balanced scheme ledger) (call : Call Limit Usage) :
    Effect scheme ledger call (ledger.serve scheme call).2 (ledger.serve scheme call).1 := by
  cases call with
  | reserve live subject limit now iteration random =>
    exact effect_reserve live subject limit now iteration random
  | settle live reservation usage => exact effect_settle h live reservation usage
  | markUncertain live reservation => exact effect_markUncertain h live reservation
  | release live reservation => exact effect_release h live reservation

/-! ## Balance -/

theorem Balanced.reserve (h : Balanced scheme ledger) {limit : Limit} {daily : MemoryDaily Tally}
    (hdaily : daily = ledger.bucket scheme stored.key)
    (hcharge : scheme.charge limit = .ok stored.reserved)
    (habsent : ledger.reservations[id]? = none)
    (hroom : ¬ scheme.dailyBudgetMicrousd - stored.reserved <
      daily.committed + daily.uncertain + daily.reserved) :
    Balanced scheme ((ledger.touch scheme stored.key).start id stored
      { daily with reserved := daily.reserved + stored.reserved }) := by
  subst hdaily
  obtain ⟨hpositive, hmaximum⟩ := scheme.charge_bounds _ _ hcharge
  obtain ⟨hbudget, hbudget'⟩ := scheme.budget_bounds
  have hlargest : maximumBudget.toInt = 1000000000000000 := rfl
  obtain ⟨hreserved, hbounds⟩ := h.bounds stored.key
  have hcommitted := h.committed stored.key
  have huncertain := h.uncertain stored.key
  -- Neither side of the comparison with the budget overflows, and neither does the new sum.
  rw [Int64.lt_iff_toInt_lt, h.toInt_sum, Exact.toInt_sub ⟨by omega, by omega⟩] at hroom
  have hsum := Exact.toInt_add (a := (ledger.bucket scheme stored.key).reserved)
    (b := stored.reserved) ⟨by omega, by omega⟩
  refine (h.touch stored.key).start habsent hpositive hcommitted huncertain ?_ ?_
  · rw [bucket_touch]
    exact hsum
  · simp only [hsum]
    omega

theorem Effect.balanced (h : Balanced scheme ledger)
    (heffect : Effect scheme ledger call reply next) : Balanced scheme next := by
  cases heffect with
  | refused => exact h
  | settled live reservation usage stored cost tally hstored hnonneg hcost =>
    obtain ⟨-, hbounds⟩ := h.bounds stored.key
    have hle := h.le_reserved hstored
    have hcommitted := h.committed stored.key
    have huncertain := h.uncertain stored.key
    have hplus := Exact.toInt_add (a := (ledger.bucket scheme stored.key).committed) (b := cost)
      ⟨by omega, by omega⟩
    refine h.finish hstored ?_ huncertain (Exact.toInt_sub ⟨by omega, by omega⟩) ?_
    · rw [hplus]
      omega
    · simp only [hplus]
      omega
  | uncertain live reservation stored hstored => exact h.forfeit hstored
  | released live reservation stored hstored =>
    obtain ⟨-, hbounds⟩ := h.bounds stored.key
    have hpositive := h.positive _ stored hstored
    have hle := h.le_reserved hstored
    have hcommitted := h.committed stored.key
    have huncertain := h.uncertain stored.key
    refine h.finish hstored hcommitted huncertain (Exact.toInt_sub ⟨by omega, by omega⟩) ?_
    simp only
    omega
  | reconciled subject limit now iteration random err key =>
    exact (h.reconcileExpired now iteration).1.touch key
  | reserved subject limit now iteration random id stored daily hdaily _ hcharge habsent hroom =>
    exact (h.reconcileExpired now iteration).1.reserve hdaily hcharge habsent hroom

/-! ## What a balanced ledger grants -/

variable {id : ReservationID} {stored : MemoryReservation Limit} {reservation : Reservation Limit}
  {usage : Usage}

theorem reserve_eq_ok (h :
    (ledger.reserve scheme live subject limit now iteration random).2 = .ok reservation) :
    scheme.charge limit = .ok reservation.reservedMicrousd ∧ reservation.limit = limit ∧
    reservation.id = Vector.ofFn (fun i => (random.take 16).getD i.val 0) ∧ ∃ stored :
    MemoryReservation Limit, (ledger.reserve scheme live subject limit now iteration
    random).1.reservations[reservation.id]? = some stored ∧ stored.limit = limit ∧ stored.reserved =
    reservation.reservedMicrousd ∧ stored.expiresAt = now + scheme.reservationTTL := by
  unfold reserve at h ⊢
  split at h
  · cases h
  next hvalid =>
  rw [if_neg hvalid]
  split at h
  · cases h
  next cost hcharge =>
  dsimp only at h ⊢
  split at h
  · cases h
  next hroom =>
  rw [if_neg hroom]
  split at h
  · cases h
  next raw rest hraw =>
  split at h
  · cases h
  next hfree =>
  rw [if_neg hfree]
  obtain rfl := Except.ok.inj h
  have hbytes : raw = random.take 16 := by grind [readFull]
  refine ⟨hcharge, rfl, by rw [hbytes],
    ⟨formatDate now, scheme.subjectKey subject, limit, cost, now + scheme.reservationTTL⟩, ?_,
    rfl, rfl, rfl⟩
  rw [start, Map.getElem?_insert, if_pos rfl]

theorem settle_eq_ok (h : Balanced scheme ledger) (hvalid : scheme.validReservation reservation =
    true) (husage : scheme.validUsage usage = true) (hstored : ledger.reservations[reservation.id]?
    = some stored) (hprice : scheme.price usage stored.limit = .ok cost) (hcost :
    cost ≤ stored.reserved) : (ledger.settle scheme true reservation usage).2 = .ok cost := by
  unfold settle
  rw [if_neg (by simp [hvalid, husage])]
  simp only [hstored, hprice]
  rw [if_neg (Int64.not_lt.mpr hcost), h.covering hstored]

theorem markUncertain_eq_ok (h : Balanced scheme ledger) (hvalid : scheme.validReservation
    reservation = true) (hstored : ledger.reservations[reservation.id]? = some stored) :
    (ledger.markUncertain scheme true reservation).2 = .ok stored.reserved := by
  unfold markUncertain
  rw [if_neg (by simp [hvalid])]
  simp only [hstored]
  rw [h.covering hstored]

/-- A call that does not end a reservation, nor finds it expired. -/
def Spares (id : ReservationID) (expiresAt : Time) : Call Limit Usage → Prop
  | .reserve _ _ _ now _ _ => now < expiresAt
  | .settle _ reservation _ | .markUncertain _ reservation | .release _ reservation =>
    reservation.id ≠ id

theorem Effect.spares (h : Balanced scheme ledger)
    (heffect : Effect scheme ledger call reply next) (hstored : ledger.reservations[id]? = some
    stored) (hspares : Spares id stored.expiresAt call) : next.reservations[id]? = some stored := by
  have hfinish : ∀ {other : ReservationID} {gone : MemoryReservation Limit} {daily : MemoryDaily Tally},
      other ≠ id → (ledger.finish other gone daily).reservations[id]? = some stored :=
    fun hother => by rw [finish, Map.getElem?_erase, if_neg hother, hstored]
  have hreconcile : ∀ {now : Time} (iteration : Map.Iteration (ReservationID × MemoryReservation Limit)),
      now < stored.expiresAt →
        (ledger.reconcileExpired scheme now iteration).reservations[id]? = some stored :=
    fun {now} iteration hnow => by
      rw [(h.reconcileExpired now iteration).2, hstored, Option.filter_some,
        if_pos (decide_eq_true hnow)]
  cases heffect with
  | refused => exact hstored
  | settled | uncertain | released => exact hfinish hspares
  | reconciled subject limit now iteration => exact hreconcile iteration hspares
  | reserved subject limit now iteration random issued new daily _ _ _ habsent =>
    -- The new identifier is not in use, so it is another one.
    have hother : issued ≠ id := by
      rintro rfl
      rw [hreconcile iteration hspares] at habsent
      cases habsent
    rw [start, Map.getElem?_insert, if_neg hother]
    exact hreconcile iteration hspares

theorem spares_run (hrun : Run (serve scheme) before history ledger) (h : Balanced
    scheme before) (hstored : before.reservations[id]? = some stored) (hspares : ∀ x ∈ history,
    Spares id stored.expiresAt x.call) : ledger.reservations[id]? = some stored := by
  induction hrun with
  | nil => exact hstored
  | @step history state call run ih =>
    have hbalanced : Balanced scheme state :=
      run.invariant (fun _ call h => (effect_serve h call).balanced h) h
    exact (effect_serve hbalanced call).spares hbalanced
      (ih fun x hx => hspares x (List.mem_cons_of_mem _ hx)) (hspares _ List.mem_cons_self)

/-! ## The account of a reservation -/

/-- One for a live reservation, zero for any other. -/
def liveCount (ledger : MemoryLedger Limit Tally) (id : ReservationID) : ℕ :=
  if (ledger.reservations[id]?).isSome then 1 else 0

theorem count_expired (ledger : MemoryLedger Limit Tally) (now : Time) (id : ReservationID) :
    (ledger.expired now).count id =
      if ledger.reservations[id]?.any fun stored => !decide (now < stored.expiresAt) then 1 else 0 := by
  have hnodup : (ledger.expired now).Nodup :=
    List.pairwise_map.mpr (Map.pairwise_toList.filter _)
  have hmem : id ∈ ledger.expired now ↔
      (ledger.reservations[id]?.any fun stored => !decide (now < stored.expiresAt)) = true := by
    simp only [expired, List.mem_map, List.mem_filter, Option.any_eq_true]
    constructor
    · grind
    · rintro ⟨stored, hstored, hexpired⟩
      exact ⟨(id, stored), ⟨Std.ExtTreeMap.mem_toList_iff_getElem?_eq_some.mpr hstored, hexpired⟩, rfl⟩
  split
  next h => exact List.count_eq_one_of_mem hnodup (hmem.mpr h)
  next h => exact List.count_eq_zero_of_not_mem (mt hmem.mp h)

theorem liveCount_reconcile (h : Balanced scheme ledger) (now : Time) (iteration : Map.Iteration
    (ReservationID × MemoryReservation Limit)) (id : ReservationID) : (ledger.expired now).count id
    + (ledger.reconcileExpired scheme now iteration).liveCount id = ledger.liveCount id := by
  rw [count_expired, liveCount, (h.reconcileExpired now iteration).2, liveCount]
  cases ledger.reservations[id]? with
  | none => rfl
  | some stored => grind

section

variable {id : ReservationID} {stored : MemoryReservation Limit} {daily : MemoryDaily Tally}

theorem liveCount_finish (hstored : ledger.reservations[id]? = some stored)
    (other : ReservationID) :
    [id].count other + (ledger.finish id stored daily).liveCount other = ledger.liveCount other := by
  grind [liveCount, finish, id]

theorem liveCount_start (habsent : ledger.reservations[id]? = none) (other : ReservationID) :
    (ledger.start id stored daily).liveCount other = ledger.liveCount other + [id].count other := by
  grind [liveCount, start, id]

end

/-- Every call accounts for the reservations that it issues and finishes. -/
theorem Effect.count (h : Balanced scheme ledger)
    (heffect : Effect scheme ledger call reply next) (id : ReservationID) :
    (finishedBy scheme ledger call reply).count id + next.liveCount id =
      ledger.liveCount id + ((issuedBy reply).map (·.id)).toList.count id := by
  cases heffect with
  | refused _ _ hfinished hissued => simp [hfinished, hissued]
  | settled _ _ _ _ _ _ hstored | uncertain _ _ _ hstored | released _ _ _ hstored =>
    exact liveCount_finish hstored id
  | reconciled subject limit now iteration random err key hsubject hcharge =>
    have hfinished : finishedBy scheme ledger
        (.reserve true subject limit now iteration random) (.reserved (.error err)) =
          ledger.expired now := if_pos (by simp [hsubject, hcharge])
    rw [hfinished]
    exact liveCount_reconcile h now iteration id
  | reserved subject limit now iteration random issued stored daily hdaily hsubject hcharge habsent =>
    have hfinished : finishedBy scheme ledger (.reserve true subject limit now iteration random)
        (.reserved (.ok ⟨issued, limit, stored.reserved⟩)) = ledger.expired now :=
      if_pos (by simp [hsubject, hcharge, Except.isOk, Except.toBool])
    have habsent' : ((ledger.reconcileExpired scheme now iteration).touch scheme
        stored.key).reservations[issued]? = none := habsent
    rw [hfinished, liveCount_start habsent', ← Nat.add_assoc]
    exact congrArg (· + [issued].count id) (liveCount_reconcile h now iteration id)

/-! ## Whole runs -/

variable {history : List (Served (MemoryLedger Limit Tally) (Call Limit Usage))}
  {x : Served (MemoryLedger Limit Tally) (Call Limit Usage)}

section

variable (scheme : Scheme Limit Usage Tally)
  (history : List (Served (MemoryLedger Limit Tally) (Call Limit Usage)))

/-- The reservations that the calls of a history issue. -/
def issued : List (Reservation Limit) :=
  history.filterMap fun x => issuedBy (x.reply (serve scheme))

/-- The reservations that the calls of a history finish. -/
def finished : List ReservationID :=
  history.flatMap fun x => finishedBy scheme x.before x.call (x.reply (serve scheme))

end

theorem issued_cons : issued scheme (x :: history) = (issuedBy (x.reply (serve scheme))).toList ++
    issued scheme history := by
  rw [issued, List.filterMap_cons]
  cases issuedBy (x.reply (serve scheme)) <;> rfl

theorem finished_cons :
    finished scheme (x :: history) =
      finishedBy scheme x.before x.call (x.reply (serve scheme)) ++ finished scheme history := rfl

theorem balanced_run (hrun : Run (serve scheme) empty history ledger) : Balanced scheme ledger :=
  hrun.invariant (fun _ call h => (effect_serve h call).balanced h) balanced_empty

theorem count_run (hrun : Run (serve scheme) empty history ledger) (id : ReservationID) :
    (finished scheme history).count id + ledger.liveCount id =
      ((issued scheme history).map (·.id)).count id := by
  induction hrun with
  | nil => simp [finished, issued, liveCount, empty]
  | @step history before call run ih =>
    have hbalanced : Balanced scheme before := balanced_run run
    have hcount := (effect_serve hbalanced call).count hbalanced id
    rw [finished_cons, issued_cons, List.count_append, List.map_append, List.count_append]
    rw [Option.toList_map] at hcount
    change (finishedBy scheme before call (before.serve scheme call).2).count id +
      (finished scheme history).count id + (before.serve scheme call).1.liveCount id =
      ((issuedBy (before.serve scheme call).2).toList.map (·.id)).count id +
        ((issued scheme history).map (·.id)).count id
    omega

/-- A reservation that is live after a call was live before, or the call has issued it. -/
theorem Effect.live (h : Balanced scheme ledger)
    (heffect : Effect scheme ledger call reply next)
    (hstored : next.reservations[id]? = some stored) :
    ledger.reservations[id]? = some stored ∨ ∃ reservation, issuedBy reply = some reservation ∧
    reservation.id = id ∧ reservation.reservedMicrousd = stored.reserved := by
  have hfinish : ∀ {other : ReservationID} {gone : MemoryReservation Limit} {daily : MemoryDaily Tally},
      (ledger.finish other gone daily).reservations[id]? = some stored →
        ledger.reservations[id]? = some stored := fun {other gone daily} hkept => by
    rw [finish, Map.getElem?_erase] at hkept
    split at hkept
    · cases hkept
    · exact hkept
  have hreconcile : ∀ {now : Time}
      {iteration : Map.Iteration (ReservationID × MemoryReservation Limit)},
      (ledger.reconcileExpired scheme now iteration).reservations[id]? = some stored →
        ledger.reservations[id]? = some stored := fun {now iteration} hkept => by
    rw [(h.reconcileExpired now iteration).2] at hkept
    exact (Option.filter_eq_some_iff.mp hkept).1
  cases heffect with
  | refused => exact Or.inl hstored
  | settled | uncertain | released => exact Or.inl (hfinish hstored)
  | reconciled => exact Or.inl (hreconcile hstored)
  | reserved subject limit now iteration random issued new daily =>
    rw [start, Map.getElem?_insert] at hstored
    split at hstored
    next heq =>
      obtain rfl := Option.some.inj hstored
      exact Or.inr ⟨_, rfl, heq, rfl⟩
    next => exact Or.inl (hreconcile hstored)

theorem issued_run (hrun : Run (serve scheme) empty history ledger)
    (hstored : ledger.reservations[id]? = some stored) :
    ∃ reservation ∈ issued scheme history, reservation.id = id ∧
      reservation.reservedMicrousd = stored.reserved := by
  induction hrun with
  | nil => simp [empty] at hstored
  | @step history before call run ih =>
    rw [issued_cons]
    rcases (effect_serve (balanced_run run) call).live (balanced_run run) hstored with
      hbefore | ⟨reservation, hissued, hid, hamount⟩
    · grind
    · exact ⟨reservation, List.mem_append_left _ (Option.mem_toList.mpr hissued), hid, hamount⟩

theorem settled_from (h : Balanced scheme x.before)
    (hcall : x.call = .settle live reservation usage) (hreply :
    x.reply (serve scheme) = .settled (.ok cost)) : ∃ stored : MemoryReservation Limit,
    x.before.reservations[reservation.id]? = some stored ∧ cost.toInt ≤ stored.reserved.toInt := by
  obtain ⟨next, heffect⟩ : ∃ next, Effect scheme x.before x.call (x.reply (serve scheme)) next :=
    ⟨_, effect_serve h x.call⟩
  rw [hcall, hreply] at heffect
  cases heffect with
  | refused _ _ hfinished => cases hfinished
  | settled _ _ _ stored _ _ hstored _ hcost => exact ⟨stored, hstored, hcost⟩

/-- The account of a run: under every key the reserved amount is the sum of the live reservations
and all amounts together, which the ledger adds up without overflow, are within the budget; every
issued reservation is live and unfinished, or finished once; and a settlement is at most what was
reserved. -/
structure Accounted (scheme : Scheme Limit Usage Tally)
    (history : List (Served (MemoryLedger Limit Tally) (Call Limit Usage)))
    (ledger : MemoryLedger Limit Tally) : Prop where
  reserved : ∀ key, (ledger.bucket scheme key).reserved.toInt = ledger.held key
  exact_sum : ∀ key, ((ledger.bucket scheme key).committed + (ledger.bucket scheme key).uncertain +
      (ledger.bucket scheme key).reserved).toInt =
    (ledger.bucket scheme key).committed.toInt + (ledger.bucket scheme key).uncertain.toInt +
      (ledger.bucket scheme key).reserved.toInt
  within : ∀ key, 0 ≤ (ledger.bucket scheme key).committed.toInt ∧
    0 ≤ (ledger.bucket scheme key).uncertain.toInt ∧
    0 ≤ (ledger.bucket scheme key).reserved.toInt ∧
    (ledger.bucket scheme key).committed.toInt + (ledger.bucket scheme key).uncertain.toInt +
      (ledger.bucket scheme key).reserved.toInt ≤ scheme.dailyBudgetMicrousd.toInt
  finished_once : ∀ reservation ∈ issued scheme history,
    if (ledger.reservations[reservation.id]?).isSome then
      reservation.id ∉ finished scheme history
    else (finished scheme history).count reservation.id = 1
  settled_le : ∀ later x earlier live reservation usage cost, history = later ++ x :: earlier →
    x.call = .settle live reservation usage → x.reply (serve scheme) = .settled (.ok cost) →
    ∃ original ∈ issued scheme earlier, original.id = reservation.id ∧
      cost.toInt ≤ original.reservedMicrousd.toInt

/-- Every run that draws fresh identifiers is accounted for. -/
theorem accounted_run (hrun : Run (serve scheme) empty history ledger)
    (hfresh : ((issued scheme history).map (·.id)).Nodup) : Accounted scheme history ledger where
  reserved := (balanced_run hrun).reserved
  exact_sum := (balanced_run hrun).toInt_sum
  within key := ⟨(balanced_run hrun).committed key, (balanced_run hrun).uncertain key,
    ((balanced_run hrun).bounds key).1, (balanced_run hrun).within key⟩
  finished_once reservation hissued := by
    have hcount := count_run hrun reservation.id
    rw [List.count_eq_one_of_mem hfresh (List.mem_map_of_mem hissued), liveCount] at hcount
    split
    next hlive => grind
    next hgone => grind
  settled_le later x earlier live reservation usage cost hsplit hcall hreply := by
    subst hsplit
    obtain ⟨hearlier, -⟩ := hrun.split
    obtain ⟨stored, hstored, hcost⟩ := settled_from (balanced_run hearlier) hcall hreply
    obtain ⟨original, hmem, hid, hamount⟩ := issued_run hearlier hstored
    exact ⟨original, hmem, hid, by rw [hamount]; exact hcost⟩

end MemoryLedger

end XiaozhiPlatform.Budget
