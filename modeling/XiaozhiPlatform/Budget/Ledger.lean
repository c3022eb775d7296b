import XiaozhiPlatform.GoLib.Error
import XiaozhiPlatform.GoLib.Int64
import XiaozhiPlatform.GoLib.Map
import XiaozhiPlatform.GoLib.Run
import XiaozhiPlatform.GoLib.Sha256
import XiaozhiPlatform.GoLib.Time

/-!
# In-memory usage ledgers

The packages `speechbudget` and `usagebudget` each have a `MemoryLedger` with the same four
operations. They differ in what a limit and a usage are, in how these are checked and priced, in the
texts of their errors and in what they count besides money. `Scheme` collects the differences, with
the bounds that every price meets, and the ledger is written once for any scheme.

All amounts are `int64` in micro-USD, with the wrapping arithmetic of that type.

- `Balanced`: what a ledger owes its live reservations, and its budget.
- `Balanced.start`, `Balanced.finish`: when starting and finishing a reservation keeps the balance.
- `Balanced.reconcileExpired`: the loop over the expired reservations keeps it, in any order.
-/

namespace XiaozhiPlatform.Budget

open GoLib

def maximumBudget : Int64 := 1000000000000000

/-- The type `[16]byte`. -/
abbrev ReservationID := Vector UInt8 16

instance : Std.TransOrd ReservationID := inferInstance

/-- A `Reservation` as the caller holds it. -/
structure Reservation (Limit : Type) where
  id : ReservationID
  limit : Limit
  reservedMicrousd : Int64
deriving DecidableEq

/-- The spending of one subject on one day. -/
structure MemoryDaily (Tally : Type) where
  committed : Int64
  uncertain : Int64
  reserved : Int64
  tally : Tally

/-- A `memoryReservation`, without its unused field `profile`. -/
structure MemoryReservation (Limit : Type) where
  day : String
  subject : String
  limit : Limit
  reserved : Int64
  expiresAt : Time

/-- The key of the spending that a reservation counts for. -/
def MemoryReservation.key {Limit : Type} (stored : MemoryReservation Limit) : String :=
  stored.day ++ ":" ++ stored.subject

/-- What a budget package makes of its limits and usages under one pricing. -/
structure Scheme (Limit Usage Tally : Type) where
  errInvalid : Error
  errUnavailable : Error
  errBudgetExceeded : Error
  errReservationLost : Error
  errUsageExceeded : Error
  generateAction : String
  /-- The cost of a reservation, or the error of a limit that is refused. -/
  charge : Limit → Except Error Int64
  validReservation : Reservation Limit → Bool
  validUsage : Usage → Bool
  /-- The cost of a usage within a limit. Whatever the error, the usage is too much. -/
  price : Usage → Limit → Except Error Int64
  noTally : Tally
  tallySettled : Usage → Tally → Tally
  tallyUncertain : Tally → Tally
  dailyBudgetMicrousd : Int64
  reservationTTL : ℤ
  subjectKey : String → String
  charge_bounds : ∀ limit cost, charge limit = .ok cost →
    1 ≤ cost.toInt ∧ cost.toInt ≤ maximumBudget.toInt
  price_nonneg : ∀ usage limit cost, price usage limit = .ok cost → 0 ≤ cost.toInt
  budget_bounds : 1 ≤ dailyBudgetMicrousd.toInt ∧ dailyBudgetMicrousd.toInt ≤ maximumBudget.toInt

/-- A `MemoryLedger`, apart from its pricing and its key. -/
structure MemoryLedger (Limit Tally : Type) where
  daily : Std.ExtTreeMap String (MemoryDaily Tally)
  reservations : Std.ExtTreeMap ReservationID (MemoryReservation Limit)

variable {Limit Usage Tally : Type}

def MemoryLedger.empty : MemoryLedger Limit Tally := ⟨∅, ∅⟩

/-- `hex.EncodeToString` of the HMAC of a subject under the key of the ledger. -/
def subjectDigest (domain : String) (digestKey : List UInt8) (subject : String) : String :=
  String.ofList (Hex.encode (Sha256.hmac digestKey
    (utf8 domain.toList ++ utf8 subject.toList)).toList)

/-! ## Operations -/

namespace MemoryLedger

variable (scheme : Scheme Limit Usage Tally) (ledger : MemoryLedger Limit Tally)

/-- The spending under a key; a key without an entry has spent nothing. -/
def bucket (key : String) : MemoryDaily Tally :=
  ledger.daily[key]?.getD ⟨0, 0, 0, scheme.noTally⟩

/-- Makes the entry of a key that has none. -/
def touch (key : String) : MemoryLedger Limit Tally :=
  { ledger with daily := ledger.daily.insert key (ledger.bucket scheme key) }

section

variable (id : ReservationID) (stored : MemoryReservation Limit) (daily : MemoryDaily Tally)

/-- Deletes a reservation and replaces the spending that it counts for. -/
def finish :
    MemoryLedger Limit Tally where
  daily := ledger.daily.insert stored.key daily
  reservations := ledger.reservations.erase id

/-- Adds a reservation and replaces the spending that it counts for. -/
def start :
    MemoryLedger Limit Tally where
  daily := ledger.daily.insert stored.key daily
  reservations := ledger.reservations.insert id stored

end

/-- The spending once a reserved amount has become uncertain. -/
def forfeited (stored : MemoryReservation Limit) (daily : MemoryDaily Tally) : MemoryDaily Tally :=
  { daily with
    reserved := daily.reserved - stored.reserved
    uncertain := daily.uncertain + stored.reserved
    tally := scheme.tallyUncertain daily.tally }

/-- One turn of the loop of `reconcileExpired`. -/
def reconcileTurn (now : Time) (ledger : MemoryLedger Limit Tally)
    (entry : ReservationID × MemoryReservation Limit) : MemoryLedger Limit Tally :=
  let (id, stored) := entry
  if now < stored.expiresAt then ledger
  else
    match ledger.daily[stored.key]? with
    | some daily =>
      if stored.reserved ≤ daily.reserved then ledger.finish id stored (forfeited scheme stored daily)
      else { ledger with reservations := ledger.reservations.erase id }
    | none => { ledger with reservations := ledger.reservations.erase id }

def reconcileExpired (now : Time)
    (iteration : Map.Iteration (ReservationID × MemoryReservation Limit)) :
    MemoryLedger Limit Tally :=
  (iteration.order ledger.reservations.toList).foldl (reconcileTurn scheme now) ledger

/-- `Reserve`. The context is live when it has no error. -/
def reserve (live : Bool) (subject : String) (limit : Limit) (now : Time)
    (iteration : Map.Iteration (ReservationID × MemoryReservation Limit)) (random : List UInt8) :
    MemoryLedger Limit Tally × Except Error (Reservation Limit) :=
  if live = false ∨ subject = "" then (ledger, .error scheme.errInvalid)
  else
    match scheme.charge limit with
    | .error err => (ledger, .error err)
    | .ok cost =>
      let ledger := ledger.reconcileExpired scheme now iteration
      let day := formatDate now
      let subject := scheme.subjectKey subject
      let key := day ++ ":" ++ subject
      let daily := ledger.bucket scheme key
      -- The entry of the day is made before anything is decided.
      let ledger := ledger.touch scheme key
      if scheme.dailyBudgetMicrousd - cost < daily.committed + daily.uncertain + daily.reserved then
        (ledger, .error scheme.errBudgetExceeded)
      else
        match readFull 16 random with
        | .error _ => (ledger, .error (.detailed scheme.errUnavailable scheme.generateAction))
        | .ok (raw, _) =>
          let id : ReservationID := Vector.ofFn fun i => raw.getD i.val 0
          -- `unavailable` names no action here, since there is no cause to report.
          if ledger.reservations.contains id then (ledger, .error scheme.errUnavailable)
          else
            (ledger.start id ⟨day, subject, limit, cost, now + scheme.reservationTTL⟩
              { daily with reserved := daily.reserved + cost }, .ok ⟨id, limit, cost⟩)

/-- The last checks that `Settle`, `MarkUncertain` and `Release` share: the spending that a stored
reservation counts for must cover it. -/
def covering (stored : MemoryReservation Limit) : Except Error (MemoryDaily Tally) :=
  match ledger.daily[stored.key]? with
  | none => .error scheme.errUnavailable
  | some daily =>
    if daily.reserved < stored.reserved then .error scheme.errUnavailable else .ok daily

section

variable (live : Bool) (reservation : Reservation Limit)

/-- `Settle`, with the cost that the settlement reports. -/
def settle (usage : Usage) : MemoryLedger Limit Tally × Except Error Int64 :=
  if live = false ∨ scheme.validReservation reservation = false ∨ scheme.validUsage usage = false then
    (ledger, .error scheme.errInvalid)
  else
    match ledger.reservations[reservation.id]? with
    | none => (ledger, .error scheme.errReservationLost)
    | some stored =>
      match scheme.price usage stored.limit with
      | .error _ => (ledger, .error scheme.errUsageExceeded)
      | .ok cost =>
        if stored.reserved < cost then (ledger, .error scheme.errUsageExceeded)
        else
          match ledger.covering scheme stored with
          | .error err => (ledger, .error err)
          | .ok daily =>
            (ledger.finish reservation.id stored
              { daily with
                reserved := daily.reserved - stored.reserved
                committed := daily.committed + cost
                tally := scheme.tallySettled usage daily.tally }, .ok cost)

/-- `MarkUncertain`, with the amount that it reports. -/
def markUncertain : MemoryLedger Limit Tally × Except Error Int64 :=
  if live = false ∨ scheme.validReservation reservation = false then
    (ledger, .error scheme.errInvalid)
  else
    match ledger.reservations[reservation.id]? with
    | none => (ledger, .error scheme.errReservationLost)
    | some stored =>
      match ledger.covering scheme stored with
      | .error err => (ledger, .error err)
      | .ok daily =>
        (ledger.finish reservation.id stored (forfeited scheme stored daily), .ok stored.reserved)

def release : MemoryLedger Limit Tally × Except Error Unit :=
  if live = false ∨ scheme.validReservation reservation = false then
    (ledger, .error scheme.errInvalid)
  else
    match ledger.reservations[reservation.id]? with
    | none => (ledger, .error scheme.errReservationLost)
    | some stored =>
      match ledger.covering scheme stored with
      | .error err => (ledger, .error err)
      | .ok daily =>
        (ledger.finish reservation.id stored
          { daily with reserved := daily.reserved - stored.reserved }, .ok ())

end

end MemoryLedger

/-! ## Calls -/

/-- A call through the interface `Ledger`. The clock, the order of a loop over a map and the random
bytes are as they happen to be. -/
inductive Call (Limit Usage : Type) where
  | reserve (live : Bool) (subject : String) (limit : Limit) (now : Time)
      (iteration : Map.Iteration (ReservationID × MemoryReservation Limit)) (random : List UInt8)
  | settle (live : Bool) (reservation : Reservation Limit) (usage : Usage)
  | markUncertain (live : Bool) (reservation : Reservation Limit)
  | release (live : Bool) (reservation : Reservation Limit)

inductive Reply (Limit : Type) where
  | reserved (result : Except Error (Reservation Limit))
  | settled (result : Except Error Int64)
  | uncertain (result : Except Error Int64)
  | released (result : Except Error Unit)

def MemoryLedger.serve (scheme : Scheme Limit Usage Tally) (ledger : MemoryLedger Limit Tally) :
    Call Limit Usage → MemoryLedger Limit Tally × Reply Limit
  | .reserve live subject limit now iteration random =>
    (ledger.reserve scheme live subject limit now iteration random).map id .reserved
  | .settle live reservation usage =>
    (ledger.settle scheme live reservation usage).map id .settled
  | .markUncertain live reservation =>
    (ledger.markUncertain scheme live reservation).map id .uncertain
  | .release live reservation => (ledger.release scheme live reservation).map id .released

/-! ## Balance -/

namespace MemoryLedger

/-- What a reservation holds back under a key. -/
def share (key : String) (stored : MemoryReservation Limit) : ℤ :=
  if stored.key = key then stored.reserved.toInt else 0

/-- The sum of the live reservations under a key. -/
def held (ledger : MemoryLedger Limit Tally) (key : String) : ℤ :=
  Map.total (share key) ledger.reservations

/-- Under every key, what is reserved is the sum of the live reservations, and all that is spent or
reserved is within the budget. -/
structure Balanced (scheme : Scheme Limit Usage Tally) (ledger : MemoryLedger Limit Tally) : Prop where
  positive : ∀ (id : ReservationID) (stored : MemoryReservation Limit),
    ledger.reservations[id]? = some stored → 1 ≤ stored.reserved.toInt
  reserved : ∀ key, (ledger.bucket scheme key).reserved.toInt = ledger.held key
  committed : ∀ key, 0 ≤ (ledger.bucket scheme key).committed.toInt
  uncertain : ∀ key, 0 ≤ (ledger.bucket scheme key).uncertain.toInt
  within : ∀ key, (ledger.bucket scheme key).committed.toInt +
    (ledger.bucket scheme key).uncertain.toInt + (ledger.bucket scheme key).reserved.toInt ≤
      scheme.dailyBudgetMicrousd.toInt

variable {scheme : Scheme Limit Usage Tally} {ledger : MemoryLedger Limit Tally}
  {id : ReservationID} {stored : MemoryReservation Limit} {daily : MemoryDaily Tally} {key : String}

theorem balanced_empty : Balanced scheme (empty : MemoryLedger Limit Tally) where
  positive id stored h := by simp [empty] at h
  reserved key := by simp [bucket, empty, held]
  committed key := by simp [bucket, empty]
  uncertain key := by simp [bucket, empty]
  within key := by
    have := scheme.budget_bounds.1
    simp [bucket, empty]
    omega

theorem bucket_insert {reservations} : bucket scheme ⟨ledger.daily.insert key
    daily, reservations⟩ other = if key = other then daily else ledger.bucket scheme other := by
  rw [bucket, Map.getElem?_insert]
  split <;> rfl

theorem bucket_touch (scheme : Scheme Limit Usage Tally) (ledger : MemoryLedger Limit Tally)
    (key other : String) :
    (ledger.touch scheme key).bucket scheme other = ledger.bucket scheme other := by
  rw [touch, bucket_insert]
  split
  next heq => rw [heq]
  next => rfl

namespace Balanced

section

variable (h : Balanced scheme ledger)

include h

theorem share_nonneg (key : String) (id : ReservationID)
    (stored : MemoryReservation Limit) (hstored : ledger.reservations[id]? = some stored) :
    0 ≤ share key stored := by
  have hpositive := h.positive id stored hstored
  unfold share
  split <;> omega

/-- The amounts under a key are bounded by the largest budget on all sides. -/
theorem bounds (key : String) : 0 ≤ (ledger.bucket scheme
    key).reserved.toInt ∧ (ledger.bucket scheme key).committed.toInt + (ledger.bucket scheme
    key).uncertain.toInt + (ledger.bucket scheme key).reserved.toInt ≤ 1000000000000000 := by
  have hheld : 0 ≤ ledger.held key := Map.total_nonneg (h.share_nonneg key)
  have hmaximum : scheme.dailyBudgetMicrousd.toInt ≤ 1000000000000000 := scheme.budget_bounds.2
  exact ⟨by rw [h.reserved]; exact hheld, (h.within key).trans hmaximum⟩

theorem toInt_sum (key : String) : ((ledger.bucket scheme
    key).committed + (ledger.bucket scheme key).uncertain + (ledger.bucket scheme
    key).reserved).toInt = (ledger.bucket scheme key).committed.toInt + (ledger.bucket scheme
    key).uncertain.toInt + (ledger.bucket scheme key).reserved.toInt := by
  obtain ⟨hreserved, hmaximum⟩ := h.bounds key
  have hcommitted := h.committed key
  have huncertain := h.uncertain key
  have hpair := Exact.toInt_add (a := (ledger.bucket scheme key).committed)
    (b := (ledger.bucket scheme key).uncertain) ⟨by omega, by omega⟩
  rw [Exact.toInt_add (by rw [hpair]; exact ⟨by omega, by omega⟩), hpair]

theorem le_reserved (hstored : ledger.reservations[id]? = some stored) :
    stored.reserved.toInt ≤ (ledger.bucket scheme stored.key).reserved.toInt := by
  have hle : share stored.key stored ≤ ledger.held stored.key :=
    Map.le_total (h.share_nonneg stored.key) hstored
  rw [share, if_pos rfl] at hle
  rwa [h.reserved]

theorem daily_of_live (hstored : ledger.reservations[id]? = some stored) :
    ledger.daily[stored.key]? = some (ledger.bucket scheme stored.key) := by
  have hle := h.le_reserved hstored
  have hpositive := h.positive id stored hstored
  cases hdaily : ledger.daily[stored.key]? with
  | none =>
    -- Without an entry nothing would be reserved.
    simp [bucket, hdaily] at hle
    omega
  | some daily => simp [bucket, hdaily]

/-- Finishing a reservation keeps the balance when its amount is given back, or is spent up to what
was reserved. -/
theorem finish (hstored : ledger.reservations[id]? = some stored)
    (hcommitted : 0 ≤ daily.committed.toInt) (huncertain : 0 ≤ daily.uncertain.toInt)
    (hreserved : daily.reserved.toInt =
      (ledger.bucket scheme stored.key).reserved.toInt - stored.reserved.toInt)
    (hspent : daily.committed.toInt + daily.uncertain.toInt ≤
      (ledger.bucket scheme stored.key).committed.toInt +
        (ledger.bucket scheme stored.key).uncertain.toInt + stored.reserved.toInt) :
    Balanced scheme (ledger.finish id stored daily) where
  positive other kept hkept := by
    rw [MemoryLedger.finish, Map.getElem?_erase] at hkept
    split at hkept
    · cases hkept
    · exact h.positive other kept hkept
  reserved key := by
    have hheld : (ledger.finish id stored daily).held key = ledger.held key - share key stored :=
      Map.total_erase hstored
    rw [hheld, MemoryLedger.finish, bucket_insert, share]
    split
    next heq => rw [hreserved, h.reserved, heq]
    next => rw [h.reserved, Int.sub_zero]
  committed key := by
    rw [MemoryLedger.finish, bucket_insert]
    split
    · exact hcommitted
    · exact h.committed key
  uncertain key := by
    rw [MemoryLedger.finish, bucket_insert]
    split
    · exact huncertain
    · exact h.uncertain key
  within key := by
    rw [MemoryLedger.finish, bucket_insert]
    split
    · have hwithin := h.within stored.key
      omega
    · exact h.within key

/-- A new reservation keeps the balance when it adds its amount and the budget has room for it. -/
theorem start (habsent : ledger.reservations[id]? = none)
    (hpositive : 1 ≤ stored.reserved.toInt) (hcommitted : 0 ≤ daily.committed.toInt)
    (huncertain : 0 ≤ daily.uncertain.toInt)
    (hreserved : daily.reserved.toInt =
      (ledger.bucket scheme stored.key).reserved.toInt + stored.reserved.toInt)
    (hwithin : daily.committed.toInt + daily.uncertain.toInt + daily.reserved.toInt ≤
      scheme.dailyBudgetMicrousd.toInt) :
    Balanced scheme (ledger.start id stored daily) where
  positive other kept hkept := by
    rw [MemoryLedger.start, Map.getElem?_insert] at hkept
    split at hkept
    · grind
    · exact h.positive other kept hkept
  reserved key := by
    have hheld : (ledger.start id stored daily).held key = share key stored + ledger.held key :=
      Map.total_insert habsent
    rw [hheld, MemoryLedger.start, bucket_insert, share]
    split
    next heq => rw [hreserved, h.reserved, heq, Int.add_comm]
    next => rw [h.reserved, Int.zero_add]
  committed key := by
    rw [MemoryLedger.start, bucket_insert]
    split
    · exact hcommitted
    · exact h.committed key
  uncertain key := by
    rw [MemoryLedger.start, bucket_insert]
    split
    · exact huncertain
    · exact h.uncertain key
  within key := by
    rw [MemoryLedger.start, bucket_insert]
    split
    · exact hwithin
    · exact h.within key

theorem touch (key : String) : Balanced scheme (ledger.touch scheme key) := by
  have hbucket := bucket_touch scheme ledger key
  exact ⟨h.positive, fun other => by rw [hbucket]; exact h.reserved other,
    fun other => by rw [hbucket]; exact h.committed other,
    fun other => by rw [hbucket]; exact h.uncertain other,
    fun other => by rw [hbucket]; exact h.within other⟩

theorem forfeit (hstored : ledger.reservations[id]? = some stored) : Balanced scheme
      (ledger.finish id stored (forfeited scheme stored (ledger.bucket scheme stored.key))) := by
  obtain ⟨-, hmaximum⟩ := h.bounds stored.key
  have hpositive := h.positive id stored hstored
  have hle := h.le_reserved hstored
  have hcommitted := h.committed stored.key
  have huncertain := h.uncertain stored.key
  have hminus := Exact.toInt_sub (a := (ledger.bucket scheme stored.key).reserved)
    (b := stored.reserved) ⟨by omega, by omega⟩
  have hplus := Exact.toInt_add (a := (ledger.bucket scheme stored.key).uncertain)
    (b := stored.reserved) ⟨by omega, by omega⟩
  refine h.finish hstored hcommitted ?_ hminus ?_
  · rw [forfeited, hplus]
    omega
  · simp only [forfeited, hplus]
    omega

theorem covering (hstored : ledger.reservations[id]? = some stored) :
    ledger.covering scheme stored = .ok (ledger.bucket scheme stored.key) := by
  have hle := h.le_reserved hstored
  simp only [MemoryLedger.covering, h.daily_of_live hstored]
  rw [if_neg (by rw [Int64.lt_iff_toInt_lt]; omega)]

end

/-! ### Reconciliation -/

section

variable (h : Balanced scheme ledger) (now : Time)

include h now

theorem reconcileTurn_eq (hstored :
    ledger.reservations[id]? = some stored) : reconcileTurn scheme now ledger (id, stored) = if now
    < stored.expiresAt then ledger else ledger.finish id stored (forfeited scheme stored
    (ledger.bucket scheme stored.key)) := by
  have hle : stored.reserved ≤ (ledger.bucket scheme stored.key).reserved :=
    Int64.le_iff_toInt_le.mpr (h.le_reserved hstored)
  simp only [reconcileTurn, h.daily_of_live hstored]
  rw [if_pos hle]

theorem foldl_reconcileTurn {entries : List (ReservationID
    × MemoryReservation Limit)} (hkeys : entries.Pairwise fun x y => x.1 ≠ y.1) (hlive : ∀ entry ∈
    entries, ledger.reservations[entry.1]? = some entry.2) : Balanced scheme (entries.foldl
    (reconcileTurn scheme now) ledger) ∧ ∀ other : ReservationID, (entries.foldl (reconcileTurn
    scheme now) ledger).reservations[other]? = if entries.any fun entry => entry.1 = other &&
    !decide (now < entry.2.expiresAt) then none else ledger.reservations[other]? := by
  induction entries generalizing ledger with
  | nil => exact ⟨h, by simp⟩
  | cons entry rest ih =>
    obtain ⟨id, stored⟩ := entry
    obtain ⟨hfirst, hrest⟩ := List.pairwise_cons.mp hkeys
    have hstored := hlive (id, stored) List.mem_cons_self
    rw [List.foldl_cons, h.reconcileTurn_eq now hstored]
    by_cases hexpired : now < stored.expiresAt
    · grind
    · rw [if_neg hexpired]
      -- The entries to come have other identifiers, so they are still live.
      obtain ⟨hbalanced, hreservations⟩ := ih (h.forfeit hstored) hrest fun entry hentry => by
        rw [MemoryLedger.finish, Map.getElem?_erase, if_neg (hfirst entry hentry)]
        exact hlive entry (List.mem_cons_of_mem _ hentry)
      refine ⟨hbalanced, fun other => ?_⟩
      rw [hreservations, MemoryLedger.finish, Map.getElem?_erase, List.any_cons,
        decide_eq_false hexpired, Bool.not_false, Bool.and_true]
      by_cases hother : id = other
      · grind
      · grind

theorem reconcileExpired (iteration : Map.Iteration
    (ReservationID × MemoryReservation Limit)) : Balanced scheme (ledger.reconcileExpired scheme now
    iteration) ∧ ∀ other : ReservationID, (ledger.reconcileExpired scheme now
    iteration).reservations[other]? = ledger.reservations[other]?.filter fun stored => now <
    stored.expiresAt := by
  have hperm := iteration.perm ledger.reservations.toList
  have hkeys : (iteration.order ledger.reservations.toList).Pairwise fun x y => x.1 ≠ y.1 :=
    (hperm.pairwise_iff fun hxy => hxy.symm).mpr Map.pairwise_toList
  have hlive : ∀ entry, entry ∈ iteration.order ledger.reservations.toList ↔
      ledger.reservations[entry.1]? = some entry.2 := fun entry =>
    hperm.mem_iff.trans Std.ExtTreeMap.mem_toList_iff_getElem?_eq_some
  obtain ⟨hbalanced, hreservations⟩ :=
    h.foldl_reconcileTurn now hkeys fun entry hentry => (hlive entry).mp hentry
  refine ⟨hbalanced, fun other => ?_⟩
  rw [MemoryLedger.reconcileExpired, hreservations]
  cases hother : ledger.reservations[other]? with
  | none => simp
  | some stored =>
    by_cases hexpired : now < stored.expiresAt
    · grind
    · have hany : (iteration.order ledger.reservations.toList).any
          (fun entry => entry.1 = other && !decide (now < entry.2.expiresAt)) = true :=
        List.any_eq_true.mpr ⟨(other, stored), (hlive (other, stored)).mpr hother, by simp [hexpired]⟩
      rw [if_pos hany, Option.filter_some, if_neg (by simpa using hexpired)]

end

end Balanced

end MemoryLedger

end XiaozhiPlatform.Budget
