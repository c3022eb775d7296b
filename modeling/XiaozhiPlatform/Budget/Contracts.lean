import XiaozhiPlatform.Budget.Accounts

/-!
# The speech and the Agent budget

The limits, usages and prices of the packages `speechbudget` and `usagebudget`, and the schemes
under which both run the in-memory ledger. The two packages round a cost up in the same way;
`roundedCost` is the part of `unitCost` and `tokenCost` that they share.

- `ledgers_accounted`: the account of every run of either ledger.
-/

namespace XiaozhiPlatform

open GoLib

variable {rate cost units : Int64}

namespace Budget

def maximumRate : Int64 := 1000000000000

/-- The pattern `^[A-Za-z0-9][A-Za-z0-9_.:-]{0,63}$`. -/
def profilePattern (value : String) : Bool :=
  match value.toList with
  | [] => false
  | first :: rest =>
    first.isAlphanum && rest.length ≤ 63 &&
      rest.all fun c => c.isAlphanum || c == '_' || c == '.' || c == ':' || c == '-'

def million : Int64 := 1000000

def maximumInt64 : Int64 := 9223372036854775807

/-- The cost of the units beyond the last whole million, which adds nothing when there are none. -/
def remainderCost (errInvalid : Error) (remainder rate : Int64) : Except Error Int64 :=
  if remainder = 0 then .ok 0
  else do
    failIf ((maximumInt64 - (million - 1)) / rate < remainder) errInvalid
    return (remainder * rate + million - 1) / million

/-- The cost of some units at a rate for a million of them, rounded up. -/
def roundedCost (errInvalid : Error) (units rate : Int64) : Except Error Int64 := do
  let part ← remainderCost errInvalid (units % million) rate
  let whole := units / million * rate + part
  failIf (whole < 0 ∨ maximumBudget < whole) errInvalid
  return whole

theorem roundedCost_bounds (h : roundedCost
    errInvalid units rate = .ok cost) : 0 ≤ cost.toInt ∧ cost.toInt ≤ maximumBudget.toInt := by
  obtain ⟨value, -, hlast⟩ := (bind_eq_ok _ _ _).mp h
  obtain ⟨hbounds, hcost⟩ := (failIf_bind_eq_ok _ _).mp hlast
  obtain rfl := Except.ok.inj hcost
  push Not at hbounds
  rw [Int64.not_lt, Int64.not_lt, Int64.le_iff_toInt_le, Int64.le_iff_toInt_le] at hbounds
  exact hbounds

/-- A cost in micro-USD is the exact price, rounded up to the next integer. -/
def exactCost (units rate : ℤ) : ℤ := (units * rate + 999999) / 1000000

theorem exactCost_mono {units more rate : ℤ} (hrate : 0 ≤ rate) (h : units ≤ more) :
    exactCost units rate ≤ exactCost more rate := by
  have hmul : units * rate ≤ more * rate := Int.mul_le_mul_of_nonneg_right h hrate
  unfold exactCost
  omega

theorem exactCost_pos {units rate : ℤ} (hunits : 1 ≤ units) (hrate : 1 ≤ rate) :
    1 ≤ exactCost units rate := by
  have hmul : 1 * 1 ≤ units * rate := Int.mul_le_mul hunits hrate (by decide) (by omega)
  unfold exactCost
  omega

theorem exactCost_split (units rate : ℤ) :
    units / 1000000 * rate + exactCost (units % 1000000) rate = exactCost units rate := by
  have hsplit : units * rate = 1000000 * (units / 1000000 * rate) + units % 1000000 * rate := by
    grind
  unfold exactCost
  omega

theorem remainderCost_eq (errInvalid : Error) (hremainder : 0 ≤
    remainder.toInt ∧ remainder.toInt < 1000000) (hrate : 1 ≤ rate.toInt ∧ rate.toInt ≤
    1000000000000) : ∃ part, remainderCost errInvalid remainder rate = .ok part ∧ part.toInt =
    exactCost remainder.toInt rate.toInt := by
  unfold remainderCost
  split
  next hzero =>
    refine ⟨0, rfl, ?_⟩
    rw [hzero, Int64.toInt_zero, exactCost, Int.zero_mul]
    rfl
  next =>
    have hproduct : remainder.toInt * rate.toInt ≤ 1000000 * 1000000000000 :=
      Int.mul_le_mul hremainder.2.le hrate.2 (by omega) (by decide)
    have hnonneg : 0 ≤ remainder.toInt * rate.toInt := Int.mul_nonneg hremainder.1 (by omega)
    have hmillion : million.toInt = 1000000 := rfl
    -- The guard compares with a quotient that no remainder reaches.
    have hguard : ¬ (maximumInt64 - (million - 1)) / rate < remainder := by
      have hlargest : (maximumInt64 - (million - 1)).toInt = 9223372036853775808 := rfl
      rw [Int64.lt_iff_toInt_lt, Exact.toInt_div (by rw [hlargest]; decide) (by omega), hlargest,
        Int.not_lt, Int.le_ediv_iff_mul_le (by omega)]
      omega
    have hmul := Exact.toInt_mul (a := remainder) (b := rate) ⟨by omega, by omega⟩
    have hadd := Exact.toInt_add (a := remainder * rate) (b := million)
      (by rw [hmul, hmillion]; exact ⟨by omega, by omega⟩)
    have hone : (1 : Int64).toInt = 1 := rfl
    have hsub := Exact.toInt_sub (a := remainder * rate + million) (b := 1)
      (by rw [hadd, hmul, hmillion, hone]; exact ⟨by omega, by omega⟩)
    refine ⟨(remainder * rate + million - 1) / million, ?_, ?_⟩
    · rw [failIf_of_neg hguard]
      rfl
    · grind [Exact.toInt_div, exactCost]

theorem roundedCost_eq (errInvalid : Error) (hunits : 0 ≤ units.toInt ∧
    units.toInt ≤ 86400000) (hrate : 1 ≤ rate.toInt ∧ rate.toInt ≤ 1000000000000) : ∃ cost,
    roundedCost errInvalid units rate = .ok cost ∧ cost.toInt = exactCost units.toInt rate.toInt
    := by
  have hmillion : million.toInt = 1000000 := rfl
  have hmaximum : maximumBudget.toInt = 1000000000000000 := rfl
  have hmod : (units % million).toInt = units.toInt % 1000000 := Exact.toInt_mod hunits.1
  have hdiv : (units / million).toInt = units.toInt / 1000000 := Exact.toInt_div hunits.1 (by decide)
  obtain ⟨part, hpart, hcost⟩ := remainderCost_eq errInvalid
    (by rw [hmod]; omega : 0 ≤ (units % million).toInt ∧ (units % million).toInt < 1000000) hrate
  rw [hmod] at hcost
  have htotal := exactCost_split units.toInt rate.toInt
  have hbound : exactCost units.toInt rate.toInt ≤ exactCost 86400000 1000000000000 := by
    have hmul : units.toInt * rate.toInt ≤ 86400000 * 1000000000000 :=
      Int.mul_le_mul hunits.2 hrate.2 (by omega) (by decide)
    unfold exactCost
    omega
  have hlargest : exactCost 86400000 1000000000000 = 86400000000000 := rfl
  have hwhole : 0 ≤ units.toInt / 1000000 * rate.toInt :=
    Int.mul_nonneg (Int.ediv_nonneg hunits.1 (by decide)) (by omega)
  have hrest : 0 ≤ exactCost (units.toInt % 1000000) rate.toInt := by
    have hmul : 0 ≤ units.toInt % 1000000 * rate.toInt := Int.mul_nonneg (by omega) (by omega)
    unfold exactCost
    omega
  have hmul := Exact.toInt_mul (a := units / million) (b := rate)
    (by rw [hdiv]; exact ⟨by omega, by omega⟩)
  have hadd := Exact.toInt_add (a := units / million * rate) (b := part)
    (by rw [hmul, hdiv, hcost]; exact ⟨by omega, by omega⟩)
  rw [hmul, hdiv, hcost, htotal] at hadd
  refine ⟨units / million * rate + part, ?_, hadd⟩
  unfold roundedCost
  rw [hpart]
  change (failIf _ errInvalid >>= fun _ => Except.ok (units / million * rate + part)) = _
  rw [failIf_of_neg]
  · rfl
  · rw [Int64.lt_iff_toInt_lt, Int64.lt_iff_toInt_lt, hadd, Int64.toInt_zero, hmaximum]
    omega

/-- The identifier of a reservation must not be zero. -/
def nonzeroID (id : ReservationID) : Bool := id.any fun value => value ≠ 0

end Budget

/-! ## Speech -/

variable {pricing : Pricing}

namespace SpeechBudget

open Budget

def maximumUnitBound : Int64 := 86400000
def minimumSTTChunkMS : Int64 := 1000
def maximumSTTChunkMS : Int64 := 60000
def minimumTTSOutputMS : Int64 := 1000
def maximumTTSOutputMS : Int64 := 600000
def minimumReservationTTL : ℤ := 60 * second

def errInvalid : Error := .text "invalid speech usage budget request"
def errUnavailable : Error := .text "speech usage budget unavailable"
def errBudgetExceeded : Error := .text "speech daily usage budget exceeded"
def errReservationLost : Error := .text "speech usage reservation lost"
def errUsageExceeded : Error := .text "speech provider usage exceeded reservation"

structure Pricing where
  profileID : String
  sttMicrousdPerMillionAudioMS : Int64
  ttsMicrousdPerMillionCharacters : Int64
  ttsMicrousdPerMillionOutputAudioMS : Int64
  dailyBudgetMicrousd : Int64
  sttReservationChunkAudioMS : Int64
  ttsMaxOutputAudioMS : Int64
  reservationTTL : ℤ
deriving DecidableEq, Repr

/-- `Pricing.Validate` has no error. -/
@[mk_iff] structure Pricing.Valid (pricing : Pricing) : Prop where
  profileID : profilePattern pricing.profileID = true
  sttRate : 1 ≤ pricing.sttMicrousdPerMillionAudioMS ∧
    pricing.sttMicrousdPerMillionAudioMS ≤ maximumRate
  characterRate : 0 ≤ pricing.ttsMicrousdPerMillionCharacters ∧
    pricing.ttsMicrousdPerMillionCharacters ≤ maximumRate
  outputRate : 0 ≤ pricing.ttsMicrousdPerMillionOutputAudioMS ∧
    pricing.ttsMicrousdPerMillionOutputAudioMS ≤ maximumRate
  ttsRate : pricing.ttsMicrousdPerMillionCharacters ≠ 0 ∨
    pricing.ttsMicrousdPerMillionOutputAudioMS ≠ 0
  dailyBudget : 1 ≤ pricing.dailyBudgetMicrousd ∧ pricing.dailyBudgetMicrousd ≤ maximumBudget
  sttChunk : minimumSTTChunkMS ≤ pricing.sttReservationChunkAudioMS ∧
    pricing.sttReservationChunkAudioMS ≤ maximumSTTChunkMS
  ttsOutput : minimumTTSOutputMS ≤ pricing.ttsMaxOutputAudioMS ∧
    pricing.ttsMaxOutputAudioMS ≤ maximumTTSOutputMS
  reservationTTL : minimumReservationTTL ≤ pricing.reservationTTL ∧
    pricing.reservationTTL ≤ 10 * minute

instance (pricing : Pricing) : Decidable pricing.Valid :=
  decidable_of_iff' _ pricing.valid_iff

theorem Pricing.Valid.toInt_chunk (h : pricing.Valid) :
    1000 ≤ pricing.sttReservationChunkAudioMS.toInt ∧
      pricing.sttReservationChunkAudioMS.toInt ≤ 60000 := by
  obtain ⟨hmin, hmax⟩ := h.sttChunk
  rw [Int64.le_iff_toInt_le] at hmin hmax
  exact ⟨hmin, hmax⟩

structure Usage where
  sttAudioMS : Int64
  ttsCharacters : Int64
  ttsOutputAudioMS : Int64
deriving DecidableEq, Repr

def sttUsage (audioMS : Int64) : Usage := ⟨audioMS, 0, 0⟩

def ttsUsage (characters outputAudioMS : Int64) : Usage := ⟨0, characters, outputAudioMS⟩

/-- `Usage.Validate` has no error. -/
def Usage.Valid (usage : Usage) : Prop :=
  (0 < usage.sttAudioMS ∧ usage.ttsCharacters = 0 ∧ usage.ttsOutputAudioMS = 0 ∨
    usage.sttAudioMS = 0 ∧ 0 < usage.ttsCharacters ∧ 0 ≤ usage.ttsOutputAudioMS) ∧
  usage.sttAudioMS ≤ maximumUnitBound ∧ usage.ttsCharacters ≤ maximumUnitBound ∧
    usage.ttsOutputAudioMS ≤ maximumUnitBound
deriving Decidable

def unitCost (units rate : Int64) : Except Error Int64 := do
  failIf (units < 0 ∨ maximumUnitBound < units ∨ rate < 0 ∨ maximumRate < rate) errInvalid
  if units = 0 ∨ rate = 0 then return 0
  else roundedCost errInvalid units rate

/-- The loop of `usageCost` over the kinds of units and their rates. -/
def addCosts : List (Int64 × Int64) → Int64 → Except Error Int64
  | [], total => .ok total
  | (units, rate) :: rest, total =>
    match unitCost units rate with
    | .error _ => .error errInvalid
    | .ok cost =>
      if maximumBudget - cost < total then .error errInvalid else addCosts rest (total + cost)

def usageCost (pricing : Pricing) (usage : Usage) : Except Error Int64 := do
  failIf (¬ usage.Valid) errInvalid
  let total ← addCosts [
    (usage.sttAudioMS, pricing.sttMicrousdPerMillionAudioMS),
    (usage.ttsCharacters, pricing.ttsMicrousdPerMillionCharacters),
    (usage.ttsOutputAudioMS, pricing.ttsMicrousdPerMillionOutputAudioMS)] 0
  failIf (total < 1) errInvalid
  return total

def usageWithin (usage limit : Usage) : Bool :=
  usage.Valid && limit.Valid && usage.sttAudioMS ≤ limit.sttAudioMS &&
    usage.ttsCharacters ≤ limit.ttsCharacters && usage.ttsOutputAudioMS ≤ limit.ttsOutputAudioMS &&
    (decide (0 < usage.sttAudioMS) == decide (0 < limit.sttAudioMS))

def validReservation (reservation : Reservation Usage) : Bool :=
  nonzeroID reservation.id && reservation.limit.Valid && 0 < reservation.reservedMicrousd

theorem unitCost_bounds (h : unitCost units rate = .ok cost) :
    0 ≤ cost.toInt ∧ cost.toInt ≤ maximumBudget.toInt := by
  obtain ⟨-, h⟩ := (failIf_bind_eq_ok _ _).mp h
  split at h
  · obtain rfl := Except.ok.inj h
    decide
  · exact roundedCost_bounds h

theorem addCosts_bounds (hnonneg : 0 ≤ total.toInt) (hle : total.toInt ≤ maximumBudget.toInt)
    (h : addCosts values total = .ok sum) : sum.toInt ≤ maximumBudget.toInt := by
  induction values generalizing total with
  | nil =>
    obtain rfl := Except.ok.inj h
    exact hle
  | cons value rest ih =>
    obtain ⟨units, rate⟩ := value
    rw [addCosts] at h
    split at h
    · cases h
    next cost hcost =>
    split at h
    · cases h
    next hroom =>
    obtain ⟨hcost0, hcost1⟩ := unitCost_bounds hcost
    have hmaximum : maximumBudget.toInt = 1000000000000000 := rfl
    have hminus := Exact.toInt_sub (a := maximumBudget) (b := cost) ⟨by omega, by omega⟩
    have hplus := Exact.toInt_add (a := total) (b := cost) ⟨by omega, by omega⟩
    rw [Int64.lt_iff_toInt_lt, hminus] at hroom
    exact ih (by omega) (by omega) h

theorem usageCost_bounds (h : usageCost pricing
    usage = .ok cost) : 1 ≤ cost.toInt ∧ cost.toInt ≤ maximumBudget.toInt := by
  obtain ⟨-, h⟩ := (failIf_bind_eq_ok _ _).mp h
  obtain ⟨total, htotal, h⟩ := (bind_eq_ok _ _ _).mp h
  obtain ⟨hpositive, hcost⟩ := (failIf_bind_eq_ok _ _).mp h
  obtain rfl := Except.ok.inj hcost
  rw [Int64.not_lt, Int64.le_iff_toInt_le] at hpositive
  exact ⟨hpositive, addCosts_bounds (by decide) (by decide) htotal⟩

theorem unitCost_zero (hrate : 0 ≤ rate ∧ rate ≤ maximumRate) : unitCost 0 rate = .ok 0 := by
  unfold unitCost
  rw [failIf_of_neg]
  · rfl
  · simp only [Int64.not_lt, not_or]
    exact ⟨by decide, by decide, hrate.1, hrate.2⟩

theorem unitCost_eq (hunits : 1 ≤ units ∧ units ≤ maximumUnitBound)
    (hrate : 1 ≤ rate ∧ rate ≤ maximumRate) :
    ∃ cost, unitCost units rate = .ok cost ∧ cost.toInt = exactCost units.toInt rate.toInt := by
  rw [Int64.le_iff_toInt_le, Int64.le_iff_toInt_le] at hunits hrate
  have hunit : (1 : Int64).toInt = 1 := rfl
  have hlargest : maximumUnitBound.toInt = 86400000 := rfl
  have hfastest : maximumRate.toInt = 1000000000000 := rfl
  obtain ⟨cost, hcost, hexact⟩ := roundedCost_eq errInvalid
    (⟨by omega, by omega⟩ : 0 ≤ units.toInt ∧ units.toInt ≤ 86400000)
    (⟨by omega, by omega⟩ : 1 ≤ rate.toInt ∧ rate.toInt ≤ 1000000000000)
  refine ⟨cost, ?_, hexact⟩
  have hbounds : ¬ (units < 0 ∨ maximumUnitBound < units ∨ rate < 0 ∨ maximumRate < rate) := by
    simp only [Int64.lt_iff_toInt_lt, Int64.toInt_zero]
    omega
  have hnonzero : ¬ (units = 0 ∨ rate = 0) := by
    rintro (rfl | rfl)
    · exact absurd hunits.1 (by decide)
    · exact absurd hrate.1 (by decide)
  unfold unitCost
  rw [failIf_of_neg hbounds]
  change (if units = 0 ∨ rate = 0 then _ else _) = _
  rw [if_neg hnonzero]
  exact hcost

theorem usageCost_stt (hpricing : pricing.Valid) {audioMS : Int64} (haudio : 1 ≤
    audioMS ∧ audioMS ≤ maximumUnitBound) : ∃ cost, usageCost pricing (sttUsage audioMS) = .ok cost
    ∧ cost.toInt = exactCost audioMS.toInt pricing.sttMicrousdPerMillionAudioMS.toInt := by
  obtain ⟨cost, hcost, hexact⟩ := unitCost_eq haudio hpricing.sttRate
  obtain ⟨hcost0, hcost1⟩ := unitCost_bounds hcost
  have hmaximum : maximumBudget.toInt = 1000000000000000 := rfl
  have hpositive : 1 ≤ cost.toInt := by
    rw [hexact]
    have haudio' := Int64.le_iff_toInt_le.mp haudio.1
    have hrate' := Int64.le_iff_toInt_le.mp hpricing.sttRate.1
    exact exactCost_pos haudio' hrate'
  have hvalid : (sttUsage audioMS).Valid := by
    have hzero : (0 : Int64) ≤ maximumUnitBound := by decide
    refine ⟨Or.inl ⟨?_, rfl, rfl⟩, haudio.2, hzero, hzero⟩
    exact Int64.lt_of_lt_of_le (by decide) haudio.1
  -- The other two kinds of units cost nothing, and the sum of one cost is that cost.
  have hnext : ∀ rest, addCosts ((audioMS, pricing.sttMicrousdPerMillionAudioMS) :: rest) 0 =
      addCosts rest cost := by
    intro rest
    have hroom : ¬ maximumBudget - cost < 0 := by
      rw [Int64.lt_iff_toInt_lt, Exact.toInt_sub ⟨by omega, by omega⟩, Int64.toInt_zero]
      omega
    simp only [addCosts, hcost, if_neg hroom, Int64.zero_add]
  have hnothing : ∀ rate rest, 0 ≤ rate ∧ rate ≤ maximumRate →
      addCosts ((0, rate) :: rest) cost = addCosts rest cost := by
    intro rate rest hrate
    have hroom : ¬ maximumBudget - 0 < cost := by
      rw [Int64.sub_zero, Int64.lt_iff_toInt_lt]
      omega
    simp only [addCosts, unitCost_zero hrate, if_neg hroom, Int64.add_zero]
  refine ⟨cost, ?_, hexact⟩
  unfold usageCost
  rw [failIf_of_neg (not_not_intro hvalid)]
  change (addCosts [(audioMS, _), (0, _), (0, _)] 0 >>= fun total =>
    failIf (total < 1) errInvalid >>= fun _ => Except.ok total) = _
  rw [hnext, hnothing _ _ hpricing.characterRate, hnothing _ _ hpricing.outputRate]
  change (failIf (cost < 1) errInvalid >>= fun _ => Except.ok cost) = _
  rw [failIf_of_neg (by rw [Int64.not_lt, Int64.le_iff_toInt_le]; exact hpositive)]
  rfl

def subjectDigestDomain : String := "xiaozhi-speech-usage-subject-v1\x00"

/-- The pricing and the key of a `MemoryLedger`. -/
structure LedgerConfig where
  pricing : Pricing
  digestKey : List UInt8
  pricing_valid : pricing.Valid
  digestKey_length : digestKey.length = 32

/-- The ledger of the package, as a scheme. -/
def LedgerConfig.scheme (config : LedgerConfig) : Scheme Usage Usage Unit where
  errInvalid := errInvalid
  errUnavailable := errUnavailable
  errBudgetExceeded := errBudgetExceeded
  errReservationLost := errReservationLost
  errUsageExceeded := errUsageExceeded
  generateAction := "generate speech reservation"
  charge := usageCost config.pricing
  validReservation := validReservation
  validUsage := fun usage => usage.Valid
  price := fun usage limit =>
    if usageWithin usage limit then usageCost config.pricing usage else .error errUsageExceeded
  noTally := ()
  tallySettled := fun _ _ => ()
  tallyUncertain := fun _ => ()
  dailyBudgetMicrousd := config.pricing.dailyBudgetMicrousd
  reservationTTL := config.pricing.reservationTTL
  subjectKey := subjectDigest subjectDigestDomain config.digestKey
  charge_bounds := fun _ _ h => usageCost_bounds h
  price_nonneg := fun _ _ _ h => by
    split at h
    · exact Int.le_trans (by decide) (usageCost_bounds h).1
    · cases h
  budget_bounds := by
    have hbudget := config.pricing_valid.dailyBudget
    rwa [Int64.le_iff_toInt_le, Int64.le_iff_toInt_le] at hbudget

/-- `NewMemoryLedger`. The ledger starts empty. -/
def newMemoryLedger (pricing : Pricing) (digestKey : List UInt8) : Except Error LedgerConfig :=
  if h : pricing.Valid ∧ digestKey.length = 32 then .ok ⟨pricing, digestKey, h.1, h.2⟩
  else .error errInvalid

end SpeechBudget

/-! ## Agent -/

namespace UsageBudget

open Budget

def maximumTokenBound : Int64 := 2000000

def errInvalid : Error := .text "invalid Agent usage budget request"
def errUnavailable : Error := .text "Agent usage budget unavailable"
def errBudgetExceeded : Error := .text "Agent daily usage budget exceeded"
def errReservationLost : Error := .text "Agent usage reservation lost"
def errUsageExceeded : Error := .text "Agent provider usage exceeded reservation"

structure Pricing where
  profileID : String
  inputMicrousdPerMillionToken : Int64
  outputMicrousdPerMillionToken : Int64
  dailyBudgetMicrousd : Int64
  inputTokenOverhead : Int64
  reservationTTL : ℤ
deriving DecidableEq, Repr

/-- `Pricing.Validate` has no error. -/
@[mk_iff] structure Pricing.Valid (pricing : Pricing) : Prop where
  profileID : profilePattern pricing.profileID = true
  inputRate : 1 ≤ pricing.inputMicrousdPerMillionToken ∧
    pricing.inputMicrousdPerMillionToken ≤ maximumRate
  outputRate : 1 ≤ pricing.outputMicrousdPerMillionToken ∧
    pricing.outputMicrousdPerMillionToken ≤ maximumRate
  dailyBudget : 1 ≤ pricing.dailyBudgetMicrousd ∧ pricing.dailyBudgetMicrousd ≤ maximumBudget
  inputTokenOverhead : 0 ≤ pricing.inputTokenOverhead ∧ pricing.inputTokenOverhead ≤ 65536
  reservationTTL : 30 * second ≤ pricing.reservationTTL ∧ pricing.reservationTTL ≤ 10 * minute

instance (pricing : Pricing) : Decidable pricing.Valid :=
  decidable_of_iff' _ pricing.valid_iff

/-- The limits of a reservation. -/
structure TokenLimits where
  inputTokenLimit : Int64
  outputTokenLimit : Int64
deriving DecidableEq, Repr

structure Usage where
  inputTokens : Int64
  outputTokens : Int64
  totalTokens : Int64
deriving DecidableEq, Repr

/-- `Usage.Validate` has no error. -/
def Usage.Valid (usage : Usage) : Prop :=
  (1 ≤ usage.inputTokens ∧ usage.inputTokens ≤ maximumTokenBound) ∧
    (1 ≤ usage.outputTokens ∧ usage.outputTokens ≤ maximumTokenBound) ∧
    usage.totalTokens = usage.inputTokens + usage.outputTokens ∧
    usage.totalTokens ≤ maximumTokenBound
deriving Decidable

def tokenCost (tokens rate : Int64) : Except Error Int64 := do
  failIf (tokens < 0 ∨ maximumTokenBound < tokens ∨ rate < 1 ∨ maximumRate < rate) errInvalid
  roundedCost errInvalid tokens rate

def reservationCost (pricing : Pricing) (inputTokens outputTokens : Int64) : Except Error Int64 := do
  let input ← tokenCost inputTokens pricing.inputMicrousdPerMillionToken
  let output ← tokenCost outputTokens pricing.outputMicrousdPerMillionToken
  failIf (maximumBudget - output < input) errInvalid
  return input + output

/-- The checks of `Reserve` on its limits, and the cost of the reservation. -/
def charge (pricing : Pricing) (limits : TokenLimits) : Except Error Int64 := do
  failIf (limits.inputTokenLimit < 1 ∨ maximumTokenBound < limits.inputTokenLimit ∨
    limits.outputTokenLimit < 1 ∨ maximumTokenBound < limits.outputTokenLimit) errInvalid
  let cost ← reservationCost pricing limits.inputTokenLimit limits.outputTokenLimit
  failIf (cost < 1) errInvalid
  return cost

/-- What a day counts besides money. -/
structure Tally where
  inputTokens : Int64
  outputTokens : Int64
  settledRequests : Int64
  uncertainRequests : Int64
deriving DecidableEq, Repr

theorem tokenCost_bounds (h : tokenCost tokens rate = .ok cost) :
    0 ≤ cost.toInt ∧ cost.toInt ≤ maximumBudget.toInt :=
  roundedCost_bounds ((failIf_bind_eq_ok _ _).mp h).2

theorem reservationCost_bounds (h : reservationCost pricing inputTokens outputTokens = .ok cost) :
    0 ≤ cost.toInt ∧ cost.toInt ≤ maximumBudget.toInt := by
  obtain ⟨input, hinput, h⟩ := (bind_eq_ok _ _ _).mp h
  obtain ⟨output, houtput, h⟩ := (bind_eq_ok _ _ _).mp h
  obtain ⟨hroom, hcost⟩ := (failIf_bind_eq_ok _ _).mp h
  obtain rfl := Except.ok.inj hcost
  obtain ⟨hinput0, hinput1⟩ := tokenCost_bounds hinput
  obtain ⟨houtput0, houtput1⟩ := tokenCost_bounds houtput
  have hmaximum : maximumBudget.toInt = 1000000000000000 := rfl
  have hminus := Exact.toInt_sub (a := maximumBudget) (b := output) ⟨by omega, by omega⟩
  have hplus := Exact.toInt_add (a := input) (b := output) ⟨by omega, by omega⟩
  rw [Int64.lt_iff_toInt_lt, hminus] at hroom
  omega

theorem charge_bounds
    (h : charge pricing limits = .ok cost) : 1 ≤ cost.toInt ∧ cost.toInt ≤ maximumBudget.toInt := by
  obtain ⟨-, h⟩ := (failIf_bind_eq_ok _ _).mp h
  obtain ⟨value, hvalue, h⟩ := (bind_eq_ok _ _ _).mp h
  obtain ⟨hpositive, hcost⟩ := (failIf_bind_eq_ok _ _).mp h
  obtain rfl := Except.ok.inj hcost
  rw [Int64.not_lt, Int64.le_iff_toInt_le] at hpositive
  exact ⟨hpositive, (reservationCost_bounds hvalue).2⟩

def subjectDigestDomain : String := "xiaozhi-agent-usage-subject-v1\x00"

/-- The pricing and the key of a `MemoryLedger`. -/
structure LedgerConfig where
  pricing : Pricing
  digestKey : List UInt8
  pricing_valid : pricing.Valid
  digestKey_length : digestKey.length = 32

/-- The ledger of the package, as a scheme. -/
def LedgerConfig.scheme (config : LedgerConfig) : Scheme TokenLimits Usage Tally where
  errInvalid := errInvalid
  errUnavailable := errUnavailable
  errBudgetExceeded := errBudgetExceeded
  errReservationLost := errReservationLost
  errUsageExceeded := errUsageExceeded
  generateAction := "generate usage reservation"
  charge := charge config.pricing
  validReservation := fun reservation => nonzeroID reservation.id
  validUsage := fun usage => usage.Valid
  price := fun usage limits =>
    if limits.inputTokenLimit < usage.inputTokens ∨ limits.outputTokenLimit < usage.outputTokens then
      .error errUsageExceeded
    else reservationCost config.pricing usage.inputTokens usage.outputTokens
  noTally := ⟨0, 0, 0, 0⟩
  tallySettled := fun usage tally =>
    { tally with
      inputTokens := tally.inputTokens + usage.inputTokens
      outputTokens := tally.outputTokens + usage.outputTokens
      settledRequests := tally.settledRequests + 1 }
  tallyUncertain := fun tally => { tally with uncertainRequests := tally.uncertainRequests + 1 }
  dailyBudgetMicrousd := config.pricing.dailyBudgetMicrousd
  reservationTTL := config.pricing.reservationTTL
  subjectKey := subjectDigest subjectDigestDomain config.digestKey
  charge_bounds := fun _ _ h => charge_bounds h
  price_nonneg := fun _ _ _ h => by
    split at h
    · cases h
    · exact (reservationCost_bounds h).1
  budget_bounds := by
    have hbudget := config.pricing_valid.dailyBudget
    rwa [Int64.le_iff_toInt_le, Int64.le_iff_toInt_le] at hbudget

/-- `NewMemoryLedger`. The ledger starts empty. -/
def newMemoryLedger (pricing : Pricing) (digestKey : List UInt8) : Except Error LedgerConfig :=
  if h : pricing.Valid ∧ digestKey.length = 32 then .ok ⟨pricing, digestKey, h.1, h.2⟩
  else .error errInvalid

end UsageBudget

/-! ## The account of both ledgers -/

namespace Budget

open MemoryLedger

/-- Every run of either ledger from the empty one, whatever the calls, the clock and the order of
the loops, is accounted for as long as the identifiers that it draws are fresh. -/
theorem ledgers_accounted : (∀ (config : SpeechBudget.LedgerConfig) (history) (ledger), Run (serve
    config.scheme) empty history ledger → ((issued config.scheme history).map (·.id)).Nodup →
    Accounted config.scheme history ledger) ∧ ∀ (config : UsageBudget.LedgerConfig) (history)
    (ledger), Run (serve config.scheme) empty history ledger → ((issued config.scheme history).map
    (·.id)).Nodup → Accounted config.scheme history ledger :=
  ⟨fun _ _ _ hrun hfresh => accounted_run hrun hfresh,
    fun _ _ _ hrun hfresh => accounted_run hrun hfresh⟩

/-- A pricing of the Agent and a key. -/
def exampleConfig : UsageBudget.LedgerConfig where
  pricing := ⟨"p", 1000000, 1000000, 50, 0, minute⟩
  digestKey := List.replicate 32 0
  pricing_valid := by decide +kernel
  digestKey_length := List.length_replicate

def exampleReserve : Call UsageBudget.TokenLimits UsageBudget.Usage :=
  .reserve true "subject" ⟨10, 20⟩ 0 .byKey (List.replicate 16 1)

def exampleReserved : MemoryLedger UsageBudget.TokenLimits UsageBudget.Tally :=
  (empty.serve exampleConfig.scheme exampleReserve).1

def exampleReservation : Reservation UsageBudget.TokenLimits :=
  ⟨Vector.replicate 16 1, ⟨10, 20⟩, 30⟩

def exampleSettle : Call UsageBudget.TokenLimits UsageBudget.Usage :=
  .settle true exampleReservation ⟨5, 20, 25⟩

/-- A reservation of 30 that is settled for 25. -/
theorem ledgers_accounted_settled : issued exampleConfig.scheme [⟨exampleReserved, exampleSettle⟩,
    ⟨empty, exampleReserve⟩] = [exampleReservation] ∧ Accounted exampleConfig.scheme
    [⟨exampleReserved, exampleSettle⟩, ⟨empty, exampleReserve⟩] (exampleReserved.serve
    exampleConfig.scheme exampleSettle).1 := by
  have hissued : issued exampleConfig.scheme
      [⟨exampleReserved, exampleSettle⟩, ⟨empty, exampleReserve⟩] = [exampleReservation] := rfl
  refine ⟨hissued, ledgers_accounted.2 exampleConfig _ _ (.step exampleSettle (.step _ .nil)) ?_⟩
  rw [hissued]
  exact List.nodup_singleton _

end Budget

end XiaozhiPlatform
