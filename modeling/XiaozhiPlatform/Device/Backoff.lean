import Mathlib

/-!
# Retry delays of the device

The Wi-Fi station, the agent supervisor and the time bootstrap wait between two attempts. The delay
doubles with every failure up to a maximum, and a random value spreads it over the upper half.

- `doubling_spec`: the loop ends at the capped power of two, after logarithmically many turns.
- `delays_bounded`: the delays of the three functions, their range and their arithmetic.
-/

namespace XiaozhiPlatform.Backoff

/-! ## Model -/

/-- `UINT32_MAX`. -/
def uint32Max : ℕ := 2 ^ 32 - 1

/-- The result of an operation on unsigned integers of the width; nothing if it overflows. -/
def fits (width value : ℕ) : Option ℕ := if value < 2 ^ width then some value else none

/-- The loops over `shifts`, with the number of turns that they take. -/
def doubling (double : ℕ → Option ℕ) (maximum : ℕ) : ℕ → ℕ → Option (ℕ × ℕ)
  | 0, cap => some (cap, 0)
  | shifts + 1, cap =>
    if cap < maximum then do
      let next ← double cap
      let (last, turns) ← doubling double maximum shifts next
      return (last, turns + 1)
    else some (cap, 0)

/-- What is returned for the cap: a value of its upper half. -/
def spread (maximum randomValue : ℕ) : Option ℕ := do
  let minimum := maximum / 2
  let span := maximum - minimum
  if span = uint32Max then fits 32 (minimum + randomValue)
  else
    let modulus ← fits 32 (span + 1)
    fits 32 (minimum + randomValue % modulus)

/-- What `bounded_backoff` uses of a core, with the checks of the initialisation: no delay is above
the limit. -/
structure Core (limit : ℕ) where
  minimumBackoffMs : ℕ
  maximumBackoffMs : ℕ
  consecutiveFailures : ℕ
  minimum_pos : 0 < minimumBackoffMs
  minimum_le : minimumBackoffMs ≤ maximumBackoffMs
  maximum_le : maximumBackoffMs ≤ limit
  failures_le : consecutiveFailures ≤ uint32Max

/-- The body of the loop of `bounded_backoff`. -/
def doubleCapped (maximum cap : ℕ) : Option ℕ := do
  let next ← fits 64 (cap * 2)
  return if maximum < next then maximum else next

section Core

variable {limit : ℕ} (core : Core limit)

/-- The loop of `bounded_backoff`. -/
def Core.cap : Option (ℕ × ℕ) :=
  doubling (doubleCapped core.maximumBackoffMs) core.maximumBackoffMs core.consecutiveFailures
    core.minimumBackoffMs

/-- The core after one more failure. -/
def Core.failed : Core limit :=
  if h : core.consecutiveFailures < uint32Max then
    { core with consecutiveFailures := core.consecutiveFailures + 1, failures_le := h }
  else core

/-- `bounded_backoff`, with the core that it leaves. -/
def Core.boundedBackoff (randomValue : ℕ) : Option (ℕ × Core limit) := do
  let (cap, _) ← core.cap
  let maximum ← fits 32 cap
  let delay ← spread maximum randomValue
  return (delay, core.failed)

end Core

/-- `bounded_backoff` of `product_wifi_core.c`. -/
def wifiBoundedBackoff (core : Core (15 * 60 * 1000)) := core.boundedBackoff

/-- `bounded_backoff` of `box3_agent_supervisor_core.c`. -/
def supervisorBoundedBackoff (core : Core 300000) := core.boundedBackoff

/-- The body of the loop of `product_time_bootstrap_retry_ms`. -/
def doubleSaturated (ceiling : ℕ) : Option ℕ :=
  if uint32Max / 2 < ceiling then some uint32Max else fits 64 (ceiling * 2)

/-- The loop of `product_time_bootstrap_retry_ms`. -/
def ceilingLoop (consecutiveFailures minimum maximum : ℕ) : Option (ℕ × ℕ) :=
  doubling doubleSaturated maximum (consecutiveFailures - 1) minimum

/-- `product_time_bootstrap_retry_ms`. -/
def retryMs (consecutiveFailures minimum maximum randomValue : ℕ) : Option ℕ :=
  if consecutiveFailures = 0 ∨ minimum = 0 ∨ maximum < minimum then some 0
  else do
    let (ceiling, _) ← ceilingLoop consecutiveFailures minimum maximum
    let cap ← fits 32 (if maximum < ceiling then maximum else ceiling)
    spread cap randomValue

/-- How the time bootstrap counts a failure before it asks for the delay. -/
def countFailure (earlier : ℕ) : ℕ := if earlier ≠ uint32Max then earlier + 1 else earlier

/-- What is asked of the delays after a number of earlier failures: they are from the upper half of
the capped power of two, every one of it occurs, nothing overflows, and the loop is short. -/
def Bounded (minimum maximum earlier : ℕ) (loop : Option (ℕ × ℕ)) (delay : ℕ → Option ℕ) : Prop :=
  let cap := min maximum (minimum * 2 ^ earlier)
  (∀ randomValue ≤ uint32Max,
    ∃ value, delay randomValue = some value ∧ cap / 2 ≤ value ∧ value ≤ cap) ∧
  (∀ value, cap / 2 ≤ value → value ≤ cap →
    ∃ randomValue ≤ uint32Max, delay randomValue = some value) ∧
  ∃ last turns, loop = some (last, turns) ∧ turns ≤ Nat.log 2 (maximum / minimum) + 1

/-- The same for a core, whose failures so far are the earlier ones. -/
def Core.Bounded {limit : ℕ} (core : Core limit) (backoff : ℕ → Option (ℕ × Core limit)) : Prop :=
  Backoff.Bounded core.minimumBackoffMs core.maximumBackoffMs core.consecutiveFailures core.cap
    fun randomValue => (backoff randomValue).map Prod.fst

/-! ## The loop -/

theorem min_mul (hfactor : 0 < factor) (h : min maximum a = min maximum b) :
    min maximum (a * factor) = min maximum (b * factor) := by
  have ha : a ≤ a * factor := Nat.le_mul_of_pos_right a hfactor
  have hb : b ≤ b * factor := Nat.le_mul_of_pos_right b hfactor
  rcases lt_or_ge a maximum with hlt | hge
  · have hab : a = b := by omega
    rw [hab]
  · omega

/-- The loop ends at the capped power of two; the cap has been below the maximum before every turn
but the first. -/
theorem doubling_spec {double : ℕ → Option ℕ}
    (hdouble : ∀ cap < maximum, ∃ next, double cap = some next ∧ next ≤ bound ∧
      min maximum next = min maximum (cap * 2)) (hcap : cap ≤ bound) (shifts : ℕ) :
    ∃ last turns, doubling double maximum shifts cap = some (last, turns) ∧ last ≤ bound ∧
      min maximum last = min maximum (cap * 2 ^ shifts) ∧
      (turns = 0 ∨ cap * 2 ^ (turns - 1) < maximum) := by
  induction shifts generalizing cap with
  | zero => exact ⟨cap, 0, rfl, hcap, by rw [Nat.pow_zero, Nat.mul_one], .inl rfl⟩
  | succ shifts ih =>
    rw [doubling]
    split
    next hlt =>
      obtain ⟨next, hnext, hbound, hmin⟩ := hdouble cap hlt
      obtain ⟨last, turns, hloop, hlast, hvalue, hturns⟩ := ih hbound
      refine ⟨last, turns + 1, by rw [hnext, Option.bind_eq_bind, Option.bind_some, hloop]; rfl,
        hlast, ?_, .inr ?_⟩
      · rw [hvalue, Nat.pow_succ', ← Nat.mul_assoc]
        exact min_mul (Nat.two_pow_pos shifts) hmin
      rcases hturns with rfl | hbelow
      · rwa [Nat.zero_add, Nat.sub_self, Nat.pow_zero, Nat.mul_one]
      · cases turns with
        | zero => rwa [Nat.zero_add, Nat.sub_self, Nat.pow_zero, Nat.mul_one]
        | succ turns =>
          -- a cap that is still below the maximum has been doubled exactly
          have hle : next ≤ next * 2 ^ turns := Nat.le_mul_of_pos_right _ (Nat.two_pow_pos turns)
          have hexact : next = cap * 2 := by
            rw [Nat.add_sub_cancel] at hbelow
            omega
          rw [Nat.add_sub_cancel, Nat.pow_succ', ← Nat.mul_assoc, ← hexact]
          exact hbelow
    next hge =>
      have hle : cap ≤ cap * 2 ^ (shifts + 1) :=
        Nat.le_mul_of_pos_right _ (Nat.two_pow_pos _)
      exact ⟨cap, 0, rfl, hcap, by omega, .inl rfl⟩

/-! ## The delays -/

theorem fits_of_lt (h : value < 2 ^ width) : fits width value = some value :=
  if_pos h

theorem spread_eq (h : maximum ≤ uint32Max) (randomValue : ℕ) : spread maximum randomValue =
      some (maximum / 2 + randomValue % (maximum - maximum / 2 + 1)) := by
  simp only [uint32Max] at h
  have hmod : randomValue % (maximum - maximum / 2 + 1) < maximum - maximum / 2 + 1 :=
    Nat.mod_lt _ (Nat.succ_pos _)
  rw [spread, if_neg (by rw [uint32Max]; omega), fits_of_lt (by omega), Option.bind_eq_bind,
    Option.bind_some, fits_of_lt (by omega)]

/-- A delay that is spread below the capped power of two is as it is asked. -/
theorem bounded_of_spread
    {delay : ℕ → Option ℕ} (hminimum : 0 < minimum) (hmaximum : maximum ≤ uint32Max)
    (hdelay : ∀ randomValue,
      delay randomValue = spread (min maximum (minimum * 2 ^ earlier)) randomValue)
    (hloop : loop = some (last, turns))
    (hturns : turns = 0 ∨ minimum * 2 ^ (turns - 1) < maximum) :
    Bounded minimum maximum earlier loop delay := by
  have hcap := (Nat.min_le_left maximum (minimum * 2 ^ earlier)).trans hmaximum
  unfold Bounded
  generalize min maximum (minimum * 2 ^ earlier) = cap at hcap hdelay ⊢
  refine ⟨fun randomValue _ => ?_, fun value hfloor hceiling => ?_, last, turns, hloop, ?_⟩
  · have hmod : randomValue % (cap - cap / 2 + 1) < cap - cap / 2 + 1 :=
      Nat.mod_lt _ (Nat.succ_pos _)
    exact ⟨_, (hdelay randomValue).trans (spread_eq hcap randomValue), by omega, by omega⟩
  · refine ⟨value - cap / 2, by omega, ?_⟩
    rw [hdelay, spread_eq hcap, Nat.mod_eq_of_lt (by omega), Nat.add_sub_cancel' hfloor]
  · rcases hturns with rfl | hbelow
    · exact Nat.zero_le _
    · have hpow : 2 ^ (turns - 1) ≤ maximum / minimum := by
        rw [Nat.le_div_iff_mul_le hminimum, Nat.mul_comm]
        exact hbelow.le
      exact Nat.sub_le_iff_le_add.mp (Nat.le_log_of_pow_le Nat.one_lt_two hpow)

theorem doubleCapped_spec (hmaximum : maximum ≤ uint32Max) (hcap : cap < maximum) :
    ∃ next, doubleCapped maximum cap = some next ∧ next ≤ maximum ∧
      min maximum next = min maximum (cap * 2) := by
  simp only [uint32Max] at hmaximum
  refine ⟨if maximum < cap * 2 then maximum else cap * 2, ?_, ?_, ?_⟩
  · rw [doubleCapped, fits_of_lt (by omega)]
    rfl
  · split <;> omega
  · split <;> omega

theorem doubleSaturated_spec (hmaximum : maximum ≤ uint32Max)
    (hcap : cap < maximum) : ∃ next, doubleSaturated cap = some next ∧ next ≤ uint32Max ∧
      min maximum next = min maximum (cap * 2) := by
  by_cases hhigh : uint32Max / 2 < cap
  · refine ⟨uint32Max, if_pos hhigh, le_rfl, ?_⟩
    simp only [uint32Max] at hhigh hmaximum ⊢
    omega
  · refine ⟨cap * 2, ?_, by omega, rfl⟩
    rw [doubleSaturated, if_neg hhigh]
    exact fits_of_lt (by simp only [uint32Max] at hmaximum; omega)

theorem bounded_boundedBackoff {limit : ℕ} (hlimit : limit ≤ uint32Max) (core : Core limit) :
    core.Bounded core.boundedBackoff := by
  have hmaximum := core.maximum_le.trans hlimit
  obtain ⟨last, turns, hloop, hle, hvalue, hturns⟩ := doubling_spec
    (fun _ => doubleCapped_spec hmaximum) core.minimum_le core.consecutiveFailures
  rw [min_eq_right hle] at hvalue
  refine bounded_of_spread core.minimum_pos hmaximum (fun randomValue => ?_) hloop hturns
  have hfits : last < 2 ^ 32 := by
    simp only [uint32Max] at hmaximum
    omega
  rw [Core.boundedBackoff, Core.cap, hloop, ← hvalue, Option.bind_eq_bind, Option.bind_some]
  dsimp only
  rw [fits_of_lt hfits, Option.bind_eq_bind, Option.bind_some, spread_eq (hle.trans hmaximum)]
  rfl

/-- A counter that stops at its maximum has passed every cap before. -/
theorem cap_countFailure (hminimum : 0 < minimum) (hmaximum : maximum ≤ uint32Max) :
    min maximum (minimum * 2 ^ (countFailure earlier - 1)) =
      min maximum (minimum * 2 ^ earlier) := by
  rw [countFailure]
  split
  · rfl
  next hend =>
    have hlarge : ∀ {n : ℕ}, 32 ≤ n → maximum ≤ minimum * 2 ^ n := by
      intro n hn
      have hpow : 2 ^ 32 ≤ 2 ^ n := Nat.pow_le_pow_right Nat.two_pos hn
      calc maximum ≤ 2 ^ 32 := hmaximum.trans (Nat.sub_le _ _)
        _ ≤ 2 ^ n := hpow
        _ ≤ minimum * 2 ^ n := Nat.le_mul_of_pos_left _ hminimum
    rw [not_not.mp hend, min_eq_left (hlarge (by decide)), min_eq_left (hlarge (by decide))]

/-- For every valid configuration and every number of earlier failures, the three functions wait
for a delay of the upper half of the capped power of two. -/
theorem delays_bounded : (∀ core, Core.Bounded core (wifiBoundedBackoff core)) ∧
    (∀ core, Core.Bounded core (supervisorBoundedBackoff core)) ∧
    ∀ earlier minimum maximum, earlier ≤ uint32Max → 0 < minimum → minimum ≤ maximum →
      maximum ≤ uint32Max → Bounded minimum maximum earlier
        (ceilingLoop (countFailure earlier) minimum maximum)
        (retryMs (countFailure earlier) minimum maximum) := by
  refine ⟨bounded_boundedBackoff (by decide), bounded_boundedBackoff (by decide), ?_⟩
  intro earlier minimum maximum _ hminimum hle hmaximum
  have hmax := hmaximum
  simp only [uint32Max] at hmax
  obtain ⟨last, turns, hloop, -, hvalue, hturns⟩ := doubling_spec
    (fun _ => doubleSaturated_spec hmaximum) (hle.trans hmaximum) (countFailure earlier - 1)
  rw [cap_countFailure hminimum hmaximum] at hvalue
  refine bounded_of_spread hminimum hmaximum (fun randomValue => ?_) hloop hturns
  have hvalid : ¬ (countFailure earlier = 0 ∨ minimum = 0 ∨ maximum < minimum) := by
    rw [countFailure]
    split <;> omega
  have hcap : (if maximum < last then maximum else last) = min maximum last := by
    split <;> omega
  rw [retryMs, if_neg hvalid, ceilingLoop, hloop, Option.bind_eq_bind, Option.bind_some]
  dsimp only
  rw [hcap, hvalue, fits_of_lt (by omega)]
  rfl

/-- The time bootstrap after three failures. -/
theorem delays_bounded_third : Bounded 1000 8000 3 (ceilingLoop (countFailure 3) 1000 8000)
    (retryMs (countFailure 3) 1000 8000) :=
  delays_bounded.2.2 3 1000 8000 (by decide) (by decide) (by decide) (by decide)

end XiaozhiPlatform.Backoff
