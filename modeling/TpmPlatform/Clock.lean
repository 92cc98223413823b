/-
# The clock (`plat/api/clock.rs`)

The state of the TPM clock and the two operations on it that matter, reading the
timer and adjusting its rate.  Counters are natural numbers; the `u128` and `u64`
limits are explicit checks, and a result `none` is a panic: an overflowing
operation, a division by zero or a value that does not fit its type.

`timerRead` is the source's one function cut in two at the point where it reuses
the name `now`: `reportTime` turns the host's reading into `last_reported_time`,
`creditTime` turns that into TPM time at the adjusted rate.
-/
import TpmPlatform.Rescale
import TpmPlatform.Runs

namespace TpmPlatform

/-- `CLOCK_NOMINAL`: hardware ticks per millisecond. -/
def clockNominal : ℕ := 30000

/-- `CLOCK_ADJUST_LIMIT`. -/
def clockAdjustLimit : ℕ := 5000

/-- `CLOCK_ADJUST_LIMIT_LOW`. -/
def clockAdjustLimitLow : ℕ := clockNominal - clockAdjustLimit

/-- `CLOCK_ADJUST_LIMIT_HIGH`. -/
def clockAdjustLimitHigh : ℕ := clockNominal + clockAdjustLimit

/-- `ClockState`. -/
structure ClockState where
  adjustRate : ℕ
  timerReset : Bool
  timerStopped : Bool
  lastSystemTime : ℕ
  lastReportedTime : ℕ
  lastRealTime : ℕ
  tpmTime : ℕ
  deriving DecidableEq, Repr

/-! ## Machine arithmetic -/

/-- The result of a `u128` operation, unless it overflows. -/
def checkedU128 (x : ℕ) : Option ℕ := if x < 2 ^ 128 then some x else none

/-- `u128::wrapping_sub`. -/
def wrappingSubU128 (a b : ℕ) : ℕ := (a + 2 ^ 128 - b) % 2 ^ 128

/-- Division, which panics on a zero divisor. -/
def checkedDiv (a b : ℕ) : Option ℕ := if b = 0 then none else some (a / b)

/-- `u64::try_from(..).expect(..)`. -/
def toU64 (x : ℕ) : Option ℕ := if x < 2 ^ 64 then some x else none

theorem checkedU128_eq_some {x y : ℕ} : checkedU128 x = some y ↔ x < 2 ^ 128 ∧ y = x := by
  unfold checkedU128
  by_cases h : x < 2 ^ 128
  · rw [if_pos h, Option.some.injEq]
    exact ⟨fun hx => ⟨h, hx.symm⟩, fun hx => hx.2.symm⟩
  · rw [if_neg h]
    exact ⟨fun hx => (by cases hx), fun hx => absurd hx.1 h⟩

theorem toU64_eq_some {x y : ℕ} : toU64 x = some y ↔ x < 2 ^ 64 ∧ y = x := by
  unfold toU64
  by_cases h : x < 2 ^ 64
  · rw [if_pos h, Option.some.injEq]
    exact ⟨fun hx => ⟨h, hx.symm⟩, fun hx => hx.2.symm⟩
  · rw [if_neg h]
    exact ⟨fun hx => (by cases hx), fun hx => absurd hx.1 h⟩

theorem checkedDiv_of_pos {a b : ℕ} (h : 0 < b) : checkedDiv a b = some (a / b) :=
  if_neg (by omega)

/-- A subtraction that does not go below zero does not wrap. -/
theorem wrappingSubU128_of_le {a b : ℕ} (hle : b ≤ a) (ha : a < 2 ^ 128) :
    wrappingSubU128 a b = a - b := by
  unfold wrappingSubU128
  rw [show a + 2 ^ 128 - b = (a - b) + 2 ^ 128 by omega, Nat.add_mod_right,
    Nat.mod_eq_of_lt (by omega)]

/-- A subtraction that goes below zero wraps around. -/
theorem wrappingSubU128_of_lt {a b : ℕ} (hlt : a < b) (hb : b ≤ 2 ^ 128) :
    wrappingSubU128 a b = 2 ^ 128 - (b - a) := by
  unfold wrappingSubU128
  rw [Nat.mod_eq_of_lt (by omega)]
  omega

namespace ClockState

/-- `ClockState::new`. -/
def new : ClockState where
  adjustRate := clockNominal
  timerReset := true
  timerStopped := true
  lastSystemTime := 0
  lastReportedTime := 0
  lastRealTime := 0
  tpmTime := 0

/-! ## Reading the timer -/

/-- First half of `timer_read`: a reading `now` of the host's timer becomes the
reported time. -/
def reportTime (c : ClockState) (now : ℕ) : Option ClockState :=
  -- if this hasn't been initialized, initialize it
  let c :=
    if c.lastSystemTime = 0 then
      { c with lastSystemTime := now, lastReportedTime := 0, lastRealTime := 0 }
    else c
  -- the guard against time going backwards
  let c := if now < c.lastReportedTime then { c with lastSystemTime := now } else c
  (checkedU128 (c.lastReportedTime + now)).map fun sum =>
    { c with
      lastReportedTime := wrappingSubU128 sum c.lastSystemTime
      lastSystemTime := now }

/-- Second half of `timer_read`: the reported time not yet accounted for is added
to the TPM time at the adjusted rate. -/
def creditTime (c : ClockState) : Option (ℕ × ClockState) := do
  if c.lastRealTime ≥ c.lastReportedTime then
    let value ← toU64 c.tpmTime
    return (value, c)
  else
    let timeDiff := c.lastReportedTime - c.lastRealTime
    let scaledDiff ← checkedU128 (timeDiff * clockNominal)
    let adjustedTimeDiff ← checkedDiv scaledDiff c.adjustRate
    let tpmTime ← checkedU128 (c.tpmTime + adjustedTimeDiff)
    let product ← checkedU128 (adjustedTimeDiff * c.adjustRate)
    let readjustedTimeDiff := product / clockNominal
    let lastRealTime ← checkedU128 (c.lastRealTime + readjustedTimeDiff)
    let value ← toU64 tpmTime
    return (value, { c with tpmTime := tpmTime, lastRealTime := lastRealTime })

/-- `timer_read`, for a host whose `monotonic_timer` reads `now` milliseconds: the
value returned and the state left behind. -/
def timerRead (c : ClockState) (now : ℕ) : Option (ℕ × ClockState) :=
  (c.reportTime now).bind creditTime

/-- `timer_was_reset`. -/
def timerWasReset (c : ClockState) : Bool × ClockState :=
  (c.timerReset, { c with timerReset := false })

/-- `timer_was_stopped`. -/
def timerWasStopped (c : ClockState) : Bool × ClockState :=
  (c.timerStopped, { c with timerStopped := false })

/-! ### What the first half reports -/

/-- The first reading other than zero starts the count. -/
theorem reportTime_of_unset {c : ClockState} {now : ℕ} (hunset : c.lastSystemTime = 0)
    (hnow : now < 2 ^ 128) :
    c.reportTime now =
      some { c with lastSystemTime := now, lastReportedTime := 0, lastRealTime := 0 } := by
  have hsum : checkedU128 now = some now := checkedU128_eq_some.mpr ⟨hnow, rfl⟩
  have hsub : wrappingSubU128 now now = 0 := by
    rw [wrappingSubU128_of_le le_rfl hnow, Nat.sub_self]
  simp [reportTime, hunset, hsum, hsub]

/-- A reading below the reported time is taken for a bounce: the reported time
stays. -/
theorem reportTime_of_bounce {c : ClockState} {now : ℕ} (hset : c.lastSystemTime ≠ 0)
    (hlt : now < c.lastReportedTime) (hsum : c.lastReportedTime + now < 2 ^ 128) :
    c.reportTime now = some { c with lastSystemTime := now } := by
  have hchecked : checkedU128 (c.lastReportedTime + now) = some (c.lastReportedTime + now) :=
    checkedU128_eq_some.mpr ⟨hsum, rfl⟩
  have hsub : wrappingSubU128 (c.lastReportedTime + now) now = c.lastReportedTime := by
    rw [wrappingSubU128_of_le (Nat.le_add_left _ _) hsum, Nat.add_sub_cancel]
  simp [reportTime, hset, hlt, hchecked, hsub]

/-- Any other reading moves the reported time by its distance from the previous
one, in either direction and modulo `2 ^ 128`. -/
theorem reportTime_of_ge {c : ClockState} {now : ℕ} (hset : c.lastSystemTime ≠ 0)
    (hge : c.lastReportedTime ≤ now) (hsum : c.lastReportedTime + now < 2 ^ 128) :
    c.reportTime now = some { c with
      lastReportedTime := wrappingSubU128 (c.lastReportedTime + now) c.lastSystemTime
      lastSystemTime := now } := by
  have hchecked : checkedU128 (c.lastReportedTime + now) = some (c.lastReportedTime + now) :=
    checkedU128_eq_some.mpr ⟨hsum, rfl⟩
  have hguard : ¬ now < c.lastReportedTime := by omega
  simp [reportTime, hset, hguard, hchecked]

/-- A first half that returns did not overflow its sum. -/
theorem sum_lt_of_reportTime {c c' : ClockState} {now : ℕ} (h : c.reportTime now = some c') :
    now < 2 ^ 128 ∧ (c.lastSystemTime ≠ 0 → c.lastReportedTime + now < 2 ^ 128) := by
  unfold reportTime at h
  rw [Option.map_eq_some_iff] at h
  obtain ⟨sum, hsum, -⟩ := h
  obtain ⟨hlt, -⟩ := checkedU128_eq_some.mp hsum
  refine ⟨lt_of_le_of_lt (Nat.le_add_left _ _) hlt, fun hset => ?_⟩
  rw [if_neg hset] at hlt
  by_cases hb : now < c.lastReportedTime
  · rwa [if_pos hb] at hlt
  · rwa [if_neg hb] at hlt

/-- **A reading that is not behind the previous one** starts the count or advances
the reported time by the distance between the two. -/
theorem reportTime_of_le {c c' : ClockState} {now : ℕ}
    (hrep : c.lastReportedTime ≤ c.lastSystemTime) (hle : c.lastSystemTime ≤ now)
    (h : c.reportTime now = some c') :
    c' = { c with
      lastSystemTime := now
      lastReportedTime :=
        if c.lastSystemTime = 0 then 0 else c.lastReportedTime + (now - c.lastSystemTime)
      lastRealTime := if c.lastSystemTime = 0 then 0 else c.lastRealTime } := by
  obtain ⟨hnow, hsum⟩ := sum_lt_of_reportTime h
  by_cases hset : c.lastSystemTime = 0
  · rw [reportTime_of_unset hset hnow] at h
    rw [if_pos hset, if_pos hset]
    exact (Option.some.inj h).symm
  · rw [reportTime_of_ge hset (hrep.trans hle) (hsum hset),
      wrappingSubU128_of_le (by omega) (hsum hset)] at h
    rw [if_neg hset, if_neg hset, ← Option.some.inj h, Nat.add_sub_assoc hle]

/-! ### What the second half credits -/

/-- The reported time that the TPM time does not account for yet. -/
def pending (c : ClockState) : ℕ := c.lastReportedTime - c.lastRealTime

/-- What `creditTime` adds to the TPM time. -/
def credit (c : ClockState) : ℕ := Rescale.scaled clockNominal c.adjustRate c.pending

/-- What `creditTime` takes off the pending time. -/
def used (c : ClockState) : ℕ := Rescale.credited clockNominal c.adjustRate c.pending

/-- The counters are far from the limits of their types. -/
structure Moderate (c : ClockState) : Prop where
  rate_pos : 0 < c.adjustRate
  rate_le : c.adjustRate ≤ 2 ^ 20
  reported_lt : c.lastReportedTime < 2 ^ 100
  real_lt : c.lastRealTime < 2 ^ 100
  tpm_lt : c.tpmTime < 2 ^ 100

/-- Nothing pending adds nothing. -/
theorem credit_of_le {c : ClockState} (h : c.lastReportedTime ≤ c.lastRealTime) :
    c.credit = 0 := by
  rw [credit, pending, Nat.sub_eq_zero_of_le h, Rescale.scaled, Nat.zero_mul, Nat.zero_div]

/-- Nothing pending uses nothing. -/
theorem used_of_le {c : ClockState} (h : c.lastReportedTime ≤ c.lastRealTime) : c.used = 0 := by
  have hcredit := credit_of_le h
  rw [credit] at hcredit
  rw [used, Rescale.credited, hcredit, Nat.zero_mul, Nat.zero_div]

/-- The amount added is within the `u128` range by a wide margin. -/
theorem credit_lt {c : ClockState} (h : c.Moderate) : c.credit < 2 ^ 115 := by
  have hle : c.credit ≤ c.pending * clockNominal := Nat.div_le_self _ _
  have hpending : c.pending < 2 ^ 100 := by
    have := h.reported_lt
    rw [pending]
    omega
  rw [clockNominal] at hle
  omega

/-- **The second half in one equation.**  While the counters are moderate, the only
thing that can go wrong is that the TPM time outgrows 64 bits. -/
theorem creditTime_eq {c : ClockState} (h : c.Moderate) :
    c.creditTime =
      if c.tpmTime + c.credit < 2 ^ 64 then
        some (c.tpmTime + c.credit,
          { c with tpmTime := c.tpmTime + c.credit, lastRealTime := c.lastRealTime + c.used })
      else none := by
  obtain ⟨hpos, hrate, hrep, hreal, htpm⟩ := h
  by_cases hle : c.lastReportedTime ≤ c.lastRealTime
  · -- nothing is pending, and only the conversion to 64 bits can fail
    rw [credit_of_le hle, used_of_le hle, Nat.add_zero, Nat.add_zero]
    by_cases hfit : c.tpmTime < 2 ^ 64
    · have hvalue : toU64 c.tpmTime = some c.tpmTime := toU64_eq_some.mpr ⟨hfit, rfl⟩
      rw [if_pos hfit]
      simp [creditTime, hle, hvalue]
    · have hvalue : toU64 c.tpmTime = none := if_neg hfit
      rw [if_neg hfit]
      simp [creditTime, hle, hvalue]
  · -- the five checked steps stay below 128 bits, one after the other
    have hcredit : c.credit < 2 ^ 115 := credit_lt ⟨hpos, hrate, hrep, hreal, htpm⟩
    have hpending : c.pending * clockNominal < 2 ^ 128 := by
      rw [pending, clockNominal]
      omega
    have hproduct : c.credit * c.adjustRate ≤ c.pending * clockNominal :=
      Rescale.scaled_mul_le _ _ _
    have hused : c.used ≤ c.pending := Rescale.credited_le (by decide)
    have h₁ : checkedU128 ((c.lastReportedTime - c.lastRealTime) * clockNominal) =
        some (c.pending * clockNominal) := checkedU128_eq_some.mpr ⟨hpending, rfl⟩
    have h₂ : checkedDiv (c.pending * clockNominal) c.adjustRate = some c.credit :=
      checkedDiv_of_pos hpos
    have h₃ : checkedU128 (c.tpmTime + c.credit) = some (c.tpmTime + c.credit) :=
      checkedU128_eq_some.mpr ⟨by omega, rfl⟩
    have h₄ : checkedU128 (c.credit * c.adjustRate) = some (c.credit * c.adjustRate) :=
      checkedU128_eq_some.mpr ⟨by omega, rfl⟩
    have h₅ : checkedU128 (c.lastRealTime + c.credit * c.adjustRate / clockNominal) =
        some (c.lastRealTime + c.used) := by
      refine checkedU128_eq_some.mpr ⟨?_, rfl⟩
      have hdef : c.credit * c.adjustRate / clockNominal = c.used := rfl
      rw [hdef]
      rw [pending] at hused
      omega
    by_cases hfit : c.tpmTime + c.credit < 2 ^ 64
    · have hvalue : toU64 (c.tpmTime + c.credit) = some (c.tpmTime + c.credit) :=
        toU64_eq_some.mpr ⟨hfit, rfl⟩
      rw [if_pos hfit]
      simp [creditTime, hle, h₁, h₂, h₃, h₄, h₅, hvalue]
    · have hvalue : toU64 (c.tpmTime + c.credit) = none := if_neg hfit
      rw [if_neg hfit]
      simp [creditTime, hle, h₁, h₂, h₃, h₄, h₅, hvalue]

/-- A pending time near the top of the `u128` range overflows the conversion. -/
theorem creditTime_of_huge {c : ClockState} (h : 2 ^ 127 ≤ c.pending) : c.creditTime = none := by
  have hle : ¬ c.lastReportedTime ≤ c.lastRealTime := by
    rw [pending] at h
    omega
  have hover : checkedU128 ((c.lastReportedTime - c.lastRealTime) * clockNominal) = none := by
    rw [pending] at h
    rw [checkedU128, clockNominal, if_neg (by omega)]
  simp [creditTime, hle, hover]

/-- Whatever the counters are, a second half that returns did the computation of
`creditTime_eq`. -/
theorem creditTime_eq_some {c c' : ClockState} {v : ℕ} (h : c.creditTime = some (v, c')) :
    v = c.tpmTime + c.credit ∧ v < 2 ^ 64 ∧
      c' = { c with tpmTime := c.tpmTime + c.credit, lastRealTime := c.lastRealTime + c.used } := by
  unfold creditTime at h
  by_cases hle : c.lastRealTime ≥ c.lastReportedTime
  · rw [if_pos hle] at h
    simp only [Option.bind_eq_bind, Option.bind_eq_some_iff, toU64_eq_some, Option.pure_def,
      Option.some.injEq, Prod.mk.injEq] at h
    obtain ⟨value, ⟨hlt, rfl⟩, rfl, rfl⟩ := h
    rw [credit_of_le hle, used_of_le hle, Nat.add_zero, Nat.add_zero]
    exact ⟨rfl, hlt, rfl⟩
  · rw [if_neg hle] at h
    simp only [Option.bind_eq_bind, Option.bind_eq_some_iff, checkedU128_eq_some, toU64_eq_some,
      Option.pure_def, Option.some.injEq, Prod.mk.injEq] at h
    obtain ⟨_, ⟨-, rfl⟩, adjusted, hdiv, _, ⟨-, rfl⟩, _, ⟨-, rfl⟩, _, ⟨-, rfl⟩, _, ⟨hlt, rfl⟩,
      rfl, rfl⟩ := h
    have hadjusted : adjusted = c.credit := by
      unfold checkedDiv at hdiv
      split at hdiv
      · cases hdiv
      · exact (Option.some.inj hdiv).symm
    subst hadjusted
    exact ⟨rfl, hlt, rfl⟩

/-! ## Adjusting the rate -/

/-- The `tick_delta` of `clock_rate_adjust`: slower increases the divisor. -/
def tickDelta (adjustment : ℤ) : ℤ :=
  match adjustment with
  | -3 => 300
  | -2 => 30
  | -1 => 1
  | 1 => -1
  | 2 => -30
  | 3 => -300
  | _ => 0

/-- `u32::strict_add_signed`, which panics on overflow in every build. -/
def strictAddSigned (x : ℕ) (delta : ℤ) : Option ℕ :=
  if 0 ≤ (x : ℤ) + delta ∧ (x : ℤ) + delta < 2 ^ 32 then some ((x : ℤ) + delta).toNat else none

/-- `clock_rate_adjust`. -/
def clockRateAdjust (c : ClockState) (adjustment : ℤ) : Option ClockState :=
  (strictAddSigned c.adjustRate (tickDelta adjustment)).map fun rate =>
    { c with adjustRate := max clockAdjustLimitLow (min rate clockAdjustLimitHigh) }

/-- The rate is within the limits that `clock_rate_adjust` clamps it to. -/
def RateInLimits (c : ClockState) : Prop :=
  clockAdjustLimitLow ≤ c.adjustRate ∧ c.adjustRate ≤ clockAdjustLimitHigh

theorem rateInLimits_new : new.RateInLimits := ⟨by decide, by decide⟩

/-- One adjustment step is at most the coarse one. -/
theorem tickDelta_bounds (adjustment : ℤ) :
    -300 ≤ tickDelta adjustment ∧ tickDelta adjustment ≤ 300 := by
  unfold tickDelta
  split <;> decide

/-- From a rate in the limits an adjustment does not panic and stays in them,
whatever the argument; nothing else changes. -/
theorem clockRateAdjust_spec {c : ClockState} (h : c.RateInLimits) (adjustment : ℤ) :
    ∃ rate, c.clockRateAdjust adjustment = some { c with adjustRate := rate } ∧
      clockAdjustLimitLow ≤ rate ∧ rate ≤ clockAdjustLimitHigh := by
  obtain ⟨hlow, hhigh⟩ := h
  obtain ⟨hdlow, hdhigh⟩ := tickDelta_bounds adjustment
  simp only [clockAdjustLimitLow, clockAdjustLimitHigh, clockNominal, clockAdjustLimit]
    at hlow hhigh ⊢
  refine ⟨max 25000 (min ((c.adjustRate : ℤ) + tickDelta adjustment).toNat 35000), ?_,
    by omega, by omega⟩
  rw [clockRateAdjust, strictAddSigned, if_pos (by omega)]
  rfl

/-- An adjustment clamps the rate from any state in which it does not panic. -/
theorem rateInLimits_clockRateAdjust {c c' : ClockState} {adjustment : ℤ}
    (h : c.clockRateAdjust adjustment = some c') : c'.RateInLimits := by
  rw [clockRateAdjust, Option.map_eq_some_iff] at h
  obtain ⟨rate, -, rfl⟩ := h
  simp only [RateInLimits, clockAdjustLimitLow, clockAdjustLimitHigh, clockNominal,
    clockAdjustLimit]
  omega

/-! ### Exchange rates of one read -/

/-- Never more is used than was pending. -/
theorem used_le_pending (c : ClockState) : c.used ≤ c.pending := Rescale.credited_le (by decide)

/-- At the fastest rate 6 milliseconds are added for 5 that were pending. -/
theorem credit_le_pending {c : ClockState} (hrate : c.RateInLimits) :
    5 * c.credit ≤ 6 * c.pending := by
  obtain ⟨hlow, -⟩ := hrate
  have hworth : c.credit * c.adjustRate ≤ c.pending * clockNominal :=
    Rescale.scaled_mul_le clockNominal c.adjustRate c.pending
  have hmin : c.credit * clockAdjustLimitLow ≤ c.credit * c.adjustRate :=
    Nat.mul_le_mul_left _ hlow
  simp only [clockAdjustLimitLow, clockNominal, clockAdjustLimit] at hworth hmin
  omega

/-- At the slowest rate 6 milliseconds are added for 7 that are used. -/
theorem used_le_credit {c : ClockState} (hrate : c.RateInLimits) :
    6 * c.used ≤ 7 * c.credit := by
  obtain ⟨-, hhigh⟩ := hrate
  have hworth : c.used * clockNominal ≤ c.credit * c.adjustRate :=
    Rescale.credited_mul_le clockNominal c.adjustRate c.pending
  have hmax : c.credit * c.adjustRate ≤ c.credit * clockAdjustLimitHigh :=
    Nat.mul_le_mul_left _ hhigh
  simp only [clockAdjustLimitHigh, clockNominal, clockAdjustLimit] at hworth hmax
  omega

/-- At most two milliseconds stay pending. -/
theorem pending_le_used {c : ClockState} (hrate : c.RateInLimits) : c.pending ≤ c.used + 2 := by
  obtain ⟨hlow, hhigh⟩ := hrate
  apply Rescale.le_credited_add_two (by decide)
  · exact lt_of_lt_of_le (by decide) hlow
  · exact hhigh.trans (by decide)

end ClockState

end TpmPlatform
