/-
# The clock under a well-behaved timer

Readings that do not decrease and stay below `2 ^ 62` milliseconds, fewer than
`2 ^ 60` of them, and any adjustments of the rate in between: no operation panics or
wraps, the reported time follows the readings, and the TPM time is never more than
1/7 behind the time accounted for (`timerRead_keepsTime`).

The bounds on the counters come from the exchange rates of a single read: what it adds
to the TPM time against what it finds pending and what it takes off that.
-/
import TpmPlatform.ClockRuns

namespace TpmPlatform

open Runs

/-- The reading of the host's timer that an operation takes, if it is a read. -/
def ClockOp.reading? : ClockOp → Option ℕ
  | .timerRead now => some now
  | .clockRateAdjust _ => none

namespace ClockTrace

/-- The readings of the host's timer that the operations `ops` are going to take. -/
def readingsOf (ops : List ClockOp) : List ℕ := ops.filterMap ClockOp.reading?

/-! ## The invariant -/

/-- The TPM time is between the time accounted for at the slowest rate and at the
fastest, up to what the reads may have counted twice; and it is what the last read
returned. -/
structure Paced (t : ClockTrace) : Prop where
  real_le : 6 * t.clock.lastRealTime ≤ 7 * t.clock.tpmTime
  tpm_le : 5 * t.clock.tpmTime ≤ 6 * t.clock.lastRealTime + 12 * t.readings.length
  last_eq : ∀ v ∈ t.returned.getLast?, v = t.clock.tpmTime
  le_tpm : ∀ v ∈ t.returned, v ≤ t.clock.tpmTime
  sorted : t.returned.Pairwise (· ≤ ·)

theorem paced_powerOn : powerOn.Paced where
  real_le := le_rfl
  tpm_le := le_rfl
  last_eq := by
    intro v hv
    cases hv
  le_tpm := by
    intro v hv
    cases hv
  sorted := List.Pairwise.nil

theorem paced_step {t t' : ClockTrace} {op : ClockOp} (hs : t.Steady) (hp : t.Paced)
    (hmono : t.Nondecreasing op) (h : t.step op = some t') : t'.Paced := by
  cases op with
  | timerRead now =>
      obtain ⟨c, hreport, hclock, -, hreadings, hreturned⟩ := step_timerRead h
      obtain ⟨hrate, htpm, -, -, hreal, -⟩ := hs.report hmono hreport
      have hlimits : c.RateInLimits := by
        rw [ClockState.RateInLimits, hrate]
        exact hs.rate
      have hup : 5 * c.credit ≤ 6 * c.pending := ClockState.credit_le_pending hlimits
      have hdown : 6 * c.used ≤ 7 * c.credit := ClockState.used_le_credit hlimits
      have hleft : c.pending ≤ c.used + 2 := ClockState.pending_le_used hlimits
      have hold := hp.tpm_le
      have hold' := hp.real_le
      refine ⟨?_, ?_, ?_, ?_, ?_⟩
      · rw [hclock]
        show 6 * (c.lastRealTime + c.used) ≤ 7 * (c.tpmTime + c.credit)
        omega
      · rw [hclock, hreadings, List.length_append, List.length_singleton]
        show 5 * (c.tpmTime + c.credit) ≤ 6 * (c.lastRealTime + c.used) + _
        omega
      · intro v hv
        rw [hreturned, List.getLast?_concat, Option.mem_some_iff] at hv
        rw [hclock, hv]
      · intro v hv
        rw [hreturned, List.mem_append, List.mem_singleton] at hv
        rw [hclock]
        rcases hv with hv | rfl
        · have hle := hp.le_tpm v hv
          show v ≤ c.tpmTime + c.credit
          omega
        · exact le_rfl
      · rw [hreturned, List.pairwise_append]
        refine ⟨hp.sorted, List.pairwise_singleton _ _, ?_⟩
        intro v hv v' hv'
        rw [List.mem_singleton] at hv'
        have hle := hp.le_tpm v hv
        omega
  | clockRateAdjust adjustment =>
      obtain ⟨rate, -, -, rfl⟩ := step_clockRateAdjust hs.rate h
      exact ⟨hp.real_le, hp.tpm_le, hp.last_eq, hp.le_tpm, hp.sorted⟩

/-! ## No operation panics -/

/-- The readings so far and those to come do not decrease and stay within the bounds. -/
structure WellTimed (readings : List ℕ) : Prop where
  sorted : readings.Pairwise (· ≤ ·)
  reading_lt : ∀ r ∈ readings, r < 2 ^ 62
  length_lt : readings.length < 2 ^ 60

/-- The reported time that a read starts from does not wrap: the subtraction in
`timer_read` takes the previous reading from at least as much. -/
def NoWrap (t : ClockTrace) : ClockOp → Prop
  | .timerRead now => t.clock.lastSystemTime ≤ t.clock.lastReportedTime + now
  | .clockRateAdjust _ => True

/-- The first half of a read returns. -/
theorem Steady.exists_report {t : ClockTrace} {now : ℕ} (hs : t.Steady)
    (hmono : t.readings.getLastD 0 ≤ now) (hnow : now < 2 ^ 62) :
    ∃ c, t.clock.reportTime now = some c := by
  have hrep := hs.reported_le_system
  have hle : t.clock.lastSystemTime ≤ now := by
    rw [hs.system_eq]
    exact hmono
  by_cases hset : t.clock.lastSystemTime = 0
  · exact ⟨_, ClockState.reportTime_of_unset hset (by omega)⟩
  · exact ⟨_, ClockState.reportTime_of_ge hset (by omega) (by omega)⟩

/-- **A read does not panic.** -/
theorem exists_step_timerRead {t : ClockTrace} {now : ℕ} (hs : t.Steady) (hp : t.Paced)
    (hmono : t.readings.getLastD 0 ≤ now) (hnow : now < 2 ^ 62)
    (hcount : t.readings.length + 1 < 2 ^ 60) : ∃ t', t.step (.timerRead now) = some t' := by
  obtain ⟨c, hreport⟩ := hs.exists_report hmono hnow
  obtain ⟨hrate, htpm, hsystem, hreported, hreal, hle⟩ := hs.report hmono hreport
  have hlimits : c.RateInLimits := by
    rw [ClockState.RateInLimits, hrate]
    exact hs.rate
  have hreported_le : c.lastReportedTime ≤ now := by
    rw [hreported, elapsed]
    cases (t.readings ++ [now]).find? (· ≠ 0) with
    | none => exact Nat.zero_le _
    | some first =>
        show (t.readings ++ [now]).getLastD 0 - first ≤ now
        rw [getLastD_concat]
        exact Nat.sub_le _ _
  have hup : 5 * c.credit ≤ 6 * c.pending := ClockState.credit_le_pending hlimits
  have hpending : c.pending = c.lastReportedTime - c.lastRealTime := rfl
  have hold := hp.tpm_le
  obtain ⟨hlow, hhigh⟩ := hlimits
  simp only [clockAdjustLimitLow, clockAdjustLimitHigh, clockNominal, clockAdjustLimit]
    at hlow hhigh
  have hmoderate : c.Moderate := by
    constructor <;> omega
  have hfits : c.tpmTime + c.credit < 2 ^ 64 := by omega
  rw [step, ClockState.timerRead, hreport, Option.bind_some, ClockState.creditTime_eq hmoderate,
    if_pos hfits]
  exact ⟨_, rfl⟩

/-- What holds of a trace and of the operations still to come. -/
structure OnTime (t : ClockTrace) (ops : List ClockOp) : Prop where
  steady : t.Steady
  paced : t.Paced
  wellTimed : WellTimed (t.readings ++ readingsOf ops)

/-- Neither operation goes back in time. -/
theorem OnTime.nondecreasing {t : ClockTrace} {op : ClockOp} {ops : List ClockOp}
    (h : t.OnTime (op :: ops)) : t.Nondecreasing op := by
  cases op with
  | timerRead now => exact getLastD_le_of_sorted h.wellTimed.sorted
  | clockRateAdjust adjustment => exact trivial

/-- **Progress.**  The next operation returns, and the rest is on time again. -/
theorem OnTime.step {t : ClockTrace} {op : ClockOp} {ops : List ClockOp}
    (h : t.OnTime (op :: ops)) : ∃ t', t.step op = some t' ∧ t'.OnTime ops := by
  have hmono := h.nondecreasing
  obtain ⟨hs, hp, hw⟩ := h
  cases op with
  | timerRead now =>
      have hnow : now < 2 ^ 62 := hw.reading_lt now (by simp [readingsOf, ClockOp.reading?])
      have hcount : t.readings.length + 1 < 2 ^ 60 := by
        have hlength := hw.length_lt
        simp only [readingsOf, ClockOp.reading?, List.filterMap_cons, List.length_append,
          List.length_cons] at hlength
        omega
      obtain ⟨t', ht'⟩ := exists_step_timerRead hs hp hmono hnow hcount
      obtain ⟨-, -, -, -, hreadings, -⟩ := step_timerRead ht'
      refine ⟨t', ht', steady_step hs hmono ht', paced_step hs hp hmono ht', ?_⟩
      rw [hreadings, List.append_assoc]
      exact hw
  | clockRateAdjust adjustment =>
      obtain ⟨rate, hadjust, -⟩ := ClockState.clockRateAdjust_spec hs.rate adjustment
      have ht' : t.step (.clockRateAdjust adjustment) =
          some { t with clock := { t.clock with adjustRate := rate } } := by
        rw [ClockTrace.step, hadjust]
        rfl
      exact ⟨_, ht', steady_step hs hmono ht', paced_step hs hp hmono ht', hw⟩

/-- No subtraction wraps. -/
theorem OnTime.noWrap {t : ClockTrace} {op : ClockOp} {ops : List ClockOp}
    (h : t.OnTime (op :: ops)) : t.NoWrap op := by
  have hmono := h.nondecreasing
  cases op with
  | timerRead now =>
      show t.clock.lastSystemTime ≤ t.clock.lastReportedTime + now
      rw [h.steady.system_eq]
      exact le_trans hmono (Nat.le_add_left _ _)
  | clockRateAdjust adjustment => exact trivial

/-! ## The result -/

/-- What the counters and the values returned satisfy after any operation. -/
structure KeepsTime (t : ClockTrace) : Prop where
  reported_eq : t.clock.lastReportedTime = elapsed t.readings
  real_le : t.clock.lastRealTime ≤ t.clock.lastReportedTime
  reported_le : t.clock.lastReportedTime ≤ t.clock.lastRealTime + 2
  returned_sorted : t.returned.Pairwise (· ≤ ·)
  returned_ge : ∀ v ∈ t.returned.getLast?, 6 * (t.clock.lastReportedTime - 2) ≤ 7 * v

theorem OnTime.keepsTime {t : ClockTrace} {ops : List ClockOp} (h : t.OnTime ops) :
    t.KeepsTime where
  reported_eq := h.steady.reported_eq
  real_le := h.steady.real_le
  reported_le := h.steady.reported_le
  returned_sorted := h.paced.sorted
  returned_ge := by
    intro v hv
    have hreal := h.paced.real_le
    have hleft := h.steady.reported_le
    rw [h.paced.last_eq v hv]
    omega

/-- **The clock keeps time.**  For every list of reads and adjustments whose readings
do not decrease, are below `2 ^ 62` and fewer than `2 ^ 60`: the run from power-on
goes through without a panic, no subtraction wraps, and all along it the counters
follow the readings and no elapsed time is lost. -/
theorem timerRead_keepsTime (ops : List ClockOp)
    (hsorted : (readingsOf ops).Pairwise (· ≤ ·)) (hlt : ∀ r ∈ readingsOf ops, r < 2 ^ 62)
    (hcount : (readingsOf ops).length < 2 ^ 60) :
    (∃ t, runFrom step powerOn ops = some t) ∧ Guarded step NoWrap powerOn ops ∧
      Along step KeepsTime powerOn ops := by
  have hstart : powerOn.OnTime ops :=
    ⟨steady_powerOn, paced_powerOn, hsorted, hlt, hcount⟩
  have hprogress : ∀ (t : ClockTrace) op ops, t.OnTime (op :: ops) →
      ∃ t', t.step op = some t' ∧ t'.OnTime ops := fun t op ops h => h.step
  obtain ⟨t, hrun, -⟩ := exists_runFrom hprogress hstart
  exact ⟨⟨t, hrun⟩, guarded_of_progress hprogress (fun _ _ _ h => h.noWrap) hstart,
    along_of_progress hprogress (fun _ _ h => h.keepsTime) hstart⟩

/-- A run with a reading of zero, a rate at its limit and a leap to the largest
reading allowed. -/
theorem timerRead_keepsTime_leap :
    ∃ t, runFrom step powerOn [.timerRead 0, .clockRateAdjust (-3), .timerRead 5, .timerRead 9,
      .clockRateAdjust 2, .timerRead (2 ^ 62 - 1)] = some t ∧ t.KeepsTime := by
  obtain ⟨⟨t, hrun⟩, -, halong⟩ := timerRead_keepsTime
    [.timerRead 0, .clockRateAdjust (-3), .timerRead 5, .timerRead 9,
      .clockRateAdjust 2, .timerRead (2 ^ 62 - 1)] (by decide) (by decide) (by decide)
  exact ⟨t, hrun, halong.final hrun⟩

end ClockTrace

end TpmPlatform
