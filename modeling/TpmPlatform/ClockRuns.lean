/-
# Runs of the clock

The clock from power-on under any interleaving of timer reads and rate
adjustments.  A trace keeps, next to the clock, the readings of the host's timer
and the values returned so far, so that statements can speak of both.

* `Sound` : what holds after any run that has not panicked, whatever the host's
  timer does;
* `Steady` : what holds in addition while the readings do not decrease.
-/
import TpmPlatform.Clock
import Mathlib.Data.List.Basic

namespace TpmPlatform

open Runs

/-- An operation on the clock: a `timer_read` at which the host's timer shows
`now` milliseconds, or a `clock_rate_adjust`. -/
inductive ClockOp
  | timerRead (now : ℕ)
  | clockRateAdjust (adjustment : ℤ)
  deriving DecidableEq, Repr

/-- The clock with the history of its reads, oldest first. -/
structure ClockTrace where
  clock : ClockState
  readings : List ℕ
  returned : List ℕ
  deriving DecidableEq, Repr

namespace ClockTrace

/-- The trace at power-on. -/
def powerOn : ClockTrace where
  clock := ClockState.new
  readings := []
  returned := []

/-- One operation; `none` when it panics. -/
def step (t : ClockTrace) : ClockOp → Option ClockTrace
  | .timerRead now =>
    (t.clock.timerRead now).map fun r =>
      { clock := r.2, readings := t.readings ++ [now], returned := t.returned ++ [r.1] }
  | .clockRateAdjust adjustment =>
    (t.clock.clockRateAdjust adjustment).map fun c => { t with clock := c }

/-- What a read does to the trace. -/
theorem step_timerRead {t t' : ClockTrace} {now : ℕ} (h : t.step (.timerRead now) = some t') :
    ∃ c, t.clock.reportTime now = some c ∧ t'.clock = { c with
          tpmTime := c.tpmTime + c.credit
          lastRealTime := c.lastRealTime + c.used } ∧
      c.tpmTime + c.credit < 2 ^ 64 ∧ t'.readings = t.readings ++ [now] ∧
      t'.returned = t.returned ++ [c.tpmTime + c.credit] := by
  rw [step, Option.map_eq_some_iff] at h
  obtain ⟨⟨v, c'⟩, hread, rfl⟩ := h
  rw [ClockState.timerRead, Option.bind_eq_some_iff] at hread
  obtain ⟨c, hreport, hcredit⟩ := hread
  obtain ⟨rfl, hlt, rfl⟩ := ClockState.creditTime_eq_some hcredit
  exact ⟨c, hreport, rfl, hlt, rfl, rfl⟩

/-- What an adjustment does to the trace. -/
theorem step_clockRateAdjust {t t' : ClockTrace} {adjustment : ℤ}
    (hrate : t.clock.RateInLimits) (h : t.step (.clockRateAdjust adjustment) = some t') :
    ∃ rate, clockAdjustLimitLow ≤ rate ∧ rate ≤ clockAdjustLimitHigh ∧
      t' = { t with clock := { t.clock with adjustRate := rate } } := by
  obtain ⟨rate, hadjust, hlow, hhigh⟩ := ClockState.clockRateAdjust_spec hrate adjustment
  rw [step, hadjust, Option.map_some] at h
  exact ⟨rate, hlow, hhigh, (Option.some.inj h).symm⟩

/-- `reportTime` leaves the rate and the TPM time alone. -/
theorem reportTime_frame {c c' : ClockState} {now : ℕ} (h : c.reportTime now = some c') :
    c'.adjustRate = c.adjustRate ∧ c'.tpmTime = c.tpmTime := by
  unfold ClockState.reportTime at h
  rw [Option.map_eq_some_iff] at h
  obtain ⟨sum, -, rfl⟩ := h
  by_cases hset : c.lastSystemTime = 0
  · by_cases hb : now < 0
    · simp [hset]
    · simp [hset]
  · by_cases hb : now < c.lastReportedTime
    · simp [hset, hb]
    · simp [hset, hb]

/-! ## What every run keeps -/

/-- What no sequence of readings can break. -/
structure Sound (t : ClockTrace) : Prop where
  rate : t.clock.RateInLimits
  tpm_lt : t.clock.tpmTime < 2 ^ 64
  returned_le : ∀ v ∈ t.returned, v ≤ t.clock.tpmTime

theorem sound_powerOn : powerOn.Sound where
  rate := ClockState.rateInLimits_new
  tpm_lt := by decide
  returned_le := by
    intro v hv
    cases hv

theorem sound_step {t t' : ClockTrace} {op : ClockOp} (hs : t.Sound)
    (h : t.step op = some t') : t'.Sound := by
  cases op with
  | timerRead now =>
      obtain ⟨c, hreport, hclock, hlt, -, hreturned⟩ := step_timerRead h
      obtain ⟨hrate, htpm⟩ := reportTime_frame hreport
      refine ⟨?_, ?_, ?_⟩
      · rw [ClockState.RateInLimits, hclock]
        simpa [hrate, ClockState.RateInLimits] using hs.rate
      · rw [hclock]
        exact hlt
      · intro v hv
        rw [hreturned, List.mem_append, List.mem_singleton] at hv
        rw [hclock]
        rcases hv with hv | rfl
        · have hle := hs.returned_le v hv
          show v ≤ c.tpmTime + c.credit
          omega
        · exact le_rfl
  | clockRateAdjust adjustment =>
      obtain ⟨rate, hlow, hhigh, rfl⟩ := step_clockRateAdjust hs.rate h
      exact ⟨⟨hlow, hhigh⟩, hs.tpm_lt, hs.returned_le⟩

/-- Every run that has not panicked is sound. -/
theorem sound_of_run {ops : List ClockOp} {t : ClockTrace}
    (h : runFrom step powerOn ops = some t) : t.Sound :=
  invariant_runFrom (fun _ _ _ hs hstep => sound_step hs hstep) sound_powerOn h

/-! ## Nondecreasing readings -/

/-- The readings of the host's timer do not go back at this operation. -/
def Nondecreasing (t : ClockTrace) : ClockOp → Prop
  | .timerRead now => t.readings.getLastD 0 ≤ now
  | .clockRateAdjust _ => True

instance (t : ClockTrace) (op : ClockOp) : Decidable (t.Nondecreasing op) := by
  cases op <;> unfold Nondecreasing <;> infer_instance

/-- The milliseconds by which the latest reading exceeds the first reading that is
not zero. -/
def elapsed (readings : List ℕ) : ℕ :=
  match readings.find? (· ≠ 0) with
  | none => 0
  | some first => readings.getLastD 0 - first

theorem getLastD_concat (readings : List ℕ) (now : ℕ) :
    (readings ++ [now]).getLastD 0 = now := by
  simp

/-- In a list that does not decrease, what follows is not behind what comes before. -/
theorem getLastD_le_of_sorted {readings rest : List ℕ} {now : ℕ}
    (h : (readings ++ now :: rest).Pairwise (· ≤ ·)) : readings.getLastD 0 ≤ now := by
  cases hlast : readings.getLast? with
  | none => simp [List.getLastD_eq_getLast?, hlast]
  | some r =>
      have hmem : r ∈ readings := List.mem_of_getLast? hlast
      rw [List.getLastD_eq_getLast?, hlast]
      exact (List.pairwise_append.mp h).2.2 r hmem now List.mem_cons_self

/-- While all readings are zero, the next one is the first that counts. -/
theorem elapsed_concat_of_zero {readings : List ℕ} (hzero : ∀ r ∈ readings, r = 0) (now : ℕ) :
    elapsed (readings ++ [now]) = 0 := by
  have hnone : readings.find? (· ≠ 0) = none := by
    rw [List.find?_eq_none]
    intro r hr
    simp [hzero r hr]
  unfold elapsed
  rw [List.find?_append, hnone, Option.none_or, getLastD_concat]
  by_cases hnow : now = 0
  · simp [hnow]
  · simp [hnow]

/-- Once a reading counts, the elapsed time is measured from it. -/
theorem elapsed_concat_of_first {readings : List ℕ} {first : ℕ}
    (hfirst : readings.find? (· ≠ 0) = some first) (now : ℕ) :
    elapsed (readings ++ [now]) = now - first := by
  unfold elapsed
  rw [List.find?_append, hfirst, Option.some_or, getLastD_concat]

theorem elapsed_of_first {readings : List ℕ} {first : ℕ}
    (hfirst : readings.find? (· ≠ 0) = some first) :
    elapsed readings = readings.getLastD 0 - first := by
  unfold elapsed
  rw [hfirst]

/-- What holds while the readings do not decrease: the counters follow the
readings, and at most two milliseconds stay unaccounted for. -/
structure Steady (t : ClockTrace) : Prop where
  rate : t.clock.RateInLimits
  system_eq : t.clock.lastSystemTime = t.readings.getLastD 0
  reported_eq : t.clock.lastReportedTime = elapsed t.readings
  le_last : ∀ r ∈ t.readings, r ≤ t.readings.getLastD 0
  real_le : t.clock.lastRealTime ≤ t.clock.lastReportedTime
  reported_le : t.clock.lastReportedTime ≤ t.clock.lastRealTime + 2

theorem steady_powerOn : powerOn.Steady where
  rate := ClockState.rateInLimits_new
  system_eq := rfl
  reported_eq := rfl
  le_last := by
    intro r hr
    cases hr
  real_le := le_rfl
  reported_le := by decide

/-- The reported time never exceeds the latest reading. -/
theorem Steady.reported_le_system {t : ClockTrace} (hs : t.Steady) :
    t.clock.lastReportedTime ≤ t.clock.lastSystemTime := by
  rw [hs.reported_eq, hs.system_eq, elapsed]
  cases t.readings.find? (· ≠ 0) with
  | none => exact Nat.zero_le _
  | some first => exact Nat.sub_le _ _

/-- The pending time a read sees, before it credits anything, is the elapsed time
less what has been accounted for. -/
theorem Steady.report {t : ClockTrace} {c : ClockState} {now : ℕ} (hs : t.Steady)
    (hmono : t.readings.getLastD 0 ≤ now) (h : t.clock.reportTime now = some c) :
    c.adjustRate = t.clock.adjustRate ∧ c.tpmTime = t.clock.tpmTime ∧
      c.lastSystemTime = now ∧ c.lastReportedTime = elapsed (t.readings ++ [now]) ∧
      c.lastRealTime = t.clock.lastRealTime ∧ c.lastRealTime ≤ c.lastReportedTime := by
  have hle : t.clock.lastSystemTime ≤ now := by
    rw [hs.system_eq]
    exact hmono
  have hc := ClockState.reportTime_of_le hs.reported_le_system hle h
  by_cases hset : t.clock.lastSystemTime = 0
  · -- no reading has counted yet, so nothing has been reported
    have hzero : ∀ r ∈ t.readings, r = 0 := by
      intro r hr
      have := hs.le_last r hr
      rw [← hs.system_eq, hset] at this
      omega
    have hrep : t.clock.lastReportedTime = 0 := by
      have := hs.reported_le_system
      omega
    have hreal : t.clock.lastRealTime = 0 := by
      have := hs.real_le
      omega
    rw [if_pos hset, if_pos hset] at hc
    subst hc
    exact ⟨rfl, rfl, rfl, (elapsed_concat_of_zero hzero now).symm, hreal.symm, le_rfl⟩
  · have hfirst : ∃ first, t.readings.find? (· ≠ 0) = some first := by
      cases hf : t.readings.find? (· ≠ 0) with
      | some first => exact ⟨first, rfl⟩
      | none =>
          exfalso
          rw [List.find?_eq_none] at hf
          apply hset
          rw [hs.system_eq]
          cases hlast : t.readings.getLast? with
          | none => simp [List.getLastD_eq_getLast?, hlast]
          | some r =>
              have hmem : r ∈ t.readings := List.mem_of_getLast? hlast
              have := hf r hmem
              simpa [List.getLastD_eq_getLast?, hlast] using this
    obtain ⟨first, hfirst⟩ := hfirst
    have hfle : first ≤ t.readings.getLastD 0 := hs.le_last first (List.mem_of_find?_eq_some hfirst)
    have hrep : t.clock.lastReportedTime = t.readings.getLastD 0 - first := by
      rw [hs.reported_eq, elapsed_of_first hfirst]
    rw [if_neg hset, if_neg hset] at hc
    subst hc
    have hreal := hs.real_le
    refine ⟨rfl, rfl, rfl, ?_, rfl, ?_⟩
    · rw [elapsed_concat_of_first hfirst]
      show t.clock.lastReportedTime + (now - t.clock.lastSystemTime) = now - first
      rw [hrep, hs.system_eq]
      omega
    · show t.clock.lastRealTime ≤ t.clock.lastReportedTime + (now - t.clock.lastSystemTime)
      omega

theorem steady_step {t t' : ClockTrace} {op : ClockOp} (hs : t.Steady)
    (hmono : t.Nondecreasing op) (h : t.step op = some t') : t'.Steady := by
  cases op with
  | timerRead now =>
      obtain ⟨c, hreport, hclock, -, hreadings, -⟩ := step_timerRead h
      obtain ⟨hrate, -, hsystem, hreported, -, hreal⟩ := hs.report hmono hreport
      have hlimits : c.RateInLimits := by
        rw [ClockState.RateInLimits, hrate]
        exact hs.rate
      have hused : c.used ≤ c.pending := c.used_le_pending
      have hrest : c.pending ≤ c.used + 2 := ClockState.pending_le_used hlimits
      have hpending : c.pending = c.lastReportedTime - c.lastRealTime := rfl
      refine ⟨?_, ?_, ?_, ?_, ?_, ?_⟩
      · rw [hclock]
        exact hlimits
      · rw [hclock, hreadings, getLastD_concat]
        exact hsystem
      · rw [hclock, hreadings]
        exact hreported
      · intro r hr
        rw [hreadings, getLastD_concat]
        rw [hreadings, List.mem_append, List.mem_singleton] at hr
        rcases hr with hr | rfl
        · exact (hs.le_last r hr).trans hmono
        · exact le_rfl
      · rw [hclock]
        show c.lastRealTime + c.used ≤ c.lastReportedTime
        omega
      · rw [hclock]
        show c.lastReportedTime ≤ c.lastRealTime + c.used + 2
        omega
  | clockRateAdjust adjustment =>
      obtain ⟨rate, hlow, hhigh, rfl⟩ := step_clockRateAdjust hs.rate h
      exact ⟨⟨hlow, hhigh⟩, hs.system_eq, hs.reported_eq, hs.le_last, hs.real_le, hs.reported_le⟩

end ClockTrace

end TpmPlatform
