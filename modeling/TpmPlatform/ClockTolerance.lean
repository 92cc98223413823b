/-
# How fast the TPM clock can run

`clock_rate_adjust` keeps the divisor at 25000 or more against the nominal 30000,
so TPM time should never outrun the host's timer by more than the factor 6/5.
Each read converts the pending milliseconds at the current rate and puts back
what the converted amount is worth; both divisions truncate.

* `timerRead_withinTolerance` : the bound holds in every run in which no read
  rounds away more than the tolerance covers;
* `runFrom_poll` : a read at a fast rate that leaves one millisecond behind
  counts that millisecond again at every further read, so that polling a timer
  that does not move advances TPM time without bound.
-/
import TpmPlatform.ClockRuns

namespace TpmPlatform

open Runs

namespace ClockTrace

/-- The last value returned is within the tolerance of the elapsed time. -/
def WithinTolerance (t : ClockTrace) : Prop :=
  ∀ v ∈ t.returned.getLast?,
    v ≤ (elapsed t.readings + 2) * clockNominal / clockAdjustLimitLow

instance : DecidablePred WithinTolerance := fun t =>
  inferInstanceAs (Decidable (∀ v ∈ t.returned.getLast?, _))

/-- The milliseconds that a read at reading `now` finds pending. -/
def pendingAt (t : ClockTrace) (now : ℕ) : ℕ :=
  elapsed (t.readings ++ [now]) - t.clock.lastRealTime

/-- A read with `d` pending milliseconds does not round away more than the
tolerance covers: the rate is not a fast one, or it divides the pending ticks, or
`d` is so large that the millisecond lost does not matter. -/
def RoundsWithinTolerance (t : ClockTrace) : ClockOp → Prop
  | .timerRead now =>
    clockNominal ≤ t.clock.adjustRate ∨
      t.clock.adjustRate ∣ t.pendingAt now * clockNominal ∨
      5 * (t.pendingAt now * clockNominal / t.clock.adjustRate) ≤ 6 * (t.pendingAt now - 1)
  | .clockRateAdjust _ => True

instance (t : ClockTrace) (op : ClockOp) : Decidable (t.RoundsWithinTolerance op) :=
  match op with
  | .timerRead _ =>
    @instDecidableOr _ _ (Nat.decLe _ _)
      (@instDecidableOr _ _ (Nat.decidable_dvd _ _) (Nat.decLe _ _))
  | .clockRateAdjust _ => isTrue trivial

/-! ## One read -/

/-- A conversion that rounds within the tolerance adds at most 6/5 of what it puts
back. -/
theorem scaled_le_of_rounds {rate d : ℕ} (hlow : clockAdjustLimitLow ≤ rate)
    (h : clockNominal ≤ rate ∨ rate ∣ d * clockNominal ∨
      5 * (d * clockNominal / rate) ≤ 6 * (d - 1)) :
    5 * Rescale.scaled clockNominal rate d ≤ 6 * Rescale.credited clockNominal rate d := by
  have hnom : 0 < clockNominal := by decide
  have hpos : 0 < rate := lt_of_lt_of_le (by decide) hlow
  by_cases hslow : clockNominal ≤ rate
  · have hle : Rescale.scaled clockNominal rate d ≤ Rescale.credited clockNominal rate d :=
      Rescale.scaled_le_credited hnom hslow
    omega
  · rcases h with h | hdvd | hlarge
    · exact absurd h hslow
    · -- nothing is lost, and the rate itself is within the tolerance
      have hcredited : Rescale.credited clockNominal rate d = d :=
        (Rescale.credited_eq_iff hnom).mpr hdvd
      have hworth : Rescale.scaled clockNominal rate d * rate ≤ d * clockNominal :=
        Rescale.scaled_mul_le clockNominal rate d
      have hrate : Rescale.scaled clockNominal rate d * clockAdjustLimitLow ≤
          Rescale.scaled clockNominal rate d * rate := Nat.mul_le_mul_left _ hlow
      rw [hcredited]
      simp only [clockAdjustLimitLow, clockNominal, clockAdjustLimit] at hworth hrate
      simp only [clockNominal]
      omega
    · have hlost : d ≤ Rescale.credited clockNominal rate d + 1 :=
        Rescale.le_credited_add_one hnom hpos (by omega)
      rw [Rescale.scaled]
      omega

/-- TPM time is at most 6/5 of the time accounted for. -/
def Balanced (t : ClockTrace) : Prop :=
  5 * t.clock.tpmTime ≤ 6 * t.clock.lastRealTime ∧
    ∀ v ∈ t.returned.getLast?, 5 * v ≤ 6 * elapsed t.readings

theorem balanced_powerOn : powerOn.Balanced := by
  refine ⟨by decide, ?_⟩
  intro v hv
  cases hv

/-- **Step.**  A steady trace stays balanced under an operation that rounds within
the tolerance. -/
theorem balanced_step {t t' : ClockTrace} {op : ClockOp} (hs : t.Steady) (hb : t.Balanced)
    (hmono : t.Nondecreasing op) (hround : t.RoundsWithinTolerance op)
    (h : t.step op = some t') : t'.Balanced := by
  cases op with
  | timerRead now =>
      have hsteady := steady_step hs hmono h
      obtain ⟨c, hreport, hclock, -, hreadings, hreturned⟩ := step_timerRead h
      obtain ⟨hrate, htpm, -, hreported, hreal, -⟩ := hs.report hmono hreport
      have hpending : c.pending = t.pendingAt now := by
        rw [ClockState.pending, pendingAt, hreported, hreal]
      have hcredit : 5 * c.credit ≤ 6 * c.used := by
        rw [ClockState.credit, ClockState.used, hpending, hrate]
        exact scaled_le_of_rounds hs.rate.1 hround
      have hbalance : 5 * (c.tpmTime + c.credit) ≤ 6 * (c.lastRealTime + c.used) := by
        have hold := hb.1
        rw [htpm, hreal]
        omega
      refine ⟨?_, ?_⟩
      · rw [hclock]
        exact hbalance
      · intro v hv
        rw [hreturned, List.getLast?_concat, Option.mem_some_iff] at hv
        subst hv
        have hle := hsteady.real_le
        rw [hsteady.reported_eq, hclock] at hle
        calc 5 * (c.tpmTime + c.credit) ≤ 6 * (c.lastRealTime + c.used) := hbalance
          _ ≤ 6 * elapsed t'.readings := Nat.mul_le_mul_left 6 hle
  | clockRateAdjust adjustment =>
      obtain ⟨rate, -, -, rfl⟩ := step_clockRateAdjust hs.rate h
      exact hb

/-- A balanced trace is within the tolerance, with the two milliseconds to spare. -/
theorem Balanced.withinTolerance {t : ClockTrace} (hb : t.Balanced) : t.WithinTolerance := by
  intro v hv
  have hle : 5 * v ≤ 6 * elapsed t.readings := hb.2 v hv
  rw [Nat.le_div_iff_mul_le (by decide)]
  simp only [clockNominal, clockAdjustLimitLow, clockAdjustLimit]
  omega

/-! ## Whole runs -/

/-- **TPM time stays within the tolerance** in every run with nondecreasing readings
whose reads all round within it. -/
theorem timerRead_withinTolerance (ops : List ClockOp)
    (hmono : Guarded step Nondecreasing powerOn ops)
    (hround : Guarded step RoundsWithinTolerance powerOn ops) :
    Along step WithinTolerance powerOn ops := by
  have hboth : Guarded step (fun t op => t.Nondecreasing op ∧ t.RoundsWithinTolerance op)
      powerOn ops := hmono.and hround
  have hinv : Along step (fun t => t.Steady ∧ t.Balanced) powerOn ops := by
    apply along_of_guarded ?_ ⟨steady_powerOn, balanced_powerOn⟩ hboth
    intro t op t' hP hC h
    exact ⟨steady_step hP.1 hC.1 h, balanced_step hP.1 hP.2 hC.1 hC.2 h⟩
  exact hinv.mono fun t ht => ht.2.withinTolerance

/-- Coarse adjustments and reads far apart round within the tolerance. -/
theorem timerRead_withinTolerance_sparse :
    Along step WithinTolerance powerOn
      [.clockRateAdjust 3, .timerRead 7, .timerRead 1007, .clockRateAdjust (-3), .timerRead 1008] :=
  timerRead_withinTolerance _ (by decide) (by decide)

/-- Four polls at one reading, at a slightly fast rate, outrun the tolerance. -/
theorem timerRead_not_withinTolerance :
    ¬ ∀ ops : List ClockOp, Guarded step Nondecreasing powerOn ops →
      Along step WithinTolerance powerOn ops := by
  intro h
  have hpoll := h [.clockRateAdjust 3, .timerRead 1, .timerRead 2, .timerRead 2, .timerRead 2,
    .timerRead 2] (by decide)
  revert hpoll
  decide

/-! ## Polling a timer that does not move -/

/-- The state that a lossy read leaves behind: a fast rate and one millisecond
pending. -/
structure OneLeft (c : ClockState) (now : ℕ) : Prop where
  now_pos : 0 < now
  now_lt : now < 2 ^ 64
  low : clockAdjustLimitLow ≤ c.adjustRate
  fast : c.adjustRate < clockNominal
  system_eq : c.lastSystemTime = now
  reported_le : c.lastReportedTime ≤ now
  reported_eq : c.lastReportedTime = c.lastRealTime + 1

/-- One more read at the same reading adds a millisecond and leaves one behind. -/
theorem timerRead_of_oneLeft {c : ClockState} {now : ℕ} (h : OneLeft c now)
    (htpm : c.tpmTime + 1 < 2 ^ 64) :
    c.timerRead now = some (c.tpmTime + 1, { c with tpmTime := c.tpmTime + 1 }) := by
  obtain ⟨hpos, hlt, hlow, hfast, hsystem, hreported, hone⟩ := h
  simp only [clockAdjustLimitLow, clockNominal, clockAdjustLimit] at hlow hfast
  have hreport : c.reportTime now = some c := by
    rw [ClockState.reportTime_of_ge (by omega) hreported (by omega), hsystem,
      wrappingSubU128_of_le (by omega) (by omega), Nat.add_sub_cancel, ← hsystem]
  have hpending : c.pending = 1 := by
    rw [ClockState.pending]
    omega
  have hcredit : c.credit = 1 := by
    rw [ClockState.credit, hpending, Rescale.scaled, clockNominal, Nat.one_mul]
    exact Nat.div_eq_of_lt_le (by omega) (by omega)
  have hused : c.used = 0 := by
    have hscaled := hcredit
    rw [ClockState.credit] at hscaled
    rw [ClockState.used, Rescale.credited, hscaled, Nat.one_mul]
    exact Nat.div_eq_of_lt hfast
  have hmoderate : c.Moderate := by
    constructor <;> omega
  rw [ClockState.timerRead, hreport, Option.bind_some, ClockState.creditTime_eq hmoderate,
    hcredit, hused, if_pos htpm, Nat.add_zero c.lastRealTime]

/-- **Polling without bound.**  While the host's timer does not move, `k` reads add
`k` milliseconds to the TPM time. -/
theorem runFrom_poll (k : ℕ) {t : ClockTrace} {now : ℕ} (h : OneLeft t.clock now)
    (htpm : t.clock.tpmTime + k < 2 ^ 64) :
    ∃ t', runFrom step t (List.replicate k (.timerRead now)) = some t' ∧
      t'.clock = { t.clock with tpmTime := t.clock.tpmTime + k } := by
  induction k generalizing t with
  | zero => exact ⟨t, rfl, rfl⟩
  | succ k ih =>
      -- the state after one read has the same shape, with one millisecond more
      obtain ⟨t₁, hstep, hclock₁⟩ : ∃ t₁, t.step (.timerRead now) = some t₁ ∧
          t₁.clock = { t.clock with tpmTime := t.clock.tpmTime + 1 } := by
        rw [step, timerRead_of_oneLeft h (by omega), Option.map_some]
        exact ⟨_, rfl, rfl⟩
      have hleft : OneLeft t₁.clock now := by
        rw [hclock₁]
        exact ⟨h.now_pos, h.now_lt, h.low, h.fast, h.system_eq, h.reported_le, h.reported_eq⟩
      have hroom : t₁.clock.tpmTime + k < 2 ^ 64 := by
        rw [hclock₁]
        show t.clock.tpmTime + 1 + k < 2 ^ 64
        omega
      obtain ⟨t', hrun, hclock⟩ := ih hleft hroom
      refine ⟨t', ?_, ?_⟩
      · rw [List.replicate_succ, runFrom_cons, hstep, Option.bind_some, hrun]
      · rw [hclock, hclock₁, Nat.add_comm k 1, ← Nat.add_assoc]

end ClockTrace

end TpmPlatform
