/-
# A clock that has been slowed down

At a rate `r` above the nominal 30000 the TPM time should advance by `30000 / r` of
the host's time, however often it is read.  Each read takes off the pending time what
the milliseconds it added are worth, rounded down; what is rounded away stays pending
and is counted again.

`SlowTrace` adds up what the reads of a run round away, in ticks of the nominal rate,
and `slowedDown_step` compares the sum with the tolerance of 2 ms.  From it,
`timerRead_slowedDown`:

* the bound holds for all sequences of readings at the nominal rate and at no other:
  read every millisecond, a clock that has been slowed down runs at full speed
  (`runFrom_climb`);
* at any rate `r` it holds for the readings at which `30000 * E` leaves 0 or 30000 when
  divided by `r`, `E` being the time elapsed, because no read then rounds anything away;
  the tolerance covers three more reads at any times.
-/
import TpmPlatform.ClockTolerance
import Mathlib.Data.List.Induction

namespace TpmPlatform

open Runs

namespace ClockTrace

/-- The last value returned is within two milliseconds of the elapsed time at the
rate the clock is set to. -/
def SlowedDown (t : ClockTrace) : Prop :=
  ∀ v ∈ t.returned.getLast?, v ≤ elapsed t.readings * clockNominal / t.clock.adjustRate + 2

instance : DecidablePred SlowedDown := fun t =>
  inferInstanceAs (Decidable (∀ v ∈ t.returned.getLast?, _))

/-! ## What a read rounds away -/

/-- The ticks by which a read with `d` pending milliseconds falls short of taking off
what the milliseconds it adds are worth. -/
def roundedAway (rate d : ℕ) : ℕ := Rescale.scaled clockNominal rate d * rate % clockNominal

/-- The milliseconds that such a read leaves pending. -/
def leftPending (rate d : ℕ) : ℕ := d - Rescale.credited clockNominal rate d

/-- What is added is worth what is taken off and what is rounded away. -/
theorem scaled_mul_eq (rate d : ℕ) : Rescale.scaled clockNominal rate d * rate =
    Rescale.credited clockNominal rate d * clockNominal + roundedAway rate d := by
  rw [Rescale.credited, roundedAway, Nat.mul_comm (_ / _) clockNominal]
  exact (Nat.div_add_mod _ _).symm

/-- Less than a millisecond is rounded away at a time. -/
theorem roundedAway_lt (rate d : ℕ) : roundedAway rate d < clockNominal :=
  Nat.mod_lt _ (by decide)

/-- What is rounded away is still pending. -/
theorem roundedAway_le (rate d : ℕ) :
    roundedAway rate d ≤ leftPending rate d * clockNominal := by
  have hworth := scaled_mul_eq rate d
  have hle : Rescale.scaled clockNominal rate d * rate ≤ d * clockNominal :=
    Rescale.scaled_mul_le clockNominal rate d
  rw [leftPending, Nat.sub_mul]
  omega

/-- `d` milliseconds at which a conversion from nothing pending rounds nothing away: the
ticks that the first division leaves are none or a whole millisecond. -/
def LossFree (rate d : ℕ) : Prop :=
  d * clockNominal % rate = 0 ∨ d * clockNominal % rate = clockNominal

instance (rate d : ℕ) : Decidable (LossFree rate d) := inferInstanceAs (Decidable (_ ∨ _))

/-- At the nominal rate there is nothing to round. -/
theorem lossFree_nominal (d : ℕ) : LossFree clockNominal d := Or.inl (Nat.mul_mod_left _ _)

/-- **Loss-free reads.**  Up to twice the nominal rate nothing is rounded away exactly
where the first division leaves nothing or a millisecond. -/
theorem roundedAway_eq_zero_iff {rate d : ℕ} (hpos : 0 < rate) (hmax : rate ≤ 2 * clockNominal) :
    roundedAway rate d = 0 ↔ LossFree rate d := by
  have hnom : 0 < clockNominal := by decide
  have hsplit : Rescale.scaled clockNominal rate d * rate + d * clockNominal % rate =
      d * clockNominal := by
    rw [Rescale.scaled, Nat.mul_comm]
    exact Nat.div_add_mod _ _
  have hrest : d * clockNominal % rate < rate := Nat.mod_lt _ hpos
  rw [roundedAway, LossFree]
  constructor
  · intro h
    obtain ⟨m, hm⟩ := Nat.dvd_of_mod_eq_zero h
    -- the remainder is a multiple of 30000 below 60000
    have hmd : clockNominal * m ≤ clockNominal * d := by
      rw [← hm, Nat.mul_comm clockNominal d]
      omega
    have hle : m ≤ d := Nat.le_of_mul_le_mul_left hmd hnom
    have hdiff : d * clockNominal % rate = (d - m) * clockNominal := by
      rw [Nat.sub_mul, Nat.mul_comm m, ← hm]
      omega
    have hsmall : (d - m) * clockNominal < 2 * clockNominal := by omega
    have hlt : d - m < 2 := Nat.lt_of_mul_lt_mul_right hsmall
    rw [hdiff]
    rcases Nat.le_one_iff_eq_zero_or_eq_one.mp (Nat.lt_succ_iff.mp hlt) with h0 | h1
    · left
      rw [h0, Nat.zero_mul]
    · right
      rw [h1, Nat.one_mul]
  · rintro (h | h)
    · have heq : Rescale.scaled clockNominal rate d * rate = d * clockNominal := by omega
      rw [heq, Nat.mul_mod_left]
    · have heq : Rescale.scaled clockNominal rate d * rate = (d - 1) * clockNominal := by
        rw [Nat.sub_mul]
        omega
      rw [heq, Nat.mul_mod_left]

/-- A clock with the ticks that its reads have rounded away so far. -/
structure SlowTrace where
  trace : ClockTrace
  lost : ℕ

namespace SlowTrace

/-- One read. -/
def step (s : SlowTrace) (now : ℕ) : Option SlowTrace :=
  (s.trace.step (.timerRead now)).map fun t =>
    { trace := t, lost := s.lost + roundedAway s.trace.clock.adjustRate (s.trace.pendingAt now) }

/-- Forgetting the sum leaves the clock. -/
theorem map_step (s : SlowTrace) (now : ℕ) :
    (s.step now).map SlowTrace.trace = s.trace.step (.timerRead now) := by
  rw [step, Option.map_map]
  exact Option.map_id'

/-- A run of the clock, seen with the sum. -/
theorem along_trace {P : ClockTrace → Prop} (s : SlowTrace) {readings : List ℕ} :
    Along ClockTrace.step P s.trace (readings.map .timerRead) ↔
      Along SlowTrace.step (fun s => P s.trace) s readings := by
  rw [along_map]
  exact along_ghost (π := SlowTrace.trace) map_step

/-- The side conditions of a run of the clock, seen with the sum. -/
theorem guarded_trace {C : ClockTrace → ClockOp → Prop} (s : SlowTrace) {readings : List ℕ} :
    Guarded ClockTrace.step C s.trace (readings.map .timerRead) ↔
      Guarded SlowTrace.step (fun s now => C s.trace (.timerRead now)) s readings := by
  rw [guarded_map]
  exact guarded_ghost (π := SlowTrace.trace) (C := fun t now => C t (.timerRead now)) map_step

/-- What the reads have rounded away, this one included, is within `2 * rate` ticks and
what this one leaves pending. -/
def RoundsWithin (s : SlowTrace) (now : ℕ) : Prop :=
  s.lost + roundedAway s.trace.clock.adjustRate (s.trace.pendingAt now) ≤
    2 * s.trace.clock.adjustRate +
      leftPending s.trace.clock.adjustRate (s.trace.pendingAt now) * clockNominal

/-- The TPM time is worth the time accounted for and what has been rounded away. -/
structure Accounted (rate : ℕ) (s : SlowTrace) : Prop where
  steady : s.trace.Steady
  rate_eq : s.trace.clock.adjustRate = rate
  worth : s.trace.clock.tpmTime * rate = s.trace.clock.lastRealTime * clockNominal + s.lost
  last_eq : ∀ v ∈ s.trace.returned.getLast?, v = s.trace.clock.tpmTime

/-- **One read**, in ticks: what it adds, what it takes off and what it loses. -/
theorem step_eq_some {rate : ℕ} {s s' : SlowTrace} {now : ℕ} (hs : s.Accounted rate)
    (hmono : s.trace.Nondecreasing (.timerRead now)) (h : s.step now = some s') :
    s'.Accounted rate ∧ s'.trace.returned.getLast? = some s'.trace.clock.tpmTime ∧
      s'.lost = s.lost + roundedAway rate (s.trace.pendingAt now) ∧
      elapsed s'.trace.readings =
        s'.trace.clock.lastRealTime + leftPending rate (s.trace.pendingAt now) := by
  rw [step, Option.map_eq_some_iff] at h
  obtain ⟨t, ht, rfl⟩ := h
  have hsteady := steady_step hs.steady hmono ht
  obtain ⟨c, hreport, hclock, -, hreadings, hreturned⟩ := step_timerRead ht
  obtain ⟨hrate, htpm, -, hreported, hreal, hle⟩ := hs.steady.report hmono hreport
  have hrate' : c.adjustRate = rate := hrate.trans hs.rate_eq
  have hpending : c.pending = s.trace.pendingAt now := by
    rw [ClockState.pending, pendingAt, hreported, hreal]
  have hlast : t.returned.getLast? = some t.clock.tpmTime := by
    rw [hreturned, List.getLast?_concat, hclock]
  have hworth : c.credit * rate =
      c.used * clockNominal + roundedAway rate (s.trace.pendingAt now) := by
    rw [← hpending, ← hrate']
    exact scaled_mul_eq c.adjustRate c.pending
  have hold : c.tpmTime * rate = c.lastRealTime * clockNominal + s.lost := by
    rw [htpm, hreal]
    exact hs.worth
  refine ⟨⟨hsteady, ?_, ?_, ?_⟩, hlast, ?_, ?_⟩
  · show t.clock.adjustRate = rate
    rw [hclock]
    exact hrate'
  · show t.clock.tpmTime * rate = t.clock.lastRealTime * clockNominal + _
    rw [hclock]
    show (c.tpmTime + c.credit) * rate = (c.lastRealTime + c.used) * clockNominal +
      (s.lost + roundedAway s.trace.clock.adjustRate (s.trace.pendingAt now))
    rw [hs.rate_eq, Nat.add_mul, Nat.add_mul, hold, hworth]
    omega
  · intro v hv
    rw [hlast, Option.mem_some_iff] at hv
    exact hv.symm
  · show s.lost + roundedAway s.trace.clock.adjustRate _ = _
    rw [hs.rate_eq]
  · have hused : c.used ≤ c.pending := c.used_le_pending
    have hleft : leftPending rate (s.trace.pendingAt now) = c.pending - c.used := by
      rw [leftPending, ← hpending, ← hrate', ClockState.used]
    show elapsed t.readings = t.clock.lastRealTime + _
    rw [hleft, hreadings, ← hreported, hclock]
    show c.lastReportedTime = c.lastRealTime + c.used + (c.pending - c.used)
    rw [ClockState.pending] at hused ⊢
    omega

/-- **Step.**  After a read the clock is as slow as requested exactly if its rounding is
within the bound. -/
theorem slowedDown_step {rate : ℕ} (hpos : 0 < rate) {s s' : SlowTrace} {now : ℕ}
    (hs : s.Accounted rate) (hmono : s.trace.Nondecreasing (.timerRead now))
    (h : s.step now = some s') : s'.trace.SlowedDown ↔ s.RoundsWithin now := by
  obtain ⟨hs', hlast, hlost, helapsed⟩ := step_eq_some hs hmono h
  have hworth := hs'.worth
  have hdiv : s'.trace.SlowedDown ↔
      s'.trace.clock.tpmTime * rate ≤ elapsed s'.trace.readings * clockNominal + 2 * rate := by
    have hslowed : s'.trace.SlowedDown ↔
        s'.trace.clock.tpmTime ≤ elapsed s'.trace.readings * clockNominal / rate + 2 := by
      rw [SlowedDown, hlast, hs'.rate_eq]
      simp
    rw [hslowed, ← Nat.sub_le_iff_le_add, Nat.le_div_iff_mul_le hpos, Nat.sub_mul,
      Nat.sub_le_iff_le_add]
  rw [hdiv, hworth, helapsed, hlost, RoundsWithin, hs.rate_eq, Nat.add_mul]
  constructor
  · intro hle
    omega
  · intro hle
    omega

/-- A read is within the bound where at most two milliseconds have been rounded away
before it. -/
theorem roundsWithin_of_le {s : SlowTrace} {now : ℕ} (h : s.lost ≤ 2 * s.trace.clock.adjustRate) :
    s.RoundsWithin now :=
  Nat.add_le_add h (roundedAway_le _ _)

/-- Where nothing has been rounded away, a read rounds nothing away exactly if the time
elapsed is loss-free: what has been accounted for is a whole number of TPM milliseconds. -/
theorem Accounted.lossFree_iff {rate : ℕ} {s s' : SlowTrace} {now : ℕ} (hs : s.Accounted rate)
    (hmono : s.trace.Nondecreasing (.timerRead now)) (h : s.step now = some s')
    (hnone : s.lost = 0) :
    LossFree rate (s.trace.pendingAt now) ↔
      LossFree rate (elapsed (s.trace.readings ++ [now])) := by
  have hworth := hs.worth
  have hreal : s.trace.clock.lastRealTime ≤ elapsed (s.trace.readings ++ [now]) := by
    rw [step, Option.map_eq_some_iff] at h
    obtain ⟨t, ht, -⟩ := h
    obtain ⟨c, hreport, -⟩ := step_timerRead ht
    obtain ⟨-, -, -, hreported, hsame, hle⟩ := hs.steady.report hmono hreport
    rwa [hreported, hsame] at hle
  rw [hnone, Nat.add_zero] at hworth
  have hticks : elapsed (s.trace.readings ++ [now]) * clockNominal =
      s.trace.pendingAt now * clockNominal + s.trace.clock.tpmTime * rate := by
    rw [hworth, pendingAt, ← Nat.add_mul, Nat.sub_add_cancel hreal]
  rw [LossFree, LossFree, hticks, Nat.add_mul_mod_self_right]

end SlowTrace

/-! ## Whole runs -/

/-- The clock before the first read. -/
structure Fresh (t : ClockTrace) : Prop where
  steady : t.Steady
  readings_eq : t.readings = []
  returned_eq : t.returned = []
  tpm_eq : t.clock.tpmTime = 0
  real_eq : t.clock.lastRealTime = 0

theorem fresh_powerOn : powerOn.Fresh := ⟨steady_powerOn, rfl, rfl, rfl, rfl⟩

/-- Adjustments change nothing but the rate. -/
theorem fresh_adjusted {adjustments : List ℤ} {t t' : ClockTrace} (ht : t.Fresh)
    (h : runFrom step t (adjustments.map .clockRateAdjust) = some t') : t'.Fresh := by
  induction adjustments generalizing t with
  | nil => exact Option.some.inj h ▸ ht
  | cons adjustment adjustments ih =>
      obtain ⟨t₁, hstep, hrun⟩ := (runFrom_cons_eq_some step).mp h
      have hsteady : t₁.Steady :=
        steady_step ht.steady (show t.Nondecreasing (.clockRateAdjust adjustment) from trivial)
          hstep
      obtain ⟨rate, -, -, rfl⟩ := step_clockRateAdjust ht.steady.rate hstep
      exact ih ⟨hsteady, ht.readings_eq, ht.returned_eq, ht.tpm_eq, ht.real_eq⟩ hrun

/-- Readings in order are never behind the last one. -/
theorem guarded_nondecreasing {readings : List ℕ} {t : ClockTrace}
    (h : (t.readings ++ readings).Pairwise (· ≤ ·)) :
    Guarded step Nondecreasing t (readings.map .timerRead) := by
  induction readings generalizing t with
  | nil => exact trivial
  | cons now readings ih =>
      intro t' ht'
      obtain ⟨-, -, -, -, hreadings, -⟩ := step_timerRead ht'
      refine ⟨getLastD_le_of_sorted h, ih ?_⟩
      rw [hreadings, List.append_assoc]
      exact h

/-- The clock with nothing rounded away yet. -/
def SlowTrace.start (t : ClockTrace) : SlowTrace := { trace := t, lost := 0 }

theorem Fresh.accounted {t : ClockTrace} (ht : t.Fresh) :
    (SlowTrace.start t).Accounted t.clock.adjustRate where
  steady := ht.steady
  rate_eq := rfl
  worth := by
    show t.clock.tpmTime * _ = t.clock.lastRealTime * _ + 0
    rw [ht.tpm_eq, ht.real_eq, Nat.zero_mul, Nat.zero_mul]
  last_eq := by
    show ∀ v ∈ t.returned.getLast?, v = t.clock.tpmTime
    rw [ht.returned_eq]
    intro v hv
    cases hv

/-- **A run as a sum.**  From a fresh clock and with readings in order, the clock is as
slow as requested all along exactly if the sum is within the bound at every read. -/
theorem along_slowedDown_iff {t : ClockTrace} (ht : t.Fresh) {readings : List ℕ}
    (hsorted : readings.Pairwise (· ≤ ·)) :
    Along step SlowedDown t (readings.map .timerRead) ↔
      Guarded SlowTrace.step SlowTrace.RoundsWithin (SlowTrace.start t) readings := by
  have hpos : 0 < t.clock.adjustRate := lt_of_lt_of_le (by decide) ht.steady.rate.1
  have hnone : t.SlowedDown := by
    rw [SlowedDown, ht.returned_eq]
    intro v hv
    cases hv
  have hmono : Guarded step Nondecreasing t (readings.map .timerRead) := by
    apply guarded_nondecreasing
    rw [ht.readings_eq]
    exact hsorted
  refine (SlowTrace.along_trace (SlowTrace.start t)).trans ?_
  exact along_iff_guarded_under (fun _ _ _ hs hD h => (SlowTrace.step_eq_some hs hD h).1)
    (fun _ _ _ hs hD h => SlowTrace.slowedDown_step hpos hs hD h) ht.accounted hnone
    ((SlowTrace.guarded_trace (SlowTrace.start t)).mp hmono)

/-- The state that a run of the reads leads to. -/
theorem SlowTrace.accounted_of_run {t : ClockTrace} (ht : t.Fresh) {readings : List ℕ}
    (hsorted : readings.Pairwise (· ≤ ·)) {s : SlowTrace}
    (hrun : runFrom SlowTrace.step (SlowTrace.start t) readings = some s) :
    s.Accounted t.clock.adjustRate ∧ s.trace.readings = readings := by
  induction readings using List.reverseRecOn generalizing s with
  | nil =>
      obtain rfl := Option.some.inj hrun
      exact ⟨ht.accounted, ht.readings_eq⟩
  | append_singleton readings now ih =>
      obtain ⟨s₀, hrun₀, hstep⟩ := (runFrom_concat_eq_some SlowTrace.step).mp hrun
      obtain ⟨hs₀, hreadings⟩ := ih (List.pairwise_append.mp hsorted).1 hrun₀
      have hmono : s₀.trace.Nondecreasing (.timerRead now) := by
        have hnow : (s₀.trace.readings ++ [now]).Pairwise (· ≤ ·) := by
          rw [hreadings]
          exact hsorted
        exact getLastD_le_of_sorted hnow
      refine ⟨(SlowTrace.step_eq_some hs₀ hmono hstep).1, ?_⟩
      rw [SlowTrace.step, Option.map_eq_some_iff] at hstep
      obtain ⟨t', ht', rfl⟩ := hstep
      obtain ⟨-, -, -, -, hlist, -⟩ := step_timerRead ht'
      exact hlist.trans (by rw [hreadings])

/-- The readings are loss-free, but for the last `k` of them. -/
def LossFreeBut (k rate : ℕ) (readings : List ℕ) : Prop :=
  ∀ n, n + k ≤ readings.length → LossFree rate (elapsed (readings.take n))

/-- Of an initial part so many fewer need not be loss-free. -/
theorem LossFreeBut.initial {k k' rate : ℕ} {pre suf : List ℕ}
    (h : LossFreeBut k' rate (pre ++ suf)) (hk : k' ≤ k + suf.length) : LossFreeBut k rate pre := by
  intro n hn
  have hfree := h n (by rw [List.length_append]; omega)
  rwa [List.take_append_of_le_length (by omega)] at hfree

/-- **The sum.**  Each of the reads that need not be loss-free rounds away less than a
millisecond, and the others nothing. -/
theorem SlowTrace.lost_le {t : ClockTrace} (ht : t.Fresh) {k : ℕ} {readings : List ℕ}
    (hsorted : readings.Pairwise (· ≤ ·)) (hfree : LossFreeBut k t.clock.adjustRate readings)
    {s : SlowTrace} (hrun : runFrom SlowTrace.step (SlowTrace.start t) readings = some s) :
    s.lost ≤ k * clockNominal := by
  induction readings using List.reverseRecOn generalizing k s with
  | nil =>
      obtain rfl := Option.some.inj hrun
      exact Nat.zero_le _
  | append_singleton readings now ih =>
      obtain ⟨s₀, hrun₀, hstep⟩ := (runFrom_concat_eq_some SlowTrace.step).mp hrun
      have hsorted₀ := (List.pairwise_append.mp hsorted).1
      obtain ⟨hs₀, hreadings⟩ := SlowTrace.accounted_of_run ht hsorted₀ hrun₀
      have hmono : s₀.trace.Nondecreasing (.timerRead now) := by
        have hnow : (s₀.trace.readings ++ [now]).Pairwise (· ≤ ·) := by
          rw [hreadings]
          exact hsorted
        exact getLastD_le_of_sorted hnow
      obtain ⟨-, -, hlost, -⟩ := SlowTrace.step_eq_some hs₀ hmono hstep
      cases k with
      | zero =>
          have hnone : s₀.lost = 0 := by
            have hfree₀ : LossFreeBut 0 t.clock.adjustRate readings := hfree.initial (Nat.zero_le _)
            have hle := ih hsorted₀ hfree₀ hrun₀
            omega
          have hlimits := ht.steady.rate
          have haway : roundedAway t.clock.adjustRate (s₀.trace.pendingAt now) = 0 := by
            rw [roundedAway_eq_zero_iff (lt_of_lt_of_le (by decide) hlimits.1)
              (hlimits.2.trans (by decide)), hs₀.lossFree_iff hmono hstep hnone, hreadings]
            have hall := hfree (readings ++ [now]).length le_rfl
            rwa [List.take_length] at hall
          rw [hlost, hnone, haway, Nat.zero_mul]
      | succ k =>
          have hle := ih hsorted₀ (hfree.initial le_rfl) hrun₀
          have haway := roundedAway_lt t.clock.adjustRate (s₀.trace.pendingAt now)
          rw [hlost, Nat.succ_mul]
          omega

/-- A run that is loss-free but for the last three reads is as slow as requested. -/
theorem along_slowedDown_of_lossFree {t : ClockTrace} (ht : t.Fresh) {readings : List ℕ}
    (hslow : clockNominal ≤ t.clock.adjustRate) (hsorted : readings.Pairwise (· ≤ ·))
    (hfree : LossFreeBut 3 t.clock.adjustRate readings) :
    Along step SlowedDown t (readings.map .timerRead) := by
  rw [along_slowedDown_iff ht hsorted]
  apply guarded_of_initial
  rintro pre now suf s rfl hrun
  have hsorted₀ := (List.pairwise_append.mp hsorted).1
  -- before each read at most two were not loss-free
  have hfree₀ : LossFreeBut 2 t.clock.adjustRate pre := by
    apply hfree.initial
    rw [List.length_cons]
    omega
  have hlost := SlowTrace.lost_le ht hsorted₀ hfree₀ hrun
  have hrate := (SlowTrace.accounted_of_run ht hsorted₀ hrun).1.rate_eq
  apply SlowTrace.roundsWithin_of_le
  rw [hrate]
  exact hlost.trans (Nat.mul_le_mul_left 2 hslow)

/-! ## Reading every millisecond -/

/-- A read in terms of what its first half reports and its second half credits. -/
theorem ClockState.timerRead_of_amounts {c c' : ClockState} {now credit used : ℕ}
    (hreport : c.reportTime now = some c') (hmoderate : c'.Moderate)
    (hcredit : c'.credit = credit) (hused : c'.used = used) (hfits : c'.tpmTime + credit < 2 ^ 64) :
    c.timerRead now = some (c'.tpmTime + credit,
      { c' with tpmTime := c'.tpmTime + credit, lastRealTime := c'.lastRealTime + used }) := by
  subst hcredit hused
  rw [ClockState.timerRead, hreport, Option.bind_some, ClockState.creditTime_eq hmoderate,
    if_pos hfits]

/-- The state in which a clock that is read every millisecond stays: one millisecond is
pending. -/
structure Climbing (c : ClockState) (now : ℕ) : Prop where
  now_pos : 0 < now
  slow : clockNominal < c.adjustRate
  high : c.adjustRate ≤ clockAdjustLimitHigh
  system_eq : c.lastSystemTime = now
  reported_le : c.lastReportedTime ≤ now
  reported_eq : c.lastReportedTime = c.lastRealTime + 1

/-- One millisecond later a read adds a whole millisecond, whatever the rate. -/
theorem timerRead_of_climbing {c : ClockState} {now : ℕ} (h : Climbing c now)
    (hnow : now + 1 < 2 ^ 64) (htpm : c.tpmTime + 1 < 2 ^ 64) :
    c.timerRead (now + 1) = some (c.tpmTime + 1, { c with
      lastSystemTime := now + 1
      lastReportedTime := c.lastReportedTime + 1
      lastRealTime := c.lastRealTime + 1
      tpmTime := c.tpmTime + 1 }) := by
  obtain ⟨hpos, hslow, hhigh, hsystem, hreported, hone⟩ := h
  simp only [clockAdjustLimitHigh, clockNominal, clockAdjustLimit] at hslow hhigh
  have hreport : c.reportTime (now + 1) = some { c with
      lastReportedTime := c.lastReportedTime + 1
      lastSystemTime := now + 1 } := by
    rw [ClockState.reportTime_of_ge (by omega) (by omega) (by omega), hsystem,
      wrappingSubU128_of_le (by omega) (by omega)]
    simp only [Option.some.injEq, ClockState.mk.injEq, true_and, and_true]
    omega
  have hpending : c.lastReportedTime + 1 - c.lastRealTime = 2 := by omega
  -- two milliseconds are pending: one is added, and one taken off
  have hcredit : Rescale.scaled clockNominal c.adjustRate
      (c.lastReportedTime + 1 - c.lastRealTime) = 1 := by
    rw [hpending, Rescale.scaled, clockNominal]
    exact Nat.div_eq_of_lt_le (by omega) (by omega)
  have hused : Rescale.credited clockNominal c.adjustRate
      (c.lastReportedTime + 1 - c.lastRealTime) = 1 := by
    rw [Rescale.credited, hcredit, clockNominal, Nat.one_mul]
    exact Nat.div_eq_of_lt_le (by omega) (by omega)
  refine ClockState.timerRead_of_amounts hreport ⟨?_, ?_, ?_, ?_, ?_⟩ hcredit hused htpm
  · show 0 < c.adjustRate
    omega
  · show c.adjustRate ≤ 2 ^ 20
    omega
  · show c.lastReportedTime + 1 < 2 ^ 100
    omega
  · show c.lastRealTime < 2 ^ 100
    omega
  · show c.tpmTime < 2 ^ 100
    omega

/-- **Full speed.**  Read every millisecond, `k` reads add `k` milliseconds. -/
theorem runFrom_climb (k : ℕ) {t : ClockTrace} {now : ℕ} (h : Climbing t.clock now)
    (hlast : t.returned.getLast? = some t.clock.tpmTime) (hnow : now + k < 2 ^ 64)
    (htpm : t.clock.tpmTime + k < 2 ^ 64) :
    ∃ t', runFrom step t ((List.range' (now + 1) k).map .timerRead) = some t' ∧
      t'.clock = { t.clock with
        lastSystemTime := now + k
        lastReportedTime := t.clock.lastReportedTime + k
        lastRealTime := t.clock.lastRealTime + k
        tpmTime := t.clock.tpmTime + k } ∧
      t'.returned.getLast? = some (t.clock.tpmTime + k) := by
  induction k generalizing t now with
  | zero =>
      refine ⟨t, rfl, ?_, hlast⟩
      rw [Nat.add_zero, ← h.system_eq]
      rfl
  | succ k ih =>
      have hread := timerRead_of_climbing h (by omega) (by omega)
      obtain ⟨t₁, hstep, hclock₁, hlast₁⟩ : ∃ t₁, t.step (.timerRead (now + 1)) = some t₁ ∧
          t₁.clock = { t.clock with
            lastSystemTime := now + 1
            lastReportedTime := t.clock.lastReportedTime + 1
            lastRealTime := t.clock.lastRealTime + 1
            tpmTime := t.clock.tpmTime + 1 } ∧
          t₁.returned.getLast? = some t₁.clock.tpmTime := by
        rw [step, hread, Option.map_some]
        exact ⟨_, rfl, rfl, List.getLast?_concat⟩
      have hreported := h.reported_le
      have hone := h.reported_eq
      have hclimbing : Climbing t₁.clock (now + 1) := by
        rw [hclock₁]
        exact ⟨Nat.succ_pos _, h.slow, h.high, rfl, Nat.succ_le_succ hreported,
          congrArg (· + 1) hone⟩
      have htpm₁ : t₁.clock.tpmTime + k < 2 ^ 64 := by
        rw [hclock₁]
        show t.clock.tpmTime + 1 + k < 2 ^ 64
        omega
      obtain ⟨t', hrun, hclock, hlast'⟩ := ih hclimbing hlast₁ (by omega) htpm₁
      refine ⟨t', ?_, ?_, ?_⟩
      · rw [List.range'_succ, List.map_cons, runFrom_cons, hstep, Option.bind_some]
        exact hrun
      · rw [hclock, hclock₁]
        simp only [ClockState.mk.injEq, true_and]
        omega
      · rw [hlast', hclock₁]
        show some (t.clock.tpmTime + 1 + k) = _
        rw [Nat.add_assoc, Nat.add_comm 1 k]

/-- The first reading starts the count. -/
theorem timerRead_one {c : ClockState} (hlow : 0 < c.adjustRate) (hhigh : c.adjustRate ≤ 2 ^ 20)
    (hsystem : c.lastSystemTime = 0) (htpm : c.tpmTime = 0) :
    c.timerRead 1 = some (c.tpmTime,
      { c with lastSystemTime := 1, lastReportedTime := 0, lastRealTime := 0 }) := by
  refine ClockState.timerRead_of_amounts (ClockState.reportTime_of_unset hsystem (by decide))
    ⟨hlow, hhigh, Nat.two_pow_pos 100, Nat.two_pow_pos 100, ?_⟩ (ClockState.credit_of_le le_rfl)
    (ClockState.used_of_le le_rfl) ?_
  · show c.tpmTime < 2 ^ 100
    omega
  · show c.tpmTime + 0 < 2 ^ 64
    omega

/-- A millisecond later a slow clock has nothing to add, and one millisecond pending. -/
theorem timerRead_two {c : ClockState} (hslow : clockNominal < c.adjustRate)
    (hhigh : c.adjustRate ≤ 2 ^ 20) (hsystem : c.lastSystemTime = 1)
    (hreported : c.lastReportedTime = 0) (hreal : c.lastRealTime = 0) (htpm : c.tpmTime = 0) :
    c.timerRead 2 = some (c.tpmTime, { c with lastReportedTime := 1, lastSystemTime := 2 }) := by
  have hreport : c.reportTime 2 = some { c with lastReportedTime := 1, lastSystemTime := 2 } := by
    rw [ClockState.reportTime_of_ge (by omega) (by omega) (by omega), hsystem, hreported,
      wrappingSubU128_of_le (by decide) (by decide)]
  have hcredit : Rescale.scaled clockNominal c.adjustRate (1 - c.lastRealTime) = 0 := by
    rw [hreal, Rescale.scaled]
    exact Nat.div_eq_of_lt (by rwa [Nat.sub_zero, Nat.one_mul])
  have hused : Rescale.credited clockNominal c.adjustRate (1 - c.lastRealTime) = 0 := by
    rw [Rescale.credited, hcredit, Nat.zero_mul, Nat.zero_div]
  refine ClockState.timerRead_of_amounts hreport
    ⟨lt_of_le_of_lt (Nat.zero_le _) hslow, hhigh, ?_, ?_, ?_⟩ hcredit hused ?_
  · exact Nat.one_lt_two_pow (by decide)
  · show c.lastRealTime < 2 ^ 100
    omega
  · show c.tpmTime < 2 ^ 100
    omega
  · show c.tpmTime + 0 < 2 ^ 64
    omega

/-- Two reads, at 1 and at 2 milliseconds, and a fresh clock climbs. -/
theorem Fresh.exists_climbing {t : ClockTrace} (ht : t.Fresh)
    (hslow : clockNominal < t.clock.adjustRate) :
    ∃ t₁, runFrom step t [.timerRead 1, .timerRead 2] = some t₁ ∧ Climbing t₁.clock 2 ∧
      t₁.returned.getLast? = some t₁.clock.tpmTime ∧ t₁.clock.tpmTime = 0 ∧
      t₁.clock.lastReportedTime = 1 ∧ t₁.clock.adjustRate = t.clock.adjustRate := by
  have hhigh := ht.steady.rate.2
  have hmax : t.clock.adjustRate ≤ 2 ^ 20 := hhigh.trans (by decide)
  have hsystem : t.clock.lastSystemTime = 0 := by
    rw [ht.steady.system_eq, ht.readings_eq]
    rfl
  have hfirst := timerRead_one (lt_of_le_of_lt (Nat.zero_le _) hslow) hmax hsystem ht.tpm_eq
  have hsecond := timerRead_two
    (c := { t.clock with lastSystemTime := 1, lastReportedTime := 0, lastRealTime := 0 })
    hslow hmax rfl rfl rfl ht.tpm_eq
  refine ⟨{
    clock := { t.clock with lastSystemTime := 2, lastReportedTime := 1, lastRealTime := 0 }
    readings := t.readings ++ [1] ++ [2]
    returned := t.returned ++ [t.clock.tpmTime] ++ [t.clock.tpmTime] },
    ?_, ⟨by decide, hslow, hhigh, rfl, ?_, rfl⟩, ?_, ht.tpm_eq, rfl, rfl⟩
  · rw [runFrom_cons, step, hfirst, Option.map_some, Option.bind_some, runFrom_cons, step, hsecond,
      Option.map_some, Option.bind_some, runFrom_nil]
  · exact (by decide : 1 ≤ 2)
  · exact List.getLast?_concat

/-- A fresh clock at a rate above the nominal one outruns the bound when it is read every
millisecond, `3 r` times. -/
theorem Fresh.exists_not_slowedDown {t : ClockTrace} (ht : t.Fresh)
    (hslow : clockNominal < t.clock.adjustRate) :
    ∃ readings : List ℕ, readings.Pairwise (· ≤ ·) ∧
      ¬ Along step SlowedDown t (readings.map .timerRead) := by
  have hhigh := ht.steady.rate.2
  obtain ⟨t₁, hrun₁, hclimbing, hlast₁, htpm₁, hreported₁, hrate₁⟩ := ht.exists_climbing hslow
  have hlow : 30001 ≤ t.clock.adjustRate := hslow
  have hmax : t.clock.adjustRate ≤ 35000 := hhigh
  obtain ⟨t', hrun₂, hclock, hlast⟩ :=
    runFrom_climb (3 * t.clock.adjustRate) hclimbing hlast₁ (by omega) (by omega)
  have hsorted : (List.range' 1 (3 * t.clock.adjustRate + 2)).Pairwise (· ≤ ·) :=
    List.pairwise_le_range'
  have hrun : runFrom step t
      ((List.range' 1 (3 * t.clock.adjustRate + 2)).map .timerRead) = some t' := by
    have hsplit : (List.range' 1 (3 * t.clock.adjustRate + 2)).map ClockOp.timerRead =
        [.timerRead 1, .timerRead 2] ++
          (List.range' 3 (3 * t.clock.adjustRate)).map .timerRead := by
      rw [List.range'_succ, List.range'_succ]
      rfl
    rw [hsplit, runFrom_append, hrun₁]
    exact hrun₂
  refine ⟨List.range' 1 (3 * t.clock.adjustRate + 2), hsorted, fun halong => ?_⟩
  -- the time elapsed is what the clock reports
  have hmono : Guarded step Nondecreasing t
      ((List.range' 1 (3 * t.clock.adjustRate + 2)).map .timerRead) := by
    apply guarded_nondecreasing
    rw [ht.readings_eq]
    exact hsorted
  have hsteady : t'.Steady :=
    (along_of_guarded (fun _ _ _ hs hC h => steady_step hs hC h) ht.steady hmono).final hrun
  have helapsed : elapsed t'.readings = 1 + 3 * t.clock.adjustRate := by
    rw [← hsteady.reported_eq, hclock, ← hreported₁]
  have hslowed := halong.final hrun (t₁.clock.tpmTime + 3 * t.clock.adjustRate) hlast
  have hrate' : t'.clock.adjustRate = t.clock.adjustRate := by
    rw [hclock, ← hrate₁]
  rw [htpm₁, helapsed, hrate', Nat.zero_add, ← Nat.sub_le_iff_le_add,
    Nat.le_div_iff_mul_le (by omega)] at hslowed
  -- but 3 r - 2 milliseconds at the rate r are more than 3 r + 1 at the nominal one
  have hsquare : 30001 * t.clock.adjustRate ≤ t.clock.adjustRate * t.clock.adjustRate :=
    Nat.mul_le_mul_right _ hlow
  rw [Nat.sub_mul, Nat.mul_assoc, clockNominal] at hslowed
  omega

/-- **A requested slow-down.**  Power on and any adjustments that set a rate of 30000 or
more.  After every read of every sequence of readings in order the clock is as slow as
requested, if and only if the rate is the nominal 30000; and at any rate it is so in every
run whose readings, but for the last three, are loss-free. -/
theorem timerRead_slowedDown (adjustments : List ℤ) (t : ClockTrace)
    (hadjusted : runFrom step powerOn (adjustments.map .clockRateAdjust) = some t)
    (hslow : clockNominal ≤ t.clock.adjustRate) :
    ((∀ readings : List ℕ, readings.Pairwise (· ≤ ·) →
        Along step SlowedDown t (readings.map .timerRead)) ↔
      t.clock.adjustRate = clockNominal) ∧
    ∀ readings : List ℕ, readings.Pairwise (· ≤ ·) →
      LossFreeBut 3 t.clock.adjustRate readings →
      Along step SlowedDown t (readings.map .timerRead) := by
  have hfresh := fresh_adjusted fresh_powerOn hadjusted
  refine ⟨⟨fun hall => ?_, fun hrate readings hsorted => ?_⟩, fun readings hsorted hfree => ?_⟩
  · by_contra hrate
    obtain ⟨readings, hsorted, hnot⟩ :=
      hfresh.exists_not_slowedDown (lt_of_le_of_ne hslow (Ne.symm hrate))
    exact hnot (hall readings hsorted)
  · apply along_slowedDown_of_lossFree hfresh hslow hsorted
    intro n _
    rw [hrate]
    exact lossFree_nominal _
  · exact along_slowedDown_of_lossFree hfresh hslow hsorted hfree

/-- One step slower: readings at whole multiples of 101 milliseconds or one more are
loss-free, and three more reads at any times do no harm; read often enough the clock is
not as slow as requested. -/
theorem timerRead_slowedDown_spaced :
    Along step SlowedDown { powerOn with clock := { ClockState.new with adjustRate := 30300 } }
        ([7, 108, 210, 1017, 1020, 1021, 1022].map .timerRead) ∧
      ¬ ∀ readings : List ℕ, readings.Pairwise (· ≤ ·) →
        Along step SlowedDown { powerOn with clock := { ClockState.new with adjustRate := 30300 } }
          (readings.map .timerRead) := by
  obtain ⟨hall, hfree⟩ := timerRead_slowedDown [-3]
    { powerOn with clock := { ClockState.new with adjustRate := 30300 } } (by decide +kernel)
    (by decide)
  refine ⟨hfree _ (by decide) fun n hn => ?_, fun h => ?_⟩
  · have hn' : n < 5 := by
      rw [show [7, 108, 210, 1017, 1020, 1021, 1022].length = 7 from rfl] at hn
      omega
    have hchecked : ∀ n < 5, LossFree 30300
        (elapsed ([7, 108, 210, 1017, 1020, 1021, 1022].take n)) := by decide +kernel
    exact hchecked n hn'
  · exact absurd (hall.mp h) (by decide)

/-- The rate is set to its upper limit of 35000 and the timer is read every millisecond:
after 22 of them the clock shows 21, where 18 and the tolerance of 2 are allowed. -/
theorem timerRead_not_slowedDown :
    ¬ ∀ (adjustments : List ℤ) (t : ClockTrace) (readings : List ℕ),
      runFrom step powerOn (adjustments.map .clockRateAdjust) = some t →
      clockNominal ≤ t.clock.adjustRate → readings.Pairwise (· ≤ ·) →
      Along step SlowedDown t (readings.map .timerRead) := by
  intro h
  have hdense := h (List.replicate 17 (-3))
    { powerOn with clock := { ClockState.new with adjustRate := 35000 } }
    (List.range 24) (by decide +kernel) (by decide) (by decide +kernel)
  revert hdense
  decide +kernel

end ClockTrace

end TpmPlatform
