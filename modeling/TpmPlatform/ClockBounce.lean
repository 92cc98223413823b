/-
# Readings that go back

The host's timer may bounce, and after a restore in another process it may have
another origin.  `timer_read` guards against a reading below the reported time,
not against a reading below the previous one, and it takes a previous reading of
zero for a clock that has not started.

`timerRead_safe` says which readings are handled.  In a run of fewer than `2 ^ 60`
reads with arbitrary readings below `2 ^ 62`, every read is safe exactly when every
reading is one that `ReadingHandled` allows, a condition on the reading and on two
counters of the clock; such a run does not panic and never returns a smaller value.
That the TPM time stays below 64 bits is part of the result: once more than `2 ^ 62`
milliseconds are reported, the guard catches every reading, so the reported time
stays below `2 ^ 63` (`Bounded`), and the TPM time is at most 6/5 of it and what the
reads may have counted twice (`Counted`).
-/
import TpmPlatform.ClockSafety
import Mathlib.Data.List.Induction

namespace TpmPlatform

open Runs

namespace ClockTrace

/-- The readings that the host can show: below `2 ^ 62` milliseconds. -/
def InRange : ClockOp → Prop
  | .timerRead now => now < 2 ^ 62
  | .clockRateAdjust _ => True

instance : DecidablePred InRange := fun op =>
  match op with
  | .timerRead now => Nat.decLt now (2 ^ 62)
  | .clockRateAdjust _ => isTrue trivial

/-- The clock does not start over with time already reported: it takes the previous
reading for unset only where it has reported nothing. -/
def NoRestart (c : ClockState) : Prop := c.lastSystemTime = 0 → c.lastReportedTime = 0

instance : DecidablePred NoRestart := fun c =>
  inferInstanceAs (Decidable (c.lastSystemTime = 0 → c.lastReportedTime = 0))

/-- **The readings that are handled.**  The clock does not start over with time
already reported; and the reading is the first, or is caught by the guard, or is not
behind the previous one. -/
structure ReadingHandled (c : ClockState) (now : ℕ) : Prop where
  no_restart : NoRestart c
  no_gap : c.lastSystemTime = 0 ∨ now < c.lastReportedTime ∨ c.lastSystemTime ≤ now

/-- `P` holds at every read of a run from power-on, of the state that the read meets
and the reading. -/
def AtEveryRead (P : ClockTrace → ℕ → Prop) (ops : List ClockOp) : Prop :=
  ∀ pre now suf t, ops = pre ++ .timerRead now :: suf →
    runFrom step powerOn pre = some t → P t now

theorem AtEveryRead.mono {P Q : ClockTrace → ℕ → Prop} (hPQ : ∀ t now, P t now → Q t now)
    {ops : List ClockOp} (h : AtEveryRead P ops) : AtEveryRead Q ops :=
  fun pre now suf t happ hrun => hPQ t now (h pre now suf t happ hrun)

/-- What holds at every read of a run holds at every read of its initial part. -/
theorem AtEveryRead.initial {P : ClockTrace → ℕ → Prop} {pre suf : List ClockOp}
    (h : AtEveryRead P (pre ++ suf)) : AtEveryRead P pre := by
  rintro pre' now suf' t rfl hrun
  exact h pre' now (suf' ++ suf) t (by simp) hrun

theorem atEveryRead_nil (P : ClockTrace → ℕ → Prop) : AtEveryRead P [] := by
  rintro (_ | ⟨op, pre⟩) now suf t happ
  · cases happ
  · cases happ

/-- One more read. -/
theorem AtEveryRead.concat {P : ClockTrace → ℕ → Prop} {ops : List ClockOp} {now : ℕ}
    (h : AtEveryRead P ops) (hlast : ∀ t, runFrom step powerOn ops = some t → P t now) :
    AtEveryRead P (ops ++ [.timerRead now]) := by
  intro pre now' suf t happ hrun
  rcases List.eq_nil_or_concat' suf with rfl | ⟨suf, op, rfl⟩
  · obtain ⟨rfl, hop⟩ := List.append_inj' happ rfl
    cases hop
    exact hlast t hrun
  · rw [← List.cons_append, ← List.append_assoc] at happ
    exact h pre now' suf t (List.append_inj' happ rfl).1 hrun

/-- The readings of a trace are those that its run took. -/
theorem readings_of_run {ops : List ClockOp} {t : ClockTrace}
    (h : runFrom step powerOn ops = some t) : t.readings = readingsOf ops := by
  induction ops using List.reverseRecOn generalizing t with
  | nil => exact (Option.some.inj h) ▸ rfl
  | append_singleton ops op ih =>
      obtain ⟨t₀, hrun, hstep⟩ := (runFrom_concat_eq_some step).mp h
      have hold := ih hrun
      rw [readingsOf] at hold ⊢
      cases op with
      | timerRead now =>
          obtain ⟨-, -, -, -, hreadings, -⟩ := step_timerRead hstep
          rw [hreadings, hold, List.filterMap_append]
          rfl
      | clockRateAdjust adjustment =>
          obtain ⟨rate, -, -, rfl⟩ := step_clockRateAdjust (sound_of_run hrun).rate hstep
          rw [List.filterMap_append]
          exact hold.trans (List.append_nil _).symm

/-! ## The counters stay small -/

/-- The bounds that hold whatever the readings do. -/
structure Bounded (t : ClockTrace) : Prop extends t.Sound where
  system_lt : t.clock.lastSystemTime < 2 ^ 62
  reported_lt : t.clock.lastReportedTime < 2 ^ 63
  real_lt : t.clock.lastRealTime < 2 ^ 63
  unset : t.clock.lastSystemTime = 0 → t.clock.lastReportedTime = 0 → t.clock.lastRealTime = 0

theorem bounded_powerOn : powerOn.Bounded where
  toSound := sound_powerOn
  system_lt := by decide
  reported_lt := by decide
  real_lt := by decide
  unset := fun _ _ => rfl

/-- The TPM time is at most 6/5 of the time accounted for, up to what the reads may
have counted twice. -/
def Counted (t : ClockTrace) : Prop :=
  5 * t.clock.tpmTime ≤ 6 * t.clock.lastRealTime + 12 * t.readings.length

/-! ## What a reading does -/

/-- A read that does not panic, does not take reported time back or wrap it around,
and does not return less than any read before. -/
def ReadSafe (t : ClockTrace) (now : ℕ) : Prop :=
  ∃ t', t.step (.timerRead now) = some t' ∧
    t.clock.lastReportedTime ≤ t'.clock.lastReportedTime ∧
    t'.clock.lastReportedTime ≤ t.clock.lastReportedTime + now ∧
    ∀ u ∈ t.returned, ∀ v ∈ t'.returned.getLast?, u ≤ v

/-- The four ways in which the first half of `timer_read` can go from a bounded
state: a start, a bounce that the guard catches, a move in either direction, and a
wrap-around that the second half cannot convert. -/
theorem Bounded.report_cases {t : ClockTrace} (hb : t.Bounded) {now : ℕ} (hnow : now < 2 ^ 62) :
    (t.clock.lastSystemTime = 0 ∧ t.clock.reportTime now = some { t.clock with
        lastSystemTime := now, lastReportedTime := 0, lastRealTime := 0 }) ∨
    (t.clock.lastSystemTime ≠ 0 ∧ now < t.clock.lastReportedTime ∧
      t.clock.reportTime now = some { t.clock with lastSystemTime := now }) ∨
    (t.clock.lastSystemTime ≠ 0 ∧ t.clock.lastReportedTime ≤ now ∧
      t.clock.lastSystemTime ≤ t.clock.lastReportedTime + now ∧
      t.clock.reportTime now = some { t.clock with
        lastReportedTime := t.clock.lastReportedTime + now - t.clock.lastSystemTime
        lastSystemTime := now }) ∨
    (t.clock.lastSystemTime ≠ 0 ∧ t.clock.lastReportedTime ≤ now ∧
      t.clock.lastReportedTime + now < t.clock.lastSystemTime ∧
      t.clock.timerRead now = none) := by
  have hreal := hb.real_lt
  have hrep := hb.reported_lt
  have hsystem := hb.system_lt
  have hsum : t.clock.lastReportedTime + now < 2 ^ 128 := by omega
  by_cases hset : t.clock.lastSystemTime = 0
  · exact Or.inl ⟨hset, ClockState.reportTime_of_unset hset (by omega)⟩
  · by_cases hguard : now < t.clock.lastReportedTime
    · exact Or.inr (Or.inl ⟨hset, hguard, ClockState.reportTime_of_bounce hset hguard hsum⟩)
    · have hreport := ClockState.reportTime_of_ge hset (by omega) hsum
      by_cases hwrap : t.clock.lastSystemTime ≤ t.clock.lastReportedTime + now
      · rw [wrappingSubU128_of_le hwrap hsum] at hreport
        exact Or.inr (Or.inr (Or.inl ⟨hset, by omega, hwrap, hreport⟩))
      · rw [wrappingSubU128_of_lt (by omega) (by omega)] at hreport
        refine Or.inr (Or.inr (Or.inr ⟨hset, by omega, by omega, ?_⟩))
        rw [ClockState.timerRead, hreport, Option.bind_some]
        apply ClockState.creditTime_of_huge
        show 2 ^ 127 ≤ 2 ^ 128 - _ - t.clock.lastRealTime
        omega

/-- What the first half of a read that returns leaves: the new reading, a reported time
in bounds, and the accounted time as it was, unless the clock starts. -/
structure Reported (t : ClockTrace) (now : ℕ) (c : ClockState) : Prop where
  system_eq : c.lastSystemTime = now
  reported_lt : c.lastReportedTime < 2 ^ 63
  real_eq : c.lastRealTime = t.clock.lastRealTime ∨
    (t.clock.lastSystemTime = 0 ∧ c.lastRealTime = 0 ∧ c.lastReportedTime = 0)
  unset : now = 0 → c.lastReportedTime = 0 → c.lastRealTime = 0

theorem Bounded.reported {t : ClockTrace} (hb : t.Bounded) {now : ℕ} {c : ClockState}
    (hnow : now < 2 ^ 62) (hreport : t.clock.reportTime now = some c)
    (hread : t.clock.timerRead now ≠ none) : t.Reported now c := by
  have hrep := hb.reported_lt
  have hsystem := hb.system_lt
  rcases hb.report_cases hnow with ⟨hset, hr⟩ | ⟨hset, hlt, hr⟩ | ⟨hset, hge, hle, hr⟩ |
    ⟨-, -, -, hr⟩
  · obtain rfl := Option.some.inj (hreport.symm.trans hr)
    exact ⟨rfl, Nat.two_pow_pos 63, Or.inr ⟨hset, rfl, rfl⟩, fun _ _ => rfl⟩
  · obtain rfl := Option.some.inj (hreport.symm.trans hr)
    refine ⟨rfl, hrep, Or.inl rfl, fun _ hzero => ?_⟩
    -- the guard only catches a reading below some reported time
    have hzero' : t.clock.lastReportedTime = 0 := hzero
    omega
  · obtain rfl := Option.some.inj (hreport.symm.trans hr)
    refine ⟨rfl, ?_, Or.inl rfl, fun hnow _ => ?_⟩
    · show t.clock.lastReportedTime + now - t.clock.lastSystemTime < 2 ^ 63
      omega
    · -- a move to zero would be one back beyond what is reported
      omega
  · exact absurd hr hread

/-- **Step.**  The bounds survive any reading in range and any adjustment. -/
theorem bounded_step {t t' : ClockTrace} {op : ClockOp} (hb : t.Bounded) (hop : InRange op)
    (h : t.step op = some t') : t'.Bounded := by
  have hsound : t'.Sound := sound_step hb.toSound h
  cases op with
  | timerRead now =>
      have hread : t.clock.timerRead now ≠ none := by
        intro hnone
        rw [step, hnone] at h
        cases h
      obtain ⟨c, hreport, hclock, -, -, -⟩ := step_timerRead h
      obtain ⟨hsystem, hrep, hreal, hunset⟩ := hb.reported hop hreport hread
      have hused : c.used ≤ c.pending := c.used_le_pending
      have hold := hb.real_lt
      refine ⟨hsound, ?_, ?_, ?_, ?_⟩
      · rw [hclock]
        show c.lastSystemTime < 2 ^ 62
        rw [hsystem]
        exact hop
      · rw [hclock]
        exact hrep
      · rw [hclock]
        show c.lastRealTime + c.used < 2 ^ 63
        rw [ClockState.pending] at hused
        rcases hreal with hreal | ⟨-, hreal, -⟩
        · omega
        · omega
      · rw [hclock]
        intro hzero hnone
        have hnone' : c.lastReportedTime = 0 := hnone
        have hstart : c.lastRealTime = 0 := hunset (hsystem.symm.trans hzero) hnone'
        show c.lastRealTime + c.used = 0
        rw [hstart, ClockState.used_of_le (by omega)]
  | clockRateAdjust adjustment =>
      obtain ⟨rate, -, -, rfl⟩ := step_clockRateAdjust hb.rate h
      exact ⟨hsound, hb.system_lt, hb.reported_lt, hb.real_lt, hb.unset⟩

/-- **Step.**  A read that does not start the clock over keeps the count. -/
theorem counted_step {t t' : ClockTrace} {op : ClockOp} (hb : t.Bounded) (hc : t.Counted)
    (hop : InRange op) (hfresh : NoRestart t.clock) (h : t.step op = some t') : t'.Counted := by
  have hold : 5 * t.clock.tpmTime ≤ 6 * t.clock.lastRealTime + 12 * t.readings.length := hc
  cases op with
  | timerRead now =>
      have hread : t.clock.timerRead now ≠ none := by
        intro hnone
        rw [step, hnone] at h
        cases h
      obtain ⟨c, hreport, hclock, -, hreadings, -⟩ := step_timerRead h
      obtain ⟨hrate, htpm⟩ := reportTime_frame hreport
      have hlimits : c.RateInLimits := by
        rw [ClockState.RateInLimits, hrate]
        exact hb.rate
      have hup : 5 * c.credit ≤ 6 * c.pending := ClockState.credit_le_pending hlimits
      have hleft : c.pending ≤ c.used + 2 := ClockState.pending_le_used hlimits
      have hreal : c.lastRealTime = t.clock.lastRealTime := by
        rcases (hb.reported hop hreport hread).real_eq with hreal | ⟨hset, hreal, -⟩
        · exact hreal
        · rw [hreal, hb.unset hset (hfresh hset)]
      rw [Counted, hclock, hreadings, List.length_append, List.length_singleton]
      show 5 * (c.tpmTime + c.credit) ≤ 6 * (c.lastRealTime + c.used) + _
      omega
  | clockRateAdjust adjustment =>
      obtain ⟨rate, -, -, rfl⟩ := step_clockRateAdjust hb.rate h
      exact hold

/-- Every run with readings in range is bounded; and it is counted if it never starts
the clock over. -/
theorem bounded_of_run {ops : List ClockOp} {t : ClockTrace} (hops : ∀ op ∈ ops, InRange op)
    (h : runFrom step powerOn ops = some t) :
    t.Bounded ∧ (AtEveryRead (fun t _ => NoRestart t.clock) ops → t.Counted) := by
  induction ops using List.reverseRecOn generalizing t with
  | nil => exact (Option.some.inj h) ▸ ⟨bounded_powerOn, fun _ => le_rfl⟩
  | append_singleton ops op ih =>
      obtain ⟨t₀, hrun, hstep⟩ := (runFrom_concat_eq_some step).mp h
      have hop : InRange op := hops op (List.mem_append_right _ List.mem_cons_self)
      obtain ⟨hb, hc⟩ := ih (fun o ho => hops o (List.mem_append_left _ ho)) hrun
      refine ⟨bounded_step hb hop hstep, fun hfresh => ?_⟩
      have hcounted : t₀.Counted := hc hfresh.initial
      cases op with
      | timerRead now =>
          exact counted_step hb hcounted hop (hfresh ops now [] t₀ rfl hrun) hstep
      | clockRateAdjust adjustment =>
          obtain ⟨rate, -, -, rfl⟩ := step_clockRateAdjust hb.rate hstep
          exact hcounted

/-! ## When a read is safe -/

/-- A read whose first half succeeds, in terms of that half. -/
theorem Bounded.step_eq {t : ClockTrace} {c : ClockState} {now : ℕ} (hb : t.Bounded)
    (hreport : t.clock.reportTime now = some c) (hrep : c.lastReportedTime < 2 ^ 100)
    (hreal : c.lastRealTime < 2 ^ 100) :
    t.step (.timerRead now) =
      if c.tpmTime + c.credit < 2 ^ 64 then
        some { clock := { c with
                  tpmTime := c.tpmTime + c.credit
                  lastRealTime := c.lastRealTime + c.used }
               readings := t.readings ++ [now]
               returned := t.returned ++ [c.tpmTime + c.credit] }
      else none := by
  obtain ⟨hrate, htpm⟩ := reportTime_frame hreport
  obtain ⟨hlow, hhigh⟩ := hb.rate
  have hmoderate : c.Moderate := by
    have htpmlt := hb.tpm_lt
    simp only [clockAdjustLimitLow, clockAdjustLimitHigh, clockNominal, clockAdjustLimit]
      at hlow hhigh
    constructor <;> omega
  rw [step, ClockState.timerRead, hreport, Option.bind_some, ClockState.creditTime_eq hmoderate]
  split_ifs with h
  · rfl
  · rfl

/-- What a read returns is at least what any read before returned. -/
theorem Bounded.returned_le_credit {t : ClockTrace} {c : ClockState} {now : ℕ} (hb : t.Bounded)
    (hreport : t.clock.reportTime now = some c) :
    ∀ u ∈ t.returned, ∀ v ∈ (t.returned ++ [c.tpmTime + c.credit]).getLast?, u ≤ v := by
  intro u hu v hv
  rw [List.getLast?_concat, Option.mem_some_iff] at hv
  have hle := hb.returned_le u hu
  have htpm := (reportTime_frame hreport).2
  omega

/-- When the first half reports `c`, the read is safe exactly when `c` has not lost
reported time, has not gained more than the reading, and its TPM time fits. -/
theorem Bounded.readSafe_iff {t : ClockTrace} {c : ClockState} {now : ℕ} (hb : t.Bounded)
    (hreport : t.clock.reportTime now = some c) (hrep : c.lastReportedTime < 2 ^ 100)
    (hreal : c.lastRealTime < 2 ^ 100) :
    t.ReadSafe now ↔ c.tpmTime + c.credit < 2 ^ 64 ∧
      t.clock.lastReportedTime ≤ c.lastReportedTime ∧
      c.lastReportedTime ≤ t.clock.lastReportedTime + now := by
  unfold ReadSafe
  rw [hb.step_eq hreport hrep hreal]
  by_cases hfit : c.tpmTime + c.credit < 2 ^ 64
  · rw [if_pos hfit]
    constructor
    · rintro ⟨t', ht', hge, hle, -⟩
      rw [Option.some.injEq] at ht'
      subst ht'
      exact ⟨hfit, hge, hle⟩
    · rintro ⟨-, hge, hle⟩
      exact ⟨_, rfl, hge, hle, hb.returned_le_credit hreport⟩
  · rw [if_neg hfit]
    constructor
    · rintro ⟨t', ht', -⟩
      cases ht'
    · rintro ⟨hc, -⟩
      exact absurd hc hfit

/-- **A read that is safe is handled**, whatever the readings were before it. -/
theorem Bounded.handled_of_safe {t : ClockTrace} (hb : t.Bounded) {now : ℕ}
    (hnow : now < 2 ^ 62) (hsafe : t.ReadSafe now) : ReadingHandled t.clock now := by
  have hreal := hb.real_lt
  have hrep := hb.reported_lt
  have hsystem := hb.system_lt
  rcases hb.report_cases hnow with ⟨hset, hr⟩ | ⟨hset, hlt, hr⟩ | ⟨hset, hge, hle, hr⟩ |
    ⟨-, -, -, hr⟩
  · -- a start forgets what was reported
    obtain ⟨-, hforget, -⟩ :=
      (hb.readSafe_iff hr (Nat.two_pow_pos 100) (Nat.two_pow_pos 100)).mp hsafe
    exact ⟨fun _ => Nat.le_zero.mp hforget, Or.inl hset⟩
  · exact ⟨fun h => absurd h hset, Or.inr (Or.inl hlt)⟩
  · -- a move back takes reported time back
    obtain ⟨-, hforward, -⟩ := (hb.readSafe_iff hr
      (by show t.clock.lastReportedTime + now - t.clock.lastSystemTime < 2 ^ 100; omega)
      (by show t.clock.lastRealTime < 2 ^ 100; omega)).mp hsafe
    have hmove : t.clock.lastReportedTime ≤
        t.clock.lastReportedTime + now - t.clock.lastSystemTime := hforward
    exact ⟨fun h => absurd h hset, Or.inr (Or.inr (by omega))⟩
  · -- a wrap-around panics
    obtain ⟨t', ht', -⟩ := hsafe
    rw [step, hr] at ht'
    cases ht'

/-- The TPM time of a counted clock fits 64 bits, whatever the next reading is. -/
theorem Counted.fits {t : ClockTrace} (hc : t.Counted) (hb : t.Bounded) {now : ℕ}
    {c : ClockState} (hcount : t.readings.length < 2 ^ 60)
    (hreport : t.clock.reportTime now = some c) (hspec : t.Reported now c) :
    c.tpmTime + c.credit < 2 ^ 64 := by
  have hold : 5 * t.clock.tpmTime ≤ 6 * t.clock.lastRealTime + 12 * t.readings.length := hc
  obtain ⟨hrate, htpm⟩ := reportTime_frame hreport
  have hlimits : c.RateInLimits := by
    rw [ClockState.RateInLimits, hrate]
    exact hb.rate
  have hup : 5 * c.credit ≤ 6 * c.pending := ClockState.credit_le_pending hlimits
  have hpending : c.pending = c.lastReportedTime - c.lastRealTime := rfl
  have hrep := hspec.reported_lt
  have hreal := hb.real_lt
  have hfits := hb.tpm_lt
  rcases hspec.real_eq with hsame | ⟨-, hstart, hnone⟩
  · omega
  · omega

/-- **A handled read is safe**, as long as the clock has not started over and fewer than
`2 ^ 60` reads were made. -/
theorem Counted.safe_of_handled {t : ClockTrace} (hc : t.Counted) (hb : t.Bounded) {now : ℕ}
    (hcount : t.readings.length < 2 ^ 60) (hnow : now < 2 ^ 62)
    (h : ReadingHandled t.clock now) : t.ReadSafe now := by
  have hreal := hb.real_lt
  have hrep := hb.reported_lt
  have hsystem := hb.system_lt
  rcases hb.report_cases hnow with ⟨hset, hr⟩ | ⟨hset, hlt, hr⟩ | ⟨hset, hge, hle, hr⟩ |
    ⟨hset, hge, hlt, hr⟩
  · -- a start: nothing was reported, and nothing is
    have hfits := hc.fits hb hcount hr ⟨rfl, Nat.two_pow_pos 63, Or.inr ⟨hset, rfl, rfl⟩,
      fun _ _ => rfl⟩
    refine (hb.readSafe_iff hr (Nat.two_pow_pos 100) (Nat.two_pow_pos 100)).mpr ⟨hfits, ?_, ?_⟩
    · rw [h.no_restart hset]
    · exact Nat.zero_le _
  · -- a bounce that the guard catches: the reported time stays
    have hfits := hc.fits hb hcount hr ⟨rfl, hrep, Or.inl rfl, fun _ hzero => by
      have hzero' : t.clock.lastReportedTime = 0 := hzero
      omega⟩
    exact (hb.readSafe_iff hr (by show t.clock.lastReportedTime < 2 ^ 100; omega)
      (by show t.clock.lastRealTime < 2 ^ 100; omega)).mpr ⟨hfits, le_rfl, Nat.le_add_right _ _⟩
  · -- a move, which is not a move back
    have hahead : t.clock.lastSystemTime ≤ now := by
      rcases h.no_gap with hgap | hgap | hgap
      · exact absurd hgap hset
      · omega
      · exact hgap
    have hbound : t.clock.lastReportedTime + now - t.clock.lastSystemTime < 2 ^ 63 := by omega
    have hfits := hc.fits hb hcount hr ⟨rfl, hbound, Or.inl rfl, fun hzero _ => by omega⟩
    refine (hb.readSafe_iff hr
      (by show t.clock.lastReportedTime + now - t.clock.lastSystemTime < 2 ^ 100; omega)
      (by show t.clock.lastRealTime < 2 ^ 100; omega)).mpr ⟨hfits, ?_, Nat.sub_le _ _⟩
    show t.clock.lastReportedTime ≤ t.clock.lastReportedTime + now - t.clock.lastSystemTime
    omega
  · -- a wrap-around is in the gap that the guard leaves
    rcases h.no_gap with hgap | hgap | hgap
    · exact absurd hgap hset
    · omega
    · omega

/-! ## Whole runs -/

/-- Every read of the run is safe. -/
def AllSafe (ops : List ClockOp) : Prop := AtEveryRead ReadSafe ops

/-- Every reading of the run is one that the code handles. -/
def AllHandled (ops : List ClockOp) : Prop :=
  AtEveryRead (fun t now => ReadingHandled t.clock now) ops

/-- The state of a run that never starts the clock over handles what it allows. -/
theorem safe_of_run {ops : List ClockOp} {t : ClockTrace} {now : ℕ}
    (hops : ∀ op ∈ ops, InRange op) (hcount : (readingsOf ops).length < 2 ^ 60)
    (hfresh : AtEveryRead (fun t _ => NoRestart t.clock) ops)
    (hrun : runFrom step powerOn ops = some t) (hnow : now < 2 ^ 62)
    (h : ReadingHandled t.clock now) : t.ReadSafe now := by
  obtain ⟨hb, hc⟩ := bounded_of_run hops hrun
  exact (hc hfresh).safe_of_handled hb (by rwa [readings_of_run hrun]) hnow h

/-- **A run is safe exactly when its readings are handled.** -/
theorem allSafe_iff {ops : List ClockOp} (hops : ∀ op ∈ ops, InRange op)
    (hcount : (readingsOf ops).length < 2 ^ 60) : AllSafe ops ↔ AllHandled ops := by
  constructor
  · rintro h pre now suf t rfl hrun
    have hpre : ∀ op ∈ pre, InRange op := fun o ho => hops o (List.mem_append_left _ ho)
    have hnow : InRange (.timerRead now) := hops _ (List.mem_append_right _ List.mem_cons_self)
    exact (bounded_of_run hpre hrun).1.handled_of_safe hnow (h pre now suf t rfl hrun)
  · rintro h pre now suf t rfl hrun
    have hpre : ∀ op ∈ pre, InRange op := fun o ho => hops o (List.mem_append_left _ ho)
    have hnow : InRange (.timerRead now) := hops _ (List.mem_append_right _ List.mem_cons_self)
    have hcount' : (readingsOf pre).length < 2 ^ 60 := by
      rw [readingsOf, List.filterMap_append, List.length_append] at hcount
      rw [readingsOf]
      omega
    have hfresh : AtEveryRead (fun t _ => NoRestart t.clock) pre :=
      (AtEveryRead.initial h).mono fun _ _ hread => hread.no_restart
    exact safe_of_run hpre hcount' hfresh hrun hnow (h pre now suf t rfl hrun)

/-- A run whose reads are all safe goes through and never returns less than before. -/
theorem returned_sorted_of_safe (ops : List ClockOp) (hsafe : AllSafe ops) :
    ∃ t, runFrom step powerOn ops = some t ∧ t.returned.Pairwise (· ≤ ·) := by
  induction ops using List.reverseRecOn with
  | nil => exact ⟨powerOn, rfl, List.Pairwise.nil⟩
  | append_singleton ops op ih =>
      obtain ⟨t, hrun, hsorted⟩ := ih (AtEveryRead.initial hsafe)
      cases op with
      | timerRead now =>
          obtain ⟨t', hstep, -, -, hreturned⟩ := hsafe ops now [] t rfl hrun
          refine ⟨t', (runFrom_concat_eq_some step).mpr ⟨t, hrun, hstep⟩, ?_⟩
          obtain ⟨c, -, -, -, -, hlist⟩ := step_timerRead hstep
          rw [hlist] at hreturned ⊢
          rw [List.pairwise_append]
          refine ⟨hsorted, List.pairwise_singleton _ _, ?_⟩
          intro u hu v hv
          rw [List.mem_singleton] at hv
          subst hv
          exact hreturned u hu _ (by simp)
      | clockRateAdjust adjustment =>
          obtain ⟨rate, hadjust, -, -⟩ :=
            ClockState.clockRateAdjust_spec (sound_of_run hrun).rate adjustment
          have hstep : t.step (.clockRateAdjust adjustment) =
              some { t with clock := { t.clock with adjustRate := rate } } := by
            rw [step, hadjust, Option.map_some]
          exact ⟨_, (runFrom_concat_eq_some step).mpr ⟨t, hrun, hstep⟩, hsorted⟩

/-- **When the timer is safe to read.**  In every run of fewer than `2 ^ 60` reads with
arbitrary readings below `2 ^ 62`: every read is safe exactly when every reading is one
that the code handles, and then the run does not panic and never returns less than
before.  And for every next reading: in every state reached it is safe only if it is
handled, and where the clock has not started over it is safe if it is handled. -/
theorem timerRead_safe (ops : List ClockOp) (hops : ∀ op ∈ ops, InRange op)
    (hcount : (readingsOf ops).length < 2 ^ 60) :
    (AllSafe ops ↔ AllHandled ops) ∧
    (AllHandled ops →
      ∃ t, runFrom step powerOn ops = some t ∧ t.returned.Pairwise (· ≤ ·)) ∧
    ∀ (t : ClockTrace) (now : ℕ), runFrom step powerOn ops = some t → now < 2 ^ 62 →
      (t.ReadSafe now → ReadingHandled t.clock now) ∧
      (AtEveryRead (fun t _ => NoRestart t.clock) ops → ReadingHandled t.clock now →
        t.ReadSafe now) := by
  refine ⟨allSafe_iff hops hcount, fun h => ?_, fun t now hrun hnow => ⟨?_, fun hfresh h => ?_⟩⟩
  · exact returned_sorted_of_safe ops ((allSafe_iff hops hcount).mpr h)
  · exact (bounded_of_run hops hrun).1.handled_of_safe hnow
  · exact safe_of_run hops hcount hfresh hrun hnow h

/-- The timer shows 1000 and 3000 and then bounces back.  At 1500, below the 2000
milliseconds reported, the guard catches it; at 2500, above them, the read is not safe. -/
theorem timerRead_safe_bounce :
    AllSafe [.timerRead 1000, .timerRead 3000] ∧
      ∃ t, runFrom step powerOn [.timerRead 1000, .timerRead 3000] = some t ∧
        t.returned.Pairwise (· ≤ ·) ∧ t.ReadSafe 1500 ∧ ¬ t.ReadSafe 2500 := by
  have hfirst : runFrom step powerOn [.timerRead 1000] = some {
      clock := { ClockState.new with lastSystemTime := 1000 }
      readings := [1000]
      returned := [0] } := by decide
  have hsecond : runFrom step powerOn [.timerRead 1000, .timerRead 3000] = some {
      clock := { ClockState.new with
        lastSystemTime := 3000
        lastReportedTime := 2000
        lastRealTime := 2000
        tpmTime := 2000 }
      readings := [1000, 3000]
      returned := [0, 2000] } := by decide
  have hhandled : AllHandled [.timerRead 1000, .timerRead 3000] := by
    have hone : AllHandled ([] ++ [.timerRead 1000]) := by
      refine (atEveryRead_nil _).concat fun t hrun => ?_
      obtain rfl := Option.some.inj hrun
      exact ⟨by decide, Or.inl rfl⟩
    refine hone.concat fun t hrun => ?_
    obtain rfl := Option.some.inj (hrun.symm.trans hfirst)
    exact ⟨by decide, Or.inr (Or.inr (by decide))⟩
  obtain ⟨hsafe, hgoes, hnext⟩ :=
    timerRead_safe [.timerRead 1000, .timerRead 3000] (by decide) (by decide)
  obtain ⟨t, hrun, hsorted⟩ := hgoes hhandled
  obtain ⟨-, hguarded⟩ := hnext t 1500 hrun (by decide)
  obtain ⟨hgap, -⟩ := hnext t 2500 hrun (by decide)
  obtain rfl := Option.some.inj (hrun.symm.trans hsecond)
  refine ⟨hsafe.mpr hhandled, _, hsecond, hsorted, ?_, fun h => ?_⟩
  · refine hguarded (hhandled.mono fun _ _ h => h.no_restart) ⟨by decide, Or.inr (Or.inl ?_)⟩
    exact (by decide : 1500 < 2000)
  · -- 2500 is neither below the 2000 reported nor at or above the previous 3000
    have hno : ¬ ((3000 : ℕ) = 0 ∨ 2500 < 2000 ∨ 3000 ≤ 2500) := by decide
    exact hno (hgap h).no_gap

/-- A host timer that drops from 1000 to 500 milliseconds makes the next read panic. -/
theorem timerRead_not_safe :
    ¬ ∀ (ops : List ClockOp) (t : ClockTrace) (now : ℕ), (∀ op ∈ ops, InRange op) →
      ops.length < 2 ^ 60 → runFrom step powerOn ops = some t → now < 2 ^ 62 →
      t.ReadSafe now := by
  intro h
  cases hrun : runFrom step powerOn [.timerRead 1000] with
  | none => exact absurd hrun (by decide)
  | some t =>
      obtain ⟨t', ht', -⟩ :=
        h [.timerRead 1000] t 500 (by decide) (by decide) hrun (by decide)
      have hpanic : runFrom step powerOn [.timerRead 1000, .timerRead 500] = none := by decide
      have hboth : runFrom step powerOn ([.timerRead 1000] ++ [.timerRead 500]) = some t' :=
        (runFrom_concat_eq_some step).mpr ⟨t, hrun, ht'⟩
      rw [List.singleton_append, hpanic] at hboth
      cases hboth

end ClockTrace

end TpmPlatform
