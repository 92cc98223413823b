/-
# The well-formedness of the platform state

The TPM library may access any byte of an NV region of `NV_MEMORY_SIZE` bytes,
divides by the clock rate and trusts the locality.  `initialize` and `reset` check
the region they are given and `clock_rate_adjust` clamps the rate; `restore_state`
takes a decoded platform state as it is.

`wellFormed_iff` : along every run, the state stays well formed if and only if
every platform state that a restore decodes is.
-/
import TpmPlatform.ClockRuns
import TpmPlatform.PlatformSteps

namespace TpmPlatform

open Runs

namespace PlatformState

/-- What the library relies on: the size of the NV region, the limits of the clock
rate, and a locality that the specification defines. -/
structure WellFormed (s : PlatformState) : Prop where
  length_region : s.nvmem.region.length = nvMemorySize
  rate : s.clock.RateInLimits
  locality : IsLocality s.locality.locality

instance (s : PlatformState) : Decidable s.WellFormed :=
  decidable_of_iff
    (s.nvmem.region.length = nvMemorySize ∧
      (clockAdjustLimitLow ≤ s.clock.adjustRate ∧ s.clock.adjustRate ≤ clockAdjustLimitHigh) ∧
      IsLocality s.locality.locality)
    ⟨fun h => ⟨h.1, h.2.1, h.2.2⟩, fun h => ⟨h.length_region, h.rate, h.locality⟩⟩

/-- The division of `timer_read` by the clock rate does not panic. -/
def RateDivides (s : PlatformState) : Prop :=
  ∀ ticks, (checkedDiv ticks s.clock.adjustRate).isSome = true

/-- A rate in its limits can be divided by. -/
theorem WellFormed.rateDivides {s : PlatformState} (h : s.WellFormed) : s.RateDivides := by
  intro ticks
  have hpos : 0 < s.clock.adjustRate := lt_of_lt_of_le (by decide) h.rate.1
  rw [checkedDiv_of_pos hpos]
  rfl

end PlatformState

/-! ## Callbacks -/

/-- A callback keeps the size of a region of the right size. -/
theorem Callback.length_nvmemAfter {s : NvState} (h : s.region.length = nvMemorySize)
    (c : Callback) : (c.nvmemAfter s).region.length = nvMemorySize := by
  cases c with
  | nvEnable =>
      show s.nvEnable.2.region.length = nvMemorySize
      cases hinit : s.isInit with
      | true =>
          rw [NvState.nvEnable_of_isInit hinit]
          exact h
      | false =>
          rw [NvState.nvEnable_of_not_isInit hinit]
          exact List.length_replicate
  | nvMemoryWrite startOffset data =>
      exact (NvState.nvMemoryWrite_shape s startOffset.toNat data).1.trans h
  | nvMemoryClear start size =>
      exact (NvState.nvMemoryClear_shape s start.toNat size.toNat).1.trans h
  | nvMemoryMove sourceOffset destOffset size =>
      exact (NvState.nvMemoryMove_shape s sourceOffset.toNat destOffset.toNat size.toNat).1.trans h
  | _ => exact h

/-- `timer_read` leaves the rate alone. -/
theorem adjustRate_timerRead {c c' : ClockState} {now v : ℕ} (h : c.timerRead now = some (v, c')) :
    c'.adjustRate = c.adjustRate := by
  rw [ClockState.timerRead, Option.bind_eq_some_iff] at h
  obtain ⟨c₁, hreport, hcredit⟩ := h
  obtain ⟨-, -, rfl⟩ := ClockState.creditTime_eq_some hcredit
  exact (ClockTrace.reportTime_frame hreport).1

/-- A callback keeps the rate in its limits. -/
theorem Callback.rateInLimits {c : Callback} {s s' : ClockState} (h : c.ClockStep s s')
    (hs : s.RateInLimits) : s'.RateInLimits := by
  cases c with
  | timerRead now =>
      obtain ⟨v, hread⟩ := h
      rw [ClockState.RateInLimits, adjustRate_timerRead hread]
      exact hs
  | timerWasReset =>
      obtain rfl : s' = s.timerWasReset.2 := h
      exact hs
  | timerWasStopped =>
      obtain rfl : s' = s.timerWasStopped.2 := h
      exact hs
  | clockRateAdjust adjustment => exact ClockState.rateInLimits_clockRateAdjust h
  | _ =>
      obtain rfl : s' = s := h
      exact hs

/-! ## Steps and runs -/

/-- Every way to change the platform but a restore keeps it well formed. -/
theorem wellFormed_invariant : PlatformInvariant fun p => p.state.WellFormed where
  -- `validate_nv_size` has passed, so that the region has the right size
  powerUp _ _ hvalid := ⟨InitKind.length_region hvalid, ClockState.rateInLimits_new,
    isLocality_toU8 .L0⟩
  callback := by
    rintro p c p' ⟨hlen, hrate, hloc⟩ h
    have heffect := Callback.effect h
    refine ⟨?_, ?_, ?_⟩
    · rw [heffect.nvmem_eq]
      exact Callback.length_nvmemAfter hlen c
    · exact Callback.rateInLimits heffect.clock_step hrate
    · rw [heffect.locality_eq]
      exact hloc
  signalPowerOff _ h := ⟨h.length_region, h.rate, h.locality⟩
  poweredAgain := by
    intro p withNewNvmemBlob h hlen
    refine ⟨?_, ClockState.rateInLimits_new, h.locality⟩
    show (p.resetRegion withNewNvmemBlob).length = nvMemorySize
    cases withNewNvmemBlob with
    | none => exact h.length_region
    | some blob => exact hlen blob rfl
  withCancel _ _ h := ⟨h.length_region, h.rate, h.locality⟩
  localitySet _ locality h := ⟨h.length_region, h.rate, isLocality_toU8 locality⟩

namespace Process

variable {ι : Type} {B : Build ι} {ρ : Type}

/-- The steps that restore no malformed platform state. -/
def RestoresWellFormed (codec : Codec) (_ : Process B ρ) : Op B ρ → Prop
  | .restoreState state => ∀ st, codec.fromBytes state = .ok st → st.platformState.WellFormed
  | _ => True

/-- A restore leaves a well-formed state exactly when it decodes one. -/
theorem wellFormed_restoreState_iff [DecidableEq ι] {lib : TpmLibrary B ρ} {codec : Codec}
    {w w' : Process B ρ} {state : List UInt8} {r : Except Error Unit}
    (hw : w.Holds fun p => p.state.WellFormed)
    (h : w.restoreState lib codec state = some (r, w')) :
    (w'.Holds fun p => p.state.WellFormed) ↔ w.RestoresWellFormed codec (.restoreState state) := by
  rcases restoreState_cases h with ⟨e, hdec, -, rfl⟩ | ⟨st, p, failure, library, hdec, -, -, rfl⟩
  · refine iff_of_true hw ?_
    intro st hst
    rw [hdec] at hst
    cases hst
  · -- the import changes no component but the failure state, which is not constrained
    rw [holds_some rfl]
    constructor
    · rintro ⟨hlen, hrate, hloc⟩ st' hst'
      rw [hdec] at hst'
      obtain rfl := Except.ok.inj hst'
      exact ⟨hlen, hrate, hloc⟩
    · intro hall
      obtain ⟨hlen, hrate, hloc⟩ := hall st hdec
      exact ⟨hlen, hrate, hloc⟩

/-- **Well-formedness.**  Along every run the platform state is well formed, and the
clock never divides by zero, exactly when every platform state that a restore
decodes is well formed. -/
theorem wellFormed_iff [DecidableEq ι] (lib : TpmLibrary B ρ) (codec : Codec)
    (library : LibraryState B ρ) (ops : List (Op B ρ)) :
    Along (step lib codec) (Holds fun p => p.state.WellFormed ∧ p.state.RateDivides)
        (start library) ops ↔
      Guarded (step lib codec) (RestoresWellFormed codec) (start library) ops := by
  have hdivides : ∀ w : Process B ρ, (w.Holds fun p => p.state.WellFormed ∧ p.state.RateDivides) ↔
      w.Holds fun p => p.state.WellFormed := by
    intro w
    constructor
    · intro h p hp
      exact (h p hp).1
    · intro h p hp
      exact ⟨h p hp, (h p hp).rateDivides⟩
  apply along_iff_guarded ?_ ((hdivides _).mpr (holds_none _ rfl))
  intro w op w' hw h
  rw [hdivides] at hw ⊢
  cases op with
  | restoreState state =>
      obtain ⟨⟨r, w₁⟩, hrestore, rfl⟩ := Option.map_eq_some_iff.mp (of_needsHandle h).2
      exact wellFormed_restoreState_iff hw hrestore
  | _ =>
      refine iff_of_true (wellFormed_invariant.step hw h ?_) trivial
      intro state hop
      cases hop

/-- The steps whose restores, if they are restores, return `Ok`. -/
def RestoresAccepted [DecidableEq ι] (lib : TpmLibrary B ρ) (codec : Codec) (w : Process B ρ) :
    Op B ρ → Prop
  | .restoreState state => ∃ w', w.restoreState lib codec state = some (.ok (), w')
  | _ => True

/-- A saved state whose NV region is empty. -/
def emptyRegionState : RuntimeState where
  tpmlibState := miniBuild.header ++ List.replicate 40 0
  platformState := { PlatformState.new with nvmem := { region := [], isInit := true } }

/-- A serializer in which the empty byte string stands for that state. -/
def emptyRegionCodec : Codec where
  toStdvec _ := .ok []
  fromBytes _ := .ok emptyRegionState

theorem emptyRegionState_accepted :
    (coldProcess.restoreState miniLibrary emptyRegionCodec []).map Prod.fst = some (.ok ()) := by
  rfl

/-- It is accepted with `Ok`, and the platform then has no NV region. -/
theorem restore_not_wellFormed :
    ¬ ∀ (codec : Codec) (ops : List (Op miniBuild Unit)),
      Guarded (step miniLibrary codec) (RestoresAccepted miniLibrary codec)
        (start miniMemory) ops →
      Along (step miniLibrary codec) (Holds fun p => p.state.WellFormed ∧ p.state.RateDivides)
        (start miniMemory) ops := by
  intro h
  have hinit : (start miniMemory).step miniLibrary emptyRegionCodec
      (.initializePlatform { commits := [] } .coldInit coldProcess.silent coldProcess.silent) =
      some coldProcess := rfl
  obtain ⟨⟨r, restored⟩, hrestore, rfl⟩ := Option.map_eq_some_iff.mp emptyRegionState_accepted
  have hrun := h emptyRegionCodec [.initializePlatform { commits := [] } .coldInit
    coldProcess.silent coldProcess.silent, .restoreState []] ?_
  · have hstep : coldProcess.step miniLibrary emptyRegionCodec (.restoreState []) =
        some restored := congrArg (Option.map Prod.snd) hrestore
    have hwf := (hrun.2 coldProcess hinit).2 restored hstep
    rcases restoreState_cases hrestore with
      ⟨_, _, hr, _⟩ | ⟨st, p, failure, library, hdec, -, -, rfl⟩
    · cases hr
    · obtain rfl := Except.ok.inj hdec
      have hlen : ([] : List UInt8).length = nvMemorySize := (hwf _ rfl).1.length_region
      exact absurd hlen (by decide)
  · intro w hw
    rw [hinit] at hw
    obtain rfl := Option.some.inj hw
    exact ⟨trivial, fun w' hw' => ⟨⟨restored, hrestore⟩, trivial⟩⟩

end Process

end TpmPlatform
