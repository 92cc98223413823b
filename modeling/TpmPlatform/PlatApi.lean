/-
# The `_plat__*` callbacks (`plat/api/*.rs`, the `c_api` modules)

What the TPM library can call while it runs.  Each callback takes the platform
lock (which one thread always gets; contention is the subject of
`SecondInitialize`), runs one method and translates its outcome for C.

The callbacks that neither read nor change the state (PCR and vendor constants,
virtual NV, physical presence, self test, `_plat__EndOkTpmInit`,
`_plat__TearDown`) are not part of `Callback`.
-/
import TpmPlatform.PlatformState

namespace TpmPlatform

/-- What a callback hands back to the C library: its return value, and the buffer
it was given, for those that fill one. -/
structure Reply where
  value : ℤ
  buffer : List UInt8
  deriving DecidableEq

/-- A reply without a buffer. -/
def Reply.int (value : ℤ) : Reply where
  value := value
  buffer := []

/-- A C truth value. -/
def Reply.bool (b : Bool) : Reply := .int (if b then 1 else 0)

namespace PlatformImpl

/-! ## Cancel, locality, power -/

/-- `_plat__IsCanceled`. -/
def platIsCanceled (p : PlatformImpl) : Reply × PlatformImpl :=
  (.bool p.state.cancel.flag, p)

/-- `_plat__LocalityGet`. -/
def platLocalityGet (p : PlatformImpl) : Reply × PlatformImpl :=
  (.int p.state.locality.locality.toNat, p)

/-- `_plat__WasPowerLost`. -/
def platWasPowerLost (p : PlatformImpl) : Reply × PlatformImpl :=
  let (ret, powerPlat) := p.state.powerPlat.wasPowerLost
  (.bool ret, { p with state := { p.state with powerPlat := powerPlat } })

/-! ## Failure mode -/

/-- `_plat__StartTpmInit`, which is `reset_failure`. -/
def platStartTpmInit (p : PlatformImpl) : Reply × PlatformImpl :=
  (.int 0, { p with state := { p.state with failure := .new } })

/-- `_plat__Fail`. -/
def platFail (p : PlatformImpl) (locationCode : UInt64) (failureCode : Int32) :
    Reply × PlatformImpl :=
  (.int 0, { p with state := { p.state with
    failure := p.state.failure.fail locationCode failureCode } })

/-- `_plat__InFailureMode`. -/
def platInFailureMode (p : PlatformImpl) : Reply × PlatformImpl :=
  (.bool p.state.failure.inFailureMode, p)

/-- `_plat__GetFailureCode`. -/
def platGetFailureCode (p : PlatformImpl) : Reply × PlatformImpl :=
  (.int p.state.failure.failureCode.toNat, p)

/-- `_plat__GetFailureLocation`. -/
def platGetFailureLocation (p : PlatformImpl) : Reply × PlatformImpl :=
  (.int p.state.failure.failureLocation.toNat, p)

/-! ## Clock -/

/-- `_plat__TimerRead`. -/
def platTimerRead (p : PlatformImpl) (now : ℕ) : Option (Reply × PlatformImpl) :=
  (p.state.clock.timerRead now).map fun (value, clock) =>
    (.int value, { p with state := { p.state with clock := clock } })

/-- `_plat__TimerWasReset`. -/
def platTimerWasReset (p : PlatformImpl) : Reply × PlatformImpl :=
  let (ret, clock) := p.state.clock.timerWasReset
  (.bool ret, { p with state := { p.state with clock := clock } })

/-- `_plat__TimerWasStopped`. -/
def platTimerWasStopped (p : PlatformImpl) : Reply × PlatformImpl :=
  let (ret, clock) := p.state.clock.timerWasStopped
  (.bool ret, { p with state := { p.state with clock := clock } })

/-- `_plat__ClockRateAdjust`. -/
def platClockRateAdjust (p : PlatformImpl) (adjustment : ℤ) : Option (Reply × PlatformImpl) :=
  (p.state.clock.clockRateAdjust adjustment).map fun clock =>
    (.int 0, { p with state := { p.state with clock := clock } })

/-! ## Entropy -/

/-- `_plat__GetEntropy`, where `buf` is the caller's buffer of `amount` bytes. -/
def platGetEntropy (p : PlatformImpl) (buf : List UInt8) (random : ℕ → RandomAnswer) :
    Option (Reply × PlatformImpl) :=
  -- a request for no bytes is the library's way to initialize the generator
  if buf.length = 0 then
    match p.state.entropy.initializeEntropy random with
    | (.ok (), entropy) =>
      some ({ value := 0, buffer := buf }, { p with state := { p.state with entropy := entropy } })
    | (.error _, entropy) =>
      some ({ value := -1, buffer := buf }, { p with state := { p.state with entropy := entropy } })
  else
    (p.state.entropy.getEntropy buf random).map fun (result, buf, entropy) =>
      match result with
      | .ok len =>
        ({ value := len, buffer := buf }, { p with state := { p.state with entropy := entropy } })
      | .error _ =>
        ({ value := -1, buffer := buf }, { p with state := { p.state with entropy := entropy } })

/-! ## NV memory -/

/-- `_plat__NVEnable`. -/
def platNvEnable (p : PlatformImpl) : Reply × PlatformImpl :=
  match p.state.nvmem.nvEnable with
  | (.ok (), nvmem) => (.int 0, p.withNvmem nvmem)
  | (.error _, nvmem) => (.int (-1), p.withNvmem nvmem)

/-- `_plat__GetNvReadyState`: always `NV_READY`. -/
def platGetNvReadyState (p : PlatformImpl) : Reply × PlatformImpl :=
  (.int 0, p)

/-- `_plat__NvMemoryRead` into the buffer `data`. -/
def platNvMemoryRead (p : PlatformImpl) (startOffset : UInt32) (data : List UInt8) :
    Reply × PlatformImpl :=
  match p.state.nvmem.nvMemoryRead startOffset.toNat data with
  | (.ok (), buf) => ({ value := 1, buffer := buf }, p)
  | (.error _, buf) => ({ value := 0, buffer := buf }, p)

/-- `_plat__NvGetChangedStatus` against the buffer `data`. -/
def platNvGetChangedStatus (p : PlatformImpl) (startOffset : UInt32) (data : List UInt8) :
    Reply × PlatformImpl :=
  match p.state.nvmem.nvIsDifferent startOffset.toNat data with
  | .ok isDiff => (.bool isDiff, p)
  -- NV_INVALID_LOCATION
  | .error _ => (.int (-1), p)

/-- The reply to an NV operation that succeeds or fails. -/
def nvReply (p : PlatformImpl) : Except Error Unit × NvState → Reply × PlatformImpl
  | (.ok (), nvmem) => (.bool true, p.withNvmem nvmem)
  | (.error _, nvmem) => (.bool false, p.withNvmem nvmem)

/-- `_plat__NvMemoryWrite` of the buffer `data`. -/
def platNvMemoryWrite (p : PlatformImpl) (startOffset : UInt32) (data : List UInt8) :
    Reply × PlatformImpl :=
  p.nvReply (p.state.nvmem.nvMemoryWrite startOffset.toNat data)

/-- `_plat__NvMemoryClear`. -/
def platNvMemoryClear (p : PlatformImpl) (start size : UInt32) : Reply × PlatformImpl :=
  p.nvReply (p.state.nvmem.nvMemoryClear start.toNat size.toNat)

/-- `_plat__NvMemoryMove`. -/
def platNvMemoryMove (p : PlatformImpl) (sourceOffset destOffset size : UInt32) :
    Reply × PlatformImpl :=
  p.nvReply (p.state.nvmem.nvMemoryMove sourceOffset.toNat destOffset.toNat size.toNat)

/-- `_plat__NvCommit`, to which the host answers `verdict`. -/
def platNvCommit (p : PlatformImpl) (verdict : Except String Unit) : Reply × PlatformImpl :=
  match p.nvCommit verdict with
  | (.ok (), p) => (.int 0, p)
  | (.error _, p) => (.int 1, p)

@[simp] theorem nvReply_snd (p : PlatformImpl) (r : Except Error Unit × NvState) :
    (p.nvReply r).2 = p.withNvmem r.2 := by
  obtain ⟨_ | ⟨⟩, nvmem⟩ := r <;> rfl

end PlatformImpl

/-! ## One call -/

/-- The callbacks that take a buffer and assert that its address is not null. -/
inductive NvBufferCallback
  | nvMemoryRead
  | nvGetChangedStatus
  | nvMemoryWrite

/-- A callback with its arguments and the host's answers; `nvNullBuffer` is one that gets no
buffer. -/
inductive Callback
  | isCanceled
  | localityGet
  | wasPowerLost
  | startTpmInit
  | fail (locationCode : UInt64) (failureCode : Int32)
  | inFailureMode
  | getFailureCode
  | getFailureLocation
  | timerRead (now : ℕ)
  | timerWasReset
  | timerWasStopped
  | clockRateAdjust (adjustment : ℤ)
  | getEntropy (buf : List UInt8) (random : ℕ → RandomAnswer)
  | nvEnable
  | getNvReadyState
  | nvMemoryRead (startOffset : UInt32) (data : List UInt8)
  | nvGetChangedStatus (startOffset : UInt32) (data : List UInt8)
  | nvMemoryWrite (startOffset : UInt32) (data : List UInt8)
  | nvMemoryClear (start size : UInt32)
  | nvMemoryMove (sourceOffset destOffset size : UInt32)
  | nvCommit (verdict : Except String Unit)
  | nvNullBuffer (callback : NvBufferCallback)

/-- What a callback does; `none` when it panics. -/
def Callback.call (p : PlatformImpl) : Callback → Option (Reply × PlatformImpl)
  | .isCanceled => some p.platIsCanceled
  | .localityGet => some p.platLocalityGet
  | .wasPowerLost => some p.platWasPowerLost
  | .startTpmInit => some p.platStartTpmInit
  | .fail locationCode failureCode => some (p.platFail locationCode failureCode)
  | .inFailureMode => some p.platInFailureMode
  | .getFailureCode => some p.platGetFailureCode
  | .getFailureLocation => some p.platGetFailureLocation
  | .timerRead now => p.platTimerRead now
  | .timerWasReset => some p.platTimerWasReset
  | .timerWasStopped => some p.platTimerWasStopped
  | .clockRateAdjust adjustment => p.platClockRateAdjust adjustment
  | .getEntropy buf random => p.platGetEntropy buf random
  | .nvEnable => some p.platNvEnable
  | .getNvReadyState => some p.platGetNvReadyState
  | .nvMemoryRead startOffset data => some (p.platNvMemoryRead startOffset data)
  | .nvGetChangedStatus startOffset data => some (p.platNvGetChangedStatus startOffset data)
  | .nvMemoryWrite startOffset data => some (p.platNvMemoryWrite startOffset data)
  | .nvMemoryClear start size => some (p.platNvMemoryClear start size)
  | .nvMemoryMove sourceOffset destOffset size =>
    some (p.platNvMemoryMove sourceOffset destOffset size)
  | .nvCommit verdict => some (p.platNvCommit verdict)
  | .nvNullBuffer _ => none

/-- The state after a callback. -/
def Callback.step (p : PlatformImpl) (c : Callback) : Option PlatformImpl :=
  (c.call p).map Prod.snd

/-- A read of the timer that returns. -/
theorem Callback.step_timerRead {p : PlatformImpl} {now value : ℕ} {clock : ClockState}
    (h : p.state.clock.timerRead now = some (value, clock)) :
    Callback.step p (.timerRead now) =
      some { p with state := { p.state with clock := clock } } := by
  rw [Callback.step, Callback.call, PlatformImpl.platTimerRead, h]
  rfl

/-! ## What a callback can change

One lemma for each component, from which every invariant over the callbacks
follows without looking at the individual callbacks again. -/

/-- The NV state after a callback. -/
def Callback.nvmemAfter (s : NvState) : Callback → NvState
  | .nvEnable => s.nvEnable.2
  | .nvMemoryWrite startOffset data => (s.nvMemoryWrite startOffset.toNat data).2
  | .nvMemoryClear start size => (s.nvMemoryClear start.toNat size.toNat).2
  | .nvMemoryMove sourceOffset destOffset size =>
    (s.nvMemoryMove sourceOffset.toNat destOffset.toNat size.toNat).2
  | _ => s

/-- The commits the host has seen after a callback. -/
def Callback.commitsAfter (p : PlatformImpl) : Callback → List Commit
  | .nvCommit verdict =>
    p.callbacks.commits ++ [{ state := p.state.nvmem.region, accepted := verdict.isOk }]
  | _ => p.callbacks.commits

/-- How a callback can change the clock. -/
def Callback.ClockStep (c c' : ClockState) : Callback → Prop
  | .timerRead now => ∃ value, c.timerRead now = some (value, c')
  | .timerWasReset => c' = c.timerWasReset.2
  | .timerWasStopped => c' = c.timerWasStopped.2
  | .clockRateAdjust adjustment => c.clockRateAdjust adjustment = some c'
  | _ => c' = c

/-- The failure state after a callback. -/
def Callback.failureAfter (s : FailureState) : Callback → FailureState
  | .startTpmInit => .new
  | .fail locationCode failureCode => s.fail locationCode failureCode
  | _ => s

/-- **What a callback can change.**  Cancel flag and locality never change; the
other components change as the definitions above say. -/
structure Callback.Effect (p p' : PlatformImpl) (c : Callback) : Prop where
  cancel_eq : p'.state.cancel = p.state.cancel
  locality_eq : p'.state.locality = p.state.locality
  nvmem_eq : p'.state.nvmem = c.nvmemAfter p.state.nvmem
  commits_eq : p'.callbacks.commits = c.commitsAfter p
  clock_step : c.ClockStep p.state.clock p'.state.clock
  failure_eq : p'.state.failure = c.failureAfter p.state.failure

theorem platGetEntropy_effect {p : PlatformImpl} {buf : List UInt8} {random : ℕ → RandomAnswer}
    {r : Reply × PlatformImpl} (h : p.platGetEntropy buf random = some r) :
    ∃ entropy, r.2 = { p with state := { p.state with entropy := entropy } } := by
  unfold PlatformImpl.platGetEntropy at h
  by_cases hzero : buf.length = 0
  · rw [if_pos hzero] at h
    split at h
    · exact ⟨_, by rw [← Option.some.inj h]⟩
    · exact ⟨_, by rw [← Option.some.inj h]⟩
  · rw [if_neg hzero, Option.map_eq_some_iff] at h
    obtain ⟨⟨result, buf', entropy⟩, -, rfl⟩ := h
    cases result with
    | ok len => exact ⟨entropy, rfl⟩
    | error e => exact ⟨entropy, rfl⟩

theorem platNvCommit_effect (p : PlatformImpl) (verdict : Except String Unit) :
    (p.platNvCommit verdict).2 = (p.nvCommit verdict).2 := by
  unfold PlatformImpl.platNvCommit
  cases verdict with
  | ok _ => rfl
  | error _ => rfl

/-- Every callback that returns has the effect its definition says. -/
theorem Callback.effect {p p' : PlatformImpl} {c : Callback} (h : c.step p = some p') :
    c.Effect p p' := by
  rw [Callback.step, Option.map_eq_some_iff] at h
  obtain ⟨r, hcall, rfl⟩ := h
  -- the callbacks that can panic first, then those that branch on an outcome
  cases c with
  | nvNullBuffer callback => cases hcall
  | timerRead now =>
      rw [Callback.call, PlatformImpl.platTimerRead, Option.map_eq_some_iff] at hcall
      obtain ⟨⟨value, clock⟩, hread, rfl⟩ := hcall
      exact ⟨rfl, rfl, rfl, rfl, ⟨value, hread⟩, rfl⟩
  | clockRateAdjust adjustment =>
      rw [Callback.call, PlatformImpl.platClockRateAdjust, Option.map_eq_some_iff] at hcall
      obtain ⟨clock, hadjust, rfl⟩ := hcall
      exact ⟨rfl, rfl, rfl, rfl, hadjust, rfl⟩
  | getEntropy buf random =>
      obtain ⟨entropy, hentropy⟩ := platGetEntropy_effect hcall
      rw [hentropy]
      exact ⟨rfl, rfl, rfl, rfl, rfl, rfl⟩
  | nvCommit verdict =>
      rw [Callback.call, Option.some.injEq] at hcall
      rw [← hcall, platNvCommit_effect]
      exact ⟨rfl, rfl, rfl, rfl, rfl, rfl⟩
  | nvMemoryRead startOffset data =>
      rw [Callback.call, Option.some.injEq, PlatformImpl.platNvMemoryRead] at hcall
      have hsame : r.2 = p := by
        rw [← hcall]
        split <;> rfl
      rw [hsame]
      exact ⟨rfl, rfl, rfl, rfl, rfl, rfl⟩
  | nvGetChangedStatus startOffset data =>
      rw [Callback.call, Option.some.injEq, PlatformImpl.platNvGetChangedStatus] at hcall
      have hsame : r.2 = p := by
        rw [← hcall]
        split <;> rfl
      rw [hsame]
      exact ⟨rfl, rfl, rfl, rfl, rfl, rfl⟩
  | nvMemoryWrite startOffset data =>
      rw [Callback.call, Option.some.injEq, PlatformImpl.platNvMemoryWrite] at hcall
      rw [← hcall, PlatformImpl.nvReply_snd]
      exact ⟨rfl, rfl, rfl, rfl, rfl, rfl⟩
  | nvMemoryClear start size =>
      rw [Callback.call, Option.some.injEq, PlatformImpl.platNvMemoryClear] at hcall
      rw [← hcall, PlatformImpl.nvReply_snd]
      exact ⟨rfl, rfl, rfl, rfl, rfl, rfl⟩
  | nvMemoryMove sourceOffset destOffset size =>
      rw [Callback.call, Option.some.injEq, PlatformImpl.platNvMemoryMove] at hcall
      rw [← hcall, PlatformImpl.nvReply_snd]
      exact ⟨rfl, rfl, rfl, rfl, rfl, rfl⟩
  | _ =>
      rw [← Option.some.inj hcall]
      exact ⟨rfl, rfl, rfl, rfl, rfl, rfl⟩

end TpmPlatform
