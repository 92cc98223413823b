/-
# What a failing `reset` leaves behind

`reset` powers the platform off before it looks at the blob.  A blob of the wrong
size is refused at that point, and nothing powers the platform on again.

`reset_error_iff` : a refused reset has left the platform as it was, also for a
`_plat__NVEnable` that follows, exactly if NV memory was disabled before and held
nothing but zeros; `reset_of_refused` : until something enables it, the next reset
does what it would have done without the refused one.
-/
import TpmPlatform.PlatformSteps

namespace TpmPlatform

open Runs

namespace PlatformImpl

/-- Powering off twice is powering off once. -/
@[simp] theorem signalPowerOff_signalPowerOff (p : PlatformImpl) :
    p.signalPowerOff.signalPowerOff = p.signalPowerOff := rfl

/-- Powering off changes nothing exactly if NV memory is disabled. -/
theorem signalPowerOff_eq_iff (p : PlatformImpl) :
    p.signalPowerOff = p ↔ p.state.nvmem.isInit = false := by
  constructor
  · intro h
    rw [← h]
    rfl
  · intro h
    obtain ⟨callbacks, cancel, clock, failure, locality, ⟨region, isInit⟩, power, entropy⟩ := p
    obtain rfl : isInit = false := h
    rfl

/-- Enabling NV memory after a power off zero-fills it. -/
theorem platNvEnable_signalPowerOff (p : PlatformImpl) :
    p.signalPowerOff.platNvEnable =
      (.int 0, p.withNvmem { region := List.replicate nvMemorySize 0, isInit := true }) := rfl

end PlatformImpl

namespace Process

variable {ι : Type} {B : Build ι} {ρ : Type}

/-- **Refused resets.**  Whatever the blob and the state: after a `reset` that returned
an error the platform is what it was before and enabling NV memory keeps the region, if
and only if NV memory was disabled already and its region is all zeros. -/
theorem reset_error_iff (w w' : Process B ρ) (p : PlatformImpl) (blob : List UInt8)
    (tpmInit : LibraryRun B ρ) (e : Error) (hp : w.platform = some p)
    (h : w.reset (some blob) tpmInit = some (.error e, w')) :
    (w'.platform = w.platform ∧
        ∀ p', w'.platform = some p' →
          p'.platNvEnable.2.state.nvmem.region = p.state.nvmem.region) ↔
      p.state.nvmem.isInit = false ∧
        p.state.nvmem.region = List.replicate nvMemorySize 0 := by
  obtain ⟨p₀, -, hp₀, -, -, rfl⟩ := reset_eq_error h
  rw [hp, Option.some.injEq] at hp₀
  subst hp₀
  rw [hp, Option.some.injEq, PlatformImpl.signalPowerOff_eq_iff]
  apply and_congr_right
  intro _
  constructor
  · intro hregion
    exact (hregion _ rfl).symm
  · intro hzeros p' hp'
    obtain rfl := Option.some.inj hp'
    rw [PlatformImpl.platNvEnable_signalPowerOff, hzeros]
    rfl

/-- A platform that was powered off before anything was written to it. -/
def offProcess : Process miniBuild Unit :=
  { coldProcess with
    platform := some (PlatformImpl.powerUp { commits := [] } .coldInit).signalPowerOff }

/-- A refused reset leaves it as it was. -/
theorem reset_error_iff_off :
    ∃ w', offProcess.reset (some []) offProcess.silent =
      some (.error (.nvMem (.mismatchedBlobSize nvMemorySize 0)), w') ∧
      w'.platform = offProcess.platform :=
  ⟨_, rfl, ((reset_error_iff offProcess _ _ [] offProcess.silent _ rfl rfl).mpr ⟨rfl, rfl⟩).1⟩

/-- The NV region of a cold init after a write of one byte. -/
def writtenRegion : List UInt8 := Bytes.splice (List.replicate nvMemorySize 0) 0 [1]

/-- The platform after a cold init and a write of one byte. -/
def writtenPlatform : PlatformImpl :=
  (PlatformImpl.powerUp { commits := [] } .coldInit).withNvmem
    { region := writtenRegion, isInit := true }

/-- The byte fits the region. -/
theorem written_fits :
    0 + [(1 : UInt8)].length ≤ (List.replicate nvMemorySize (0 : UInt8)).length := by
  rw [List.length_replicate]
  decide

/-- The byte is not zero. -/
theorem writtenRegion_ne_zeros : writtenRegion ≠ List.replicate nvMemorySize 0 := by
  intro h
  have hbyte : (List.replicate nvMemorySize (0 : UInt8))[0]? = some 1 := by
    rw [← h, writtenRegion, Bytes.getElem?_splice written_fits, if_pos (by decide)]
    rfl
  rw [List.getElem?_replicate, if_pos (by decide)] at hbyte
  cases hbyte

/-- The write leads there. -/
theorem step_nvMemoryWrite :
    Callback.step (.powerUp { commits := [] } .coldInit) (.nvMemoryWrite 0 [1]) =
      some writtenPlatform := by
  rw [Callback.step, Callback.call, PlatformImpl.platNvMemoryWrite, PlatformImpl.nvmem_powerUp,
    InitKind.region, NvState.nvMemoryWrite_of_le written_fits]
  rfl

/-- A process with that platform, its handle live. -/
def writtenProcess : Process miniBuild Unit :=
  { coldProcess with platform := some writtenPlatform }

/-- A command in which the library writes a byte. -/
def writingRun : LibraryRun miniBuild Unit where
  callbacks := [.nvMemoryWrite 0 [1]]
  memory := miniMemory
  ret := 0

/-- The run that leads there. -/
theorem runFrom_written :
    runFrom (step miniLibrary refusingCodec) (start miniMemory)
      [.initializePlatform { commits := [] } .coldInit coldProcess.silent coldProcess.silent,
        .executeCommand writingRun.command] =
      some writtenProcess := by
  refine (runFrom_cons_eq_some _).mpr ⟨coldProcess, rfl, ?_⟩
  refine (runFrom_cons_eq_some _).mpr ⟨writtenProcess, ?_, rfl⟩
  rw [step_command Nat.one_ne_zero]
  refine runLibrary_eq_some.mpr ⟨_, writtenPlatform, rfl, ?_, rfl⟩
  rw [writingRun, runFrom_cons, step_nvMemoryWrite]
  rfl

/-- A command writes a byte, `reset` refuses an empty blob, and when NV memory is
enabled again the byte is gone. -/
theorem reset_error_changes :
    ¬ ∀ (ops : List (Op miniBuild Unit)) (w w' : Process miniBuild Unit) (p : PlatformImpl)
        (blob : List UInt8) (tpmInit : LibraryRun miniBuild Unit) (e : Error),
      runFrom (step miniLibrary refusingCodec) (start miniMemory) ops = some w →
      w.platform = some p → w.reset (some blob) tpmInit = some (.error e, w') →
      w'.platform = w.platform ∧
        ∀ p', w'.platform = some p' →
          p'.platNvEnable.2.state.nvmem.region = p.state.nvmem.region := by
  intro h
  have hzeros : List.replicate nvMemorySize 0 = writtenRegion :=
    (h _ writtenProcess _ writtenPlatform [] coldProcess.silent _ runFrom_written rfl
      rfl).2 _ rfl
  exact writtenRegion_ne_zeros hzeros.symm

/-- **Trying again.**  A reset after a refused one does what it would have done in its
place. -/
theorem reset_of_refused {w w' : Process B ρ} {blob : Option (List UInt8)}
    {tpmInit : LibraryRun B ρ} {e : Error} (h : w.reset blob tpmInit = some (.error e, w'))
    (blob' : Option (List UInt8)) (tpmInit' : LibraryRun B ρ) :
    w'.reset blob' tpmInit' = w.reset blob' tpmInit' := by
  obtain ⟨p, -, hp, -, -, rfl⟩ := reset_eq_error h
  have hcycle : p.signalPowerOff.powerCycle blob' = p.powerCycle blob' := by
    unfold PlatformImpl.powerCycle
    rw [PlatformImpl.signalPowerOff_signalPowerOff]
  unfold reset
  rw [hp, Option.bind_some, Option.bind_some, hcycle]

end Process

end TpmPlatform
