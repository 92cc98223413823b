/-
# `reset` against dropping and initializing again

Both simulate a power cycle.  `initialize` builds a fresh platform object; `reset`
works on the one there is, and switches it off and on.  What the two leave for
`_TPM_Init` to see is compared here, component by component.

`reset_agrees_with_drop` : clock, NV memory and power flag always agree.  Cancel flag
and locality belong to the host, which sets them through the handle; a reset keeps
them and a new handle starts without, so these two agree exactly when the host has
left them at their defaults.
-/
import TpmPlatform.ResetErrors

namespace TpmPlatform

open Runs

namespace Process

variable {ι : Type} {B : Build ι} {ρ : Type}

/-! ## What `_TPM_Init` sees -/

/-- The platform in the global when an outcome is a success. -/
def platformOnSuccess : Except Error Unit × Process B ρ → Option PlatformImpl
  | (.ok (), w) => w.platform
  | (.error _, _) => none

/-- The platform that `_TPM_Init` sees during a reset: what is left if it does
nothing. -/
def seenByReset (w : Process B ρ) (withNewNvmemBlob : Option (List UInt8)) :
    Option PlatformImpl :=
  (w.reset withNewNvmemBlob w.silent).bind platformOnSuccess

/-- The platform that `_TPM_Init` sees when the handle is dropped and `initialize` is
called with a persistent state. -/
def seenAfterDrop (w : Process B ρ) (callbacks : HostCallbacks) (nvmemBlob : List UInt8) :
    Option PlatformImpl :=
  w.drop.bind fun w =>
    (w.initializePlatform callbacks (.coldInitWithPersistentState nvmemBlob) w.silent
      w.silent).bind platformOnSuccess

/-- Whatever `_TPM_Init` does in a reset, it does to the platform it sees. -/
theorem reset_of_seenByReset {w : Process B ρ} {withNewNvmemBlob : Option (List UInt8)}
    {seen : PlatformImpl} (h : w.seenByReset withNewNvmemBlob = some seen)
    (tpmInit : LibraryRun B ρ) :
    w.reset withNewNvmemBlob tpmInit =
      (runLibrary { w with platform := some seen } tpmInit).map fun w => (.ok (), w) := by
  obtain ⟨⟨r, w'⟩, hreset, hseen⟩ := Option.bind_eq_some_iff.mp h
  unfold reset at hreset ⊢
  obtain ⟨p, hp, hreset⟩ := Option.bind_eq_some_iff.mp hreset
  rw [hp, Option.bind_some]
  rcases p.powerCycle_cases withNewNvmemBlob with ⟨-, hcycle⟩ | ⟨blob, -, -, hcycle⟩
  · rw [hcycle] at hreset ⊢
    obtain ⟨w₁, hrun, hw₁⟩ := Option.map_eq_some_iff.mp hreset
    obtain ⟨p₀, p₁, hp₀, hrun, rfl⟩ := runLibrary_eq_some.mp hrun
    obtain ⟨rfl, rfl⟩ := Prod.mk.inj hw₁
    obtain rfl := Option.some.inj hp₀
    obtain rfl := Option.some.inj hrun
    obtain rfl := Option.some.inj hseen
    rfl
  · rw [hcycle] at hreset
    obtain ⟨rfl, rfl⟩ := Prod.mk.inj (Option.some.inj hreset)
    cases hseen

/-- A reset for which the region has the right size shows `_TPM_Init` the platform
powered on again. -/
theorem seenByReset_eq {w : Process B ρ} {p : PlatformImpl} (hp : w.platform = some p)
    {withNewNvmemBlob : Option (List UInt8)}
    (hlen : ∀ blob, withNewNvmemBlob = some blob → blob.length = nvMemorySize) :
    w.seenByReset withNewNvmemBlob =
      some (p.poweredAgain (p.resetRegion withNewNvmemBlob)) := by
  unfold seenByReset reset
  rw [hp, Option.bind_some]
  rcases p.powerCycle_cases withNewNvmemBlob with ⟨-, hcycle⟩ | ⟨blob, hblob, hne, -⟩
  · rw [hcycle]
    rfl
  · exact absurd (hlen blob hblob) hne

/-- Without a new blob, `_TPM_Init` sees the region that was in memory. -/
theorem seenByReset_none {w : Process B ρ} {p : PlatformImpl} (hp : w.platform = some p) :
    w.seenByReset none = some (p.poweredAgain p.state.nvmem.region) :=
  seenByReset_eq hp (by intro blob hblob; cases hblob)

/-- A reset that fails shows `_TPM_Init` nothing. -/
theorem seenByReset_of_ne {w : Process B ρ} {p : PlatformImpl} (hp : w.platform = some p)
    {blob : List UInt8} (hlen : blob.length ≠ nvMemorySize) :
    w.seenByReset (some blob) = none := by
  unfold seenByReset reset
  rw [hp, Option.bind_some, PlatformImpl.powerCycle_some_of_ne hlen]
  rfl

/-- A new initialization from a blob of the right size shows `_TPM_Init` a fresh
platform. -/
theorem seenAfterDrop_eq {w : Process B ρ} {p : PlatformImpl} (hp : w.platform = some p)
    {nvmemBlob : List UInt8} (hlen : nvmemBlob.length = nvMemorySize)
    (callbacks : HostCallbacks) :
    w.seenAfterDrop callbacks nvmemBlob =
      some (.powerUp callbacks (.coldInitWithPersistentState nvmemBlob)) := by
  unfold seenAfterDrop drop
  rw [hp, Option.map_some, Option.bind_some]
  have hvalid : (InitKind.coldInitWithPersistentState nvmemBlob).Valid := hlen
  rw [initializePlatform_of_valid rfl hvalid]
  rfl

/-- A new initialization from any other blob is refused. -/
theorem seenAfterDrop_of_ne {w : Process B ρ} {p : PlatformImpl} (hp : w.platform = some p)
    {nvmemBlob : List UInt8} (hlen : nvmemBlob.length ≠ nvMemorySize)
    (callbacks : HostCallbacks) : w.seenAfterDrop callbacks nvmemBlob = none := by
  unfold seenAfterDrop drop
  rw [hp, Option.map_some, Option.bind_some]
  have hvalid : ¬ (InitKind.coldInitWithPersistentState nvmemBlob).Valid := hlen
  let empty : Process B ρ := { w with platform := none, handles := w.handles - 1 }
  obtain ⟨e, he⟩ := initializePlatform_of_not_valid (w := empty) rfl hvalid callbacks
    empty.silent empty.silent
  rw [he]
  rfl

/-- Whatever the library does in the new initialization, it does to the platform that
`_TPM_Init` sees. -/
theorem startLibrary_of_seenAfterDrop {w : Process B ρ} {callbacks : HostCallbacks}
    {nvmemBlob : List UInt8} {fresh : PlatformImpl}
    (h : w.seenAfterDrop callbacks nvmemBlob = some fresh)
    (manufacture tpmInit : LibraryRun B ρ) :
    ∃ w₁, w.drop = some w₁ ∧
      w₁.initializePlatform callbacks (.coldInitWithPersistentState nvmemBlob) manufacture
          tpmInit =
        startLibrary { w₁ with platform := some fresh } (.coldInitWithPersistentState nvmemBlob)
          manufacture tpmInit := by
  obtain ⟨w₁, hdrop, -⟩ := Option.bind_eq_some_iff.mp h
  obtain ⟨p, hp, rfl⟩ := Option.map_eq_some_iff.mp hdrop
  refine ⟨_, hdrop, ?_⟩
  by_cases hlen : nvmemBlob.length = nvMemorySize
  · rw [seenAfterDrop_eq hp hlen callbacks, Option.some.injEq] at h
    rw [← h]
    have hvalid : (InitKind.coldInitWithPersistentState nvmemBlob).Valid := hlen
    exact initializePlatform_of_valid rfl hvalid callbacks manufacture tpmInit
  · rw [seenAfterDrop_of_ne hp hlen callbacks] at h
    cases h

/-! ## The comparison -/

/-- **Power cycles agree.**  In every state with a live platform and for every reset,
with a new blob or without, of a region of the right size: `_TPM_Init` sees the same
clock, NV memory and power flag as after dropping the handle and initializing from
that region.  Cancel flag and locality it sees as the host last set them, where a new
handle has the defaults.  A region of another size cannot be initialized from. -/
theorem reset_agrees_with_drop (w : Process B ρ) (p : PlatformImpl) (hp : w.platform = some p)
    (withNewNvmemBlob : Option (List UInt8)) (callbacks : HostCallbacks) :
    ((p.resetRegion withNewNvmemBlob).length = nvMemorySize →
      ∃ seen fresh, w.seenByReset withNewNvmemBlob = some seen ∧
        w.seenAfterDrop callbacks (p.resetRegion withNewNvmemBlob) = some fresh ∧
        seen.state.clock = fresh.state.clock ∧
        seen.state.nvmem = fresh.state.nvmem ∧
        seen.state.powerPlat = fresh.state.powerPlat ∧
        seen.state.cancel = p.state.cancel ∧ fresh.state.cancel = .new ∧
        seen.state.locality = p.state.locality ∧ fresh.state.locality = .new) ∧
    ((p.resetRegion withNewNvmemBlob).length ≠ nvMemorySize →
      w.seenAfterDrop callbacks (p.resetRegion withNewNvmemBlob) = none) := by
  constructor
  · intro hlen
    have hblob : ∀ blob, withNewNvmemBlob = some blob → blob.length = nvMemorySize := by
      rintro blob rfl
      exact hlen
    refine ⟨_, _, seenByReset_eq hp hblob, seenAfterDrop_eq hp hlen callbacks, ?_⟩
    exact ⟨rfl, rfl, rfl, rfl, rfl, rfl, rfl⟩
  · intro hlen
    exact seenAfterDrop_of_ne hp hlen callbacks

/-- A command in which the library writes a byte, adjusts the rate of the clock, reads it
twice and asks for the power flag. -/
def usingRun : LibraryRun miniBuild Unit where
  callbacks := [.nvMemoryWrite 0 [1], .clockRateAdjust 1, .timerRead 1000, .timerRead 5000,
    .wasPowerLost]
  memory := miniMemory
  ret := 0

/-- The platform after it, once the host has set the cancel flag and the locality. -/
def usedPlatform : PlatformImpl where
  callbacks := { commits := [] }
  state := { writtenPlatform.state with
    clock := { ClockState.new with
      lastSystemTime := 5000, lastReportedTime := 4000, lastRealTime := 3999, tpmTime := 4000
      adjustRate := 29999 }
    powerPlat := { powerLost := false }
    cancel := { flag := true }
    locality := { locality := 3 } }

/-- The process with it. -/
def usedProcess : Process miniBuild Unit :=
  { coldProcess with platform := some usedPlatform }

/-- After such a command, `reset(None)` and dropping the handle both start the clock anew,
report the loss of power and keep the byte; the cancel flag and the locality differ. -/
theorem reset_agrees_with_drop_used :
    runFrom (step miniLibrary refusingCodec) coldProcess
        [.executeCommand usingRun.command, .setCancelFlag true, .setLocality .L3] =
      some usedProcess ∧
    ∃ seen fresh, usedProcess.seenByReset none = some seen ∧
      usedProcess.seenAfterDrop { commits := [] } writtenRegion = some fresh ∧
      seen.state.clock = fresh.state.clock ∧ seen.state.clock ≠ usedPlatform.state.clock ∧
      seen.state.nvmem = fresh.state.nvmem ∧ seen.state.nvmem.region = writtenRegion ∧
      seen.state.powerPlat = fresh.state.powerPlat ∧
      seen.state.cancel.flag = true ∧ fresh.state.cancel.flag = false ∧
      seen.state.locality.locality = 3 ∧ fresh.state.locality.locality = 0 := by
  have hcommand : step miniLibrary refusingCodec coldProcess (.executeCommand usingRun.command) =
      some { coldProcess with
        platform := some ((usedPlatform.withCancel false).localitySet .L0) } := by
    rw [step_command Nat.one_ne_zero]
    refine runLibrary_eq_some.mpr ⟨_, _, rfl, ?_, rfl⟩
    have hfirst : ClockState.timerRead { ClockState.new with adjustRate := 29999 } 1000 =
        some (0, { ClockState.new with adjustRate := 29999, lastSystemTime := 1000 }) := by
      decide
    have hsecond : ClockState.timerRead
        { ClockState.new with adjustRate := 29999, lastSystemTime := 1000 } 5000 =
          some (4000, usedPlatform.state.clock) := by
      decide
    rw [usingRun, runFrom_cons, step_nvMemoryWrite, Option.bind_some]
    refine (runFrom_cons_eq_some _).mpr ⟨{ writtenPlatform with state := { writtenPlatform.state
      with clock := { ClockState.new with adjustRate := 29999 } } }, rfl, ?_⟩
    refine (runFrom_cons_eq_some _).mpr ⟨_, Callback.step_timerRead hfirst, ?_⟩
    exact (runFrom_cons_eq_some _).mpr ⟨_, Callback.step_timerRead hsecond, rfl⟩
  have hrun : runFrom (step miniLibrary refusingCodec) coldProcess
      [.executeCommand usingRun.command, .setCancelFlag true, .setLocality .L3] =
        some usedProcess := (runFrom_cons_eq_some _).mpr ⟨_, hcommand, rfl⟩
  have hlength : (usedPlatform.resetRegion none).length = nvMemorySize := by
    show writtenRegion.length = nvMemorySize
    rw [writtenRegion, Bytes.length_splice written_fits, List.length_replicate]
  obtain ⟨seen, fresh, hseen, hfresh, hclock, hnvmem, hpower, hcancel, hnew, hlocality, hzero⟩ :=
    (reset_agrees_with_drop usedProcess usedPlatform rfl none { commits := [] }).1 hlength
  obtain rfl := Option.some.inj ((seenByReset_none rfl).symm.trans hseen)
  refine ⟨hrun, _, fresh, hseen, hfresh, hclock, ?_, hnvmem, rfl, hpower, ?_, ?_, ?_, ?_⟩
  · intro hc
    cases congrArg ClockState.adjustRate hc
  · rw [hcancel]
    rfl
  · rw [hnew]
    rfl
  · rw [hlocality]
    rfl
  · rw [hzero]
    rfl

/-- A cold process whose host has set the cancel flag. -/
def cancelledProcess : Process miniBuild Unit where
  platform := some ((PlatformImpl.powerUp { commits := [] } .coldInit).withCancel true)
  library := miniMemory
  handles := 1

/-- After `set_cancel_flag(true)` the two disagree. -/
theorem reset_disagrees_with_drop :
    ¬ ∀ (codec : Codec) (ops : List (Op miniBuild Unit)) (w : Process miniBuild Unit)
        (blob : List UInt8) (callbacks : HostCallbacks) (seen fresh : PlatformImpl),
      runFrom (step miniLibrary codec) (start miniMemory) ops = some w →
      blob.length = nvMemorySize → w.seenByReset (some blob) = some seen →
      w.seenAfterDrop callbacks blob = some fresh → seen.state.cancel = fresh.state.cancel := by
  intro h
  let blob : List UInt8 := List.replicate nvMemorySize 0
  have hlen : blob.length = nvMemorySize := List.length_replicate
  have hblob : ∀ b, some blob = some b → b.length = nvMemorySize := by
    intro b hb
    exact Option.some.inj hb ▸ hlen
  have hrun : runFrom (step miniLibrary refusingCodec) (start miniMemory)
      [.initializePlatform { commits := [] } .coldInit coldProcess.silent coldProcess.silent,
        .setCancelFlag true] = some cancelledProcess := rfl
  have hseen := seenByReset_eq (w := cancelledProcess) rfl hblob
  have hfresh := seenAfterDrop_eq (w := cancelledProcess) rfl hlen { commits := [] }
  have hcancel := h refusingCodec _ cancelledProcess blob { commits := [] } _ _ hrun hlen hseen
    hfresh
  cases hcancel

end Process

end TpmPlatform
