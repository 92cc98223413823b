/-
# The platform handle (`plat/mod.rs`, `tpmlib_state.rs`)

The public methods of `MsTpm185Platform` over the state of a process: the global
`PLATFORM`, the memory of the TPM library and the number of live handles.

What the library does inside `TPM_Manufacture`, `_TPM_Init` and `ExecuteCommand`
is foreign code.  Such a call is a `LibraryRun`, an input of the method that makes
it: the callbacks it issues, the memory it leaves and the value it returns.  What
`ExecuteCommand` does depends on its arguments, and is a function of them in `CommandRun`.
-/
import TpmPlatform.ExecuteCommand
import TpmPlatform.PlatApi
import TpmPlatform.RuntimeState

namespace TpmPlatform

open Runs

/-! ## The saved state -/

/-- `MsTpm185RuntimeState`; the library's half is `MsTpm185LibraryState`, one byte
vector. -/
structure RuntimeState where
  tpmlibState : List UInt8
  platformState : PlatformState
  deriving DecidableEq

/-- The serializer, `postcard`. -/
structure Codec where
  toStdvec : RuntimeState → Except String (List UInt8)
  fromBytes : List UInt8 → Except String RuntimeState

/-! ## The process -/

/-- One call into the library, as the process sees it. -/
structure LibraryRun {ι : Type} (B : Build ι) (ρ : Type) where
  callbacks : List Callback
  memory : LibraryState B ρ
  ret : ℤ

/-- A use of `execute_command`, or of its unchecked variant: the two slices, and for the
arguments of the call what the library does and what it leaves in the buffers. -/
structure CommandRun {ι : Type} (B : Build ι) (ρ : Type) where
  checked : Bool
  request : List UInt8
  response : List UInt8
  reply : (call : LibraryCall) → LibraryReply call
  library : LibraryCall → LibraryRun B ρ

namespace CommandRun

variable {ι : Type} {B : Build ι} {ρ : Type}

/-- What the method leaves behind; the unchecked variant has no error to return. -/
def result (run : CommandRun B ρ) : CommandResult (Except Error ℕ) :=
  if run.checked then TpmPlatform.executeCommand run.reply run.request run.response
  else
    let unchecked := executeCommandUnchecked run.reply run.request run.response
    { unchecked with outcome := unchecked.outcome.map .ok }

/-- The callbacks that the library issues: none if it is not called. -/
def callbacks (run : CommandRun B ρ) : List Callback :=
  match run.result.call with
  | none => []
  | some call => (run.library call).callbacks

end CommandRun

/-- The state of the process; `platform` is the content of the mutex `PLATFORM`. -/
structure Process {ι : Type} (B : Build ι) (ρ : Type) where
  platform : Option PlatformImpl
  library : LibraryState B ρ
  handles : ℕ

/-- `InitKind`. -/
inductive InitKind
  | coldInit
  | coldInitWithSize (size : ℕ)
  | coldInitWithPersistentState (nvmemBlob : List UInt8)
  deriving DecidableEq

/-- Whether `initialize` manufactures the TPM. -/
def InitKind.manufactures : InitKind → Bool
  | .coldInit => true
  | .coldInitWithSize _ => true
  | .coldInitWithPersistentState _ => false

namespace PlatformImpl

/-- The platform after an NV operation that `?` propagates the error of. -/
def tryNvmem (p : PlatformImpl) : Except Error Unit × NvState → Except Error PlatformImpl
  | (.ok (), nvmem) => .ok (p.withNvmem nvmem)
  | (.error e, _) => .error e

/-- The platform that `initialize` builds, before it is powered on. -/
def ofInitKind (callbacks : HostCallbacks) : InitKind → Except Error PlatformImpl
  | .coldInit =>
    let platform := PlatformImpl.new callbacks
    platform.tryNvmem platform.state.nvmem.nvEnable
  | .coldInitWithSize size =>
    match validateNvSize size with
    | .error e => .error e
    | .ok () =>
      let platform := PlatformImpl.new callbacks
      platform.tryNvmem platform.state.nvmem.nvEnable
  | .coldInitWithPersistentState nvmemBlob =>
    let platform := PlatformImpl.new callbacks
    platform.tryNvmem (platform.state.nvmem.nvEnableFromBlob nvmemBlob)

/-- `signal_power_on` on the platform object. -/
def signalPowerOn (p : PlatformImpl) : Except Error Unit × PlatformImpl :=
  let (result, state) := p.state.signalPowerOn
  (result, { p with state := state })

/-- `signal_power_off` on the platform object. -/
def signalPowerOff (p : PlatformImpl) : PlatformImpl :=
  { p with state := p.state.signalPowerOff }

/-- The part of `reset` that holds the lock: power off, the new region or the old
one, power on. -/
def powerCycle (p : PlatformImpl) (withNewNvmemBlob : Option (List UInt8)) :
    Except Error Unit × PlatformImpl :=
  let p := p.signalPowerOff
  match withNewNvmemBlob with
  | some nvmemBlob =>
    match p.state.nvmem.nvEnableFromBlob nvmemBlob with
    | (.error e, nvmem) => (.error e, p.withNvmem nvmem)
    | (.ok (), nvmem) => (p.withNvmem nvmem).signalPowerOn
  | none =>
    -- re-use the region in memory instead of a round trip through the host's storage
    (p.withNvmem { p.state.nvmem with isInit := true }).signalPowerOn

/-- The platform after `set_cancel` or `clear_cancel`. -/
def withCancel (p : PlatformImpl) (flag : Bool) : PlatformImpl :=
  { p with state := { p.state with cancel := { flag := flag } } }

/-- `locality_set`. -/
def localitySet (p : PlatformImpl) (locality : Locality) : PlatformImpl :=
  { p with state := { p.state with locality := { locality := locality.toU8 } } }

/-- The platform with another failure state, as the library's `_plat__Fail` leaves it. -/
def withFailure (p : PlatformImpl) (failure : FailureState) : PlatformImpl :=
  { p with state := { p.state with failure := failure } }

end PlatformImpl

section

variable {ι : Type} {B : Build ι} {ρ : Type}

/-! ## The library's runtime state -/

namespace LibraryState

/-- `get_runtime_state`: `none` when one of its assertions fails. -/
def getRuntimeState (lib : TpmLibrary B ρ) (s : LibraryState B ρ) : Option (List UInt8) := do
  let sized ← injectedGetRuntimeState lib s none (some 0)
  let size ← sized.bufferSize
  if sized.ret = 2 ∧ size ≠ 0 then
    let filled ←
      injectedGetRuntimeState lib s (some (List.replicate size.toNat 0)) (some size)
    if filled.ret = 0 then filled.buffer else none
  else none

/-- `restore_runtime_state`, with the platform's failure state before and after;
`none` in the `unreachable!` arms. -/
def restoreRuntimeState [DecidableEq ι] (lib : TpmLibrary B ρ) (s : LibraryState B ρ)
    (failure : FailureState) (state : List UInt8) :
    Option (Except Error Unit × LibraryState B ρ × FailureState) := do
  let applied ←
    injectedApplyRuntimeState lib s failure (some state) (UInt32.ofNat state.length)
  match applied.ret with
  | 0 => some (.ok (), applied.state, applied.failure)
  | 2 => some (.error .invalidRestoreSize, applied.state, applied.failure)
  | 3 => some (.error .invalidRestoreFormat, applied.state, applied.failure)
  | 4 => some (.error (.failedRestore 4), applied.state, applied.failure)
  | _ => none

end LibraryState

namespace Process

/-! ## The public methods -/

/-- A call into the library. -/
def runLibrary (w : Process B ρ) (run : LibraryRun B ρ) : Option (Process B ρ) :=
  w.platform.bind fun p =>
    (runFrom Callback.step p run.callbacks).map fun p =>
      { w with platform := some p, library := run.memory }

/-- The end of `initialize`, after the lock is released: manufacture if the kind asks
for it, `_TPM_Init`, and the handle. -/
def startLibrary (w : Process B ρ) (initKind : InitKind) (manufacture tpmInit : LibraryRun B ρ) :
    Option (Except Error Unit × Process B ρ) :=
  if initKind.manufactures then
    (w.runLibrary manufacture).bind fun w =>
      if manufacture.ret ≠ 0 then
        some (.error (.ffi "TPM_Manufacture" manufacture.ret), w)
      else
        (w.runLibrary tpmInit).map fun w => (.ok (), { w with handles := w.handles + 1 })
  else
    (w.runLibrary tpmInit).map fun w => (.ok (), { w with handles := w.handles + 1 })

/-- `MsTpm185Platform::initialize`; on success one handle more is live. -/
def initializePlatform (w : Process B ρ) (callbacks : HostCallbacks) (initKind : InitKind)
    (manufacture tpmInit : LibraryRun B ρ) : Option (Except Error Unit × Process B ρ) :=
  match w.platform with
  | some _ => some (.error .alreadyInitialized, w)
  | none =>
    match PlatformImpl.ofInitKind callbacks initKind with
    | .error e => some (.error e, w)
    | .ok newPlatform =>
      -- the global holds the platform from here on
      match newPlatform.signalPowerOn with
      | (.error e, p) => some (.error e, { w with platform := some p })
      | (.ok (), p) => startLibrary { w with platform := some p } initKind manufacture tpmInit

/-- `drop` of the handle. -/
def drop (w : Process B ρ) : Option (Process B ρ) :=
  w.platform.map fun _ => { w with platform := none, handles := w.handles - 1 }

/-- `reset`. -/
def reset (w : Process B ρ) (withNewNvmemBlob : Option (List UInt8)) (tpmInit : LibraryRun B ρ) :
    Option (Except Error Unit × Process B ρ) :=
  w.platform.bind fun p =>
    match p.powerCycle withNewNvmemBlob with
    | (.error e, p) => some (.error e, { w with platform := some p })
    | (.ok (), p) =>
      (runLibrary { w with platform := some p } tpmInit).map fun w => (.ok (), w)

/-- The call that a command makes, if its request is not refused, and what the method leaves
behind; `none` when a callback panics. -/
def callCommand (w : Process B ρ) (run : CommandRun B ρ) :
    Option (CommandResult (Except Error ℕ) × Process B ρ) :=
  match run.result.call with
  | none => some (run.result, w)
  | some call => (w.runLibrary (run.library call)).map fun w => (run.result, w)

/-- `execute_command`, or `execute_command_unchecked`: a reply that cannot be handed over
panics after the call. -/
def executeCommand (w : Process B ρ) (run : CommandRun B ρ) :
    Option (Except Error ℕ × Process B ρ) :=
  (w.callCommand run).bind fun (result, w) => result.outcome.map fun r => (r, w)

/-- `save_state`. -/
def saveState (lib : TpmLibrary B ρ) (codec : Codec) (w : Process B ρ) : Option (List UInt8) := do
  let tpmlibState ← w.library.getRuntimeState lib
  let p ← w.platform
  match codec.toStdvec { tpmlibState := tpmlibState, platformState := p.getRuntimeState } with
  | .ok bytes => some bytes
  | .error _ => none

/-- `restore_state`. -/
def restoreState [DecidableEq ι] (lib : TpmLibrary B ρ) (codec : Codec) (w : Process B ρ)
    (state : List UInt8) : Option (Except Error Unit × Process B ρ) :=
  match codec.fromBytes state with
  | .error e => some (.error (.failedPlatformRestore e), w)
  | .ok state =>
    w.platform.bind fun p =>
      let p := p.restoreRuntimeState state.platformState
      (w.library.restoreRuntimeState lib p.state.failure state.tpmlibState).map
        fun (result, library, failure) =>
          (result, { w with platform := some (p.withFailure failure), library := library })

/-- `set_cancel_flag`. -/
def setCancelFlag (w : Process B ρ) (enabled : Bool) : Option (Process B ρ) :=
  w.platform.map fun p => { w with platform := some (p.withCancel enabled) }

/-- `set_locality`. -/
def setLocality (w : Process B ρ) (locality : Locality) : Option (Process B ρ) :=
  w.platform.map fun p => { w with platform := some (p.localitySet locality) }

/-! ## Runs -/

/-- A use of the crate, with the answers of the foreign code. -/
inductive Op {ι : Type} (B : Build ι) (ρ : Type)
  | initializePlatform (callbacks : HostCallbacks) (initKind : InitKind)
      (manufacture tpmInit : LibraryRun B ρ)
  | drop
  | reset (withNewNvmemBlob : Option (List UInt8)) (tpmInit : LibraryRun B ρ)
  | executeCommand (run : CommandRun B ρ)
  | saveState
  | restoreState (state : List UInt8)
  | setCancelFlag (enabled : Bool)
  | setLocality (locality : Locality)

/-- One use of the crate: every method but `initialize` needs a live handle. -/
def step [DecidableEq ι] (lib : TpmLibrary B ρ) (codec : Codec) (w : Process B ρ) :
    Op B ρ → Option (Process B ρ)
  | .initializePlatform callbacks initKind manufacture tpmInit =>
    (w.initializePlatform callbacks initKind manufacture tpmInit).map Prod.snd
  | .drop => if w.handles = 0 then none else w.drop
  | .reset withNewNvmemBlob tpmInit =>
    if w.handles = 0 then none else (w.reset withNewNvmemBlob tpmInit).map Prod.snd
  | .executeCommand run =>
    if w.handles = 0 then none else (w.executeCommand run).map Prod.snd
  | .saveState => if w.handles = 0 then none else (w.saveState lib codec).map fun _ => w
  | .restoreState state =>
    if w.handles = 0 then none else (w.restoreState lib codec state).map Prod.snd
  | .setCancelFlag enabled => if w.handles = 0 then none else w.setCancelFlag enabled
  | .setLocality locality => if w.handles = 0 then none else w.setLocality locality

/-- The process when it starts: nothing initialized. -/
def start (library : LibraryState B ρ) : Process B ρ where
  platform := none
  library := library
  handles := 0

end Process

end

end TpmPlatform
