/-
# The platform state (`plat/mod.rs`, `plat/api/{cancel,failure,locality,power_plat,entropy}.rs`)

The small components of the platform, the record of all seven and the platform
object with its host callbacks.

The host's callback object is foreign code.  What it answers is an input of the
operation that asks; what it has been given is kept in `HostCallbacks`.
-/
import TpmPlatform.Clock
import TpmPlatform.Nvmem
import Mathlib.Data.Fintype.Basic

namespace TpmPlatform

/-! ## Cancel flag -/

/-- `CancelState`. -/
structure CancelState where
  flag : Bool
  deriving DecidableEq

/-- `CancelState::new`. -/
def CancelState.new : CancelState where
  flag := false

/-! ## Failure mode -/

/-- `FailureState`. -/
structure FailureState where
  failureCode : UInt32
  failureLocation : UInt64
  inFailureMode : Bool
  deriving DecidableEq

namespace FailureState

/-- `FailureState::new`. -/
def new : FailureState where
  failureCode := 0
  failureLocation := 0
  inFailureMode := false

/-- `fail`: only the first failure is recorded. -/
def fail (s : FailureState) (locationCode : UInt64) (failureCode : Int32) : FailureState :=
  if !s.inFailureMode then
    { failureCode := failureCode.toUInt32
      failureLocation := locationCode
      inFailureMode := true }
  else s

/-- A failure is in failure mode. -/
theorem inFailureMode_fail (s : FailureState) (locationCode : UInt64) (failureCode : Int32) :
    (s.fail locationCode failureCode).inFailureMode = true := by
  unfold fail
  cases h : s.inFailureMode
  · rfl
  · exact h

/-- A later failure changes nothing. -/
theorem fail_of_inFailureMode {s : FailureState} (h : s.inFailureMode = true)
    (locationCode : UInt64) (failureCode : Int32) : s.fail locationCode failureCode = s := by
  unfold fail
  rw [h]
  rfl

end FailureState

/-! ## Locality -/

/-- `ExtendedLocality`: a `u8` that `try_from` has checked. -/
structure ExtendedLocality where
  value : UInt8
  valid : 32 ≤ value
  deriving DecidableEq

/-- `Locality`. -/
inductive Locality
  | L0
  | L1
  | L2
  | L3
  | L4
  | extended (locality : ExtendedLocality)
  deriving DecidableEq

/-- `u8::from(Locality)`. -/
def Locality.toU8 : Locality → UInt8
  | .L0 => 0
  | .L1 => 1
  | .L2 => 2
  | .L3 => 3
  | .L4 => 4
  | .extended locality => locality.value

/-- `Locality::try_from(u8)`. -/
def Locality.tryFrom (value : UInt8) : Option Locality :=
  match value with
  | 0 => some .L0
  | 1 => some .L1
  | 2 => some .L2
  | 3 => some .L3
  | 4 => some .L4
  | value => if h : 32 ≤ value then some (.extended ⟨value, h⟩) else none

/-- The locality values that the specification defines. -/
def IsLocality (value : UInt8) : Prop := value ≤ 4 ∨ 32 ≤ value

instance : DecidablePred IsLocality := fun value =>
  inferInstanceAs (Decidable (value ≤ 4 ∨ 32 ≤ value))

/-- A locality has a locality value. -/
theorem isLocality_toU8 (locality : Locality) : IsLocality locality.toU8 := by
  cases locality with
  | extended locality => exact Or.inr locality.valid
  | _ => exact Or.inl (by decide)

/-- The byte of a locality reads back as the locality. -/
theorem tryFrom_toU8 (locality : Locality) : Locality.tryFrom locality.toU8 = some locality := by
  cases locality with
  | extended locality =>
      obtain ⟨value, h⟩ := locality
      have hlow : ∀ k : UInt8, k < 32 → value ≠ k := by
        rintro k hk rfl
        exact absurd h (UInt8.not_le.mpr hk)
      have h0 := hlow 0 (by decide)
      have h1 := hlow 1 (by decide)
      have h2 := hlow 2 (by decide)
      have h3 := hlow 3 (by decide)
      have h4 := hlow 4 (by decide)
      simp [Locality.toU8, Locality.tryFrom, h]
  | _ => rfl

/-- `LocalityState`. -/
structure LocalityState where
  locality : UInt8
  deriving DecidableEq

/-- `LocalityState::new`. -/
def LocalityState.new : LocalityState where
  locality := 0

/-! ## Power -/

/-- `PowerPlatState`. -/
structure PowerPlatState where
  powerLost : Bool
  deriving DecidableEq

/-- `PowerPlatState::new`. -/
def PowerPlatState.new : PowerPlatState where
  powerLost := false

/-- `was_power_lost`. -/
def PowerPlatState.wasPowerLost (s : PowerPlatState) : Bool × PowerPlatState :=
  (s.powerLost, { powerLost := false })

/-! ## Entropy -/

/-- `ENTROPY_BLOCK_SIZE`. -/
def entropyBlockSize : ℕ := 4

/-- A block of the continuous RNG test. -/
abbrev EntropyBlock := Fin entropyBlockSize → UInt8

/-- `EntropyState`. -/
structure EntropyState where
  previousBlock : Option EntropyBlock
  deriving DecidableEq

/-- One answer of the host's `get_crypt_random`: what it left in the buffer it was
given, and the count (or the error) it returned. -/
structure RandomAnswer where
  bytes : ℕ → UInt8
  returned : Except String ℕ

namespace EntropyState

/-- `EntropyState::new`. -/
def new : EntropyState where
  previousBlock := none

/-- The loop of `read_entropy_block`, with `written` bytes of the block counted
after `calls` calls: the block or the error, and the number of calls made. -/
def readEntropyLoop (random : ℕ → RandomAnswer) (block : EntropyBlock) (written calls : ℕ) :
    Except Error EntropyBlock × ℕ :=
  if written < entropyBlockSize then
    let requested := entropyBlockSize - written
    let answer := random calls
    -- the callback may write anywhere in the rest of the block, whatever it counts
    let block : EntropyBlock := fun i =>
      if written ≤ i.val then answer.bytes (i.val - written) else block i
    match answer.returned with
    | .error e => (.error (.platformCallback e), calls + 1)
    | .ok returned =>
      if _h : returned = 0 ∨ returned > requested then
        (.error (.invalidEntropyCallbackLength requested returned), calls + 1)
      else
        readEntropyLoop random block (written + returned) (calls + 1)
  else
    (.ok block, calls)
termination_by entropyBlockSize - written
decreasing_by omega

/-- `read_entropy_block`. -/
def readEntropyBlock (random : ℕ → RandomAnswer) : Except Error EntropyBlock × ℕ :=
  readEntropyLoop random (fun _ => 0) 0 0

/-- `initialize_entropy`. -/
def initializeEntropy (s : EntropyState) (random : ℕ → RandomAnswer) :
    Except Error Unit × EntropyState :=
  match (readEntropyBlock random).1 with
  | .error e => (.error e, s)
  | .ok block => (.ok (), { previousBlock := some block })

/-- `get_entropy`: the outcome, the caller's buffer and the state; `none` when the
assertion that the source has been initialized fails. -/
def getEntropy (s : EntropyState) (buf : List UInt8) (random : ℕ → RandomAnswer) :
    Option (Except Error ℕ × List UInt8 × EntropyState) :=
  if s.previousBlock.isSome then
    some <|
      match (readEntropyBlock random).1 with
      | .error e => (.error e, buf, s)
      | .ok block =>
        if s.previousBlock = some block then
          (.error .entropyHealthTestFailed, buf, s)
        else
          let returned := min buf.length entropyBlockSize
          (.ok returned, Bytes.splice buf 0 ((List.ofFn block).take returned),
            { previousBlock := some block })
  else none

end EntropyState

/-! ## The platform -/

/-- `MsTpm185PlatformState`. -/
structure PlatformState where
  cancel : CancelState
  clock : ClockState
  failure : FailureState
  locality : LocalityState
  nvmem : NvState
  powerPlat : PowerPlatState
  entropy : EntropyState
  deriving DecidableEq

namespace PlatformState

/-- `MsTpm185PlatformState::new`. -/
def new : PlatformState where
  cancel := .new
  clock := .new
  failure := .new
  locality := .new
  nvmem := .new
  powerPlat := .new
  entropy := .new

/-- `signal_power_on`. -/
def signalPowerOn (s : PlatformState) : Except Error Unit × PlatformState :=
  -- timer_reset
  let s := { s with clock := .new }
  let s := { s with powerPlat := { powerLost := true } }
  let (result, nvmem) := s.nvmem.nvEnable
  (result, { s with nvmem := nvmem })

/-- `signal_power_off`. -/
def signalPowerOff (s : PlatformState) : PlatformState :=
  { s with nvmem := s.nvmem.nvDisable }

/-- Powering on never fails; it restarts the clock, raises the power flag and
enables the region. -/
theorem signalPowerOn_eq (s : PlatformState) :
    s.signalPowerOn = (.ok (), { s with
      clock := .new, powerPlat := { powerLost := true }, nvmem := s.nvmem.nvEnable.2 }) := rfl

end PlatformState

/-- A call of the host's `commit_nv_state`: what it was handed, and whether it
accepted. -/
structure Commit where
  state : List UInt8
  accepted : Bool
  deriving DecidableEq

/-- The host's callback object, as far as it can be observed: the commits it has
been handed, oldest first. -/
structure HostCallbacks where
  commits : List Commit
  deriving DecidableEq

/-- `MsTpm185PlatformImpl`. -/
structure PlatformImpl where
  callbacks : HostCallbacks
  state : PlatformState
  deriving DecidableEq

namespace PlatformImpl

/-- `MsTpm185PlatformImpl::new`. -/
def new (callbacks : HostCallbacks) : PlatformImpl where
  callbacks := callbacks
  state := .new

/-- `restore_runtime_state`. -/
def restoreRuntimeState (p : PlatformImpl) (state : PlatformState) : PlatformImpl :=
  { p with state := state }

/-- `get_runtime_state`. -/
def getRuntimeState (p : PlatformImpl) : PlatformState := p.state

/-- `nv_commit`: the whole region goes to the host, whose answer is `verdict`. -/
def nvCommit (p : PlatformImpl) (verdict : Except String Unit) :
    Except Error Unit × PlatformImpl :=
  (verdict.mapError .platformCallback,
    { p with callbacks := { commits := p.callbacks.commits ++
        [{ state := p.state.nvmem.region, accepted := verdict.isOk }] } })

/-- The platform with another NV state. -/
def withNvmem (p : PlatformImpl) (nvmem : NvState) : PlatformImpl :=
  { p with state := { p.state with nvmem := nvmem } }

end PlatformImpl

end TpmPlatform
