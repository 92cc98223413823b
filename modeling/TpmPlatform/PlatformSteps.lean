/-
# What each method of the handle does

One inversion lemma for each method of `Platform`, all of them put together in
`Process.effect`, and the rule that turns a property of the platform object which
every method keeps into an invariant of all runs (`PlatformInvariant`).  Later files
reason with these and do not unfold the methods again.
-/
import TpmPlatform.Platform

namespace TpmPlatform

open Runs

/-! ## Powering on -/

/-- The arguments that `initialize` accepts. -/
def InitKind.Valid : InitKind → Prop
  | .coldInit => True
  | .coldInitWithSize size => size = nvMemorySize
  | .coldInitWithPersistentState nvmemBlob => nvmemBlob.length = nvMemorySize

instance : DecidablePred InitKind.Valid := fun initKind =>
  match initKind with
  | .coldInit => isTrue trivial
  | .coldInitWithSize size => inferInstanceAs (Decidable (size = nvMemorySize))
  | .coldInitWithPersistentState nvmemBlob =>
    inferInstanceAs (Decidable (nvmemBlob.length = nvMemorySize))

/-- The NV region that `initialize` starts with. -/
def InitKind.region : InitKind → List UInt8
  | .coldInit => List.replicate nvMemorySize 0
  | .coldInitWithSize _ => List.replicate nvMemorySize 0
  | .coldInitWithPersistentState nvmemBlob => nvmemBlob

/-- A valid kind starts with a region of the right size. -/
theorem InitKind.length_region {initKind : InitKind} (h : initKind.Valid) :
    initKind.region.length = nvMemorySize := by
  cases initKind with
  | coldInit => exact List.length_replicate
  | coldInitWithSize size => exact List.length_replicate
  | coldInitWithPersistentState nvmemBlob => exact h

namespace PlatformImpl

/-- The platform that a valid `initialize` puts in the global and powers on. -/
def powerUp (callbacks : HostCallbacks) (initKind : InitKind) : PlatformImpl where
  callbacks := callbacks
  state := { PlatformState.new with
    nvmem := { region := initKind.region, isInit := true }
    powerPlat := { powerLost := true } }

@[simp] theorem nvmem_powerUp (callbacks : HostCallbacks) (initKind : InitKind) :
    (powerUp callbacks initKind).state.nvmem = { region := initKind.region, isInit := true } := rfl

/-- Powering on an enabled platform restarts the clock and raises the power flag. -/
theorem signalPowerOn_of_isInit {p : PlatformImpl} (h : p.state.nvmem.isInit = true) :
    p.signalPowerOn = (.ok (), { p with state := { p.state with
      clock := .new, powerPlat := { powerLost := true } } }) := by
  unfold PlatformImpl.signalPowerOn
  rw [PlatformState.signalPowerOn_eq, NvState.nvEnable_of_isInit h]

/-- **Building a platform.**  A valid kind gives the platform that `powerUp` names,
any other one an NV error. -/
theorem ofInitKind_cases (callbacks : HostCallbacks) (initKind : InitKind) :
    (initKind.Valid ∧ ∃ p, ofInitKind callbacks initKind = .ok p ∧
      p.signalPowerOn = (.ok (), powerUp callbacks initKind)) ∨
    (¬ initKind.Valid ∧ ∃ e, ofInitKind callbacks initKind = .error (.nvMem e)) := by
  have hcold : ∃ p, ofInitKind callbacks .coldInit = .ok p ∧
      p.signalPowerOn = (.ok (), powerUp callbacks .coldInit) :=
    ⟨_, rfl, signalPowerOn_of_isInit rfl⟩
  cases initKind with
  | coldInit => exact Or.inl ⟨trivial, hcold⟩
  | coldInitWithSize size =>
      by_cases hsize : size = nvMemorySize
      · left
        obtain ⟨p, hp, hon⟩ := hcold
        refine ⟨hsize, p, ?_, hon⟩
        rw [← hp]
        simp only [ofInitKind, validateNvSize_eq_ok.mpr hsize]
      · right
        refine ⟨hsize, .mismatchedBlobSize nvMemorySize size, ?_⟩
        rw [ofInitKind, validateNvSize, if_pos hsize]
  | coldInitWithPersistentState nvmemBlob =>
      rcases NvState.nvEnableFromBlob_cases NvState.new nvmemBlob with ⟨-, hlen, hok⟩ | ⟨e, he⟩
      · left
        refine ⟨hlen, (PlatformImpl.new callbacks).withNvmem
          { region := nvmemBlob, isInit := true }, ?_, signalPowerOn_of_isInit rfl⟩
        show tryNvmem _ (NvState.nvEnableFromBlob NvState.new nvmemBlob) = _
        rw [hok]
        rfl
      · right
        refine ⟨fun hlen => ?_, e, ?_⟩
        · rw [NvState.nvEnableFromBlob_eq_ok rfl hlen] at he
          exact absurd (congrArg Prod.fst he) (by intro hc; cases hc)
        · show tryNvmem _ (NvState.nvEnableFromBlob NvState.new nvmemBlob) = _
          rw [he]
          rfl

/-! ## The power cycle of `reset` -/

/-- The state after the power cycle of a reset that succeeds with `region`. -/
def poweredAgain (p : PlatformImpl) (region : List UInt8) : PlatformImpl :=
  { p with state := { p.state with
    clock := .new
    powerPlat := { powerLost := true }
    nvmem := { region := region, isInit := true } } }

@[simp] theorem nvmem_poweredAgain (p : PlatformImpl) (region : List UInt8) :
    (p.poweredAgain region).state.nvmem = { region := region, isInit := true } := rfl

/-- Without a new blob the power cycle succeeds and keeps the region. -/
theorem powerCycle_none (p : PlatformImpl) :
    p.powerCycle none = (.ok (), p.poweredAgain p.state.nvmem.region) :=
  signalPowerOn_of_isInit rfl

/-- With a blob of the right size it succeeds and the blob is the region. -/
theorem powerCycle_some_of_length {blob : List UInt8} (h : blob.length = nvMemorySize)
    (p : PlatformImpl) : p.powerCycle (some blob) = (.ok (), p.poweredAgain blob) := by
  unfold powerCycle
  have henable : p.signalPowerOff.state.nvmem.nvEnableFromBlob blob =
      (.ok (), { region := blob, isInit := true }) :=
    NvState.nvEnableFromBlob_eq_ok rfl h
  dsimp only
  rw [henable]
  exact signalPowerOn_of_isInit rfl

/-- With any other blob it fails, and the platform is left powered off. -/
theorem powerCycle_some_of_ne {blob : List UInt8} (h : blob.length ≠ nvMemorySize)
    (p : PlatformImpl) : p.powerCycle (some blob) =
      (.error (.nvMem (.mismatchedBlobSize nvMemorySize blob.length)), p.signalPowerOff) := by
  have henable : p.signalPowerOff.state.nvmem.nvEnableFromBlob blob =
      (.error (.nvMem (.mismatchedBlobSize nvMemorySize blob.length)),
        p.signalPowerOff.state.nvmem) := by
    unfold NvState.nvEnableFromBlob
    rw [if_neg (by intro hc; cases hc), validateNvSize, if_pos h]
  unfold powerCycle
  dsimp only
  rw [henable]
  rfl

/-- The region a reset asks for. -/
def resetRegion (p : PlatformImpl) (withNewNvmemBlob : Option (List UInt8)) : List UInt8 :=
  withNewNvmemBlob.getD p.state.nvmem.region

/-- **Power cycles.**  A reset succeeds with the region it asks for, or it is refused
for the size of its blob and leaves the platform powered off. -/
theorem powerCycle_cases (p : PlatformImpl) (withNewNvmemBlob : Option (List UInt8)) :
    ((∀ blob, withNewNvmemBlob = some blob → blob.length = nvMemorySize) ∧
      p.powerCycle withNewNvmemBlob =
        (.ok (), p.poweredAgain (p.resetRegion withNewNvmemBlob))) ∨
    (∃ blob, withNewNvmemBlob = some blob ∧ blob.length ≠ nvMemorySize ∧
      p.powerCycle withNewNvmemBlob =
        (.error (.nvMem (.mismatchedBlobSize nvMemorySize blob.length)), p.signalPowerOff)) := by
  cases withNewNvmemBlob with
  | none => exact Or.inl ⟨fun blob h => (by cases h), powerCycle_none p⟩
  | some blob =>
      by_cases h : blob.length = nvMemorySize
      · refine Or.inl ⟨fun blob' hblob => ?_, powerCycle_some_of_length h p⟩
        obtain rfl := Option.some.inj hblob
        exact h
      · exact Or.inr ⟨blob, rfl, h, powerCycle_some_of_ne h p⟩

end PlatformImpl

namespace Process

/-- A serializer that refuses every blob. -/
def refusingCodec : Codec where
  toStdvec _ := .ok []
  fromBytes _ := .error ""

/-- The process after a cold init, as the miniature library leaves it. -/
def coldProcess : Process miniBuild Unit where
  platform := some (.powerUp { commits := [] } .coldInit)
  library := miniMemory
  handles := 1

variable {ι : Type} {B : Build ι} {ρ : Type}

/-! ## Calls into the library -/

/-- A call into the library that issues no callback and changes nothing. -/
def silent (w : Process B ρ) : LibraryRun B ρ where
  callbacks := []
  memory := w.library
  ret := 0

/-- A call into the library runs its callbacks on the platform and nothing else of
the process. -/
theorem runLibrary_eq_some {w w' : Process B ρ} {run : LibraryRun B ρ} :
    w.runLibrary run = some w' ↔
      ∃ p p', w.platform = some p ∧ runFrom Callback.step p run.callbacks = some p' ∧
        w' = { w with platform := some p', library := run.memory } := by
  unfold runLibrary
  rw [Option.bind_eq_some_iff]
  constructor
  · rintro ⟨p, hp, h⟩
    rw [Option.map_eq_some_iff] at h
    obtain ⟨p', hrun, rfl⟩ := h
    exact ⟨p, p', hp, hrun, rfl⟩
  · rintro ⟨p, p', hp, hrun, rfl⟩
    exact ⟨p, hp, Option.map_eq_some_iff.mpr ⟨p', hrun, rfl⟩⟩

/-! ## Commands -/

end Process

namespace CommandRun

variable {ι : Type} {B : Build ι} {ρ : Type}

/-- The library is not called, and issues no callback. -/
theorem callbacks_of_none {run : CommandRun B ρ} (h : run.result.call = none) :
    run.callbacks = [] := by
  rw [callbacks, h]

/-- The library is called, and issues its callbacks. -/
theorem callbacks_of_some {run : CommandRun B ρ} {call : LibraryCall}
    (h : run.result.call = some call) : run.callbacks = (run.library call).callbacks := by
  rw [callbacks, h]

end CommandRun

/-- A command that is accepted, and in which the library does what `run` says and leaves the
buffers as they are. -/
def LibraryRun.command {ι : Type} {B : Build ι} {ρ : Type} (run : LibraryRun B ρ) :
    CommandRun B ρ where
  checked := true
  request := shortRequest
  response := []
  reply := idleLibrary
  library _ := run

namespace Process

variable {ι : Type} {B : Build ι} {ρ : Type}

/-- A command that does not reach the library. -/
theorem callCommand_of_none {run : CommandRun B ρ} (h : run.result.call = none)
    (w : Process B ρ) : w.callCommand run = some (run.result, w) := by
  rw [callCommand, h]

/-- One that does. -/
theorem callCommand_of_some {run : CommandRun B ρ} {call : LibraryCall}
    (h : run.result.call = some call) (w : Process B ρ) :
    w.callCommand run =
      (w.runLibrary (run.library call)).map fun w => (run.result, w) := by
  rw [callCommand, h]

/-- **A command** that returns was refused and has changed nothing, or it was a call into the
library, whose reply has been handed over. -/
theorem executeCommand_cases {w w' : Process B ρ} {run : CommandRun B ρ} {r : Except Error ℕ}
    (h : w.executeCommand run = some (r, w')) :
    run.result.outcome = some r ∧
      ((run.result.call = none ∧ w' = w) ∨
        ∃ call, run.result.call = some call ∧ w.runLibrary (run.library call) = some w') := by
  obtain ⟨⟨result, w₁⟩, hcalled, h⟩ := Option.bind_eq_some_iff.mp h
  obtain ⟨r', houtcome, h⟩ := Option.map_eq_some_iff.mp h
  obtain ⟨rfl, rfl⟩ := Prod.mk.inj h
  cases hcall : run.result.call with
  | none =>
      rw [callCommand_of_none hcall] at hcalled
      obtain ⟨rfl, rfl⟩ := Prod.mk.inj (Option.some.inj hcalled)
      exact ⟨houtcome, Or.inl ⟨rfl, rfl⟩⟩
  | some call =>
      rw [callCommand_of_some hcall] at hcalled
      obtain ⟨w₁, hrun, hcalled⟩ := Option.map_eq_some_iff.mp hcalled
      obtain ⟨rfl, rfl⟩ := Prod.mk.inj hcalled
      exact ⟨houtcome, Or.inr ⟨call, rfl, hrun⟩⟩

/-- With a handle, such a command is the call into the library. -/
theorem step_command [DecidableEq ι] {lib : TpmLibrary B ρ} {codec : Codec} {w : Process B ρ}
    (h : w.handles ≠ 0) (run : LibraryRun B ρ) :
    w.step lib codec (.executeCommand run.command) = w.runLibrary run := by
  have hcall : run.command.result.call = some (uncheckedCall shortRequest []) := rfl
  rw [step, if_neg h, executeCommand, callCommand_of_some hcall]
  show (((w.runLibrary run).map fun w => (run.command.result, w)).bind _).map _ = _
  cases w.runLibrary run with
  | none => rfl
  | some w₁ => rfl

/-! ## The library half of `initialize` -/

/-- The callbacks that the library issues during a successful `initialize`. -/
def startCallbacks (initKind : InitKind) (manufacture tpmInit : LibraryRun B ρ) : List Callback :=
  if initKind.manufactures then manufacture.callbacks ++ tpmInit.callbacks
  else tpmInit.callbacks

/-- **The library half of `initialize`**: it ends with a handle, or `TPM_Manufacture`
reports a failure and there is none, although the platform stays in the global. -/
theorem startLibrary_cases {w w' : Process B ρ} {initKind : InitKind}
    {manufacture tpmInit : LibraryRun B ρ} {r : Except Error Unit}
    (h : w.startLibrary initKind manufacture tpmInit = some (r, w')) :
    ∃ p p', w.platform = some p ∧ w'.platform = some p' ∧
      ((r = .ok () ∧ (initKind.manufactures = true → manufacture.ret = 0) ∧
          runFrom Callback.step p (startCallbacks initKind manufacture tpmInit) = some p' ∧
          w'.handles = w.handles + 1) ∨
        (r = .error (.ffi "TPM_Manufacture" manufacture.ret) ∧
          initKind.manufactures = true ∧ manufacture.ret ≠ 0 ∧
          runFrom Callback.step p manufacture.callbacks = some p' ∧
          w'.handles = w.handles)) := by
  unfold startLibrary at h
  cases hman : initKind.manufactures with
  | true =>
      rw [if_pos hman, Option.bind_eq_some_iff] at h
      obtain ⟨w₁, hw₁, h⟩ := h
      obtain ⟨p, p₁, hp, hrun, rfl⟩ := runLibrary_eq_some.mp hw₁
      by_cases hret : manufacture.ret ≠ 0
      · rw [if_pos hret] at h
        obtain ⟨rfl, rfl⟩ := Prod.mk.inj (Option.some.inj h)
        exact ⟨p, p₁, hp, rfl, Or.inr ⟨rfl, rfl, hret, hrun, rfl⟩⟩
      · rw [if_neg hret, Option.map_eq_some_iff] at h
        obtain ⟨w₂, hw₂, h⟩ := h
        obtain ⟨p₁', p₂, hp₁, hrun', rfl⟩ := runLibrary_eq_some.mp hw₂
        obtain ⟨rfl, rfl⟩ := Prod.mk.inj h
        obtain rfl := Option.some.inj hp₁
        refine ⟨p, p₂, hp, rfl, Or.inl ⟨rfl, fun _ => not_not.mp hret, ?_, rfl⟩⟩
        rw [startCallbacks, if_pos hman, runFrom_append, hrun]
        exact hrun'
  | false =>
      have hfalse : ¬ initKind.manufactures = true := by
        rw [hman]
        exact Bool.false_ne_true
      rw [if_neg hfalse, Option.map_eq_some_iff] at h
      obtain ⟨w₂, hw₂, h⟩ := h
      obtain ⟨p, p₂, hp, hrun, rfl⟩ := runLibrary_eq_some.mp hw₂
      obtain ⟨rfl, rfl⟩ := Prod.mk.inj h
      refine ⟨p, p₂, hp, rfl, Or.inl ⟨rfl, fun hc => (by cases hc), ?_, rfl⟩⟩
      rw [startCallbacks, if_neg hfalse]
      exact hrun

/-! ## `initialize` -/

/-- While the global holds a platform, `initialize` is refused and changes nothing. -/
theorem initializePlatform_of_some {w : Process B ρ} {p : PlatformImpl} (h : w.platform = some p)
    (callbacks : HostCallbacks) (initKind : InitKind) (manufacture tpmInit : LibraryRun B ρ) :
    w.initializePlatform callbacks initKind manufacture tpmInit =
      some (.error .alreadyInitialized, w) := by
  unfold initializePlatform
  rw [h]

/-- Otherwise a valid kind puts the platform in the global and starts the library. -/
theorem initializePlatform_of_valid {w : Process B ρ} (h : w.platform = none)
    {initKind : InitKind} (hvalid : initKind.Valid) (callbacks : HostCallbacks)
    (manufacture tpmInit : LibraryRun B ρ) :
    w.initializePlatform callbacks initKind manufacture tpmInit =
      startLibrary { w with platform := some (PlatformImpl.powerUp callbacks initKind) }
        initKind manufacture tpmInit := by
  unfold initializePlatform
  rcases PlatformImpl.ofInitKind_cases callbacks initKind with ⟨-, p, hp, hon⟩ | ⟨hnot, -⟩
  · rw [h]
    dsimp only
    rw [hp]
    dsimp only
    rw [hon]
  · exact absurd hvalid hnot

/-- Any other kind is refused with an NV error, and nothing changes. -/
theorem initializePlatform_of_not_valid {w : Process B ρ} (h : w.platform = none)
    {initKind : InitKind} (hvalid : ¬ initKind.Valid) (callbacks : HostCallbacks)
    (manufacture tpmInit : LibraryRun B ρ) :
    ∃ e, w.initializePlatform callbacks initKind manufacture tpmInit =
      some (.error (.nvMem e), w) := by
  unfold initializePlatform
  rcases PlatformImpl.ofInitKind_cases callbacks initKind with ⟨hval, -⟩ | ⟨-, e, he⟩
  · exact absurd hval hvalid
  · refine ⟨e, ?_⟩
    rw [h]
    dsimp only
    rw [he]

/-! ## `reset` and `restore_state` -/

/-- **`reset`**: the power cycle, and `_TPM_Init` if it succeeded. -/
theorem reset_cases {w w' : Process B ρ} {withNewNvmemBlob : Option (List UInt8)}
    {tpmInit : LibraryRun B ρ} {r : Except Error Unit}
    (h : w.reset withNewNvmemBlob tpmInit = some (r, w')) :
    ∃ p p', w.platform = some p ∧ w'.platform = some p' ∧ w'.handles = w.handles ∧
      ((r = .ok () ∧
          (∀ blob, withNewNvmemBlob = some blob → blob.length = nvMemorySize) ∧
          runFrom Callback.step (p.poweredAgain (p.resetRegion withNewNvmemBlob))
            tpmInit.callbacks = some p') ∨
        ((∃ e, r = .error e) ∧ p' = p.signalPowerOff)) := by
  unfold reset at h
  rw [Option.bind_eq_some_iff] at h
  obtain ⟨p, hp, h⟩ := h
  rcases p.powerCycle_cases withNewNvmemBlob with ⟨hlen, hcycle⟩ | ⟨blob, -, -, hcycle⟩
  · rw [hcycle] at h
    dsimp only at h
    rw [Option.map_eq_some_iff] at h
    obtain ⟨w₁, hw₁, h⟩ := h
    obtain ⟨p₁, p', hp₁, hrun, rfl⟩ := runLibrary_eq_some.mp hw₁
    obtain ⟨rfl, rfl⟩ := Prod.mk.inj h
    obtain rfl := Option.some.inj hp₁
    exact ⟨p, p', hp, rfl, rfl, Or.inl ⟨rfl, hlen, hrun⟩⟩
  · rw [hcycle] at h
    obtain ⟨rfl, rfl⟩ := Prod.mk.inj (Option.some.inj h)
    exact ⟨p, _, hp, rfl, rfl, Or.inr ⟨⟨_, rfl⟩, rfl⟩⟩

/-- **A reset that fails** was given a blob of the wrong size; the platform is left
powered off, and nothing else has happened. -/
theorem reset_eq_error {w w' : Process B ρ} {withNewNvmemBlob : Option (List UInt8)}
    {tpmInit : LibraryRun B ρ} {e : Error}
    (h : w.reset withNewNvmemBlob tpmInit = some (.error e, w')) :
    ∃ p blob, w.platform = some p ∧ withNewNvmemBlob = some blob ∧
      blob.length ≠ nvMemorySize ∧ w' = { w with platform := some p.signalPowerOff } := by
  unfold reset at h
  rw [Option.bind_eq_some_iff] at h
  obtain ⟨p, hp, h⟩ := h
  rcases p.powerCycle_cases withNewNvmemBlob with ⟨-, hcycle⟩ | ⟨blob, hblob, hlen, hcycle⟩
  · rw [hcycle] at h
    dsimp only at h
    rw [Option.map_eq_some_iff] at h
    obtain ⟨w₁, -, h⟩ := h
    cases h
  · rw [hcycle] at h
    obtain ⟨-, rfl⟩ := Prod.mk.inj (Option.some.inj h)
    exact ⟨p, blob, hp, hblob, hlen, rfl⟩

/-- **`restore_state`**: an undecodable blob changes nothing; any other one replaces
the platform state and is then handed to the library. -/
theorem restoreState_cases [DecidableEq ι] {lib : TpmLibrary B ρ} {codec : Codec}
    {w w' : Process B ρ} {state : List UInt8} {r : Except Error Unit}
    (h : w.restoreState lib codec state = some (r, w')) :
    (∃ e, codec.fromBytes state = .error e ∧ r = .error (.failedPlatformRestore e) ∧ w' = w) ∨
    ∃ st p failure library, codec.fromBytes state = .ok st ∧ w.platform = some p ∧
      w.library.restoreRuntimeState lib st.platformState.failure st.tpmlibState =
        some (r, library, failure) ∧
      w' = { w with
        platform := some ((p.restoreRuntimeState st.platformState).withFailure failure)
        library := library } := by
  unfold restoreState at h
  cases hdec : codec.fromBytes state with
  | error e =>
      rw [hdec] at h
      obtain ⟨rfl, rfl⟩ := Prod.mk.inj (Option.some.inj h)
      exact Or.inl ⟨e, rfl, rfl, rfl⟩
  | ok st =>
      right
      rw [hdec] at h
      dsimp only at h
      rw [Option.bind_eq_some_iff] at h
      obtain ⟨p, hp, h⟩ := h
      rw [Option.map_eq_some_iff] at h
      obtain ⟨⟨r', library, failure⟩, happly, h⟩ := h
      obtain ⟨rfl, rfl⟩ := Prod.mk.inj h
      exact ⟨st, p, failure, library, rfl, hp, happly, rfl⟩

/-! ## Invariants of the platform object -/

/-- A property holds of the platform in the global, if there is one. -/
def Holds (I : PlatformImpl → Prop) (w : Process B ρ) : Prop :=
  ∀ p, w.platform = some p → I p

theorem holds_some {I : PlatformImpl → Prop} {w : Process B ρ} {p : PlatformImpl}
    (h : w.platform = some p) : w.Holds I ↔ I p := by
  constructor
  · intro hw
    exact hw p h
  · intro hp q hq
    rw [h, Option.some.injEq] at hq
    exact hq ▸ hp

theorem holds_none (I : PlatformImpl → Prop) {w : Process B ρ} (h : w.platform = none) :
    w.Holds I := by
  intro p hp
  rw [h] at hp
  cases hp

/-- What a method that needs a handle does is done with a handle. -/
theorem of_needsHandle {α : Type} {n : ℕ} {x : Option α} {y : α}
    (h : (if n = 0 then none else x) = some y) : n ≠ 0 ∧ x = some y := by
  by_cases hn : n = 0
  · rw [if_pos hn] at h
    cases h
  · rw [if_neg hn] at h
    exact ⟨hn, h⟩

/-! ## One use of the crate -/

/-- The callbacks of an `initialize` with a valid kind; a failed `TPM_Manufacture` is
the end of it. -/
def initializeCallbacks (initKind : InitKind) (manufacture tpmInit : LibraryRun B ρ) :
    List Callback :=
  if initKind.manufactures = true ∧ manufacture.ret ≠ 0 then manufacture.callbacks
  else startCallbacks initKind manufacture tpmInit

/-- What a use of the crate does to the process, one constructor for each way it can
end. -/
inductive Effect [DecidableEq ι] (lib : TpmLibrary B ρ) (codec : Codec) (w : Process B ρ) :
    Op B ρ → Process B ρ → Prop
  | started {callbacks : HostCallbacks} {initKind : InitKind} {manufacture tpmInit : LibraryRun B ρ}
      {p : PlatformImpl} {w' : Process B ρ} (hnone : w.platform = none) (hvalid : initKind.Valid)
      (hrun : runFrom Callback.step (.powerUp callbacks initKind)
        (initializeCallbacks initKind manufacture tpmInit) = some p)
      (hp : w'.platform = some p) :
      Effect lib codec w (.initializePlatform callbacks initKind manufacture tpmInit) w'
  | refused {callbacks : HostCallbacks} {initKind : InitKind} {manufacture tpmInit : LibraryRun B ρ}
      (hrefused : w.platform = none → ¬ initKind.Valid) :
      Effect lib codec w (.initializePlatform callbacks initKind manufacture tpmInit) w
  | dropped : Effect lib codec w .drop { w with platform := none, handles := w.handles - 1 }
  | poweredAgain {withNewNvmemBlob : Option (List UInt8)} {tpmInit : LibraryRun B ρ}
      {p p' : PlatformImpl} {w' : Process B ρ} (hp : w.platform = some p)
      (hlen : ∀ blob, withNewNvmemBlob = some blob → blob.length = nvMemorySize)
      (hrun : runFrom Callback.step (p.poweredAgain (p.resetRegion withNewNvmemBlob))
        tpmInit.callbacks = some p')
      (hp' : w'.platform = some p') (hhandles : w'.handles = w.handles) :
      Effect lib codec w (.reset withNewNvmemBlob tpmInit) w'
  | poweredOff {blob : List UInt8} {tpmInit : LibraryRun B ρ} {p : PlatformImpl}
      (hp : w.platform = some p) (hlen : blob.length ≠ nvMemorySize) :
      Effect lib codec w (.reset (some blob) tpmInit)
        { w with platform := some p.signalPowerOff }
  | unsent {run : CommandRun B ρ} {r : Except Error ℕ} (houtcome : run.result.outcome = some r)
      (hcall : run.result.call = none) : Effect lib codec w (.executeCommand run) w
  | executed {run : CommandRun B ρ} {r : Except Error ℕ} {call : LibraryCall}
      {p p' : PlatformImpl} (houtcome : run.result.outcome = some r)
      (hcall : run.result.call = some call) (hp : w.platform = some p)
      (hrun : runFrom Callback.step p run.callbacks = some p') :
      Effect lib codec w (.executeCommand run)
        { w with platform := some p', library := (run.library call).memory }
  | saved : Effect lib codec w .saveState w
  | undecodable {state : List UInt8} {e : String} (hdec : codec.fromBytes state = .error e) :
      Effect lib codec w (.restoreState state) w
  | restored {state : List UInt8} {st : RuntimeState} {p : PlatformImpl} {failure : FailureState}
      {library : LibraryState B ρ} {r : Except Error Unit} (hdec : codec.fromBytes state = .ok st)
      (hp : w.platform = some p)
      (happly : w.library.restoreRuntimeState lib st.platformState.failure st.tpmlibState =
        some (r, library, failure)) :
      Effect lib codec w (.restoreState state) { w with
        platform := some ((p.restoreRuntimeState st.platformState).withFailure failure)
        library := library }
  | cancelSet {enabled : Bool} {p : PlatformImpl} (hp : w.platform = some p) :
      Effect lib codec w (.setCancelFlag enabled)
        { w with platform := some (p.withCancel enabled) }
  | localitySet {locality : Locality} {p : PlatformImpl} (hp : w.platform = some p) :
      Effect lib codec w (.setLocality locality)
        { w with platform := some (p.localitySet locality) }

/-- An `initialize` that returns has started the library or changed nothing. -/
theorem effect_initializePlatform [DecidableEq ι] {lib : TpmLibrary B ρ} {codec : Codec}
    {w w' : Process B ρ} {callbacks : HostCallbacks} {initKind : InitKind}
    {manufacture tpmInit : LibraryRun B ρ} {r : Except Error Unit}
    (h : w.initializePlatform callbacks initKind manufacture tpmInit = some (r, w')) :
    Effect lib codec w (.initializePlatform callbacks initKind manufacture tpmInit) w' := by
  cases hplat : w.platform with
  | some p =>
      rw [initializePlatform_of_some hplat] at h
      obtain ⟨-, rfl⟩ := Prod.mk.inj (Option.some.inj h)
      exact .refused fun hnone => absurd (hplat.symm.trans hnone) (by intro hc; cases hc)
  | none =>
      by_cases hvalid : initKind.Valid
      · rw [initializePlatform_of_valid hplat hvalid] at h
        obtain ⟨p, p', hp, hp', hend⟩ := startLibrary_cases h
        obtain rfl := Option.some.inj hp
        refine .started hplat hvalid ?_ hp'
        rcases hend with ⟨-, hman, hrun, -⟩ | ⟨-, hman, hret, hrun, -⟩
        · rw [initializeCallbacks, if_neg fun hc => hc.2 (hman hc.1)]
          exact hrun
        · rw [initializeCallbacks, if_pos ⟨hman, hret⟩]
          exact hrun
      · obtain ⟨e, he⟩ := initializePlatform_of_not_valid hplat hvalid callbacks
          manufacture tpmInit
        rw [he] at h
        obtain ⟨-, rfl⟩ := Prod.mk.inj (Option.some.inj h)
        exact .refused fun _ => hvalid

/-- **One use of the crate** has one of these effects. -/
theorem effect [DecidableEq ι] {lib : TpmLibrary B ρ} {codec : Codec} {w w' : Process B ρ}
    {op : Op B ρ} (h : w.step lib codec op = some w') : Effect lib codec w op w' := by
  cases op with
  | initializePlatform callbacks initKind manufacture tpmInit =>
      obtain ⟨⟨r, w₁⟩, hinit, rfl⟩ := Option.map_eq_some_iff.mp h
      exact effect_initializePlatform hinit
  | drop =>
      obtain ⟨p, -, rfl⟩ := Option.map_eq_some_iff.mp (of_needsHandle h).2
      exact .dropped
  | reset withNewNvmemBlob tpmInit =>
      obtain ⟨⟨r, w₁⟩, hreset, rfl⟩ := Option.map_eq_some_iff.mp (of_needsHandle h).2
      cases r with
      | ok _ =>
          obtain ⟨p, p', hp, hp', hhandles, ⟨-, hlen, hrun⟩ | ⟨⟨e, he⟩, -⟩⟩ := reset_cases hreset
          · exact .poweredAgain hp hlen hrun hp' hhandles
          · cases he
      | error e =>
          obtain ⟨p, blob, hp, rfl, hlen, rfl⟩ := reset_eq_error hreset
          exact .poweredOff hp hlen
  | executeCommand run =>
      obtain ⟨⟨r, w₁⟩, hexecute, rfl⟩ := Option.map_eq_some_iff.mp (of_needsHandle h).2
      obtain ⟨houtcome, ⟨hcall, rfl⟩ | ⟨call, hcall, hlibrary⟩⟩ := executeCommand_cases hexecute
      · exact .unsent houtcome hcall
      · obtain ⟨p, p', hp, hrun, rfl⟩ := runLibrary_eq_some.mp hlibrary
        exact .executed houtcome hcall hp (CommandRun.callbacks_of_some hcall ▸ hrun)
  | saveState =>
      obtain ⟨-, -, rfl⟩ := Option.map_eq_some_iff.mp (of_needsHandle h).2
      exact .saved
  | restoreState state =>
      obtain ⟨⟨r, w₁⟩, hrestore, rfl⟩ := Option.map_eq_some_iff.mp (of_needsHandle h).2
      rcases restoreState_cases hrestore with
        ⟨e, hdec, -, rfl⟩ | ⟨st, p, failure, library, hdec, hp, happly, rfl⟩
      · exact .undecodable hdec
      · exact .restored hdec hp happly
  | setCancelFlag enabled =>
      obtain ⟨p, hp, rfl⟩ := Option.map_eq_some_iff.mp (of_needsHandle h).2
      exact .cancelSet hp
  | setLocality locality =>
      obtain ⟨p, hp, rfl⟩ := Option.map_eq_some_iff.mp (of_needsHandle h).2
      exact .localitySet hp

end Process

/-- What a property of the platform object has to survive so that no step but a
restore can break it. -/
structure PlatformInvariant (I : PlatformImpl → Prop) : Prop where
  powerUp : ∀ callbacks initKind, initKind.Valid → I (.powerUp callbacks initKind)
  callback : ∀ p c p', I p → Callback.step p c = some p' → I p'
  signalPowerOff : ∀ p : PlatformImpl, I p → I p.signalPowerOff
  poweredAgain : ∀ (p : PlatformImpl) withNewNvmemBlob, I p →
    (∀ blob, withNewNvmemBlob = some blob → blob.length = nvMemorySize) →
    I (p.poweredAgain (p.resetRegion withNewNvmemBlob))
  withCancel : ∀ (p : PlatformImpl) flag, I p → I (p.withCancel flag)
  localitySet : ∀ (p : PlatformImpl) locality, I p → I (p.localitySet locality)

namespace PlatformInvariant

variable {ι : Type} {B : Build ι} {ρ : Type} {I : PlatformImpl → Prop}

/-- A call into the library keeps an invariant. -/
theorem callbacks (hI : PlatformInvariant I) {p p' : PlatformImpl} {cs : List Callback}
    (hp : I p) (h : runFrom Callback.step p cs = some p') : I p' :=
  invariant_runFrom hI.callback hp h

/-- **Invariants of the platform.**  A step keeps an invariant, provided that it does
so when it is a restore. -/
theorem step [DecidableEq ι] (hI : PlatformInvariant I) {lib : TpmLibrary B ρ} {codec : Codec}
    {w w' : Process B ρ} {op : Process.Op B ρ} (hw : w.Holds I)
    (h : w.step lib codec op = some w')
    (hrestore : ∀ state, op = .restoreState state → w'.Holds I) : w'.Holds I := by
  cases Process.effect h with
  | started hnone hvalid hrun hp =>
      rw [Process.holds_some hp]
      exact hI.callbacks (hI.powerUp _ _ hvalid) hrun
  | refused _ => exact hw
  | dropped => exact Process.holds_none I rfl
  | poweredAgain hp hlen hrun hp' _ =>
      rw [Process.holds_some hp']
      exact hI.callbacks (hI.poweredAgain _ _ (hw _ hp) hlen) hrun
  | poweredOff hp _ =>
      rw [Process.holds_some rfl]
      exact hI.signalPowerOff _ (hw _ hp)
  | unsent _ _ => exact hw
  | executed _ _ hp hrun =>
      rw [Process.holds_some rfl]
      exact hI.callbacks (hw _ hp) hrun
  | saved => exact hw
  | undecodable _ => exact hw
  | restored _ _ _ => exact hrestore _ rfl
  | cancelSet hp =>
      rw [Process.holds_some rfl]
      exact hI.withCancel _ _ (hw _ hp)
  | localitySet hp =>
      rw [Process.holds_some rfl]
      exact hI.localitySet _ _ (hw _ hp)

end PlatformInvariant

end TpmPlatform
