/-
# The NV contents over whole runs

What the NV memory is for: an array of `NV_MEMORY_SIZE` bytes that keeps what was
last written to it, and a host that is handed the whole of it at every commit.
`NvDevice` is that array with the log of its commits; enabling, powering on and
resetting are not operations of it, since they must not change it.

`nv_persists` : a platform that has been initialized implements the device through
every run of commands and successful resets, and every array ever committed can be
initialized from.
-/
import TpmPlatform.FlatArray
import TpmPlatform.PowerCycle
import TpmPlatform.ResetErrors

namespace TpmPlatform

open Runs FlatArray

/-! ## The device -/

/-- The contents of the NV memory. -/
abbrev NvArray := Fin nvMemorySize → UInt8

/-- The NV memory with the commits of its contents, oldest first, and whether the host
accepted them. -/
structure NvDevice where
  array : NvArray
  commits : List (NvArray × Bool)

namespace NvDevice

variable {ι : Type} {B : Build ι} {ρ : Type}

/-- What the library's NV callbacks mean for the device; a range that leaves the
memory is refused. -/
def callback (d : NvDevice) : Callback → NvDevice
  | .nvMemoryWrite startOffset data =>
    if startOffset.toNat + data.length ≤ nvMemorySize then
      { d with array := write d.array startOffset.toNat data }
    else d
  | .nvMemoryClear start size =>
    if start.toNat + size.toNat ≤ nvMemorySize then
      { d with array := fill d.array start.toNat size.toNat 0 }
    else d
  | .nvMemoryMove sourceOffset destOffset size =>
    if sourceOffset.toNat + size.toNat ≤ nvMemorySize ∧
        destOffset.toNat + size.toNat ≤ nvMemorySize then
      { d with array := move d.array sourceOffset.toNat destOffset.toNat size.toNat }
    else d
  | .nvCommit verdict => { d with commits := d.commits ++ [(d.array, verdict.isOk)] }
  | _ => d

/-- The device with the contents of a new blob, if there is one. -/
def reload (d : NvDevice) : Option (List UInt8) → NvDevice
  | some nvmemBlob => { d with array := ofList 0 nvmemBlob }
  | none => d

/-- What a use of the crate means for the device. -/
def use (d : NvDevice) : Process.Op B ρ → NvDevice
  | .executeCommand run => run.callbacks.foldl callback d
  | .reset withNewNvmemBlob tpmInit => tpmInit.callbacks.foldl callback (d.reload withNewNvmemBlob)
  | _ => d

/-- The contents that `initialize` starts with. -/
def initial : InitKind → NvArray
  | .coldInit => fun _ => 0
  | .coldInitWithSize _ => fun _ => 0
  | .coldInitWithPersistentState nvmemBlob => ofList 0 nvmemBlob

/-- The device after a successful `initialize`. -/
def started (initKind : InitKind) (manufacture tpmInit : LibraryRun B ρ) : NvDevice :=
  (Process.startCallbacks initKind manufacture tpmInit).foldl callback
    { array := initial initKind, commits := [] }

theorem array_ite (d : NvDevice) (P : Prop) [Decidable P] (a : NvArray) :
    (if P then { d with array := a } else d).array = if P then a else d.array := by
  split_ifs <;> rfl

theorem commits_ite (d : NvDevice) (P : Prop) [Decidable P] (a : NvArray) :
    (if P then { d with array := a } else d).commits = d.commits := by
  split_ifs <;> rfl

/-- A commit as the host sees it. -/
def hostView (c : NvArray × Bool) : Commit where
  state := List.ofFn c.1
  accepted := c.2

end NvDevice

/-! ## The platform implements the device -/

/-- The platform holds the contents of the device, enabled, and its host has been
handed the commits of the device after the earlier ones `pre`. -/
structure Implements (pre : List Commit) (p : PlatformImpl) (d : NvDevice) : Prop where
  nvmem_eq : p.state.nvmem = { region := List.ofFn d.array, isInit := true }
  commits_eq : p.callbacks.commits = pre ++ d.commits.map NvDevice.hostView

/-- A write, as the device and as the region see it. -/
theorem nvMemoryWrite_ofFn (a : NvArray) (startOffset : ℕ) (data : List UInt8) :
    (NvState.nvMemoryWrite { region := List.ofFn a, isInit := true } startOffset data).2 =
      { region := List.ofFn
          (if startOffset + data.length ≤ nvMemorySize then write a startOffset data else a)
        isInit := true } := by
  by_cases h : startOffset + data.length ≤ nvMemorySize
  · rw [if_pos h, NvState.nvMemoryWrite_of_le (by rw [List.length_ofFn]; exact h), ofFn_write h]
  · rw [if_neg h, NvState.nvMemoryWrite_of_gt (by rw [List.length_ofFn]; omega)]

/-- A clear, as the device and as the region see it. -/
theorem nvMemoryClear_ofFn (a : NvArray) (start size : ℕ) :
    (NvState.nvMemoryClear { region := List.ofFn a, isInit := true } start size).2 =
      { region := List.ofFn
          (if start + size ≤ nvMemorySize then fill a start size 0 else a)
        isInit := true } := by
  rw [NvState.nvMemoryClear_eq_nvMemoryWrite, nvMemoryWrite_ofFn, List.length_replicate,
    write_replicate]

/-- A move, as the device and as the region see it. -/
theorem nvMemoryMove_ofFn (a : NvArray) (sourceOffset destOffset size : ℕ) :
    (NvState.nvMemoryMove { region := List.ofFn a, isInit := true } sourceOffset destOffset
        size).2 =
      { region := List.ofFn
          (if sourceOffset + size ≤ nvMemorySize ∧ destOffset + size ≤ nvMemorySize then
            move a sourceOffset destOffset size
          else a)
        isInit := true } := by
  have hlen : (List.ofFn a).length = nvMemorySize := List.length_ofFn
  by_cases h : sourceOffset + size ≤ nvMemorySize ∧ destOffset + size ≤ nvMemorySize
  · obtain ⟨hs, hd⟩ := h
    have hwindow : (Bytes.window (List.ofFn a) sourceOffset size).length = size := by
      apply Bytes.length_window
      rw [hlen]
      exact hs
    rw [if_pos ⟨hs, hd⟩, NvState.nvMemoryMove_of_le (by rw [hlen]; exact hs)
      (by rw [hlen]; exact hd), nvMemoryWrite_ofFn, hwindow, if_pos hd, write_window hs]
  · obtain ⟨e, he⟩ := NvState.nvMemoryMove_of_gt
      { region := List.ofFn a, isInit := true } sourceOffset destOffset size
      (by rw [hlen]; omega)
    rw [he, if_neg h]

/-- **Callbacks.**  Whatever callback the library issues, the platform goes on to
implement the device; in particular enabling an enabled region erases nothing. -/
theorem implements_callback {pre : List Commit} {p p' : PlatformImpl} {d : NvDevice}
    {c : Callback} (h : Implements pre p d) (hstep : c.step p = some p') :
    Implements pre p' (d.callback c) := by
  obtain ⟨hnvmem, hcommits⟩ := h
  have heffect := Callback.effect hstep
  have hnvmem' := heffect.nvmem_eq
  have hcommits' := heffect.commits_eq
  rw [hnvmem] at hnvmem'
  cases c with
  -- the writes: the device makes the same bounds check and the same change
  | nvMemoryWrite startOffset data =>
      refine ⟨?_, hcommits'.trans (hcommits.trans ?_)⟩
      · rw [hnvmem', Callback.nvmemAfter, nvMemoryWrite_ofFn, NvDevice.callback,
          NvDevice.array_ite]
      · rw [NvDevice.callback, NvDevice.commits_ite]
  | nvMemoryClear start size =>
      refine ⟨?_, hcommits'.trans (hcommits.trans ?_)⟩
      · rw [hnvmem', Callback.nvmemAfter, nvMemoryClear_ofFn, NvDevice.callback,
          NvDevice.array_ite]
      · rw [NvDevice.callback, NvDevice.commits_ite]
  | nvMemoryMove sourceOffset destOffset size =>
      refine ⟨?_, hcommits'.trans (hcommits.trans ?_)⟩
      · rw [hnvmem', Callback.nvmemAfter, nvMemoryMove_ofFn, NvDevice.callback,
          NvDevice.array_ite]
      · rw [NvDevice.callback, NvDevice.commits_ite]
  | nvCommit verdict =>
      rw [NvDevice.callback]
      refine ⟨hnvmem', ?_⟩
      rw [hcommits', Callback.commitsAfter, hcommits, hnvmem, List.map_append,
        List.append_assoc, List.map_singleton, NvDevice.hostView]
  | nvEnable =>
      -- the region is enabled, so that enabling it again does nothing
      rw [Callback.nvmemAfter, NvState.nvEnable_of_isInit rfl] at hnvmem'
      exact ⟨hnvmem', hcommits'.trans hcommits⟩
  | _ => exact ⟨hnvmem', hcommits'.trans hcommits⟩

/-- A call into the library is followed by the device callback by callback. -/
theorem implements_callbacks {pre : List Commit} {p p' : PlatformImpl} {d : NvDevice}
    {cs : List Callback} (h : Implements pre p d) (hrun : runFrom Callback.step p cs = some p') :
    Implements pre p' (cs.foldl NvDevice.callback d) := by
  have hone : ∀ q e c q', Implements pre q e → Callback.step q c = some q' →
      Implements pre q' (e.callback c) := by
    intro q e c q' hq hstep
    exact implements_callback hq hstep
  exact simulates_runFrom hone h hrun

/-- The region of a valid kind is the list of its initial array. -/
theorem ofFn_initial {initKind : InitKind} (hvalid : initKind.Valid) :
    List.ofFn (NvDevice.initial initKind) = initKind.region := by
  cases initKind with
  | coldInit => rw [NvDevice.initial, InitKind.region, List.ofFn_const]
  | coldInitWithSize size => rw [NvDevice.initial, InitKind.region, List.ofFn_const]
  | coldInitWithPersistentState nvmemBlob =>
      rw [NvDevice.initial, InitKind.region, ofFn_ofList hvalid]

/-- A valid `initialize` starts with the platform of the initial device. -/
theorem implements_powerUp (callbacks : HostCallbacks) {initKind : InitKind}
    (hvalid : initKind.Valid) :
    Implements callbacks.commits (.powerUp callbacks initKind)
      { array := NvDevice.initial initKind, commits := [] } where
  nvmem_eq := by rw [PlatformImpl.nvmem_powerUp, ofFn_initial hvalid]
  commits_eq := (List.append_nil _).symm

/-- The power cycle of a reset whose blob, if it has one, is of the right size. -/
theorem implements_poweredAgain {pre : List Commit} {p : PlatformImpl} {d : NvDevice}
    (h : Implements pre p d) {withNewNvmemBlob : Option (List UInt8)}
    (hlen : ∀ blob, withNewNvmemBlob = some blob → blob.length = nvMemorySize) :
    Implements pre (p.poweredAgain (p.resetRegion withNewNvmemBlob))
      (d.reload withNewNvmemBlob) := by
  cases withNewNvmemBlob with
  | none =>
      refine ⟨?_, h.commits_eq⟩
      rw [PlatformImpl.nvmem_poweredAgain, PlatformImpl.resetRegion, Option.getD_none,
        h.nvmem_eq, NvDevice.reload]
  | some blob =>
      refine ⟨?_, h.commits_eq⟩
      rw [PlatformImpl.nvmem_poweredAgain, PlatformImpl.resetRegion, Option.getD_some,
        NvDevice.reload, ofFn_ofList (hlen blob rfl)]

/-! ## Runs -/

namespace Process

variable {ι : Type} {B : Build ι} {ρ : Type}

/-- The steps of a run over which the contents persist: no drop, no restore, and
resets that succeed. -/
def KeepsNv (w : Process B ρ) : Op B ρ → Prop
  | .drop => False
  | .restoreState _ => False
  | .reset withNewNvmemBlob tpmInit =>
    ∃ w', w.reset withNewNvmemBlob tpmInit = some (.ok (), w')
  | _ => True

/-- The platform of the process implements the device. -/
def ImplementsNv (pre : List Commit) (w : Process B ρ) (d : NvDevice) : Prop :=
  ∃ p, w.platform = some p ∧ Implements pre p d

/-- **One use of the crate** is followed by the device. -/
theorem implementsNv_step [DecidableEq ι] {lib : TpmLibrary B ρ} {codec : Codec}
    {pre : List Commit} {w w' : Process B ρ} {d : NvDevice} {op : Op B ρ}
    (h : w.ImplementsNv pre d) (hkeeps : w.KeepsNv op) (hstep : w.step lib codec op = some w') :
    w'.ImplementsNv pre (d.use op) := by
  obtain ⟨p, hp, himpl⟩ := h
  cases effect hstep with
  | started hnone _ _ _ =>
      -- a second `initialize` is refused while the platform is there
      rw [hp] at hnone
      cases hnone
  | refused _ => exact ⟨p, hp, himpl⟩
  | dropped => exact absurd hkeeps id
  | @poweredAgain _ _ p₀ p' _ hp₀ hlen hrun hp' _ =>
      rw [hp, Option.some.injEq] at hp₀
      subst hp₀
      exact ⟨p', hp', implements_callbacks (implements_poweredAgain himpl hlen) hrun⟩
  | poweredOff _ hlen =>
      obtain ⟨w₁, hok⟩ := hkeeps
      obtain ⟨_, _, _, _, -, ⟨-, hlen', -⟩ | ⟨⟨e, he⟩, -⟩⟩ := reset_cases hok
      · exact absurd (hlen' _ rfl) hlen
      · cases he
  | unsent _ hcall =>
      rw [NvDevice.use, CommandRun.callbacks_of_none hcall]
      exact ⟨p, hp, himpl⟩
  | @executed _ _ _ p₀ p' _ _ hp₀ hrun =>
      rw [hp, Option.some.injEq] at hp₀
      subst hp₀
      exact ⟨p', rfl, implements_callbacks himpl hrun⟩
  | saved => exact ⟨p, hp, himpl⟩
  | undecodable _ => exact absurd hkeeps id
  | restored _ _ _ => exact absurd hkeeps id
  | @cancelSet _ p₀ hp₀ =>
      rw [hp, Option.some.injEq] at hp₀
      subst hp₀
      exact ⟨_, rfl, himpl.nvmem_eq, himpl.commits_eq⟩
  | @localitySet _ p₀ hp₀ =>
      rw [hp, Option.some.injEq] at hp₀
      subst hp₀
      exact ⟨_, rfl, himpl.nvmem_eq, himpl.commits_eq⟩

/-- A successful `initialize` leaves a platform that implements the started device. -/
theorem implementsNv_initialized {w w' : Process B ρ} {callbacks : HostCallbacks}
    {initKind : InitKind} {manufacture tpmInit : LibraryRun B ρ}
    (h : w.initializePlatform callbacks initKind manufacture tpmInit = some (.ok (), w')) :
    w'.ImplementsNv callbacks.commits (.started initKind manufacture tpmInit) := by
  cases hplat : w.platform with
  | some p =>
      rw [initializePlatform_of_some hplat] at h
      cases h
  | none =>
      by_cases hvalid : initKind.Valid
      · rw [initializePlatform_of_valid hplat hvalid] at h
        obtain ⟨p, p', hp, hp', hend⟩ := startLibrary_cases h
        obtain rfl := Option.some.inj hp
        rcases hend with ⟨-, -, hrun, -⟩ | ⟨hr, -⟩
        · exact ⟨p', hp', implements_callbacks (implements_powerUp callbacks hvalid) hrun⟩
        · cases hr
      · obtain ⟨e, he⟩ := initializePlatform_of_not_valid hplat hvalid callbacks manufacture
          tpmInit
        rw [he] at h
        cases h

/-- **NV contents persist.**  After a successful `initialize` and any run of commands
and successful resets, the region is the array of the device that was driven by the
same operations, and every commit has handed the host the whole array as it stood.
Each committed blob can be initialized from after a drop, and reproduces its array. -/
theorem nv_persists [DecidableEq ι] (lib : TpmLibrary B ρ) (codec : Codec)
    (callbacks : HostCallbacks) (initKind : InitKind) (manufacture tpmInit : LibraryRun B ρ)
    (w₀ w w' : Process B ρ) (ops : List (Op B ρ))
    (hinit : w₀.initializePlatform callbacks initKind manufacture tpmInit = some (.ok (), w))
    (hkeeps : Guarded (step lib codec) KeepsNv w ops)
    (hrun : runFrom (step lib codec) w ops = some w') :
    ∃ p d, w'.platform = some p ∧
      d = ops.foldl NvDevice.use (NvDevice.started initKind manufacture tpmInit) ∧
      p.state.nvmem.region = List.ofFn d.array ∧
      p.callbacks.commits = callbacks.commits ++ d.commits.map NvDevice.hostView ∧
      ∀ c ∈ d.commits, ∀ callbacks', ∃ fresh,
        w'.seenAfterDrop callbacks' (NvDevice.hostView c).state = some fresh ∧
        fresh.state.nvmem.region = List.ofFn c.1 := by
  have himpl := simulates_of_guarded
    (fun _ _ _ _ hR hC hstep => implementsNv_step hR hC hstep)
    (implementsNv_initialized hinit) hkeeps hrun
  obtain ⟨p, hp, hnvmem, hcommits⟩ := himpl
  refine ⟨p, _, hp, rfl, ?_, hcommits, ?_⟩
  · rw [hnvmem]
  · intro c _ callbacks'
    have hlen : (NvDevice.hostView c).state.length = nvMemorySize := by
      rw [NvDevice.hostView, List.length_ofFn]
    refine ⟨_, seenAfterDrop_eq hp hlen callbacks', ?_⟩
    rw [PlatformImpl.nvmem_powerUp, InitKind.region, NvDevice.hostView]

/-- A command in which the library writes a byte, commits it and enables the region again. -/
def storingRun : LibraryRun miniBuild Unit where
  callbacks := [.nvMemoryWrite 0 [1], .nvCommit (.ok ()), .nvEnable]
  memory := miniMemory
  ret := 0

/-- Such a command, and a reset. -/
def storingOps : List (Op miniBuild Unit) :=
  [.executeCommand storingRun.command, .reset none coldProcess.silent]

/-- The platform after the command. -/
def storedPlatform : PlatformImpl :=
  { writtenPlatform with
    callbacks := { commits := [{ state := writtenRegion, accepted := true }] } }

/-- The process after the reset. -/
def storedProcess : Process miniBuild Unit :=
  { coldProcess with platform := some (storedPlatform.poweredAgain writtenRegion) }

/-- The command. -/
theorem step_storing :
    step miniLibrary refusingCodec coldProcess (.executeCommand storingRun.command) =
      some { coldProcess with platform := some storedPlatform } := by
  rw [step_command Nat.one_ne_zero]
  refine runLibrary_eq_some.mpr ⟨_, storedPlatform, rfl, ?_, rfl⟩
  rw [storingRun, runFrom_cons, step_nvMemoryWrite]
  rfl

/-- The byte in an array of zeros. -/
def storedArray : NvArray := fun i => if i.val = 0 then 1 else 0

/-- The device has it, and one commit of it. -/
theorem use_storingOps :
    storingOps.foldl NvDevice.use
        (NvDevice.started .coldInit coldProcess.silent coldProcess.silent) =
      { array := storedArray, commits := [(storedArray, true)] } := by
  have hwrite : write (NvDevice.initial .coldInit) (0 : UInt32).toNat [(1 : UInt8)] =
      storedArray := by
    funext i
    rw [write, storedArray]
    by_cases hi : i.val = 0
    · rw [dif_pos ⟨Nat.zero_le _, by rw [hi]; decide⟩, if_pos hi]
      have hget : (⟨i.val - (0 : UInt32).toNat, by rw [hi]; decide⟩ : Fin [(1 : UInt8)].length) =
          ⟨0, by decide⟩ := Fin.ext (by show i.val - 0 = 0; omega)
      rw [hget]
      rfl
    · rw [dif_neg ?_, if_neg hi]
      · rfl
      · rintro ⟨-, hlt⟩
        have hlt : i.val - 0 < 1 := hlt
        omega
  rw [← hwrite]
  rfl

/-- The library writes a byte, commits it and enables the region, and the TPM is reset: the
region has the byte, the host has been handed it once, and what it was handed can be
initialized from and brings the byte back. -/
theorem nv_persists_reset :
    runFrom (step miniLibrary refusingCodec) coldProcess storingOps = some storedProcess ∧
      ∃ p, storedProcess.platform = some p ∧ p.state.nvmem.region = List.ofFn storedArray ∧
        p.callbacks.commits = [{ state := List.ofFn storedArray, accepted := true }] ∧
        ∃ fresh, storedProcess.seenAfterDrop { commits := [] } (List.ofFn storedArray) =
            some fresh ∧
          fresh.state.nvmem.region = List.ofFn storedArray := by
  have hrun : runFrom (step miniLibrary refusingCodec) coldProcess storingOps =
      some storedProcess :=
    (runFrom_cons_eq_some _).mpr ⟨_, step_storing, rfl⟩
  have hguard : Guarded (step miniLibrary refusingCodec) KeepsNv coldProcess storingOps := by
    intro w₁ hw₁
    obtain rfl := Option.some.inj (step_storing.symm.trans hw₁)
    exact ⟨trivial, fun _ _ => ⟨⟨_, rfl⟩, trivial⟩⟩
  have hinit : (start miniMemory).initializePlatform { commits := [] } .coldInit
      coldProcess.silent coldProcess.silent = some (.ok (), coldProcess) := rfl
  obtain ⟨p, d, hp, hd, hregion, hcommits, hback⟩ := nv_persists miniLibrary refusingCodec
    { commits := [] } .coldInit coldProcess.silent coldProcess.silent (start miniMemory)
    coldProcess storedProcess storingOps hinit hguard hrun
  rw [use_storingOps] at hd
  subst hd
  have hmem : (storedArray, true) ∈ [(storedArray, true)] := List.mem_singleton_self _
  have hagain := hback (storedArray, true) hmem { commits := [] }
  dsimp only [NvDevice.hostView] at hagain
  exact ⟨hrun, p, hp, hregion, hcommits, hagain⟩

end Process

end TpmPlatform
