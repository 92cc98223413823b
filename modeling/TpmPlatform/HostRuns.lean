/-
# Runs over a given host

The host is a parameter of the platform: what it answers stands in the callbacks, what it
has been handed in `HostCallbacks`, and the states that it keeps come back with a restore.
`HostInvariant` is what a property of the platform object has to survive under assumptions
on the three, and `HostInvariant.run` is what follows for whole runs of the crate.
-/
import TpmPlatform.PlatformSteps

namespace TpmPlatform

open Runs

namespace Process

variable {ι : Type} {B : Build ι} {ρ : Type}

/-- A use of the crate over a host that is in `K` when it is handed over, answers callbacks
as `C` says, and has only platform states in `R` restored. -/
def Op.Over (codec : Codec) (K : HostCallbacks → Prop) (C : Callback → Prop)
    (R : PlatformState → Prop) : Op B ρ → Prop
  | .initializePlatform callbacks _ manufacture tpmInit =>
    K callbacks ∧ (∀ c ∈ manufacture.callbacks, C c) ∧ ∀ c ∈ tpmInit.callbacks, C c
  | .reset _ tpmInit => ∀ c ∈ tpmInit.callbacks, C c
  | .executeCommand run => ∀ c ∈ run.callbacks, C c
  | .restoreState state => ∀ st, codec.fromBytes state = .ok st → R st.platformState
  | _ => True

/-- The callbacks of an `initialize` are those of the two calls. -/
theorem mem_initializeCallbacks {initKind : InitKind} {manufacture tpmInit : LibraryRun B ρ}
    {c : Callback} (hc : c ∈ initializeCallbacks initKind manufacture tpmInit) :
    c ∈ manufacture.callbacks ∨ c ∈ tpmInit.callbacks := by
  unfold initializeCallbacks startCallbacks at hc
  split at hc
  · exact .inl hc
  · split at hc
    · exact List.mem_append.mp hc
    · exact .inr hc

end Process

/-- A property of the platform object that no use of the crate over such a host can break. -/
structure HostInvariant (K : HostCallbacks → Prop) (C : Callback → Prop)
    (R : PlatformState → Prop) (I : PlatformImpl → Prop) : Prop where
  powerUp : ∀ callbacks initKind, K callbacks → initKind.Valid → I (.powerUp callbacks initKind)
  callback : ∀ p c p', I p → C c → Callback.step p c = some p' → I p'
  signalPowerOff : ∀ p : PlatformImpl, I p → I p.signalPowerOff
  poweredAgain : ∀ (p : PlatformImpl) withNewNvmemBlob, I p →
    (∀ blob, withNewNvmemBlob = some blob → blob.length = nvMemorySize) →
    I (p.poweredAgain (p.resetRegion withNewNvmemBlob))
  restored : ∀ (p : PlatformImpl) state failure, I p → R state →
    I ((p.restoreRuntimeState state).withFailure failure)
  withCancel : ∀ (p : PlatformImpl) flag, I p → I (p.withCancel flag)
  localitySet : ∀ (p : PlatformImpl) locality, I p → I (p.localitySet locality)

namespace HostInvariant

variable {ι : Type} {B : Build ι} {ρ : Type} {K : HostCallbacks → Prop} {C : Callback → Prop}
  {R : PlatformState → Prop} {I : PlatformImpl → Prop}

/-- A call into the library keeps an invariant. -/
theorem callbacks (hI : HostInvariant K C R I) {p p' : PlatformImpl} {cs : List Callback}
    (hp : I p) (hcs : ∀ c ∈ cs, C c) (h : runFrom Callback.step p cs = some p') : I p' :=
  (along_of_guarded (C := fun _ c => C c) (fun p c p' => hI.callback p c p') hp
    (guarded_of_mem fun c hc _ => hcs c hc)).final h

/-- **Step.** -/
theorem step [DecidableEq ι] (hI : HostInvariant K C R I) {lib : TpmLibrary B ρ} {codec : Codec}
    {w w' : Process B ρ} {op : Process.Op B ρ} (hw : w.Holds I) (hop : op.Over codec K C R)
    (h : w.step lib codec op = some w') : w'.Holds I := by
  cases Process.effect h with
  | started hnone hvalid hrun hp =>
      obtain ⟨hK, hmanufacture, htpmInit⟩ := hop
      rw [Process.holds_some hp]
      refine hI.callbacks (hI.powerUp _ _ hK hvalid) (fun c hc => ?_) hrun
      exact (Process.mem_initializeCallbacks hc).elim (hmanufacture c) (htpmInit c)
  | refused _ => exact hw
  | dropped => exact Process.holds_none I rfl
  | poweredAgain hp hlen hrun hp' _ =>
      rw [Process.holds_some hp']
      exact hI.callbacks (hI.poweredAgain _ _ (hw _ hp) hlen) hop hrun
  | poweredOff hp _ =>
      rw [Process.holds_some rfl]
      exact hI.signalPowerOff _ (hw _ hp)
  | unsent _ _ => exact hw
  | executed _ _ hp hrun =>
      rw [Process.holds_some rfl]
      exact hI.callbacks (hw _ hp) hop hrun
  | saved => exact hw
  | undecodable _ => exact hw
  | restored hdec hp _ =>
      rw [Process.holds_some rfl]
      exact hI.restored _ _ _ (hw _ hp) (hop _ hdec)
  | cancelSet hp =>
      rw [Process.holds_some rfl]
      exact hI.withCancel _ _ (hw _ hp)
  | localitySet hp =>
      rw [Process.holds_some rfl]
      exact hI.localitySet _ _ (hw _ hp)

/-- **Run.** -/
theorem run [DecidableEq ι] (hI : HostInvariant K C R I) {lib : TpmLibrary B ρ} {codec : Codec}
    {w w' : Process B ρ} {ops : List (Process.Op B ρ)} (hw : w.Holds I)
    (hops : ∀ op ∈ ops, op.Over codec K C R)
    (h : runFrom (Process.step lib codec) w ops = some w') : w'.Holds I :=
  (along_of_guarded (C := fun _ op => Process.Op.Over codec K C R op)
    (fun _ _ _ hw hop hstep => hI.step hw hop hstep) hw
    (guarded_of_mem fun op hop _ => hops op hop)).final h

end HostInvariant

end TpmPlatform
