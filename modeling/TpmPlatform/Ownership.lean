/-
# Who owns the platform singleton

The documentation of `MsTpm185Platform` promises that the global holds a platform
exactly while one handle is live.  Every exit of `initialize` keeps that but one:
when `TPM_Manufacture` reports a failure, `initialize` returns its error and leaves
the platform in the global, with no handle that could ever take it out again.

`platform_owned` : the promise is kept along a run if and only if no manufacture
that the run reaches fails.
-/
import TpmPlatform.PlatformSteps

namespace TpmPlatform

open Runs

namespace Process

variable {ι : Type} {B : Build ι} {ρ : Type}

/-- The global holds a platform exactly when one handle is live, and never is there
more than one. -/
structure Owned (w : Process B ρ) : Prop where
  isSome_iff : w.platform.isSome = true ↔ w.handles = 1
  handles_le : w.handles ≤ 1

/-- No `initialize` is refused as `AlreadyInitialized`. -/
def Available (w : Process B ρ) : Prop :=
  ∀ callbacks initKind manufacture tpmInit w',
    w.initializePlatform callbacks initKind manufacture tpmInit ≠
      some (.error .alreadyInitialized, w')

/-- **What the handle promises**: it owns the platform, `initialize` is refused only
while it is live and then changes nothing, and without it `initialize` is never
refused. -/
structure Exclusive (w : Process B ρ) : Prop where
  owned : w.Owned
  refused : ∀ callbacks initKind manufacture tpmInit w',
    w.initializePlatform callbacks initKind manufacture tpmInit =
      some (.error .alreadyInitialized, w') → w.handles = 1 ∧ w' = w
  available : w.handles = 0 → w.Available

/-- The steps that do not lose the platform: `TPM_Manufacture` succeeds whenever an
`initialize` with valid arguments gets as far as calling it. -/
def ManufactureSucceeds (w : Process B ρ) : Op B ρ → Prop
  | .initializePlatform _ initKind manufacture _ =>
    w.platform = none → initKind.Valid → initKind.manufactures = true → manufacture.ret = 0
  | _ => True

/-! ## One step -/

/-- An `initialize` that finds the global empty is not refused. -/
theorem available_of_none {w : Process B ρ} (h : w.platform = none) : w.Available := by
  intro callbacks initKind manufacture tpmInit w' hinit
  by_cases hvalid : initKind.Valid
  · rw [initializePlatform_of_valid h hvalid] at hinit
    obtain ⟨p, p', -, -, hend⟩ := startLibrary_cases hinit
    rcases hend with ⟨hr, -⟩ | ⟨hr, -⟩
    · cases hr
    · cases hr
  · obtain ⟨e, he⟩ := initializePlatform_of_not_valid h hvalid callbacks manufacture tpmInit
    rw [he] at hinit
    cases hinit

/-- Ownership is all that the promise rests on. -/
theorem exclusive_iff_owned {w : Process B ρ} : w.Exclusive ↔ w.Owned := by
  constructor
  · intro h
    exact h.owned
  · intro h
    have hnone : w.handles ≠ 1 → w.platform = none := by
      intro hne
      cases hplat : w.platform with
      | none => rfl
      | some p => exact absurd (h.isSome_iff.mp (by rw [hplat]; rfl)) hne
    refine ⟨h, ?_, ?_⟩
    · intro callbacks initKind manufacture tpmInit w' hinit
      by_cases hone : w.handles = 1
      · obtain ⟨p, hp⟩ := Option.isSome_iff_exists.mp (h.isSome_iff.mpr hone)
        rw [initializePlatform_of_some hp] at hinit
        exact ⟨hone, (Prod.mk.inj (Option.some.inj hinit)).2.symm⟩
      · exact absurd hinit (available_of_none (hnone hone) _ _ _ _ _)
    · intro hzero
      exact available_of_none (hnone (by omega))

/-- With an empty global no handle is live. -/
theorem Owned.handles_of_none {w : Process B ρ} (h : w.Owned) (hnone : w.platform = none) :
    w.handles = 0 := by
  have hne : w.handles ≠ 1 := by
    intro hone
    have hsome := h.isSome_iff.mpr hone
    rw [hnone] at hsome
    cases hsome
  have hle := h.handles_le
  omega

/-- A step that leaves the global occupied and the handles alone keeps ownership. -/
theorem Owned.of_same {w w' : Process B ρ} (h : w.Owned)
    (hsome : w'.platform.isSome = w.platform.isSome) (hhandles : w'.handles = w.handles) :
    w'.Owned where
  isSome_iff := by
    rw [hsome, hhandles]
    exact h.isSome_iff
  handles_le := by
    rw [hhandles]
    exact h.handles_le

/-- `initialize` keeps ownership exactly when it does not lose the platform. -/
theorem owned_initializePlatform_iff {w w' : Process B ρ} (h : w.Owned)
    {callbacks : HostCallbacks} {initKind : InitKind} {manufacture tpmInit : LibraryRun B ρ}
    {r : Except Error Unit}
    (hinit : w.initializePlatform callbacks initKind manufacture tpmInit = some (r, w')) :
    w'.Owned ↔ w.ManufactureSucceeds (.initializePlatform callbacks initKind manufacture tpmInit)
    := by
  cases hplat : w.platform with
  | some p =>
      rw [initializePlatform_of_some hplat] at hinit
      obtain ⟨-, rfl⟩ := Prod.mk.inj (Option.some.inj hinit)
      refine iff_of_true h ?_
      intro hnone
      rw [hplat] at hnone
      cases hnone
  | none =>
      have hzero : w.handles = 0 := h.handles_of_none hplat
      by_cases hvalid : initKind.Valid
      · rw [initializePlatform_of_valid hplat hvalid] at hinit
        obtain ⟨p, p', -, hp', hend⟩ := startLibrary_cases hinit
        rcases hend with ⟨-, hret, -, hhandles⟩ | ⟨-, hman, hret, -, hhandles⟩
        · -- the handle is created together with the platform
          have hone : w'.handles = 1 := by
            rw [hhandles]
            exact congrArg (· + 1) hzero
          refine iff_of_true ⟨iff_of_true (by rw [hp']; rfl) hone, hone.le⟩ ?_
          intro _ _
          exact hret
        · -- the platform stays behind
          refine iff_of_false ?_ ?_
          · intro howned
            have hone := howned.isSome_iff.mp (by rw [hp']; rfl)
            rw [hhandles] at hone
            exact absurd hone (by rw [hzero]; exact Nat.zero_ne_one)
          · intro hsucceeds
            exact hret (hsucceeds hplat hvalid hman)
      · obtain ⟨e, he⟩ := initializePlatform_of_not_valid hplat hvalid callbacks manufacture
          tpmInit
        rw [he] at hinit
        obtain ⟨-, rfl⟩ := Prod.mk.inj (Option.some.inj hinit)
        refine iff_of_true h ?_
        intro _ hval
        exact absurd hval hvalid

/-- After `drop` the global is empty and no handle is live. -/
theorem owned_drop {w w' : Process B ρ} (h : w.Owned) (hdrop : w.drop = some w') :
    w'.Owned ∧ w'.handles = 0 := by
  rw [drop, Option.map_eq_some_iff] at hdrop
  obtain ⟨p, hp, rfl⟩ := hdrop
  have hzero : w.handles - 1 = 0 := by
    have := h.handles_le
    omega
  exact ⟨⟨iff_of_false Bool.false_ne_true (by rw [hzero]; exact Nat.zero_ne_one),
    by rw [hzero]; exact Nat.zero_le 1⟩, hzero⟩

/-- **One step** keeps ownership exactly when it does not lose the platform. -/
theorem owned_step_iff [DecidableEq ι] {lib : TpmLibrary B ρ} {codec : Codec}
    {w w' : Process B ρ} {op : Op B ρ} (hw : w.Owned) (h : w.step lib codec op = some w') :
    w'.Owned ↔ w.ManufactureSucceeds op := by
  -- only `initialize` can go wrong: the other methods keep the platform and the handle,
  -- and `drop` gives up both
  cases effect h with
  | started _ _ _ _ =>
      obtain ⟨⟨r, w₁⟩, hinit, rfl⟩ := Option.map_eq_some_iff.mp h
      exact owned_initializePlatform_iff hw hinit
  | refused _ =>
      obtain ⟨⟨r, w₁⟩, hinit, rfl⟩ := Option.map_eq_some_iff.mp h
      exact owned_initializePlatform_iff hw hinit
  | dropped => exact iff_of_true (owned_drop hw (of_needsHandle h).2).1 trivial
  | poweredAgain hp _ _ hp' hhandles =>
      refine iff_of_true ?_ trivial
      exact hw.of_same (by rw [hp', hp]; rfl) hhandles
  | poweredOff hp _ =>
      refine iff_of_true ?_ trivial
      exact hw.of_same (by rw [hp]; rfl) rfl
  | unsent _ _ => exact iff_of_true hw trivial
  | executed _ _ hp _ =>
      refine iff_of_true ?_ trivial
      exact hw.of_same (by rw [hp]; rfl) rfl
  | saved => exact iff_of_true hw trivial
  | undecodable _ => exact iff_of_true hw trivial
  | restored _ hp _ =>
      refine iff_of_true ?_ trivial
      exact hw.of_same (by rw [hp]; rfl) rfl
  | cancelSet hp =>
      refine iff_of_true ?_ trivial
      exact hw.of_same (by rw [hp]; rfl) rfl
  | localitySet hp =>
      refine iff_of_true ?_ trivial
      exact hw.of_same (by rw [hp]; rfl) rfl

/-! ## Runs -/

theorem owned_start (library : LibraryState B ρ) : (start library).Owned where
  isSome_iff := iff_of_false Bool.false_ne_true Nat.zero_ne_one
  handles_le := Nat.zero_le 1

/-- An `initialize` that fails with any other error leaves no handle. -/
theorem handles_of_error {w w' : Process B ρ} {callbacks : HostCallbacks} {initKind : InitKind}
    {manufacture tpmInit : LibraryRun B ρ} {e : Error} (hw : w.Owned)
    (hinit : w.initializePlatform callbacks initKind manufacture tpmInit = some (.error e, w'))
    (he : e ≠ .alreadyInitialized) : w'.handles = 0 := by
  have hnone : w.platform = none := by
    cases hplat : w.platform with
    | none => rfl
    | some p =>
        rw [initializePlatform_of_some hplat] at hinit
        cases hinit
        exact absurd rfl he
  have hzero : w.handles = 0 := hw.handles_of_none hnone
  by_cases hvalid : initKind.Valid
  · rw [initializePlatform_of_valid hnone hvalid] at hinit
    obtain ⟨p, p', -, -, hend⟩ := startLibrary_cases hinit
    rcases hend with ⟨hr, -⟩ | ⟨-, -, -, -, hhandles⟩
    · cases hr
    · rw [hhandles]
      exact hzero
  · obtain ⟨e', he'⟩ := initializePlatform_of_not_valid hnone hvalid callbacks manufacture tpmInit
    rw [he'] at hinit
    cases hinit
    exact hzero

/-- The step is a drop, or an `initialize` that fails with an error other than
`AlreadyInitialized`. -/
def ReleasesPlatform (w w' : Process B ρ) : Op B ρ → Prop
  | .drop => w.drop = some w'
  | .initializePlatform callbacks initKind manufacture tpmInit =>
    ∃ e, w.initializePlatform callbacks initKind manufacture tpmInit = some (.error e, w') ∧
      e ≠ .alreadyInitialized
  | _ => False

/-- **Ownership of the singleton.**  In every run from the start of the process, the
promise holds between all calls exactly when no manufacture fails; and as long as
none has failed, the platform can be initialized again after every drop and after
every `initialize` that returned another error. -/
theorem platform_owned [DecidableEq ι] (lib : TpmLibrary B ρ) (codec : Codec)
    (library : LibraryState B ρ) (ops : List (Op B ρ)) :
    (Along (step lib codec) Exclusive (start library) ops ↔
      Guarded (step lib codec) ManufactureSucceeds (start library) ops) ∧
    ∀ pre op suf w w', ops = pre ++ op :: suf →
      runFrom (step lib codec) (start library) pre = some w → w.step lib codec op = some w' →
      Guarded (step lib codec) ManufactureSucceeds (start library) ops →
      w.ReleasesPlatform w' op → w'.Available := by
  have hexact : ∀ as, Along (step lib codec) Exclusive (start library) as ↔
      Guarded (step lib codec) ManufactureSucceeds (start library) as := by
    intro as
    apply along_iff_guarded ?_ (exclusive_iff_owned.mpr (owned_start library))
    intro w op w' hw h
    rw [exclusive_iff_owned]
    exact owned_step_iff hw.owned h
  refine ⟨hexact ops, ?_⟩
  intro pre op suf w w' hops hpre hstep hguard hrelease
  have hall := (hexact ops).mpr hguard
  have hw : w.Exclusive := along_iff_initial.mp hall pre (op :: suf) w hops hpre
  have hw' : w'.Exclusive := by
    refine along_iff_initial.mp hall (pre ++ [op]) suf w' ?_ ?_
    · rw [hops, List.append_assoc, List.singleton_append]
    · exact (runFrom_concat_eq_some _).mpr ⟨w, hpre, hstep⟩
  apply hw'.available
  cases op with
  | drop => exact (owned_drop hw.owned hrelease).2
  | initializePlatform callbacks initKind manufacture tpmInit =>
      obtain ⟨e, hinit, he⟩ := hrelease
      exact handles_of_error hw.owned hinit he
  | _ => exact absurd hrelease id

/-- A failing manufacture breaks the promise: the next `initialize` is refused
although no handle is live. -/
theorem platform_not_owned :
    ¬ ∀ ops : List (Op miniBuild Unit), Along (step miniLibrary
      { toStdvec := fun _ => .ok [], fromBytes := fun _ => .error "" }) Exclusive
      (start miniMemory) ops := by
  intro h
  have hrun := h [.initializePlatform { commits := [] } .coldInit
    { callbacks := [], memory := miniMemory, ret := 1 }
    { callbacks := [], memory := miniMemory, ret := 0 }]
  have hlost := (hrun.2 _ rfl).head.owned.isSome_iff.mp rfl
  exact absurd hlost Nat.zero_ne_one

end Process

end TpmPlatform
