/-
# When the crate panics (`plat/mod.rs`, `plat/api/{clock,entropy}.rs`)

The methods of the handle are full of `unwrap`s, `expect`s and assertions: the mutex,
the platform in the global, the two calls that save the library's memory, the serializer,
the response that a command leaves, and the arithmetic and the assertions in the callbacks.

`callback_panics_iff` : which callbacks panic in which states; `reply_panics_iff` : which
replies a command cannot hand over; `panics_iff` : in every reachable state, a method panics
exactly if a callback of the library does, the reply cannot be handed over or the serializer
refuses the state, so that none of the other checks can fail.
-/
import TpmPlatform.RestoreErrors
import TpmPlatform.StateImage
import TpmPlatform.WellFormed

namespace TpmPlatform

open Runs

/-! ## The clock -/

namespace ClockState

/-- The sum that the first half of `timer_read` computes. -/
def sumAt (c : ClockState) (now : ℕ) : ℕ :=
  if c.lastSystemTime = 0 then now else c.lastReportedTime + now

/-- The second half of `timer_read` leaves the range of its types, or divides by zero. -/
def CreditOverflows (c : ClockState) : Prop :=
  2 ^ 128 ≤ c.pending * clockNominal ∨ (c.adjustRate = 0 ∧ 0 < c.pending) ∨
    2 ^ 64 ≤ c.tpmTime + c.credit

/-- One of its halves does. -/
def ReadOverflows (c : ClockState) (now : ℕ) : Prop :=
  2 ^ 128 ≤ c.sumAt now ∨ ∃ c', c.reportTime now = some c' ∧ c'.CreditOverflows

/-- The rate leaves the `u32` range. -/
def AdjustOverflows (c : ClockState) (adjustment : ℤ) : Prop :=
  (c.adjustRate : ℤ) + tickDelta adjustment < 0 ∨
    2 ^ 32 ≤ (c.adjustRate : ℤ) + tickDelta adjustment

/-- The first half panics when its sum overflows. -/
theorem reportTime_eq_none_iff {c : ClockState} {now : ℕ} :
    c.reportTime now = none ↔ 2 ^ 128 ≤ c.sumAt now := by
  have hsum : ∀ x : ℕ, checkedU128 x = none ↔ 2 ^ 128 ≤ x := by
    intro x
    unfold checkedU128
    by_cases hx : x < 2 ^ 128
    · rw [if_pos hx]
      exact iff_of_false (by intro h; cases h) (Nat.not_le.mpr hx)
    · rw [if_neg hx]
      exact iff_of_true rfl (Nat.not_lt.mp hx)
  unfold reportTime sumAt
  rw [Option.map_eq_none_iff, hsum]
  by_cases hunset : c.lastSystemTime = 0
  · simp [hunset]
  · simp only [hunset, if_false]
    split <;> rfl

/-- What the first half reports is a `u128`. -/
theorem lastReportedTime_lt {c c' : ClockState} {now : ℕ} (h : c.reportTime now = some c') :
    c'.lastReportedTime < 2 ^ 128 := by
  unfold reportTime at h
  rw [Option.map_eq_some_iff] at h
  obtain ⟨sum, -, rfl⟩ := h
  exact Nat.mod_lt _ (by decide)

/-- Without an overflow the second half returns. -/
theorem creditTime_of_not_overflows {c : ClockState} (hrep : c.lastReportedTime < 2 ^ 128)
    (h : ¬ c.CreditOverflows) :
    c.creditTime = some (c.tpmTime + c.credit,
      { c with tpmTime := c.tpmTime + c.credit, lastRealTime := c.lastRealTime + c.used }) := by
  simp only [CreditOverflows, not_or, not_and, Nat.not_le, Nat.not_lt] at h
  obtain ⟨hpending, hrate, hfit⟩ := h
  have hvalue : toU64 (c.tpmTime + c.credit) = some (c.tpmTime + c.credit) :=
    toU64_eq_some.mpr ⟨hfit, rfl⟩
  by_cases hle : c.lastReportedTime ≤ c.lastRealTime
  · rw [credit_of_le hle, Nat.add_zero] at hvalue ⊢
    rw [used_of_le hle, Nat.add_zero]
    simp [creditTime, hle, hvalue]
  · have hpos : 0 < c.adjustRate := by
      rcases Nat.eq_zero_or_pos c.adjustRate with hzero | hpos
      · have := hrate hzero
        rw [pending] at this
        omega
      · exact hpos
    -- the steps after the division stay below what has been checked already
    have hproduct : c.credit * c.adjustRate ≤ c.pending * clockNominal :=
      Rescale.scaled_mul_le _ _ _
    have hused : c.used ≤ c.pending := used_le_pending c
    have h₁ : checkedU128 ((c.lastReportedTime - c.lastRealTime) * clockNominal) =
        some (c.pending * clockNominal) := checkedU128_eq_some.mpr ⟨hpending, rfl⟩
    have h₂ : checkedDiv (c.pending * clockNominal) c.adjustRate = some c.credit :=
      checkedDiv_of_pos hpos
    have h₃ : checkedU128 (c.tpmTime + c.credit) = some (c.tpmTime + c.credit) :=
      checkedU128_eq_some.mpr ⟨by omega, rfl⟩
    have h₄ : checkedU128 (c.credit * c.adjustRate) = some (c.credit * c.adjustRate) :=
      checkedU128_eq_some.mpr ⟨by omega, rfl⟩
    have h₅ : checkedU128 (c.lastRealTime + c.credit * c.adjustRate / clockNominal) =
        some (c.lastRealTime + c.used) := by
      refine checkedU128_eq_some.mpr ⟨?_, rfl⟩
      have hdef : c.credit * c.adjustRate / clockNominal = c.used := rfl
      rw [hdef]
      rw [pending] at hused
      omega
    simp [creditTime, hle, h₁, h₂, h₃, h₄, h₅, hvalue]

/-- With one it panics. -/
theorem creditTime_of_overflows {c : ClockState} (h : c.CreditOverflows) :
    c.creditTime = none := by
  rcases h with hpending | ⟨hzero, hpos⟩ | hbig
  · have hle : ¬ c.lastReportedTime ≤ c.lastRealTime := by
      rw [pending] at hpending
      intro hle
      rw [Nat.sub_eq_zero_of_le hle, Nat.zero_mul] at hpending
      exact absurd hpending (by decide)
    have hfail : checkedU128 ((c.lastReportedTime - c.lastRealTime) * clockNominal) = none :=
      if_neg (Nat.not_lt.mpr hpending)
    simp [creditTime, hle, hfail]
  · have hle : ¬ c.lastReportedTime ≤ c.lastRealTime := by
      rw [pending] at hpos
      omega
    have hdiv : ∀ x : ℕ, checkedDiv x c.adjustRate = none := fun x => if_pos hzero
    simp [creditTime, hle, hdiv]
  · rw [Option.eq_none_iff_forall_ne_some]
    rintro ⟨v, c'⟩ hsome
    obtain ⟨rfl, hfit, -⟩ := creditTime_eq_some hsome
    omega

/-- **The second half panics** when the pending time does not fit its conversion, when the
rate is zero, or when the TPM time outgrows 64 bits. -/
theorem creditTime_eq_none_iff {c : ClockState} (hrep : c.lastReportedTime < 2 ^ 128) :
    c.creditTime = none ↔ c.CreditOverflows := by
  refine ⟨fun h => ?_, creditTime_of_overflows⟩
  by_contra hfits
  rw [creditTime_of_not_overflows hrep hfits] at h
  cases h

/-- **`timer_read` panics** exactly when one of its halves overflows. -/
theorem timerRead_eq_none_iff {c : ClockState} {now : ℕ} :
    c.timerRead now = none ↔ c.ReadOverflows now := by
  rw [timerRead, ReadOverflows, ← reportTime_eq_none_iff]
  cases hreport : c.reportTime now with
  | none => exact iff_of_true rfl (Or.inl rfl)
  | some c' =>
      rw [Option.bind_some, creditTime_eq_none_iff (lastReportedTime_lt hreport)]
      constructor
      · intro h
        exact Or.inr ⟨c', rfl, h⟩
      · rintro (h | ⟨c₁, hc₁, h⟩)
        · cases h
        · exact Option.some.inj hc₁ ▸ h

/-- `clock_rate_adjust` panics when the rate overflows. -/
theorem clockRateAdjust_eq_none_iff {c : ClockState} {adjustment : ℤ} :
    c.clockRateAdjust adjustment = none ↔ c.AdjustOverflows adjustment := by
  unfold clockRateAdjust strictAddSigned AdjustOverflows
  rw [Option.map_eq_none_iff]
  split
  · refine iff_of_false (by intro h; cases h) ?_
    omega
  · refine iff_of_true rfl ?_
    omega

end ClockState

/-! ## Callbacks -/

/-- The callback panics: the clock overflows, bytes are asked of an entropy source that has
not been initialized, or a buffer is missing. -/
def Callback.Panics (s : PlatformState) : Callback → Prop
  | .timerRead now => s.clock.ReadOverflows now
  | .clockRateAdjust adjustment => s.clock.AdjustOverflows adjustment
  | .getEntropy buf _ => buf ≠ [] ∧ s.entropy.previousBlock = none
  | .nvNullBuffer _ => True
  | _ => False

/-- **Which callbacks panic**, in any state. -/
theorem callback_panics_iff (p : PlatformImpl) (c : Callback) :
    c.step p = none ↔ c.Panics p.state := by
  rw [Callback.step, Option.map_eq_none_iff]
  cases c with
  | timerRead now =>
      rw [Callback.call, PlatformImpl.platTimerRead, Option.map_eq_none_iff]
      exact ClockState.timerRead_eq_none_iff
  | clockRateAdjust adjustment =>
      rw [Callback.call, PlatformImpl.platClockRateAdjust, Option.map_eq_none_iff]
      exact ClockState.clockRateAdjust_eq_none_iff
  | getEntropy buf random =>
      rw [Callback.call, PlatformImpl.platGetEntropy, Callback.Panics]
      cases buf with
      | nil =>
          rw [List.length_nil, if_pos rfl]
          refine iff_of_false ?_ fun h => h.1 rfl
          split <;> (intro h; cases h)
      | cons b bs =>
          rw [if_neg (by rw [List.length_cons]; exact Nat.succ_ne_zero _),
            Option.map_eq_none_iff, EntropyState.getEntropy]
          cases p.state.entropy.previousBlock with
          | none => exact iff_of_true rfl ⟨List.cons_ne_nil b bs, rfl⟩
          | some block => exact iff_of_false (by intro h; cases h) fun h => by cases h.2
  | nvNullBuffer callback => exact iff_of_true rfl trivial
  | _ => exact iff_of_false (by intro h; cases h) id

/-- A callback that is reached through the ones before it panics. -/
def CallbacksPanic (p : PlatformImpl) (cs : List Callback) : Prop :=
  ∃ pre c suf q, cs = pre ++ c :: suf ∧ runFrom Callback.step p pre = some q ∧ c.Panics q.state

/-- A call into the library panics exactly if one of its callbacks does. -/
theorem callbacksPanic_iff {p : PlatformImpl} {cs : List Callback} :
    runFrom Callback.step p cs = none ↔ CallbacksPanic p cs := by
  rw [runFrom_eq_none, CallbacksPanic]
  simp only [callback_panics_iff]

/-! ## Commands -/

/-- Where the library has left the response pointer, the reply cannot be handed over: it leads
into the request or nowhere, or the response slice is too short for the reply. -/
def ResponsePtr.Panics (response : List UInt8) {size : ℕ} : ResponsePtr size → Prop
  | .response => False
  | .request => True
  | .null => True
  | .redirected _ => response.length < size

/-- `execute_command_unchecked` panics exactly after such a reply. -/
theorem executeCommandUnchecked_eq_none_iff
    (executeCommandFfi : (call : LibraryCall) → LibraryReply call)
    (request response : List UInt8) :
    (executeCommandUnchecked executeCommandFfi request response).outcome = none ↔
      (executeCommandFfi (uncheckedCall request response)).responsePtr.Panics response := by
  unfold executeCommandUnchecked
  dsimp only
  cases (executeCommandFfi (uncheckedCall request response)).responsePtr with
  | response => exact iff_of_false (by intro h; cases h) id
  | request => exact iff_of_true rfl trivial
  | null => exact iff_of_true rfl trivial
  | redirected reply =>
      dsimp only
      by_cases hfits : (executeCommandFfi (uncheckedCall request response)).responseSize.toNat ≤
          response.length
      · rw [if_pos hfits]
        exact iff_of_false (by intro h; cases h) (Nat.not_lt.mpr hfits)
      · rw [if_neg hfits]
        exact iff_of_true rfl (Nat.not_le.mp hfits)

section

variable {ι : Type} {B : Build ι} {ρ : Type}

/-- The library is called, and its reply cannot be handed over. -/
def CommandRun.ReplyPanics (run : CommandRun B ρ) : Prop :=
  ∃ call, run.result.call = some call ∧ (run.reply call).responsePtr.Panics run.response

/-- **Which replies panic**, of either variant of the method. -/
theorem reply_panics_iff (run : CommandRun B ρ) :
    run.result.outcome = none ↔ run.ReplyPanics := by
  unfold CommandRun.ReplyPanics CommandRun.result
  cases run.checked with
  | false =>
      dsimp only [Bool.false_eq_true, if_false]
      rw [if_neg Bool.false_ne_true, Option.map_eq_none_iff, executeCommandUnchecked_eq_none_iff,
        call_executeCommandUnchecked]
      constructor
      · intro h
        exact ⟨_, rfl, h⟩
      · rintro ⟨call, hcall, h⟩
        exact Option.some.inj hcall ▸ h
  | true =>
      rw [if_pos rfl]
      cases hcall : (executeCommand run.reply run.request run.response).call with
      | none =>
          -- a refused request is an error, and no reply is there
          refine iff_of_false ?_ fun ⟨_, h, _⟩ => by cases h
          rw [outcome_of_call_none hcall]
          intro h
          cases h
      | some call =>
          obtain ⟨headerSize, hheader, hle, rfl⟩ := of_call_executeCommand hcall
          rw [executeCommand_of_le hheader hle, Option.map_eq_none_iff,
            executeCommandUnchecked_eq_none_iff]
          constructor
          · intro h
            exact ⟨_, rfl, h⟩
          · rintro ⟨call, hcall', h⟩
            exact Option.some.inj hcall' ▸ h

end

/-! ## The library's half of a restore -/

section

variable {ι : Type} {B : Build ι} {ρ : Type}

/-- The copy loop of a restore does not run out of a blob that is long enough. -/
theorem exists_restoreVariables [DecidableEq ι] (vars : List (RuntimeVariable ι))
    (hsize : ∀ v ∈ vars, (B.cbVariableSize v).toNat = B.sizeofVariable v)
    (blob : List UInt8) (hlen : B.variablesSize vars ≤ blob.length) (s : LibraryState B ρ) :
    ∃ s', restoreVariables vars blob s = some s' := by
  induction vars generalizing blob s with
  | nil => exact ⟨s, rfl⟩
  | cons v vars ih =>
      rw [Build.variablesSize_cons] at hlen
      have hv := hsize v List.mem_cons_self
      unfold restoreVariables
      dsimp only
      rw [hv, if_pos (by omega)]
      refine ih (fun u hu => hsize u (List.mem_cons_of_mem v hu)) _ ?_ _
      rw [List.length_drop]
      omega

/-- **`restore_runtime_state` never panics**: the C hook never returns anything but the
four values that the Rust side expects, and it never reads past the blob. -/
theorem exists_restoreRuntimeState [DecidableEq ι] (hfits : B.Fits) (lib : TpmLibrary B ρ)
    (s : LibraryState B ρ) (failure : FailureState) (state : List UInt8) :
    ∃ r, s.restoreRuntimeState lib failure state = some r := by
  unfold LibraryState.restoreRuntimeState injectedApplyRuntimeState
  dsimp only [Option.bind_eq_bind]
  by_cases hsize : UInt32.ofNat state.length ≠ B.getRuntimeStateSize
  · rw [if_pos hsize]
    exact ⟨_, rfl⟩
  · rw [if_neg hsize]
    -- a blob of the right size modulo `2 ^ 32` is at least that long
    have hlen : B.imageSize ≤ state.length := by
      rw [← Build.toNat_getRuntimeStateSize hfits, ← not_not.mp hsize, UInt32.toNat_ofNat']
      exact Nat.mod_le _ _
    rw [Build.imageSize] at hlen
    rw [if_neg (by omega)]
    by_cases hheader : (!B.headerMatches state) = true
    · rw [if_pos hheader]
      exact ⟨_, rfl⟩
    · rw [if_neg hheader]
      obtain ⟨s₁, hs₁⟩ := exists_restoreVariables B.tpmRuntimeVariables
        (fun v hv => Build.toNat_cbVariableSize hfits hv) (state.drop Build.headerSize)
        (by rw [List.length_drop]; omega) (s.flushed lib)
      rw [hs₁, Option.bind_some]
      -- the import returns 0 or 4
      generalize LibraryState.imported lib failure _ = outcome
      obtain ⟨ok, s₂, failure', imports⟩ := outcome
      cases ok with
      | true => exact ⟨_, rfl⟩
      | false => exact ⟨_, rfl⟩

namespace Process

/-! ## The methods -/

/-- A method can be called: all but `initialize` need a live handle. -/
def Callable (w : Process B ρ) : Op B ρ → Prop
  | .initializePlatform _ _ _ _ => True
  | _ => w.handles ≠ 0

/-- The method panics: a callback of the library does, its reply cannot be handed over, or
the serializer refuses the state. -/
def Panics (lib : TpmLibrary B ρ) (codec : Codec) (w : Process B ρ) : Op B ρ → Prop
  | .initializePlatform callbacks initKind manufacture tpmInit =>
    w.platform = none ∧ initKind.Valid ∧
      CallbacksPanic (.powerUp callbacks initKind)
        (initializeCallbacks initKind manufacture tpmInit)
  | .reset withNewNvmemBlob tpmInit =>
    ∃ p, w.platform = some p ∧
      (∀ blob, withNewNvmemBlob = some blob → blob.length = nvMemorySize) ∧
      CallbacksPanic (p.poweredAgain (p.resetRegion withNewNvmemBlob)) tpmInit.callbacks
  | .executeCommand run =>
    (∃ p, w.platform = some p ∧ CallbacksPanic p run.callbacks) ∨ run.ReplyPanics
  | .saveState =>
    ∃ p e, w.platform = some p ∧
      codec.toStdvec { tpmlibState := w.library.image lib, platformState := p.state } = .error e
  | .drop => False
  | .restoreState _ => False
  | .setCancelFlag _ => False
  | .setLocality _ => False

/-- There is at most one handle, and while there is one the global holds a platform. -/
structure HandleHolds (w : Process B ρ) : Prop where
  handles_le : w.handles ≤ 1
  platform : w.handles ≠ 0 → ∃ p, w.platform = some p

/-- With an empty global no handle is live. -/
theorem HandleHolds.handles_of_none {w : Process B ρ} (h : w.HandleHolds)
    (hnone : w.platform = none) : w.handles = 0 := by
  by_contra hne
  obtain ⟨p, hp⟩ := h.platform hne
  rw [hnone] at hp
  cases hp

/-- A step that ends with a platform and as many handles keeps it. -/
theorem HandleHolds.of_some {w w' : Process B ρ} (h : w.HandleHolds) {p : PlatformImpl}
    (hp : w'.platform = some p) (hhandles : w'.handles = w.handles) : w'.HandleHolds :=
  ⟨hhandles ▸ h.handles_le, fun _ => ⟨p, hp⟩⟩

/-- An `initialize` keeps it. -/
theorem handleHolds_initializePlatform {w w' : Process B ρ} (h : w.HandleHolds)
    {callbacks : HostCallbacks} {initKind : InitKind} {manufacture tpmInit : LibraryRun B ρ}
    {r : Except Error Unit}
    (hinit : w.initializePlatform callbacks initKind manufacture tpmInit = some (r, w')) :
    w'.HandleHolds := by
  cases hplat : w.platform with
  | some p =>
      rw [initializePlatform_of_some hplat] at hinit
      obtain ⟨-, rfl⟩ := Prod.mk.inj (Option.some.inj hinit)
      exact h
  | none =>
      have hzero := h.handles_of_none hplat
      by_cases hvalid : initKind.Valid
      · rw [initializePlatform_of_valid hplat hvalid] at hinit
        obtain ⟨p, p', -, hp', ⟨-, -, -, hhandles⟩ | ⟨-, -, -, -, hhandles⟩⟩ :=
          startLibrary_cases hinit
        · refine ⟨?_, fun _ => ⟨p', hp'⟩⟩
          rw [hhandles]
          show w.handles + 1 ≤ 1
          omega
        · refine ⟨?_, fun _ => ⟨p', hp'⟩⟩
          rw [hhandles]
          exact h.handles_le
      · obtain ⟨e, he⟩ := initializePlatform_of_not_valid hplat hvalid callbacks
          manufacture tpmInit
        rw [he] at hinit
        obtain ⟨-, rfl⟩ := Prod.mk.inj (Option.some.inj hinit)
        exact h

/-- Every step keeps it. -/
theorem handleHolds_step [DecidableEq ι] {lib : TpmLibrary B ρ} {codec : Codec}
    {w w' : Process B ρ} {op : Op B ρ} (h : w.HandleHolds) (hstep : w.step lib codec op = some w') :
    w'.HandleHolds := by
  cases effect hstep with
  | started _ _ _ _ =>
      obtain ⟨⟨r, w₁⟩, hinit, rfl⟩ := Option.map_eq_some_iff.mp hstep
      exact handleHolds_initializePlatform h hinit
  | refused _ => exact h
  | dropped =>
      have hle := h.handles_le
      have hzero : w.handles - 1 = 0 := by omega
      exact ⟨(Nat.sub_le _ _).trans hle, fun hne => absurd hzero hne⟩
  | poweredAgain _ _ _ hp' hhandles => exact h.of_some hp' hhandles
  | poweredOff _ _ => exact h.of_some rfl rfl
  | unsent _ _ => exact h
  | executed _ _ _ _ => exact h.of_some rfl rfl
  | saved => exact h
  | undecodable _ => exact h
  | restored _ _ _ => exact h.of_some rfl rfl
  | cancelSet _ => exact h.of_some rfl rfl
  | localitySet _ => exact h.of_some rfl rfl

/-- The process starts without a handle. -/
theorem handleHolds_start (library : LibraryState B ρ) : (start library).HandleHolds :=
  ⟨Nat.zero_le 1, fun h => absurd rfl h⟩

/-- A call into the library panics exactly if one of its callbacks does. -/
theorem runLibrary_eq_none_iff {w : Process B ρ} {p : PlatformImpl} (hp : w.platform = some p)
    (run : LibraryRun B ρ) : w.runLibrary run = none ↔ CallbacksPanic p run.callbacks := by
  unfold runLibrary
  rw [hp, Option.bind_some, Option.map_eq_none_iff, callbacksPanic_iff]

/-- A command panics if one of its callbacks does, or after its reply. -/
theorem executeCommand_eq_none_iff {w : Process B ρ} {p : PlatformImpl}
    (hp : w.platform = some p) (run : CommandRun B ρ) :
    w.executeCommand run = none ↔ CallbacksPanic p run.callbacks ∨ run.ReplyPanics := by
  rw [← reply_panics_iff, executeCommand]
  cases hcall : run.result.call with
  | none =>
      rw [callCommand_of_none hcall, Option.bind_some, Option.map_eq_none_iff,
        CommandRun.callbacks_of_none hcall, ← callbacksPanic_iff]
      constructor
      · exact Or.inr
      · rintro (h | h)
        · cases h
        · exact h
  | some call =>
      rw [callCommand_of_some hcall, CommandRun.callbacks_of_some hcall,
        ← runLibrary_eq_none_iff hp]
      cases w.runLibrary (run.library call) with
      | none => exact iff_of_true rfl (Or.inl rfl)
      | some w₁ =>
          rw [Option.map_some, Option.bind_some, Option.map_eq_none_iff]
          constructor
          · exact Or.inr
          · rintro (h | h)
            · cases h
            · exact h

/-- So does the library half of `initialize`. -/
theorem startLibrary_eq_none_iff {w : Process B ρ} {p : PlatformImpl} (hp : w.platform = some p)
    (initKind : InitKind) (manufacture tpmInit : LibraryRun B ρ) :
    w.startLibrary initKind manufacture tpmInit = none ↔
      CallbacksPanic p (initializeCallbacks initKind manufacture tpmInit) := by
  rw [← callbacksPanic_iff, startLibrary, initializeCallbacks]
  cases hman : initKind.manufactures with
  | false =>
      simp only [Bool.false_eq_true, false_and, if_false]
      rw [Option.map_eq_none_iff, runLibrary_eq_none_iff hp, ← callbacksPanic_iff, startCallbacks,
        hman]
      rfl
  | true =>
      rw [if_pos rfl, runLibrary, hp, Option.bind_some]
      by_cases hret : manufacture.ret ≠ 0
      · rw [if_pos ⟨rfl, hret⟩]
        cases runFrom Callback.step p manufacture.callbacks with
        | none => exact iff_of_true rfl rfl
        | some p₁ =>
            rw [Option.map_some, Option.bind_some, if_pos hret]
            exact iff_of_false (by intro h; cases h) (by intro h; cases h)
      · rw [if_neg fun h => hret h.2, startCallbacks, if_pos hman, runFrom_append]
        cases runFrom Callback.step p manufacture.callbacks with
        | none => exact iff_of_true rfl rfl
        | some p₁ =>
            rw [Option.map_some, Option.bind_some, Option.bind_some, if_neg hret,
              Option.map_eq_none_iff, runLibrary, Option.bind_some, Option.map_eq_none_iff]

/-- A command that asks for a random byte before the source has been initialized. -/
def earlyEntropyRun : LibraryRun miniBuild Unit where
  callbacks := [.isCanceled, .getEntropy [0] fun _ => { bytes := fun _ => 0, returned := .ok 4 }]
  memory := miniMemory
  ret := 0

/-- A command to which the library answers as in failure mode, with no slice for it. -/
def overlongRun : CommandRun miniBuild Unit where
  checked := true
  request := shortRequest
  response := []
  reply := failedLibrary
  library _ := { callbacks := [], memory := miniMemory, ret := 0 }

end Process

end

end TpmPlatform
