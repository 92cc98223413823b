/-
# Failure mode is sticky

`_plat__Fail` records its arguments only while the platform is not in failure mode,
and nothing but `_plat__StartTpmInit` takes it out of failure mode again; but the
state that the record lives in is replaced as a whole by `initialize` and by
`restore_state`.

`failure_sticky` : in every run of public operations and library callbacks, failure
code and location are those of the first failure since the state was last loaded,
where a blob that decodes is a load whatever `restore_state` goes on to return;
`failure_not_sticky` : a blob that decodes and is then refused for its size takes the
platform out of failure mode.
-/
import TpmPlatform.Latch
import TpmPlatform.RestoreErrors

namespace TpmPlatform

open Runs

/-! ## The record of a failure -/

/-- What `_plat__GetFailureCode` and `_plat__GetFailureLocation` report. -/
structure FailureReport where
  failureCode : UInt32
  failureLocation : UInt64
  deriving DecidableEq

/-- The report of a call of `_plat__Fail`. -/
def FailCall.report (f : FailCall) : FailureReport where
  failureCode := f.failureCode.toUInt32
  failureLocation := f.locationCode

/-- The failure on record, if the platform is in failure mode. -/
def FailureState.reported (s : FailureState) : Option FailureReport :=
  if s.inFailureMode then
    some { failureCode := s.failureCode, failureLocation := s.failureLocation }
  else none

/-- A failure is on record exactly in failure mode. -/
theorem isSome_reported (s : FailureState) : s.reported.isSome = s.inFailureMode := by
  unfold FailureState.reported
  cases s.inFailureMode with
  | true => rfl
  | false => rfl

/-- **`fail` is a latch**: it records its arguments unless there is a record already. -/
theorem reported_fail (s : FailureState) (f : FailCall) :
    (s.fail f.locationCode f.failureCode).reported = some (s.reported.getD f.report) := by
  cases h : s.inFailureMode with
  | true =>
      rw [FailureState.fail_of_inFailureMode h, FailureState.reported, if_pos h]
      rfl
  | false =>
      have hnone : s.reported = none := by
        rw [FailureState.reported, h]
        rfl
      rw [hnone, FailureState.fail, h]
      rfl

/-- The failures of a library call go into the latch one after the other. -/
theorem reported_foldl_fail (fs : List FailCall) (s : FailureState) :
    (fs.foldl (fun s f => s.fail f.locationCode f.failureCode) s).reported =
      (fs.map fun f => Latch.Event.report f.report).foldl Latch.after s.reported := by
  induction fs generalizing s with
  | nil => rfl
  | cons f fs ih =>
      rw [List.foldl_cons, List.map_cons, List.foldl_cons, ih, reported_fail,
        Latch.after_report]

/-! ## What the library does to the record -/

/-- What a callback means for the record. -/
def Callback.failureEvents : Callback → List (Latch.Event FailureReport)
  | .startTpmInit => [.load none]
  | .fail locationCode failureCode =>
    [.report { failureCode := failureCode.toUInt32, failureLocation := locationCode }]
  | _ => []

/-- One callback. -/
theorem reported_callback {p p' : PlatformImpl} {c : Callback} (h : c.step p = some p') :
    p'.state.failure.reported =
      c.failureEvents.foldl Latch.after p.state.failure.reported := by
  rw [(Callback.effect h).failure_eq]
  cases c with
  | startTpmInit => rfl
  | fail locationCode failureCode =>
      exact reported_fail p.state.failure { locationCode, failureCode }
  | _ => rfl

/-- All callbacks of a call into the library. -/
theorem reported_callbacks {p p' : PlatformImpl} {cs : List Callback}
    (h : runFrom Callback.step p cs = some p') :
    p'.state.failure.reported =
      (cs.flatMap Callback.failureEvents).foldl Latch.after p.state.failure.reported := by
  induction cs generalizing p with
  | nil =>
      rw [runFrom_nil] at h
      rw [Option.some.inj h, List.flatMap_nil, List.foldl_nil]
  | cons c cs ih =>
      obtain ⟨p₁, hc, hcs⟩ := (runFrom_cons_eq_some _).mp h
      rw [List.flatMap_cons, List.foldl_append, ← reported_callback hc]
      exact ih hcs

section

variable {ι : Type} {B : Build ι} {ρ : Type}

/-- The failures that `SequenceDataImport` reports during the import loop, up to the
one at which the loop gives up. -/
def importFailures (lib : TpmLibrary B ρ) (wasInFailureMode : Bool) :
    List B.Object → ImportState ρ → List FailCall
  | [], _ => []
  | object :: objects, st =>
    if Build.isOccupiedSequence object then
      let outcome := lib.sequenceDataImport object object st.rest
      let st : ImportState ρ :=
        { rest := outcome.rest
          failure := outcome.failures.foldl
            (fun s f => s.fail f.locationCode f.failureCode) st.failure }
      outcome.failures ++
        if !wasInFailureMode && st.failure.inFailureMode then []
        else importFailures lib wasInFailureMode objects st
    else importFailures lib wasInFailureMode objects st

/-- The import loop passes on every failure that is reported to it. -/
theorem failure_importSequenceObjectStates (lib : TpmLibrary B ρ) (wasInFailureMode : Bool)
    (objects : List B.Object) (slot : ℕ) (st : ImportState ρ) :
    (importSequenceObjectStates lib wasInFailureMode objects slot st).2.2.1.failure =
      (importFailures lib wasInFailureMode objects st).foldl
        (fun s f => s.fail f.locationCode f.failureCode) st.failure := by
  induction objects generalizing slot st with
  | nil => rfl
  | cons object objects ih =>
      unfold importSequenceObjectStates importFailures
      by_cases hseq : Build.isOccupiedSequence object
      · rw [if_pos hseq, if_pos hseq]
        dsimp only
        rw [List.foldl_append]
        split_ifs with hstop
        · rfl
        · exact ih (slot + 1) _
      · rw [if_neg hseq, if_neg hseq]
        exact ih (slot + 1) st

namespace LibraryState

/-- The failures reported while a blob is restored: those of the import, if the blob
passes the checks before it. -/
def restoreFailures [DecidableEq ι] (lib : TpmLibrary B ρ) (s : LibraryState B ρ)
    (failure : FailureState) (state : List UInt8) : List FailCall :=
  if UInt32.ofNat state.length = B.getRuntimeStateSize ∧ Build.headerSize ≤ state.length ∧
      B.headerMatches state = true then
    match s.overwritten lib state with
    | none => []
    | some s => importFailures lib failure.inFailureMode s.sObjects.toList
        { rest := s.rest, failure := failure }
  else []

/-- The failure state that the library's half of a restore leaves. -/
theorem reported_restoreRuntimeState [DecidableEq ι] {lib : TpmLibrary B ρ}
    {s s' : LibraryState B ρ} {failure failure' : FailureState} {state : List UInt8}
    {r : Except Error Unit} (h : s.restoreRuntimeState lib failure state = some (r, s', failure')) :
    failure'.reported = ((s.restoreFailures lib failure state).map fun f =>
      Latch.Event.report f.report).foldl Latch.after failure.reported := by
  unfold restoreFailures
  rcases restoreRuntimeState_cases h with ⟨-, hnot, -, rfl⟩ | ⟨s₁, haccepts, hs₁, -, rfl, -⟩
  · rw [if_neg fun hc => hnot ⟨hc.1, hc.2.1, hc.2.2⟩]
    rfl
  · rw [if_pos ⟨haccepts.size_eq, haccepts.headerSize_le, haccepts.header⟩, hs₁,
      ← reported_foldl_fail]
    exact congrArg FailureState.reported (failure_importSequenceObjectStates lib _ _ 0 _)

end LibraryState

/-! ## What a use of the crate does to the record -/

namespace Process

/-- What a use of the crate means for the record: an `initialize` that gets past its
checks loads a new state, a blob that decodes loads the state in it, and otherwise
there is what the library reports. -/
def failureEvents [DecidableEq ι] (lib : TpmLibrary B ρ) (codec : Codec) (w : Process B ρ) :
    Op B ρ → List (Latch.Event FailureReport)
  | .initializePlatform _ initKind manufacture tpmInit =>
    if w.platform.isNone ∧ initKind.Valid then
      .load none ::
        (initializeCallbacks initKind manufacture tpmInit).flatMap Callback.failureEvents
    else []
  | .reset withNewNvmemBlob tpmInit =>
    -- a refused blob ends the reset before the library is called
    if ∀ blob ∈ withNewNvmemBlob, blob.length = nvMemorySize then
      tpmInit.callbacks.flatMap Callback.failureEvents
    else []
  | .executeCommand run => run.callbacks.flatMap Callback.failureEvents
  | .restoreState state =>
    match codec.fromBytes state with
    | .error _ => []
    | .ok st =>
      .load st.platformState.failure.reported ::
        (w.library.restoreFailures lib st.platformState.failure st.tpmlibState).map
          fun f => .report f.report
  | .drop => []
  | .saveState => []
  | .setCancelFlag _ => []
  | .setLocality _ => []

/-- The failure record of the platform is what a latch should hold after `events`. -/
def RecordsFailures (w : Process B ρ) (events : List (Latch.Event FailureReport)) : Prop :=
  w.Holds fun p => Latch.Holds p.state.failure.reported events

/-- A call into the library keeps the record. -/
theorem holds_callbacks {p p' : PlatformImpl} {cs : List Callback}
    {events : List (Latch.Event FailureReport)}
    (hp : Latch.Holds p.state.failure.reported events)
    (h : runFrom Callback.step p cs = some p') :
    Latch.Holds p'.state.failure.reported (events ++ cs.flatMap Callback.failureEvents) := by
  rw [reported_callbacks h]
  exact hp.foldl _

/-- **Step.**  Every use of the crate keeps the record. -/
theorem recordsFailures_step [DecidableEq ι] {lib : TpmLibrary B ρ} {codec : Codec}
    {w w' : Process B ρ} {op : Op B ρ} {events : List (Latch.Event FailureReport)}
    (hw : w.RecordsFailures events) (h : w.step lib codec op = some w') :
    w'.RecordsFailures (events ++ w.failureEvents lib codec op) := by
  cases effect h with
  | @started callbacks initKind _ _ _ _ hnone hvalid hrun hp =>
      rw [failureEvents, if_pos ⟨Option.isNone_iff_eq_none.mpr hnone, hvalid⟩, RecordsFailures,
        holds_some hp, List.append_cons]
      have hfresh : Latch.Holds (PlatformImpl.powerUp callbacks initKind).state.failure.reported
          (events ++ [.load none]) := Latch.holds_load none events
      exact holds_callbacks hfresh hrun
  | refused hrefused =>
      rw [failureEvents, if_neg fun hc => hrefused (Option.isNone_iff_eq_none.mp hc.1) hc.2,
        List.append_nil]
      exact hw
  | dropped => exact holds_none _ rfl
  | @poweredAgain withNewNvmemBlob tpmInit p _ _ hp hlen hrun hp' _ =>
      -- switching off and on does not touch the record
      rw [failureEvents, if_pos fun blob hblob => hlen blob (Option.mem_def.mp hblob),
        RecordsFailures, holds_some hp']
      exact holds_callbacks (p := p.poweredAgain _) (hw p hp) hrun
  | @poweredOff blob tpmInit p hp hlen =>
      rw [failureEvents, if_neg fun hc => hlen (hc blob rfl), List.append_nil, RecordsFailures,
        holds_some rfl]
      exact hw p hp
  | unsent _ hcall =>
      rw [failureEvents, CommandRun.callbacks_of_none hcall, List.flatMap_nil, List.append_nil]
      exact hw
  | executed _ _ hp hrun =>
      rw [RecordsFailures, holds_some rfl]
      exact holds_callbacks (hw _ hp) hrun
  | saved =>
      rw [failureEvents, List.append_nil]
      exact hw
  | undecodable hdec =>
      rw [failureEvents, hdec, List.append_nil]
      exact hw
  | @restored _ _ _ failure _ _ hdec _ happly =>
      rw [failureEvents, hdec, RecordsFailures, holds_some rfl]
      show Latch.Holds failure.reported _
      rw [LibraryState.reported_restoreRuntimeState happly]
      exact Latch.holds_foldl_load _ events _
  | @cancelSet _ p hp =>
      rw [failureEvents, List.append_nil, RecordsFailures, holds_some rfl]
      exact hw p hp
  | @localitySet _ p hp =>
      rw [failureEvents, List.append_nil, RecordsFailures, holds_some rfl]
      exact hw p hp

/-! ## Whole runs -/

/-- The failure state is the one that the events leave: that of the last load, or, if
that was outside failure mode, the first failure reported since. -/
def RecordsFirst (s : FailureState) (events : List (Latch.Event FailureReport)) : Prop :=
  ∃ (pre : List (Latch.Event FailureReport)) (loaded : Option FailureReport)
    (reports : List FailureReport),
    events = pre ++ .load loaded :: reports.map .report ∧
    s.inFailureMode = (loaded.or reports.head?).isSome ∧
    ∀ r, loaded.or reports.head? = some r →
      s.failureCode = r.failureCode ∧ s.failureLocation = r.failureLocation

/-- **Failure mode is sticky.**  In every run, whatever is called in whatever order:
since the last load of a new state (an accepted `initialize`, a `_plat__StartTpmInit`,
a blob that decodes) the platform is in failure mode if it was loaded so or a failure
has been reported, and code and location are those loaded or else those of the first
failure reported. -/
theorem failure_sticky [DecidableEq ι] (lib : TpmLibrary B ρ) (codec : Codec)
    (library : LibraryState B ρ) (ops : List (Op B ρ)) (w : Process B ρ) (p : PlatformImpl)
    (hrun : runFrom (step lib codec) (start library) ops = some w) (hp : w.platform = some p) :
    RecordsFirst p.state.failure
      (emitted (step lib codec) (failureEvents lib codec) (start library) ops) := by
  have hstart : (start library).RecordsFailures [] := holds_none _ rfl
  have hend : w.RecordsFailures
      ([] ++ emitted (step lib codec) (failureEvents lib codec) (start library) ops) :=
    emitted_of_step (fun _ _ _ _ hw h => recordsFailures_step hw h) hstart hrun
  obtain ⟨pre, loaded, reports, hevents, hreported⟩ := hend p hp
  rw [List.nil_append] at hevents
  refine ⟨pre, loaded, reports, hevents, ?_, fun r hr => ?_⟩
  · rw [← hreported, isSome_reported]
  · rw [hr, FailureState.reported] at hreported
    split_ifs at hreported
    obtain rfl := Option.some.inj hreported
    exact ⟨rfl, rfl⟩

/-- A command that reports two failures. -/
def failingRun : LibraryRun miniBuild Unit where
  callbacks := [.fail 5 7, .fail 6 8]
  memory := miniMemory
  ret := 0

/-- The platform after a cold init and such a command. -/
def failedPlatform : PlatformImpl :=
  (PlatformImpl.powerUp { commits := [] } .coldInit).withFailure
    { failureCode := 7, failureLocation := 5, inFailureMode := true }

/-- A cold init and such a command. -/
def failingOps : List (Op miniBuild Unit) :=
  [.initializePlatform { commits := [] } .coldInit coldProcess.silent coldProcess.silent,
    .executeCommand failingRun.command]

/-- The first of the two failures is on record. -/
theorem failure_sticky_second :
    RecordsFirst failedPlatform.state.failure
      [.load none, .report ⟨7, 5⟩, .report ⟨8, 6⟩] :=
  failure_sticky miniLibrary refusingCodec miniMemory failingOps
    { coldProcess with platform := some failedPlatform } failedPlatform rfl rfl

/-- A blob that decodes to a platform outside failure mode and is refused for the size
of its library half ends the failure mode, although `restore_state` returns an error
before it imports anything. -/
theorem failure_not_sticky :
    ¬ ∀ (codec : Codec) (ops : List (Op miniBuild Unit)) (w w' : Process miniBuild Unit)
        (state : List UInt8) (e : Error),
      runFrom (step miniLibrary codec) (start miniMemory) ops = some w →
      w.Holds (fun p => p.state.failure.inFailureMode = true) →
      w.restoreState miniLibrary codec state = some (.error e, w') → e ≠ .failedRestore 4 →
      w'.Holds fun p => p.state.failure.inFailureMode = true := by
  intro h
  have hfailed : Holds (fun p => p.state.failure.inFailureMode = true)
      { coldProcess with platform := some failedPlatform } := (holds_some rfl).mpr rfl
  have hstill := h emptyLibraryCodec failingOps _ _ [] .invalidRestoreSize rfl hfailed rfl
    (by intro hc; cases hc)
  exact Bool.false_ne_true (hstill _ rfl)

end Process

end

end TpmPlatform
