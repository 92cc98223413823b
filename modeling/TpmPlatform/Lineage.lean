/-
# The time of a TPM, from host to host (`plat/api/clock.rs`, `plat/mod.rs`)

A fleet of hosts, each with a timer of its own that shows what it likes.  A TPM is used on
one of them, saved, and restored on another or on the same one; from a saved state it can be
continued more than once, and what happened after the save is then not in its past.

`time_monotone` : along the life of a TPM, from power-on over any number of hosts, the answers
of `_plat__TimerRead` never decrease.
-/
import TpmPlatform.ClockRuns
import TpmPlatform.MigrationChain

namespace TpmPlatform

open Runs

/-! ## Answers of the timer -/

/-- The TPM is powered on, which starts its time anew, or it is told the time. -/
inductive TimeEvent
  | poweredOn
  | answered (value : ℕ)

/-- The times that a TPM has been told since its power-on. -/
def timeline (times : List ℕ) (events : List TimeEvent) : List ℕ :=
  events.foldl (fun times e =>
    match e with
    | .poweredOn => []
    | .answered value => times ++ [value]) times

theorem timeline_append (times : List ℕ) (events events' : List TimeEvent) :
    timeline times (events ++ events') = timeline (timeline times events) events' :=
  List.foldl_append

/-- What a callback tells. -/
def Callback.timeEvents (p : PlatformImpl) : Callback → List TimeEvent
  | .timerRead now =>
    match p.state.clock.timerRead now with
    | some (value, _) => [.answered value]
    | none => []
  | _ => []

/-- The times so far are in order, and the clock is past them. -/
structure KeepsTime (clock : ClockState) (times : List ℕ) : Prop where
  sorted : times.Pairwise (· ≤ ·)
  sound : ClockTrace.Sound { clock := clock, readings := [], returned := times }

/-- At power-on, whatever it has been told before. -/
theorem keepsTime_poweredOn (times : List ℕ) : KeepsTime .new (timeline times [.poweredOn]) :=
  ⟨List.Pairwise.nil, ClockTrace.sound_powerOn⟩

/-- Only the rate and the time of the clock matter. -/
theorem KeepsTime.congr {c c' : ClockState} {times : List ℕ} (h : KeepsTime c times)
    (hrate : c'.adjustRate = c.adjustRate) (htime : c'.tpmTime = c.tpmTime) :
    KeepsTime c' times := by
  obtain ⟨hsorted, hlimits, hlt, hle⟩ := h
  refine ⟨hsorted, ?_, ?_, ?_⟩
  · rw [ClockState.RateInLimits] at hlimits ⊢
    exact hrate ▸ hlimits
  · exact htime ▸ hlt
  · exact fun v hv => htime ▸ hle v hv

/-- A read answers the time of the clock, which has not gone back. -/
theorem KeepsTime.timerRead {c c' : ClockState} {times : List ℕ} {now value : ℕ}
    (h : KeepsTime c times) (hread : c.timerRead now = some (value, c')) :
    KeepsTime c' (times ++ [value]) := by
  have hstep : ClockTrace.step { clock := c, readings := [], returned := times } (.timerRead now) =
      some { clock := c', readings := [] ++ [now], returned := times ++ [value] } :=
    congrArg (Option.map _) hread
  obtain ⟨c₁, hreport, -, -, -, hvalue⟩ := ClockTrace.step_timerRead hstep
  obtain ⟨-, htime⟩ := ClockTrace.reportTime_frame hreport
  have hsound := ClockTrace.sound_step h.sound hstep
  refine ⟨?_, hsound.rate, hsound.tpm_lt, hsound.returned_le⟩
  rw [List.pairwise_append]
  refine ⟨h.sorted, List.pairwise_singleton _ value, fun u hu v hv => ?_⟩
  have hpast : u ≤ c.tpmTime := h.sound.returned_le u hu
  have hnow : value = c₁.tpmTime + c₁.credit :=
    List.singleton_inj.mp (List.append_cancel_left hvalue)
  rw [List.mem_singleton.mp hv, hnow, htime]
  exact Nat.le_add_right_of_le hpast

/-- An adjustment changes the rate, within its limits. -/
theorem KeepsTime.clockRateAdjust {c c' : ClockState} {times : List ℕ} {adjustment : ℤ}
    (h : KeepsTime c times) (hadjust : c.clockRateAdjust adjustment = some c') :
    KeepsTime c' times := by
  have hstep : ClockTrace.step { clock := c, readings := [], returned := times }
      (.clockRateAdjust adjustment) =
        some { clock := c', readings := [], returned := times } :=
    congrArg (Option.map _) hadjust
  exact ⟨h.sorted, ClockTrace.sound_step h.sound hstep⟩

/-- **One callback.** -/
theorem keepsTime_callback {p p' : PlatformImpl} {c : Callback} {times : List ℕ}
    (h : KeepsTime p.state.clock times) (hstep : c.step p = some p') :
    KeepsTime p'.state.clock (timeline times (c.timeEvents p)) := by
  have hclock := (Callback.effect hstep).clock_step
  cases c with
  | timerRead now =>
      obtain ⟨value, hread⟩ := hclock
      rw [Callback.timeEvents, hread]
      exact h.timerRead hread
  | clockRateAdjust adjustment => exact h.clockRateAdjust hclock
  | timerWasReset =>
      have hflag : p'.state.clock = p.state.clock.timerWasReset.2 := hclock
      rw [hflag]
      exact h.congr rfl rfl
  | timerWasStopped =>
      have hflag : p'.state.clock = p.state.clock.timerWasStopped.2 := hclock
      rw [hflag]
      exact h.congr rfl rfl
  | _ =>
      have hsame : p'.state.clock = p.state.clock := hclock
      rw [hsame]
      exact h

/-- A call into the library. -/
theorem keepsTime_callbacks {p p' : PlatformImpl} {cs : List Callback} {times : List ℕ}
    {events : List TimeEvent} (h : KeepsTime p.state.clock (timeline times events))
    (hrun : runFrom Callback.step p cs = some p') :
    KeepsTime p'.state.clock
      (timeline times (events ++ emitted Callback.step Callback.timeEvents p cs)) := by
  refine emitted_of_step (R := fun p events => KeepsTime p.state.clock (timeline times events))
    (fun _ _ _ _ hp hstep => ?_) h hrun
  rw [timeline_append]
  exact keepsTime_callback hp hstep

/-! ## Uses of the crate -/

namespace Process

variable {ι : Type} {B : Build ι} {ρ : Type}

/-- What a use of the crate means for the time, a restore aside. -/
def timeEvents (w : Process B ρ) : Op B ρ → List TimeEvent
  | .initializePlatform callbacks initKind manufacture tpmInit =>
    if w.platform.isNone ∧ initKind.Valid then
      .poweredOn :: emitted Callback.step Callback.timeEvents (.powerUp callbacks initKind)
        (initializeCallbacks initKind manufacture tpmInit)
    else []
  | .reset withNewNvmemBlob tpmInit =>
    match w.platform with
    | none => []
    | some p =>
      if ∀ blob ∈ withNewNvmemBlob, blob.length = nvMemorySize then
        .poweredOn :: emitted Callback.step Callback.timeEvents
          (p.poweredAgain (p.resetRegion withNewNvmemBlob)) tpmInit.callbacks
      else []
  | .executeCommand run =>
    match w.platform with
    | none => []
    | some p => emitted Callback.step Callback.timeEvents p run.callbacks
  | _ => []

/-- The platform in the global, if there is one, keeps the time of its TPM. -/
structure TimeKept (w : Process B ρ) (times : List ℕ) : Prop where
  sorted : times.Pairwise (· ≤ ·)
  holds : w.Holds fun p => KeepsTime p.state.clock times

/-- With a platform in the global, one statement says it all. -/
theorem timeKept_of_some {w : Process B ρ} {p : PlatformImpl} {times : List ℕ}
    (hp : w.platform = some p) (h : KeepsTime p.state.clock times) : w.TimeKept times := by
  refine ⟨h.sorted, ?_⟩
  rw [holds_some hp]
  exact h

/-- **Step.** -/
theorem timeKept_step [DecidableEq ι] {lib : TpmLibrary B ρ} {codec : Codec}
    {w w' : Process B ρ} {op : Op B ρ} {times : List ℕ} (hw : w.TimeKept times)
    (hop : ∀ state, op ≠ .restoreState state) (h : w.step lib codec op = some w') :
    w'.TimeKept (timeline times (w.timeEvents op)) := by
  cases effect h with
  | @started callbacks initKind _ _ _ _ hnone hvalid hrun hp =>
      rw [timeEvents, if_pos ⟨Option.isNone_iff_eq_none.mpr hnone, hvalid⟩]
      exact timeKept_of_some hp (keepsTime_callbacks (keepsTime_poweredOn times) hrun)
  | refused hrefused =>
      rw [timeEvents, if_neg fun hc => hrefused (Option.isNone_iff_eq_none.mp hc.1) hc.2]
      exact hw
  | dropped => exact ⟨hw.sorted, holds_none _ rfl⟩
  | @poweredAgain withNewNvmemBlob _ p _ _ hp hlen hrun hp' _ =>
      rw [timeEvents, hp]
      dsimp only
      rw [if_pos fun blob hblob => hlen blob (Option.mem_def.mp hblob)]
      exact timeKept_of_some hp' (keepsTime_callbacks (keepsTime_poweredOn times) hrun)
  | @poweredOff blob _ p hp hlen =>
      rw [timeEvents, hp]
      dsimp only
      rw [if_neg fun hc => hlen (hc blob rfl)]
      exact timeKept_of_some rfl (hw.holds p hp)
  | unsent _ hcall =>
      rw [timeEvents, CommandRun.callbacks_of_none hcall]
      cases w.platform <;> exact hw
  | executed _ _ hp hrun =>
      rw [timeEvents, hp]
      have hbefore : KeepsTime _ (timeline times []) := hw.holds _ hp
      exact timeKept_of_some rfl (keepsTime_callbacks hbefore hrun)
  | saved => exact hw
  | undecodable _ => exact absurd rfl (hop _)
  | restored _ _ _ => exact absurd rfl (hop _)
  | @cancelSet _ p hp => exact timeKept_of_some rfl (hw.holds p hp)
  | @localitySet _ p hp => exact timeKept_of_some rfl (hw.holds p hp)

/-- What has been saved from a platform, brings its clock back; the handle stays. -/
theorem clock_restored [DecidableEq ι] {lib lib' : TpmLibrary B ρ} {codec : Codec}
    {source w w' : Process B ρ} {p : PlatformImpl} {blob : List UInt8}
    (hp : source.platform = some p) (hcodec : codec.RoundTrips p.state)
    (hsave : source.saveState lib codec = some blob)
    (h : w.step lib' codec (.restoreState blob) = some w') :
    ∃ p', w'.platform = some p' ∧ p'.state.clock = p.state.clock ∧ w'.handles = w.handles := by
  have hdecode : ∃ image, codec.fromBytes blob =
      .ok { tpmlibState := image, platformState := p.state } := by
    unfold saveState at hsave
    obtain ⟨image, -, hrest⟩ := Option.bind_eq_some_iff.mp hsave
    rw [hp] at hrest
    dsimp only [Option.bind_eq_bind, Option.bind_some, PlatformImpl.getRuntimeState] at hrest
    obtain ⟨bytes, hencode, hbytes⟩ := hcodec image
    rw [hencode] at hrest
    obtain rfl := Option.some.inj hrest
    exact ⟨image, hbytes⟩
  obtain ⟨image, hdecode⟩ := hdecode
  cases effect h with
  | undecodable hdec => exact absurd (hdec.symm.trans hdecode) (by intro hc; cases hc)
  | restored hdec _ _ =>
      obtain rfl := Except.ok.inj (hdec.symm.trans hdecode)
      exact ⟨_, rfl, rfl, rfl⟩

end Process

/-! ## The fleet -/

section

variable {ι : Type} {B : Build ι} {ρ : Type}

/-- The hosts that a fleet can have, each with what its TPM has been told since power-on.
Every host starts without a TPM and uses the crate as it likes; what it restores has been
saved on a host of the fleet, whose serializer brings the platform state back. -/
inductive Fleet [DecidableEq ι] (codec : Codec) : Host B ρ → List ℕ → Prop
  | started (lib : TpmLibrary B ρ) (library : LibraryState B ρ) :
      Fleet codec { lib := lib, process := .start library } []
  | used {host : Host B ρ} {times : List ℕ} {op : Process.Op B ρ} {w' : Process B ρ}
      (h : Fleet codec host times) (hop : ∀ state, op ≠ .restoreState state)
      (hstep : host.process.step host.lib codec op = some w') :
      Fleet codec { host with process := w' } (timeline times (host.process.timeEvents op))
  | migrated {source destination : Host B ρ} {times others : List ℕ} {p : PlatformImpl}
      {blob : List UInt8} {w' : Process B ρ} (hsource : Fleet codec source times)
      (hdestination : Fleet codec destination others) (hp : source.process.platform = some p)
      (hcodec : codec.RoundTrips p.state)
      (hsave : source.process.saveState source.lib codec = some blob)
      (hrestore : destination.process.step destination.lib codec (.restoreState blob) = some w') :
      Fleet codec { destination with process := w' } times

/-- Every host keeps the time of its TPM. -/
theorem Fleet.timeKept [DecidableEq ι] {codec : Codec} {host : Host B ρ} {times : List ℕ}
    (h : Fleet codec host times) : host.process.TimeKept times := by
  induction h with
  | started lib library => exact ⟨List.Pairwise.nil, Process.holds_none _ rfl⟩
  | used _ hop hstep ih => exact Process.timeKept_step ih hop hstep
  | migrated _ _ hp hcodec hsave hrestore ihsource _ =>
      -- the clock of the source arrives, and with it what it has told
      obtain ⟨p', hp', hclock, -⟩ := Process.clock_restored hp hcodec hsave hrestore
      refine Process.timeKept_of_some hp' ?_
      rw [hclock]
      exact ihsource.holds _ hp

/-- **Time does not run backwards.**  Along the life of a TPM, from power-on over any number
of hosts with unrelated timers, resets of other hosts, saves and restores, the answers of
`_plat__TimerRead` never decrease; the clock is past all of them, and its rate is within the
limits. -/
theorem Fleet.time_monotone [DecidableEq ι] (codec : Codec) (host : Host B ρ) (times : List ℕ)
    (h : Fleet codec host times) :
    times.Pairwise (· ≤ ·) ∧ ∀ p, host.process.platform = some p →
      (∀ value ∈ times, value ≤ p.state.clock.tpmTime) ∧ p.state.clock.RateInLimits := by
  obtain ⟨hsorted, hholds⟩ := h.timeKept
  refine ⟨hsorted, fun p hp => ?_⟩
  have hkeeps := hholds p hp
  exact ⟨hkeeps.sound.returned_le, hkeeps.sound.rate⟩

/-- A command in which the library reads the timer. -/
theorem Fleet.read [DecidableEq ι] {codec : Codec} {host : Host B ρ} {times : List ℕ}
    (h : Fleet codec host times) (hhandles : host.process.handles ≠ 0) {p : PlatformImpl}
    (hp : host.process.platform = some p) {now value : ℕ} {clock : ClockState}
    (hread : p.state.clock.timerRead now = some (value, clock)) :
    ∃ w', Fleet codec { host with process := w' } (times ++ [value]) := by
  let run : LibraryRun B ρ :=
    { callbacks := [.timerRead now], memory := host.process.library, ret := 0 }
  have hcall : Callback.step p (.timerRead now) =
      some { p with state := { p.state with clock := clock } } := Callback.step_timerRead hread
  have hstep : host.process.step host.lib codec (.executeCommand run.command) =
      some { host.process with
        platform := some { p with state := { p.state with clock := clock } } } := by
    rw [Process.step_command hhandles, Process.runLibrary, hp, Option.bind_some, runFrom_cons,
      hcall]
    rfl
  have htold : host.process.timeEvents (.executeCommand run.command) = [.answered value] := by
    rw [Process.timeEvents, hp]
    show emitted Callback.step Callback.timeEvents p [.timerRead now] = _
    rw [emitted_cons hcall, Callback.timeEvents, hread]
    rfl
  have hused := Fleet.used h (by intro _ hc; cases hc) hstep
  rw [htold] at hused
  exact ⟨_, hused⟩

end

namespace Process

/-- Such a command, of any number of reads, of the miniature library. -/
def readingRun (readings : List ℕ) : LibraryRun miniBuild Unit where
  callbacks := readings.map .timerRead
  memory := miniMemory
  ret := 0

/-- The clock after reads at 1000 and 5000 milliseconds. -/
def toldClock : ClockState :=
  { ClockState.new with
    lastSystemTime := 5000, lastReportedTime := 4000, lastRealTime := 4000, tpmTime := 4000 }

/-- The platform with this clock. -/
def toldPlatform : PlatformImpl where
  callbacks := { commits := [] }
  state := { coldPlatformState with clock := toldClock }

/-- A host on which the timer has been read. -/
def toldHost : Host miniBuild Unit where
  lib := miniLibrary
  process := { coldProcess with platform := some toldPlatform }

/-- A host of the fleet after a cold start. -/
theorem fleet_cold (codec : Codec) (lib : TpmLibrary miniBuild Unit) :
    Fleet codec { lib := lib, process := coldProcess } [] := by
  have hstep : step lib codec (start miniMemory)
      (.initializePlatform { commits := [] } .coldInit coldProcess.silent coldProcess.silent) =
        some coldProcess := rfl
  exact .used (.started lib miniMemory) (by intro _ hc; cases hc) hstep

/-- The first host has told 0 and 4000. -/
theorem fleet_told (codec : Codec) : Fleet codec toldHost [0, 4000] := by
  have hstep : step miniLibrary codec coldProcess
      (.executeCommand (readingRun [1000, 5000]).command) =
      some toldHost.process := rfl
  have htold : timeline []
      (coldProcess.timeEvents (.executeCommand (readingRun [1000, 5000]).command)) =
        [0, 4000] := rfl
  exact htold ▸ .used (fleet_cold codec miniLibrary) (by intro _ hc; cases hc) hstep

end Process

/-- The TPM goes to another host, whose timer shows less: it is told 4000 again. -/
theorem Fleet.time_monotone_moved :
    ∃ host : Host miniBuild Unit,
      Fleet (Process.imageCodec Process.toldPlatform.state) host [0, 4000, 4000] ∧
      ∀ p, host.process.platform = some p → 4000 ≤ p.state.clock.tpmTime := by
  have hcodec : (Process.imageCodec Process.toldPlatform.state).RoundTrips
      Process.toldPlatform.state := fun image => ⟨image, rfl, rfl⟩
  let next : Host miniBuild Unit := { lib := Process.movedLibrary, process := Process.coldProcess }
  have hexport : Process.toldHost.lib.ExportKeepsAttributes := fun _ _ => rfl
  have himport : next.lib.ImportIsSilent := fun _ _ _ => rfl
  have hundoes : Process.toldHost.lib.ImportUndoesExport miniCryptoState next.lib :=
    fun _ _ _ _ _ => rfl
  obtain ⟨blob, process, hsave, hrestore, -⟩ := exists_hop (by decide) hcodec hexport himport
    hundoes ⟨_, rfl, rfl⟩ ⟨_, rfl⟩
  have hstep : next.process.step next.lib (Process.imageCodec Process.toldPlatform.state)
      (.restoreState blob) = some process := congrArg (Option.map Prod.snd) hrestore
  have hmoved := Fleet.migrated (Process.fleet_told _) (Process.fleet_cold _ Process.movedLibrary)
    rfl hcodec hsave hstep
  obtain ⟨p, hp, hclock, hhandles⟩ := Process.clock_restored rfl hcodec hsave hstep
  have hread : p.state.clock.timerRead 100 =
      some (4000, { Process.toldClock with lastSystemTime := 100 }) := by
    rw [hclock]
    show Process.toldClock.timerRead 100 = _
    decide
  have hlive : process.handles ≠ 0 := by
    rw [hhandles]
    exact Nat.one_ne_zero
  obtain ⟨w', hfleet⟩ := hmoved.read hlive hp hread
  refine ⟨_, hfleet, fun q hq => ?_⟩
  obtain ⟨-, hpast⟩ := Fleet.time_monotone _ _ _ hfleet
  exact (hpast q hq).1 4000 (List.mem_cons_of_mem _ List.mem_cons_self)

end TpmPlatform
