/-
# What the library asks the platform about
(`plat/api/{cancel,locality,power_plat,clock}.rs`, `plat/mod.rs`)

The host talks to the TPM library through five small values: the cancel flag, the
locality, and the three flags that a power-on raises.  The library asks for each of
them with a callback; `_plat__WasPowerLost`, `_plat__TimerWasReset` and
`_plat__TimerWasStopped` lower the flag they report.

`queries_answer_last_written` : in every run, each of these callbacks answers what was
last written, whatever else has been called in between; `report_once` : a flag is
reported once for each time it was raised.
-/
import TpmPlatform.Cell
import TpmPlatform.PlatformSteps

namespace TpmPlatform

open Runs

/-! ## The five values -/

/-- A value that the library asks the platform for. -/
inductive PlatformCell
  | cancelFlag
  | locality
  | powerLost
  | timerReset
  | timerStopped
  deriving DecidableEq

namespace PlatformCell

/-- The value, as the callback that asks for it reports it. -/
def get (s : PlatformState) : PlatformCell → ℤ
  | .cancelFlag => if s.cancel.flag then 1 else 0
  | .locality => s.locality.locality.toNat
  | .powerLost => if s.powerPlat.powerLost then 1 else 0
  | .timerReset => if s.clock.timerReset then 1 else 0
  | .timerStopped => if s.clock.timerStopped then 1 else 0

/-- Whether the callback that asks for the value lowers it. -/
def isTaken : PlatformCell → Bool
  | .cancelFlag => false
  | .locality => false
  | .powerLost => true
  | .timerReset => true
  | .timerStopped => true

/-- The event of an answer. -/
def answered (cell : PlatformCell) (answer : ℤ) : Cell.Event ℤ :=
  if cell.isTaken then .took answer else .read answer

/-- What a power-on writes, if it writes the value. -/
def atPowerOn : PlatformCell → Option ℤ
  | .cancelFlag => none
  | .locality => none
  | .powerLost => some 1
  | .timerReset => some 1
  | .timerStopped => some 1

/-- What an accepted `initialize` writes: a new platform is powered on. -/
def atInitialize (cell : PlatformCell) : ℤ := cell.atPowerOn.getD 0

end PlatformCell

/-- The value that a callback asks for. -/
def Callback.asks : Callback → Option PlatformCell
  | .isCanceled => some .cancelFlag
  | .localityGet => some .locality
  | .wasPowerLost => some .powerLost
  | .timerWasReset => some .timerReset
  | .timerWasStopped => some .timerStopped
  | _ => none

/-- What a callback means for a value: the answer that it gives to the library. -/
def Callback.cellEvents (cell : PlatformCell) (p : PlatformImpl) (c : Callback) :
    List (Cell.Event ℤ) :=
  if c.asks = some cell then
    match c.call p with
    | none => []
    | some (reply, _) => [cell.answered reply.value]
  else []

/-! ## One callback -/

/-- A callback that asks for a value answers it, and lowers it if it is one to take. -/
theorem Callback.answer_eq {p : PlatformImpl} {c : Callback} {cell : PlatformCell}
    (hasks : c.asks = some cell) :
    ∃ reply p', c.call p = some (reply, p') ∧ reply.value = cell.get p.state ∧
      cell.get p'.state = if cell.isTaken then 0 else cell.get p.state := by
  cases c with
  | isCanceled =>
      obtain rfl := Option.some.inj hasks
      exact ⟨_, _, rfl, rfl, rfl⟩
  | localityGet =>
      obtain rfl := Option.some.inj hasks
      exact ⟨_, _, rfl, rfl, rfl⟩
  | wasPowerLost =>
      obtain rfl := Option.some.inj hasks
      exact ⟨_, _, rfl, rfl, rfl⟩
  | timerWasReset =>
      obtain rfl := Option.some.inj hasks
      exact ⟨_, _, rfl, rfl, rfl⟩
  | timerWasStopped =>
      obtain rfl := Option.some.inj hasks
      exact ⟨_, _, rfl, rfl, rfl⟩
  | _ => cases hasks

/-- Reading the timer leaves the two flags of the clock as they are. -/
theorem ClockState.flags_timerRead {c c' : ClockState} {now value : ℕ}
    (h : c.timerRead now = some (value, c')) :
    c'.timerReset = c.timerReset ∧ c'.timerStopped = c.timerStopped := by
  rw [timerRead, Option.bind_eq_some_iff] at h
  obtain ⟨c₁, hreport, hcredit⟩ := h
  have hc₁ : c₁.timerReset = c.timerReset ∧ c₁.timerStopped = c.timerStopped := by
    unfold reportTime at hreport
    rw [Option.map_eq_some_iff] at hreport
    obtain ⟨sum, -, rfl⟩ := hreport
    dsimp only
    constructor <;> split <;> split <;> rfl
  have hc' : c'.timerReset = c₁.timerReset ∧ c'.timerStopped = c₁.timerStopped := by
    unfold creditTime at hcredit
    split at hcredit
    · obtain ⟨v, -, hv⟩ := Option.bind_eq_some_iff.mp hcredit
      obtain ⟨-, rfl⟩ := Prod.mk.inj (Option.some.inj hv)
      exact ⟨rfl, rfl⟩
    · simp only [Option.bind_eq_bind, Option.bind_eq_some_iff, Option.pure_def,
        Option.some.injEq, Prod.mk.injEq] at hcredit
      obtain ⟨-, -, -, -, -, -, -, -, -, -, -, -, -, rfl⟩ := hcredit
      exact ⟨rfl, rfl⟩
  exact ⟨hc'.1.trans hc₁.1, hc'.2.trans hc₁.2⟩

/-- So does adjusting its rate. -/
theorem ClockState.flags_clockRateAdjust {c c' : ClockState} {adjustment : ℤ}
    (h : c.clockRateAdjust adjustment = some c') :
    c'.timerReset = c.timerReset ∧ c'.timerStopped = c.timerStopped := by
  unfold clockRateAdjust at h
  rw [Option.map_eq_some_iff] at h
  obtain ⟨rate, -, rfl⟩ := h
  exact ⟨rfl, rfl⟩

/-- Only `_plat__WasPowerLost` changes the power flag. -/
theorem Callback.powerPlat_eq {p p' : PlatformImpl} {c : Callback}
    (hasks : c.asks ≠ some .powerLost) (h : c.step p = some p') :
    p'.state.powerPlat = p.state.powerPlat := by
  rw [Callback.step, Option.map_eq_some_iff] at h
  obtain ⟨r, hcall, rfl⟩ := h
  cases c with
  | wasPowerLost => exact absurd rfl hasks
  | nvNullBuffer callback => cases hcall
  | timerRead now =>
      obtain ⟨_, -, rfl⟩ := Option.map_eq_some_iff.mp hcall
      rfl
  | clockRateAdjust adjustment =>
      obtain ⟨_, -, rfl⟩ := Option.map_eq_some_iff.mp hcall
      rfl
  | getEntropy buf random =>
      obtain ⟨entropy, hentropy⟩ := platGetEntropy_effect hcall
      rw [hentropy]
  | nvCommit verdict =>
      rw [← Option.some.inj hcall, platNvCommit_effect]
      rfl
  | nvMemoryRead startOffset data =>
      rw [← Option.some.inj hcall, PlatformImpl.platNvMemoryRead]
      split <;> rfl
  | nvGetChangedStatus startOffset data =>
      rw [← Option.some.inj hcall, PlatformImpl.platNvGetChangedStatus]
      split <;> rfl
  | nvMemoryWrite startOffset data =>
      rw [← Option.some.inj hcall, PlatformImpl.platNvMemoryWrite, PlatformImpl.nvReply_snd]
      rfl
  | nvMemoryClear start size =>
      rw [← Option.some.inj hcall, PlatformImpl.platNvMemoryClear, PlatformImpl.nvReply_snd]
      rfl
  | nvMemoryMove sourceOffset destOffset size =>
      rw [← Option.some.inj hcall, PlatformImpl.platNvMemoryMove, PlatformImpl.nvReply_snd]
      rfl
  | _ =>
      rw [← Option.some.inj hcall]
      rfl

/-- The flags of the clock change only when they are asked for. -/
theorem Callback.clock_flags_eq {p p' : PlatformImpl} {c : Callback} (h : c.step p = some p') :
    (c.asks ≠ some .timerReset → p'.state.clock.timerReset = p.state.clock.timerReset) ∧
      (c.asks ≠ some .timerStopped → p'.state.clock.timerStopped = p.state.clock.timerStopped) := by
  have hclock := (Callback.effect h).clock_step
  cases c with
  | timerRead now =>
      obtain ⟨value, hread⟩ := hclock
      obtain ⟨hreset, hstopped⟩ := ClockState.flags_timerRead hread
      exact ⟨fun _ => hreset, fun _ => hstopped⟩
  | clockRateAdjust adjustment =>
      obtain ⟨hreset, hstopped⟩ := ClockState.flags_clockRateAdjust hclock
      exact ⟨fun _ => hreset, fun _ => hstopped⟩
  | timerWasReset =>
      obtain hclock : p'.state.clock = p.state.clock.timerWasReset.2 := hclock
      rw [hclock]
      exact ⟨fun hne => absurd rfl hne, fun _ => rfl⟩
  | timerWasStopped =>
      obtain hclock : p'.state.clock = p.state.clock.timerWasStopped.2 := hclock
      rw [hclock]
      exact ⟨fun _ => rfl, fun hne => absurd rfl hne⟩
  | _ =>
      obtain hclock : p'.state.clock = p.state.clock := hclock
      rw [hclock]
      exact ⟨fun _ => rfl, fun _ => rfl⟩

/-- A callback that does not ask for a value leaves it as it is. -/
theorem Callback.get_eq {p p' : PlatformImpl} {c : Callback} {cell : PlatformCell}
    (hasks : c.asks ≠ some cell) (h : c.step p = some p') :
    cell.get p'.state = cell.get p.state := by
  cases cell with
  | cancelFlag => rw [PlatformCell.get, (Callback.effect h).cancel_eq, PlatformCell.get]
  | locality => rw [PlatformCell.get, (Callback.effect h).locality_eq, PlatformCell.get]
  | powerLost => rw [PlatformCell.get, Callback.powerPlat_eq hasks h, PlatformCell.get]
  | timerReset =>
      rw [PlatformCell.get, (Callback.clock_flags_eq h).1 hasks, PlatformCell.get]
  | timerStopped =>
      rw [PlatformCell.get, (Callback.clock_flags_eq h).2 hasks, PlatformCell.get]

/-- The answers so far are right, and the cell holds the value that the state has. -/
structure CellKept (cell : PlatformCell) (p : PlatformImpl) (events : List (Cell.Event ℤ)) :
    Prop where
  coherent : Cell.Coherent 0 events
  holds : Cell.Holds 0 events (cell.get p.state)

/-- Writing the value of the new state keeps it. -/
theorem cellKept_wrote {cell : PlatformCell} {p : PlatformImpl} {events : List (Cell.Event ℤ)}
    (h : Cell.Coherent 0 events) {value : ℤ} (hvalue : cell.get p.state = value) :
    CellKept cell p (events ++ [.wrote value]) := by
  obtain rfl := hvalue
  exact ⟨h.wrote _, Cell.holds_wrote _ events⟩

/-- **One callback.** -/
theorem cellKept_callback {cell : PlatformCell} {p p' : PlatformImpl} {c : Callback}
    {events : List (Cell.Event ℤ)} (h : CellKept cell p events) (hstep : c.step p = some p') :
    CellKept cell p' (events ++ c.cellEvents cell p) := by
  by_cases hasks : c.asks = some cell
  · obtain ⟨reply, p₁, hcall, hvalue, hafter⟩ := Callback.answer_eq (p := p) hasks
    obtain rfl : p₁ = p' := by
      rw [Callback.step, hcall] at hstep
      exact Option.some.inj hstep
    rw [Callback.cellEvents, if_pos hasks, hcall]
    dsimp only
    rw [hvalue, PlatformCell.answered]
    cases htaken : cell.isTaken with
    | true =>
        rw [htaken, if_pos rfl] at hafter
        rw [if_pos rfl]
        refine ⟨h.coherent.took h.holds, ?_⟩
        rw [hafter]
        exact Cell.holds_took _ events
    | false =>
        rw [htaken, if_neg Bool.false_ne_true] at hafter
        rw [if_neg Bool.false_ne_true]
        refine ⟨h.coherent.read h.holds, ?_⟩
        rw [hafter]
        exact h.holds.read _
  · rw [Callback.cellEvents, if_neg hasks, List.append_nil]
    exact ⟨h.coherent, (Callback.get_eq hasks hstep) ▸ h.holds⟩

/-- A callback that panics answers nothing. -/
theorem coherent_callback {cell : PlatformCell} {p : PlatformImpl} {c : Callback}
    {events : List (Cell.Event ℤ)} (h : CellKept cell p events) :
    Cell.Coherent 0 (events ++ c.cellEvents cell p) := by
  cases hstep : c.step p with
  | some p' => exact (cellKept_callback h hstep).coherent
  | none =>
      rw [Callback.step, Option.map_eq_none_iff] at hstep
      rw [Callback.cellEvents, hstep]
      dsimp only
      rw [ite_self, List.append_nil]
      exact h.coherent

/-- A call into the library that returns. -/
theorem cellKept_callbacks {cell : PlatformCell} {p p' : PlatformImpl} {cs : List Callback}
    {events : List (Cell.Event ℤ)} (h : CellKept cell p events)
    (hrun : runFrom Callback.step p cs = some p') :
    CellKept cell p' (events ++ emitted Callback.step (Callback.cellEvents cell) p cs) :=
  emitted_of_step (fun _ _ _ _ hp hstep => cellKept_callback hp hstep) h hrun

/-- A call into the library that may end in a panic. -/
theorem coherent_callbacks {cell : PlatformCell} {p : PlatformImpl} (cs : List Callback)
    {events : List (Cell.Event ℤ)} (h : CellKept cell p events) :
    Cell.Coherent 0 (events ++ emitted Callback.step (Callback.cellEvents cell) p cs) :=
  emitted_good (fun _ _ _ _ hp hstep => cellKept_callback hp hstep)
    (fun _ _ _ hp => coherent_callback hp) h h.coherent cs

/-! ## Runs -/

/-- What a power cycle means for a value. -/
def PlatformCell.powerOnEvents (cell : PlatformCell) : List (Cell.Event ℤ) :=
  cell.atPowerOn.toList.map .wrote

/-- An accepted `initialize` writes the value. -/
theorem cellKept_powerUp (cell : PlatformCell) (callbacks : HostCallbacks) (initKind : InitKind)
    {events : List (Cell.Event ℤ)} (h : Cell.Coherent 0 events) :
    CellKept cell (.powerUp callbacks initKind) (events ++ [.wrote cell.atInitialize]) := by
  refine cellKept_wrote h ?_
  cases cell <;> rfl

/-- A power cycle raises the three flags and leaves cancel flag and locality alone. -/
theorem cellKept_poweredAgain {cell : PlatformCell} {p : PlatformImpl}
    {events : List (Cell.Event ℤ)} (h : CellKept cell p events) (region : List UInt8) :
    CellKept cell (p.poweredAgain region) (events ++ cell.powerOnEvents) := by
  cases cell with
  | cancelFlag =>
      rw [show PlatformCell.cancelFlag.powerOnEvents = [] from rfl, List.append_nil]
      exact ⟨h.coherent, h.holds⟩
  | locality =>
      rw [show PlatformCell.locality.powerOnEvents = [] from rfl, List.append_nil]
      exact ⟨h.coherent, h.holds⟩
  | powerLost => exact cellKept_wrote h.coherent rfl
  | timerReset => exact cellKept_wrote h.coherent rfl
  | timerStopped => exact cellKept_wrote h.coherent rfl

namespace Process

variable {ι : Type} {B : Build ι} {ρ : Type}

/-- What a use of the crate means for a value: what it writes, and the answers that the
library gets. -/
def cellEvents (codec : Codec) (cell : PlatformCell) (w : Process B ρ) :
    Op B ρ → List (Cell.Event ℤ)
  | .initializePlatform callbacks initKind manufacture tpmInit =>
    if w.platform.isNone ∧ initKind.Valid then
      .wrote cell.atInitialize ::
        emitted Callback.step (Callback.cellEvents cell) (.powerUp callbacks initKind)
          (initializeCallbacks initKind manufacture tpmInit)
    else []
  | .reset withNewNvmemBlob tpmInit =>
    match w.platform with
    | none => []
    | some p =>
      if ∀ blob ∈ withNewNvmemBlob, blob.length = nvMemorySize then
        cell.powerOnEvents ++ emitted Callback.step (Callback.cellEvents cell)
          (p.poweredAgain (p.resetRegion withNewNvmemBlob)) tpmInit.callbacks
      else []
  | .executeCommand run =>
    match w.platform with
    | none => []
    | some p => emitted Callback.step (Callback.cellEvents cell) p run.callbacks
  | .restoreState state =>
    match codec.fromBytes state with
    | .error _ => []
    | .ok st => [.wrote (cell.get st.platformState)]
  | .drop => []
  | .saveState => []
  | .setCancelFlag enabled =>
    if cell = .cancelFlag then [.wrote (if enabled then 1 else 0)] else []
  | .setLocality locality =>
    if cell = .locality then [.wrote locality.toU8.toNat] else []

/-- After a use of the crate, the history so far is right, and a platform in the global
has the value that the history says. -/
def CellsKept (cell : PlatformCell) (w : Process B ρ) (events : List (Cell.Event ℤ)) : Prop :=
  Cell.Coherent 0 events ∧ w.Holds fun p => CellKept cell p events

/-- With a platform in the global, one statement says it all. -/
theorem cellsKept_of_some {cell : PlatformCell} {w : Process B ρ} {p : PlatformImpl}
    {events : List (Cell.Event ℤ)} (hp : w.platform = some p) (h : CellKept cell p events) :
    w.CellsKept cell events :=
  ⟨h.coherent, (holds_some hp).mpr h⟩

/-- **Step.**  Every use of the crate keeps the history right. -/
theorem cellsKept_step [DecidableEq ι] {lib : TpmLibrary B ρ} {codec : Codec}
    {cell : PlatformCell} {w w' : Process B ρ} {op : Op B ρ} {events : List (Cell.Event ℤ)}
    (hw : w.CellsKept cell events) (h : w.step lib codec op = some w') :
    w'.CellsKept cell (events ++ w.cellEvents codec cell op) := by
  cases effect h with
  | @started callbacks initKind _ _ _ _ hnone hvalid hrun hp =>
      rw [cellEvents, if_pos ⟨Option.isNone_iff_eq_none.mpr hnone, hvalid⟩, List.append_cons]
      exact cellsKept_of_some hp
        (cellKept_callbacks (cellKept_powerUp cell callbacks initKind hw.1) hrun)
  | refused hrefused =>
      rw [cellEvents, if_neg fun hc => hrefused (Option.isNone_iff_eq_none.mp hc.1) hc.2,
        List.append_nil]
      exact hw
  | dropped =>
      rw [cellEvents, List.append_nil]
      exact ⟨hw.1, holds_none _ rfl⟩
  | @poweredAgain withNewNvmemBlob _ p _ _ hp hlen hrun hp' _ =>
      rw [cellEvents, hp]
      dsimp only
      rw [if_pos fun blob hblob => hlen blob (Option.mem_def.mp hblob), ← List.append_assoc]
      exact cellsKept_of_some hp'
        (cellKept_callbacks (cellKept_poweredAgain (hw.2 p hp) _) hrun)
  | @poweredOff blob _ p hp hlen =>
      rw [cellEvents, hp]
      dsimp only
      rw [if_neg fun hc => hlen (hc blob rfl), List.append_nil]
      -- powering off touches the NV region only
      exact cellsKept_of_some rfl ⟨hw.1, (hw.2 p hp).holds⟩
  | unsent _ hcall =>
      rw [cellEvents, CommandRun.callbacks_of_none hcall]
      cases w.platform <;> exact (List.append_nil events).symm ▸ hw
  | executed _ _ hp hrun =>
      rw [cellEvents, hp]
      exact cellsKept_of_some rfl (cellKept_callbacks (hw.2 _ hp) hrun)
  | saved =>
      rw [cellEvents, List.append_nil]
      exact hw
  | undecodable hdec =>
      rw [cellEvents, hdec, List.append_nil]
      exact hw
  | restored hdec _ _ =>
      rw [cellEvents, hdec]
      refine cellsKept_of_some rfl (cellKept_wrote hw.1 ?_)
      cases cell <;> rfl
  | @cancelSet enabled p hp =>
      rw [cellEvents]
      by_cases hcell : cell = .cancelFlag
      · rw [if_pos hcell]
        exact cellsKept_of_some rfl (cellKept_wrote hw.1 (by rw [hcell]; rfl))
      · rw [if_neg hcell, List.append_nil]
        refine cellsKept_of_some rfl ⟨hw.1, ?_⟩
        rw [show cell.get (p.withCancel enabled).state = cell.get p.state by
          cases cell <;> first | rfl | exact absurd rfl hcell]
        exact (hw.2 p hp).holds
  | @localitySet locality p hp =>
      rw [cellEvents]
      by_cases hcell : cell = .locality
      · rw [if_pos hcell]
        exact cellsKept_of_some rfl (cellKept_wrote hw.1 (by rw [hcell]; rfl))
      · rw [if_neg hcell, List.append_nil]
        refine cellsKept_of_some rfl ⟨hw.1, ?_⟩
        rw [show cell.get (p.localitySet locality).state = cell.get p.state by
          cases cell <;> first | rfl | exact absurd rfl hcell]
        exact (hw.2 p hp).holds

/-- A use of the crate that panics has answered rightly until then. -/
theorem coherent_cellEvents (codec : Codec) {cell : PlatformCell} {w : Process B ρ}
    (op : Op B ρ) {events : List (Cell.Event ℤ)} (hw : w.CellsKept cell events) :
    Cell.Coherent 0 (events ++ w.cellEvents codec cell op) := by
  cases op with
  | initializePlatform callbacks initKind manufacture tpmInit =>
      rw [cellEvents]
      split
      · rw [List.append_cons]
        exact coherent_callbacks _ (cellKept_powerUp cell callbacks initKind hw.1)
      · rw [List.append_nil]
        exact hw.1
  | reset withNewNvmemBlob tpmInit =>
      rw [cellEvents]
      cases hp : w.platform with
      | none =>
          rw [List.append_nil]
          exact hw.1
      | some p =>
          dsimp only
          split
          · rw [← List.append_assoc]
            exact coherent_callbacks _ (cellKept_poweredAgain (hw.2 p hp) _)
          · rw [List.append_nil]
            exact hw.1
  | executeCommand run =>
      rw [cellEvents]
      cases hp : w.platform with
      | none =>
          rw [List.append_nil]
          exact hw.1
      | some p => exact coherent_callbacks _ (hw.2 p hp)
  | restoreState state =>
      rw [cellEvents]
      cases codec.fromBytes state with
      | error e =>
          rw [List.append_nil]
          exact hw.1
      | ok st => exact hw.1.wrote _
  | setCancelFlag enabled =>
      rw [cellEvents]
      split
      · exact hw.1.wrote _
      · rw [List.append_nil]
        exact hw.1
  | setLocality locality =>
      rw [cellEvents]
      split
      · exact hw.1.wrote _
      · rw [List.append_nil]
        exact hw.1
  | _ =>
      rw [cellEvents, List.append_nil]
      exact hw.1

/-- The history of a value in any run, which may end in a panic. -/
theorem coherent_run [DecidableEq ι] (lib : TpmLibrary B ρ) (codec : Codec)
    (library : LibraryState B ρ) (cell : PlatformCell) (ops : List (Op B ρ)) :
    Cell.Coherent 0 (emitted (step lib codec) (cellEvents codec cell) (start library) ops) := by
  have h : Cell.Coherent 0
      ([] ++ emitted (step lib codec) (cellEvents codec cell) (start library) ops) :=
    emitted_good (R := fun w events => w.CellsKept cell events)
      (fun _ _ _ _ hw hstep => cellsKept_step hw hstep)
      (fun _ op _ hw => coherent_cellEvents codec op hw)
      ⟨Cell.coherent_nil, holds_none _ rfl⟩ Cell.coherent_nil ops
  rw [List.nil_append] at h
  exact h

/-- **Each query answers what was last written.**  In every run of the crate, whatever the
library calls and whether or not the run ends in a panic: every answer that the library
gets about the cancel flag, the locality or one of the three power-on flags is the value
last written by `initialize`, a successful `reset`, `set_cancel_flag`, `set_locality` or a
restore, or 0 where a flag has been reported since. -/
theorem queries_answer_last_written [DecidableEq ι] (lib : TpmLibrary B ρ) (codec : Codec)
    (library : LibraryState B ρ) (cell : PlatformCell) (ops : List (Op B ρ))
    (pre suf : List (Cell.Event ℤ)) (answer : ℤ)
    (h : emitted (step lib codec) (cellEvents codec cell) (start library) ops =
      pre ++ cell.answered answer :: suf) :
    Cell.Holds 0 pre answer := by
  refine coherent_run lib codec library cell ops pre _ suf answer h ?_
  rw [PlatformCell.answered]
  split <;> rfl

/-- `_TPM_Init` asks twice whether the power was lost. -/
def askingRun : LibraryRun miniBuild Unit where
  callbacks := [.wasPowerLost, .wasPowerLost]
  memory := miniMemory
  ret := 0

/-- The TPM is initialized and then reset. -/
def askingOps : List (Op miniBuild Unit) :=
  [.initializePlatform { commits := [] } .coldInit coldProcess.silent askingRun,
    .reset none askingRun]

/-- The second question after `initialize` is answered no. -/
theorem queries_answer_last_written_twice : Cell.Holds 0 [.wrote 1, .took 1] (0 : ℤ) :=
  queries_answer_last_written miniLibrary refusingCodec miniMemory .powerLost askingOps
    [.wrote 1, .took 1] [.wrote 1, .took 1, .took 0] 0 rfl

/-- **A flag is reported once.**  In every run, between two reports that the power was lost
there is a power-on, or a restore of a state whose flag is up; the same holds of the timer's
reset and of its stop. -/
theorem report_once [DecidableEq ι] (lib : TpmLibrary B ρ) (codec : Codec)
    (library : LibraryState B ρ) (cell : PlatformCell) (ops : List (Op B ρ))
    (pre mid suf : List (Cell.Event ℤ))
    (h : emitted (step lib codec) (cellEvents codec cell) (start library) ops =
      pre ++ .took 1 :: (mid ++ .took 1 :: suf)) :
    .wrote 1 ∈ mid := by
  have hcoherent := coherent_run lib codec library cell ops
  rw [h] at hcoherent
  exact Cell.wrote_between_takes hcoherent (by decide)

/-- The loss of power is reported again after the reset. -/
theorem report_once_reset : Cell.Event.wrote (1 : ℤ) ∈ [Cell.Event.took 0, .wrote 1] :=
  report_once miniLibrary refusingCodec miniMemory .powerLost askingOps [.wrote 1]
    [.took 0, .wrote 1] [.took 0] rfl

end Process

end TpmPlatform
