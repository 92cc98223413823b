/-
# Writes that are needed (`plat/api/nvmem.rs`)

The library asks `_plat__NvGetChangedStatus` whether a write would change anything before it
writes.  Clearing and moving a range are no more than writes either.

`guardedWrites_same` : every sequence of callbacks ends as the one in which clears and moves
are written out and every write waits for the changed status, and there no write is made
that is refused or changes nothing.
-/
import TpmPlatform.NvAccess

namespace TpmPlatform

open Bytes Runs

namespace PlatformImpl

/-! ## One write -/

/-- The changed status says whether a write would change the region: 0 and -1 if it would
not, because the bytes are there already or because it would be refused, and 1 if it would. -/
theorem changedStatus_spec (p : PlatformImpl) (startOffset : UInt32) (data : List UInt8) :
    (p.platNvGetChangedStatus startOffset data = (.int 1, p) ∧
        (p.platNvMemoryWrite startOffset data).2 ≠ p) ∨
      ∃ status, p.platNvGetChangedStatus startOffset data = (.int status, p) ∧ status ≠ 1 ∧
        (p.platNvMemoryWrite startOffset data).2 = p := by
  by_cases h : p.InRegion startOffset.toNat data.length
  · have hstatus := platNvGetChangedStatus_of_inRegion h
    rw [platNvMemoryRead_of_inRegion h] at hstatus
    dsimp only at hstatus
    have hwrite : (p.platNvMemoryWrite startOffset data).2 = p.withNvmem
        { p.state.nvmem with region := splice p.state.nvmem.region startOffset.toNat data } := by
      rw [platNvMemoryWrite, NvState.nvMemoryWrite_of_le h]
      rfl
    by_cases hsame : window p.state.nvmem.region startOffset.toNat data.length = data
    · right
      rw [if_pos hsame] at hstatus
      refine ⟨0, hstatus, by decide, ?_⟩
      have hsplice := splice_window h
      rw [hsame] at hsplice
      rw [hwrite, hsplice]
      rfl
    · left
      rw [if_neg hsame] at hstatus
      refine ⟨hstatus, fun hc => hsame ?_⟩
      -- an unchanged region would hold the bytes
      rw [hwrite] at hc
      have hregion : splice p.state.nvmem.region startOffset.toNat data = p.state.nvmem.region :=
        congrArg (fun q : PlatformImpl => q.state.nvmem.region) hc
      rw [← hregion]
      exact window_splice h
  · right
    exact ⟨-1, platNvGetChangedStatus_of_not_inRegion h, by decide,
      congrArg Prod.snd (platNvMemoryWrite_of_not_inRegion h)⟩

/-- A write that waits for the changed status. -/
def guardedWrite (p : PlatformImpl) (startOffset : UInt32) (data : List UInt8) :
    List Callback :=
  .nvGetChangedStatus startOffset data ::
    if (p.platNvGetChangedStatus startOffset data).1.value = 1 then
      [.nvMemoryWrite startOffset data]
    else []

end PlatformImpl

/-- What a callback is replaced by: clears and moves are written out, and every write waits
for the changed status. -/
def Callback.guardedWrites (p : PlatformImpl) : Callback → List Callback
  | .nvMemoryWrite startOffset data => p.guardedWrite startOffset data
  | .nvMemoryClear start size => p.guardedWrite start (List.replicate size.toNat 0)
  | .nvMemoryMove sourceOffset destOffset size =>
    let (reply, _) := p.platNvMemoryRead sourceOffset (List.replicate size.toNat 0)
    .nvMemoryRead sourceOffset (List.replicate size.toNat 0) ::
      if reply.value = 1 then p.guardedWrite destOffset reply.buffer else []
  | c => [c]

/-- A callback that is no clear and no move, and, if it is a write, one that changes the
region. -/
def Callback.Needed (p : PlatformImpl) : Callback → Prop
  | .nvMemoryWrite startOffset data => (p.platNvMemoryWrite startOffset data).2 ≠ p
  | .nvMemoryClear _ _ => False
  | .nvMemoryMove _ _ _ => False
  | _ => True

namespace PlatformImpl

/-- Asking for the changed status changes nothing. -/
theorem step_nvGetChangedStatus (p : PlatformImpl) (startOffset : UInt32) (data : List UInt8) :
    Callback.step p (.nvGetChangedStatus startOffset data) = some p := by
  rw [Callback.step, Callback.call]
  rcases p.changedStatus_spec startOffset data with ⟨hstatus, -⟩ | ⟨status, hstatus, -, -⟩
  · rw [hstatus]
    rfl
  · rw [hstatus]
    rfl

/-- The write is made, and changes the region, or it is left out and would change nothing. -/
theorem guardedWrite_cases (p : PlatformImpl) (startOffset : UInt32) (data : List UInt8) :
    (p.guardedWrite startOffset data =
        [.nvGetChangedStatus startOffset data, .nvMemoryWrite startOffset data] ∧
      (p.platNvMemoryWrite startOffset data).2 ≠ p) ∨
    p.guardedWrite startOffset data = [.nvGetChangedStatus startOffset data] ∧
      (p.platNvMemoryWrite startOffset data).2 = p := by
  rw [guardedWrite]
  rcases p.changedStatus_spec startOffset data with ⟨hstatus, hne⟩ | ⟨status, hstatus, hne, hsame⟩
  · left
    rw [hstatus]
    exact ⟨rfl, hne⟩
  · right
    rw [hstatus]
    exact ⟨congrArg (List.cons _) (if_neg hne), hsame⟩

/-- A guarded write does what the write does, and writes only what is needed. -/
theorem guardedWrite_spec (p : PlatformImpl) (startOffset : UInt32) (data : List UInt8) :
    runFrom Callback.step p (p.guardedWrite startOffset data) =
        some (p.platNvMemoryWrite startOffset data).2 ∧
      Guarded Callback.step Callback.Needed p (p.guardedWrite startOffset data) := by
  have hstatus := p.step_nvGetChangedStatus startOffset data
  rcases p.guardedWrite_cases startOffset data with ⟨hguarded, hne⟩ | ⟨hguarded, hsame⟩
  · rw [hguarded]
    constructor
    · rw [runFrom_cons, hstatus]
      rfl
    · intro p' hstep
      obtain rfl := Option.some.inj (hstatus.symm.trans hstep)
      exact ⟨trivial, fun _ _ => ⟨hne, trivial⟩⟩
  · rw [hguarded]
    constructor
    · rw [runFrom_cons, hstatus, hsame]
      rfl
    · exact fun _ _ => ⟨trivial, trivial⟩

/-- Reading changes nothing. -/
theorem step_nvMemoryRead (p : PlatformImpl) (startOffset : UInt32) (data : List UInt8) :
    Callback.step p (.nvMemoryRead startOffset data) = some p := by
  rw [Callback.step, Callback.call]
  by_cases h : p.InRegion startOffset.toNat data.length
  · rw [platNvMemoryRead_of_inRegion h]
    rfl
  · rw [platNvMemoryRead_of_not_inRegion h]
    rfl

/-- A move, written out as a read and a guarded write of what was read. -/
theorem guardedMove_spec (p : PlatformImpl) (sourceOffset destOffset size : UInt32) :
    runFrom Callback.step p
        ((Callback.nvMemoryMove sourceOffset destOffset size).guardedWrites p) =
      some (p.platNvMemoryMove sourceOffset destOffset size).2 ∧
    Guarded Callback.step Callback.Needed p
      ((Callback.nvMemoryMove sourceOffset destOffset size).guardedWrites p) := by
  have hstep := p.step_nvMemoryRead sourceOffset (List.replicate size.toNat 0)
  have hsize : (List.replicate size.toNat (0 : UInt8)).length = size.toNat :=
    List.length_replicate
  rw [Callback.guardedWrites, runFrom_cons, hstep, Option.bind_some]
  by_cases hs : p.InRegion sourceOffset.toNat size.toNat
  · have hin : p.InRegion sourceOffset.toNat (List.replicate size.toNat (0 : UInt8)).length := by
      rwa [hsize]
    rw [platNvMemoryRead_of_inRegion hin, hsize]
    dsimp only
    rw [if_pos rfl]
    obtain ⟨hrun, hneeded⟩ := p.guardedWrite_spec destOffset
      (window p.state.nvmem.region sourceOffset.toNat size.toNat)
    constructor
    · rw [hrun]
      by_cases hd : p.InRegion destOffset.toNat size.toNat
      · rw [platNvMemoryMove_of_inRegion hs hd]
      · rw [platNvMemoryMove_of_not_inRegion fun hc => hd hc.2,
          platNvMemoryWrite_of_not_inRegion]
        rw [length_window hs]
        exact hd
    · intro p' hp'
      obtain rfl := Option.some.inj (hstep.symm.trans hp')
      exact ⟨trivial, hneeded⟩
  · have hout : ¬ p.InRegion sourceOffset.toNat (List.replicate size.toNat (0 : UInt8)).length := by
      rwa [hsize]
    rw [platNvMemoryRead_of_not_inRegion hout, platNvMemoryMove_of_not_inRegion fun hc => hs hc.1]
    dsimp only
    rw [if_neg (by decide)]
    exact ⟨rfl, fun _ _ => ⟨trivial, trivial⟩⟩

end PlatformImpl

/-! ## Runs -/

/-- The replacement does what the callback does, and writes only what is needed. -/
theorem Callback.guardedWrites_spec (p : PlatformImpl) (c : Callback) :
    runFrom Callback.step p (c.guardedWrites p) = c.step p ∧
      Guarded Callback.step Callback.Needed p (c.guardedWrites p) := by
  cases c with
  | nvMemoryWrite startOffset data => exact p.guardedWrite_spec startOffset data
  | nvMemoryClear start size =>
      obtain ⟨hrun, hneeded⟩ := p.guardedWrite_spec start (List.replicate size.toNat 0)
      refine ⟨?_, hneeded⟩
      rw [Callback.guardedWrites, hrun, ← p.platNvMemoryClear_eq]
      rfl
  | nvMemoryMove sourceOffset destOffset size =>
      exact p.guardedMove_spec sourceOffset destOffset size
  | _ => exact ⟨Option.bind_fun_some _, fun _ _ => ⟨trivial, trivial⟩⟩

/-- **Guarded writes do the same.**  Every sequence of callbacks on every platform ends, or
panics, as the one in which clears and moves are written out as writes and every write waits
for the changed status; the commits in between hand over the same regions.  And every write
that is still made changes the region, so that none is refused or superfluous. -/
theorem guardedWrites_same (p : PlatformImpl) (cs : List Callback) :
    let guarded := expanded Callback.step Callback.guardedWrites p cs
    runFrom Callback.step p guarded = runFrom Callback.step p cs ∧
      Guarded Callback.step Callback.Needed p guarded :=
  ⟨runFrom_expanded (fun p c => (c.guardedWrites_spec p).1) p cs,
    guarded_expanded (fun p c => (c.guardedWrites_spec p).1)
      (fun p c => (c.guardedWrites_spec p).2) p cs⟩

end TpmPlatform
