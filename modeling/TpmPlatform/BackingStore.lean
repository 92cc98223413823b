/-
# The NV region against the host's storage

`commit_nv_state` hands the region to the host, which can refuse it.  `reset(None)`
does not ask the host for what it has; it goes on with the region in memory.

`reset_none_reflects` : in every run, the region after `reset(None)` is the blob that
the host last received, with the changes made to the region since, so the shortcut
equals a reset from the stored blob exactly if these leave the blob as it is;
`reset_none_not_stored` : after a refused commit they need not.
-/
import TpmPlatform.Journal
import TpmPlatform.PowerCycle
import TpmPlatform.ResetErrors

namespace TpmPlatform

open Runs

/-! ## Changes of the region -/

/-- A change of the NV region that the host does not see. -/
inductive NvChange
  | write (startOffset : UInt32) (data : List UInt8)
  | clear (start size : UInt32)
  | move (sourceOffset destOffset size : UInt32)
  | zeroed
  | replaced (region : List UInt8)

/-- The region after a change. -/
def NvChange.apply (region : List UInt8) : NvChange → List UInt8
  | .write startOffset data => Bytes.splice region startOffset.toNat data
  | .clear start size =>
    Bytes.splice region start.toNat (List.replicate size.toNat 0)
  | .move sourceOffset destOffset size =>
    Bytes.splice region destOffset.toNat (Bytes.window region sourceOffset.toNat size.toNat)
  | .zeroed => List.replicate nvMemorySize 0
  | .replaced region => region

/-- What happens to the region and the host's copy of it. -/
abbrev NvEvent := Journal.Event (List UInt8) NvChange

/-- How a callback changes the region; a range that leaves the region is refused. -/
def Callback.nvChanges (p : PlatformImpl) : Callback → List NvChange
  | .nvEnable => if p.state.nvmem.isInit then [] else [.zeroed]
  | .nvMemoryWrite startOffset data =>
    if startOffset.toNat + data.length ≤ p.state.nvmem.region.length then
      [.write startOffset data]
    else []
  | .nvMemoryClear start size =>
    if start.toNat + size.toNat ≤ p.state.nvmem.region.length then [.clear start size]
    else []
  | .nvMemoryMove sourceOffset destOffset size =>
    if sourceOffset.toNat + size.toNat ≤ p.state.nvmem.region.length ∧
        destOffset.toNat + size.toNat ≤ p.state.nvmem.region.length then
      [.move sourceOffset destOffset size]
    else []
  | _ => []

/-- What a callback has handed to the host: the commits that stand behind the earlier ones in
the host's log. -/
def Callback.handedOver (p : PlatformImpl) (c : Callback) : List Commit :=
  match c.step p with
  | none => []
  | some p' => p'.callbacks.commits.drop p.callbacks.commits.length

/-- What the host has stored of it: the blobs that it accepted. -/
def Commit.storedEvents (commits : List Commit) : List NvEvent :=
  (commits.filter (·.accepted)).map fun commit => .stored commit.state

/-- What a callback means for the region and the host's copy of it. -/
def Callback.nvEvents (p : PlatformImpl) (c : Callback) : List NvEvent :=
  (c.nvChanges p).map .changed ++ Commit.storedEvents (c.handedOver p)

/-- What an accepted `initialize` means for the two: the persistent state is what the
host has, and the other kinds start from zeros. -/
def InitKind.nvEvent : InitKind → NvEvent
  | .coldInit => .changed .zeroed
  | .coldInitWithSize _ => .changed .zeroed
  | .coldInitWithPersistentState nvmemBlob => .stored nvmemBlob

/-- The region of the platform is what the host has, with the changes made since. -/
def ReflectsNv (p : PlatformImpl) (events : List NvEvent) : Prop :=
  Journal.Reflects NvChange.apply p.state.nvmem.region events

/-- A callback that returns hands over what the host's log gains. -/
theorem Callback.handedOver_eq {p p' : PlatformImpl} {c : Callback} {commits : List Commit}
    (hstep : c.step p = some p') (hcommits : c.commitsAfter p = p.callbacks.commits ++ commits) :
    c.handedOver p = commits := by
  rw [handedOver, hstep]
  dsimp only
  rw [(Callback.effect hstep).commits_eq, hcommits, List.drop_left]

/-- A callback that leaves the log alone stores nothing. -/
theorem Callback.nvEvents_of_silent {p p' : PlatformImpl} {c : Callback}
    (hstep : c.step p = some p') (hsilent : c.commitsAfter p = p.callbacks.commits) :
    c.nvEvents p = (c.nvChanges p).map .changed := by
  have hnone : c.handedOver p = [] := handedOver_eq hstep (by rw [hsilent, List.append_nil])
  rw [nvEvents, hnone]
  exact List.append_nil _

/-- A commit stores the region as the host was handed it, if the host accepts it. -/
theorem Callback.nvEvents_nvCommit (p : PlatformImpl) (verdict : Except String Unit) :
    (Callback.nvCommit verdict).nvEvents p =
      if verdict.isOk then [.stored p.state.nvmem.region] else [] := by
  have hlog : (Callback.nvCommit verdict).handedOver p =
      [{ state := p.state.nvmem.region, accepted := verdict.isOk }] := handedOver_eq rfl rfl
  rw [nvEvents, hlog]
  cases verdict with
  | ok _ => rfl
  | error _ => rfl

/-- A write, accepted or not. -/
theorem reflects_nvMemoryWrite {s : NvState} {events : List NvEvent}
    (h : Journal.Reflects NvChange.apply s.region events) (startOffset : ℕ) (data : List UInt8)
    (change : NvChange)
    (hchange : change.apply s.region = Bytes.splice s.region startOffset data) :
    Journal.Reflects NvChange.apply (s.nvMemoryWrite startOffset data).2.region
      (events ++ (if startOffset + data.length ≤ s.region.length then [change] else []).map
        .changed) := by
  by_cases hle : startOffset + data.length ≤ s.region.length
  · rw [if_pos hle, NvState.nvMemoryWrite_of_le hle, ← hchange]
    exact h.changed change
  · rw [if_neg hle, NvState.nvMemoryWrite_of_gt (by omega), List.map_nil, List.append_nil]
    exact h

/-- A move, accepted or not. -/
theorem reflects_nvMemoryMove {s : NvState} {events : List NvEvent}
    (h : Journal.Reflects NvChange.apply s.region events)
    (sourceOffset destOffset size : UInt32) :
    Journal.Reflects NvChange.apply
      (s.nvMemoryMove sourceOffset.toNat destOffset.toNat size.toNat).2.region
      (events ++ (if sourceOffset.toNat + size.toNat ≤ s.region.length ∧
            destOffset.toNat + size.toNat ≤ s.region.length then
          [NvChange.move sourceOffset destOffset size]
        else []).map .changed) := by
  by_cases hle : sourceOffset.toNat + size.toNat ≤ s.region.length ∧
      destOffset.toNat + size.toNat ≤ s.region.length
  · have hlen := Bytes.length_window hle.1
    rw [if_pos hle, NvState.nvMemoryMove_of_le hle.1 hle.2,
      NvState.nvMemoryWrite_of_le (by rw [hlen]; exact hle.2)]
    exact h.changed (.move sourceOffset destOffset size)
  · obtain ⟨e, he⟩ := NvState.nvMemoryMove_of_gt s sourceOffset.toNat destOffset.toNat size.toNat
      (by omega)
    rw [if_neg hle, he, List.map_nil, List.append_nil]
    exact h

/-- Enabling, which zero-fills a disabled region. -/
theorem reflects_nvEnable {s : NvState} {events : List NvEvent}
    (h : Journal.Reflects NvChange.apply s.region events) :
    Journal.Reflects NvChange.apply s.nvEnable.2.region
      (events ++ (if s.isInit then [] else [NvChange.zeroed]).map .changed) := by
  cases hinit : s.isInit with
  | true =>
      rw [NvState.nvEnable_of_isInit hinit, if_pos rfl, List.map_nil, List.append_nil]
      exact h
  | false =>
      rw [NvState.nvEnable_of_not_isInit hinit, if_neg Bool.false_ne_true]
      exact h.changed .zeroed

/-- **One callback.** -/
theorem reflectsNv_callback {p p' : PlatformImpl} {c : Callback} {events : List NvEvent}
    (h : ReflectsNv p events) (hstep : c.step p = some p') :
    ReflectsNv p' (events ++ c.nvEvents p) := by
  rw [ReflectsNv, (Callback.effect hstep).nvmem_eq]
  cases c with
  | nvEnable =>
      rw [Callback.nvEvents_of_silent hstep rfl]
      exact reflects_nvEnable h
  | nvMemoryWrite startOffset data =>
      rw [Callback.nvEvents_of_silent hstep rfl]
      exact reflects_nvMemoryWrite h startOffset.toNat data (.write startOffset data) rfl
  | nvMemoryClear start size =>
      rw [Callback.nvEvents_of_silent hstep rfl, Callback.nvmemAfter, Callback.nvChanges,
        NvState.nvMemoryClear_eq_nvMemoryWrite]
      have hwrite := reflects_nvMemoryWrite h start.toNat (List.replicate size.toNat 0)
        (.clear start size) rfl
      rw [List.length_replicate] at hwrite
      exact hwrite
  | nvMemoryMove sourceOffset destOffset size =>
      rw [Callback.nvEvents_of_silent hstep rfl]
      exact reflects_nvMemoryMove h sourceOffset destOffset size
  | nvCommit verdict =>
      show Journal.Reflects NvChange.apply p.state.nvmem.region _
      rw [Callback.nvEvents_nvCommit]
      cases hverdict : verdict.isOk with
      | true => exact Journal.reflects_stored _ events
      | false =>
          -- a refused commit leaves both sides as they are
          rw [if_neg Bool.false_ne_true, List.append_nil]
          exact h
  | _ =>
      rw [Callback.nvEvents_of_silent hstep rfl]
      show Journal.Reflects NvChange.apply p.state.nvmem.region (events ++ [])
      rw [List.append_nil]
      exact h

/-- A call into the library. -/
theorem reflectsNv_callbacks {p p' : PlatformImpl} {cs : List Callback} {events : List NvEvent}
    (h : ReflectsNv p events) (hrun : runFrom Callback.step p cs = some p') :
    ReflectsNv p' (events ++ emitted Callback.step Callback.nvEvents p cs) :=
  emitted_of_step (fun _ _ _ _ hp hstep => reflectsNv_callback hp hstep) h hrun

/-- A valid `initialize`, whatever there was before. -/
theorem reflectsNv_powerUp (callbacks : HostCallbacks) (initKind : InitKind)
    (events : List NvEvent) :
    ReflectsNv (.powerUp callbacks initKind) (events ++ [initKind.nvEvent]) := by
  cases initKind with
  | coldInit => exact Journal.reflects_overwritten (fun _ => rfl) events
  | coldInitWithSize size => exact Journal.reflects_overwritten (fun _ => rfl) events
  | coldInitWithPersistentState nvmemBlob => exact Journal.reflects_stored nvmemBlob events

/-- The power cycle of a reset; a new blob is what the host has. -/
theorem reflectsNv_poweredAgain {p : PlatformImpl} {events : List NvEvent}
    (h : ReflectsNv p events) (withNewNvmemBlob : Option (List UInt8)) :
    ReflectsNv (p.poweredAgain (p.resetRegion withNewNvmemBlob))
      (events ++ withNewNvmemBlob.toList.map .stored) := by
  cases withNewNvmemBlob with
  | none =>
      rw [Option.toList_none, List.map_nil, List.append_nil]
      exact h
  | some blob => exact Journal.reflects_stored blob events

/-! ## Runs -/

namespace Process

variable {ι : Type} {B : Build ι} {ρ : Type}

/-- What a use of the crate means for the region and the host's copy of it. -/
def nvEvents (codec : Codec) (w : Process B ρ) : Op B ρ → List NvEvent
  | .initializePlatform callbacks initKind manufacture tpmInit =>
    if w.platform.isNone ∧ initKind.Valid then
      initKind.nvEvent :: emitted Callback.step Callback.nvEvents (.powerUp callbacks initKind)
        (initializeCallbacks initKind manufacture tpmInit)
    else []
  | .reset withNewNvmemBlob tpmInit =>
    match w.platform with
    | none => []
    | some p =>
      if ∀ blob ∈ withNewNvmemBlob, blob.length = nvMemorySize then
        withNewNvmemBlob.toList.map .stored ++ emitted Callback.step Callback.nvEvents
          (p.poweredAgain (p.resetRegion withNewNvmemBlob)) tpmInit.callbacks
      else []
  | .executeCommand run =>
    match w.platform with
    | none => []
    | some p => emitted Callback.step Callback.nvEvents p run.callbacks
  | .restoreState state =>
    match codec.fromBytes state with
    | .error _ => []
    | .ok st => [.changed (.replaced st.platformState.nvmem.region)]
  | .drop => []
  | .saveState => []
  | .setCancelFlag _ => []
  | .setLocality _ => []

/-- **Step.**  Every use of the crate keeps the region in step with its events. -/
theorem reflectsNv_step [DecidableEq ι] {lib : TpmLibrary B ρ} {codec : Codec}
    {w w' : Process B ρ} {op : Op B ρ} {events : List NvEvent}
    (hw : w.Holds fun p => ReflectsNv p events) (h : w.step lib codec op = some w') :
    w'.Holds fun p => ReflectsNv p (events ++ w.nvEvents codec op) := by
  cases effect h with
  | @started callbacks initKind _ _ _ _ hnone hvalid hrun hp =>
      rw [nvEvents, if_pos ⟨Option.isNone_iff_eq_none.mpr hnone, hvalid⟩, holds_some hp,
        List.append_cons]
      exact reflectsNv_callbacks (reflectsNv_powerUp callbacks initKind events) hrun
  | refused hrefused =>
      rw [nvEvents, if_neg fun hc => hrefused (Option.isNone_iff_eq_none.mp hc.1) hc.2,
        List.append_nil]
      exact hw
  | dropped => exact holds_none _ rfl
  | @poweredAgain withNewNvmemBlob _ p _ _ hp hlen hrun hp' _ =>
      rw [nvEvents, hp]
      dsimp only
      rw [if_pos fun blob hblob => hlen blob (Option.mem_def.mp hblob), holds_some hp',
        ← List.append_assoc]
      exact reflectsNv_callbacks (reflectsNv_poweredAgain (hw p hp) withNewNvmemBlob) hrun
  | @poweredOff blob _ p hp hlen =>
      rw [nvEvents, hp]
      dsimp only
      rw [if_neg fun hc => hlen (hc blob rfl), List.append_nil, holds_some rfl]
      exact hw p hp
  | unsent _ hcall =>
      rw [nvEvents, CommandRun.callbacks_of_none hcall]
      cases w.platform <;> exact (List.append_nil events).symm ▸ hw
  | executed _ _ hp hrun =>
      rw [nvEvents, hp, holds_some rfl]
      exact reflectsNv_callbacks (hw _ hp) hrun
  | saved =>
      rw [nvEvents, List.append_nil]
      exact hw
  | undecodable hdec =>
      rw [nvEvents, hdec, List.append_nil]
      exact hw
  | restored hdec _ _ =>
      rw [nvEvents, hdec, holds_some rfl]
      exact Journal.reflects_overwritten (fun _ => rfl) events
  | @cancelSet _ p hp =>
      rw [nvEvents, List.append_nil, holds_some rfl]
      exact hw p hp
  | @localitySet _ p hp =>
      rw [nvEvents, List.append_nil, holds_some rfl]
      exact hw p hp

/-- The region at the end of any run. -/
theorem reflectsNv_run [DecidableEq ι] {lib : TpmLibrary B ρ} {codec : Codec}
    {library : LibraryState B ρ} {ops : List (Op B ρ)} {w : Process B ρ}
    (hrun : runFrom (step lib codec) (start library) ops = some w) :
    w.Holds fun p =>
      ReflectsNv p (emitted (step lib codec) (nvEvents codec) (start library) ops) := by
  have hstart : (start library).Holds fun p => ReflectsNv p [] := holds_none _ rfl
  have hend : w.Holds fun p => ReflectsNv p
      ([] ++ emitted (step lib codec) (nvEvents codec) (start library) ops) :=
    emitted_of_step (R := fun w events => w.Holds fun p => ReflectsNv p events)
      (fun _ _ _ _ hw h => reflectsNv_step hw h) hstart hrun
  rw [List.nil_append] at hend
  exact hend

/-! ## The shortcut -/

/-- `reset(None)` is the reset from a blob exactly if that blob is the region and can
be the region. -/
theorem reset_none_eq_iff {w : Process B ρ} {p : PlatformImpl} (hp : w.platform = some p)
    (blob : List UInt8) :
    (∀ tpmInit, w.reset none tpmInit = w.reset (some blob) tpmInit) ↔
      blob.length = nvMemorySize ∧ p.state.nvmem.region = blob := by
  constructor
  · intro h
    have hseen : w.seenByReset none = w.seenByReset (some blob) :=
      congrArg (Option.bind · platformOnSuccess) (h w.silent)
    rw [seenByReset_none hp] at hseen
    by_cases hlen : blob.length = nvMemorySize
    · refine ⟨hlen, ?_⟩
      rw [seenByReset_eq hp (by rintro b hb; exact Option.some.inj hb ▸ hlen),
        Option.some.injEq] at hseen
      exact congrArg (fun q : PlatformImpl => q.state.nvmem.region) hseen
    · rw [seenByReset_of_ne hp hlen] at hseen
      cases hseen
  · rintro ⟨hlen, rfl⟩ tpmInit
    have hblob : w.seenByReset (some p.state.nvmem.region) =
        some (p.poweredAgain p.state.nvmem.region) :=
      seenByReset_eq hp (by rintro b hb; exact Option.some.inj hb ▸ hlen)
    rw [reset_of_seenByReset (seenByReset_none hp), reset_of_seenByReset hblob]

/-- **`reset(None)` goes on with the region in memory.**  In every run from an
`initialize` with a persistent state, whatever is called and whichever commits are
refused: the region that `_TPM_Init` sees after `reset(None)` is the blob that the host
last received, with the changes made since.  The reset does the same as one from that
blob exactly if these changes leave the blob as it is and it can be a region. -/
theorem reset_none_reflects [DecidableEq ι] (lib : TpmLibrary B ρ) (codec : Codec)
    (library : LibraryState B ρ) (callbacks : HostCallbacks) (nvmemBlob : List UInt8)
    (manufacture tpmInit : LibraryRun B ρ) (ops : List (Op B ρ)) (w : Process B ρ)
    (p : PlatformImpl) (hblob : nvmemBlob.length = nvMemorySize)
    (hrun : runFrom (step lib codec) (start library)
      (.initializePlatform callbacks (.coldInitWithPersistentState nvmemBlob) manufacture tpmInit ::
        ops) = some w)
    (hp : w.platform = some p) :
    ∃ stored changes seen,
      Journal.Since (emitted (step lib codec) (nvEvents codec) (start library)
        (.initializePlatform callbacks (.coldInitWithPersistentState nvmemBlob) manufacture
          tpmInit :: ops)) stored changes ∧
      w.seenByReset none = some seen ∧
      seen.state.nvmem.region = changes.foldl NvChange.apply stored ∧
      ((∀ tpmInit, w.reset none tpmInit = w.reset (some stored) tpmInit) ↔
        stored.length = nvMemorySize ∧ changes.foldl NvChange.apply stored = stored) := by
  have hvalid : (InitKind.coldInitWithPersistentState nvmemBlob).Valid := hblob
  have hfirst : .stored nvmemBlob ∈ emitted (step lib codec) (nvEvents codec) (start library)
      (.initializePlatform callbacks (.coldInitWithPersistentState nvmemBlob) manufacture
        tpmInit :: ops) := by
    rw [emitted, nvEvents, if_pos ⟨rfl, hvalid⟩, List.cons_append]
    exact List.mem_cons_self
  obtain ⟨stored, changes, hsince⟩ := Journal.exists_since hfirst
  have hregion : p.state.nvmem.region = changes.foldl NvChange.apply stored :=
    reflectsNv_run hrun p hp stored changes hsince
  refine ⟨stored, changes, _, hsince, seenByReset_none hp, hregion, ?_⟩
  rw [← hregion]
  exact reset_none_eq_iff hp stored

/-- A command that writes a byte and whose commit the host refuses. -/
def refusedRun : LibraryRun miniBuild Unit where
  callbacks := [.nvMemoryWrite 0 [1], .nvCommit (.error "")]
  memory := miniMemory
  ret := 0

/-- An `initialize` from zeros, and such a command. -/
def refusedOps : List (Op miniBuild Unit) :=
  [.initializePlatform { commits := [] }
      (.coldInitWithPersistentState (List.replicate nvMemorySize 0)) coldProcess.silent
      coldProcess.silent,
    .executeCommand refusedRun.command]

/-- The process after them. -/
def refusedProcess : Process miniBuild Unit :=
  { coldProcess with
    platform := some { writtenPlatform with
      callbacks := { commits := [{ state := writtenRegion, accepted := false }] } } }

/-- The first step. -/
theorem step_persistent :
    step miniLibrary refusingCodec (start miniMemory)
      (.initializePlatform { commits := [] }
        (.coldInitWithPersistentState (List.replicate nvMemorySize 0)) coldProcess.silent
        coldProcess.silent) = some coldProcess := by
  have hvalid : (InitKind.coldInitWithPersistentState (List.replicate nvMemorySize 0)).Valid :=
    List.length_replicate
  rw [step, initializePlatform_of_valid rfl hvalid]
  rfl

/-- The second one. -/
theorem step_refused :
    step miniLibrary refusingCodec coldProcess (.executeCommand refusedRun.command) =
      some refusedProcess := by
  rw [step_command Nat.one_ne_zero]
  refine runLibrary_eq_some.mpr ⟨_, _, rfl, ?_, rfl⟩
  rw [refusedRun, runFrom_cons, step_nvMemoryWrite]
  rfl

/-- The two steps lead there. -/
theorem runFrom_refused :
    runFrom (step miniLibrary refusingCodec) (start miniMemory) refusedOps =
      some refusedProcess :=
  (runFrom_cons_eq_some _).mpr ⟨coldProcess, step_persistent,
    (runFrom_cons_eq_some _).mpr ⟨refusedProcess, step_refused, rfl⟩⟩

/-- The host has the zeros, and does not know of the write. -/
theorem emitted_refused :
    emitted (step miniLibrary refusingCodec) (nvEvents refusingCodec) (start miniMemory)
        refusedOps =
      [.stored (List.replicate nvMemorySize 0)] ++ [.changed (.write 0 [1])] := by
  have hvalid : (InitKind.coldInitWithPersistentState (List.replicate nvMemorySize 0)).Valid :=
    List.length_replicate
  have hwrite : Callback.nvEvents (.powerUp { commits := [] } .coldInit) (.nvMemoryWrite 0 [1]) =
      [.changed (.write 0 [1])] := by
    rw [Callback.nvEvents_of_silent step_nvMemoryWrite rfl, Callback.nvChanges]
    exact congrArg (List.map Journal.Event.changed) (if_pos written_fits)
  have hcommand : coldProcess.nvEvents refusingCodec (.executeCommand refusedRun.command) =
      [.changed (.write 0 [1])] := by
    show emitted Callback.step Callback.nvEvents (.powerUp { commits := [] } .coldInit)
      refusedRun.callbacks = _
    rw [refusedRun, emitted_cons step_nvMemoryWrite, hwrite, emitted,
      Callback.nvEvents_nvCommit]
    rfl
  rw [refusedOps, emitted_cons step_persistent, emitted_cons step_refused, hcommand, nvEvents,
    if_pos ⟨rfl, hvalid⟩]
  rfl

/-- Since the host received the zeros, there was the write. -/
theorem since_refused {stored : List UInt8} {changes : List NvChange} :
    Journal.Since (emitted (step miniLibrary refusingCodec) (nvEvents refusingCodec)
        (start miniMemory) refusedOps) stored changes ↔
      stored = List.replicate nvMemorySize 0 ∧ changes = [.write 0 [1]] := by
  rw [emitted_refused, Journal.since_concat_changed]
  constructor
  · rintro ⟨earlier, rfl, hsince⟩
    rw [← List.nil_append [Journal.Event.stored _], Journal.since_concat_stored] at hsince
    obtain ⟨rfl, rfl⟩ := hsince
    exact ⟨rfl, rfl⟩
  · rintro ⟨rfl, rfl⟩
    exact ⟨[], rfl, [], rfl⟩

/-- After the refused commit, `reset(None)` goes on with the byte. -/
theorem reset_none_reflects_refused :
    ∃ seen, refusedProcess.seenByReset none = some seen ∧
      seen.state.nvmem.region =
        NvChange.apply (List.replicate nvMemorySize 0) (.write 0 [1]) := by
  obtain ⟨stored, changes, seen, hsince, hseen, hregion, -⟩ :=
    reset_none_reflects miniLibrary refusingCodec miniMemory { commits := [] }
      (List.replicate nvMemorySize 0) coldProcess.silent coldProcess.silent
      [.executeCommand refusedRun.command] refusedProcess _ List.length_replicate
      runFrom_refused rfl
  obtain ⟨rfl, rfl⟩ := since_refused.mp hsince
  exact ⟨seen, hseen, hregion⟩

/-- A command writes a byte and commits, the host refuses the commit, and `reset(None)`
leaves a region that the host has never received. -/
theorem reset_none_not_stored :
    ¬ ∀ (nvmemBlob : List UInt8) (manufacture tpmInit : LibraryRun miniBuild Unit)
        (ops : List (Op miniBuild Unit)) (w : Process miniBuild Unit) (stored : List UInt8)
        (changes : List NvChange) (seen : PlatformImpl),
      nvmemBlob.length = nvMemorySize →
      -- every command commits after its writes
      (∀ run, .executeCommand run ∈ ops → ∃ cs verdict, run.callbacks = cs ++ [.nvCommit verdict]) →
      runFrom (step miniLibrary refusingCodec) (start miniMemory)
        (.initializePlatform { commits := [] } (.coldInitWithPersistentState nvmemBlob) manufacture
          tpmInit :: ops) = some w →
      Journal.Since (emitted (step miniLibrary refusingCodec) (nvEvents refusingCodec)
        (start miniMemory) (.initializePlatform { commits := [] }
          (.coldInitWithPersistentState nvmemBlob) manufacture tpmInit :: ops)) stored changes →
      w.seenByReset none = some seen → seen.state.nvmem.region = stored := by
  intro h
  have hcommits : ∀ run, Op.executeCommand run ∈ [Op.executeCommand refusedRun.command] →
      ∃ cs verdict, run.callbacks = cs ++ [.nvCommit verdict] := by
    intro run hrun
    obtain rfl := Op.executeCommand.inj (List.mem_singleton.mp hrun)
    exact ⟨[.nvMemoryWrite 0 [1]], .error "", rfl⟩
  have hzeros := h (List.replicate nvMemorySize 0) coldProcess.silent coldProcess.silent
    [.executeCommand refusedRun.command] refusedProcess _ _ _ List.length_replicate hcommits
    runFrom_refused (since_refused.mpr ⟨rfl, rfl⟩) (seenByReset_none rfl)
  exact writtenRegion_ne_zeros hzeros

end Process

end TpmPlatform
