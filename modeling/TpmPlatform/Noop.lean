/-
# The dummy host (`NoopPlatformCallbacks` in `lib.rs`)

The crate comes with a host that returns dummy data: it accepts every commit, its timer
stands at zero, and its random bytes are always the same.

`noop_stands_still` : over this host, in every run without a restore, time stands still,
every commit is accepted, and the library never gets a random byte;
`noop_delivers_after_restore` : with restores it gets some at most once for each of them.
-/
import TpmPlatform.EntropyHistory
import TpmPlatform.HostRuns

namespace TpmPlatform

open Runs

namespace NoopPlatformCallbacks

/-- `get_crypt_random`: the buffer it leaves and the number of bytes it reports. -/
def getCryptRandom (buf : List UInt8) : List UInt8 × ℕ :=
  (match buf with
    | [] => []
    | _ :: rest => 0xff :: rest, buf.length)

/-- `monotonic_timer`, in milliseconds. -/
def monotonicTimer : ℕ := 0

/-- `commit_nv_state`. -/
def commitNvState (_ : List UInt8) : Except String Unit := .ok ()

/-- The answers to the calls of `read_entropy_block`: the first call hands over the whole
block, of zeros. -/
def random (_ : ℕ) : RandomAnswer :=
  let (bytes, returned) := getCryptRandom (List.replicate entropyBlockSize 0)
  { bytes := fun i => bytes.getD i 0, returned := .ok returned }

/-- The block that they make up. -/
def block : EntropyBlock := fun i => if i.val = 0 then 0xff else 0

/-- They make it up. -/
theorem assembles_random : EntropyState.Assembles random block :=
  ⟨1, fun _ _ => ⟨4, rfl, by decide⟩, by decide⟩

end NoopPlatformCallbacks

/-- The callback gets its answers from the dummy host. -/
def Callback.ByNoop : Callback → Prop
  | .timerRead now => now = NoopPlatformCallbacks.monotonicTimer
  | .getEntropy _ random => random = NoopPlatformCallbacks.random
  | .nvCommit verdict => ∀ state, verdict = NoopPlatformCallbacks.commitNvState state
  | _ => True

/-! ## Time, commits and random bytes -/

/-- Read at zero, a clock that has never been read at anything else stays where it is. -/
theorem ClockState.timerRead_zero {c : ClockState} (hunset : c.lastSystemTime = 0)
    (htime : c.tpmTime < 2 ^ 64) :
    c.timerRead 0 = some (c.tpmTime,
      { c with lastSystemTime := 0, lastReportedTime := 0, lastRealTime := 0 }) := by
  rw [timerRead, reportTime_of_unset hunset (by decide), Option.bind_some, creditTime,
    if_pos (Nat.le_refl 0)]
  dsimp only
  rw [toU64_eq_some.mpr ⟨htime, rfl⟩]
  rfl

/-- The clock stands at zero, every commit was accepted, and no block is remembered but the
one that the dummy host repeats. -/
structure StandsStill (p : PlatformImpl) : Prop where
  unset : p.state.clock.lastSystemTime = 0
  zero : p.state.clock.tpmTime = 0
  accepted : ∀ c ∈ p.callbacks.commits, c.accepted = true
  repeated : ∀ block, p.state.entropy.previousBlock = some block →
    block = NoopPlatformCallbacks.block

/-- Reading the timer of such a clock. -/
theorem StandsStill.timerRead {p : PlatformImpl} (h : StandsStill p) :
    ∃ clock, p.state.clock.timerRead NoopPlatformCallbacks.monotonicTimer = some (0, clock) ∧
      clock.lastSystemTime = 0 ∧ clock.tpmTime = 0 := by
  have hread := ClockState.timerRead_zero h.unset (by rw [h.zero]; decide)
  rw [h.zero] at hread
  exact ⟨_, hread, rfl, rfl⟩

/-- A callback with answers of the dummy host keeps the clock at zero. -/
theorem StandsStill.clock_callback {p p' : PlatformImpl} {c : Callback} (h : StandsStill p)
    (hc : c.ByNoop) (hstep : c.step p = some p') :
    p'.state.clock.lastSystemTime = 0 ∧ p'.state.clock.tpmTime = 0 := by
  have hclock := (Callback.effect hstep).clock_step
  cases c with
  | timerRead now =>
      obtain rfl : now = NoopPlatformCallbacks.monotonicTimer := hc
      obtain ⟨value, hread⟩ := hclock
      obtain ⟨clock, hzero, hclock⟩ := h.timerRead
      rw [hzero, Option.some.injEq, Prod.mk.injEq] at hread
      exact hread.2 ▸ hclock
  | timerWasReset =>
      obtain hclock : p'.state.clock = p.state.clock.timerWasReset.2 := hclock
      rw [hclock]
      exact ⟨h.unset, h.zero⟩
  | timerWasStopped =>
      obtain hclock : p'.state.clock = p.state.clock.timerWasStopped.2 := hclock
      rw [hclock]
      exact ⟨h.unset, h.zero⟩
  | clockRateAdjust adjustment =>
      obtain hclock : p.state.clock.clockRateAdjust adjustment = some p'.state.clock := hclock
      rw [ClockState.clockRateAdjust, Option.map_eq_some_iff] at hclock
      obtain ⟨rate, -, hclock⟩ := hclock
      rw [← hclock]
      exact ⟨h.unset, h.zero⟩
  | _ =>
      obtain hclock : p'.state.clock = p.state.clock := hclock
      rw [hclock]
      exact ⟨h.unset, h.zero⟩

/-- The answers of the dummy host are always the same. -/
theorem Callback.ByNoop.random_eq {c : Callback} (hc : c.ByNoop) {p : PlatformImpl}
    {random : ℕ → RandomAnswer} {bytes : List UInt8}
    (h : .answered random bytes ∈ c.entropyEvents p) : random = NoopPlatformCallbacks.random := by
  cases c with
  | getEntropy buf random' =>
      obtain rfl : random' = NoopPlatformCallbacks.random := hc
      rw [Callback.entropyEvents] at h
      revert h
      split
      · split
        · exact fun h => absurd h List.not_mem_nil
        · rw [List.mem_singleton]
          exact fun h => (EntropyEvent.answered.inj h).1
      · exact fun h => absurd h List.not_mem_nil
  | _ => exact absurd h List.not_mem_nil

/-- The dummy host keeps a platform standing still. -/
theorem standsStill_invariant :
    HostInvariant (fun callbacks => callbacks.commits = []) Callback.ByNoop (fun _ => False)
      StandsStill where
  powerUp := by
    intro callbacks initKind hnone _
    refine ⟨rfl, rfl, ?_, ?_⟩
    · show ∀ c ∈ callbacks.commits, c.accepted = true
      rw [hnone]
      exact fun c hc => absurd hc List.not_mem_nil
    · intro block hblock
      cases hblock
  callback := by
    intro p c p' h hc hstep
    obtain ⟨hunset, hzero⟩ := h.clock_callback hc hstep
    refine ⟨hunset, hzero, ?_, ?_⟩
    · rw [(Callback.effect hstep).commits_eq]
      cases c with
      | nvCommit verdict =>
          intro d hd
          rcases List.mem_append.mp hd with hd | hd
          · exact h.accepted d hd
          · rw [List.mem_singleton.mp hd, hc []]
            rfl
      | _ => exact h.accepted
    · rcases Callback.entropy_cases hstep with
        ⟨-, hsame⟩ | ⟨random, bytes, hanswered, hremembered, -⟩
      · rw [hsame]
        exact h.repeated
      · have hrandom : random = NoopPlatformCallbacks.random :=
          hc.random_eq (p := p) (hanswered ▸ List.mem_cons_self)
        rw [hremembered, hrandom, EntropyState.readEntropyBlock_of_assembles
          NoopPlatformCallbacks.assembles_random]
        exact fun _ hsome => (Option.some.inj hsome).symm
  signalPowerOff _ h := ⟨h.unset, h.zero, h.accepted, h.repeated⟩
  poweredAgain _ _ h _ := ⟨rfl, rfl, h.accepted, h.repeated⟩
  restored _ _ _ _ hstate := hstate.elim
  withCancel _ _ h := ⟨h.unset, h.zero, h.accepted, h.repeated⟩
  localitySet _ _ h := ⟨h.unset, h.zero, h.accepted, h.repeated⟩

/-- Once the dummy block is remembered, the library gets no random byte. -/
theorem PlatformImpl.platGetEntropy_noop {p : PlatformImpl}
    (hprevious : p.state.entropy.previousBlock = some NoopPlatformCallbacks.block)
    {buf : List UInt8} (hbuf : buf ≠ []) :
    p.platGetEntropy buf NoopPlatformCallbacks.random =
      some ({ value := -1, buffer := buf }, p) := by
  obtain ⟨reply, block, hcall, htest⟩ := PlatformImpl.platGetEntropy_tested hprevious
    ⟨buf, NoopPlatformCallbacks.random⟩
  cases htest with
  | initialized block hempty _ => exact absurd hempty hbuf
  | delivered block _ hfresh hdiffers =>
      exact absurd (hfresh.unique NoopPlatformCallbacks.assembles_random) hdiffers
  | refused _ => rw [hcall, PlatformImpl.remembering_of_previous hprevious]

/-- The library gets no random byte from a platform that stands still. -/
theorem StandsStill.platGetEntropy {p : PlatformImpl} (h : StandsStill p) {buf : List UInt8}
    (hbuf : buf ≠ []) :
    p.platGetEntropy buf NoopPlatformCallbacks.random =
      if p.state.entropy.previousBlock = none then none
      else some ({ value := -1, buffer := buf }, p) := by
  have hlength : buf.length ≠ 0 := fun hc => hbuf (List.length_eq_zero_iff.mp hc)
  cases hprevious : p.state.entropy.previousBlock with
  | none =>
      unfold PlatformImpl.platGetEntropy EntropyState.getEntropy
      rw [if_neg hlength, hprevious]
      rfl
  | some previous =>
      obtain rfl := h.repeated previous hprevious
      rw [if_neg (by intro hc; cases hc), PlatformImpl.platGetEntropy_noop hprevious hbuf]

namespace Process

variable {ι : Type} {B : Build ι} {ρ : Type}

/-- A use of the crate over the dummy host, with only platform states in `R` restored. -/
def Op.OverNoop (codec : Codec) (R : PlatformState → Prop) (op : Op B ρ) : Prop :=
  op.Over codec (fun callbacks => callbacks.commits = []) Callback.ByNoop R

/-- **Over the dummy host nothing moves.**  In every run in which no state is restored,
whatever the library calls: the timer reads 0 and does not panic, every commit so far was
accepted, and a call for random bytes panics, before the source is initialized, or is
refused with the buffer and the platform as they were. -/
theorem noop_stands_still [DecidableEq ι] (lib : TpmLibrary B ρ) (codec : Codec)
    (library : LibraryState B ρ) (ops : List (Op B ρ)) (w : Process B ρ) (p : PlatformImpl)
    (buf : List UInt8) (hops : ∀ op ∈ ops, op.OverNoop codec fun _ => False)
    (hrun : runFrom (step lib codec) (start library) ops = some w) (hp : w.platform = some p)
    (hbuf : buf ≠ []) :
    (∃ p', p.platTimerRead NoopPlatformCallbacks.monotonicTimer = some (.int 0, p')) ∧
      (∀ c ∈ p.callbacks.commits, c.accepted = true) ∧
      p.platGetEntropy buf NoopPlatformCallbacks.random =
        if p.state.entropy.previousBlock = none then none
        else some ({ value := -1, buffer := buf }, p) := by
  have hw := standsStill_invariant.run (holds_none StandsStill rfl) hops hrun
  have h : StandsStill p := (holds_some hp).mp hw
  obtain ⟨clock, hread, -⟩ := h.timerRead
  refine ⟨?_, h.accepted, h.platGetEntropy hbuf⟩
  rw [PlatformImpl.platTimerRead, hread]
  exact ⟨_, rfl⟩

/-- A command over the dummy host, in which the library initializes the entropy source, reads
the timer, commits the region and asks for random bytes. -/
def idlingRun : LibraryRun miniBuild Unit where
  callbacks := [.getEntropy [] NoopPlatformCallbacks.random, .timerRead 0, .nvCommit (.ok ()),
    .getEntropy [9, 9] NoopPlatformCallbacks.random]
  memory := miniMemory
  ret := 0

/-- The platform after a cold start, with a history. -/
def idlePlatform (commits : List Commit) (previousBlock : Option EntropyBlock) : PlatformImpl where
  callbacks := { commits := commits }
  state := { (PlatformImpl.powerUp { commits := [] } .coldInit).state with
    entropy := { previousBlock := previousBlock } }

/-- What the host is handed in such a command. -/
def idleCommit : Commit where
  state := InitKind.coldInit.region
  accepted := true

/-- Such a command leaves a commit, and the dummy block. -/
theorem runFrom_idling (commits : List Commit) (previousBlock : Option EntropyBlock) :
    runFrom Callback.step (idlePlatform commits previousBlock) idlingRun.callbacks =
      some (idlePlatform (commits ++ [idleCommit]) (some NoopPlatformCallbacks.block)) := by
  have hblock := EntropyState.readEntropyBlock_of_assembles NoopPlatformCallbacks.assembles_random
  have hseed : Callback.step (idlePlatform commits previousBlock)
      (.getEntropy [] NoopPlatformCallbacks.random) =
        some (idlePlatform commits (some NoopPlatformCallbacks.block)) :=
    congrArg (Option.map Prod.snd)
      ((idlePlatform commits previousBlock).platGetEntropy_nil_of_ok hblock)
  have hzero : (idlePlatform commits (some NoopPlatformCallbacks.block)).state.clock.tpmTime <
      2 ^ 64 := Nat.two_pow_pos 64
  have hread : Callback.step (idlePlatform commits (some NoopPlatformCallbacks.block))
      (.timerRead 0) = some (idlePlatform commits (some NoopPlatformCallbacks.block)) :=
    Callback.step_timerRead (ClockState.timerRead_zero rfl hzero)
  have hdraw : Callback.step
      (idlePlatform (commits ++ [idleCommit]) (some NoopPlatformCallbacks.block))
      (.getEntropy [9, 9] NoopPlatformCallbacks.random) =
        some (idlePlatform (commits ++ [idleCommit]) (some NoopPlatformCallbacks.block)) :=
    congrArg (Option.map Prod.snd) (PlatformImpl.platGetEntropy_noop rfl (List.cons_ne_nil 9 [9]))
  refine (runFrom_cons_eq_some _).mpr ⟨_, hseed, ?_⟩
  refine (runFrom_cons_eq_some _).mpr ⟨_, hread, ?_⟩
  refine (runFrom_cons_eq_some _).mpr ⟨_, rfl, ?_⟩
  exact (runFrom_cons_eq_some _).mpr ⟨_, hdraw, rfl⟩

/-- The platform after two such commands. -/
def idledPlatform : PlatformImpl :=
  idlePlatform [idleCommit, idleCommit] (some NoopPlatformCallbacks.block)

/-- Such a command in the process. -/
theorem step_idling (commits : List Commit) (previousBlock : Option EntropyBlock) :
    step miniLibrary refusingCodec
        { coldProcess with platform := some (idlePlatform commits previousBlock) }
        (.executeCommand idlingRun.command) =
      some { coldProcess with
        platform :=
          some (idlePlatform (commits ++ [idleCommit]) (some NoopPlatformCallbacks.block)) } := by
  rw [step_command Nat.one_ne_zero]
  exact runLibrary_eq_some.mpr ⟨_, _, rfl, runFrom_idling commits previousBlock, rfl⟩

/-- A cold start and two such commands. -/
def idlingOps : List (Op miniBuild Unit) :=
  [.initializePlatform { commits := [] } .coldInit coldProcess.silent coldProcess.silent,
    .executeCommand idlingRun.command, .executeCommand idlingRun.command]

/-- The process after them. -/
def idledProcess : Process miniBuild Unit := { coldProcess with platform := some idledPlatform }

/-- After two such commands the timer still reads 0, both commits were accepted, and random
bytes are refused. -/
theorem noop_stands_still_idling :
    runFrom (step miniLibrary refusingCodec) (start miniMemory) idlingOps = some idledProcess ∧
      (∃ p', idledPlatform.platTimerRead NoopPlatformCallbacks.monotonicTimer =
        some (.int 0, p')) ∧
      (∀ c ∈ idledPlatform.callbacks.commits, c.accepted = true) ∧
      idledPlatform.platGetEntropy [9, 9] NoopPlatformCallbacks.random =
        some ({ value := -1, buffer := [9, 9] }, idledPlatform) := by
  have hrun : runFrom (step miniLibrary refusingCodec) (start miniMemory) idlingOps =
      some idledProcess :=
    (runFrom_cons_eq_some _).mpr ⟨coldProcess, rfl,
      (runFrom_cons_eq_some _).mpr ⟨_, step_idling [] none,
        (runFrom_cons_eq_some _).mpr ⟨_, step_idling _ _, rfl⟩⟩⟩
  have hcommand : (Op.executeCommand idlingRun.command : Op miniBuild Unit).OverNoop refusingCodec
      fun _ => False := by
    show ∀ c ∈ idlingRun.callbacks, c.ByNoop
    rw [idlingRun, List.forall_mem_cons, List.forall_mem_cons, List.forall_mem_cons,
      List.forall_mem_singleton]
    exact ⟨rfl, rfl, fun _ => rfl, rfl⟩
  have hops : ∀ op ∈ idlingOps, op.OverNoop refusingCodec fun _ => False := by
    rw [idlingOps, List.forall_mem_cons, List.forall_mem_cons, List.forall_mem_singleton]
    refine ⟨⟨rfl, ?_, ?_⟩, hcommand, hcommand⟩
    · exact fun c hc => absurd hc List.not_mem_nil
    · exact fun c hc => absurd hc List.not_mem_nil
  exact ⟨hrun, noop_stands_still miniLibrary refusingCodec miniMemory idlingOps idledProcess
    idledPlatform [9, 9] hops hrun rfl (List.cons_ne_nil 9 [9])⟩

/-- Nobody but the dummy host has answered. -/
def AnsweredByNoop (e : EntropyEvent) : Prop :=
  ∀ random bytes, e = .answered random bytes → random = NoopPlatformCallbacks.random

/-- A call into the library over the dummy host. -/
theorem answeredByNoop_callbacks {p : PlatformImpl} {cs : List Callback}
    (hcs : ∀ c ∈ cs, c.ByNoop) {e : EntropyEvent}
    (he : e ∈ emitted Callback.step Callback.entropyEvents p cs) : AnsweredByNoop e := by
  obtain ⟨c, hc, q, hmem⟩ := exists_of_mem_emitted he
  rintro random bytes rfl
  exact (hcs c hc).random_eq hmem

/-- A use of the crate over the dummy host. -/
theorem answeredByNoop_step {codec : Codec} {R : PlatformState → Prop} {w : Process B ρ}
    {op : Op B ρ} (hop : op.OverNoop codec R) {e : EntropyEvent}
    (he : e ∈ w.entropyEvents codec op) : AnsweredByNoop e := by
  cases op with
  | initializePlatform callbacks initKind manufacture tpmInit =>
      obtain ⟨-, hmanufacture, htpmInit⟩ := hop
      rw [entropyEvents] at he
      split at he
      · rcases List.mem_cons.mp he with rfl | he
        · intro random bytes hc
          cases hc
        · refine answeredByNoop_callbacks (fun c hc => ?_) he
          exact (mem_initializeCallbacks hc).elim (hmanufacture c) (htpmInit c)
      · exact absurd he List.not_mem_nil
  | reset withNewNvmemBlob tpmInit =>
      rw [entropyEvents] at he
      split at he
      · exact absurd he List.not_mem_nil
      · split at he
        · exact answeredByNoop_callbacks hop he
        · exact absurd he List.not_mem_nil
  | executeCommand run =>
      rw [entropyEvents] at he
      split at he
      · exact absurd he List.not_mem_nil
      · exact answeredByNoop_callbacks hop he
  | restoreState state =>
      rw [entropyEvents] at he
      split at he
      · exact absurd he List.not_mem_nil
      · rw [List.mem_singleton.mp he]
        intro random bytes hc
        cases hc
  | _ => exact absurd he List.not_mem_nil

/-- **With restores** it hands out bytes once for each of them at most, and always the same
ones: what comes right before, among all that happens to the block remembered, is a restore of
another block. -/
theorem noop_delivers_after_restore [DecidableEq ι] (lib : TpmLibrary B ρ) (codec : Codec)
    (library : LibraryState B ρ) (ops : List (Op B ρ)) (pre suf : List EntropyEvent)
    (random : ℕ → RandomAnswer) (bytes : List UInt8)
    (hops : ∀ op ∈ ops, op.OverNoop codec fun _ => True)
    (h : emitted (step lib codec) (entropyEvents codec) (start library) ops =
      pre ++ .answered random bytes :: suf) (hbytes : bytes ≠ []) :
    bytes <+: [0xff, 0, 0, 0] ∧
      ∃ before previous, pre = before ++ [.restored (some previous)] ∧
        List.ofFn previous ≠ [0xff, 0, 0, 0] := by
  have hnoop : ∀ e ∈ pre ++ .answered random bytes :: suf, AnsweredByNoop e := by
    rw [← h]
    intro e he
    obtain ⟨op, hop, w, hmem⟩ := exists_of_mem_emitted he
    exact answeredByNoop_step (hops op hop) hmem
  have hrandom : random = NoopPlatformCallbacks.random :=
    hnoop _ (List.mem_append_right pre List.mem_cons_self) random bytes rfl
  have htested := tested_run lib codec library ops
  rw [h] at htested
  obtain ⟨block, previous, hblock, hhanded, ⟨before, e, rfl, hremembered⟩, hne⟩ :=
    htested pre random bytes suf rfl hbytes
  obtain rfl : block = NoopPlatformCallbacks.block := by
    rw [hrandom] at hblock
    exact hblock.unique NoopPlatformCallbacks.assembles_random
  have hdummy : List.ofFn NoopPlatformCallbacks.block = [0xff, 0, 0, 0] := rfl
  rw [hdummy] at hhanded
  refine ⟨hhanded, ?_⟩
  have he := hnoop e (List.mem_append_left _ (List.mem_append_right before List.mem_cons_self))
  -- the dummy host would have given the same block again
  cases e with
  | forgotten => cases hremembered
  | restored restored =>
      obtain rfl : restored = some previous := hremembered
      refine ⟨before, previous, rfl, fun hsame => hne ?_⟩
      exact List.ofFn_injective (hsame.trans hdummy.symm)
  | answered random' bytes' =>
      obtain rfl := he random' bytes' rfl
      rw [EntropyEvent.remembered, EntropyState.readEntropyBlock_of_assembles
        NoopPlatformCallbacks.assembles_random] at hremembered
      exact absurd (Option.some.inj hremembered).symm hne

/-- A serializer in which every blob decodes to a platform that remembers zeros. -/
def zeroBlockCodec : Codec where
  toStdvec _ := .ok []
  fromBytes _ := .ok
    { tpmlibState := []
      platformState := { PlatformState.new with entropy := { previousBlock := some zeroBlock } } }

/-- The platform after such a restore; the library has refused its half. -/
def zeroBlockPlatform : PlatformImpl where
  callbacks := { commits := [] }
  state := { PlatformState.new with entropy := { previousBlock := some zeroBlock } }

/-- A command that asks for two bytes. -/
def drawingRun : LibraryRun miniBuild Unit where
  callbacks := [.getEntropy [9, 9] NoopPlatformCallbacks.random]
  memory := miniMemory
  ret := 0

/-- A cold start, the restore and the command. -/
def drawingOps : List (Op miniBuild Unit) :=
  [.initializePlatform { commits := [] } .coldInit coldProcess.silent coldProcess.silent,
    .restoreState [], .executeCommand drawingRun.command]

/-- What they mean for the block remembered. -/
theorem emitted_drawing :
    emitted (step miniLibrary zeroBlockCodec) (entropyEvents zeroBlockCodec) (start miniMemory)
        drawingOps =
      [.forgotten, .restored (some zeroBlock),
        .answered NoopPlatformCallbacks.random [0xff, 0]] := by
  have hinit : step miniLibrary zeroBlockCodec (start miniMemory)
      (.initializePlatform { commits := [] } .coldInit coldProcess.silent coldProcess.silent) =
        some coldProcess := rfl
  have hrestore : step miniLibrary zeroBlockCodec coldProcess (.restoreState []) =
      some { coldProcess with platform := some zeroBlockPlatform } := rfl
  have hne : zeroBlock ≠ NoopPlatformCallbacks.block :=
    fun hc => absurd (congrFun hc ⟨0, by decide⟩) (by decide)
  have hdraw : emitted Callback.step Callback.entropyEvents zeroBlockPlatform
      drawingRun.callbacks = [.answered NoopPlatformCallbacks.random [0xff, 0]] := by
    rw [drawingRun, emitted, Callback.entropyEvents_delivered (List.cons_ne_nil 9 [9]) rfl
      NoopPlatformCallbacks.assembles_random hne]
    split <;> rfl
  have hcommand : entropyEvents zeroBlockCodec
      { coldProcess with platform := some zeroBlockPlatform }
        (.executeCommand drawingRun.command) =
          [.answered NoopPlatformCallbacks.random [0xff, 0]] := hdraw
  rw [drawingOps, emitted_cons hinit, emitted_cons hrestore, emitted, hcommand]
  split <;> rfl

/-- The two bytes were handed out right after the restore. -/
theorem noop_delivers_after_restore_drawing :
    ([0xff, 0] : List UInt8) <+: [0xff, 0, 0, 0] ∧
      ∃ before previous, [.forgotten, .restored (some zeroBlock)] =
        before ++ [EntropyEvent.restored (some previous)] ∧
          List.ofFn previous ≠ [0xff, 0, 0, 0] :=
  noop_delivers_after_restore miniLibrary zeroBlockCodec miniMemory drawingOps
    [.forgotten, .restored (some zeroBlock)] [] NoopPlatformCallbacks.random [0xff, 0]
    (by
      rw [drawingOps, List.forall_mem_cons, List.forall_mem_cons, List.forall_mem_singleton]
      refine ⟨⟨rfl, ?_, ?_⟩, fun _ _ => trivial, ?_⟩
      · exact fun c hc => absurd hc List.not_mem_nil
      · exact fun c hc => absurd hc List.not_mem_nil
      · show ∀ c ∈ drawingRun.callbacks, c.ByNoop
        rw [drawingRun, List.forall_mem_singleton]
        rfl)
    emitted_drawing (List.cons_ne_nil 0xff [0])

end Process

end TpmPlatform
