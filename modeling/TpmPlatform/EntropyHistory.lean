/-
# The continuous RNG test over whole runs (`plat/api/entropy.rs`, `plat/mod.rs`)

The block that the test remembers is a part of the platform state: a power cycle keeps
it, a saved state carries it along, a restore brings the saved one back, and only a new
`initialize` forgets it.

`delivered_differs` : in every run of the crate, the bytes that the library gets are the first
ones of a block that differs from the one accepted before it, whatever lies between the two.
-/
import TpmPlatform.EntropyRuns
import TpmPlatform.PlatformSteps

namespace TpmPlatform

open Runs

/-! ## The block that is assembled -/

namespace EntropyState

/-- Fewer answers count a first part of the bytes. -/
theorem countedBytes_initial (random : ℕ → RandomAnswer) {m n : ℕ} (h : m ≤ n) :
    countedBytes random m <+: countedBytes random n := by
  induction n, h using Nat.le_induction with
  | base => exact List.prefix_rfl
  | succ n _ ih =>
      rw [countedBytes_succ]
      exact ih.trans (List.prefix_append _ _)

/-- The answers of the host make up one block at most. -/
theorem Assembles.unique {random : ℕ → RandomAnswer} {block block' : EntropyBlock}
    (h : Assembles random block) (h' : Assembles random block') : block = block' := by
  obtain ⟨m, -, hm⟩ := h
  obtain ⟨n, -, hn⟩ := h'
  have hlength : (countedBytes random m).length = (countedBytes random n).length := by
    rw [← hm, ← hn, List.length_ofFn, List.length_ofFn]
  have hbytes : countedBytes random m = countedBytes random n := by
    rcases Nat.le_total m n with hle | hle
    · exact (countedBytes_initial random hle).eq_of_length hlength
    · exact ((countedBytes_initial random hle).eq_of_length hlength.symm).symm
  rw [← hm, ← hn] at hbytes
  exact List.ofFn_injective hbytes

/-- It is the one that is read. -/
theorem readEntropyBlock_of_assembles {random : ℕ → RandomAnswer} {block : EntropyBlock}
    (h : Assembles random block) : (readEntropyBlock random).1 = .ok block := by
  rcases (readEntropyBlock_spec random).2 with ⟨block', hread, hblock'⟩ | ⟨e, -, hnone⟩
  · rw [hread, hblock'.unique h]
  · exact absurd h (hnone block)

/-- And what is read is one. -/
theorem assembles_of_readEntropyBlock {random : ℕ → RandomAnswer} {block : EntropyBlock}
    (h : (readEntropyBlock random).1 = .ok block) : Assembles random block := by
  rcases (readEntropyBlock_spec random).2 with ⟨block', hread, hblock'⟩ | ⟨e, hread, -⟩
  · obtain rfl := Except.ok.inj (h.symm.trans hread)
    exact hblock'
  · cases h.symm.trans hread

end EntropyState

/-! ## What happens to the block remembered -/

/-- What the test remembers is set by an `initialize`, which forgets it, and by a restore;
and by a `_plat__GetEntropy` that is not refused, to which the host answers with `random`, and
which hands out `bytes`, none if it is called to discard a block. -/
inductive EntropyEvent
  | forgotten
  | restored (previous : Option EntropyBlock)
  | answered (random : ℕ → RandomAnswer) (bytes : List UInt8)

/-- What the test remembers after it. -/
def EntropyEvent.remembered : EntropyEvent → Option EntropyBlock
  | .forgotten => none
  | .restored previous => previous
  | .answered random _ => (EntropyState.readEntropyBlock random).1.toOption

/-- After `events` the test remembers `previous`: the last of them says so. -/
def Remembers (events : List EntropyEvent) (previous : Option EntropyBlock) : Prop :=
  ∃ pre e, events = pre ++ [e] ∧ e.remembered = previous

/-- The bytes that a call hands out: as many of the buffer as its return value says. -/
def Reply.handedOut (reply : Reply) : List UInt8 := reply.buffer.take reply.value.toNat

/-- The bytes are the first ones of a block that the answers of the host make up, and that is
not the one remembered. -/
def FreshBytes (remembered : EntropyBlock → Prop) (random : ℕ → RandomAnswer)
    (bytes : List UInt8) : Prop :=
  ∃ block previous, EntropyState.Assembles random block ∧ bytes <+: List.ofFn block ∧
    remembered previous ∧ previous ≠ block

/-- All bytes that were handed out were fresh. -/
def Tested (events : List EntropyEvent) : Prop :=
  ∀ pre random bytes suf, events = pre ++ .answered random bytes :: suf → bytes ≠ [] →
    FreshBytes (fun previous => Remembers pre (some previous)) random bytes

/-- What a callback means for the block, by the reply that the library gets. -/
def Callback.entropyEvents (p : PlatformImpl) : Callback → List EntropyEvent
  | .getEntropy buf random =>
    match p.platGetEntropy buf random with
    | some (reply, _) => if reply.value = -1 then [] else [.answered random reply.handedOut]
    | none => []
  | _ => []

theorem tested_nil : Tested [] := by
  intro pre random bytes suf happ
  exact absurd happ.symm (List.append_ne_nil_of_right_ne_nil pre (List.cons_ne_nil _ suf))

/-- An event after others that pass the test. -/
theorem Tested.concat {events : List EntropyEvent} (h : Tested events) {e : EntropyEvent}
    (he : ∀ random bytes, e = .answered random bytes → bytes ≠ [] →
      FreshBytes (fun previous => Remembers events (some previous)) random bytes) :
    Tested (events ++ [e]) := by
  intro pre random bytes suf happ
  rcases List.eq_nil_or_concat suf with rfl | ⟨suf, last, rfl⟩
  · obtain ⟨rfl, hlast⟩ := List.append_inj' happ rfl
    exact he random bytes (List.singleton_inj.mp hlast)
  · rw [List.concat_eq_append, ← List.cons_append, ← List.append_assoc] at happ
    exact h pre random bytes suf (List.append_inj' happ rfl).1

/-! ## One callback -/

/-- Only `_plat__GetEntropy` changes the entropy state. -/
theorem Callback.entropy_eq {p p' : PlatformImpl} {c : Callback}
    (hc : ∀ buf random, c ≠ .getEntropy buf random) (h : c.step p = some p') :
    p'.state.entropy = p.state.entropy := by
  rw [Callback.step, Option.map_eq_some_iff] at h
  obtain ⟨r, hcall, rfl⟩ := h
  cases c with
  | getEntropy buf random => exact absurd rfl (hc buf random)
  | nvNullBuffer callback => cases hcall
  | timerRead now =>
      obtain ⟨_, -, rfl⟩ := Option.map_eq_some_iff.mp hcall
      rfl
  | clockRateAdjust adjustment =>
      obtain ⟨_, -, rfl⟩ := Option.map_eq_some_iff.mp hcall
      rfl
  | nvCommit verdict =>
      rw [← Option.some.inj hcall, platNvCommit_effect]
      rfl
  | nvMemoryRead startOffset data =>
      rw [← Option.some.inj hcall, PlatformImpl.platNvMemoryRead]
      split <;> rfl
  | nvGetChangedStatus startOffset data =>
      rw [← Option.some.inj hcall, PlatformImpl.platNvGetChangedStatus]
      split <;> rfl
  | nvMemoryWrite startOffset data =>
      rw [← Option.some.inj hcall, PlatformImpl.platNvMemoryWrite, PlatformImpl.nvReply_snd]
      rfl
  | nvMemoryClear start size =>
      rw [← Option.some.inj hcall, PlatformImpl.platNvMemoryClear, PlatformImpl.nvReply_snd]
      rfl
  | nvMemoryMove sourceOffset destOffset size =>
      rw [← Option.some.inj hcall, PlatformImpl.platNvMemoryMove, PlatformImpl.nvReply_snd]
      rfl
  | _ =>
      rw [← Option.some.inj hcall]
      rfl

/-- A call whose answers make up no block is refused, and changes nothing. -/
theorem PlatformImpl.platGetEntropy_of_error {p p' : PlatformImpl} {buf : List UInt8}
    {random : ℕ → RandomAnswer} {reply : Reply} {e : Error}
    (hread : (EntropyState.readEntropyBlock random).1 = .error e)
    (h : p.platGetEntropy buf random = some (reply, p')) : reply.value = -1 ∧ p' = p := by
  unfold platGetEntropy EntropyState.initializeEntropy EntropyState.getEntropy at h
  rw [hread] at h
  by_cases hbuf : buf.length = 0
  · rw [if_pos hbuf] at h
    obtain ⟨rfl, rfl⟩ := Prod.mk.inj (Option.some.inj h)
    exact ⟨rfl, rfl⟩
  · rw [if_neg hbuf] at h
    by_cases hsome : p.state.entropy.previousBlock.isSome
    · rw [if_pos hsome] at h
      obtain ⟨rfl, rfl⟩ := Prod.mk.inj (Option.some.inj h)
      exact ⟨rfl, rfl⟩
    · rw [if_neg hsome] at h
      cases h

/-- A call for no bytes remembers the block. -/
theorem PlatformImpl.platGetEntropy_nil_of_ok (p : PlatformImpl) {random : ℕ → RandomAnswer}
    {block : EntropyBlock} (hread : (EntropyState.readEntropyBlock random).1 = .ok block) :
    p.platGetEntropy [] random = some ({ value := 0, buffer := [] }, p.remembering block) := by
  unfold platGetEntropy EntropyState.initializeEntropy
  rw [hread]
  rfl

/-- The bytes of a block that fit the caller's buffer are what a call with this reply hands
out. -/
theorem Reply.handedOut_block (buf : List UInt8) (block : EntropyBlock) :
    Reply.handedOut
      { value := (min buf.length entropyBlockSize : ℕ)
        buffer := Bytes.splice buf 0 ((List.ofFn block).take (min buf.length entropyBlockSize)) } =
      (List.ofFn block).take (min buf.length entropyBlockSize) := by
  have hlength : ((List.ofFn block).take (min buf.length entropyBlockSize)).length =
      min buf.length entropyBlockSize := by
    rw [List.length_take, List.length_ofFn]
    omega
  rw [handedOut, PlatformImpl.splice_zero, Int.toNat_natCast]
  exact List.take_left' hlength

/-- A call for some bytes that returns has found another block remembered, hands out the new
one and remembers it, or it has found the same one, and is refused. -/
theorem PlatformImpl.platGetEntropy_of_ok {p p' : PlatformImpl} {buf : List UInt8}
    (hbuf : buf ≠ []) {random : ℕ → RandomAnswer} {block : EntropyBlock} {reply : Reply}
    (hread : (EntropyState.readEntropyBlock random).1 = .ok block)
    (h : p.platGetEntropy buf random = some (reply, p')) :
    ∃ previous, p.state.entropy.previousBlock = some previous ∧
      (previous = block ∧ reply.value = -1 ∧ p' = p ∨
        previous ≠ block ∧ reply.value ≠ -1 ∧
          reply.handedOut = (List.ofFn block).take (min buf.length entropyBlockSize) ∧
          p' = p.remembering block) := by
  have hlength : buf.length ≠ 0 := fun hc => hbuf (List.length_eq_zero_iff.mp hc)
  unfold platGetEntropy EntropyState.getEntropy at h
  rw [if_neg hlength, hread] at h
  cases hprevious : p.state.entropy.previousBlock with
  | none =>
      rw [hprevious] at h
      cases h
  | some previous =>
      have hsome : (some previous).isSome = true := rfl
      refine ⟨previous, rfl, ?_⟩
      rw [hprevious, if_pos hsome, Option.map_some] at h
      dsimp only at h
      by_cases hsame : previous = block
      · rw [if_pos (congrArg some hsame)] at h
        obtain ⟨rfl, rfl⟩ := Prod.mk.inj (Option.some.inj h)
        exact .inl ⟨hsame, rfl, remembering_of_previous hprevious ▸ rfl⟩
      · rw [if_neg fun hc => hsame (Option.some.inj hc)] at h
        obtain ⟨rfl, rfl⟩ := Prod.mk.inj (Option.some.inj h)
        refine .inr ⟨hsame, ?_, Reply.handedOut_block buf block, rfl⟩
        dsimp only
        omega

/-- **One callback** keeps the block remembered, or it remembers the block that the host's
answers make up; bytes that it hands out are fresh. -/
theorem Callback.entropy_cases {p p' : PlatformImpl} {c : Callback} (h : c.step p = some p') :
    (c.entropyEvents p = [] ∧ p'.state.entropy = p.state.entropy) ∨
    ∃ random bytes, c.entropyEvents p = [.answered random bytes] ∧
      p'.state.entropy.previousBlock = (EntropyState.readEntropyBlock random).1.toOption ∧
      (bytes ≠ [] →
        FreshBytes (fun previous => p.state.entropy.previousBlock = some previous) random
          bytes) := by
  cases c with
  | getEntropy buf random =>
      rw [Callback.step, Option.map_eq_some_iff] at h
      obtain ⟨⟨reply, p₁⟩, hcall, rfl⟩ := h
      rw [Callback.call] at hcall
      rw [Callback.entropyEvents, hcall]
      cases hread : (EntropyState.readEntropyBlock random).1 with
      | error e =>
          left
          obtain ⟨hvalue, rfl⟩ := PlatformImpl.platGetEntropy_of_error hread hcall
          exact ⟨if_pos hvalue, rfl⟩
      | ok block =>
          dsimp only
          by_cases hbuf : buf = []
          · subst hbuf
            rw [p.platGetEntropy_nil_of_ok hread] at hcall
            obtain ⟨rfl, rfl⟩ := Prod.mk.inj (Option.some.inj hcall)
            refine .inr ⟨random, [], rfl, ?_, fun hc => absurd rfl hc⟩
            rw [hread]
            rfl
          · obtain ⟨previous, hprevious, ⟨-, hvalue, rfl⟩ | ⟨hnew, hvalue, hbytes, rfl⟩⟩ :=
              PlatformImpl.platGetEntropy_of_ok hbuf hread hcall
            · left
              rw [if_pos hvalue]
              exact ⟨rfl, rfl⟩
            · right
              rw [if_neg hvalue, hbytes]
              refine ⟨random, _, rfl, ?_, fun _ => ⟨block, previous, ?_, List.take_prefix _ _,
                hprevious, hnew⟩⟩
              · rw [hread]
                rfl
              · exact EntropyState.assembles_of_readEntropyBlock hread
  | _ =>
      left
      exact ⟨rfl, Callback.entropy_eq (by intro _ _ hc; cases hc) h⟩

/-- A call for no bytes discards the block that the answers make up. -/
theorem Callback.entropyEvents_discarded (p : PlatformImpl) {random : ℕ → RandomAnswer}
    {block : EntropyBlock} (hblock : EntropyState.Assembles random block) :
    (Callback.getEntropy [] random).entropyEvents p = [.answered random []] := by
  have hread := EntropyState.readEntropyBlock_of_assembles hblock
  rw [Callback.entropyEvents, p.platGetEntropy_nil_of_ok hread]
  rfl

/-- A call for some bytes hands out its first ones if another block is remembered. -/
theorem Callback.entropyEvents_delivered {p : PlatformImpl} {buf : List UInt8} (hbuf : buf ≠ [])
    {previous block : EntropyBlock} (hprevious : p.state.entropy.previousBlock = some previous)
    {random : ℕ → RandomAnswer} (hblock : EntropyState.Assembles random block)
    (hne : previous ≠ block) :
    (Callback.getEntropy buf random).entropyEvents p =
      [.answered random ((List.ofFn block).take (min buf.length entropyBlockSize))] := by
  have hread := EntropyState.readEntropyBlock_of_assembles hblock
  obtain ⟨reply, block', hcall, -⟩ :=
    PlatformImpl.platGetEntropy_tested hprevious ⟨buf, random⟩
  dsimp only at hcall
  rw [Callback.entropyEvents, hcall]
  dsimp only
  obtain ⟨previous', hprevious', ⟨hsame, -⟩ | ⟨-, hvalue, hbytes, -⟩⟩ :=
    PlatformImpl.platGetEntropy_of_ok hbuf hread hcall
  · obtain rfl := Option.some.inj (hprevious.symm.trans hprevious')
    exact absurd hsame hne
  · rw [if_neg hvalue, hbytes]

/-- The blocks so far have passed the test, and the platform remembers what the events say. -/
structure EntropyKept (p : PlatformImpl) (events : List EntropyEvent) : Prop where
  tested : Tested events
  remembers : Remembers events p.state.entropy.previousBlock

/-- A callback keeps it. -/
theorem entropyKept_callback {p p' : PlatformImpl} {c : Callback} {events : List EntropyEvent}
    (h : EntropyKept p events) (hstep : c.step p = some p') :
    EntropyKept p' (events ++ c.entropyEvents p) := by
  rcases Callback.entropy_cases hstep with ⟨hnone, hsame⟩ |
    ⟨random, bytes, hanswered, hremembered, hnew⟩
  · rw [hnone, List.append_nil]
    exact ⟨h.tested, hsame ▸ h.remembers⟩
  · rw [hanswered]
    refine ⟨h.tested.concat fun random' bytes' hc hbytes => ?_, ?_⟩
    · obtain ⟨rfl, rfl⟩ := EntropyEvent.answered.inj hc
      obtain ⟨block, previous, hblock, hhanded, hprevious, hne⟩ := hnew hbytes
      have hremembers : Remembers events (some previous) := hprevious ▸ h.remembers
      exact ⟨block, previous, hblock, hhanded, hremembers, hne⟩
    · rw [hremembered]
      exact ⟨events, _, rfl, rfl⟩

/-- A callback that panics delivers nothing. -/
theorem tested_callback {p : PlatformImpl} {c : Callback} {events : List EntropyEvent}
    (h : EntropyKept p events) : Tested (events ++ c.entropyEvents p) := by
  cases hstep : c.step p with
  | some p' => exact (entropyKept_callback h hstep).tested
  | none =>
      rw [Callback.step, Option.map_eq_none_iff] at hstep
      have hempty : c.entropyEvents p = [] := by
        cases c with
        | getEntropy buf random =>
            rw [Callback.call] at hstep
            rw [Callback.entropyEvents, hstep]
        | _ => rfl
      rw [hempty, List.append_nil]
      exact h.tested

/-- A call into the library that returns. -/
theorem entropyKept_callbacks {p p' : PlatformImpl} {cs : List Callback}
    {events : List EntropyEvent} (h : EntropyKept p events)
    (hrun : runFrom Callback.step p cs = some p') :
    EntropyKept p' (events ++ emitted Callback.step Callback.entropyEvents p cs) :=
  emitted_of_step (fun _ _ _ _ hp hstep => entropyKept_callback hp hstep) h hrun

/-- A call into the library that may end in a panic. -/
theorem tested_callbacks {p : PlatformImpl} (cs : List Callback) {events : List EntropyEvent}
    (h : EntropyKept p events) :
    Tested (events ++ emitted Callback.step Callback.entropyEvents p cs) :=
  emitted_good (fun _ _ _ _ hp hstep => entropyKept_callback hp hstep)
    (fun _ _ _ hp => tested_callback hp) h h.tested cs

/-- An event that hands out nothing, after which the platform remembers what it says. -/
theorem EntropyKept.concat {p : PlatformImpl} {events : List EntropyEvent} (h : Tested events)
    {e : EntropyEvent} (he : ∀ random bytes, e ≠ .answered random bytes)
    (hremembered : e.remembered = p.state.entropy.previousBlock) :
    EntropyKept p (events ++ [e]) :=
  ⟨h.concat fun random bytes hc => absurd hc (he random bytes), events, e, rfl, hremembered⟩

/-! ## Runs -/

namespace Process

variable {ι : Type} {B : Build ι} {ρ : Type}

/-- What a use of the crate means for the block remembered. -/
def entropyEvents (codec : Codec) (w : Process B ρ) : Op B ρ → List EntropyEvent
  | .initializePlatform callbacks initKind manufacture tpmInit =>
    if w.platform.isNone ∧ initKind.Valid then
      .forgotten :: emitted Callback.step Callback.entropyEvents (.powerUp callbacks initKind)
        (initializeCallbacks initKind manufacture tpmInit)
    else []
  | .reset withNewNvmemBlob tpmInit =>
    match w.platform with
    | none => []
    | some p =>
      if ∀ blob ∈ withNewNvmemBlob, blob.length = nvMemorySize then
        emitted Callback.step Callback.entropyEvents
          (p.poweredAgain (p.resetRegion withNewNvmemBlob)) tpmInit.callbacks
      else []
  | .executeCommand run =>
    match w.platform with
    | none => []
    | some p => emitted Callback.step Callback.entropyEvents p run.callbacks
  | .restoreState state =>
    match codec.fromBytes state with
    | .error _ => []
    | .ok st => [.restored st.platformState.entropy.previousBlock]
  | .drop => []
  | .saveState => []
  | .setCancelFlag _ => []
  | .setLocality _ => []

/-- The test passed so far, also by the platform in the global. -/
def EntropyTested (w : Process B ρ) (events : List EntropyEvent) : Prop :=
  Tested events ∧ w.Holds fun p => EntropyKept p events

/-- With a platform in the global, one statement says it all. -/
theorem entropyTested_of_some {w : Process B ρ} {p : PlatformImpl} {events : List EntropyEvent}
    (hp : w.platform = some p) (h : EntropyKept p events) : w.EntropyTested events := by
  refine ⟨h.tested, ?_⟩
  rw [holds_some hp]
  exact h

/-- **Step.** -/
theorem entropyTested_step [DecidableEq ι] {lib : TpmLibrary B ρ} {codec : Codec}
    {w w' : Process B ρ} {op : Op B ρ} {events : List EntropyEvent}
    (hw : w.EntropyTested events) (h : w.step lib codec op = some w') :
    w'.EntropyTested (events ++ w.entropyEvents codec op) := by
  cases effect h with
  | @started callbacks initKind _ _ _ _ hnone hvalid hrun hp =>
      rw [entropyEvents, if_pos ⟨Option.isNone_iff_eq_none.mpr hnone, hvalid⟩, List.append_cons]
      refine entropyTested_of_some hp (entropyKept_callbacks ?_ hrun)
      exact .concat hw.1 (by intro _ _ hc; cases hc) rfl
  | refused hrefused =>
      rw [entropyEvents, if_neg fun hc => hrefused (Option.isNone_iff_eq_none.mp hc.1) hc.2,
        List.append_nil]
      exact hw
  | dropped =>
      rw [entropyEvents, List.append_nil]
      exact ⟨hw.1, holds_none _ rfl⟩
  | @poweredAgain withNewNvmemBlob _ p _ _ hp hlen hrun hp' _ =>
      rw [entropyEvents, hp]
      dsimp only
      rw [if_pos fun blob hblob => hlen blob (Option.mem_def.mp hblob)]
      -- a power cycle does not touch the block
      exact entropyTested_of_some hp'
        (entropyKept_callbacks ⟨hw.1, (hw.2 p hp).remembers⟩ hrun)
  | @poweredOff blob _ p hp hlen =>
      rw [entropyEvents, hp]
      dsimp only
      rw [if_neg fun hc => hlen (hc blob rfl), List.append_nil]
      exact entropyTested_of_some rfl ⟨hw.1, (hw.2 p hp).remembers⟩
  | unsent _ hcall =>
      rw [entropyEvents, CommandRun.callbacks_of_none hcall]
      cases w.platform <;> exact (List.append_nil events).symm ▸ hw
  | executed _ _ hp hrun =>
      rw [entropyEvents, hp]
      exact entropyTested_of_some rfl (entropyKept_callbacks (hw.2 _ hp) hrun)
  | saved =>
      rw [entropyEvents, List.append_nil]
      exact hw
  | undecodable hdec =>
      rw [entropyEvents, hdec, List.append_nil]
      exact hw
  | restored hdec _ _ =>
      rw [entropyEvents, hdec]
      exact entropyTested_of_some rfl (.concat hw.1 (by intro _ _ hc; cases hc) rfl)
  | @cancelSet _ p hp =>
      rw [entropyEvents, List.append_nil]
      exact entropyTested_of_some rfl ⟨hw.1, (hw.2 p hp).remembers⟩
  | @localitySet _ p hp =>
      rw [entropyEvents, List.append_nil]
      exact entropyTested_of_some rfl ⟨hw.1, (hw.2 p hp).remembers⟩

/-- A use of the crate that panics has passed the test until then. -/
theorem tested_entropyEvents (codec : Codec) {w : Process B ρ} (op : Op B ρ)
    {events : List EntropyEvent} (hw : w.EntropyTested events) :
    Tested (events ++ w.entropyEvents codec op) := by
  cases op with
  | initializePlatform callbacks initKind manufacture tpmInit =>
      rw [entropyEvents]
      split
      · rw [List.append_cons]
        exact tested_callbacks _ (.concat hw.1 (by intro _ _ hc; cases hc) rfl)
      · rw [List.append_nil]
        exact hw.1
  | reset withNewNvmemBlob tpmInit =>
      rw [entropyEvents]
      cases hp : w.platform with
      | none =>
          rw [List.append_nil]
          exact hw.1
      | some p =>
          dsimp only
          split
          · exact tested_callbacks (p := p.poweredAgain (p.resetRegion withNewNvmemBlob)) _
              ⟨hw.1, (hw.2 p hp).remembers⟩
          · rw [List.append_nil]
            exact hw.1
  | executeCommand run =>
      rw [entropyEvents]
      cases hp : w.platform with
      | none =>
          rw [List.append_nil]
          exact hw.1
      | some p => exact tested_callbacks _ (hw.2 p hp)
  | restoreState state =>
      rw [entropyEvents]
      cases codec.fromBytes state with
      | error e =>
          rw [List.append_nil]
          exact hw.1
      | ok st => exact hw.1.concat fun _ _ hc => (by cases hc)
  | _ =>
      rw [entropyEvents, List.append_nil]
      exact hw.1

/-- The blocks of every run pass the test. -/
theorem tested_run [DecidableEq ι] (lib : TpmLibrary B ρ) (codec : Codec)
    (library : LibraryState B ρ) (ops : List (Op B ρ)) :
    Tested (emitted (step lib codec) (entropyEvents codec) (start library) ops) := by
  have htested : Tested
      ([] ++ emitted (step lib codec) (entropyEvents codec) (start library) ops) :=
    emitted_good (R := fun w events => w.EntropyTested events)
      (fun _ _ _ _ hw hstep => entropyTested_step hw hstep)
      (fun _ op _ hw => tested_entropyEvents codec op hw)
      ⟨tested_nil, holds_none _ rfl⟩ tested_nil ops
  rw [List.nil_append] at htested
  exact htested

/-- A host that gives zeros, one at a time. -/
def zeros : ℕ → RandomAnswer := PlatformImpl.bytewise fun _ => 0

/-- One that counts. -/
def counting : ℕ → RandomAnswer := PlatformImpl.bytewise fun i => UInt8.ofNat i

/-- `_TPM_Init` initializes the entropy source and asks for a block. -/
def seedingRun : LibraryRun miniBuild Unit where
  callbacks := [.getEntropy [] zeros, .getEntropy [9, 9, 9, 9] counting]
  memory := miniMemory
  ret := 0

/-- A cold start with such a `_TPM_Init`. -/
def seedingOps : List (Op miniBuild Unit) :=
  [.initializePlatform { commits := [] } .coldInit coldProcess.silent seedingRun]

/-- The block that is discarded. -/
def zeroBlock : EntropyBlock := fun _ => 0

/-- The block after it. -/
def countingBlock : EntropyBlock := fun i => UInt8.ofNat i

theorem assembles_zeros : EntropyState.Assembles zeros zeroBlock :=
  PlatformImpl.assembles_bytewise fun _ => 0

theorem assembles_counting : EntropyState.Assembles counting countingBlock :=
  PlatformImpl.assembles_bytewise fun i => UInt8.ofNat i

/-- What the cold start means for the block remembered. -/
theorem emitted_seeding :
    emitted (step miniLibrary refusingCodec) (entropyEvents refusingCodec) (start miniMemory)
        seedingOps =
      [.forgotten, .answered zeros [], .answered counting [0, 1, 2, 3]] := by
  have hfirst : Callback.step (.powerUp { commits := [] } .coldInit) (.getEntropy [] zeros) =
        some ((PlatformImpl.powerUp { commits := [] } .coldInit).remembering zeroBlock) :=
    congrArg (Option.map Prod.snd) (PlatformImpl.platGetEntropy_nil_of_ok _
      (EntropyState.readEntropyBlock_of_assembles assembles_zeros))
  have hdiscarded := Callback.entropyEvents_discarded (.powerUp { commits := [] } .coldInit)
    assembles_zeros
  have hne : zeroBlock ≠ countingBlock := fun hc => absurd (congrFun hc ⟨1, by decide⟩) (by decide)
  have hdelivered := Callback.entropyEvents_delivered
    (p := (PlatformImpl.powerUp { commits := [] } .coldInit).remembering zeroBlock)
    (List.cons_ne_nil 9 [9, 9, 9]) rfl assembles_counting hne
  have hcallbacks : emitted Callback.step Callback.entropyEvents
      (.powerUp { commits := [] } .coldInit) seedingRun.callbacks =
        [.answered zeros [], .answered counting [0, 1, 2, 3]] := by
    rw [seedingRun, emitted_cons hfirst, hdiscarded, emitted, hdelivered]
    split <;> rfl
  have hevents : entropyEvents refusingCodec (start miniMemory)
      (.initializePlatform { commits := [] } .coldInit coldProcess.silent seedingRun) =
        [.forgotten, .answered zeros [], .answered counting [0, 1, 2, 3]] := by
    rw [entropyEvents, if_pos ⟨rfl, trivial⟩]
    exact congrArg (List.cons _) hcallbacks
  rw [seedingOps, emitted, hevents]
  split <;> rfl

end Process

end TpmPlatform
