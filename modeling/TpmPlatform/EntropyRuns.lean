/-
# The continuous RNG test (`plat/api/entropy.rs`)

What `_plat__GetEntropy` makes of whatever the host's `get_crypt_random` answers.

`Assembles` : the counted bytes of the first few answers, one after the other, are a
block; this is what the loop of `read_entropy_block` decides, within four calls
(`readEntropyBlock_spec`).  `ContinuousTest` is the test as a machine of its own: it
remembers one block, and it delivers from a freshly assembled block that differs from
it.  `getEntropy_tested` : after a first call that was accepted, every sequence of calls
goes through, and their replies are a run of this machine from the discarded block.
-/
import TpmPlatform.PlatApi

namespace TpmPlatform

open Bytes

/-! ## Assembling a block -/

/-- The bytes of an answer that the host says are random. -/
def RandomAnswer.counted (answer : RandomAnswer) : List UInt8 :=
  match answer.returned with
  | .ok returned => (List.range returned).map answer.bytes
  | .error _ => []

/-- The answer counts at least one byte. -/
def RandomAnswer.Counts (answer : RandomAnswer) : Prop :=
  ∃ returned, answer.returned = .ok returned ∧ returned ≠ 0

namespace EntropyState

/-- The counted bytes of the first `calls` answers. -/
def countedBytes (random : ℕ → RandomAnswer) (calls : ℕ) : List UInt8 :=
  (List.range calls).flatMap fun i => (random i).counted

/-- One answer more. -/
theorem countedBytes_succ (random : ℕ → RandomAnswer) (calls : ℕ) :
    countedBytes random (calls + 1) = countedBytes random calls ++ (random calls).counted := by
  rw [countedBytes, List.range_succ, List.flatMap_append, List.flatMap_singleton, countedBytes]

/-- More answers do not count fewer bytes. -/
theorem length_countedBytes_mono (random : ℕ → RandomAnswer) {m n : ℕ} (h : m ≤ n) :
    (countedBytes random m).length ≤ (countedBytes random n).length := by
  induction n, h using Nat.le_induction with
  | base => exact le_rfl
  | succ n _ ih =>
      rw [countedBytes_succ, List.length_append]
      exact ih.trans (Nat.le_add_right _ _)

/-- The answers of the host make up the block: the first few of them each count at
least one byte, and together they count its bytes. -/
def Assembles (random : ℕ → RandomAnswer) (block : EntropyBlock) : Prop :=
  ∃ calls, (∀ i < calls, (random i).Counts) ∧ List.ofFn block = countedBytes random calls

/-- What the loop of `read_entropy_block` has done after `calls` calls. -/
structure Assembling (random : ℕ → RandomAnswer) (block : EntropyBlock) (written calls : ℕ) :
    Prop where
  written_le : written ≤ entropyBlockSize
  calls_le : calls ≤ written
  counts : ∀ i < calls, (random i).Counts
  bytes : (List.ofFn block).take written = countedBytes random calls

/-- So many bytes have been counted. -/
theorem Assembling.length_countedBytes {random : ℕ → RandomAnswer} {block : EntropyBlock}
    {written calls : ℕ} (h : Assembling random block written calls) :
    (countedBytes random calls).length = written := by
  rw [← h.bytes, List.length_take, List.length_ofFn]
  exact Nat.min_eq_left h.written_le

/-- The answer to call number `calls` ends the loop: an error, or a count of no bytes or
of more than were asked for. -/
def Spoils (random : ℕ → RandomAnswer) (calls : ℕ) : Prop :=
  (countedBytes random calls).length < entropyBlockSize ∧
    ∀ returned, (random calls).returned = .ok returned →
      returned = 0 ∨ entropyBlockSize - (countedBytes random calls).length < returned

/-- The block after an answer that is accepted. -/
theorem take_patched {block : EntropyBlock} {written returned : ℕ} (bytes : ℕ → UInt8)
    (h : written + returned ≤ entropyBlockSize) :
    (List.ofFn fun i : Fin entropyBlockSize =>
        if written ≤ i.val then bytes (i.val - written) else block i).take (written + returned) =
      (List.ofFn block).take written ++ (List.range returned).map bytes := by
  have hlen : ((List.ofFn block).take written).length = written := by
    rw [List.length_take, List.length_ofFn]
    omega
  apply List.ext_getElem?
  intro i
  rw [List.getElem?_take]
  by_cases hi : i < written
  · have hsize : i < entropyBlockSize := by omega
    rw [if_pos (by omega), List.getElem?_append_left (by omega), List.getElem?_take, if_pos hi,
      List.getElem?_ofFn, List.getElem?_ofFn, dif_pos hsize, dif_pos hsize,
      if_neg (Nat.not_le.mpr hi)]
  · rw [List.getElem?_append_right (by omega), hlen]
    by_cases hin : i < written + returned
    · have hsize : i < entropyBlockSize := by omega
      rw [if_pos hin, List.getElem?_ofFn, dif_pos hsize, if_pos (Nat.not_lt.mp hi),
        List.getElem?_map, List.getElem?_range (by omega), Option.map_some]
    · rw [if_neg hin, List.getElem?_eq_none]
      rw [List.length_map, List.length_range]
      omega

/-- **The loop**: it ends, within as many calls as there are bytes to write, with a block
that the answers make up or at an answer that spoils it. -/
theorem readEntropyLoop_spec (random : ℕ → RandomAnswer) (block : EntropyBlock)
    (written calls : ℕ) (h : Assembling random block written calls) :
    (∃ block' calls', readEntropyLoop random block written calls = (.ok block', calls') ∧
      Assembling random block' entropyBlockSize calls') ∨
    ∃ e calls', readEntropyLoop random block written calls = (.error e, calls' + 1) ∧
      calls' < entropyBlockSize ∧ (∀ i < calls', (random i).Counts) ∧ Spoils random calls' := by
  induction block, written, calls using readEntropyLoop.induct random with
  | case1 block written calls hlt answer e hanswer =>
      right
      refine ⟨.platformCallback e, calls, ?_, by have := h.calls_le; omega, h.counts,
        by rw [h.length_countedBytes]; exact hlt, ?_⟩
      · rw [readEntropyLoop, if_pos hlt]
        dsimp only
        rw [hanswer]
      · intro returned hreturned
        rw [hanswer] at hreturned
        cases hreturned
  | case2 block written calls hlt requested answer returned hanswer hbad =>
      right
      refine ⟨.invalidEntropyCallbackLength requested returned, calls, ?_,
        by have := h.calls_le; omega, h.counts, by rw [h.length_countedBytes]; exact hlt, ?_⟩
      · rw [readEntropyLoop, if_pos hlt]
        dsimp only
        rw [hanswer]
        dsimp only
        rw [dif_pos hbad]
      · intro returned' hreturned
        rw [hanswer, Except.ok.injEq] at hreturned
        subst hreturned
        rw [h.length_countedBytes]
        exact hbad
  | case3 block written calls hlt requested answer block' returned hanswer hgood ih =>
      rw [readEntropyLoop, if_pos hlt]
      dsimp only
      rw [hanswer]
      dsimp only
      rw [dif_neg hgood]
      rw [not_or] at hgood
      obtain ⟨hpos, hfits⟩ := hgood
      have hsum : written + returned ≤ entropyBlockSize := by omega
      apply ih
      -- the invariant after an accepted answer
      refine ⟨hsum, by have := h.calls_le; omega, ?_, ?_⟩
      · intro i hi
        rcases Nat.lt_succ_iff_lt_or_eq.mp hi with hi | rfl
        · exact h.counts i hi
        · exact ⟨returned, hanswer, hpos⟩
      · rw [countedBytes_succ, ← h.bytes, RandomAnswer.counted, hanswer]
        exact take_patched _ hsum
  | case4 block written calls hge =>
      left
      have hwritten : written = entropyBlockSize := by
        have := h.written_le
        omega
      refine ⟨block, calls, ?_, hwritten ▸ h⟩
      rw [readEntropyLoop, if_neg hge]

/-- The loop asks for nothing beyond the fourth answer. -/
theorem readEntropyLoop_congr {random random' : ℕ → RandomAnswer}
    (h : ∀ i < entropyBlockSize, random i = random' i) (block : EntropyBlock)
    (written calls : ℕ) (hle : calls ≤ written) :
    readEntropyLoop random block written calls = readEntropyLoop random' block written calls := by
  induction block, written, calls using readEntropyLoop.induct random with
  | case1 block written calls hlt answer e hanswer =>
      rw [readEntropyLoop, readEntropyLoop, if_pos hlt, if_pos hlt, ← h calls (by omega)]
      dsimp only
      rw [hanswer]
  | case2 block written calls hlt requested answer returned hanswer hbad =>
      rw [readEntropyLoop, readEntropyLoop, if_pos hlt, if_pos hlt, ← h calls (by omega)]
      dsimp only
      rw [hanswer]
      dsimp only
      rw [dif_pos hbad, dif_pos hbad]
  | case3 block written calls hlt requested answer block' returned hanswer hgood ih =>
      rw [readEntropyLoop, readEntropyLoop, if_pos hlt, if_pos hlt, ← h calls (by omega)]
      dsimp only
      rw [hanswer]
      dsimp only
      rw [dif_neg hgood, dif_neg hgood]
      -- an accepted answer counts at least one byte, so the calls stay behind the bytes
      refine ih ?_
      rw [not_or] at hgood
      omega
  | case4 block written calls hge =>
      rw [readEntropyLoop, readEntropyLoop, if_neg hge, if_neg hge]

/-- **`read_entropy_block`** ends within four calls, with the block that the answers
make up, or with an error at an answer that spoils it. -/
theorem readEntropyBlock_spec (random : ℕ → RandomAnswer) :
    (readEntropyBlock random).2 ≤ entropyBlockSize ∧
    ((∃ block, (readEntropyBlock random).1 = .ok block ∧ Assembles random block) ∨
      ∃ e, (readEntropyBlock random).1 = .error e ∧ ∀ block, ¬ Assembles random block) := by
  have hstart : Assembling random (fun _ => 0) 0 0 :=
    ⟨Nat.zero_le _, le_rfl, fun i hi => absurd hi (Nat.not_lt_zero i), rfl⟩
  rcases readEntropyLoop_spec random _ 0 0 hstart with
    ⟨block, calls, hrun, hblock⟩ | ⟨e, calls, hrun, hcalls, -, hspoils⟩
  · rw [readEntropyBlock, hrun]
    refine ⟨hblock.calls_le, Or.inl ⟨block, rfl, calls, hblock.counts, ?_⟩⟩
    rw [← hblock.bytes, List.take_of_length_le (le_of_eq List.length_ofFn)]
  · rw [readEntropyBlock, hrun]
    refine ⟨hcalls, Or.inr ⟨e, rfl, ?_⟩⟩
    rintro block ⟨n, hcounts, hbytes⟩
    obtain ⟨hlt, hbad⟩ := hspoils
    have hlength : (countedBytes random n).length = entropyBlockSize := by
      rw [← hbytes, List.length_ofFn]
    -- the answer that spoils the block is one of those that make it up
    have hmem : calls < n := by
      by_contra hge
      have := length_countedBytes_mono random (Nat.not_lt.mp hge)
      omega
    obtain ⟨returned, hreturned, hpos⟩ := hcounts calls hmem
    have hmono := length_countedBytes_mono random (Nat.succ_le_of_lt hmem)
    rw [countedBytes_succ, List.length_append, RandomAnswer.counted, hreturned, List.length_map,
      List.length_range] at hmono
    rcases hbad returned hreturned with hzero | hover
    · exact hpos hzero
    · omega

end EntropyState

/-! ## The test as a machine -/

/-- A call of `_plat__GetEntropy`: the caller's buffer, as long as the amount asked for,
and the answers of the host. -/
structure EntropyRequest where
  buf : List UInt8
  random : ℕ → RandomAnswer

/-- **One call**, for a machine that remembers the block `previous`: the reply, and the
block remembered afterwards.  A request for no bytes replaces the block and delivers
nothing; any other one delivers from a new block that differs from it; and a call is
refused only when the answers make up no block or the same one again. -/
inductive ContinuousTest (previous : EntropyBlock) (r : EntropyRequest) :
    Reply → EntropyBlock → Prop
  | initialized (block : EntropyBlock) (hempty : r.buf = [])
      (hfresh : EntropyState.Assembles r.random block) :
      ContinuousTest previous r { value := 0, buffer := [] } block
  | delivered (block : EntropyBlock) (hnonempty : r.buf ≠ [])
      (hfresh : EntropyState.Assembles r.random block) (hdiffers : block ≠ previous) :
      ContinuousTest previous r
        { value := (min r.buf.length entropyBlockSize : ℕ)
          buffer := (List.ofFn block).take (min r.buf.length entropyBlockSize) ++
            r.buf.drop (min r.buf.length entropyBlockSize) } block
  | refused (hrefused : (∀ block, ¬ EntropyState.Assembles r.random block) ∨
        r.buf ≠ [] ∧ EntropyState.Assembles r.random previous) :
      ContinuousTest previous r { value := -1, buffer := r.buf } previous

/-- A run of the machine: the requests, the replies, and the block at the end. -/
inductive TestRun : EntropyBlock → List EntropyRequest → List Reply → EntropyBlock → Prop
  | nil (block : EntropyBlock) : TestRun block [] [] block
  | cons {previous block last : EntropyBlock} {r : EntropyRequest} {rs : List EntropyRequest}
      {reply : Reply} {replies : List Reply} (hcall : ContinuousTest previous r reply block)
      (hrest : TestRun block rs replies last) :
      TestRun previous (r :: rs) (reply :: replies) last

namespace PlatformImpl

/-- The platform with `block` as the block remembered. -/
def remembering (p : PlatformImpl) (block : EntropyBlock) : PlatformImpl :=
  { p with state := { p.state with entropy := { previousBlock := some block } } }

/-- A platform that remembers the block already. -/
theorem remembering_of_previous {p : PlatformImpl} {block : EntropyBlock}
    (h : p.state.entropy.previousBlock = some block) : p.remembering block = p := by
  obtain ⟨callbacks, cancel, clock, failure, locality, nvmem, power, ⟨previousBlock⟩⟩ := p
  obtain rfl : previousBlock = some block := h
  rfl

/-- **A call for no bytes** initializes the source, whatever was remembered. -/
theorem platGetEntropy_nil (p : PlatformImpl) (random : ℕ → RandomAnswer) :
    (∃ block, EntropyState.Assembles random block ∧
      p.platGetEntropy [] random = some ({ value := 0, buffer := [] }, p.remembering block)) ∨
    (∀ block, ¬ EntropyState.Assembles random block) ∧
      p.platGetEntropy [] random = some ({ value := -1, buffer := [] }, p) := by
  unfold platGetEntropy EntropyState.initializeEntropy
  rw [if_pos List.length_nil]
  rcases (EntropyState.readEntropyBlock_spec random).2 with
    ⟨block, hread, hblock⟩ | ⟨e, hread, hnone⟩
  · left
    rw [hread]
    exact ⟨block, hblock, rfl⟩
  · right
    rw [hread]
    exact ⟨hnone, rfl⟩

/-- Copying to the start of a buffer. -/
theorem splice_zero (buf bytes : List UInt8) :
    splice buf 0 bytes = bytes ++ buf.drop bytes.length := by
  rw [splice, List.take_zero, List.nil_append, Nat.zero_add]

/-- **One call** of the platform is one call of the machine, and changes nothing but the
block remembered. -/
theorem platGetEntropy_tested {p : PlatformImpl} {previous : EntropyBlock}
    (h : p.state.entropy.previousBlock = some previous) (r : EntropyRequest) :
    ∃ reply block, p.platGetEntropy r.buf r.random = some (reply, p.remembering block) ∧
      ContinuousTest previous r reply block := by
  obtain ⟨buf, random⟩ := r
  by_cases hbuf : buf = []
  · subst hbuf
    rcases p.platGetEntropy_nil random with ⟨block, hblock, hcall⟩ | ⟨hnone, hcall⟩
    · exact ⟨_, block, hcall, .initialized block rfl hblock⟩
    · refine ⟨_, previous, ?_, .refused (Or.inl hnone)⟩
      rw [hcall, remembering_of_previous h]
  · have hlength : buf.length ≠ 0 := fun hc => hbuf (List.length_eq_zero_iff.mp hc)
    have hsome : p.state.entropy.previousBlock.isSome = true := by
      rw [h]
      rfl
    unfold platGetEntropy EntropyState.getEntropy
    rw [if_neg hlength, if_pos hsome, Option.map_some]
    rcases (EntropyState.readEntropyBlock_spec random).2 with
      ⟨block, hread, hblock⟩ | ⟨e, hread, hnone⟩
    · rw [hread, h]
      by_cases hsame : block = previous
      · -- the same block again
        subst hsame
        refine ⟨_, block, ?_, .refused (Or.inr ⟨hbuf, hblock⟩)⟩
        dsimp only
        rw [if_pos rfl, remembering_of_previous h]
      · refine ⟨_, block, ?_, .delivered block hbuf hblock hsame⟩
        have hnew : ¬ some previous = some block := fun hc => hsame (Option.some.inj hc).symm
        have htake : ((List.ofFn block).take (min buf.length entropyBlockSize)).length =
            min buf.length entropyBlockSize := by
          rw [List.length_take, List.length_ofFn]
          omega
        dsimp only
        rw [if_neg hnew, splice_zero, htake]
        rfl
    · rw [hread]
      refine ⟨_, previous, ?_, .refused (Or.inl hnone)⟩
      rw [remembering_of_previous h]

/-- The calls one after the other: the replies and the platform at the end; `none` if a
call panics. -/
def entropyCalls (p : PlatformImpl) : List EntropyRequest → Option (List Reply × PlatformImpl)
  | [] => some ([], p)
  | r :: rs =>
    (p.platGetEntropy r.buf r.random).bind fun (reply, p) =>
      (entropyCalls p rs).map fun (replies, p) => (reply :: replies, p)

/-- **One call** depends on the first four answers of the host only. -/
theorem platGetEntropy_congr (p : PlatformImpl) (buf : List UInt8)
    {random random' : ℕ → RandomAnswer} (h : ∀ i < entropyBlockSize, random i = random' i) :
    p.platGetEntropy buf random = p.platGetEntropy buf random' := by
  have hread : EntropyState.readEntropyBlock random = EntropyState.readEntropyBlock random' :=
    EntropyState.readEntropyLoop_congr h _ 0 0 le_rfl
  unfold platGetEntropy EntropyState.initializeEntropy EntropyState.getEntropy
  rw [hread]

/-- **Runs** of calls are runs of the machine. -/
theorem entropyCalls_tested {p : PlatformImpl} {previous : EntropyBlock}
    (h : p.state.entropy.previousBlock = some previous) (rs : List EntropyRequest) :
    ∃ replies last, p.entropyCalls rs = some (replies, p.remembering last) ∧
      TestRun previous rs replies last := by
  induction rs generalizing p previous with
  | nil =>
      refine ⟨[], previous, ?_, .nil previous⟩
      rw [entropyCalls, remembering_of_previous h]
  | cons r rs ih =>
      obtain ⟨reply, block, hcall, htest⟩ := platGetEntropy_tested h r
      obtain ⟨replies, last, hcalls, hrun⟩ := ih (p := p.remembering block) rfl
      refine ⟨reply :: replies, last, ?_, .cons htest hrun⟩
      rw [entropyCalls, hcall, Option.bind_some]
      dsimp only
      rw [hcalls]
      rfl

/-- **The continuous RNG test.**  However the host answers: each call asks it at most
four times, and what the call does and replies depends on no later answer; and once a call
for no bytes has returned 0, every sequence of calls goes through without a panic, its
replies are those of the machine that starts from the block that this first call discarded,
and nothing else of the platform changes. -/
theorem getEntropy_tested (p p₀ : PlatformImpl) (random₀ : ℕ → RandomAnswer) (reply₀ : Reply)
    (requests : List EntropyRequest)
    (hfirst : p.platGetEntropy [] random₀ = some (reply₀, p₀)) (hzero : reply₀.value = 0) :
    (∀ random, (EntropyState.readEntropyBlock random).2 ≤ entropyBlockSize) ∧
    (∀ (q : PlatformImpl) buf random random', (∀ i < entropyBlockSize, random i = random' i) →
      q.platGetEntropy buf random = q.platGetEntropy buf random') ∧
    ∃ first replies last, EntropyState.Assembles random₀ first ∧ reply₀.buffer = [] ∧
      p₀.entropyCalls requests = some (replies, p.remembering last) ∧
      TestRun first requests replies last := by
  refine ⟨fun random => (EntropyState.readEntropyBlock_spec random).1,
    fun q buf _ _ h => q.platGetEntropy_congr buf h, ?_⟩
  rcases p.platGetEntropy_nil random₀ with ⟨first, hblock, hcall⟩ | ⟨-, hcall⟩
  · rw [hcall] at hfirst
    obtain ⟨rfl, rfl⟩ := Prod.mk.inj (Option.some.inj hfirst)
    obtain ⟨replies, last, hcalls, hrun⟩ :=
      entropyCalls_tested (p := p.remembering first) rfl requests
    exact ⟨first, replies, last, hblock, rfl, hcalls, hrun⟩
  · -- a failed first call does not return 0
    rw [hcall] at hfirst
    obtain ⟨rfl, -⟩ := Prod.mk.inj (Option.some.inj hfirst)
    exact absurd hzero (by decide)

/-- A host that answers one byte at a time. -/
def bytewise (byte : ℕ → UInt8) (call : ℕ) : RandomAnswer where
  bytes _ := byte call
  returned := .ok 1

/-- Its answers make up a block. -/
theorem assembles_bytewise (byte : ℕ → UInt8) :
    EntropyState.Assembles (bytewise byte) (fun i => byte i) :=
  ⟨4, fun _ _ => ⟨1, rfl, one_ne_zero⟩, rfl⟩

/-- Two bytes are asked for, then the host repeats itself. -/
theorem getEntropy_tested_bytewise :
    ∃ p₀ : PlatformImpl, ∃ first replies last,
      p₀.entropyCalls [⟨[9, 9], bytewise fun i => UInt8.ofNat i⟩,
        ⟨[9], bytewise fun i => UInt8.ofNat i⟩] =
          some (replies, (PlatformImpl.new { commits := [] }).remembering last) ∧
      TestRun first [⟨[9, 9], bytewise fun i => UInt8.ofNat i⟩,
        ⟨[9], bytewise fun i => UInt8.ofNat i⟩] replies last := by
  rcases (PlatformImpl.new { commits := [] }).platGetEntropy_nil (bytewise fun _ => 0) with
    ⟨block, -, hcall⟩ | ⟨hnone, -⟩
  · obtain ⟨-, -, first, replies, last, -, -, hcalls, hrun⟩ :=
      getEntropy_tested _ _ _ _ _ hcall rfl
    exact ⟨_, first, replies, last, hcalls, hrun⟩
  · exact absurd (assembles_bytewise fun _ => 0) (hnone _)

end PlatformImpl

end TpmPlatform
