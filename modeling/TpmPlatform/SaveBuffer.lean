/-
# The contract of `INJECTED_GetRuntimeState` (`overrides/src/runtime_state.c`)

The hook takes a pointer to a buffer and a pointer to its size, and either can be null.
`get_runtime_state` calls it with a null buffer and then with one of the reported size;
here is what it does for every pair of arguments, buffers that are too small or longer
than the blob included.

`getRuntimeState_contract` : the hook returns one of three codes, which one is a matter of
the arguments alone; it writes only when it returns 0, and then the image of `StateImage`
and not a byte behind it.
-/
import TpmPlatform.StateImage

namespace TpmPlatform

open Bytes

variable {ι : Type} {B : Build ι} {ρ : Type}

/-- **The loop of a save** does not reach the bytes behind its part of the buffer. -/
theorem saveVariables_append (lib : TpmLibrary B ρ) (s : LibraryState B ρ)
    (vars : List (RuntimeVariable ι))
    (hsize : ∀ v ∈ vars, (B.cbVariableSize v).toNat = B.sizeofVariable v)
    (pre old suf : List UInt8) (hold : old.length = B.variablesSize vars) :
    ∃ calls, saveVariables lib s vars pre.length (pre ++ (old ++ suf)) =
      some (pre ++ (vars.flatMap (s.exported lib).contents ++ suf), calls) := by
  induction vars generalizing pre old with
  | nil =>
      rw [Build.variablesSize_nil, List.length_eq_zero_iff] at hold
      exact ⟨[], by rw [hold]; rfl⟩
  | cons v vars ih =>
      rw [Build.variablesSize_cons] at hold
      have hv := hsize v List.mem_cons_self
      -- the bytes that the variable goes to, and those of the later variables
      obtain ⟨old₁, old₂, rfl, hold₁⟩ : ∃ old₁ old₂, old = old₁ ++ old₂ ∧
          old₁.length = B.sizeofVariable v := by
        refine ⟨old.take (B.sizeofVariable v), old.drop (B.sizeofVariable v),
          (List.take_append_drop _ _).symm, ?_⟩
        rw [List.length_take]
        omega
      have hold₂ : old₂.length = B.variablesSize vars := by
        rw [List.length_append] at hold
        omega
      have hpoke := poke_middle pre old₁ (old₂ ++ suf) (s.contents v)
        (by rw [LibraryState.length_contents, hold₁])
      obtain ⟨exports, hexports⟩ := exportVariable_eq lib s v pre (old₂ ++ suf)
      obtain ⟨calls, hcalls⟩ := ih (fun u hu => hsize u (List.mem_cons_of_mem v hu))
        (pre ++ (s.exported lib).contents v) old₂ hold₂
      rw [List.length_append, LibraryState.length_contents, List.append_assoc,
        List.append_assoc] at hcalls
      have htake : (s.contents v).take (B.sizeofVariable v) = s.contents v :=
        List.take_of_length_le (LibraryState.length_contents s v).le
      refine ⟨exports ++ calls, ?_⟩
      unfold saveVariables
      dsimp only [Option.bind_eq_bind]
      rw [hv, htake, List.append_assoc, hpoke, Option.bind_some, hexports, Option.bind_some,
        hcalls, Option.bind_some, List.flatMap_cons, List.append_assoc]
      rfl

/-- What the hook does with its arguments. -/
structure GetContract (lib : TpmLibrary B ρ) (s : LibraryState B ρ)
    (pBuffer : Option (List UInt8)) (pBufferSize : Option UInt32) (r : GetResult) : Prop where
  /-- The blob is written when there is a buffer for it. -/
  written : r.ret = 0 ↔ ∃ buf size, pBuffer = some buf ∧ pBufferSize = some size ∧
    B.imageSize ≤ size.toNat
  /-- The required size is reported when the buffer is too small, or absent and said to
  be empty. -/
  reported : r.ret = 2 ↔ ∃ size, pBufferSize = some size ∧ size.toNat < B.imageSize ∧
    (pBuffer = none → size = 0)
  /-- Any other pair of arguments is invalid. -/
  invalid : r.ret = 1 ↔ pBufferSize = none ∨ ∃ size, pBuffer = none ∧ pBufferSize = some size ∧
    size ≠ 0
  buffer_written : r.ret = 0 → ∀ buf, pBuffer = some buf →
    r.buffer = some (s.image lib ++ buf.drop B.imageSize)
  buffer_kept : r.ret ≠ 0 → r.buffer = pBuffer
  size_reported : r.ret ≠ 1 → r.bufferSize = some (UInt32.ofNat B.imageSize)
  size_kept : r.ret = 1 → r.bufferSize = pBufferSize

/-- A call into a buffer that is long enough. -/
theorem injectedGetRuntimeState_of_le (lib : TpmLibrary B ρ) (s : LibraryState B ρ)
    (hfits : B.Fits) {buf : List UInt8} {size : UInt32} (hsize : B.imageSize ≤ size.toNat)
    (hbuf : size.toNat ≤ buf.length) :
    ∃ calls, injectedGetRuntimeState lib s (some buf) (some size) =
      some { ret := 0, buffer := some (s.image lib ++ buf.drop B.imageSize)
             bufferSize := some B.getRuntimeStateSize, calls := calls } := by
  -- the header, the variables and what stands behind them
  obtain ⟨head, old, suf, rfl, hhead, hold⟩ : ∃ head old suf, buf = head ++ (old ++ suf) ∧
      head.length = Build.headerSize ∧ old.length = B.variablesSize B.tpmRuntimeVariables := by
    rw [Build.imageSize] at hsize
    refine ⟨buf.take Build.headerSize,
      (buf.drop Build.headerSize).take (B.variablesSize B.tpmRuntimeVariables),
      (buf.drop Build.headerSize).drop (B.variablesSize B.tpmRuntimeVariables), ?_, ?_, ?_⟩
    · rw [List.take_append_drop, List.take_append_drop]
    · rw [List.length_take]
      omega
    · rw [List.length_take, List.length_drop]
      omega
  have hpoke := poke_middle [] head (old ++ suf) B.header (by rw [Build.length_header, hhead])
  rw [List.nil_append, List.nil_append, List.length_nil] at hpoke
  obtain ⟨calls, hcalls⟩ := saveVariables_append lib s B.tpmRuntimeVariables
    (fun v hv => Build.toNat_cbVariableSize hfits hv) B.header old suf hold
  rw [Build.length_header] at hcalls
  have hdrop : (head ++ (old ++ suf)).drop B.imageSize = suf := by
    rw [← List.append_assoc, Build.imageSize, ← hhead, ← hold, ← List.length_append,
      List.drop_left]
  have hnot : ¬ size < B.getRuntimeStateSize := by
    rw [UInt32.lt_iff_toNat_lt, Build.toNat_getRuntimeStateSize hfits]
    omega
  refine ⟨calls, ?_⟩
  unfold injectedGetRuntimeState
  dsimp only [Option.bind_eq_bind]
  rw [if_neg (by simp), if_neg hnot, Option.bind_some, hpoke, Option.bind_some, hcalls, hdrop,
    LibraryState.image, List.append_assoc]
  rfl

/-- **The contract.**  For every build whose blob can be counted in a `uint32_t`, every
memory, every buffer that is as long as its size says, null pointers included: the hook
returns, reads and writes nothing outside the buffer, and does what `GetContract` says. -/
theorem getRuntimeState_contract (hfits : B.Fits) (lib : TpmLibrary B ρ) (s : LibraryState B ρ)
    (pBuffer : Option (List UInt8)) (pBufferSize : Option UInt32)
    (hvalid : ∀ buf size, pBuffer = some buf → pBufferSize = some size →
      size.toNat ≤ buf.length) :
    ∃ r, injectedGetRuntimeState lib s pBuffer pBufferSize = some r ∧
      GetContract lib s pBuffer pBufferSize r := by
  have hpos : 0 < B.imageSize := by
    rw [Build.imageSize, Build.headerSize]
    omega
  have hrequired : B.getRuntimeStateSize = UInt32.ofNat B.imageSize := by
    rw [← Build.toNat_getRuntimeStateSize hfits, UInt32.ofNat_toNat]
  have hlt : ∀ size : UInt32, size < B.getRuntimeStateSize ↔ size.toNat < B.imageSize := by
    intro size
    rw [UInt32.lt_iff_toNat_lt, Build.toNat_getRuntimeStateSize hfits]
  cases pBufferSize with
  | none =>
      refine ⟨_, rfl, ?_⟩
      constructor <;> simp
  | some size =>
      by_cases hsize : B.imageSize ≤ size.toNat
      · -- the buffer is large enough, if it is not null
        have hne : size ≠ 0 := by
          rintro rfl
          rw [UInt32.toNat_zero] at hsize
          omega
        cases pBuffer with
        | none =>
            refine ⟨{ ret := 1, buffer := none, bufferSize := some size, calls := [] }, ?_, ?_⟩
            · unfold injectedGetRuntimeState
              dsimp only
              rw [if_pos (by simp [hne])]
            · constructor <;> simp [hne]
        | some buf =>
            obtain ⟨calls, hcalls⟩ :=
              injectedGetRuntimeState_of_le lib s hfits hsize (hvalid buf size rfl rfl)
            refine ⟨_, hcalls, ?_⟩
            constructor <;> simp [hsize, hrequired, Nat.not_lt.mpr hsize]
      · have hsmall : size.toNat < B.imageSize := Nat.not_le.mp hsize
        by_cases hnull : pBuffer = none ∧ size ≠ 0
        · obtain ⟨rfl, hne⟩ := hnull
          refine ⟨{ ret := 1, buffer := none, bufferSize := some size, calls := [] }, ?_, ?_⟩
          · unfold injectedGetRuntimeState
            dsimp only
            rw [if_pos (by simp [hne])]
          · constructor <;> simp [hne]
        · refine ⟨{ ret := 2, buffer := pBuffer, bufferSize := some B.getRuntimeStateSize
                    calls := [] }, ?_, ?_⟩
          · unfold injectedGetRuntimeState
            dsimp only
            have hoffered : ¬ (pBuffer.isNone && size != 0) = true := by
              rw [Bool.and_eq_true, Option.isNone_iff_eq_none, bne_iff_ne]
              exact hnull
            rw [if_neg hoffered, if_pos ((hlt size).mpr hsmall)]
          · rw [not_and, not_not] at hnull
            constructor
            · simp [hsize]
            · simpa [hsmall] using hnull
            · simpa using hnull
            · simp
            · simp
            · simp [hrequired]
            · simp

/-- In the miniature build, a buffer of 60 bytes gets the blob in front of the four bytes
that are left. -/
theorem getRuntimeState_contract_longBuffer :
    ∃ r, injectedGetRuntimeState miniLibrary miniMemory (some (List.replicate 60 7)) (some 60) =
        some r ∧ r.buffer = some (miniMemory.image miniLibrary ++ [7, 7, 7, 7]) := by
  obtain ⟨r, hr, hcontract⟩ := getRuntimeState_contract (by decide) miniLibrary miniMemory
    (some (List.replicate 60 7)) (some 60) (by
      intro buf size hbuf hsize
      obtain rfl := Option.some.inj hbuf
      obtain rfl := Option.some.inj hsize
      decide)
  refine ⟨r, hr, ?_⟩
  have hzero : r.ret = 0 := hcontract.written.mpr ⟨_, 60, rfl, rfl, by decide⟩
  exact hcontract.buffer_written hzero _ rfl

end TpmPlatform
