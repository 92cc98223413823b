/-
# What the hooks of `runtime_state.c` do

One inversion lemma for each of the two entry points, so that later files need not
unfold them: either an argument, size or header check ends the call and nothing has
been touched, or the call runs to its end and the result is spelled out.
-/
import TpmPlatform.RuntimeState

namespace TpmPlatform

open Bytes

variable {ι : Type} {B : Build ι} {ρ : Type}

/-! ## `INJECTED_GetRuntimeState` -/

/-- The checks of `INJECTED_GetRuntimeState` pass: there is a buffer, of a sufficient
size. -/
def Build.Offers (B : Build ι) (pBuffer : Option (List UInt8)) (pBufferSize : Option UInt32) :
    Prop :=
  ∃ buf bufferSize, pBuffer = some buf ∧ pBufferSize = some bufferSize ∧
    B.getRuntimeStateSize ≤ bufferSize

/-- **Saving.**  A call that fails a check touches nothing; any other one fills the
buffer. -/
theorem injectedGetRuntimeState_cases {lib : TpmLibrary B ρ} {s : LibraryState B ρ}
    {pBuffer : Option (List UInt8)} {pBufferSize : Option UInt32} {r : GetResult}
    (h : injectedGetRuntimeState lib s pBuffer pBufferSize = some r) :
    (¬ B.Offers pBuffer pBufferSize ∧ r.ret ≠ 0 ∧ r.buffer = pBuffer ∧ r.calls = []) ∨
    (B.Offers pBuffer pBufferSize ∧ r.ret = 0 ∧
      ∃ buf filled saved, poke buf 0 B.header = some filled ∧
        saveVariables lib s B.tpmRuntimeVariables Build.headerSize filled =
          some (saved, r.calls) ∧ r.buffer = some saved) := by
  unfold injectedGetRuntimeState at h
  cases pBufferSize with
  | none =>
      obtain rfl := Option.some.inj h
      refine Or.inl ⟨?_, by simp, rfl, rfl⟩
      rintro ⟨buf, bufferSize, -, hsize, -⟩
      cases hsize
  | some bufferSize =>
      dsimp only at h
      by_cases hnull : (pBuffer.isNone && bufferSize != 0) = true
      · rw [if_pos hnull] at h
        obtain rfl := Option.some.inj h
        refine Or.inl ⟨?_, by simp, rfl, rfl⟩
        rintro ⟨buf, -, rfl, -, -⟩
        cases hnull
      · rw [if_neg hnull] at h
        by_cases hsize : bufferSize < B.getRuntimeStateSize
        · rw [if_pos hsize] at h
          obtain rfl := Option.some.inj h
          refine Or.inl ⟨?_, by simp, rfl, rfl⟩
          rintro ⟨buf, bufferSize', -, hsome, hle⟩
          obtain rfl := Option.some.inj hsome
          exact absurd hsize (UInt32.not_lt.mpr hle)
        · rw [if_neg hsize] at h
          simp only [Option.bind_eq_bind, Option.bind_eq_some_iff, Option.pure_def,
            Option.some.injEq] at h
          obtain ⟨buf, hbuf, filled, hfilled, ⟨saved, calls⟩, hsaved, rfl⟩ := h
          exact Or.inr ⟨⟨buf, bufferSize, hbuf, rfl, UInt32.not_lt.mp hsize⟩, rfl, buf, filled,
            saved, hfilled, hsaved, rfl⟩

/-! ## `INJECTED_ApplyRuntimeState` -/

/-- The size and header checks of `INJECTED_ApplyRuntimeState` pass. -/
structure Build.Accepts (B : Build ι) (blob : List UInt8) (size : UInt32) : Prop where
  size_eq : size = B.getRuntimeStateSize
  headerSize_le : Build.headerSize ≤ blob.length
  header : B.headerMatches blob = true

/-- The state before the import: flushed, overwritten with the blob, the NV index cache
dropped. -/
def LibraryState.overwritten [DecidableEq ι] (lib : TpmLibrary B ρ) (s : LibraryState B ρ)
    (blob : List UInt8) : Option (LibraryState B ρ) :=
  (restoreVariables B.tpmRuntimeVariables (blob.drop Build.headerSize) (s.flushed lib)).map
    fun s => { s with rest := lib.nvIndexCacheInit s.rest }

/-- The result of a call that has passed the checks, from the state before the import. -/
def LibraryState.applyResult (lib : TpmLibrary B ρ) (failure : FailureState)
    (s : LibraryState B ρ) : ApplyResult B ρ where
  ret := if (s.imported lib failure).1 then 0 else 4
  state := (s.imported lib failure).2.1
  failure := (s.imported lib failure).2.2.1
  calls := flushCalls B ++
    (.copyObjects (selectedSlots s.sObjects.toList) :: (s.imported lib failure).2.2.2)

/-- A call that has passed the checks. -/
theorem injectedApplyRuntimeState_of_accepts [DecidableEq ι] {lib : TpmLibrary B ρ}
    {s : LibraryState B ρ} {failure : FailureState} {blob : List UInt8} {size : UInt32}
    (h : B.Accepts blob size) :
    injectedApplyRuntimeState lib s failure (some blob) size =
      (s.overwritten lib blob).map (LibraryState.applyResult lib failure) := by
  unfold injectedApplyRuntimeState LibraryState.overwritten
  dsimp only
  rw [if_neg (not_not.mpr h.size_eq), if_neg (Nat.not_lt.mpr h.headerSize_le),
    if_neg (by rw [h.header]; decide)]
  cases restoreVariables B.tpmRuntimeVariables (blob.drop Build.headerSize) (s.flushed lib) with
  | none => rfl
  | some s₁ => rfl

/-- **Restoring.**  A call that fails a check leaves everything as it was and says so;
any other one ends with the import. -/
theorem injectedApplyRuntimeState_cases [DecidableEq ι] {lib : TpmLibrary B ρ}
    {s : LibraryState B ρ} {failure : FailureState} {pRuntimeStateBuffer : Option (List UInt8)}
    {size : UInt32} {r : ApplyResult B ρ}
    (h : injectedApplyRuntimeState lib s failure pRuntimeStateBuffer size = some r) :
    (r.state = s ∧ r.failure = failure ∧ r.calls = [] ∧
      (pRuntimeStateBuffer = none ∧ r.ret = 1 ∨
        ∃ blob, pRuntimeStateBuffer = some blob ∧ ¬ B.Accepts blob size ∧
          (r.ret = 2 ∧ size ≠ B.getRuntimeStateSize ∨
            r.ret = 3 ∧ size = B.getRuntimeStateSize ∧ B.headerMatches blob = false))) ∨
    ∃ blob s₁, pRuntimeStateBuffer = some blob ∧ B.Accepts blob size ∧
      s.overwritten lib blob = some s₁ ∧ r = s₁.applyResult lib failure := by
  cases pRuntimeStateBuffer with
  | none =>
      obtain rfl := Option.some.inj h
      exact Or.inl ⟨rfl, rfl, rfl, Or.inl ⟨rfl, rfl⟩⟩
  | some blob =>
      by_cases haccepts : B.Accepts blob size
      · rw [injectedApplyRuntimeState_of_accepts haccepts, Option.map_eq_some_iff] at h
        obtain ⟨s₁, hs₁, rfl⟩ := h
        exact Or.inr ⟨blob, s₁, rfl, haccepts, hs₁, rfl⟩
      · left
        unfold injectedApplyRuntimeState at h
        dsimp only at h
        by_cases hsize : size ≠ B.getRuntimeStateSize
        · rw [if_pos hsize] at h
          obtain rfl := Option.some.inj h
          exact ⟨rfl, rfl, rfl, Or.inr ⟨blob, rfl, haccepts, Or.inl ⟨rfl, hsize⟩⟩⟩
        · rw [if_neg hsize] at h
          by_cases hlen : blob.length < Build.headerSize
          · rw [if_pos hlen] at h
            cases h
          · rw [if_neg hlen] at h
            by_cases hheader : B.headerMatches blob = true
            · exact absurd ⟨not_not.mp hsize, Nat.not_lt.mp hlen, hheader⟩ haccepts
            · rw [Bool.not_eq_true] at hheader
              rw [if_pos (by rw [hheader]; rfl)] at h
              obtain rfl := Option.some.inj h
              exact ⟨rfl, rfl, rfl,
                Or.inr ⟨blob, rfl, haccepts, Or.inr ⟨rfl, not_not.mp hsize, hheader⟩⟩⟩

/-! ## The import loop -/

/-- An import that is given up was started outside failure mode and ends in it. -/
theorem importSequenceObjectStates_of_false {lib : TpmLibrary B ρ} {wasInFailureMode : Bool}
    {objects : List B.Object} {slot : ℕ} {st : ImportState ρ}
    (h : (importSequenceObjectStates lib wasInFailureMode objects slot st).1 = false) :
    wasInFailureMode = false ∧
      (importSequenceObjectStates lib wasInFailureMode objects slot st).2.2.1.failure.inFailureMode
        = true := by
  induction objects generalizing slot st with
  | nil => cases h
  | cons object objects ih =>
      unfold importSequenceObjectStates at h ⊢
      by_cases hseq : Build.isOccupiedSequence object
      · rw [if_pos hseq] at h ⊢
        dsimp only at h ⊢
        split_ifs at h ⊢ with hstop
        · rw [Bool.and_eq_true, Bool.not_eq_true'] at hstop
          exact hstop
        · exact ih h
      · rw [if_neg hseq] at h ⊢
        exact ih h

/-! ## The fix-up of SMAC contexts -/

/-- What the fix-up stores in a field of an SMAC context. -/
def TpmLibrary.bound (lib : TpmLibrary B ρ) (old : ℕ) : HashField → ℕ
  | .type => old
  | .hashDef => 0
  | .smacData => lib.cryptCmacData
  | .smacEnd => lib.cryptCmacEnd

@[simp] theorem bound_bound (lib : TpmLibrary B ρ) (old : ℕ) (f : HashField) :
    lib.bound (lib.bound old f) f = lib.bound old f := by
  cases f with
  | type => rfl
  | hashDef => rfl
  | smacData => rfl
  | smacEnd => rfl

/-- The hash state `j` of the object is an SMAC context. -/
def Build.isSmac (object : B.Object) (j : Fin B.layout.hashCount) : Prop :=
  (B.layout.hash j .type).get object = B.hashStateSmac

instance (object : B.Object) (j : Fin B.layout.hashCount) : Decidable (Build.isSmac object j) :=
  inferInstanceAs (Decidable (_ = _))

/-- The fields of a hash state after the fix-up of one. -/
theorem get_rebindHashState (lib : TpmLibrary B ρ) (object : B.Object)
    (i j : Fin B.layout.hashCount) (f : HashField) :
    (B.layout.hash i f).get (rebindHashState lib object j) =
      if i = j ∧ Build.isSmac object i then lib.bound ((B.layout.hash i f).get object) f
      else (B.layout.hash i f).get object := by
  have hother : ∀ (g : HashField) (x : ℕ) (o : B.Object), (i, f) ≠ (j, g) →
      (B.layout.hash i f).get ((B.layout.hash j g).set x o) = (B.layout.hash i f).get o := by
    intro g x o hne
    exact Field.get_set_of_disjoint (B.layout.hash_disjoint i f j g hne) x o
  have hpointer : ∀ (g : HashField) (x : Fin (256 ^ B.layout.pointerWidth)) (o : B.Object),
      g ≠ .type → (B.layout.hash j g).get ((B.layout.hash j g).set x o) = x := by
    intro g x o hg
    apply Field.get_set
    rw [B.layout.pointer_width j g hg]
    exact x.isLt
  have hzero : ∀ o : B.Object,
      (B.layout.hash j .hashDef).get ((B.layout.hash j .hashDef).set 0 o) = 0 := by
    intro o
    exact Field.get_set (Nat.pow_pos (by decide)) o
  unfold rebindHashState
  by_cases hij : i = j
  · subst hij
    by_cases hsmac : (B.layout.hash i .type).get object = B.hashStateSmac
    · have hacts : i = i ∧ Build.isSmac object i := ⟨rfl, hsmac⟩
      rw [if_pos hsmac, if_pos hacts]
      dsimp only
      cases f with
      | type => rw [hother _ _ _ (by simp), hother _ _ _ (by simp), hother _ _ _ (by simp)]; rfl
      | hashDef => rw [hother _ _ _ (by simp), hother _ _ _ (by simp), hzero]; rfl
      | smacData => rw [hother _ _ _ (by simp), hpointer _ _ _ (by simp)]; rfl
      | smacEnd => rw [hpointer _ _ _ (by simp)]; rfl
    · have hacts : ¬ (i = i ∧ Build.isSmac object i) := fun h => hsmac h.2
      rw [if_neg hsmac, if_neg hacts]
  · have hacts : ¬ (i = j ∧ Build.isSmac object i) := fun h => hij h.1
    have hne : ∀ g, (i, f) ≠ (j, g) := fun g heq => hij (Prod.mk.inj heq).1
    rw [if_neg hacts]
    split_ifs
    · rw [hother _ _ _ (hne _), hother _ _ _ (hne _), hother _ _ _ (hne _)]
    · rfl

/-- A field apart from the pointers of the hash states survives the fix-up of one. -/
theorem get_rebindHashState_of_disjoint (lib : TpmLibrary B ρ) (object : B.Object)
    (j : Fin B.layout.hashCount) {f : Field B.sizeofObject}
    (hf : ∀ i g, g ≠ .type → f.Disjoint (B.layout.hash i g)) :
    f.get (rebindHashState lib object j) = f.get object := by
  unfold rebindHashState
  split_ifs
  · rw [Field.get_set_of_disjoint (hf j .smacEnd (by simp)),
      Field.get_set_of_disjoint (hf j .smacData (by simp)),
      Field.get_set_of_disjoint (hf j .hashDef (by simp))]
  · rfl

/-- The loop of fix-ups acts on the SMAC contexts among its hash states. -/
theorem get_foldl_rebindHashState (lib : TpmLibrary B ρ) (js : List (Fin B.layout.hashCount))
    (object : B.Object) (i : Fin B.layout.hashCount) (f : HashField) :
    (B.layout.hash i f).get (js.foldl (rebindHashState lib) object) =
      if i ∈ js ∧ Build.isSmac object i then lib.bound ((B.layout.hash i f).get object) f
      else (B.layout.hash i f).get object := by
  induction js generalizing object with
  | nil =>
      have hnot : ¬ (i ∈ [] ∧ Build.isSmac object i) := fun h => List.not_mem_nil h.1
      rw [List.foldl_nil, if_neg hnot]
  | cons j js ih =>
      -- one fix-up keeps the types, so that the later tests are on the object as it was
      have hsmac : Build.isSmac (rebindHashState lib object j) i ↔ Build.isSmac object i := by
        rw [Build.isSmac, Build.isSmac, get_rebindHashState]
        split_ifs
        · rfl
        · rfl
      rw [List.foldl_cons, ih, get_rebindHashState]
      simp only [hsmac]
      by_cases hij : i = j
      · by_cases hi : Build.isSmac object i
        · have hmem : i ∈ j :: js ∧ Build.isSmac object i := ⟨List.mem_cons.mpr (Or.inl hij), hi⟩
          rw [if_pos (And.intro hij hi), if_pos hmem, bound_bound, ite_self]
        · simp only [hi, and_false, if_false]
      · simp only [hij, List.mem_cons, false_or, false_and, if_false]

/-- The loop leaves fields apart from the pointers alone. -/
theorem get_foldl_rebindHashState_of_disjoint (lib : TpmLibrary B ρ)
    (js : List (Fin B.layout.hashCount)) (object : B.Object) {f : Field B.sizeofObject}
    (hf : ∀ i g, g ≠ .type → f.Disjoint (B.layout.hash i g)) :
    f.get (js.foldl (rebindHashState lib) object) = f.get object := by
  induction js generalizing object with
  | nil => rfl
  | cons j js ih => rw [List.foldl_cons, ih, get_rebindHashState_of_disjoint lib object j hf]

/-- The fix-up of an object acts on the hash state `j`: the object is no ML-DSA
sequence, it uses `j`, and that is an SMAC context. -/
def Build.rebinds (object : B.Object) (j : Fin B.layout.hashCount) : Prop :=
  Build.isMldsaSequence object = false ∧ j.val < Build.hashStateCount object ∧
    Build.isSmac object j

instance (object : B.Object) (j : Fin B.layout.hashCount) : Decidable (Build.rebinds object j) :=
  inferInstanceAs (Decidable (_ ∧ _ ∧ _))

/-- `bound` is `object` with the method pointers of its SMAC contexts replaced by the
local ones, and nothing else changed. -/
structure SmacRebound (lib : TpmLibrary B ρ) (object bound : B.Object) : Prop where
  hashFields : ∀ j f, (B.layout.hash j f).get bound =
    if Build.rebinds object j then lib.bound ((B.layout.hash j f).get object) f
    else (B.layout.hash j f).get object
  others : ∀ f : Field B.sizeofObject, (∀ j g, g ≠ .type → f.Disjoint (B.layout.hash j g)) →
    f.get bound = f.get object

/-- **The fix-up** replaces the method pointers of the SMAC contexts in use. -/
theorem smacRebound_rebindSmac (lib : TpmLibrary B ρ) (object : B.Object) :
    SmacRebound lib object (rebindSmac lib object) := by
  unfold rebindSmac
  cases hmldsa : Build.isMldsaSequence object with
  | true =>
      rw [if_pos rfl]
      refine ⟨fun j f => ?_, fun f _ => rfl⟩
      have hnot : ¬ Build.rebinds object j := by
        rintro ⟨hmldsa', -⟩
        rw [hmldsa] at hmldsa'
        cases hmldsa'
      rw [if_neg hnot]
  | false =>
      rw [if_neg Bool.false_ne_true]
      refine ⟨fun j f => ?_, fun f hf => get_foldl_rebindHashState_of_disjoint lib _ object hf⟩
      rw [get_foldl_rebindHashState]
      simp only [List.mem_filter, List.mem_finRange, true_and, decide_eq_true_eq, Build.rebinds,
        hmldsa]

/-! ## What becomes of a slot -/

/-- What a restore makes of a slot: an occupied sequence is imported and bound, anything
else is left alone. -/
def ImportedSlot (lib : TpmLibrary B ρ) (object object' : B.Object) : Prop :=
  if Build.isOccupiedSequence object then
    ∃ rest, object' = rebindSmac lib (lib.sequenceDataImport object object rest).object
  else object' = object

/-- **The import loop**, when it gets to its end: every slot has been imported and bound,
or left alone. -/
theorem importSequenceObjectStates_of_true {lib : TpmLibrary B ρ} {wasInFailureMode : Bool}
    {objects : List B.Object} {slot : ℕ} {st : ImportState ρ}
    (h : (importSequenceObjectStates lib wasInFailureMode objects slot st).1 = true) :
    List.Forall₂ (ImportedSlot lib) objects
      (importSequenceObjectStates lib wasInFailureMode objects slot st).2.1 := by
  induction objects generalizing slot st with
  | nil => exact List.Forall₂.nil
  | cons object objects ih =>
      unfold importSequenceObjectStates at h ⊢
      by_cases hseq : Build.isOccupiedSequence object = true
      · rw [if_pos hseq] at h ⊢
        dsimp only at h ⊢
        split_ifs at h ⊢ with hstop
        refine List.Forall₂.cons ?_ (ih h)
        rw [ImportedSlot, if_pos hseq]
        exact ⟨st.rest, rfl⟩
      · rw [if_neg hseq] at h ⊢
        refine List.Forall₂.cons ?_ (ih h)
        rw [ImportedSlot, if_neg hseq]

/-- The same for the whole array. -/
theorem imported_slots {lib : TpmLibrary B ρ} {failure : FailureState} {s : LibraryState B ρ}
    (h : (s.imported lib failure).1 = true) (i : Fin B.maxLoadedObjects) :
    ImportedSlot lib (s.sObjects.get i) ((s.imported lib failure).2.1.sObjects.get i) := by
  have hslots := importSequenceObjectStates_of_true h
  rw [List.Vector.get_eq_get_toList, List.Vector.get_eq_get_toList]
  exact hslots.get _ _

/-- **Imports that report nothing** do not end the loop early, whether the platform is in
failure mode or not, and leave the failure state alone. -/
theorem importSequenceObjectStates_of_silent {lib : TpmLibrary B ρ}
    (hsilent : ∀ object staged rest, (lib.sequenceDataImport object staged rest).failures = [])
    {wasInFailureMode : Bool} (objects : List B.Object) (slot : ℕ) (st : ImportState ρ)
    (hfailure : wasInFailureMode = false → st.failure.inFailureMode = false) :
    (importSequenceObjectStates lib wasInFailureMode objects slot st).1 = true ∧
      (importSequenceObjectStates lib wasInFailureMode objects slot st).2.2.1.failure =
        st.failure := by
  induction objects generalizing slot st with
  | nil => exact ⟨rfl, rfl⟩
  | cons object objects ih =>
      unfold importSequenceObjectStates
      by_cases hseq : Build.isOccupiedSequence object = true
      · rw [if_pos hseq]
        have hgoesOn : ¬ (!wasInFailureMode && st.failure.inFailureMode) = true := by
          rw [Bool.and_eq_true, Bool.not_eq_true']
          rintro ⟨hwas, hnow⟩
          rw [hfailure hwas] at hnow
          cases hnow
        dsimp only
        rw [hsilent, List.foldl_nil, if_neg hgoesOn]
        exact ih (slot + 1)
          { rest := (lib.sequenceDataImport object object st.rest).rest, failure := st.failure }
          hfailure
      · rw [if_neg hseq]
        exact ih (slot + 1) st hfailure

end TpmPlatform
