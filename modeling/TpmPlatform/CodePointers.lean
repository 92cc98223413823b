/-
# No code pointers from a blob

A saved SMAC context carries the method pointers of the process that saved it, and
`SequenceDataImport` restores them as they are.  `ImportSequenceObjectStates` overwrites
them afterwards, in the slots and hash states that it takes for SMAC contexts in use; it
tests the attributes, the scheme and the hash types that the restored slot has.

`restored_pointers_local` : whatever the blob holds, after a restore that returns 0 no
sequence object uses an SMAC context with other method pointers than those of this
process, and a slot that is no occupied sequence holds the bytes of the blob.
-/
import TpmPlatform.StateImage

namespace TpmPlatform

open Bytes

variable {ι : Type} {B : Build ι} {ρ : Type}

/-- Copying bytes over the start of `s_objects` splices them into its contents. -/
theorem contents_store_sObjects [DecidableEq ι] (s : LibraryState B ρ) {bytes : List UInt8}
    (h : bytes.length ≤ B.sizeofVariable .sObjects) :
    (s.store bytes .sObjects).contents .sObjects = splice (s.contents .sObjects) 0 bytes := by
  have hlen : (splice (s.contents .sObjects) 0 bytes).length =
      B.maxLoadedObjects * B.sizeofObject := by
    rw [length_splice (by rw [LibraryState.length_contents, Nat.zero_add]; exact h),
      LibraryState.length_contents, Build.sizeofVariable]
  show (List.Vector.ofFn _).toList.flatMap List.Vector.toList = _
  rw [List.Vector.toList_ofFn, Raw.flatMap_read _ (le_of_eq hlen.symm), ← hlen, List.take_length]

/-! ## Where the blob keeps `s_objects` -/

/-- The size of the variables before `s_objects`. -/
def Build.sizeBeforeObjects (B : Build ι) : List (RuntimeVariable ι) → ℕ
  | [] => 0
  | .sObjects :: _ => 0
  | .global v :: vars => (B.cbVariableSize (.global v)).toNat + B.sizeBeforeObjects vars

/-- The offset of `s_objects` in a blob. -/
def Build.objectsOffset (B : Build ι) : ℕ :=
  Build.headerSize + B.sizeBeforeObjects B.tpmRuntimeVariables

/-- The copy loop leaves the object slots alone once they have been copied. -/
theorem restoreVariables_of_not_mem [DecidableEq ι] {vars : List (RuntimeVariable ι)}
    {bytes : List UInt8} {s s' : LibraryState B ρ} (hmem : .sObjects ∉ vars)
    (h : restoreVariables vars bytes s = some s') : s'.sObjects = s.sObjects := by
  induction vars generalizing bytes s with
  | nil =>
      obtain rfl := Option.some.inj h
      rfl
  | cons v vars ih =>
      rw [List.mem_cons, not_or] at hmem
      unfold restoreVariables at h
      dsimp only at h
      split_ifs at h with hsize
      rw [ih hmem.2 h]
      cases v with
      | global v => rfl
      | sObjects => exact absurd rfl hmem.1

/-- The copy loop takes the object slots from the blob. -/
theorem restoreVariables_sObjects [DecidableEq ι] {vars : List (RuntimeVariable ι)}
    {bytes : List UInt8} {s s' : LibraryState B ρ} (hmem : .sObjects ∈ vars) (hnodup : vars.Nodup)
    (h : restoreVariables vars bytes s = some s') (k : ℕ)
    (hk : k < (B.cbVariableSize .sObjects).toNat) :
    (s'.contents .sObjects)[k]? = bytes[B.sizeBeforeObjects vars + k]? := by
  induction vars generalizing bytes s with
  | nil => cases hmem
  | cons v vars ih =>
      rw [List.nodup_cons] at hnodup
      unfold restoreVariables at h
      dsimp only at h
      split_ifs at h with hsize
      cases v with
      | global v =>
          have hrest : .sObjects ∈ vars := (List.mem_cons.mp hmem).resolve_left (by simp)
          rw [ih hrest hnodup.2 h, Build.sizeBeforeObjects, List.getElem?_drop, Nat.add_assoc]
      | sObjects =>
          -- this is the copy, and no later one reaches the slots
          have htake : (bytes.take (B.cbVariableSize .sObjects).toNat).length =
              (B.cbVariableSize .sObjects).toNat := by
            rw [List.length_take]
            exact Nat.min_eq_left hsize
          have hfits : (bytes.take (B.cbVariableSize .sObjects).toNat).length ≤
              B.sizeofVariable .sObjects := by
            rw [htake, Build.cbVariableSize, UInt32.toNat_ofNat']
            exact Nat.mod_le _ _
          have hsame : s'.contents .sObjects =
              (s.store (bytes.take (B.cbVariableSize .sObjects).toNat) .sObjects).contents
                .sObjects := by
            rw [LibraryState.contents, LibraryState.contents,
              restoreVariables_of_not_mem hnodup.1 h]
          rw [hsame, contents_store_sObjects s hfits, getElem?_splice
            (by rw [LibraryState.length_contents, Nat.zero_add]; exact hfits),
            if_pos ⟨Nat.zero_le _, by rw [htake]; omega⟩, List.getElem?_take, Nat.sub_zero,
            if_pos hk, Build.sizeBeforeObjects, Nat.zero_add]

/-! ## What the loop goes by -/

/-- Two objects that the import loop treats alike: the same attributes, scheme and hash
types. -/
structure SameDispatch (object object' : B.Object) : Prop where
  attributes_eq : B.layout.attributes.get object' = B.layout.attributes.get object
  signScheme_eq : B.layout.signScheme.get object' = B.layout.signScheme.get object
  type_eq : ∀ j, (B.layout.hash j .type).get object' = (B.layout.hash j .type).get object

namespace SameDispatch

variable {object object' object'' : B.Object}

theorem refl (object : B.Object) : SameDispatch object object := ⟨rfl, rfl, fun _ => rfl⟩

theorem trans (h : SameDispatch object object') (h' : SameDispatch object' object'') :
    SameDispatch object object'' where
  attributes_eq := h'.attributes_eq.trans h.attributes_eq
  signScheme_eq := h'.signScheme_eq.trans h.signScheme_eq
  type_eq j := (h'.type_eq j).trans (h.type_eq j)

theorem isMldsaSequence_eq (h : SameDispatch object object') :
    Build.isMldsaSequence object' = Build.isMldsaSequence object := by
  unfold Build.isMldsaSequence Build.attributeBit
  rw [h.attributes_eq, h.signScheme_eq]

theorem hashStateCount_eq (h : SameDispatch object object') :
    Build.hashStateCount object' = Build.hashStateCount object := by
  unfold Build.hashStateCount Build.attributeBit
  rw [h.attributes_eq]

end SameDispatch

/-- The fix-up changes nothing that the loop goes by. -/
theorem sameDispatch_rebindSmac (lib : TpmLibrary B ρ) (object : B.Object) :
    SameDispatch object (rebindSmac lib object) where
  attributes_eq := (smacRebound_rebindSmac lib object).others _
    fun i g _ => B.layout.attributes_disjoint i g
  signScheme_eq := (smacRebound_rebindSmac lib object).others _
    fun i g _ => B.layout.signScheme_disjoint i g
  type_eq j := by
    rw [(smacRebound_rebindSmac lib object).hashFields j .type]
    split_ifs
    · rfl
    · rfl

/-- `SequenceDataImport` leaves attributes, scheme and hash types as they are. -/
def TpmLibrary.ImportKeepsDispatch (lib : TpmLibrary B ρ) : Prop :=
  ∀ object staged rest, SameDispatch object (lib.sequenceDataImport object staged rest).object

/-- The hash state `j` of the object has the methods of this process, if it is an SMAC
context. -/
def LocalMethods (lib : TpmLibrary B ρ) (object : B.Object) (j : Fin B.layout.hashCount) : Prop :=
  Build.isSmac object j →
    (B.layout.hash j .hashDef).get object = 0 ∧
    (B.layout.hash j .smacData).get object = lib.cryptCmacData ∧
    (B.layout.hash j .smacEnd).get object = lib.cryptCmacEnd

/-- After the fix-up the contexts in use have the methods of this process. -/
theorem localMethods_rebindSmac (lib : TpmLibrary B ρ) {object : B.Object}
    (hmldsa : Build.isMldsaSequence (rebindSmac lib object) = false)
    {j : Fin B.layout.hashCount} (hj : j.val < Build.hashStateCount (rebindSmac lib object)) :
    LocalMethods lib (rebindSmac lib object) j := by
  have hsame := sameDispatch_rebindSmac lib object
  have hfields := (smacRebound_rebindSmac lib object).hashFields j
  intro hsmac
  have hrebinds : Build.rebinds object j := by
    refine ⟨hsame.isMldsaSequence_eq ▸ hmldsa, hsame.hashStateCount_eq ▸ hj, ?_⟩
    rw [Build.isSmac, ← hsame.type_eq j]
    exact hsmac
  simp only [if_pos hrebinds] at hfields
  exact ⟨hfields .hashDef, hfields .smacData, hfields .smacEnd⟩

/-! ## The result -/

/-- What a restore makes of a slot of the blob. -/
structure RestoredSlot (lib : TpmLibrary B ρ) (object object' : B.Object) : Prop where
  dispatch : SameDispatch object object'
  local_methods : Build.isOccupiedSequence object' = true → Build.isMldsaSequence object' = false →
    ∀ j : Fin B.layout.hashCount, j.val < Build.hashStateCount object' →
      LocalMethods lib object' j
  unchanged : Build.isOccupiedSequence object = false → object' = object

/-- A slot that has been imported and bound, or left alone. -/
theorem restoredSlot_of_importedSlot {lib : TpmLibrary B ρ} (hkeeps : lib.ImportKeepsDispatch)
    {object object' : B.Object} (h : ImportedSlot lib object object') :
    RestoredSlot lib object object' := by
  unfold ImportedSlot at h
  by_cases hseq : Build.isOccupiedSequence object = true
  · rw [if_pos hseq] at h
    obtain ⟨rest, rfl⟩ := h
    refine ⟨(hkeeps object object rest).trans (sameDispatch_rebindSmac lib _), ?_, ?_⟩
    · intro _ hmldsa j hj
      exact localMethods_rebindSmac lib hmldsa hj
    · intro hnot
      rw [hseq] at hnot
      cases hnot
  · rw [if_neg hseq] at h
    subst h
    exact ⟨.refl _, fun hc => absurd hc hseq, fun _ => rfl⟩

/-- **Restored pointers are local.**  For every blob for which
`INJECTED_ApplyRuntimeState` returns 0, whatever its bytes: the copy has filled the object
slots from the blob, and each slot is as `RestoredSlot` says, its SMAC contexts in use
with the methods of this process, and untouched if it is no occupied sequence. -/
theorem restored_pointers_local [DecidableEq ι] (lib : TpmLibrary B ρ) (s : LibraryState B ρ)
    (failure : FailureState) (blob : List UInt8) (size : UInt32) (r : ApplyResult B ρ)
    (hkeeps : lib.ImportKeepsDispatch)
    (h : injectedApplyRuntimeState lib s failure (some blob) size = some r) (hret : r.ret = 0) :
    ∃ copied : List.Vector B.Object B.maxLoadedObjects,
      (∀ k < (B.cbVariableSize .sObjects).toNat,
        (copied.toList.flatMap List.Vector.toList)[k]? = blob[B.objectsOffset + k]?) ∧
      ∀ i, RestoredSlot lib (copied.get i) (r.state.sObjects.get i) := by
  rcases injectedApplyRuntimeState_cases h with
    ⟨-, -, -, ⟨hnull, -⟩ | ⟨-, -, -, ⟨htwo, -⟩ | ⟨hthree, -⟩⟩⟩ |
      ⟨blob', s₁, hblob, -, hs₁, rfl⟩
  · cases hnull
  -- a refused blob does not return 0
  · exact absurd (hret.symm.trans htwo) (by decide)
  · exact absurd (hret.symm.trans hthree) (by decide)
  · obtain rfl := Option.some.inj hblob
    refine ⟨s₁.sObjects, fun k hk => ?_, fun i => ?_⟩
    · rw [LibraryState.overwritten, Option.map_eq_some_iff] at hs₁
      obtain ⟨s₀, hs₀, rfl⟩ := hs₁
      have hbytes := restoreVariables_sObjects B.sObjects_mem B.nodup hs₀ k hk
      rw [List.getElem?_drop, ← Nat.add_assoc] at hbytes
      exact hbytes
    · have hok : (s₁.imported lib failure).1 = true := by
        rw [LibraryState.applyResult] at hret
        by_contra hfalse
        rw [if_neg hfalse] at hret
        have hfour : (4 : ℤ) = 0 := hret
        exact absurd hfour (by decide)
      exact restoredSlot_of_importedSlot hkeeps (imported_slots hok i)

/-- A blob of the miniature build with an SMAC sign sequence in the first slot, whose
method pointers are 5 and 6. -/
def pointerBlob : List UInt8 :=
  miniBuild.header ++ List.replicate 24 0 ++ [3, 0, 2, 1, 5, 6] ++ List.replicate 10 0

/-- Its restore puts the local pointers in their place. -/
theorem restored_pointers_local_sequence :
    ∃ r, injectedApplyRuntimeState miniLibrary miniMemory .new (some pointerBlob) 56 = some r ∧
      LocalMethods miniLibrary (r.state.sObjects.get ⟨0, by decide⟩) ⟨0, by decide⟩ := by
  obtain ⟨copied, -, hslots⟩ := restored_pointers_local miniLibrary miniMemory .new pointerBlob 56
    _ (fun object _ _ => .refl object) rfl rfl
  exact ⟨_, rfl, (hslots ⟨0, by decide⟩).local_methods (by decide) (by decide) ⟨0, by decide⟩
    (by decide)⟩

end TpmPlatform
