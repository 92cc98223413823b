/-
# The saved image of the library's memory

`INJECTED_GetRuntimeState` and `INJECTED_ApplyRuntimeState` walk the table of saved
variables with running offsets that are computed apart.  Here both are reduced to one
description of the blob, `LibraryState.image`: the header, then the variables in the
order of the table, with every occupied sequence object in exported form.

`injectedGetRuntimeState_null` / `injectedGetRuntimeState_image` : the size query
reports the length of the image, and the second call writes the image;
`restoreVariables_image` : reading the image back gives every variable of the table.

All of this is for tables whose image can be counted in a `uint32_t` (`Build.Fits`).
-/
import TpmPlatform.Platform
import TpmPlatform.RuntimeStateSteps

namespace TpmPlatform

open Bytes

variable {ι : Type} {B : Build ι} {ρ : Type}

/-! ## The size of the blob -/

namespace Build

/-- The bytes of a list of variables. -/
def variablesSize (B : Build ι) (vars : List (RuntimeVariable ι)) : ℕ :=
  (vars.map B.sizeofVariable).sum

@[simp] theorem variablesSize_nil : B.variablesSize [] = 0 := rfl

@[simp] theorem variablesSize_cons (v : RuntimeVariable ι) (vars : List (RuntimeVariable ι)) :
    B.variablesSize (v :: vars) = B.sizeofVariable v + B.variablesSize vars := rfl

/-- The length of the blob. -/
def imageSize (B : Build ι) : ℕ := headerSize + B.variablesSize B.tpmRuntimeVariables

/-- The length of the blob is a `uint32_t`. -/
def Fits (B : Build ι) : Prop := B.imageSize < 2 ^ 32

instance (B : Build ι) : Decidable B.Fits := inferInstanceAs (Decidable (_ < _))

/-- One variable is no longer than all of them. -/
theorem sizeofVariable_le {v : RuntimeVariable ι} {vars : List (RuntimeVariable ι)}
    (h : v ∈ vars) : B.sizeofVariable v ≤ B.variablesSize vars := by
  induction vars with
  | nil => cases h
  | cons u vars ih =>
      rw [variablesSize_cons]
      rcases List.mem_cons.mp h with rfl | h
      · exact Nat.le_add_right _ _
      · exact (ih h).trans (Nat.le_add_left _ _)

/-- The sizes in the table are exact. -/
theorem toNat_cbVariableSize (hfits : B.Fits) {v : RuntimeVariable ι}
    (hv : v ∈ B.tpmRuntimeVariables) : (B.cbVariableSize v).toNat = B.sizeofVariable v := by
  have hle := B.sizeofVariable_le hv
  rw [cbVariableSize, UInt32.toNat_ofNat', Nat.mod_eq_of_lt]
  rw [Fits, imageSize] at hfits
  omega

/-- The loop of `GetRuntimeStateSize`. -/
theorem toNat_foldl_cbVariableSize (vars : List (RuntimeVariable ι))
    (hsize : ∀ v ∈ vars, (B.cbVariableSize v).toNat = B.sizeofVariable v) (totalSize : UInt32)
    (h : totalSize.toNat + B.variablesSize vars < 2 ^ 32) :
    (vars.foldl (fun totalSize v => totalSize + B.cbVariableSize v) totalSize).toNat =
      totalSize.toNat + B.variablesSize vars := by
  induction vars generalizing totalSize with
  | nil => rfl
  | cons v vars ih =>
      have hv := hsize v List.mem_cons_self
      rw [variablesSize_cons] at h
      have hadd : (totalSize + B.cbVariableSize v).toNat =
          totalSize.toNat + B.sizeofVariable v := by
        rw [UInt32.toNat_add, hv, Nat.mod_eq_of_lt (by omega)]
      rw [List.foldl_cons, ih (fun u hu => hsize u (List.mem_cons_of_mem v hu)) _
        (by rw [hadd]; omega), hadd, variablesSize_cons, Nat.add_assoc]

/-- `GetRuntimeStateSize` does not wrap around. -/
theorem toNat_getRuntimeStateSize (hfits : B.Fits) :
    B.getRuntimeStateSize.toNat = B.imageSize := by
  have hbound : headerSize + B.variablesSize B.tpmRuntimeVariables < 2 ^ 32 := hfits
  have hfold := B.toNat_foldl_cbVariableSize B.tpmRuntimeVariables
    (fun v hv => toNat_cbVariableSize hfits hv) 0
    (by rw [UInt32.toNat_zero]; omega)
  have hheader : (UInt32.ofNat headerSize).toNat = headerSize := rfl
  rw [getRuntimeStateSize, UInt32.toNat_add, hfold, hheader, UInt32.toNat_zero, Nat.zero_add,
    Nat.mod_eq_of_lt (by omega), imageSize, Nat.add_comm]

/-- A table without repetitions has at most one variable that takes up no bytes. -/
theorem length_le_variablesSize (vars : List (RuntimeVariable ι)) (h : vars.Nodup) :
    vars.length ≤ B.variablesSize vars + 1 ∧
      (.sObjects ∉ vars → vars.length ≤ B.variablesSize vars) := by
  induction vars with
  | nil => exact ⟨Nat.zero_le _, fun _ => Nat.zero_le _⟩
  | cons v vars ih =>
      obtain ⟨hnot, hnodup⟩ := List.nodup_cons.mp h
      obtain ⟨hle, hle'⟩ := ih hnodup
      rw [variablesSize_cons, List.length_cons]
      cases v with
      -- only `s_objects` may take up no bytes, and it stands in the table once
      | global v =>
          have hpos : 0 < B.sizeofVariable (.global v) := B.sizeof_pos v
          refine ⟨by omega, fun hobjects => ?_⟩
          have := hle' fun hmem => hobjects (List.mem_cons_of_mem _ hmem)
          omega
      | sObjects =>
          have := hle' hnot
          exact ⟨by omega, fun hobjects => absurd List.mem_cons_self hobjects⟩

/-! ## The header -/

theorem length_header : B.header.length = headerSize := by
  rw [header, List.length_append, List.length_append, length_toLE, length_toLE, length_toLE,
    headerSize]

/-- The header that a save writes passes the checks of a restore. -/
theorem headerMatches_header (hfits : B.Fits) (rest : List UInt8) :
    B.headerMatches (B.header ++ rest) = true := by
  have hcount : B.tpmRuntimeVariables.length < 256 ^ 4 := by
    have hle := (B.length_le_variablesSize B.tpmRuntimeVariables B.nodup).1
    have hbound : headerSize + B.variablesSize B.tpmRuntimeVariables < 2 ^ 32 := hfits
    rw [headerSize] at hbound
    omega
  have hmagic : window (B.header ++ rest) 0 8 = toLE 8 headerMagic := by
    have h := window_middle [] (toLE 8 headerMagic)
      (toLE 4 runtimeStateRevision ++ toLE 4 B.tpmRuntimeVariables.length ++ rest)
    rw [length_toLE] at h
    rw [header, List.append_assoc]
    exact h
  have hrevision : window (B.header ++ rest) 8 4 = toLE 4 runtimeStateRevision := by
    have h := window_middle (toLE 8 headerMagic) (toLE 4 runtimeStateRevision)
      (toLE 4 B.tpmRuntimeVariables.length ++ rest)
    rw [length_toLE, length_toLE] at h
    rw [header, List.append_assoc, List.append_assoc]
    exact h
  have hlength : window (B.header ++ rest) 12 4 = toLE 4 B.tpmRuntimeVariables.length := by
    have h := window_middle (toLE 8 headerMagic ++ toLE 4 runtimeStateRevision)
      (toLE 4 B.tpmRuntimeVariables.length) rest
    rw [List.length_append, length_toLE, length_toLE, length_toLE] at h
    rw [header, ← List.append_assoc, List.append_assoc]
    exact h
  rw [headerMatches, hmagic, hrevision, hlength, ofLE_toLE (by decide), ofLE_toLE (by decide),
    ofLE_toLE hcount, beq_self_eq_true, beq_self_eq_true, beq_self_eq_true, Bool.and_self,
    Bool.and_self]

end Build

/-! ## The variables -/

namespace LibraryState

/-- A variable takes up its `sizeof`. -/
@[simp] theorem length_contents (s : LibraryState B ρ) (v : RuntimeVariable ι) :
    (s.contents v).length = B.sizeofVariable v := by
  cases v with
  | global v => exact (s.globals v).toList_length
  | sObjects =>
      rw [contents, Raw.length_flatMap_toList, List.Vector.toList_length, Build.sizeofVariable]

theorem length_flatMap_contents (s : LibraryState B ρ) (vars : List (RuntimeVariable ι)) :
    (vars.flatMap s.contents).length = B.variablesSize vars := by
  induction vars with
  | nil => rfl
  | cons v vars ih =>
      rw [List.flatMap_cons, List.length_append, length_contents, ih, Build.variablesSize_cons]

/-- Two memories hold the same in a variable. -/
def AgreesOn (s src : LibraryState B ρ) : RuntimeVariable ι → Prop
  | .global v => s.globals v = src.globals v
  | .sObjects => s.sObjects = src.sObjects

theorem AgreesOn.contents_eq {s src : LibraryState B ρ} {v : RuntimeVariable ι}
    (h : s.AgreesOn src v) : s.contents v = src.contents v := by
  cases v with
  | global v => exact congrArg List.Vector.toList h
  | sObjects =>
      have h : s.sObjects = src.sObjects := h
      rw [contents, contents, h]

/-- Copying the bytes of a variable to that variable gives the variable. -/
theorem agreesOn_store [DecidableEq ι] (s src : LibraryState B ρ) (v : RuntimeVariable ι) :
    (s.store (src.contents v) v).AgreesOn src v := by
  cases v with
  | global v =>
      have hlen : (src.globals v).toList.length = (s.globals v).toList.length := by
        rw [List.Vector.toList_length, List.Vector.toList_length]
      have hread := Raw.read_middle [] [] (src.globals v)
      rw [List.append_nil, List.nil_append, List.length_nil] at hread
      show Function.update s.globals v _ v = _
      rw [Function.update_self, contents, splice_all hlen, hread]
  | sObjects =>
      have hlen : (src.contents .sObjects).length = (s.contents .sObjects).length := by
        rw [length_contents, length_contents]
      show List.Vector.ofFn _ = _
      rw [splice_all hlen]
      apply List.Vector.ext
      intro i
      rw [List.Vector.get_ofFn, contents,
        Raw.read_flatMap _ _ (by rw [List.Vector.toList_length]; exact i.isLt)]
      rfl

/-- It leaves the other variables alone. -/
theorem AgreesOn.store_of_ne [DecidableEq ι] {s src : LibraryState B ρ} {u v : RuntimeVariable ι}
    (h : s.AgreesOn src u) (hne : u ≠ v) (bytes : List UInt8) :
    (s.store bytes v).AgreesOn src u := by
  cases v with
  | global v =>
      cases u with
      | global u =>
          have huv : u ≠ v := fun heq => hne (congrArg RuntimeVariable.global heq)
          show Function.update s.globals v _ u = _
          rw [Function.update_of_ne huv]
          exact h
      | sObjects => exact h
  | sObjects =>
      cases u with
      | global u => exact h
      | sObjects => exact absurd rfl hne

end LibraryState

/-! ## Saving -/

/-- A slot in the blob: an occupied sequence in exported form, anything else as it is. -/
def exportSlot (lib : TpmLibrary B ρ) (object : B.Object) : B.Object :=
  if Build.isOccupiedSequence object then lib.sequenceDataExport object object else object

namespace LibraryState

/-- The memory as the blob shows it. -/
def exported (lib : TpmLibrary B ρ) (s : LibraryState B ρ) : LibraryState B ρ :=
  { s with sObjects := s.sObjects.map (exportSlot lib) }

/-- The blob: the header and the variables. -/
def image (lib : TpmLibrary B ρ) (s : LibraryState B ρ) : List UInt8 :=
  B.header ++ B.tpmRuntimeVariables.flatMap (s.exported lib).contents

@[simp] theorem length_image (lib : TpmLibrary B ρ) (s : LibraryState B ρ) :
    (s.image lib).length = B.imageSize := by
  rw [image, List.length_append, Build.length_header, length_flatMap_contents, Build.imageSize]

end LibraryState

/-- **The export loop** rewrites the images of the slots, wherever they stand in the
buffer, and nothing around them. -/
theorem exportSequenceObjectStates_eq (lib : TpmLibrary B ρ) (objects : List B.Object) (slot : ℕ)
    (pre suf : List UInt8) :
    ∃ calls, exportSequenceObjectStates lib objects slot pre.length
        (pre ++ (objects.flatMap List.Vector.toList ++ suf)) =
      some (pre ++ ((objects.map (exportSlot lib)).flatMap List.Vector.toList ++ suf), calls) := by
  induction objects generalizing slot pre with
  | nil => exact ⟨[], rfl⟩
  | cons object objects ih =>
      -- the images of the later slots start after that of the first one
      have hoff : ∀ o : B.Object, pre.length + B.sizeofObject = (pre ++ o.toList).length := by
        intro o
        rw [List.length_append, List.Vector.toList_length]
      have hrest : ∀ o : B.Object, ∃ calls,
          exportSequenceObjectStates lib objects (slot + 1) (pre.length + B.sizeofObject)
            (pre ++ (o.toList ++ (objects.flatMap List.Vector.toList ++ suf))) =
          some (pre ++ (o.toList ++
            ((objects.map (exportSlot lib)).flatMap List.Vector.toList ++ suf)), calls) := by
        intro o
        obtain ⟨calls, hcalls⟩ := ih (slot + 1) (pre ++ o.toList)
        rw [← hoff, List.append_assoc, List.append_assoc] at hcalls
        exact ⟨calls, hcalls⟩
      unfold exportSequenceObjectStates
      rw [List.map_cons, List.flatMap_cons, List.flatMap_cons, List.append_assoc,
        List.append_assoc, exportSlot]
      by_cases hseq : Build.isOccupiedSequence object = true
      · rw [if_pos hseq, if_pos hseq]
        have hpoke := poke_middle pre object.toList (objects.flatMap List.Vector.toList ++ suf)
          (lib.sequenceDataExport object object).toList
          (by rw [List.Vector.toList_length, List.Vector.toList_length])
        obtain ⟨calls, hcalls⟩ := hrest (lib.sequenceDataExport object object)
        refine ⟨.sequenceDataExport slot :: calls, ?_⟩
        dsimp only [Option.bind_eq_bind]
        rw [hpoke, Option.bind_some, hcalls, Option.bind_some]
        rfl
      · rw [if_neg hseq, if_neg hseq]
        exact hrest object

/-- What is done about one variable after its `memcpy`. -/
theorem exportVariable_eq (lib : TpmLibrary B ρ) (s : LibraryState B ρ) (v : RuntimeVariable ι)
    (pre suf : List UInt8) :
    ∃ calls, exportVariable lib s pre.length (pre ++ (s.contents v ++ suf)) v =
      some (pre ++ ((s.exported lib).contents v ++ suf), calls) := by
  cases v with
  | global v => exact ⟨[], rfl⟩
  | sObjects =>
      obtain ⟨calls, hcalls⟩ := exportSequenceObjectStates_eq lib s.sObjects.toList 0 pre suf
      refine ⟨calls, ?_⟩
      rw [exportVariable, LibraryState.contents, hcalls, LibraryState.contents,
        LibraryState.exported, List.Vector.toList_map]

/-- **The loop of a save** fills its part of the buffer with the variables. -/
theorem saveVariables_eq (lib : TpmLibrary B ρ) (s : LibraryState B ρ)
    (vars : List (RuntimeVariable ι))
    (hsize : ∀ v ∈ vars, (B.cbVariableSize v).toNat = B.sizeofVariable v)
    (pre old : List UInt8) (hold : old.length = B.variablesSize vars) :
    ∃ calls, saveVariables lib s vars pre.length (pre ++ old) =
      some (pre ++ vars.flatMap (s.exported lib).contents, calls) := by
  induction vars generalizing pre old with
  | nil =>
      rw [Build.variablesSize_nil, List.length_eq_zero_iff] at hold
      exact ⟨[], by rw [hold]; rfl⟩
  | cons v vars ih =>
      rw [Build.variablesSize_cons] at hold
      have hv := hsize v List.mem_cons_self
      -- the bytes that the variable goes to, and those of the later variables
      have hold₁ : (old.take (B.sizeofVariable v)).length = B.sizeofVariable v := by
        rw [List.length_take]
        omega
      have hold₂ : (old.drop (B.sizeofVariable v)).length = B.variablesSize vars := by
        rw [List.length_drop]
        omega
      have hpoke := poke_middle pre (old.take (B.sizeofVariable v))
        (old.drop (B.sizeofVariable v)) (s.contents v)
        (by rw [LibraryState.length_contents, hold₁])
      rw [List.take_append_drop] at hpoke
      obtain ⟨exports, hexports⟩ :=
        exportVariable_eq lib s v pre (old.drop (B.sizeofVariable v))
      obtain ⟨calls, hcalls⟩ := ih (fun u hu => hsize u (List.mem_cons_of_mem v hu))
        (pre ++ (s.exported lib).contents v) (old.drop (B.sizeofVariable v)) hold₂
      rw [List.length_append, LibraryState.length_contents, List.append_assoc,
        List.append_assoc] at hcalls
      have htake : (s.contents v).take (B.sizeofVariable v) = s.contents v :=
        List.take_of_length_le (LibraryState.length_contents s v).le
      refine ⟨exports ++ calls, ?_⟩
      unfold saveVariables
      dsimp only [Option.bind_eq_bind]
      rw [hv, htake, hpoke, Option.bind_some, hexports, Option.bind_some, hcalls,
        Option.bind_some, List.flatMap_cons]
      rfl

/-- **The size query** reports the length of the image. -/
theorem injectedGetRuntimeState_null (lib : TpmLibrary B ρ) (s : LibraryState B ρ)
    (hfits : B.Fits) :
    injectedGetRuntimeState lib s none (some 0) =
        some { ret := 2, buffer := none, bufferSize := some B.getRuntimeStateSize, calls := [] } ∧
      B.getRuntimeStateSize ≠ 0 := by
  have hpos : (0 : UInt32) < B.getRuntimeStateSize := by
    rw [UInt32.lt_iff_toNat_lt, Build.toNat_getRuntimeStateSize hfits, UInt32.toNat_zero,
      Build.imageSize, Build.headerSize]
    omega
  constructor
  · unfold injectedGetRuntimeState
    dsimp only
    rw [if_neg (by decide), if_pos hpos]
  · intro hzero
    rw [hzero] at hpos
    exact absurd hpos (by decide)

/-- **The second call**, into a buffer of the reported size, writes the image. -/
theorem injectedGetRuntimeState_image (lib : TpmLibrary B ρ) (s : LibraryState B ρ)
    (hfits : B.Fits) (buf : List UInt8) (hbuf : buf.length = B.getRuntimeStateSize.toNat) :
    ∃ calls, injectedGetRuntimeState lib s (some buf) (some B.getRuntimeStateSize) =
      some { ret := 0, buffer := some (s.image lib), bufferSize := some B.getRuntimeStateSize
             calls := calls } := by
  rw [Build.toNat_getRuntimeStateSize hfits, Build.imageSize] at hbuf
  have hold₁ : (buf.take Build.headerSize).length = Build.headerSize := by
    rw [List.length_take]
    omega
  have hold₂ : (buf.drop Build.headerSize).length = B.variablesSize B.tpmRuntimeVariables := by
    rw [List.length_drop]
    omega
  have hpoke := poke_middle [] (buf.take Build.headerSize) (buf.drop Build.headerSize) B.header
    (by rw [Build.length_header, hold₁])
  rw [List.take_append_drop, List.nil_append, List.nil_append, List.length_nil] at hpoke
  obtain ⟨calls, hcalls⟩ := saveVariables_eq lib s B.tpmRuntimeVariables
    (fun v hv => Build.toNat_cbVariableSize hfits hv) B.header (buf.drop Build.headerSize) hold₂
  rw [Build.length_header] at hcalls
  refine ⟨calls, ?_⟩
  unfold injectedGetRuntimeState
  dsimp only [Option.bind_eq_bind]
  rw [if_neg (by simp), if_neg (UInt32.lt_irrefl _), Option.bind_some, hpoke, Option.bind_some,
    hcalls]
  rfl

/-- `get_runtime_state` returns the image: none of its assertions fails. -/
theorem getRuntimeState_eq_image (lib : TpmLibrary B ρ) (s : LibraryState B ρ)
    (hfits : B.Fits) : s.getRuntimeState lib = some (s.image lib) := by
  obtain ⟨hnull, hne⟩ := injectedGetRuntimeState_null lib s hfits
  obtain ⟨calls, hcalls⟩ := injectedGetRuntimeState_image lib s hfits
    (List.replicate B.getRuntimeStateSize.toNat 0) List.length_replicate
  unfold LibraryState.getRuntimeState
  dsimp only [Option.bind_eq_bind]
  rw [hnull, Option.bind_some, Option.bind_some, if_pos ⟨rfl, hne⟩, hcalls, Option.bind_some,
    if_pos rfl]

/-! ## Restoring -/

/-- **The loop of a restore** gives each of its variables what the bytes were taken
from, and keeps what was right before. -/
theorem restoreVariables_image [DecidableEq ι] (src : LibraryState B ρ)
    (vars : List (RuntimeVariable ι))
    (hsize : ∀ v ∈ vars, (B.cbVariableSize v).toNat = B.sizeofVariable v)
    (s : LibraryState B ρ) :
    ∃ s', restoreVariables vars (vars.flatMap src.contents) s = some s' ∧
      ∀ v, (v ∈ vars ∨ s.AgreesOn src v) → s'.AgreesOn src v := by
  induction vars generalizing s with
  | nil =>
      refine ⟨s, rfl, ?_⟩
      rintro v (hv | hv)
      · cases hv
      · exact hv
  | cons v vars ih =>
      have hv : (B.cbVariableSize v).toNat = (src.contents v).length := by
        rw [hsize v List.mem_cons_self, LibraryState.length_contents]
      obtain ⟨s', hs', hagrees⟩ := ih (fun u hu => hsize u (List.mem_cons_of_mem v hu))
        (s.store (src.contents v) v)
      refine ⟨s', ?_, ?_⟩
      · unfold restoreVariables
        dsimp only
        rw [List.flatMap_cons, hv, if_pos (by rw [List.length_append]; omega), List.drop_left,
          List.take_left, hs']
      · -- `v` agrees once it is stored, and the later copies leave it alone
        intro u hu
        apply hagrees
        by_cases huv : u = v
        · right
          rw [huv]
          exact s.agreesOn_store src v
        · rcases hu with hu | hu
          · exact Or.inl ((List.mem_cons.mp hu).resolve_left huv)
          · exact Or.inr (hu.store_of_ne huv _)

/-- An image passes the checks of a restore. -/
theorem accepts_image (lib : TpmLibrary B ρ) (s : LibraryState B ρ) (hfits : B.Fits) :
    B.Accepts (s.image lib) (UInt32.ofNat (s.image lib).length) where
  size_eq := by
    rw [LibraryState.length_image, ← Build.toNat_getRuntimeStateSize hfits, UInt32.ofNat_toNat]
  headerSize_le := by
    rw [LibraryState.length_image, Build.imageSize]
    exact Nat.le_add_right _ _
  header := Build.headerMatches_header hfits _

/-- **Overwriting with an image** gives every variable of the table, as the blob shows
it. -/
theorem overwritten_image [DecidableEq ι] (source destination : TpmLibrary B ρ)
    (s t : LibraryState B ρ) (hfits : B.Fits) :
    ∃ t₁, t.overwritten destination (s.image source) = some t₁ ∧
      ∀ v ∈ B.tpmRuntimeVariables, t₁.AgreesOn (s.exported source) v := by
  obtain ⟨t₀, ht₀, hagrees⟩ := restoreVariables_image (s.exported source) B.tpmRuntimeVariables
    (fun v hv => Build.toNat_cbVariableSize hfits hv) (t.flushed destination)
  have hdrop : (s.image source).drop Build.headerSize =
      B.tpmRuntimeVariables.flatMap (s.exported source).contents := by
    rw [LibraryState.image, ← B.length_header, List.drop_left]
  refine ⟨{ t₀ with rest := destination.nvIndexCacheInit t₀.rest }, ?_, ?_⟩
  · rw [LibraryState.overwritten, hdrop, ht₀, Option.map_some]
  · intro v hv
    have hv₀ := hagrees v (Or.inl hv)
    cases v with
    | global v => exact hv₀
    | sObjects => exact hv₀

end TpmPlatform
