/-
# Saving and restoring the library's globals (`overrides/src/runtime_state.c`)

The C hooks that pack the TPM library's global variables into a blob and copy
them back.  The variables, their sizes and the layout of `OBJECT` come from
headers of the library, so they are the parameters collected in `Build`; the
library functions that the hooks call are the parameters in `TpmLibrary`.

Memory is checked: a `memcpy` that would leave its buffer makes the result
`none`.  The calls that the hooks make into the library on slots of `s_objects`
are returned as a list next to the result, in the order they are made.
-/
import TpmPlatform.Bytes
import TpmPlatform.PlatformState

namespace TpmPlatform

open Bytes

/-! ## The build -/

/-- The fields of a `HASH_STATE` that the hooks read or write. -/
inductive HashField
  | type
  | hashDef
  | smacData
  | smacEnd
  deriving DecidableEq

/-- What the hooks rely on of the layout of `OBJECT` and `SEQUENCE_OBJECT`: where
the fields lie and that they do not overlap. -/
structure ObjectLayout (size : ℕ) where
  attributes : Field size
  occupied : ℕ
  signSeq : ℕ
  verifySeq : ℕ
  eventSeq : ℕ
  signScheme : Field size
  hashCount : ℕ
  hash : Fin hashCount → HashField → Field size
  pointerWidth : ℕ
  hash_disjoint : ∀ i f j g, (i, f) ≠ (j, g) → (hash i f).Disjoint (hash j g)
  attributes_disjoint : ∀ i f, attributes.Disjoint (hash i f)
  signScheme_disjoint : ∀ i f, signScheme.Disjoint (hash i f)
  pointer_width : ∀ i f, f ≠ .type → (hash i f).width = pointerWidth

/-- A variable of `s_TpmRuntimeVariables`: one of the other globals, or `s_objects`. -/
inductive RuntimeVariable (ι : Type)
  | global (v : ι)
  | sObjects
  deriving DecidableEq

/-- The compile-time parameters: the globals `ι` with their sizes, the object slots
and their layout, the constants, and the table of saved variables. -/
structure Build (ι : Type) where
  sizeof : ι → ℕ
  sizeof_pos : ∀ v, 0 < sizeof v
  sizeofObject : ℕ
  maxLoadedObjects : ℕ
  layout : ObjectLayout sizeofObject
  hashStateSmac : ℕ
  tpmAlgMldsa : Option ℕ
  /-- `ObjectIsSequence`, as a function of the attribute word. -/
  objectIsSequence : ℕ → Bool
  tpmRuntimeVariables : List (RuntimeVariable ι)
  nodup : tpmRuntimeVariables.Nodup
  sObjects_mem : .sObjects ∈ tpmRuntimeVariables

namespace Build

variable {ι : Type} (B : Build ι)

/-- An `OBJECT`. -/
abbrev Object := Raw B.sizeofObject

/-- The `sizeof` of a saved variable. -/
def sizeofVariable : RuntimeVariable ι → ℕ
  | .global v => B.sizeof v
  | .sObjects => B.maxLoadedObjects * B.sizeofObject

/-- `cbVariableSize`, a `uint32_t`. -/
def cbVariableSize (v : RuntimeVariable ι) : UInt32 := UInt32.ofNat (B.sizeofVariable v)

/-- `sizeof(TPM_RUNTIME_STATE_HEADER)`. -/
def headerSize : ℕ := 16

/-- `s_RuntimeStateHeaderMagic`, "VTPMRTST". -/
def headerMagic : ℕ := 0x545354524D505456

/-- `s_RuntimeStateRevision`. -/
def runtimeStateRevision : ℕ := 0x10

/-- The header that `INJECTED_GetRuntimeState` writes, as its bytes lie in memory. -/
def header : List UInt8 :=
  toLE 8 headerMagic ++ (toLE 4 runtimeStateRevision ++ toLE 4 B.tpmRuntimeVariables.length)

/-- The header checks of `INJECTED_ApplyRuntimeState`. -/
def headerMatches (blob : List UInt8) : Bool :=
  ofLE (window blob 0 8) == headerMagic && ofLE (window blob 8 4) == runtimeStateRevision &&
    ofLE (window blob 12 4) == B.tpmRuntimeVariables.length

/-- `GetRuntimeStateSize`, with its `uint32_t` sum. -/
def getRuntimeStateSize : UInt32 :=
  B.tpmRuntimeVariables.foldl (fun totalSize v => totalSize + B.cbVariableSize v) 0 +
    UInt32.ofNat headerSize

/-! ## Reading an object -/

variable {B}

/-- A bit of the attribute word. -/
def attributeBit (o : B.Object) (bit : ℕ) : Bool := (B.layout.attributes.get o).testBit bit

/-- The test of both loops: an occupied sequence object. -/
def isOccupiedSequence (o : B.Object) : Bool :=
  attributeBit o B.layout.occupied && B.objectIsSequence (B.layout.attributes.get o)

/-- The object is an ML-DSA sign or verify sequence. -/
def isMldsaSequence (o : B.Object) : Bool :=
  match B.tpmAlgMldsa with
  | none => false
  | some alg =>
    (attributeBit o B.layout.signSeq || attributeBit o B.layout.verifySeq) &&
      B.layout.signScheme.get o == alg

/-- The number of hash states that a sequence uses. -/
def hashStateCount (o : B.Object) : ℕ :=
  if attributeBit o B.layout.eventSeq then B.layout.hashCount else 1

end Build

/-! ## The library functions and the state -/

/-- A call of `_plat__Fail`: location and code. -/
structure FailCall where
  locationCode : UInt64
  failureCode : Int32
  deriving DecidableEq

/-- What `SequenceDataImport` leaves behind: the object, the rest of the library's
state, and the failures it reported. -/
structure ImportOutcome {ι : Type} (B : Build ι) (ρ : Type) where
  object : B.Object
  rest : ρ
  failures : List FailCall

/-- The library functions that the hooks call, and the addresses of its SMAC
methods in this process.  `ρ` is whatever else the library keeps; the functions
see of the listed variables only the object they are given. -/
structure TpmLibrary {ι : Type} (B : Build ι) (ρ : Type) where
  objectFlush : B.Object → ρ → B.Object × ρ
  sequenceDataExport : B.Object → B.Object → B.Object
  sequenceDataImport : B.Object → B.Object → ρ → ImportOutcome B ρ
  nvIndexCacheInit : ρ → ρ
  cryptCmacData : Fin (256 ^ B.layout.pointerWidth)
  cryptCmacEnd : Fin (256 ^ B.layout.pointerWidth)

/-- The library's memory: the globals, the object slots and the rest. -/
structure LibraryState {ι : Type} (B : Build ι) (ρ : Type) where
  globals : (v : ι) → Raw (B.sizeof v)
  sObjects : List.Vector B.Object B.maxLoadedObjects
  rest : ρ

/-- A call into the library on a slot of `s_objects`, or the `memcpy` of the blob
over the whole array. -/
inductive SlotCall
  | objectFlush (slot : ℕ)
  | sequenceDataExport (slot : ℕ)
  | copyObjects (selected : ℕ → Bool)
  | sequenceDataImport (slot : ℕ) (success : Bool)

section

variable {ι : Type} {B : Build ι} {ρ : Type}

namespace LibraryState

/-- The bytes of a saved variable. -/
def contents (s : LibraryState B ρ) : RuntimeVariable ι → List UInt8
  | .global v => (s.globals v).toList
  | .sObjects => s.sObjects.toList.flatMap List.Vector.toList

/-- The state after a `memcpy` of `bytes` to the start of a saved variable. -/
def store [DecidableEq ι] (s : LibraryState B ρ) (bytes : List UInt8) :
    RuntimeVariable ι → LibraryState B ρ
  | .global v =>
    { s with globals :=
        Function.update s.globals v (Raw.read (splice (s.globals v).toList 0 bytes) 0) }
  | .sObjects =>
    { s with sObjects := List.Vector.ofFn fun i =>
        Raw.read (splice (s.contents .sObjects) 0 bytes) (i * B.sizeofObject) }

end LibraryState

/-! ## Saving -/

/-- `ExportSequenceObjectStates`, for the slots from number `slot` on, whose images
start at `off` in the buffer. -/
def exportSequenceObjectStates (lib : TpmLibrary B ρ) :
    List B.Object → ℕ → ℕ → List UInt8 → Option (List UInt8 × List SlotCall)
  | [], _, _, buf => some (buf, [])
  | object :: objects, slot, off, buf =>
    if Build.isOccupiedSequence object then do
      let staged := lib.sequenceDataExport object object
      let buf ← poke buf off staged.toList
      let (buf, calls) ←
        exportSequenceObjectStates lib objects (slot + 1) (off + B.sizeofObject) buf
      return (buf, .sequenceDataExport slot :: calls)
    else
      exportSequenceObjectStates lib objects (slot + 1) (off + B.sizeofObject) buf

/-- What is done about the variable just copied to offset `off`: `s_objects` has its
sequence objects replaced by their exported form. -/
def exportVariable (lib : TpmLibrary B ρ) (s : LibraryState B ρ) (off : ℕ) (buf : List UInt8) :
    RuntimeVariable ι → Option (List UInt8 × List SlotCall)
  | .sObjects => exportSequenceObjectStates lib s.sObjects.toList 0 off buf
  | .global _ => some (buf, [])

/-- The loop of `INJECTED_GetRuntimeState` over the variables, with
`pRuntimeState` at offset `off` of the buffer. -/
def saveVariables (lib : TpmLibrary B ρ) (s : LibraryState B ρ) :
    List (RuntimeVariable ι) → ℕ → List UInt8 → Option (List UInt8 × List SlotCall)
  | [], _, buf => some (buf, [])
  | v :: vars, off, buf => do
    let size := (B.cbVariableSize v).toNat
    -- the copy first, then the exported slots over it
    let buf ← poke buf off ((s.contents v).take size)
    let (buf, exports) ← exportVariable lib s off buf v
    let (buf, calls) ← saveVariables lib s vars (off + size) buf
    return (buf, exports ++ calls)

/-- What `INJECTED_GetRuntimeState` leaves behind. -/
structure GetResult where
  ret : ℤ
  buffer : Option (List UInt8)
  bufferSize : Option UInt32
  calls : List SlotCall

/-- `INJECTED_GetRuntimeState`; a null pointer is `none`. -/
def injectedGetRuntimeState (lib : TpmLibrary B ρ) (s : LibraryState B ρ)
    (pBuffer : Option (List UInt8)) (pBufferSize : Option UInt32) : Option GetResult :=
  match pBufferSize with
  | none => some { ret := 1, buffer := pBuffer, bufferSize := pBufferSize, calls := [] }
  | some bufferSize =>
    if pBuffer.isNone && bufferSize != 0 then
      some { ret := 1, buffer := pBuffer, bufferSize := pBufferSize, calls := [] }
    else
      let requiredSize := B.getRuntimeStateSize
      if bufferSize < requiredSize then
        some { ret := 2, buffer := pBuffer, bufferSize := some requiredSize, calls := [] }
      else do
        let buf ← pBuffer
        let buf ← poke buf 0 B.header
        let (buf, calls) ← saveVariables lib s B.tpmRuntimeVariables Build.headerSize buf
        return { ret := 0, buffer := some buf, bufferSize := some requiredSize, calls := calls }

/-! ## Restoring -/

/-- The fix-up of one hash state after an import: an SMAC context gets the method
pointers of this process. -/
def rebindHashState (lib : TpmLibrary B ρ) (object : B.Object) (j : Fin B.layout.hashCount) :
    B.Object :=
  if (B.layout.hash j .type).get object = B.hashStateSmac then
    let object := (B.layout.hash j .hashDef).set 0 object
    let object := (B.layout.hash j .smacData).set lib.cryptCmacData object
    (B.layout.hash j .smacEnd).set lib.cryptCmacEnd object
  else object

/-- The fix-up of a sequence object after its import. -/
def rebindSmac (lib : TpmLibrary B ρ) (object : B.Object) : B.Object :=
  if Build.isMldsaSequence object then object
  else
    ((List.finRange B.layout.hashCount).filter fun j =>
      decide (j.val < Build.hashStateCount object)).foldl (rebindHashState lib) object

/-- What the import loop works on besides the slots. -/
structure ImportState (ρ : Type) where
  rest : ρ
  failure : FailureState

/-- `ImportSequenceObjectStates`, for the slots from number `slot` on: its result,
the slots, the state and the calls made. -/
def importSequenceObjectStates (lib : TpmLibrary B ρ) (wasInFailureMode : Bool) :
    List B.Object → ℕ → ImportState ρ →
      Bool × List B.Object × ImportState ρ × List SlotCall
  | [], _, st => (true, [], st, [])
  | object :: objects, slot, st =>
    if Build.isOccupiedSequence object then
      -- the object itself is staged as the import buffer
      let outcome := lib.sequenceDataImport object object st.rest
      let st : ImportState ρ :=
        { rest := outcome.rest
          failure := outcome.failures.foldl
            (fun s f => s.fail f.locationCode f.failureCode) st.failure }
      let call := SlotCall.sequenceDataImport slot outcome.failures.isEmpty
      if !wasInFailureMode && st.failure.inFailureMode then
        (false, outcome.object :: objects, st, [call])
      else
        let (ok, objects, st, calls) :=
          importSequenceObjectStates lib wasInFailureMode objects (slot + 1) st
        (ok, rebindSmac lib outcome.object :: objects, st, call :: calls)
    else
      let (ok, objects, st, calls) :=
        importSequenceObjectStates lib wasInFailureMode objects (slot + 1) st
      (ok, object :: objects, st, calls)

/-- The import loop neither adds nor drops slots. -/
theorem length_importSequenceObjectStates (lib : TpmLibrary B ρ) (wasInFailureMode : Bool)
    (objects : List B.Object) (slot : ℕ) (st : ImportState ρ) :
    (importSequenceObjectStates lib wasInFailureMode objects slot st).2.1.length =
      objects.length := by
  induction objects generalizing slot st with
  | nil => rfl
  | cons object objects ih =>
      unfold importSequenceObjectStates
      by_cases hseq : Build.isOccupiedSequence object
      · rw [if_pos hseq]
        dsimp only
        split
        · rfl
        · rw [List.length_cons, ih, List.length_cons]
      · rw [if_neg hseq]
        dsimp only
        rw [List.length_cons, ih, List.length_cons]

/-- The flush loop of `INJECTED_ApplyRuntimeState`: every slot, whatever it holds. -/
def flushObjects (lib : TpmLibrary B ρ) : List B.Object → ρ → List B.Object × ρ
  | [], rest => ([], rest)
  | object :: objects, rest =>
    let (object, rest) := lib.objectFlush object rest
    let (objects, rest) := flushObjects lib objects rest
    (object :: objects, rest)

theorem length_flushObjects (lib : TpmLibrary B ρ) (objects : List B.Object) (rest : ρ) :
    (flushObjects lib objects rest).1.length = objects.length := by
  induction objects generalizing rest with
  | nil => rfl
  | cons object objects ih =>
      unfold flushObjects
      dsimp only
      rw [List.length_cons, ih, List.length_cons]

/-- The copy loop of `INJECTED_ApplyRuntimeState`, with `pRuntimeState` at the start
of what is left of the blob. -/
def restoreVariables [DecidableEq ι] :
    List (RuntimeVariable ι) → List UInt8 → LibraryState B ρ → Option (LibraryState B ρ)
  | [], _, s => some s
  | v :: vars, pRuntimeState, s =>
    let size := (B.cbVariableSize v).toNat
    if size ≤ pRuntimeState.length then
      restoreVariables vars (pRuntimeState.drop size) (s.store (pRuntimeState.take size) v)
    else none

namespace LibraryState

/-- The state after the flush loop. -/
def flushed (lib : TpmLibrary B ρ) (s : LibraryState B ρ) : LibraryState B ρ :=
  { s with
    sObjects := ⟨(flushObjects lib s.sObjects.toList s.rest).1, by
      rw [length_flushObjects, List.Vector.toList_length]⟩
    rest := (flushObjects lib s.sObjects.toList s.rest).2 }

/-- `ImportSequenceObjectStates` on the whole array, in failure state `failure`: its
result, the state, the failure state and the calls made. -/
def imported (lib : TpmLibrary B ρ) (failure : FailureState) (s : LibraryState B ρ) :
    Bool × LibraryState B ρ × FailureState × List SlotCall :=
  let st : ImportState ρ := { rest := s.rest, failure := failure }
  let run := importSequenceObjectStates lib failure.inFailureMode s.sObjects.toList 0 st
  (run.1,
    { s with
      sObjects := ⟨run.2.1, by rw [length_importSequenceObjectStates, List.Vector.toList_length]⟩
      rest := run.2.2.1.rest },
    run.2.2.1.failure, run.2.2.2)

end LibraryState

/-- What `INJECTED_ApplyRuntimeState` leaves behind. -/
structure ApplyResult {ι : Type} (B : Build ι) (ρ : Type) where
  ret : ℤ
  state : LibraryState B ρ
  failure : FailureState
  calls : List SlotCall

/-- Which slots of an array of objects are occupied sequences. -/
def selectedSlots (objects : List B.Object) (slot : ℕ) : Bool :=
  (objects[slot]?).any Build.isOccupiedSequence

/-- The calls of the flush loop. -/
def flushCalls (B : Build ι) : List SlotCall :=
  (List.range B.maxLoadedObjects).map SlotCall.objectFlush

/-- `INJECTED_ApplyRuntimeState`; a null pointer is `none`.  `failure` is the failure
state of the platform, which the library reads and sets through its callbacks. -/
def injectedApplyRuntimeState [DecidableEq ι] (lib : TpmLibrary B ρ) (s : LibraryState B ρ)
    (failure : FailureState) (pRuntimeStateBuffer : Option (List UInt8))
    (runtimeStateBufferSize : UInt32) : Option (ApplyResult B ρ) :=
  match pRuntimeStateBuffer with
  | none => some { ret := 1, state := s, failure := failure, calls := [] }
  | some blob =>
    let requiredSize := B.getRuntimeStateSize
    if runtimeStateBufferSize ≠ requiredSize then
      some { ret := 2, state := s, failure := failure, calls := [] }
    -- the C code copies the header out before it looks at it
    else if blob.length < Build.headerSize then none
    else if !B.headerMatches blob then
      some { ret := 3, state := s, failure := failure, calls := [] }
    else do
      let s ← restoreVariables B.tpmRuntimeVariables (blob.drop Build.headerSize) (s.flushed lib)
      let s := { s with rest := lib.nvIndexCacheInit s.rest }
      let copied := SlotCall.copyObjects (selectedSlots s.sObjects.toList)
      let (ok, s, failure, imports) := s.imported lib failure
      return {
        ret := if ok then 0 else 4
        state := s
        failure := failure
        calls := flushCalls B ++ (copied :: imports) }

end

/-! ## The table of the source -/

/-- The variables of `s_TpmRuntimeVariables` besides `s_objects`. -/
inductive Global
  | gToTest
  | gExclusiveAuditSession
  | gTime
  | gTimeEpoch
  | gPhEnable
  | gPcrReConfig
  | gDRTMHandle
  | gDrtmPreStartup
  | gStartupLocality3
  | gDaUsed
  | gPowerWasLost
  | gPrevOrderlyState
  | gNvOk
  | gp
  | go
  | gc
  | gr
  | gCryptoSelfTestState
  | gManufactured
  | gInitialized
  | gInitCompleted
  | sDAPendingOnNV
  | sIndexOrderlyRam
  | sMaxCounter
  | sPcrs
  | sSessions
  | sOldestSavedSession
  | sFreeSessionSlots
  deriving DecidableEq

/-- `s_TpmRuntimeVariables`, in its order. -/
def sTpmRuntimeVariables : List (RuntimeVariable Global) :=
  [.global .gToTest, .global .gExclusiveAuditSession, .global .gTime, .global .gTimeEpoch,
    .global .gPhEnable, .global .gPcrReConfig, .global .gDRTMHandle, .global .gDrtmPreStartup,
    .global .gStartupLocality3, .global .gDaUsed, .global .gPowerWasLost,
    .global .gPrevOrderlyState, .global .gNvOk, .global .gp, .global .go, .global .gc,
    .global .gr, .global .gCryptoSelfTestState, .global .gManufactured, .global .gInitialized,
    .global .gInitCompleted, .global .sDAPendingOnNV, .global .sIndexOrderlyRam,
    .global .sMaxCounter, .sObjects, .global .sPcrs, .global .sSessions,
    .global .sOldestSavedSession, .global .sFreeSessionSlots]

/-- A miniature of `OBJECT`: the attribute byte, the scheme byte and one hash state
of four bytes. -/
def miniLayout : ObjectLayout 6 where
  attributes := { offset := 0, width := 1, fits := by decide }
  occupied := 0
  signSeq := 1
  verifySeq := 2
  eventSeq := 3
  signScheme := { offset := 1, width := 1, fits := by decide }
  hashCount := 1
  hash _ f :=
    match f with
    | .type => { offset := 2, width := 1, fits := by decide }
    | .hashDef => { offset := 3, width := 1, fits := by decide }
    | .smacData => { offset := 4, width := 1, fits := by decide }
    | .smacEnd => { offset := 5, width := 1, fits := by decide }
  pointerWidth := 1
  hash_disjoint := by
    intro i f j g hne
    obtain rfl : i = j := Subsingleton.elim i j
    cases f <;> cases g <;> first | exact absurd rfl hne | decide
  attributes_disjoint := by
    intro i f
    cases f <;> decide
  signScheme_disjoint := by
    intro i f
    cases f <;> decide
  pointer_width := by
    intro i f hf
    cases f with
    | type => exact absurd rfl hf
    | _ => rfl

/-- The source's table in miniature: one byte for each global, two object slots.
Concrete runs are evaluated in this build. -/
def miniBuild : Build Global where
  sizeof _ := 1
  sizeof_pos _ := Nat.one_pos
  sizeofObject := 6
  maxLoadedObjects := 2
  layout := miniLayout
  hashStateSmac := 2
  tpmAlgMldsa := some 3
  objectIsSequence word := word.testBit 1 || word.testBit 2 || word.testBit 3
  tpmRuntimeVariables := sTpmRuntimeVariables
  nodup := by decide
  sObjects_mem := by decide

/-- A library for `miniBuild` that keeps nothing outside the objects: a flush clears
the attributes, export and import are copies. -/
def miniLibrary : TpmLibrary miniBuild Unit where
  objectFlush object rest := (miniLayout.attributes.set 0 object, rest)
  sequenceDataExport _ staged := staged
  sequenceDataImport object _ rest := { object := object, rest := rest, failures := [] }
  nvIndexCacheInit rest := rest
  cryptCmacData := 7
  cryptCmacEnd := 9

/-- Memory of `miniBuild` that is all zero, the object slots included. -/
def miniMemory : LibraryState miniBuild Unit where
  globals _ := Raw.read [] 0
  sObjects := List.Vector.replicate 2 (Raw.read [] 0)
  rest := ()

end TpmPlatform
