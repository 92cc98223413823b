/-
# Live migration

`save_state` in one process and `restore_state` in another of the same build.  The
library's half of the saved state is the image of `StateImage`, so that the restore
passes its checks and takes over every variable of the table.  The export loop tests the
live array and the import loop the restored copy; both pick the same slots, because an
export keeps the attributes.

`migration_round_trip` : the restore succeeds, the platform state and the variables
are those of the source, and every occupied sequence has been exported there, imported
here and bound to the SMAC methods of this process.
-/
import TpmPlatform.PlatformSteps
import TpmPlatform.StateImage

namespace TpmPlatform

open Bytes Runs

variable {ι : Type} {B : Build ι} {ρ : Type}

/-! ## What is assumed of the foreign code -/

/-- `SequenceDataExport` rewrites the running state of the copy it is given, and not
its attributes. -/
def TpmLibrary.ExportKeepsAttributes (lib : TpmLibrary B ρ) : Prop :=
  ∀ object staged, B.layout.attributes.get (lib.sequenceDataExport object staged) =
    B.layout.attributes.get staged

/-- `SequenceDataImport` reports no failure. -/
def TpmLibrary.ImportIsSilent (lib : TpmLibrary B ρ) : Prop :=
  ∀ object staged rest, (lib.sequenceDataImport object staged rest).failures = []

/-- The serializer encodes every state with this platform half, and decodes what it
encodes. -/
def Codec.RoundTrips (codec : Codec) (platformState : PlatformState) : Prop :=
  ∀ tpmlibState, ∃ bytes,
    codec.toStdvec { tpmlibState := tpmlibState, platformState := platformState } = .ok bytes ∧
    codec.fromBytes bytes = .ok { tpmlibState := tpmlibState, platformState := platformState }

/-! ## One slot -/

/-- How a slot of the source and the slot of the destination with its number are
related: an occupied sequence went through export, import and the fix-up, anything
else is the same. -/
def MigratedSlot (source destination : TpmLibrary B ρ) (object object' : B.Object) : Prop :=
  if Build.isOccupiedSequence object then
    let image := source.sequenceDataExport object object
    ∃ rest, SmacRebound destination (destination.sequenceDataImport image image rest).object object'
  else object' = object

/-- Export and import select the same slots. -/
theorem isOccupiedSequence_exportSlot {lib : TpmLibrary B ρ} (hexport : lib.ExportKeepsAttributes)
    (object : B.Object) :
    Build.isOccupiedSequence (exportSlot lib object) = Build.isOccupiedSequence object := by
  unfold exportSlot
  split_ifs
  · unfold Build.isOccupiedSequence Build.attributeBit
    rw [hexport object object]
  · rfl

/-- A slot that is exported and then imported is migrated. -/
theorem migratedSlot_of_importedSlot {source destination : TpmLibrary B ρ}
    (hexport : source.ExportKeepsAttributes) {object object' : B.Object}
    (h : ImportedSlot destination (exportSlot source object) object') :
    MigratedSlot source destination object object' := by
  unfold ImportedSlot at h
  -- the import tests the exported copy, which passes exactly when the live slot did
  rw [isOccupiedSequence_exportSlot hexport] at h
  unfold MigratedSlot
  by_cases hseq : Build.isOccupiedSequence object = true
  · rw [if_pos hseq, exportSlot, if_pos hseq] at h
    rw [if_pos hseq]
    obtain ⟨rest, rfl⟩ := h
    exact ⟨rest, smacRebound_rebindSmac _ _⟩
  · rw [if_neg hseq, exportSlot, if_neg hseq] at h
    rw [if_neg hseq]
    exact h

/-! ## The library's half -/

/-- The import of a whole array, when no import reports a failure. -/
theorem imported_of_silent {lib : TpmLibrary B ρ} (himport : lib.ImportIsSilent)
    (failure : FailureState) (s : LibraryState B ρ) :
    (s.imported lib failure).1 = true ∧ (s.imported lib failure).2.2.1 = failure ∧
      ∀ i, ImportedSlot lib (s.sObjects.get i) ((s.imported lib failure).2.1.sObjects.get i) := by
  obtain ⟨hok, hfailure⟩ :=
    importSequenceObjectStates_of_silent himport s.sObjects.toList 0
      { rest := s.rest, failure := failure } (fun hwas => hwas)
  exact ⟨hok, hfailure, imported_slots hok⟩

/-- **Migrating the library**: the image of one process, restored in another. -/
theorem restoreRuntimeState_image [DecidableEq ι] (hfits : B.Fits)
    {source destination : TpmLibrary B ρ} (hexport : source.ExportKeepsAttributes)
    (himport : destination.ImportIsSilent) (s t : LibraryState B ρ) (failure : FailureState) :
    ∃ t', t.restoreRuntimeState destination failure (s.image source) = some (.ok (), t', failure) ∧
      (∀ v ∈ B.tpmRuntimeVariables, v ≠ .sObjects → t'.contents v = s.contents v) ∧
      ∀ i, MigratedSlot source destination (s.sObjects.get i) (t'.sObjects.get i) := by
  obtain ⟨t₁, ht₁, hagrees⟩ := overwritten_image source destination s t hfits
  obtain ⟨hok, hfailure, hslots⟩ := imported_of_silent himport failure t₁
  refine ⟨(t₁.imported destination failure).2.1, ?_, ?_, fun i => ?_⟩
  · unfold LibraryState.restoreRuntimeState
    dsimp only [Option.bind_eq_bind]
    rw [injectedApplyRuntimeState_of_accepts (accepts_image source s hfits), ht₁,
      Option.map_some, Option.bind_some, LibraryState.applyResult, hok, hfailure]
    rfl
  · intro v hv hne
    cases v with
    | global v => exact (hagrees _ hv).contents_eq
    | sObjects => exact absurd rfl hne
  · have h : t₁.sObjects = s.sObjects.map (exportSlot source) := hagrees _ B.sObjects_mem
    have hslot := hslots i
    rw [h, List.Vector.get_map] at hslot
    exact migratedSlot_of_importedSlot hexport hslot

namespace Process

/-! ## The round trip -/

/-- **Live migration.**  For every build whose blob can be counted in a `uint32_t`, any
source and any destination: the size query reports what the second call writes,
`save_state` returns a blob, and restoring it succeeds.  The destination then has the
platform state of the source, every variable of the table but `s_objects` byte for byte,
and every slot migrated. -/
theorem migration_round_trip [DecidableEq ι] (hfits : B.Fits) (source destination : TpmLibrary B ρ)
    (hexport : source.ExportKeepsAttributes) (himport : destination.ImportIsSilent)
    (codec : Codec) (s t : Process B ρ) (p q : PlatformImpl) (hcodec : codec.RoundTrips p.state)
    (hp : s.platform = some p) (hq : t.platform = some q) :
    (∃ size image, size ≠ 0 ∧ image.length = size.toNat ∧
      injectedGetRuntimeState source s.library none (some 0) =
        some { ret := 2, buffer := none, bufferSize := some size, calls := [] } ∧
      ∀ buf : List UInt8, buf.length = size.toNat → ∃ calls,
        injectedGetRuntimeState source s.library (some buf) (some size) =
          some { ret := 0, buffer := some image, bufferSize := some size, calls := calls }) ∧
    ∃ blob t', s.saveState source codec = some blob ∧
      t.restoreState destination codec blob = some (.ok (), t') ∧
      t'.platform = some { q with state := p.state } ∧
      (∀ v ∈ B.tpmRuntimeVariables, v ≠ .sObjects →
        t'.library.contents v = s.library.contents v) ∧
      ∀ i, MigratedSlot source destination (s.library.sObjects.get i)
        (t'.library.sObjects.get i) := by
  constructor
  · obtain ⟨hnull, hne⟩ := injectedGetRuntimeState_null source s.library hfits
    refine ⟨B.getRuntimeStateSize, s.library.image source, hne, ?_, hnull, fun buf hbuf =>
      injectedGetRuntimeState_image source s.library hfits buf hbuf⟩
    rw [LibraryState.length_image, Build.toNat_getRuntimeStateSize hfits]
  · obtain ⟨blob, hencode, hdecode⟩ := hcodec (s.library.image source)
    obtain ⟨t₁, hrestore, hvariables, hslots⟩ := restoreRuntimeState_image hfits hexport himport
      s.library t.library p.state.failure
    refine ⟨blob, { t with platform := some { q with state := p.state }, library := t₁ },
      ?_, ?_, rfl, hvariables, hslots⟩
    · unfold saveState
      dsimp only [Option.bind_eq_bind]
      rw [getRuntimeState_eq_image source s.library hfits, hp, Option.bind_some, Option.bind_some,
        PlatformImpl.getRuntimeState, hencode]
    · -- the platform half is in place when the library half is applied
      unfold restoreState
      rw [hdecode]
      dsimp only
      rw [hq, Option.bind_some, PlatformImpl.restoreRuntimeState]
      dsimp only
      rw [hrestore, Option.map_some]
      rfl

/-- The platform state after a cold init. -/
def coldPlatformState : PlatformState := (PlatformImpl.powerUp { commits := [] } .coldInit).state

/-- A serializer for states with the platform half `platformState`. -/
def imageCodec (platformState : PlatformState) : Codec where
  toStdvec st := .ok st.tpmlibState
  fromBytes bytes := .ok { tpmlibState := bytes, platformState := platformState }

/-- The cold process with an SMAC sign sequence in its first slot. -/
def signingProcess : Process miniBuild Unit :=
  { coldProcess with
    library := { miniMemory with
      sObjects := ⟨[Raw.read [3, 0, 2, 1, 7, 9] 0, Raw.read [] 0], rfl⟩ } }

/-- The miniature library at other addresses. -/
def movedLibrary : TpmLibrary miniBuild Unit :=
  { miniLibrary with cryptCmacData := ⟨17, by decide⟩, cryptCmacEnd := ⟨19, by decide⟩ }

/-- The sign sequence arrives, with the addresses of the destination. -/
theorem migration_round_trip_sequence :
    ∃ blob t', signingProcess.saveState miniLibrary (imageCodec coldPlatformState) = some blob ∧
      coldProcess.restoreState movedLibrary (imageCodec coldPlatformState) blob =
        some (.ok (), t') ∧
      (miniLayout.hash ⟨0, by decide⟩ .smacData).get (t'.library.sObjects.get ⟨0, by decide⟩) =
        17 := by
  obtain ⟨-, blob, t', hsave, hrestore, -, -, hslots⟩ :=
    migration_round_trip (by decide) miniLibrary movedLibrary (fun _ _ => rfl) (fun _ _ _ => rfl)
      (imageCodec coldPlatformState) signingProcess coldProcess _ _
      (fun image => ⟨image, rfl, rfl⟩) rfl rfl
  refine ⟨blob, t', hsave, hrestore, ?_⟩
  have hslot := hslots ⟨0, by decide⟩
  rw [MigratedSlot, if_pos (by decide)] at hslot
  obtain ⟨⟨⟩, hbound⟩ := hslot
  have hdata := hbound.hashFields ⟨0, by decide⟩ .smacData
  rw [if_pos (by decide)] at hdata
  exact hdata

/-- A build whose blob would have `2 ^ 32` bytes. -/
def hugeBuild : Build Unit where
  sizeof _ := 2 ^ 32 - 28
  sizeof_pos _ := by decide
  sizeofObject := 6
  maxLoadedObjects := 2
  layout := miniLayout
  hashStateSmac := 2
  tpmAlgMldsa := some 3
  objectIsSequence word := word.testBit 1 || word.testBit 2 || word.testBit 3
  tpmRuntimeVariables := [.global (), .sObjects]
  nodup := by decide
  sObjects_mem := by decide

/-- A library for `hugeBuild`, like the miniature one. -/
def hugeLibrary : TpmLibrary hugeBuild Unit where
  objectFlush object rest := (object, rest)
  sequenceDataExport _ staged := staged
  sequenceDataImport object _ rest := { object := object, rest := rest, failures := [] }
  nvIndexCacheInit rest := rest
  cryptCmacData := 7
  cryptCmacEnd := 9

/-- Any memory of `hugeBuild`. -/
def hugeMemory : LibraryState hugeBuild Unit where
  globals _ := Raw.read [] 0
  sObjects := List.Vector.replicate 2 (Raw.read [] 0)
  rest := ()

/-- The process after a cold init in that build. -/
def hugeProcess : Process hugeBuild Unit where
  platform := some (.powerUp { commits := [] } .coldInit)
  library := hugeMemory
  handles := 1

/-- With variables of any sizes the round trip fails: when the sizes add up to a
multiple of `2 ^ 32`, the size query reports nothing and writes to the null buffer. -/
theorem migration_overflows :
    ¬ ∀ (ι : Type) [DecidableEq ι] (B : Build ι) (source destination : TpmLibrary B Unit)
        (codec : Codec) (sourceMemory destinationMemory : LibraryState B Unit)
        (ops ops' : List (Op B Unit)) (s t : Process B Unit) (p q : PlatformImpl),
      source.ExportKeepsAttributes → destination.ImportIsSilent → codec.RoundTrips p.state →
      runFrom (step source codec) (start sourceMemory) ops = some s → s.platform = some p →
      runFrom (step destination codec) (start destinationMemory) ops' = some t →
      t.platform = some q →
      ∃ blob t', s.saveState source codec = some blob ∧
        t.restoreState destination codec blob = some (.ok (), t') := by
  intro h
  have hrun : ∀ codec, runFrom (step hugeLibrary codec) (start hugeMemory)
      [.initializePlatform { commits := [] } .coldInit hugeProcess.silent hugeProcess.silent] =
      some hugeProcess := fun _ => rfl
  obtain ⟨blob, t', hsave, -⟩ := h Unit hugeBuild hugeLibrary hugeLibrary
    (imageCodec coldPlatformState) hugeMemory hugeMemory _ _ hugeProcess hugeProcess _ _
    (fun _ _ => rfl) (fun _ _ _ => rfl) (fun image => ⟨image, rfl, rfl⟩) (hrun _) rfl (hrun _) rfl
  have hsize : hugeBuild.getRuntimeStateSize = 0 := by decide
  have hnull : injectedGetRuntimeState hugeLibrary hugeMemory none (some 0) = none := by
    unfold injectedGetRuntimeState
    dsimp only
    rw [hsize, if_neg (by decide), if_neg (by decide)]
    rfl
  have hget : LibraryState.getRuntimeState hugeLibrary hugeProcess.library = none := by
    show LibraryState.getRuntimeState hugeLibrary hugeMemory = none
    rw [LibraryState.getRuntimeState, hnull]
    rfl
  unfold saveState at hsave
  rw [hget] at hsave
  cases hsave

end Process

end TpmPlatform
