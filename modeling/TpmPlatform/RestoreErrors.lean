/-
# What a failing `restore_state` leaves behind

A restore can fail at four points: the decoding of the blob, the size check and the
header check of the C hook, and the import of a sequence object.  The platform half
is replaced as soon as the blob is decoded, because the import reads and sets the
failure mode in it; there is no way back from any later point.

`restoreState_error` : an undecodable blob changes nothing; a blob of the wrong size
or format leaves every variable of the library alone; and `FailedRestore` is reported
only after the whole blob has been taken over and the import has newly entered
failure mode.
-/
import TpmPlatform.PlatformSteps
import TpmPlatform.SequenceSlots

namespace TpmPlatform

variable {ι : Type} {B : Build ι} {ρ : Type}

/-- **The library's half of a restore.**  A refused blob touches neither the memory nor
the failure state; any other one is copied in and imported. -/
theorem restoreRuntimeState_cases [DecidableEq ι] {lib : TpmLibrary B ρ} {s s' : LibraryState B ρ}
    {failure failure' : FailureState} {state : List UInt8} {r : Except Error Unit}
    (h : s.restoreRuntimeState lib failure state = some (r, s', failure')) :
    ((r = .error .invalidRestoreSize ∧
          UInt32.ofNat state.length ≠ B.getRuntimeStateSize ∨
        r = .error .invalidRestoreFormat ∧
          UInt32.ofNat state.length = B.getRuntimeStateSize ∧ B.headerMatches state = false) ∧
      ¬ B.Accepts state (UInt32.ofNat state.length) ∧ s' = s ∧ failure' = failure) ∨
    ∃ s₁, B.Accepts state (UInt32.ofNat state.length) ∧ s.overwritten lib state = some s₁ ∧
      s' = (s₁.imported lib failure).2.1 ∧ failure' = (s₁.imported lib failure).2.2.1 ∧
      r = if (s₁.imported lib failure).1 then .ok () else .error (.failedRestore 4) := by
  unfold LibraryState.restoreRuntimeState at h
  rw [Option.bind_eq_bind, Option.bind_eq_some_iff] at h
  obtain ⟨applied, happlied, h⟩ := h
  rcases injectedApplyRuntimeState_cases happlied with
    ⟨hstate, hfailure, -, ⟨hnull, -⟩ | ⟨blob, hblob, hnot, hret⟩⟩ |
      ⟨blob, s₁, hblob, haccepts, hs₁, rfl⟩
  · cases hnull
  · left
    obtain rfl := Option.some.inj hblob
    rcases hret with ⟨hret, hsize⟩ | ⟨hret, hformat⟩
    · rw [hret] at h
      obtain ⟨rfl, rfl, rfl⟩ : _ ∧ _ ∧ _ := by simpa using h
      exact ⟨Or.inl ⟨rfl, hsize⟩, hnot, hstate, hfailure⟩
    · rw [hret] at h
      obtain ⟨rfl, rfl, rfl⟩ : _ ∧ _ ∧ _ := by simpa using h
      exact ⟨Or.inr ⟨rfl, hformat⟩, hnot, hstate, hfailure⟩
  · right
    obtain rfl := Option.some.inj hblob
    refine ⟨s₁, haccepts, hs₁, ?_⟩
    cases hok : (s₁.imported lib failure).1 with
    | true =>
        rw [LibraryState.applyResult, hok] at h
        obtain ⟨rfl, rfl, rfl⟩ : _ ∧ _ ∧ _ := by simpa using h
        exact ⟨rfl, rfl, rfl⟩
    | false =>
        rw [LibraryState.applyResult, hok] at h
        obtain ⟨rfl, rfl, rfl⟩ : _ ∧ _ ∧ _ := by simpa using h
        exact ⟨rfl, rfl, rfl⟩

namespace Process

/-- **Failing restores.**  Whatever the bytes and the state: on
`FailedPlatformRestore` nothing has changed; on `InvalidRestoreSize` the library half is
not as long as the library's own image, on `InvalidRestoreFormat` it is and its header is
another one, and then no variable of the library has changed, and the platform state is
the one of the blob; `FailedRestore` comes only from an import that entered failure mode,
after the platform state and every other variable were taken from the blob, and leaves
what the import left: the library's memory and the failure state. -/
theorem restoreState_error [DecidableEq ι] (lib : TpmLibrary B ρ) (codec : Codec)
    (w w' : Process B ρ) (state : List UInt8) (e : Error)
    (h : w.restoreState lib codec state = some (.error e, w')) :
    (∃ msg, e = .failedPlatformRestore msg ∧ codec.fromBytes state = .error msg ∧ w' = w) ∨
    ∃ st p, codec.fromBytes state = .ok st ∧ w.platform = some p ∧
      ((e = .invalidRestoreSize ∧
            UInt32.ofNat st.tpmlibState.length ≠ B.getRuntimeStateSize ∨
          e = .invalidRestoreFormat ∧
            UInt32.ofNat st.tpmlibState.length = B.getRuntimeStateSize ∧
            B.headerMatches st.tpmlibState = false) ∧
          ¬ B.Accepts st.tpmlibState (UInt32.ofNat st.tpmlibState.length) ∧
          w'.library = w.library ∧
          w'.platform = some (p.restoreRuntimeState st.platformState) ∨
        e = .failedRestore 4 ∧
          B.Accepts st.tpmlibState (UInt32.ofNat st.tpmlibState.length) ∧
          st.platformState.failure.inFailureMode = false ∧
          ∃ s₁ s₂ failure imports, w.library.overwritten lib st.tpmlibState = some s₁ ∧
            s₁.imported lib st.platformState.failure = (false, s₂, failure, imports) ∧
            failure.inFailureMode = true ∧ w'.library = s₂ ∧ s₂.globals = s₁.globals ∧
            w'.platform =
              some ((p.restoreRuntimeState st.platformState).withFailure failure)) := by
  rcases restoreState_cases h with
    ⟨msg, hdec, hr, rfl⟩ | ⟨st, p, failure, library, hdec, hp, happly, rfl⟩
  · exact Or.inl ⟨msg, Except.error.inj hr, hdec, rfl⟩
  · -- from here on the platform state is that of the blob
    refine Or.inr ⟨st, p, hdec, hp, ?_⟩
    rcases restoreRuntimeState_cases happly with
      ⟨hr, hnot, hlibrary, rfl⟩ | ⟨s₁, haccepts, hs₁, rfl, rfl, hr⟩
    · left
      refine ⟨?_, hnot, hlibrary, rfl⟩
      rcases hr with ⟨hr, hsize⟩ | ⟨hr, hformat⟩
      · exact Or.inl ⟨Except.error.inj hr, hsize⟩
      · exact Or.inr ⟨Except.error.inj hr, hformat⟩
    · right
      cases hok : (s₁.imported lib st.platformState.failure).1 with
      | true =>
          rw [hok] at hr
          cases hr
      | false =>
          rw [hok] at hr
          obtain ⟨hwas, hnow⟩ := importSequenceObjectStates_of_false hok
          have himported : s₁.imported lib st.platformState.failure =
              (false, (s₁.imported lib st.platformState.failure).2) := by
            rw [← hok]
          exact ⟨Except.error.inj hr, haccepts, hwas, s₁, _, _, _, hs₁, himported, hnow, rfl, rfl,
            rfl⟩

/-- A serializer in which every blob decodes to a cancelled platform and `tpmlibState`. -/
def cancelledCodec (tpmlibState : List UInt8) : Codec where
  toStdvec _ := .ok []
  fromBytes _ := .ok
    { tpmlibState := tpmlibState
      platformState := { PlatformState.new with cancel := { flag := true } } }

/-- One with no library state at all. -/
def emptyLibraryCodec : Codec := cancelledCodec []

/-- Of three blobs, the first is refused for its size and the second for its header, and the
library keeps its memory; with the third an import fails, and leaves its failure. -/
theorem restoreState_error_branches :
    (∃ w', coldProcess.restoreState miniLibrary emptyLibraryCodec [] =
        some (.error .invalidRestoreSize, w') ∧
      UInt32.ofNat 0 ≠ miniBuild.getRuntimeStateSize ∧ w'.library = coldProcess.library) ∧
    (∃ w', coldProcess.restoreState miniLibrary (cancelledCodec (List.replicate 56 0)) [] =
        some (.error .invalidRestoreFormat, w') ∧
      miniBuild.headerMatches (List.replicate 56 0) = false ∧
      w'.library = coldProcess.library) ∧
    ∃ w' p' s₁ imports, coldProcess.restoreState SlotState.failingLibrary
        (cancelledCodec SlotState.sequenceBlob) [] = some (.error (.failedRestore 4), w') ∧
      miniMemory.overwritten SlotState.failingLibrary SlotState.sequenceBlob = some s₁ ∧
      s₁.imported SlotState.failingLibrary .new =
        (false, w'.library, p'.state.failure, imports) ∧
      w'.platform = some p' ∧ p'.state.cancel.flag = true ∧
      p'.state.failure = FailureState.new.fail 1 1 := by
  refine ⟨⟨_, rfl, ?_⟩, ⟨_, rfl, ?_⟩, ?_⟩
  · rcases restoreState_error miniLibrary emptyLibraryCodec coldProcess _ [] .invalidRestoreSize rfl
      with ⟨msg, he, -⟩ | ⟨st, p, hdec, -, ⟨hsize, -, hlibrary, -⟩ | ⟨he, -⟩⟩
    · cases he
    · obtain rfl := Except.ok.inj hdec
      rcases hsize with ⟨-, hsize⟩ | ⟨he, -⟩
      · exact ⟨hsize, hlibrary⟩
      · cases he
    · cases he
  · rcases restoreState_error miniLibrary (cancelledCodec (List.replicate 56 0)) coldProcess _ []
      .invalidRestoreFormat rfl
      with ⟨msg, he, -⟩ | ⟨st, p, hdec, -, ⟨hformat, -, hlibrary, -⟩ | ⟨he, -⟩⟩
    · cases he
    · obtain rfl := Except.ok.inj hdec
      rcases hformat with ⟨he, -⟩ | ⟨-, -, hheader⟩
      · cases he
      · exact ⟨hheader, hlibrary⟩
    · cases he
  · obtain ⟨w', hw'⟩ : ∃ w', coldProcess.restoreState SlotState.failingLibrary
        (cancelledCodec SlotState.sequenceBlob) [] = some (.error (.failedRestore 4), w') := ⟨_, rfl⟩
    have hleft : (coldProcess.restoreState SlotState.failingLibrary
        (cancelledCodec SlotState.sequenceBlob) []).map
          (fun r => r.2.platform.map fun p => p.state.failure) =
        some (some (FailureState.new.fail 1 1)) := rfl
    rcases restoreState_error SlotState.failingLibrary (cancelledCodec SlotState.sequenceBlob)
      coldProcess w' [] (.failedRestore 4) hw'
      with ⟨msg, he, -⟩ | ⟨st, p, hdec, hp, ⟨⟨he, -⟩ | ⟨he, -⟩, -⟩ |
        ⟨-, -, -, s₁, s₂, failure, imports, hs₁, himported, -, rfl, -, hplatform⟩⟩
    · cases he
    · cases he
    · cases he
    · obtain rfl := Except.ok.inj hdec
      rw [hw', Option.map_some, hplatform] at hleft
      have hfailure := Option.some.inj (Option.some.inj hleft)
      refine ⟨w', _, s₁, imports, hw', hs₁, ?_, hplatform, rfl, hfailure⟩
      exact himported

/-- The platform it leaves is not the one before. -/
theorem restoreState_error_changes :
    ¬ ∀ (codec : Codec) (w w' : Process miniBuild Unit) (state : List UInt8) (e : Error),
      w.restoreState miniLibrary codec state = some (.error e, w') →
      (∀ p, w.platform = some p → ∃ p', w'.platform = some p' ∧ p'.state = p.state) ∧
        ∀ v ∈ miniBuild.tpmRuntimeVariables, w'.library.contents v = w.library.contents v := by
  intro h
  obtain ⟨p', hp', hstate⟩ := (h emptyLibraryCodec coldProcess _ [] .invalidRestoreSize rfl).1 _ rfl
  obtain rfl := Option.some.inj hp'
  exact absurd (congrArg (fun s => s.cancel.flag) hstate) (by decide)

end Process

end TpmPlatform
