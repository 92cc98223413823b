/-
# The typestate of the object slots

An occupied sequence slot is live when its crypto state belongs to this process, and
exported when it holds bytes of a blob that `SequenceDataImport` has not processed.
Flushing or exporting a slot in exported form would take bytes of a blob for a
handle.  The copy of a blob over `s_objects` exports every sequence slot at once, and
the import loop brings them back one at a time; it gives up at a failing one.

`slots_safe_iff` : along every sequence of saves and restores, no call is ever made on
an exported slot exactly when nothing is saved or restored after a restore in which
an import failed.
-/
import TpmPlatform.Runs
import TpmPlatform.RuntimeStateSteps
import Mathlib.Data.List.Range

namespace TpmPlatform

open Runs

/-! ## The monitor -/

namespace SlotCall

/-- A call that may be made while the slots in `exported` are in exported form. -/
def safe (exported : ℕ → Bool) : SlotCall → Bool
  | .objectFlush slot => !exported slot
  | .sequenceDataExport slot => !exported slot
  | .copyObjects _ => true
  | .sequenceDataImport _ _ => true

/-- Which slots are in exported form after a call. -/
def after (exported : ℕ → Bool) : SlotCall → ℕ → Bool
  | .objectFlush slot => Function.update exported slot false
  | .sequenceDataExport _ => exported
  | .copyObjects selected => selected
  | .sequenceDataImport slot success =>
    if success then Function.update exported slot false else exported

/-- Whether an import has failed since the last copy of a blob. -/
def failedAfter (failed : Bool) : SlotCall → Bool
  | .copyObjects _ => false
  | .sequenceDataImport _ success => failed || !success
  | _ => failed

/-- All calls of a list are safe when they are made. -/
def allSafe : (ℕ → Bool) → List SlotCall → Bool
  | _, [] => true
  | exported, call :: calls => call.safe exported && allSafe (call.after exported) calls

theorem allSafe_append (exported : ℕ → Bool) (calls calls' : List SlotCall) :
    allSafe exported (calls ++ calls') =
      (allSafe exported calls && allSafe (calls.foldl after exported) calls') := by
  induction calls generalizing exported with
  | nil => rfl
  | cons call calls ih =>
      rw [List.cons_append, allSafe, allSafe, ih, List.foldl_cons, Bool.and_assoc]

/-- Calls that are safe in any case. -/
theorem allSafe_of_forall {calls : List SlotCall}
    (h : ∀ call ∈ calls, ∀ exported, call.safe exported = true) (exported : ℕ → Bool) :
    allSafe exported calls = true := by
  induction calls generalizing exported with
  | nil => rfl
  | cons call calls ih =>
      rw [allSafe, h call List.mem_cons_self, Bool.true_and]
      exact ih (fun c hc => h c (List.mem_cons_of_mem call hc)) _

/-- Exports move no slot. -/
theorem foldl_after_exports {calls : List SlotCall}
    (h : ∀ call ∈ calls, ∃ slot, call = .sequenceDataExport slot) (exported : ℕ → Bool) :
    calls.foldl after exported = exported := by
  induction calls with
  | nil => rfl
  | cons call calls ih =>
      obtain ⟨slot, rfl⟩ := h call List.mem_cons_self
      exact ih fun c hc => h c (List.mem_cons_of_mem _ hc)

theorem foldl_failedAfter_exports {calls : List SlotCall}
    (h : ∀ call ∈ calls, ∃ slot, call = .sequenceDataExport slot) (failed : Bool) :
    calls.foldl failedAfter failed = failed := by
  induction calls with
  | nil => rfl
  | cons call calls ih =>
      obtain ⟨slot, rfl⟩ := h call List.mem_cons_self
      exact ih fun c hc => h c (List.mem_cons_of_mem _ hc)

/-- Exports are safe when none is of an exported slot. -/
theorem allSafe_exports {calls : List SlotCall}
    (h : ∀ call ∈ calls, ∃ slot, call = .sequenceDataExport slot) (exported : ℕ → Bool) :
    allSafe exported calls = true ↔
      ∀ slot, .sequenceDataExport slot ∈ calls → exported slot = false := by
  induction calls with
  | nil => exact iff_of_true rfl fun slot hmem => (by cases hmem)
  | cons call calls ih =>
      obtain ⟨slot, rfl⟩ := h call List.mem_cons_self
      have hrest := ih fun c hc => h c (List.mem_cons_of_mem _ hc)
      rw [allSafe, safe, Bool.and_eq_true, Bool.not_eq_true']
      constructor
      · rintro ⟨hslot, hcalls⟩ slot' hmem
        rcases List.mem_cons.mp hmem with heq | hmem
        · cases heq
          exact hslot
        · exact hrest.mp hcalls slot' hmem
      · intro hall
        exact ⟨hall slot List.mem_cons_self,
          hrest.mpr fun slot' hmem => hall slot' (List.mem_cons_of_mem _ hmem)⟩

/-- Flushing the first `n` slots brings them out of exported form. -/
theorem foldl_after_flushes (exported : ℕ → Bool) (n slot : ℕ) :
    ((List.range n).map objectFlush).foldl after exported slot =
      if slot < n then false else exported slot := by
  induction n with
  | zero => rfl
  | succ n ih =>
      rw [List.range_succ, List.map_append, List.foldl_append, List.map_singleton,
        List.foldl_cons, List.foldl_nil, after]
      by_cases hslot : slot = n
      · rw [hslot, Function.update_self, if_pos (by omega)]
      · rw [Function.update_of_ne hslot, ih]
        by_cases hlt : slot < n
        · rw [if_pos hlt, if_pos (by omega)]
        · rw [if_neg hlt, if_neg (by omega)]

/-- Flushing the first `n` slots is safe when none of them is exported. -/
theorem allSafe_flushes (exported : ℕ → Bool) (n : ℕ) :
    allSafe exported ((List.range n).map objectFlush) = true ↔
      ∀ slot < n, exported slot = false := by
  induction n with
  | zero => exact iff_of_true rfl fun slot hlt => absurd hlt (Nat.not_lt_zero slot)
  | succ n ih =>
      rw [List.range_succ, List.map_append, allSafe_append, Bool.and_eq_true, ih,
        List.map_singleton, allSafe, allSafe, Bool.and_true, safe, foldl_after_flushes,
        if_neg (Nat.lt_irrefl n), Bool.not_eq_true']
      constructor
      · rintro ⟨hall, hn⟩ slot hlt
        by_cases hslot : slot = n
        · exact hslot ▸ hn
        · exact hall slot (by omega)
      · intro hall
        exact ⟨fun slot hlt => hall slot (by omega), hall n (by omega)⟩

end SlotCall

variable {ι : Type} {B : Build ι} {ρ : Type}

/-! ## The calls of a save -/

@[simp] theorem selectedSlots_zero (object : B.Object) (objects : List B.Object) :
    selectedSlots (object :: objects) 0 = Build.isOccupiedSequence object := rfl

@[simp] theorem selectedSlots_succ (object : B.Object) (objects : List B.Object) (slot : ℕ) :
    selectedSlots (object :: objects) (slot + 1) = selectedSlots objects slot := rfl

/-- The export loop exports the selected slots. -/
theorem mem_exportSequenceObjectStates {lib : TpmLibrary B ρ} {objects : List B.Object}
    {slot off : ℕ} {buf buf' : List UInt8} {calls : List SlotCall}
    (h : exportSequenceObjectStates lib objects slot off buf = some (buf', calls))
    (call : SlotCall) :
    call ∈ calls ↔ ∃ k, selectedSlots objects k = true ∧ call = .sequenceDataExport (slot + k) := by
  induction objects generalizing slot off buf calls with
  | nil =>
      obtain ⟨-, rfl⟩ := Prod.mk.inj (Option.some.inj h)
      refine iff_of_false List.not_mem_nil ?_
      rintro ⟨k, hk, -⟩
      cases hk
  | cons object objects ih =>
      have hshift : (∃ k, selectedSlots (object :: objects) k = true ∧
          call = .sequenceDataExport (slot + k)) ↔
          (Build.isOccupiedSequence object = true ∧ call = .sequenceDataExport slot) ∨
          ∃ k, selectedSlots objects k = true ∧ call = .sequenceDataExport (slot + 1 + k) := by
        constructor
        · rintro ⟨k, hk, rfl⟩
          cases k with
          | zero => exact Or.inl ⟨hk, rfl⟩
          | succ k => exact Or.inr ⟨k, hk, by rw [Nat.add_right_comm, Nat.add_assoc]⟩
        · rintro (⟨hocc, rfl⟩ | ⟨k, hk, rfl⟩)
          · exact ⟨0, hocc, rfl⟩
          · exact ⟨k + 1, hk, by rw [Nat.add_right_comm, Nat.add_assoc]⟩
      rw [hshift]
      unfold exportSequenceObjectStates at h
      by_cases hocc : Build.isOccupiedSequence object = true
      · rw [if_pos hocc] at h
        simp only [Option.bind_eq_bind, Option.bind_eq_some_iff, Option.pure_def,
          Option.some.injEq, Prod.mk.injEq] at h
        obtain ⟨staged, -, ⟨buf₁, calls₁⟩, hrest, rfl, rfl⟩ := h
        rw [List.mem_cons, ih hrest]
        exact or_congr (by rw [hocc]; simp) Iff.rfl
      · rw [if_neg hocc] at h
        rw [ih h]
        constructor
        · exact Or.inr
        · rintro (⟨hc, -⟩ | hrest)
          · exact absurd hc hocc
          · exact hrest

/-- A save exports the selected slots of `s_objects` and makes no other call. -/
theorem mem_saveVariables {lib : TpmLibrary B ρ} {s : LibraryState B ρ}
    {vars : List (RuntimeVariable ι)} {off : ℕ} {buf buf' : List UInt8} {calls : List SlotCall}
    (h : saveVariables lib s vars off buf = some (buf', calls)) (call : SlotCall) :
    call ∈ calls ↔ .sObjects ∈ vars ∧
      ∃ k, selectedSlots s.sObjects.toList k = true ∧ call = .sequenceDataExport k := by
  induction vars generalizing off buf calls with
  | nil =>
      obtain ⟨-, rfl⟩ := Prod.mk.inj (Option.some.inj h)
      exact iff_of_false List.not_mem_nil fun hmem => (by cases hmem.1)
  | cons v vars ih =>
      unfold saveVariables at h
      simp only [Option.bind_eq_bind, Option.bind_eq_some_iff, Option.pure_def,
        Option.some.injEq, Prod.mk.injEq] at h
      obtain ⟨buf₁, -, ⟨buf₂, exports⟩, hexports, ⟨buf₃, calls₃⟩, hrest, rfl, rfl⟩ := h
      rw [List.mem_append, ih hrest, List.mem_cons]
      cases v with
      | global v =>
          obtain ⟨-, rfl⟩ := Prod.mk.inj (Option.some.inj hexports)
          simp
      | sObjects =>
          rw [mem_exportSequenceObjectStates hexports]
          simp only [Nat.zero_add]
          constructor
          · rintro (hexport | ⟨-, hexport⟩)
            · exact ⟨Or.inl trivial, hexport⟩
            · exact ⟨Or.inl trivial, hexport⟩
          · rintro ⟨-, hexport⟩
            exact Or.inl hexport

/-! ## The calls of a restore -/

/-- Binding the SMAC methods changes no attribute, so that a slot stays what it is. -/
theorem isOccupiedSequence_rebindSmac (lib : TpmLibrary B ρ) (object : B.Object) :
    Build.isOccupiedSequence (rebindSmac lib object) = Build.isOccupiedSequence object := by
  have hattributes : B.layout.attributes.get (rebindSmac lib object) =
      B.layout.attributes.get object :=
    (smacRebound_rebindSmac lib object).others _ fun j g _ => B.layout.attributes_disjoint j g
  unfold Build.isOccupiedSequence Build.attributeBit
  rw [hattributes]

/-- The documented behaviour of a failing `SequenceDataImport`: it leaves the slot an
occupied sequence. -/
def LeavesSequence (lib : TpmLibrary B ρ) : Prop :=
  ∀ object staged rest, (lib.sequenceDataImport object staged rest).failures ≠ [] →
    Build.isOccupiedSequence object = true →
    Build.isOccupiedSequence (lib.sequenceDataImport object staged rest).object = true

/-- What the import loop has done from slot `slot` on: no call is unsafe, the slots below
are as they were, those still exported are occupied sequences, and there is one exactly
when an import has failed. -/
structure ImportTracks (exported : ℕ → Bool) (slot : ℕ) (objects : List B.Object)
    (calls : List SlotCall) : Prop where
  safe : ∀ call ∈ calls, ∀ e, call.safe e = true
  below : ∀ k < slot, calls.foldl SlotCall.after exported k = exported k
  selected : ∀ k, calls.foldl SlotCall.after exported (slot + k) = true →
    selectedSlots objects k = true
  failed_iff : ∀ failed, calls.foldl SlotCall.failedAfter failed = true ↔
    failed = true ∨ ∃ k, calls.foldl SlotCall.after exported (slot + k) = true

namespace ImportTracks

/-- What is exported from `slot` on is exported at `slot` or beyond it. -/
theorem exists_split (e : ℕ → Bool) (slot : ℕ) :
    (∃ k, e (slot + k) = true) ↔ e slot = true ∨ ∃ k, e (slot + 1 + k) = true := by
  constructor
  · rintro ⟨k, hk⟩
    cases k with
    | zero => exact Or.inl hk
    | succ k => exact Or.inr ⟨k, by rw [Nat.add_right_comm]; exact hk⟩
  · rintro (hk | ⟨k, hk⟩)
    · exact ⟨0, hk⟩
    · exact ⟨k + 1, by rw [← Nat.add_assoc, Nat.add_right_comm]; exact hk⟩

/-- The loop at its end: nothing is left that could be exported. -/
theorem nil {exported : ℕ → Bool} {slot : ℕ} (h : ∀ k, exported (slot + k) = false) :
    ImportTracks (B := B) exported slot [] [] where
  safe := by simp
  below k _ := rfl
  selected k hk := by
    rw [List.foldl_nil, h] at hk
    cases hk
  failed_iff failed := by
    constructor
    · exact Or.inl
    · rintro (hf | ⟨k, hk⟩)
      · exact hf
      · rw [List.foldl_nil, h] at hk
        cases hk

/-- A slot that is no occupied sequence is passed over. -/
theorem skip {exported : ℕ → Bool} {slot : ℕ} {object : B.Object} {objects : List B.Object}
    {calls : List SlotCall} (hslot : exported slot = false)
    (h : ImportTracks exported (slot + 1) objects calls) :
    ImportTracks exported slot (object :: objects) calls := by
  have hat : calls.foldl SlotCall.after exported slot = false := by
    rw [h.below slot (by omega), hslot]
  refine ⟨h.safe, fun k hk => h.below k (by omega), ?_, ?_⟩
  · intro k hk
    cases k with
    | zero =>
        rw [Nat.add_zero, hat] at hk
        cases hk
    | succ k =>
        rw [← Nat.add_assoc, Nat.add_right_comm] at hk
        exact h.selected k hk
  · intro failed
    rw [h.failed_iff, exists_split _ slot, hat]
    simp

/-- At a failing import the loop gives up: the slot and those beyond it stay exported. -/
theorem stop {exported : ℕ → Bool} {slot : ℕ} {object object' : B.Object}
    {objects : List B.Object}
    (hexported : ∀ k, exported (slot + k) = selectedSlots (object :: objects) k)
    (hocc : Build.isOccupiedSequence object = true)
    (hocc' : Build.isOccupiedSequence object' = true) :
    ImportTracks exported slot (object' :: objects) [.sequenceDataImport slot false] := by
  refine ⟨by simp [SlotCall.safe], fun k _ => rfl, ?_, ?_⟩
  · intro k hk
    cases k with
    | zero => exact hocc'
    | succ k => exact (hexported (k + 1)).symm.trans hk
  · intro failed
    exact iff_of_true (Bool.or_true failed) (Or.inr ⟨0, (hexported 0).trans hocc⟩)

/-- After an import the loop goes on: the slot is out of exported form if it succeeded,
and still an occupied sequence if it failed. -/
theorem goOn {exported : ℕ → Bool} {slot : ℕ} {object : B.Object} {objects : List B.Object}
    {calls : List SlotCall} {success : Bool} (hslot : exported slot = true)
    (hocc : success = false → Build.isOccupiedSequence object = true)
    (h : ImportTracks (SlotCall.after exported (.sequenceDataImport slot success)) (slot + 1)
      objects calls) :
    ImportTracks exported slot (object :: objects)
      (.sequenceDataImport slot success :: calls) := by
  have hat : calls.foldl SlotCall.after
      (SlotCall.after exported (.sequenceDataImport slot success)) slot = !success := by
    rw [h.below slot (by omega), SlotCall.after]
    cases success with
    | true => exact Function.update_self slot false exported
    | false => exact hslot
  refine ⟨?_, ?_, ?_, ?_⟩
  · intro call hcall e
    rcases List.mem_cons.mp hcall with rfl | hcall
    · rfl
    · exact h.safe call hcall e
  · intro k hk
    rw [List.foldl_cons, h.below k (by omega), SlotCall.after]
    cases success with
    | true => exact Function.update_of_ne (Nat.ne_of_lt hk) false exported
    | false => rfl
  · intro k hk
    cases k with
    | zero =>
        rw [List.foldl_cons, Nat.add_zero, hat, Bool.not_eq_true'] at hk
        exact hocc hk
    | succ k =>
        rw [List.foldl_cons, ← Nat.add_assoc, Nat.add_right_comm] at hk
        exact h.selected k hk
  · intro failed
    rw [List.foldl_cons, List.foldl_cons, SlotCall.failedAfter, h.failed_iff,
      exists_split _ slot, hat, Bool.or_eq_true, or_assoc]

end ImportTracks

/-- **The import loop.**  Started with the selected slots exported, it ends with those
exported that are still occupied sequences and whose import failed or was not reached;
there is one exactly when an import has failed. -/
theorem importSequenceObjectStates_tracks {lib : TpmLibrary B ρ} (hleaves : LeavesSequence lib)
    {wasInFailureMode : Bool} {objects objects' : List B.Object} {slot : ℕ}
    {st st' : ImportState ρ} {ok : Bool} {calls : List SlotCall} {exported : ℕ → Bool}
    (h : importSequenceObjectStates lib wasInFailureMode objects slot st =
      (ok, objects', st', calls))
    (hfailure : wasInFailureMode = false → st.failure.inFailureMode = false)
    (hexported : ∀ k, exported (slot + k) = selectedSlots objects k) :
    ImportTracks exported slot objects' calls := by
  induction objects generalizing objects' slot st st' ok calls exported with
  | nil =>
      obtain ⟨rfl, rfl, rfl, rfl⟩ : _ ∧ _ ∧ _ ∧ _ := by simpa [importSequenceObjectStates] using h
      exact ImportTracks.nil hexported
  | cons object objects ih =>
      have hbeyond : ∀ k, exported (slot + 1 + k) = selectedSlots objects k := by
        intro k
        rw [← selectedSlots_succ object objects k, ← hexported (k + 1), Nat.add_right_comm,
          Nat.add_assoc]
      have hhead : exported slot = Build.isOccupiedSequence object := hexported 0
      unfold importSequenceObjectStates at h
      by_cases hocc : Build.isOccupiedSequence object = true
      · rw [if_pos hocc] at h
        dsimp only at h
        set outcome := lib.sequenceDataImport object object st.rest with houtcome
        set failure := outcome.failures.foldl (fun s f => s.fail f.locationCode f.failureCode)
          st.failure with hfail
        have hocc' : outcome.failures.isEmpty = false →
            Build.isOccupiedSequence outcome.object = true := by
          intro hempty
          exact hleaves object object st.rest (List.isEmpty_eq_false_iff.mp hempty) hocc
        by_cases hstop : (!wasInFailureMode && failure.inFailureMode) = true
        · -- failure mode is newly entered, so the import has reported a failure
          rw [if_pos hstop] at h
          obtain ⟨rfl, rfl, rfl, rfl⟩ : _ ∧ _ ∧ _ ∧ _ := by simpa using h
          rw [Bool.and_eq_true, Bool.not_eq_true'] at hstop
          have hempty : outcome.failures.isEmpty = false := by
            rw [List.isEmpty_eq_false_iff]
            intro hnil
            rw [hfail, hnil, List.foldl_nil, hfailure hstop.1] at hstop
            cases hstop.2
          rw [hempty]
          exact ImportTracks.stop hexported hocc (hocc' hempty)
        · rw [if_neg hstop] at h
          cases hrec : importSequenceObjectStates lib wasInFailureMode objects (slot + 1)
              { rest := outcome.rest, failure := failure } with
          | mk ok₁ rest₁ =>
          obtain ⟨objects₁, st₁, calls₁⟩ := rest₁
          rw [hrec] at h
          obtain ⟨rfl, rfl, rfl, rfl⟩ : _ ∧ _ ∧ _ ∧ _ := by simpa using h
          have hfailure₁ : wasInFailureMode = false → failure.inFailureMode = false := by
            intro hwas
            rw [hwas, Bool.not_false, Bool.true_and, Bool.not_eq_true] at hstop
            exact hstop
          have hbeyond₁ : ∀ k, SlotCall.after exported
              (.sequenceDataImport slot outcome.failures.isEmpty) (slot + 1 + k) =
                selectedSlots objects k := by
            intro k
            rw [← hbeyond, SlotCall.after]
            split_ifs
            · exact Function.update_of_ne (by omega) _ _
            · rfl
          apply ImportTracks.goOn (hhead.trans hocc) ?_ (ih hrec hfailure₁ hbeyond₁)
          intro hempty
          rw [isOccupiedSequence_rebindSmac]
          exact hocc' hempty
      · rw [if_neg hocc] at h
        dsimp only at h
        cases hrec : importSequenceObjectStates lib wasInFailureMode objects (slot + 1) st with
        | mk ok₁ rest₁ =>
        obtain ⟨objects₁, st₁, calls₁⟩ := rest₁
        rw [hrec] at h
        obtain ⟨rfl, rfl, rfl, rfl⟩ : _ ∧ _ ∧ _ ∧ _ := by simpa using h
        rw [Bool.not_eq_true] at hocc
        exact (ih hrec hfailure hbeyond).skip (hhead.trans hocc)

/-! ## Runs of saves and restores -/

/-- The library's memory with the state of the monitor: the slots in exported form,
whether an import has failed since the last copy of a blob, and whether a call has been
made on an exported slot. -/
structure SlotState {ι : Type} (B : Build ι) (ρ : Type) where
  library : LibraryState B ρ
  exported : ℕ → Bool
  failed : Bool
  misused : Bool

/-- A call of one of the two hooks; a restore also meets some failure state of the
platform. -/
inductive HookCall
  | getRuntimeState (pBuffer : Option (List UInt8)) (pBufferSize : Option UInt32)
  | applyRuntimeState (failure : FailureState) (pRuntimeStateBuffer : Option (List UInt8))
      (runtimeStateBufferSize : UInt32)

/-- The argument, size and header checks of the call pass. -/
def HookCall.Passes (B : Build ι) : HookCall → Prop
  | .getRuntimeState pBuffer pBufferSize => B.Offers pBuffer pBufferSize
  | .applyRuntimeState _ pRuntimeStateBuffer size =>
    ∃ blob, pRuntimeStateBuffer = some blob ∧ B.Accepts blob size

namespace SlotState

/-- A memory in which every occupied sequence slot is live. -/
def live (library : LibraryState B ρ) : SlotState B ρ where
  library := library
  exported := fun _ => false
  failed := false
  misused := false

/-- The monitor after the calls of a hook. -/
def observe (s : SlotState B ρ) (library : LibraryState B ρ) (calls : List SlotCall) :
    SlotState B ρ where
  library := library
  exported := calls.foldl SlotCall.after s.exported
  failed := calls.foldl SlotCall.failedAfter s.failed
  misused := s.misused || !SlotCall.allSafe s.exported calls

/-- One call of a hook. -/
def step [DecidableEq ι] (lib : TpmLibrary B ρ) (s : SlotState B ρ) :
    HookCall → Option (SlotState B ρ)
  | .getRuntimeState pBuffer pBufferSize =>
    (injectedGetRuntimeState lib s.library pBuffer pBufferSize).map fun r =>
      s.observe s.library r.calls
  | .applyRuntimeState failure pRuntimeStateBuffer size =>
    (injectedApplyRuntimeState lib s.library failure pRuntimeStateBuffer size).map fun r =>
      s.observe r.state r.calls

/-- The calls that come in time: none that gets past its checks follows a restore in
which an import failed. -/
def Timely (s : SlotState B ρ) (call : HookCall) : Prop :=
  call.Passes B → s.failed = false

/-- The monitor is right about the memory: exported slots are occupied sequences, and
there are some exactly when an import has failed. -/
structure Tracks (s : SlotState B ρ) : Prop where
  selected : ∀ slot, s.exported slot = true → selectedSlots s.library.sObjects.toList slot = true
  failed_iff : s.failed = true ↔ ∃ slot, s.exported slot = true

theorem tracks_live (library : LibraryState B ρ) : (live library).Tracks where
  selected := by
    intro slot hslot
    cases hslot
  failed_iff := iff_of_false Bool.false_ne_true (by rintro ⟨slot, hslot⟩; cases hslot)

/-- Without a failed import no slot is exported. -/
theorem Tracks.exported_eq_false_iff {s : SlotState B ρ} (h : s.Tracks) :
    (∀ slot, selectedSlots s.library.sObjects.toList slot = true → s.exported slot = false) ↔
      s.failed = false := by
  rw [← Bool.not_eq_true, h.failed_iff]
  constructor
  · rintro hall ⟨slot, hslot⟩
    rw [hall slot (h.selected slot hslot)] at hslot
    cases hslot
  · intro hnone slot _
    rw [← Bool.not_eq_true]
    exact fun hslot => hnone ⟨slot, hslot⟩

/-- A selected slot is a slot. -/
theorem lt_of_selectedSlots {library : LibraryState B ρ} {slot : ℕ}
    (h : selectedSlots library.sObjects.toList slot = true) : slot < B.maxLoadedObjects := by
  by_contra hlt
  rw [selectedSlots, List.getElem?_eq_none (by rw [List.Vector.toList_length]; omega)] at h
  cases h

/-- A call that is refused by its checks makes no call on a slot. -/
theorem observe_nil (s : SlotState B ρ) : s.observe s.library [] = s := by
  simp [observe, SlotCall.allSafe]

/-- **A save** that passes its checks misuses a slot exactly when one is exported. -/
theorem observe_save {s : SlotState B ρ} {calls : List SlotCall} (h : s.Tracks)
    (hcalls : ∀ call, call ∈ calls ↔
      ∃ k, selectedSlots s.library.sObjects.toList k = true ∧ call = .sequenceDataExport k) :
    (s.observe s.library calls).Tracks ∧
      (s.misused = false → ((s.observe s.library calls).misused = false ↔ s.failed = false)) := by
  have hexports : ∀ call ∈ calls, ∃ slot, call = .sequenceDataExport slot := by
    intro call hcall
    obtain ⟨k, -, rfl⟩ := (hcalls call).mp hcall
    exact ⟨k, rfl⟩
  refine ⟨⟨?_, ?_⟩, ?_⟩
  · intro slot hslot
    rw [observe, SlotCall.foldl_after_exports hexports] at hslot
    exact h.selected slot hslot
  · rw [observe, SlotCall.foldl_after_exports hexports,
      SlotCall.foldl_failedAfter_exports hexports]
    exact h.failed_iff
  · intro hmisused
    rw [observe, hmisused, Bool.false_or, Bool.not_eq_false', SlotCall.allSafe_exports hexports,
      ← h.exported_eq_false_iff]
    constructor
    · intro hall slot hslot
      exact hall slot ((hcalls _).mpr ⟨slot, hslot, rfl⟩)
    · intro hall slot hmem
      obtain ⟨k, hk, heq⟩ := (hcalls _).mp hmem
      cases heq
      exact hall slot hk

/-- **A restore** that passes its checks misuses a slot exactly when one is exported;
afterwards those are exported whose import failed or was not reached. -/
theorem observe_restore {lib : TpmLibrary B ρ} (hleaves : LeavesSequence lib) {s : SlotState B ρ}
    (h : s.Tracks) (s₁ : LibraryState B ρ) (failure : FailureState) :
    (s.observe (s₁.applyResult lib failure).state (s₁.applyResult lib failure).calls).Tracks ∧
      (s.misused = false →
        ((s.observe (s₁.applyResult lib failure).state
          (s₁.applyResult lib failure).calls).misused = false ↔ s.failed = false)) := by
  cases hrun : importSequenceObjectStates lib failure.inFailureMode s₁.sObjects.toList 0
      { rest := s₁.rest, failure := failure } with
  | mk ok rest =>
  obtain ⟨objects, st, imports⟩ := rest
  have hstate : (s₁.applyResult lib failure).state.sObjects.toList = objects := by
    show (importSequenceObjectStates lib failure.inFailureMode s₁.sObjects.toList 0
      { rest := s₁.rest, failure := failure }).2.1 = objects
    rw [hrun]
  have hcalls : (s₁.applyResult lib failure).calls =
      flushCalls B ++ (.copyObjects (selectedSlots s₁.sObjects.toList) :: imports) := by
    show flushCalls B ++ (.copyObjects (selectedSlots s₁.sObjects.toList) ::
      (importSequenceObjectStates lib failure.inFailureMode s₁.sObjects.toList 0
        { rest := s₁.rest, failure := failure }).2.2.2) = _
    rw [hrun]
  -- the copy of the blob exports the selected slots, and the import loop starts from there
  have hcopied : ∀ k, selectedSlots s₁.sObjects.toList (0 + k) =
      selectedSlots s₁.sObjects.toList k := by
    intro k
    rw [Nat.zero_add]
  obtain ⟨hsafe, -, hselected, hfailed⟩ :=
    importSequenceObjectStates_tracks hleaves hrun (fun hwas => hwas) hcopied
  replace hfailed := hfailed false
  simp only [Nat.zero_add, Bool.false_eq_true, false_or] at hselected hfailed
  refine ⟨⟨?_, ?_⟩, ?_⟩
  · intro slot hslot
    rw [observe, hcalls, List.foldl_append] at hslot
    rw [observe, hstate]
    exact hselected slot hslot
  · rw [observe, hcalls, List.foldl_append, List.foldl_append]
    exact hfailed
  · intro hmisused
    have himports : SlotCall.allSafe ((flushCalls B).foldl SlotCall.after s.exported)
        (.copyObjects (selectedSlots s₁.sObjects.toList) :: imports) = true := by
      apply SlotCall.allSafe_of_forall
      intro call hcall e
      rcases List.mem_cons.mp hcall with rfl | hcall
      · rfl
      · exact hsafe call hcall e
    rw [observe, hcalls, hmisused, Bool.false_or, Bool.not_eq_false', SlotCall.allSafe_append,
      himports, Bool.and_true, flushCalls, SlotCall.allSafe_flushes, ← h.exported_eq_false_iff]
    constructor
    · intro hall slot hslot
      exact hall slot (lt_of_selectedSlots hslot)
    · intro hall slot _
      cases hslot : s.exported slot with
      | false => rfl
      | true => rw [hall slot (h.selected slot hslot)] at hslot; cases hslot

/-- **One call of a hook** keeps the monitor right, and misuses a slot exactly when it
is not timely. -/
theorem step_spec [DecidableEq ι] {lib : TpmLibrary B ρ} (hleaves : LeavesSequence lib)
    {s s' : SlotState B ρ} {call : HookCall} (h : s.Tracks) (hstep : s.step lib call = some s') :
    s'.Tracks ∧ (s.misused = false → (s'.misused = false ↔ s.Timely call)) := by
  have hrefused : ¬ call.Passes B →
      s.Tracks ∧ (s.misused = false → (s.misused = false ↔ s.Timely call)) := by
    intro hnot
    exact ⟨h, fun hmisused => iff_of_true hmisused fun hpasses => absurd hpasses hnot⟩
  have hpassed : call.Passes B → (s.Timely call ↔ s.failed = false) := by
    intro hpasses
    exact ⟨fun htimely => htimely hpasses, fun hfailed _ => hfailed⟩
  cases call with
  | getRuntimeState pBuffer pBufferSize =>
      obtain ⟨r, hr, rfl⟩ := Option.map_eq_some_iff.mp hstep
      rcases injectedGetRuntimeState_cases hr with
        ⟨hnot, -, -, hcalls⟩ | ⟨hoffers, -, buf, filled, saved, -, hsaved, -⟩
      · rw [hcalls, observe_nil]
        exact hrefused hnot
      · rw [hpassed hoffers]
        apply observe_save h
        intro c
        rw [mem_saveVariables hsaved]
        exact and_iff_right B.sObjects_mem
  | applyRuntimeState failure pRuntimeStateBuffer size =>
      obtain ⟨r, hr, rfl⟩ := Option.map_eq_some_iff.mp hstep
      rcases injectedApplyRuntimeState_cases hr with
        ⟨hstate, -, hcalls, hcheck⟩ | ⟨blob, s₁, hblob, haccepts, -, rfl⟩
      · rw [hcalls, hstate, observe_nil]
        apply hrefused
        rintro ⟨blob, hblob, haccepts⟩
        rcases hcheck with ⟨hnull, -⟩ | ⟨blob', hblob', hnot, -⟩
        · rw [hnull] at hblob
          cases hblob
        · rw [hblob'] at hblob
          obtain rfl := Option.some.inj hblob
          exact hnot haccepts
      · rw [hpassed ⟨blob, hblob, haccepts⟩]
        exact observe_restore hleaves h s₁ failure

/-- **Slots are used safely** along a run of saves and restores, from any memory whose
sequence slots are live, exactly when every call of the run is timely. -/
theorem slots_safe_iff [DecidableEq ι] (lib : TpmLibrary B ρ) (hleaves : LeavesSequence lib)
    (library : LibraryState B ρ) (calls : List HookCall) :
    Along (step lib) (fun s => s.misused = false) (live library) calls ↔
      Guarded (step lib) Timely (live library) calls := by
  have htracks : Along (step lib) Tracks (live library) calls :=
    along_of_step (fun s call s' h hstep => (step_spec hleaves h hstep).1)
      (tracks_live library) calls
  have hexact : Along (step lib) (fun s => s.Tracks ∧ s.misused = false) (live library) calls ↔
      Guarded (step lib) Timely (live library) calls := by
    apply along_iff_guarded ?_ ⟨tracks_live library, rfl⟩
    rintro s call s' ⟨h, hmisused⟩ hstep
    obtain ⟨h', hiff⟩ := step_spec hleaves h hstep
    rw [← hiff hmisused]
    exact and_iff_right h'
  rw [← hexact]
  constructor
  · intro hsafe
    exact htracks.and hsafe
  · intro hboth
    exact hboth.mono fun s hs => hs.2

/-- The miniature library with a `SequenceDataImport` that always fails. -/
def failingLibrary : TpmLibrary miniBuild Unit :=
  { miniLibrary with
    sequenceDataImport := fun object _ rest =>
      { object := object, rest := rest, failures := [{ locationCode := 1, failureCode := 1 }] } }

/-- A blob for the miniature build whose first object is a sign sequence. -/
def sequenceBlob : List UInt8 :=
  miniBuild.header ++ (List.replicate 24 0 ++ [3, 0, 0, 0, 0, 0] ++ List.replicate 10 0)

/-- A save into a buffer of the right length. -/
def wholeSave : HookCall := .getRuntimeState (some (List.replicate 56 0)) (some 56)

/-- A restore of this blob. -/
def sequenceRestore : HookCall := .applyRuntimeState .new (some sequenceBlob) 56

/-- A save and a restore whose import fails are safe, and so is a call after them that is
refused; another save is not. -/
theorem slots_safe_refused :
    Along (step failingLibrary) (fun s => s.misused = false) (live miniMemory)
        [wholeSave, sequenceRestore, .getRuntimeState none none] ∧
      ¬ Along (step failingLibrary) (fun s => s.misused = false) (live miniMemory)
        [wholeSave, sequenceRestore, wholeSave] := by
  have hexact := slots_safe_iff failingLibrary (fun _ _ _ _ hocc => hocc) miniMemory
  have hsaved : (step failingLibrary (live miniMemory) wholeSave).map SlotState.failed =
      some false := by decide +kernel
  have hrestored : (runFrom (step failingLibrary) (live miniMemory)
      [wholeSave, sequenceRestore]).map SlotState.failed = some true := by decide +kernel
  have hruns : (runFrom (step failingLibrary) (live miniMemory)
      [wholeSave, sequenceRestore, wholeSave]).isSome = true := by decide +kernel
  refine ⟨(hexact _).mpr fun s₁ hs₁ => ⟨fun _ => rfl, fun s₂ _ => ⟨fun _ => ?_,
    fun _ _ => ⟨fun hpasses => ?_, trivial⟩⟩⟩, fun h => ?_⟩
  · rw [hs₁] at hsaved
    exact Option.some.inj hsaved
  · obtain ⟨_, _, hbuffer, -⟩ := hpasses
    cases hbuffer
  · -- the second save would be in time only if no import had failed
    obtain ⟨s₃, hs₃⟩ := Option.isSome_iff_exists.mp hruns
    obtain ⟨s₂, hs₂, hlast⟩ : ∃ s₂, runFrom (step failingLibrary) (live miniMemory)
        [wholeSave, sequenceRestore] = some s₂ ∧ step failingLibrary s₂ wholeSave = some s₃ :=
      (runFrom_concat_eq_some _).mp hs₃
    have hfailed : s₂.failed = true := by
      rw [hs₂] at hrestored
      exact Option.some.inj hrestored
    have hguarded : Guarded (step failingLibrary) Timely (live miniMemory)
        ([wholeSave, sequenceRestore] ++ [wholeSave]) := (hexact _).mp h
    have htimely : Timely s₂ wholeSave := hguarded.final hs₂ hlast
    have hpasses : wholeSave.Passes miniBuild := ⟨_, _, rfl, rfl, by decide⟩
    rw [htimely hpasses] at hfailed
    cases hfailed

/-- After a restore whose import fails, the next restore flushes the exported slot. -/
theorem slots_not_safe :
    ¬ ∀ (library : LibraryState miniBuild Unit) (calls : List HookCall),
      Along (step failingLibrary) (fun s => s.misused = false) (live library) calls := by
  intro h
  have hrun := h miniMemory [.applyRuntimeState .new (some sequenceBlob) 56,
    .applyRuntimeState .new (some sequenceBlob) 56]
  have hmisused : (runFrom (step failingLibrary) (live miniMemory)
      [.applyRuntimeState .new (some sequenceBlob) 56,
        .applyRuntimeState .new (some sequenceBlob) 56]).map SlotState.misused = some true := by
    rfl
  obtain ⟨s, hs, htrue⟩ := Option.map_eq_some_iff.mp hmisused
  rw [hrun.final hs] at htrue
  cases htrue

end SlotState

end TpmPlatform
