/-
# A second `initialize` on another thread

`PLATFORM` is only ever taken with `try_lock`, on the ground that one thread at a time
can call into the platform: the handle is not `Sync`.  But `initialize` needs no
handle.  While one is live, any other thread may call it; it takes the lock, sees
`Some` and returns `AlreadyInitialized`.

`owner_never_panics_iff` : over all interleavings with any number of such threads, no
`try_lock` of the owner fails exactly when the owner never attempts one while another
thread stands between taking and releasing the lock in its `initialize`;
`second_initialize_invisible` : as long as the handle lives, the platform is what the owner
alone makes of it, whatever the others do, and every `initialize` of theirs is refused.
-/
import TpmPlatform.PlatformSteps
import TpmPlatform.TryLock

namespace TpmPlatform

open Runs

/-- The thread of the live handle, and the threads that call `initialize`. -/
inductive Thread (ι : Type)
  | owner
  | caller (i : ι)
  deriving DecidableEq

/-- What the owner does with the lock: a callback of the library, or the part of a
public method that works on the platform. -/
inductive OwnerSection
  | callback (c : Callback)
  | powerCycle (withNewNvmemBlob : Option (List UInt8))
  | getRuntimeState
  | restoreRuntimeState (state : PlatformState)
  | setCancelFlag (enabled : Bool)
  | setLocality (locality : Locality)
  | drop

/-- The content of the global after a section of the owner, unless it panics. -/
def OwnerSection.run (done : OwnerSection) : Option PlatformImpl → Option (Option PlatformImpl)
  | none => none
  | some p =>
    match done with
    | .callback c => (c.step p).map some
    | .powerCycle withNewNvmemBlob => some (p.powerCycle withNewNvmemBlob).2
    | .getRuntimeState => some p
    | .restoreRuntimeState state => some (p.restoreRuntimeState state)
    | .setCancelFlag enabled => some (p.withCancel enabled)
    | .setLocality locality => some (p.localitySet locality)
    | .drop => some none

/-- What an `initialize` does while it has the lock: its result, unless it goes on without
the lock, and the content of the global. -/
def initializeSection (callbacks : HostCallbacks) (initKind : InitKind) :
    Option PlatformImpl → Except Error Unit × Option PlatformImpl
  | some p => (.error .alreadyInitialized, some p)
  | none =>
    match PlatformImpl.ofInitKind callbacks initKind with
    | .error e => (.error e, none)
    | .ok newPlatform =>
      match newPlatform.signalPowerOn with
      | (.error e, p) => (.error e, some p)
      | (.ok (), p) => (.ok (), some p)

/-- **`initialize`** is this section, and the start of the library if it succeeds. -/
theorem Process.initializePlatform_eq_section {κ : Type} {B : Build κ} {ρ : Type}
    (w : Process B ρ) (callbacks : HostCallbacks) (initKind : InitKind)
    (manufacture tpmInit : LibraryRun B ρ) :
    w.initializePlatform callbacks initKind manufacture tpmInit =
      match initializeSection callbacks initKind w.platform with
      | (.error e, platform) => some (.error e, { w with platform := platform })
      | (.ok (), platform) =>
        startLibrary { w with platform := platform } initKind manufacture tpmInit := by
  obtain ⟨platform, library, handles⟩ := w
  cases platform with
  | some p => rfl
  | none =>
      unfold initializePlatform initializeSection
      cases PlatformImpl.ofInitKind callbacks initKind with
      | error e => rfl
      | ok newPlatform =>
          dsimp only
          obtain ⟨_ | ⟨⟩, p⟩ := newPlatform.signalPowerOn
          · rfl
          · rfl

/-- A step of the owner or of a caller: its `try_lock`, or the end of what it does with
the lock. -/
inductive LockEvent (ι : Type)
  | ownerLocks
  | ownerUnlocks (done : OwnerSection)
  | initializeLocks (i : ι)
  | initializeUnlocks (i : ι) (callbacks : HostCallbacks) (initKind : InitKind)

variable {ι : Type}

/-- The event as a step on the mutex. -/
def LockEvent.action : LockEvent ι → TryLock.Action (Thread ι) (Option PlatformImpl)
  | .ownerLocks => .acquire .owner
  | .ownerUnlocks done => .release .owner done.run
  | .initializeLocks i => .acquire (.caller i)
  | .initializeUnlocks i callbacks initKind =>
    .release (.caller i) fun platform => some (initializeSection callbacks initKind platform).2

/-- The state of `PLATFORM` and of the threads around it. -/
abbrev LockState (ι : Type) := TryLock.State (Thread ι) (Option PlatformImpl)

namespace LockState

variable [DecidableEq ι]

/-- One event of the interleaving. -/
def step (s : LockState ι) (e : LockEvent ι) : Option (LockState ι) := TryLock.step s e.action

/-- The owner has panicked: one of its `try_lock` calls has failed. -/
def OwnerPanicked (s : LockState ι) : Prop := .owner ∈ s.failed

/-- The events that do not bring the owner to the lock while a caller has it. -/
def OwnerUndisturbed (s : LockState ι) : LockEvent ι → Prop
  | .ownerLocks => ∀ i, s.inside (.caller i) = false
  | _ => True

/-- **The owner never panics** in an interleaving with any number of second
initializations exactly when it comes to the lock only while no caller has it. -/
theorem owner_never_panics_iff (p : PlatformImpl) (events : List (LockEvent ι)) :
    Along step (fun s => ¬ OwnerPanicked s) (TryLock.start (some p)) events ↔
      Guarded step OwnerUndisturbed (TryLock.start (some p)) events := by
  have hlibrary := TryLock.never_fails_iff (fun t : Thread ι => t = .owner) (some p)
    (events.map LockEvent.action)
  rw [along_map, guarded_map] at hlibrary
  have hpanic : ∀ s : LockState ι,
      TryLock.NeverFailed (fun t => t = .owner) s ↔ ¬ OwnerPanicked s := by
    intro s
    constructor
    · intro hnever howner
      exact hnever .owner howner rfl
    · rintro hnot t ht rfl
      exact hnot ht
  have halone : ∀ (s : LockState ι) (e : LockEvent ι) (s' : LockState ι), s.step e = some s' →
      (TryLock.Alone (fun t => t = .owner) s e.action ↔ s.OwnerUndisturbed e) := by
    intro s e s' h
    cases e with
    | ownerLocks =>
        constructor
        · intro hall i
          exact hall rfl (.caller i)
        · -- the owner itself is outside, or it could not attempt to enter
          intro hall _ u
          cases u with
          | owner => exact (TryLock.step_acquire h).1
          | caller i => exact hall i
    | ownerUnlocks done => exact Iff.rfl
    | initializeLocks i => exact iff_of_true (fun hc => (by cases hc)) trivial
    | initializeUnlocks i callbacks initKind => exact Iff.rfl
  calc
    Along step (fun s => ¬ OwnerPanicked s) (TryLock.start (some p)) events
        ↔ Along step (TryLock.NeverFailed fun t : Thread ι => t = .owner)
          (TryLock.start (some p)) events :=
      ⟨fun h => h.mono fun s => (hpanic s).mpr, fun h => h.mono fun s => (hpanic s).mp⟩
    _ ↔ Guarded step (fun s e => TryLock.Alone (fun t : Thread ι => t = .owner) s e.action)
          (TryLock.start (some p)) events := hlibrary
    _ ↔ Guarded step OwnerUndisturbed (TryLock.start (some p)) events := Guarded.congr halone

/-- One caller that has taken the lock makes the owner's next `try_lock` fail. -/
theorem owner_panics :
    ¬ ∀ (p : PlatformImpl) (events : List (LockEvent (Fin 1))),
      Along step (fun s => ¬ OwnerPanicked s) (TryLock.start (some p)) events := by
  intro h
  have hrun := h (.new { commits := [] }) [.initializeLocks 0, .ownerLocks]
  exact (hrun.2 _ rfl).2 _ rfl List.mem_cons_self

/-! ## What second initializations do -/

/-- The handle lives as long as others initialize: none of them has the lock after the owner's
drop.  (From there on it would be a first initialization.) -/
def WhileLive (events : List (LockEvent ι)) : Prop :=
  ∀ pre i callbacks initKind suf, events = pre ++ .initializeUnlocks i callbacks initKind :: suf →
    .ownerUnlocks .drop ∉ pre

omit [DecidableEq ι] in
/-- A section of the owner that is no drop leaves a platform. -/
theorem isSome_run {done : OwnerSection} (hdone : done ≠ .drop)
    {platform platform' : Option PlatformImpl} (h : done.run platform = some platform') :
    platform'.isSome = true := by
  cases platform with
  | none => cases h
  | some p =>
      cases done with
      | drop => exact absurd rfl hdone
      | callback c =>
          obtain ⟨p', -, rfl⟩ := Option.map_eq_some_iff.mp h
          rfl
      | _ =>
          obtain rfl := Option.some.inj h
          rfl

/-- Without a drop a platform stays in the global. -/
theorem isSome_step {s s' : LockState ι} {e : LockEvent ι} (hs : s.value.isSome = true)
    (he : e ≠ .ownerUnlocks .drop) (h : s.step e = some s') : s'.value.isSome = true := by
  cases e with
  | ownerLocks =>
      obtain ⟨-, ⟨-, rfl⟩ | ⟨-, rfl⟩⟩ := TryLock.step_acquire h
      · exact hs
      · exact hs
  | initializeLocks i =>
      obtain ⟨-, ⟨-, rfl⟩ | ⟨-, rfl⟩⟩ := TryLock.step_acquire h
      · exact hs
      · exact hs
  | ownerUnlocks done =>
      obtain ⟨-, value, hvalue, rfl⟩ := TryLock.step_release h
      exact isSome_run (fun hc => he (congrArg LockEvent.ownerUnlocks hc)) hvalue
  | initializeUnlocks i callbacks initKind =>
      obtain ⟨-, value, hvalue, rfl⟩ := TryLock.step_release h
      obtain ⟨p, hp⟩ := Option.isSome_iff_exists.mp hs
      rw [hp] at hvalue
      obtain rfl := Option.some.inj hvalue
      rfl

/-- So it does along a run. -/
theorem isSome_runFrom {s s' : LockState ι} {events : List (LockEvent ι)}
    (hs : s.value.isSome = true) (hevents : .ownerUnlocks .drop ∉ events)
    (h : runFrom step s events = some s') : s'.value.isSome = true := by
  have hguard : Guarded step (fun _ e => e ≠ .ownerUnlocks .drop) s events :=
    guarded_of_mem fun e he _ hc => hevents (hc ▸ he)
  exact (along_of_guarded (fun _ _ _ hs he hstep => isSome_step hs he hstep) hs hguard).final h

/-- The sections that the owner completes, in order. -/
def ownerSections : List (LockEvent ι) → List OwnerSection
  | [] => []
  | .ownerUnlocks done :: events => done :: ownerSections events
  | .ownerLocks :: events => ownerSections events
  | .initializeLocks _ :: events => ownerSections events
  | .initializeUnlocks _ _ _ :: events => ownerSections events

/-- The thread is the owner. -/
def Thread.isOwner : Thread ι → Bool
  | .owner => true
  | .caller _ => false

omit [DecidableEq ι] in
/-- They are the effects of the owner's critical sections. -/
theorem effects_ownerSections (events : List (LockEvent ι)) :
    TryLock.effects Thread.isOwner (events.map LockEvent.action) =
      (ownerSections events).map OwnerSection.run := by
  induction events with
  | nil => rfl
  | cons e events ih =>
      cases e with
      | ownerLocks => exact ih
      | ownerUnlocks done => exact congrArg (done.run :: ·) ih
      | initializeLocks i => exact ih
      | initializeUnlocks i callbacks initKind => exact ih

/-- A run of events is a run of the actions that they stand for. -/
theorem runFrom_map_action (s : LockState ι) (events : List (LockEvent ι)) :
    runFrom step s events = runFrom TryLock.step s (events.map LockEvent.action) := by
  induction events generalizing s with
  | nil => rfl
  | cons e events ih =>
      rw [List.map_cons, runFrom_cons, runFrom_cons]
      exact congrArg (Option.bind (TryLock.step s e.action)) (funext ih)

omit [DecidableEq ι] in
/-- The owner's sections on their own, as steps on the content of the global. -/
theorem runFrom_map_run (platform : Option PlatformImpl) (sections : List OwnerSection) :
    runFrom (fun a effect => effect a) platform (sections.map OwnerSection.run) =
      runFrom (fun a (done : OwnerSection) => done.run a) platform sections := by
  induction sections generalizing platform with
  | nil => rfl
  | cons done sections ih =>
      rw [List.map_cons, runFrom_cons, runFrom_cons]
      exact congrArg (Option.bind (done.run platform)) (funext ih)

/-- While the handle lives, an `initialize` leaves what it finds. -/
theorem looks_of_whileLive {p : PlatformImpl} {events : List (LockEvent ι)}
    (hlive : WhileLive events) :
    Guarded step (fun s e => TryLock.Looks Thread.isOwner s e.action) (TryLock.start (some p))
      events := by
  refine guarded_of_initial fun pre e suf s happ hrun => ?_
  cases e with
  | ownerLocks => trivial
  | initializeLocks i => trivial
  | ownerUnlocks done =>
      intro hc
      cases hc
  | initializeUnlocks i callbacks initKind =>
      intro _ value hvalue
      have hthere := isSome_runFrom rfl (hlive pre i callbacks initKind suf happ) hrun
      obtain ⟨q, hq⟩ := Option.isSome_iff_exists.mp hthere
      rw [hq] at hvalue ⊢
      exact (Option.some.inj hvalue).symm

/-- **Second initializations are invisible.**  In every interleaving of a live handle with
any number of threads that call `initialize` with any arguments, whether they get the lock or
not: the global holds what the owner's sections, run one after the other on their own, make of
it; and an `initialize` that has taken the lock finds a platform there, is refused with
`AlreadyInitialized`, and does to no process anything else. -/
theorem second_initialize_invisible (p : PlatformImpl) (events : List (LockEvent ι))
    (s : LockState ι) (hlive : WhileLive events)
    (hrun : runFrom step (TryLock.start (some p)) events = some s) :
    runFrom (fun a (done : OwnerSection) => done.run a) (some p) (ownerSections events) =
        some s.value ∧
      ∀ pre i callbacks initKind suf,
        events = pre ++ .initializeUnlocks i callbacks initKind :: suf →
        ∃ s₁ q, runFrom step (TryLock.start (some p)) pre = some s₁ ∧ s₁.value = some q ∧
          initializeSection callbacks initKind s₁.value =
            (.error .alreadyInitialized, some q) ∧
          ∀ {κ : Type} {B : Build κ} {ρ : Type} (w : Process B ρ)
            (manufacture tpmInit : LibraryRun B ρ), w.platform = s₁.value →
            w.initializePlatform callbacks initKind manufacture tpmInit =
              some (.error .alreadyInitialized, w) := by
  constructor
  · rw [runFrom_map_action] at hrun
    have hlooks := looks_of_whileLive (p := p) hlive
    have hvalue := TryLock.value_of_lookers Thread.isOwner
      ((guarded_map LockEvent.action).mpr hlooks) hrun
    rw [effects_ownerSections, runFrom_map_run] at hvalue
    exact hvalue
  · rintro pre i callbacks initKind suf rfl
    rw [runFrom_append, Option.bind_eq_some_iff] at hrun
    obtain ⟨s₁, hpre, -⟩ := hrun
    have hthere := isSome_runFrom rfl (hlive pre i callbacks initKind suf rfl) hpre
    obtain ⟨q, hq⟩ := Option.isSome_iff_exists.mp hthere
    have hsection : initializeSection callbacks initKind s₁.value =
        (.error .alreadyInitialized, some q) := by
      rw [hq]
      rfl
    refine ⟨s₁, q, hpre, hq, hsection, fun w manufacture tpmInit hw => ?_⟩
    rw [Process.initializePlatform_eq_section, hw, hsection]
    show some (_, { w with platform := some q }) = _
    rw [← hq, ← hw]

/-- A caller stands in its `initialize` while the owner is outside, the owner then sets the
cancel flag, and the caller tries again. -/
theorem second_initialize_invisible_cancel :
    runFrom (fun a (done : OwnerSection) => done.run a) (some (.new { commits := [] }))
      [.setCancelFlag true] = some (some ((PlatformImpl.new { commits := [] }).withCancel true)) ∧
      initializeSection { commits := [] } .coldInit
          (some ((PlatformImpl.new { commits := [] }).withCancel true)) =
        (.error .alreadyInitialized,
          some ((PlatformImpl.new { commits := [] }).withCancel true)) := by
  have hinvisible := second_initialize_invisible (.new { commits := [] })
    [.initializeLocks (0 : Fin 1), .initializeUnlocks 0 { commits := [] } .coldInit, .ownerLocks,
      .ownerUnlocks (.setCancelFlag true), .initializeLocks 0,
      .initializeUnlocks 0 { commits := [] } .coldInit] _ ?_ rfl
  · obtain ⟨hvalue, hrefused⟩ := hinvisible
    obtain ⟨s₁, q, hpre, hq, hsection, -⟩ := hrefused
      [.initializeLocks 0, .initializeUnlocks 0 { commits := [] } .coldInit, .ownerLocks,
        .ownerUnlocks (.setCancelFlag true), .initializeLocks 0] 0 { commits := [] } .coldInit []
      rfl
    obtain rfl := Option.some.inj hpre
    obtain rfl := Option.some.inj hq
    exact ⟨hvalue, hsection⟩
  · intro pre i callbacks initKind suf happ hmem
    have hdrop : LockEvent.ownerUnlocks .drop ∈ pre ++ .initializeUnlocks i callbacks initKind ::
        suf := List.mem_append_left _ hmem
    rw [← happ] at hdrop
    simp at hdrop

end LockState

end TpmPlatform
