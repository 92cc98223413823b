/-
# Try-locks

A mutex that is only ever taken with a try-lock, shared by threads of a type `T`,
around a value of a type `α`.  A thread is outside or inside its critical section;
acquiring and releasing are separate steps, so that any interleaving is a run.  An
attempt that finds the mutex held fails at once and is recorded.

* `consistent_step` : the mutex is held by the thread that is inside, if any;
* `never_fails_iff` : the attempts of a set of threads never fail along a run exactly
  when each is made while every thread is outside;
* `value_of_lookers` : if the other threads only look at the value they find, then any
  interleaving leaves the value that the critical sections of the set leave when run on
  their own.
-/
import TpmPlatform.Runs
import Mathlib.Logic.Function.Basic

namespace TryLock

open Runs

variable {T α : Type*} [DecidableEq T]

/-- The mutex, where the threads are, the threads whose attempts have failed (the last
one first) and the protected value. -/
structure State (T α : Type*) where
  holder : Option T
  inside : T → Bool
  failed : List T
  value : α

/-- A step of a thread: an attempt to enter, or leaving with an effect on the value;
the effect may abort. -/
inductive Action (T α : Type*)
  | acquire (t : T)
  | release (t : T) (effect : α → Option α)

/-- One step.  A thread attempts to enter only from outside and leaves only from
inside. -/
def step (s : State T α) : Action T α → Option (State T α)
  | .acquire t =>
    if s.inside t then none
    else
      match s.holder with
      | none => some { s with holder := some t, inside := Function.update s.inside t true }
      | some _ => some { s with failed := t :: s.failed }
  | .release t effect =>
    if s.inside t then
      (effect s.value).map fun value =>
        { s with holder := none, inside := Function.update s.inside t false, value := value }
    else none

/-- All threads outside, the mutex free. -/
def start (value : α) : State T α where
  holder := none
  inside := fun _ => false
  failed := []
  value := value

/-! ## The mutex and the threads -/

/-- The mutex is held by the thread that is inside. -/
def Consistent (s : State T α) : Prop := ∀ t, s.inside t = true ↔ s.holder = some t

omit [DecidableEq T] in
theorem consistent_start (value : α) : Consistent (start value : State T α) := by
  intro t
  exact iff_of_false Bool.false_ne_true (by intro h; cases h)

omit [DecidableEq T] in
/-- The mutex is free exactly when every thread is outside. -/
theorem Consistent.holder_eq_none_iff {s : State T α} (h : Consistent s) :
    s.holder = none ↔ ∀ t, s.inside t = false := by
  constructor
  · intro hnone t
    rw [← Bool.not_eq_true, h t, hnone]
    exact Option.some_ne_none t ∘ Eq.symm
  · intro hall
    cases hholder : s.holder with
    | none => rfl
    | some t =>
        rw [← h t, hall t] at hholder
        cases hholder

/-- An attempt succeeds when the mutex is free, and is recorded as failed otherwise. -/
theorem step_acquire {s s' : State T α} {t : T} (h : step s (.acquire t) = some s') :
    s.inside t = false ∧
      (s.holder = none ∧ s' =
          { s with holder := some t, inside := Function.update s.inside t true } ∨
        s.holder ≠ none ∧ s' = { s with failed := t :: s.failed }) := by
  rw [step] at h
  by_cases hin : s.inside t = true
  · rw [if_pos hin] at h
    cases h
  · rw [if_neg hin] at h
    refine ⟨Bool.not_eq_true _ ▸ hin, ?_⟩
    cases hholder : s.holder with
    | none =>
        rw [hholder] at h
        exact Or.inl ⟨rfl, (Option.some.inj h).symm⟩
    | some u =>
        rw [hholder] at h
        exact Or.inr ⟨Option.some_ne_none u, (Option.some.inj h).symm⟩

/-- Leaving frees the mutex and records nothing. -/
theorem step_release {s s' : State T α} {t : T} {effect : α → Option α}
    (h : step s (.release t effect) = some s') :
    s.inside t = true ∧ ∃ value, effect s.value = some value ∧ s' =
      { s with holder := none, inside := Function.update s.inside t false, value := value } := by
  rw [step] at h
  by_cases hin : s.inside t = true
  · rw [if_pos hin, Option.map_eq_some_iff] at h
    obtain ⟨value, hvalue, rfl⟩ := h
    exact ⟨hin, value, hvalue, rfl⟩
  · rw [if_neg hin] at h
    cases h

/-- **Mutual exclusion**: the mutex is always held by the thread that is inside. -/
theorem consistent_step {s s' : State T α} {a : Action T α} (hs : Consistent s)
    (h : step s a = some s') : Consistent s' := by
  cases a with
  | acquire t =>
      obtain ⟨-, ⟨hfree, rfl⟩ | ⟨-, rfl⟩⟩ := step_acquire h
      · intro u
        show Function.update s.inside t true u = true ↔ some t = some u
        by_cases hu : u = t
        · rw [hu, Function.update_self]
          exact iff_of_true rfl rfl
        · rw [Function.update_of_ne hu, hs.holder_eq_none_iff.mp hfree u, Option.some.injEq]
          exact iff_of_false Bool.false_ne_true (Ne.symm hu)
      · exact hs
  | release t effect =>
      obtain ⟨hin, value, -, rfl⟩ := step_release h
      intro u
      show Function.update s.inside t false u = true ↔ none = some u
      refine iff_of_false ?_ (by intro hc; cases hc)
      by_cases hu : u = t
      · rw [hu, Function.update_self]
        exact Bool.false_ne_true
      · rw [Function.update_of_ne hu, hs u, (hs t).mp hin, Option.some.injEq]
        exact Ne.symm hu

/-! ## Attempts that never fail -/

/-- The threads in `P` attempt to enter only while every thread is outside. -/
def Alone (P : T → Prop) (s : State T α) : Action T α → Prop
  | .acquire t => P t → ∀ u, s.inside u = false
  | .release _ _ => True

/-- No attempt of a thread in `P` has failed. -/
def NeverFailed (P : T → Prop) (s : State T α) : Prop := ∀ t ∈ s.failed, ¬ P t

/-- One step adds no failure of a thread in `P` exactly when no such thread attempts
to enter while another is inside. -/
theorem neverFailed_step_iff {P : T → Prop} {s s' : State T α} {a : Action T α}
    (hs : Consistent s) (hnever : NeverFailed P s) (h : step s a = some s') :
    NeverFailed P s' ↔ Alone P s a := by
  cases a with
  | acquire t =>
      obtain ⟨-, ⟨hfree, rfl⟩ | ⟨hheld, rfl⟩⟩ := step_acquire h
      · exact iff_of_true hnever fun _ => hs.holder_eq_none_iff.mp hfree
      · constructor
        · intro hall hP
          exact absurd hP (hall t List.mem_cons_self)
        · intro halone u hu hP
          rcases List.mem_cons.mp hu with rfl | hu
          · exact hheld (hs.holder_eq_none_iff.mpr (halone hP))
          · exact hnever u hu hP
  | release t effect =>
      obtain ⟨-, value, -, rfl⟩ := step_release h
      exact iff_of_true hnever trivial

/-- **Uncontended attempts.**  Along any interleaving, no attempt of a thread in `P`
fails exactly when each is made while every thread is outside. -/
theorem never_fails_iff (P : T → Prop) (value : α) (actions : List (Action T α)) :
    Along step (NeverFailed P) (start value) actions ↔
      Guarded step (Alone P) (start value) actions := by
  -- consistency goes along: it reads "the mutex is free" as "every thread is outside"
  have hconsistent : Along step Consistent (start value) actions :=
    along_of_step (fun _ _ _ hs h => consistent_step hs h) (consistent_start value) actions
  have hexact : Along step (fun s => Consistent s ∧ NeverFailed P s) (start value) actions ↔
      Guarded step (Alone P) (start value) actions := by
    apply along_iff_guarded ?_ ⟨consistent_start value, fun t ht => (by cases ht)⟩
    rintro s a s' ⟨hs, hnever⟩ h
    rw [← neverFailed_step_iff hs hnever h]
    exact and_iff_right (consistent_step hs h)
  rw [← hexact]
  exact ⟨fun hnever => hconsistent.and hnever, fun hboth => hboth.mono fun _ hs => hs.2⟩

/-! ## Linearization -/

/-- The effects of the critical sections that threads in `P` complete, in order. -/
def effects (P : T → Bool) : List (Action T α) → List (α → Option α)
  | [] => []
  | .acquire _ :: actions => effects P actions
  | .release t effect :: actions =>
    if P t then effect :: effects P actions else effects P actions

/-- A thread outside `P` leaves the value that it finds. -/
def Looks (P : T → Bool) (s : State T α) : Action T α → Prop
  | .acquire _ => True
  | .release u effect => P u = false → ∀ b, effect s.value = some b → b = s.value

/-- **Linearization.**  Along any interleaving in which the threads outside `P` only look
at the value, the value is what the critical sections of `P`, one after the other, make of
it. -/
theorem value_of_lookers (P : T → Bool) {s t : State T α} {actions : List (Action T α)}
    (hlooks : Guarded step (Looks P) s actions) (hrun : runFrom step s actions = some t) :
    runFrom (fun a effect => effect a) s.value (effects P actions) = some t.value := by
  induction actions generalizing s with
  | nil =>
      rw [runFrom_nil, Option.some.injEq] at hrun
      rw [effects, runFrom_nil, hrun]
  | cons action actions ih =>
      obtain ⟨s₁, hstep, hrest⟩ := (runFrom_cons_eq_some step).mp hrun
      obtain ⟨hlook, hlooks'⟩ := hlooks s₁ hstep
      have hlater := ih hlooks' hrest
      cases action with
      | acquire u =>
          -- an attempt, successful or not, leaves the value alone
          obtain ⟨-, ⟨-, rfl⟩ | ⟨-, rfl⟩⟩ := step_acquire hstep
          · exact hlater
          · exact hlater
      | release u effect =>
          obtain ⟨-, value, hvalue, rfl⟩ := step_release hstep
          rw [effects]
          cases hu : P u with
          | true =>
              rw [if_pos rfl, runFrom_cons_eq_some]
              exact ⟨value, hvalue, hlater⟩
          | false =>
              rw [if_neg Bool.false_ne_true]
              obtain rfl := hlook hu value hvalue
              exact hlater

end TryLock
