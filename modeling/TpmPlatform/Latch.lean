/-
# First-report latches

A latch is empty or holds one report.  A report goes into an empty latch and is
ignored by a full one; a load replaces the content, whatever it was.

`Holds` says what the content should be after a sequence of events in terms of the
events alone: the content of the last load, or, where that was empty, the first
report since.  `Holds.foldl` is the refinement: the latch that handles one event
after the other always has this content.
-/
import Mathlib.Data.List.Basic

namespace Latch

variable {α : Type*}

/-- What can happen to a latch. -/
inductive Event (α : Type*)
  | report (a : α)
  | load (content : Option α)

/-- The content after an event. -/
def after (content : Option α) : Event α → Option α
  | .report a => some (content.getD a)
  | .load content => content

@[simp] theorem after_report (content : Option α) (a : α) :
    after content (.report a) = some (content.getD a) := rfl

/-- The content of a latch after `events`: what the last load put into it, or else
the first report since the last load. -/
def Holds (content : Option α) (events : List (Event α)) : Prop :=
  ∃ (pre : List (Event α)) (loaded : Option α) (reports : List α),
    events = pre ++ .load loaded :: reports.map .report ∧ content = loaded.or reports.head?

/-- A load is the last load. -/
theorem holds_load (loaded : Option α) (events : List (Event α)) :
    Holds loaded (events ++ [.load loaded]) :=
  ⟨events, loaded, [], rfl, (Option.or_none).symm⟩

/-- A report after others is the first one only if there are none. -/
theorem Holds.report {content : Option α} {events : List (Event α)} (h : Holds content events)
    (a : α) : Holds (some (content.getD a)) (events ++ [.report a]) := by
  obtain ⟨pre, loaded, reports, rfl, rfl⟩ := h
  refine ⟨pre, loaded, reports ++ [a], ?_, ?_⟩
  · rw [List.map_append, List.append_assoc, List.cons_append, List.map_singleton]
  · cases loaded with
    | some b => rfl
    | none =>
        cases reports with
        | nil => rfl
        | cons b reports => rfl

/-- One event. -/
theorem Holds.after {content : Option α} {events : List (Event α)} (h : Holds content events)
    (e : Event α) : Holds (Latch.after content e) (events ++ [e]) := by
  cases e with
  | report a => exact h.report a
  | load loaded => exact holds_load loaded events

/-- **A latch holds what it should** after any further events. -/
theorem Holds.foldl {content : Option α} {events : List (Event α)} (h : Holds content events)
    (es : List (Event α)) : Holds (es.foldl Latch.after content) (events ++ es) := by
  induction es generalizing content events with
  | nil =>
      rw [List.append_nil]
      exact h
  | cons e es ih =>
      rw [List.append_cons]
      exact ih (h.after e)

/-- A load starts over: what came before does not matter. -/
theorem holds_foldl_load (loaded : Option α) (events es : List (Event α)) :
    Holds (es.foldl Latch.after loaded) (events ++ .load loaded :: es) := by
  rw [List.append_cons]
  exact (holds_load loaded events).foldl es

end Latch
