/-
# Journals

A working copy is changed in place, and a store takes over a content now and then;
when it does, that content is the working copy as well.

`Reflects` says what the working copy should be in terms of the events alone: what
the store last took over, with the changes made since.  Each event keeps it.
-/
import Mathlib.Data.List.Induction

namespace Journal

variable {σ β : Type*}

/-- What can happen to working copy and store. -/
inductive Event (σ β : Type*)
  | stored (content : σ)
  | changed (change : β)

/-- The store last took over `stored`, and these are the changes made since. -/
def Since (events : List (Event σ β)) (stored : σ) (changes : List β) : Prop :=
  ∃ pre : List (Event σ β), events = pre ++ .stored stored :: changes.map .changed

/-- Right after the store took over a content, nothing has changed. -/
theorem since_concat_stored {events : List (Event σ β)} {content stored : σ} {changes : List β} :
    Since (events ++ [.stored content]) stored changes ↔ stored = content ∧ changes = [] := by
  constructor
  · rintro ⟨pre, h⟩
    rcases List.eq_nil_or_concat changes with rfl | ⟨changes, change, rfl⟩
    · obtain ⟨-, hlast⟩ := List.append_inj' h rfl
      rw [List.cons.injEq, Event.stored.injEq] at hlast
      exact ⟨hlast.1.symm, rfl⟩
    · rw [List.concat_eq_append, List.map_append, ← List.cons_append, ← List.append_assoc] at h
      obtain ⟨-, hlast⟩ := List.append_inj' h rfl
      cases hlast
  · rintro ⟨rfl, rfl⟩
    exact ⟨events, rfl⟩

/-- A change is the last of the changes. -/
theorem since_concat_changed {events : List (Event σ β)} {change : β} {stored : σ}
    {changes : List β} :
    Since (events ++ [.changed change]) stored changes ↔
      ∃ earlier, changes = earlier ++ [change] ∧ Since events stored earlier := by
  constructor
  · rintro ⟨pre, h⟩
    rcases List.eq_nil_or_concat changes with rfl | ⟨earlier, last, rfl⟩
    · obtain ⟨-, hlast⟩ := List.append_inj' h rfl
      cases hlast
    · rw [List.concat_eq_append, List.map_append, ← List.cons_append, ← List.append_assoc] at h
      obtain ⟨hpre, hlast⟩ := List.append_inj' h rfl
      rw [List.map_singleton, List.cons.injEq, Event.changed.injEq] at hlast
      refine ⟨earlier, ?_, pre, hpre⟩
      rw [List.concat_eq_append, hlast.1]
  · rintro ⟨earlier, rfl, pre, rfl⟩
    refine ⟨pre, ?_⟩
    rw [List.map_append, List.append_assoc, List.cons_append, List.map_singleton]

/-- There is a last content once there is one. -/
theorem exists_since {events : List (Event σ β)} {content : σ} (h : .stored content ∈ events) :
    ∃ stored changes, Since events stored changes := by
  induction events using List.reverseRecOn with
  | nil => cases h
  | append_singleton events e ih =>
      cases e with
      | stored last => exact ⟨last, [], since_concat_stored.mpr ⟨rfl, rfl⟩⟩
      | changed change =>
          rcases List.mem_append.mp h with h | h
          · obtain ⟨stored, changes, hsince⟩ := ih h
            exact ⟨stored, changes ++ [change],
              since_concat_changed.mpr ⟨changes, rfl, hsince⟩⟩
          · cases List.mem_singleton.mp h

section

variable (apply : σ → β → σ)

/-- **What the working copy should be** after `events`: what the store last took over,
if anything, with the changes made since. -/
def Reflects (working : σ) (events : List (Event σ β)) : Prop :=
  ∀ stored changes, Since events stored changes → working = changes.foldl apply stored

variable {apply}

/-- A content that the store takes over is the working copy. -/
theorem reflects_stored (content : σ) (events : List (Event σ β)) :
    Reflects apply content (events ++ [.stored content]) := by
  intro stored changes hsince
  obtain ⟨rfl, rfl⟩ := since_concat_stored.mp hsince
  rfl

/-- A change is made after the earlier ones. -/
theorem Reflects.changed {working : σ} {events : List (Event σ β)}
    (h : Reflects apply working events) (change : β) :
    Reflects apply (apply working change) (events ++ [.changed change]) := by
  intro stored changes hsince
  obtain ⟨earlier, rfl, hearlier⟩ := since_concat_changed.mp hsince
  rw [List.foldl_append, ← h stored earlier hearlier]
  rfl

/-- A change that does not look at the working copy may follow anything. -/
theorem reflects_overwritten {change : β} {content : σ} (hchange : ∀ s, apply s change = content)
    (events : List (Event σ β)) : Reflects apply content (events ++ [.changed change]) := by
  intro stored changes hsince
  obtain ⟨earlier, rfl, -⟩ := since_concat_changed.mp hsince
  rw [List.foldl_append]
  exact (hchange _).symm

end

end Journal
