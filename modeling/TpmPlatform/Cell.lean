/-
# Cells and what is read from them

A cell holds a value.  It can be written, it can be read, and it can be taken, which
reads it and puts an idle value back.  A history of a cell lists what was written and
what each reading answered.

* `Holds idle events a` : after `events` the cell holds `a`, said without replaying
  them: `a` is what was last written, or it is `idle` and the cell was taken last, and
  since then the cell has only been read;
* `Coherent idle events` : every answer is what the cell held at that moment;
* `wrote_between_takes` : in a coherent history, a value that is not the idle one is
  taken at most once for each time it is written.
-/
import Mathlib.Data.List.Basic

namespace Cell

variable {α : Type*} {idle a b : α}

/-- What happens to a cell. -/
inductive Event (α : Type*)
  | wrote (value : α)
  | read (answer : α)
  | took (answer : α)
  deriving DecidableEq

/-- Whether an event leaves the cell as it is. -/
def Event.Keeps : Event α → Prop
  | .wrote _ => False
  | .read _ => True
  | .took _ => False

/-- The answer of a reading. -/
def Event.answer : Event α → Option α
  | .wrote _ => none
  | .read a => some a
  | .took a => some a

/-- The event puts `a` in the cell. -/
def Event.Puts (idle a : α) : Event α → Prop
  | .wrote b => b = a
  | .read _ => False
  | .took _ => idle = a

/-- After `events` the cell holds `a`: the last event that changed the cell put it there. -/
def Holds (idle : α) (events : List (Event α)) (a : α) : Prop :=
  ∃ pre e suf, events = pre ++ e :: suf ∧ e.Puts idle a ∧ ∀ r ∈ suf, r.Keeps

/-- Every answer is what the cell held before it. -/
def Coherent (idle : α) (events : List (Event α)) : Prop :=
  ∀ pre e suf a, events = pre ++ e :: suf → e.answer = some a → Holds idle pre a

/-! ## What a cell holds -/

/-- An event that puts `a` in the cell makes it hold `a`. -/
theorem holds_concat_of_puts {e : Event α} (h : e.Puts idle a) (events : List (Event α)) :
    Holds idle (events ++ [e]) a :=
  ⟨events, e, [], rfl, h, fun _ hr => absurd hr List.not_mem_nil⟩

/-- A written cell holds what was written. -/
theorem holds_wrote (a : α) (events : List (Event α)) : Holds idle (events ++ [.wrote a]) a :=
  holds_concat_of_puts (e := .wrote a) rfl events

/-- A cell that has been taken holds the idle value. -/
theorem holds_took (answer : α) (events : List (Event α)) :
    Holds idle (events ++ [.took answer]) idle :=
  holds_concat_of_puts (e := .took answer) rfl events

/-- A reading changes nothing. -/
theorem Holds.read {events : List (Event α)} (h : Holds idle events a) (answer : α) :
    Holds idle (events ++ [.read answer]) a := by
  obtain ⟨pre, e, suf, rfl, hputs, hkeep⟩ := h
  refine ⟨pre, e, suf ++ [.read answer], by rw [List.append_assoc, List.cons_append], hputs, ?_⟩
  intro r hr
  rcases List.mem_append.mp hr with hr | hr
  · exact hkeep r hr
  · rw [List.mem_singleton.mp hr]
    trivial

/-- What the cell holds after it was taken and `events` happened: the idle value, or
something written since. -/
theorem Holds.wrote_mem_of_took {answer : α} {pre events : List (Event α)}
    (h : Holds idle (pre ++ .took answer :: events) a) (hne : a ≠ idle) : .wrote a ∈ events := by
  obtain ⟨front, e, suf, heq, hputs, hkeep⟩ := h
  rw [List.append_eq_append_iff] at heq
  rcases heq with ⟨between, rfl, heq⟩ | ⟨between, rfl, heq⟩
  · cases between with
    | nil =>
        -- the event that put the value there would be the one that took it away
        obtain ⟨rfl, rfl⟩ := List.cons.inj heq
        exact absurd hputs.symm hne
    | cons e' between =>
        obtain ⟨rfl, rfl⟩ := List.cons.inj heq
        cases e with
        | wrote b =>
            obtain rfl : b = a := hputs
            exact List.mem_append_right between List.mem_cons_self
        | read b => exact absurd hputs id
        | took b => exact absurd hputs.symm hne
  · cases between with
    | nil =>
        obtain ⟨rfl, rfl⟩ := List.cons.inj heq
        exact absurd hputs.symm hne
    | cons e' between =>
        -- or it would come before it, and what follows it only reads
        obtain ⟨rfl, rfl⟩ := List.cons.inj heq
        exact absurd (hkeep (.took answer) (List.mem_append_right between List.mem_cons_self)) id

/-! ## Coherent histories -/

/-- Nothing has been read yet. -/
theorem coherent_nil : Coherent idle ([] : List (Event α)) := by
  intro pre e suf a happ
  exact absurd happ.symm (List.append_ne_nil_of_right_ne_nil pre (List.cons_ne_nil e suf))

/-- An event after a coherent history, whose answer, if it has one, is what the cell holds. -/
theorem Coherent.concat {events : List (Event α)} (h : Coherent idle events) {e : Event α}
    (he : ∀ a, e.answer = some a → Holds idle events a) : Coherent idle (events ++ [e]) := by
  intro pre e' suf a happ hanswer
  rcases List.eq_nil_or_concat suf with rfl | ⟨suf, last, rfl⟩
  · obtain ⟨rfl, hlast⟩ := List.append_inj' happ rfl
    obtain rfl := List.singleton_inj.mp hlast
    exact he a hanswer
  · rw [List.concat_eq_append, ← List.cons_append, ← List.append_assoc] at happ
    exact h pre e' suf a (List.append_inj' happ rfl).1 hanswer

/-- A write keeps a history coherent. -/
theorem Coherent.wrote {events : List (Event α)} (h : Coherent idle events) (a : α) :
    Coherent idle (events ++ [.wrote a]) :=
  h.concat fun _ hanswer => (by cases hanswer)

/-- A reading keeps it coherent that answers what the cell holds. -/
theorem Coherent.read {events : List (Event α)} (h : Coherent idle events)
    (ha : Holds idle events a) : Coherent idle (events ++ [.read a]) := by
  refine h.concat fun b hanswer => ?_
  obtain rfl : a = b := Option.some.inj hanswer
  exact ha

/-- So does a taking. -/
theorem Coherent.took {events : List (Event α)} (h : Coherent idle events)
    (ha : Holds idle events a) : Coherent idle (events ++ [.took a]) := by
  refine h.concat fun b hanswer => ?_
  obtain rfl : a = b := Option.some.inj hanswer
  exact ha

/-- **Between two takes.**  A value other than the idle one that is taken twice has been
written in between. -/
theorem wrote_between_takes {pre mid suf : List (Event α)}
    (h : Coherent idle (pre ++ .took a :: (mid ++ .took b :: suf))) (hne : b ≠ idle) :
    .wrote b ∈ mid := by
  have happ : pre ++ .took a :: (mid ++ .took b :: suf) =
      (pre ++ .took a :: mid) ++ .took b :: suf := by
    rw [List.append_assoc, List.cons_append]
  -- what the second take answered was in the cell after the first
  have hheld : Holds idle (pre ++ .took a :: mid) b := h _ _ suf b happ rfl
  exact hheld.wrote_mem_of_took hne

end Cell
