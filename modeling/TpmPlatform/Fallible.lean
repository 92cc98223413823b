/-
# Steps that can fail

A program whose steps end with a result or with an error, as terms of `Except`.

`bind_eq_ok`, `map_eq_ok`, `ite_eq_ok`, `mapM_eq_ok` : when steps one after the other, a
check and a loop of checks succeed;
`Avoids` : a program that never ends with a given error, which is so if none of its steps does.
-/
import Mathlib.Logic.Basic
import Mathlib.Tactic.SplitIfs

namespace Fallible

variable {ε α β : Type}

/-! ## What succeeds -/

/-- Two steps one after the other. -/
theorem bind_eq_ok {x : Except ε α} {f : α → Except ε β} {b : β} :
    x.bind f = .ok b ↔ ∃ a, x = .ok a ∧ f a = .ok b := by
  cases x with
  | error e =>
      refine iff_of_false (by intro h; cases h) ?_
      rintro ⟨a, h, -⟩
      cases h
  | ok a =>
      constructor
      · exact fun h => ⟨a, rfl, h⟩
      · rintro ⟨a', h, hb⟩
        obtain rfl := Except.ok.inj h
        exact hb

/-- A step whose result is only put in another form. -/
theorem map_eq_ok {x : Except ε α} {f : α → β} {b : β} :
    x.map f = .ok b ↔ ∃ a, x = .ok a ∧ f a = b := by
  cases x with
  | error e =>
      refine iff_of_false (by intro h; cases h) ?_
      rintro ⟨a, h, -⟩
      cases h
  | ok a =>
      constructor
      · exact fun h => ⟨a, rfl, Except.ok.inj h⟩
      · rintro ⟨a', h, rfl⟩
        obtain rfl := Except.ok.inj h
        rfl

/-- A step under a condition. -/
theorem ite_eq_ok {P : Prop} [Decidable P] {a b : α} {e : ε} :
    (if P then Except.ok a else Except.error e) = .ok b ↔ P ∧ a = b := by
  by_cases hP : P
  · rw [if_pos hP, Except.ok.injEq, and_iff_right hP]
  · rw [if_neg hP]
    exact iff_of_false (by intro h; cases h) fun h => hP h.1

/-- A loop whose rounds each check a condition. -/
theorem mapM_eq_ok {P : α → Prop} [DecidablePred P] {g : α → β} {e : α → ε} {as : List α}
    {bs : List β} :
    (as.mapM fun a => if P a then Except.ok (g a) else Except.error (e a)) = .ok bs ↔
      (∀ a ∈ as, P a) ∧ bs = as.map g := by
  induction as generalizing bs with
  | nil =>
      rw [List.mapM_nil, List.map_nil]
      constructor
      · intro h
        exact ⟨fun _ ha => absurd ha List.not_mem_nil, (Except.ok.inj h).symm⟩
      · rintro ⟨-, rfl⟩
        rfl
  | cons a as ih =>
      rw [List.mapM_cons, List.forall_mem_cons, List.map_cons]
      show (Except.bind _ fun b => Except.bind _ fun bs => Except.ok (b :: bs)) = _ ↔ _
      rw [bind_eq_ok]
      constructor
      · rintro ⟨b, hb, hrest⟩
        obtain ⟨hP, rfl⟩ := ite_eq_ok.mp hb
        obtain ⟨bs', hbs', hcons⟩ := bind_eq_ok.mp hrest
        obtain ⟨hall, rfl⟩ := ih.mp hbs'
        exact ⟨⟨hP, hall⟩, (Except.ok.inj hcons).symm⟩
      · rintro ⟨⟨hP, hall⟩, rfl⟩
        exact ⟨g a, ite_eq_ok.mpr ⟨hP, rfl⟩, bind_eq_ok.mpr ⟨as.map g, ih.mpr ⟨hall, rfl⟩, rfl⟩⟩

/-! ## What does not fail in a certain way -/

/-- The step does not end with this error. -/
def Avoids (bad : ε) (x : Except ε α) : Prop := x ≠ .error bad

variable {bad : ε} {x : Except ε α}

theorem avoids_ok (a : α) : Avoids bad (.ok a : Except ε α) := by
  intro h
  cases h

/-- It ends with another error. -/
theorem avoids_error {e : ε} (h : e ≠ bad) : Avoids bad (.error e : Except ε α) := by
  intro hbad
  exact h (Except.error.inj hbad)

theorem Avoids.bind {f : α → Except ε β} (hx : Avoids bad x) (hf : ∀ a, Avoids bad (f a)) :
    Avoids bad (x.bind f) := by
  cases x with
  | error e => exact avoids_error fun h => hx (congrArg Except.error h)
  | ok a => exact hf a

theorem Avoids.map (hx : Avoids bad x) (f : α → β) : Avoids bad (x.map f) := by
  cases x with
  | error e => exact avoids_error fun h => hx (congrArg Except.error h)
  | ok a => exact avoids_ok (f a)

theorem avoids_ite {P : Prop} [Decidable P] {y : Except ε α} (hx : Avoids bad x)
    (hy : Avoids bad y) : Avoids bad (if P then x else y) := by
  split_ifs
  · exact hx
  · exact hy

/-- A loop avoids what its rounds avoid. -/
theorem avoids_mapM {f : α → Except ε β} (hf : ∀ a, Avoids bad (f a)) (as : List α) :
    Avoids bad (as.mapM f) := by
  induction as with
  | nil => exact avoids_ok []
  | cons a as ih =>
      rw [List.mapM_cons]
      exact (hf a).bind fun _ => ih.bind fun _ => avoids_ok _

end Fallible
