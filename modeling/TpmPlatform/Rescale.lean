/-
# Truncating rate conversion

A counter that runs at `rate` ticks per unit is read off by a clock whose nominal
speed is `nominal` ticks per unit: `d` units become `scaled nominal rate d`
adjusted units, and what those are worth in original units is
`credited nominal rate d`.  Both divisions truncate.  This file says how much is
lost: nothing is ever gained (`credited_le`), less than one unit and one rate's
worth is lost (`le_credited_add_one`, `le_credited_add_two`), a slow rate never
credits less than it adds (`scaled_le_credited`), and the whole amount is credited
exactly when the first division leaves no remainder (`credited_eq_iff`).
-/
import Mathlib.Tactic.Ring
import Mathlib.Tactic.Linarith

namespace Rescale

/-- `d` units, converted at `rate` against `nominal`. -/
def scaled (nominal rate d : ℕ) : ℕ := d * nominal / rate

/-- The original units that the converted amount accounts for. -/
def credited (nominal rate d : ℕ) : ℕ := scaled nominal rate d * rate / nominal

variable {nominal rate d : ℕ}

/-- The converted amount is worth at most the original. -/
theorem scaled_mul_le (nominal rate d : ℕ) : scaled nominal rate d * rate ≤ d * nominal :=
  Nat.div_mul_le_self _ _

/-- The converted amount misses less than one tick of the rate. -/
theorem lt_scaled_mul_add (hrate : 0 < rate) :
    d * nominal < scaled nominal rate d * rate + rate :=
  Nat.lt_div_mul_add hrate

/-- What is credited is worth at most what was added. -/
theorem credited_mul_le (nominal rate d : ℕ) :
    credited nominal rate d * nominal ≤ scaled nominal rate d * rate :=
  Nat.div_mul_le_self _ _

/-- What is credited misses less than one nominal unit of what was added. -/
theorem lt_credited_mul_add (hnom : 0 < nominal) :
    scaled nominal rate d * rate < credited nominal rate d * nominal + nominal :=
  Nat.lt_div_mul_add hnom

/-- Never more is credited than was there. -/
theorem credited_le (hnom : 0 < nominal) : credited nominal rate d ≤ d := by
  have h : credited nominal rate d * nominal ≤ d * nominal :=
    (credited_mul_le nominal rate d).trans (scaled_mul_le nominal rate d)
  exact Nat.le_of_mul_le_mul_right h hnom

/-- At a slow rate at least as much is credited as is added. -/
theorem scaled_le_credited (hnom : 0 < nominal) (hslow : nominal ≤ rate) :
    scaled nominal rate d ≤ credited nominal rate d := by
  rw [credited, Nat.le_div_iff_mul_le hnom]
  exact Nat.mul_le_mul_left _ hslow

/-- At a fast rate at most one unit is lost. -/
theorem le_credited_add_one (hnom : 0 < nominal) (hrate : 0 < rate) (hfast : rate ≤ nominal) :
    d ≤ credited nominal rate d + 1 := by
  have h₁ : d * nominal < scaled nominal rate d * rate + rate := lt_scaled_mul_add hrate
  have h₂ : scaled nominal rate d * rate < credited nominal rate d * nominal + nominal :=
    lt_credited_mul_add hnom
  have h₃ : d * nominal < (credited nominal rate d + 2) * nominal := by
    rw [Nat.add_mul]
    omega
  have h₄ := Nat.lt_of_mul_lt_mul_right h₃
  omega

/-- At a rate up to twice the nominal one at most two units are lost. -/
theorem le_credited_add_two (hnom : 0 < nominal) (hrate : 0 < rate)
    (hmax : rate ≤ 2 * nominal) : d ≤ credited nominal rate d + 2 := by
  have h₁ : d * nominal < scaled nominal rate d * rate + rate := lt_scaled_mul_add hrate
  have h₂ : scaled nominal rate d * rate < credited nominal rate d * nominal + nominal :=
    lt_credited_mul_add hnom
  have h₃ : d * nominal < (credited nominal rate d + 3) * nominal := by
    rw [Nat.add_mul]
    omega
  have h₄ := Nat.lt_of_mul_lt_mul_right h₃
  omega

/-- **Exactness.**  Everything is credited exactly when the first division has no
remainder. -/
theorem credited_eq_iff (hnom : 0 < nominal) :
    credited nominal rate d = d ↔ rate ∣ d * nominal := by
  constructor
  · intro h
    have h₁ : d * nominal ≤ scaled nominal rate d * rate := by
      have h₂ := credited_mul_le nominal rate d
      rwa [h] at h₂
    have h₃ : scaled nominal rate d * rate = d * nominal :=
      Nat.le_antisymm (scaled_mul_le nominal rate d) h₁
    exact ⟨scaled nominal rate d, by rw [← h₃, Nat.mul_comm]⟩
  · intro h
    have h₁ : scaled nominal rate d * rate = d * nominal := Nat.div_mul_cancel h
    rw [credited, h₁, Nat.mul_div_cancel _ hnom]

end Rescale
