/-
# Flat arrays

What a block of memory of `n` cells is meant to be: a function from positions to
contents, with the operations on ranges of it.

* `write a off ys` : `ys` from position `off` on;
* `fill a off len x` : `x` at the `len` positions from `off` on;
* `move a src dst len` : what the source range held, at the destination range,
  however the two ranges overlap.

The second part shows that `window` and `splice` on lists implement them.
-/
import TpmPlatform.Bytes

namespace FlatArray

open Bytes

variable {α : Type*} {n : ℕ}

/-! ## The operations -/

/-- The array with `ys` written from position `off` on. -/
def write (a : Fin n → α) (off : ℕ) (ys : List α) : Fin n → α := fun i =>
  if h : off ≤ i.val ∧ i.val - off < ys.length then ys.get ⟨i.val - off, h.2⟩ else a i

/-- The array with `x` at the `len` positions from `off` on. -/
def fill (a : Fin n → α) (off len : ℕ) (x : α) : Fin n → α := fun i =>
  if off ≤ i.val ∧ i.val - off < len then x else a i

/-- The array with the `len` contents from `src` on at the positions from `dst` on. -/
def move (a : Fin n → α) (src dst len : ℕ) : Fin n → α := fun i =>
  if h : dst ≤ i.val ∧ i.val - dst < len ∧ src + (i.val - dst) < n then
    a ⟨src + (i.val - dst), h.2.2⟩
  else a i

/-- The array that a list of contents spells out, `x` past its end. -/
def ofList (x : α) (xs : List α) : Fin n → α := fun i => xs.getD i.val x

/-! ## Lists implement arrays -/

/-- A list of the right length is the list of its array. -/
theorem ofFn_ofList {x : α} {xs : List α} (h : xs.length = n) :
    List.ofFn (ofList x xs : Fin n → α) = xs := by
  apply List.ext_getElem?
  intro i
  rw [List.getElem?_ofFn]
  by_cases hi : i < n
  · rw [dif_pos hi, ofList, List.getD_eq_getElem?_getD, List.getElem?_eq_getElem (by omega),
      Option.getD_some]
  · rw [dif_neg hi, List.getElem?_eq_none (by omega)]

/-- A splice inside the list is a write to the array. -/
theorem ofFn_write {a : Fin n → α} {off : ℕ} {ys : List α} (h : off + ys.length ≤ n) :
    List.ofFn (write a off ys) = splice (List.ofFn a) off ys := by
  apply List.ext_getElem?
  intro i
  rw [getElem?_splice (by rw [List.length_ofFn]; exact h), List.getElem?_ofFn]
  by_cases hi : i < n
  · rw [dif_pos hi, write]
    by_cases hin : off ≤ i ∧ i < off + ys.length
    · have hlt : i - off < ys.length := by omega
      rw [if_pos hin, dif_pos ⟨hin.1, hlt⟩, List.getElem?_eq_getElem hlt]
      rfl
    · rw [if_neg hin, dif_neg (by simp only; omega), List.getElem?_ofFn, dif_pos hi]
  · rw [dif_neg hi, if_neg (by omega), List.getElem?_ofFn, dif_neg hi]

/-- Writing copies of one value is filling. -/
theorem write_replicate (a : Fin n → α) (off len : ℕ) (x : α) :
    write a off (List.replicate len x) = fill a off len x := by
  funext i
  simp [write, fill]

/-- Writing a window of the array itself is moving. -/
theorem write_window {a : Fin n → α} {src dst len : ℕ} (h : src + len ≤ n) :
    write a dst (window (List.ofFn a) src len) = move a src dst len := by
  have hlen : (window (List.ofFn a) src len).length = len := by
    apply length_window
    rw [List.length_ofFn]
    exact h
  funext i
  rw [write, move]
  by_cases hin : dst ≤ i.val ∧ i.val - dst < len
  · have hsrc : src + (i.val - dst) < n := by omega
    rw [dif_pos (by rw [hlen]; exact hin), dif_pos ⟨hin.1, hin.2, hsrc⟩]
    apply Option.some.inj
    rw [List.get_eq_getElem, ← List.getElem?_eq_getElem, getElem?_window, if_pos hin.2,
      List.getElem?_ofFn, dif_pos hsrc]
  · rw [dif_neg (by rw [hlen]; exact hin), dif_neg (by rintro ⟨h1, h2, -⟩; exact hin ⟨h1, h2⟩)]

end FlatArray
