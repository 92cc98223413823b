/-
# Fields of bits in a word

A word that holds several numbers, each in its own range of bits.

`field_setField`, `field_setField_of_apart` : a field reads as what was last written to it,
whatever is written to fields apart from it.
`eq_of_fields` : a word is what its fields are, if these cover it.
-/
import Mathlib.Data.List.Basic
import Mathlib.Tactic.SplitIfs

namespace BitFields

variable {n width offset : ℕ}

/-- The ones of a field. -/
def mask (n width offset : ℕ) : BitVec n := (BitVec.allOnes width).setWidth n <<< offset

/-- The field of `width` bits from `offset` on. -/
def field (word : BitVec n) (width offset : ℕ) : BitVec width := (word >>> offset).setWidth width

/-- The word with another value in the field. -/
def setField (word : BitVec n) (offset : ℕ) (value : BitVec width) : BitVec n :=
  (word &&& ~~~ mask n width offset) ||| (value.setWidth n <<< offset)

/-! ## Bits -/

/-- A bit of a field is a bit of the word. -/
theorem getLsbD_field (word : BitVec n) {i : ℕ} (hi : i < width) :
    (field word width offset).getLsbD i = word.getLsbD (offset + i) := by
  rw [field, BitVec.getLsbD_setWidth, BitVec.getLsbD_ushiftRight, decide_eq_true hi,
    Bool.true_and]

/-- In the field the bits are those of the value. -/
theorem getLsbD_setField_of_mem (word : BitVec n) (value : BitVec width) {i : ℕ} (hi : i < width)
    (hn : offset + i < n) :
    (setField word offset value).getLsbD (offset + i) = value.getLsbD i := by
  have hlow : ¬ offset + i < offset := Nat.not_lt.mpr (Nat.le_add_right offset i)
  rw [setField, mask]
  simp [hlow, hn, hi]

/-- Outside they are those of the word. -/
theorem getLsbD_setField_of_not_mem (word : BitVec n) (value : BitVec width) {i : ℕ}
    (hi : i < offset ∨ offset + width ≤ i) :
    (setField word offset value).getLsbD i = word.getLsbD i := by
  rw [setField, mask]
  rcases hi with hlow | hhigh
  · by_cases hn : i < n
    · simp [hlow, hn]
    · rw [BitVec.getLsbD_of_ge _ _ (Nat.not_lt.mp hn), BitVec.getLsbD_of_ge _ _ (Nat.not_lt.mp hn)]
  · have hlow : ¬ i < offset := by omega
    have hwidth : ¬ i - offset < width := by omega
    have hvalue : value.getLsbD (i - offset) = false :=
      BitVec.getLsbD_of_ge _ _ (Nat.not_lt.mp hwidth)
    by_cases hn : i < n
    · simp [hlow, hwidth, hvalue, hn]
    · rw [BitVec.getLsbD_of_ge _ _ (Nat.not_lt.mp hn), BitVec.getLsbD_of_ge _ _ (Nat.not_lt.mp hn)]

/-! ## Reading and writing -/

/-- **What is written is read.** -/
theorem field_setField (word : BitVec n) (value : BitVec width) (h : offset + width ≤ n) :
    field (setField word offset value) width offset = value := by
  apply BitVec.eq_of_getLsbD_eq
  intro i hi
  rw [getLsbD_field _ hi, getLsbD_setField_of_mem word value hi (by omega)]

/-- **Other fields stay.** -/
theorem field_setField_of_apart (word : BitVec n) {width' offset' : ℕ} (value : BitVec width')
    (h : offset + width ≤ offset' ∨ offset' + width' ≤ offset) :
    field (setField word offset' value) width offset = field word width offset := by
  apply BitVec.eq_of_getLsbD_eq
  intro i hi
  rw [getLsbD_field _ hi, getLsbD_field _ hi, getLsbD_setField_of_not_mem word value (by omega)]

/-- Two words with the same field have the same bits there. -/
theorem getLsbD_eq_of_field {x y : BitVec n} (h : field x width offset = field y width offset)
    {i : ℕ} (hlow : offset ≤ i) (hhigh : i < offset + width) : x.getLsbD i = y.getLsbD i := by
  obtain ⟨k, rfl⟩ := Nat.exists_eq_add_of_le hlow
  have hk : k < width := by omega
  rw [← getLsbD_field x hk, h, getLsbD_field y hk]

/-- **A word is what its fields are**, if every bit is in one of them. -/
theorem eq_of_fields {x y : BitVec n} (fields : List (ℕ × ℕ))
    (hcover : ∀ i < n, ∃ f ∈ fields, f.2 ≤ i ∧ i < f.2 + f.1)
    (hsame : ∀ f ∈ fields, field x f.1 f.2 = field y f.1 f.2) : x = y := by
  apply BitVec.eq_of_getLsbD_eq
  intro i hi
  obtain ⟨f, hf, hlow, hhigh⟩ := hcover i hi
  exact getLsbD_eq_of_field (hsame f hf) hlow hhigh

end BitFields
