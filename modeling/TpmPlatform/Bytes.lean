/-
# Flat byte memory: windows, splices and little-endian fields

The memory operations that the platform and the state hooks are made of, on
lists (a region whose length is data) and on lists of a fixed length (a C object
whose size is `sizeof`):

* `window xs off len` : the slice `xs[off .. off + len]`;
* `splice xs off ys` : `memcpy` of `ys` over `xs` at `off`;
* `toLE` / `ofLE` : an unsigned word as little-endian bytes and back;
* `Field` : a word at a fixed offset of a fixed-size object, with the usual
  reading and writing laws (`get_set`, `get_set_of_disjoint`).
-/
import Mathlib.Data.Vector.Basic
import Mathlib.Tactic.Ring

namespace Bytes

variable {α : Type*}

/-! ## Windows and splices -/

/-- The `len` entries of `xs` from position `off` on. -/
def window (xs : List α) (off len : ℕ) : List α := (xs.drop off).take len

/-- `xs` with `ys` written over it from position `off` on. -/
def splice (xs : List α) (off : ℕ) (ys : List α) : List α :=
  xs.take off ++ ys ++ xs.drop (off + ys.length)

/-- A window that lies inside the list has its full length. -/
theorem length_window {xs : List α} {off len : ℕ} (h : off + len ≤ xs.length) :
    (window xs off len).length = len := by
  rw [window, List.length_take, List.length_drop]
  omega

/-- Entries of a window are entries of the list, shifted. -/
theorem getElem?_window (xs : List α) (off len i : ℕ) :
    (window xs off len)[i]? = if i < len then xs[off + i]? else none := by
  rw [window, List.getElem?_take, List.getElem?_drop]

/-- A window over the middle part of a concatenation is that part. -/
theorem window_middle (pre ys suf : List α) :
    window (pre ++ (ys ++ suf)) pre.length ys.length = ys := by
  rw [window, List.drop_left, List.take_left]

/-- Writing inside a list keeps its length. -/
theorem length_splice {xs ys : List α} {off : ℕ} (h : off + ys.length ≤ xs.length) :
    (splice xs off ys).length = xs.length := by
  rw [splice, List.length_append, List.length_append, List.length_take, List.length_drop]
  omega

/-- Writing over the middle part of a concatenation replaces that part. -/
theorem splice_middle (pre old suf ys : List α) (h : ys.length = old.length) :
    splice (pre ++ (old ++ suf)) pre.length ys = pre ++ (ys ++ suf) := by
  rw [splice, List.take_left, h, ← List.drop_drop, List.drop_left, List.drop_left,
    List.append_assoc]

/-- Writing over a whole list replaces it. -/
theorem splice_all {xs ys : List α} (h : ys.length = xs.length) : splice xs 0 ys = ys := by
  rw [splice, List.take_zero, List.nil_append, Nat.zero_add, h, List.drop_length, List.append_nil]

/-- **What a splice holds**: the written entries inside the target range, the old
ones elsewhere. -/
theorem getElem?_splice {xs ys : List α} {off : ℕ} (h : off + ys.length ≤ xs.length) (i : ℕ) :
    (splice xs off ys)[i]? =
      if off ≤ i ∧ i < off + ys.length then ys[i - off]? else xs[i]? := by
  have hoff : (xs.take off).length = off := by
    rw [List.length_take]
    omega
  by_cases hlt : i < off
  · rw [if_neg (by omega), splice, List.append_assoc,
      List.getElem?_append_left (by omega), List.getElem?_take, if_pos hlt]
  · by_cases hin : i < off + ys.length
    · rw [if_pos ⟨by omega, hin⟩, splice, List.append_assoc,
        List.getElem?_append_right (by omega), hoff, List.getElem?_append_left (by omega)]
    · rw [if_neg (by omega), splice, List.getElem?_append_right
        (by rw [List.length_append]; omega), List.length_append, hoff, List.getElem?_drop]
      congr 1
      omega

/-- Entries outside the target range are unchanged. -/
theorem getElem?_splice_of_outside {xs ys : List α} {off i : ℕ}
    (h : off + ys.length ≤ xs.length) (hi : i < off ∨ off + ys.length ≤ i) :
    (splice xs off ys)[i]? = xs[i]? := by
  rw [getElem?_splice h, if_neg (by omega)]

/-- Reading back what was written gives it. -/
theorem window_splice {xs ys : List α} {off : ℕ} (h : off + ys.length ≤ xs.length) :
    window (splice xs off ys) off ys.length = ys := by
  apply List.ext_getElem?
  intro i
  rw [getElem?_window]
  by_cases hi : i < ys.length
  · rw [if_pos hi, getElem?_splice h, if_pos (by omega), Nat.add_sub_cancel_left]
  · rw [if_neg hi, List.getElem?_eq_none (by omega)]

/-- Writing back what a range holds changes nothing. -/
theorem splice_window {xs : List α} {off len : ℕ} (h : off + len ≤ xs.length) :
    splice xs off (window xs off len) = xs := by
  rw [splice, length_window h, window, List.append_assoc, ← List.drop_drop,
    List.take_append_drop, List.take_append_drop]

/-- A window that does not meet the target range reads what it read before. -/
theorem window_splice_of_disjoint {xs ys : List α} {off off' len : ℕ}
    (h : off + ys.length ≤ xs.length)
    (hdis : off' + len ≤ off ∨ off + ys.length ≤ off') :
    window (splice xs off ys) off' len = window xs off' len := by
  apply List.ext_getElem?
  intro i
  rw [getElem?_window, getElem?_window]
  by_cases hi : i < len
  · rw [if_pos hi, if_pos hi, getElem?_splice_of_outside h (by omega)]
  · rw [if_neg hi, if_neg hi]

/-- A bounds-checked splice: a `memcpy` into a buffer, undefined outside it. -/
def poke (xs : List α) (off : ℕ) (ys : List α) : Option (List α) :=
  if off + ys.length ≤ xs.length then some (splice xs off ys) else none

/-- Poking the middle part of a concatenation replaces that part. -/
theorem poke_middle (pre old suf ys : List α) (h : ys.length = old.length) :
    poke (pre ++ (old ++ suf)) pre.length ys = some (pre ++ (ys ++ suf)) := by
  rw [poke, if_pos, splice_middle pre old suf ys h]
  rw [List.length_append, List.length_append]
  omega

/-! ## Little-endian words -/

/-- The `width` low-order bytes of `x`, least significant first. -/
def toLE : ℕ → ℕ → List UInt8
  | 0, _ => []
  | width + 1, x => UInt8.ofNat x :: toLE width (x / 256)

/-- The number whose little-endian bytes are given. -/
def ofLE : List UInt8 → ℕ
  | [] => 0
  | b :: bs => b.toNat + 256 * ofLE bs

@[simp] theorem length_toLE (width x : ℕ) : (toLE width x).length = width := by
  induction width generalizing x with
  | zero => rfl
  | succ width ih => rw [toLE, List.length_cons, ih]

/-- Bytes of a word that fits give the word back. -/
theorem ofLE_toLE {width x : ℕ} (h : x < 256 ^ width) : ofLE (toLE width x) = x := by
  induction width generalizing x with
  | zero =>
      rw [pow_zero] at h
      rw [toLE, ofLE]
      omega
  | succ width ih =>
      have hdiv : x / 256 < 256 ^ width := by
        rw [pow_succ, Nat.mul_comm] at h
        exact Nat.div_lt_of_lt_mul h
      rw [toLE, ofLE, ih hdiv, UInt8.toNat_ofNat']
      omega

/-! ## Fixed-size objects and their fields -/

/-- The bytes of a C object of `size` bytes. -/
abbrev Raw (size : ℕ) := List.Vector UInt8 size

/-- The `size`-byte object at position `off` of a byte string. -/
def Raw.read {size : ℕ} (xs : List UInt8) (off : ℕ) : Raw size :=
  List.Vector.ofFn fun k => xs.getD (off + k) 0

/-- Reading an object gives the bytes of its window. -/
theorem Raw.toList_read {size : ℕ} {xs : List UInt8} {off : ℕ} (h : off + size ≤ xs.length) :
    (Raw.read xs off : Raw size).toList = window xs off size := by
  apply List.ext_getElem?
  intro i
  rw [Raw.read, List.Vector.toList_ofFn, List.getElem?_ofFn, getElem?_window]
  by_cases hi : i < size
  · rw [dif_pos hi, if_pos hi, List.getD_eq_getElem?_getD,
      List.getElem?_eq_getElem (by omega), Option.getD_some]
  · rw [dif_neg hi, if_neg hi]

/-- Reading an object where its bytes stand gives it back. -/
theorem Raw.read_middle {size : ℕ} (pre suf : List UInt8) (o : Raw size) :
    Raw.read (pre ++ (o.toList ++ suf)) pre.length = o := by
  apply List.Vector.toList_injective
  have hlen : o.toList.length = size := o.toList_length
  have hwindow := window_middle pre o.toList suf
  rw [hlen] at hwindow
  rw [Raw.toList_read, hwindow]
  rw [List.length_append, List.length_append]
  omega

/-- An array of objects takes up its number of objects times their size. -/
theorem Raw.length_flatMap_toList {size : ℕ} (objects : List (Raw size)) :
    (objects.flatMap List.Vector.toList).length = objects.length * size := by
  induction objects with
  | nil => rw [List.flatMap_nil, List.length_nil, List.length_nil, Nat.zero_mul]
  | cons o objects ih =>
      rw [List.flatMap_cons, List.length_append, ih, o.toList_length, List.length_cons]
      ring

/-- Reading an array at the offset of an object gives the object. -/
theorem Raw.read_flatMap {size : ℕ} (objects : List (Raw size)) (i : ℕ) (h : i < objects.length) :
    Raw.read (objects.flatMap List.Vector.toList) (i * size) = objects[i] := by
  have hsplit : objects.flatMap List.Vector.toList =
      (objects.take i).flatMap List.Vector.toList ++
        (objects[i].toList ++ (objects.drop (i + 1)).flatMap List.Vector.toList) := by
    rw [← List.flatMap_cons, ← List.flatMap_append, ← List.drop_eq_getElem_cons h,
      List.take_append_drop]
  have hoff : i * size = ((objects.take i).flatMap List.Vector.toList).length := by
    rw [Raw.length_flatMap_toList, List.length_take, Nat.min_eq_left h.le]
  rw [hsplit, hoff, Raw.read_middle]

/-- The objects read from a byte string, one behind the other, are its bytes. -/
theorem Raw.flatMap_read {size : ℕ} (n : ℕ) {xs : List UInt8} (h : n * size ≤ xs.length) :
    (List.ofFn fun i : Fin n => (Raw.read xs (i * size) : Raw size)).flatMap
      List.Vector.toList = xs.take (n * size) := by
  induction n with
  | zero => rw [List.ofFn_zero, List.flatMap_nil, Nat.zero_mul, List.take_zero]
  | succ n ih =>
      rw [Nat.succ_mul] at h
      have hlast : (Raw.read xs (n * size) : Raw size).toList = (xs.drop (n * size)).take size :=
        Raw.toList_read h
      rw [List.ofFn_succ_last, List.flatMap_append, List.flatMap_singleton, Fin.val_last, hlast,
        Nat.succ_mul, List.take_add]
      congr 1
      exact ih (by omega)

/-- An unsigned field of a `size`-byte object: where it lies, and that it lies
inside the object. -/
structure Field (size : ℕ) where
  offset : ℕ
  width : ℕ
  fits : offset + width ≤ size

namespace Field

variable {size : ℕ}

/-- The value stored in a field. -/
def get (f : Field size) (o : Raw size) : ℕ := ofLE (window o.toList f.offset f.width)

/-- The object with `x` stored in the field. -/
def set (f : Field size) (x : ℕ) (o : Raw size) : Raw size :=
  ⟨splice o.toList f.offset (toLE f.width x), by
    rw [length_splice (by rw [length_toLE, List.Vector.toList_length]; exact f.fits),
      List.Vector.toList_length]⟩

/-- Two fields with no byte in common. -/
def Disjoint (f g : Field size) : Prop :=
  f.offset + f.width ≤ g.offset ∨ g.offset + g.width ≤ f.offset

instance (f g : Field size) : Decidable (f.Disjoint g) :=
  inferInstanceAs (Decidable (_ ∨ _))

theorem Disjoint.symm {f g : Field size} (h : f.Disjoint g) : g.Disjoint f :=
  Or.symm h

theorem toList_set (f : Field size) (x : ℕ) (o : Raw size) :
    (f.set x o).toList = splice o.toList f.offset (toLE f.width x) := rfl

/-- Room for the written bytes, in the form the splice lemmas ask for. -/
theorem fits_toLE (f : Field size) (x : ℕ) (o : Raw size) :
    f.offset + (toLE f.width x).length ≤ o.toList.length := by
  rw [length_toLE, List.Vector.toList_length]
  exact f.fits

/-- Reading a field after writing it. -/
theorem get_set {f : Field size} {x : ℕ} (hx : x < 256 ^ f.width) (o : Raw size) :
    f.get (f.set x o) = x := by
  have h := window_splice (f.fits_toLE x o)
  rw [length_toLE] at h
  rw [get, toList_set, h, ofLE_toLE hx]

/-- Writing a field leaves a disjoint field as it was. -/
theorem get_set_of_disjoint {f g : Field size} (h : f.Disjoint g) (x : ℕ) (o : Raw size) :
    f.get (g.set x o) = f.get o := by
  rw [get, get, toList_set, window_splice_of_disjoint (g.fits_toLE x o)]
  rw [length_toLE]
  exact h

end Field

end Bytes
