/-
# Linking by name

Objects that define names and refer to names, and what becomes of a program of such
objects when its names are replaced.

`resolves_rename_iff` : if no two names of the program become one, references resolve
to the same objects as before.  `resolves_append_iff` : two programs can be linked
together as if each was alone, as far as no name crosses from one to the other.
`redefine` is the renaming that a table of old and new names stands for;
`injOn_prefixed` : putting a prefix before some of the names makes no two of them equal,
as long as none of them has the prefix already.
-/
import Mathlib.Data.Finset.Union
import Mathlib.Data.Set.Function

namespace Linking

/-! ## Objects -/

section

variable {ν : Type*} [DecidableEq ν]

/-- The names that an object defines and those that it refers to. -/
structure Object (ν : Type*) where
  defines : Finset ν
  references : Finset ν

/-- The object with other names. -/
def Object.rename (f : ν → ν) (object : Object ν) : Object ν where
  defines := object.defines.image f
  references := object.references.image f

/-- The names of a program. -/
def names (objects : List (Object ν)) : Set ν :=
  {x | ∃ object ∈ objects, x ∈ object.defines ∨ x ∈ object.references}

/-- The reference to `x` in object `i` is resolved by the definition in object `j`. -/
def Resolves (objects : List (Object ν)) (i : ℕ) (x : ν) (j : ℕ) : Prop :=
  ∃ referring defining, objects[i]? = some referring ∧ objects[j]? = some defining ∧
    x ∈ referring.references ∧ x ∈ defining.defines

/-- Some object refers to `x`, and none defines it. -/
def Undefined (objects : List (Object ν)) (x : ν) : Prop :=
  (∃ object ∈ objects, x ∈ object.references) ∧ ∀ object ∈ objects, x ∉ object.defines

/-- **Linking survives a renaming** that makes no two names equal: what resolves
afterwards is what resolved before, by the same objects. -/
theorem resolves_rename_iff {f : ν → ν} {objects : List (Object ν)}
    (hf : Set.InjOn f (names objects)) {i j : ℕ} {y : ν} :
    Resolves (objects.map (Object.rename f)) i y j ↔ ∃ x, f x = y ∧ Resolves objects i x j := by
  constructor
  · rintro ⟨referring', defining', hi, hj, href, hdef⟩
    rw [List.getElem?_map, Option.map_eq_some_iff] at hi hj
    obtain ⟨referring, hi, rfl⟩ := hi
    obtain ⟨defining, hj, rfl⟩ := hj
    obtain ⟨x, hx, rfl⟩ := Finset.mem_image.mp href
    obtain ⟨x', hx', hsame⟩ := Finset.mem_image.mp hdef
    -- the two names were one name before
    have hxs : x ∈ names objects := ⟨referring, List.mem_of_getElem? hi, Or.inr hx⟩
    have hxs' : x' ∈ names objects := ⟨defining, List.mem_of_getElem? hj, Or.inl hx'⟩
    obtain rfl := hf hxs' hxs hsame
    exact ⟨x', rfl, referring, defining, hi, hj, hx, hx'⟩
  · rintro ⟨x, rfl, referring, defining, hi, hj, href, hdef⟩
    refine ⟨referring.rename f, defining.rename f, ?_, ?_, Finset.mem_image_of_mem f href,
      Finset.mem_image_of_mem f hdef⟩
    · rw [List.getElem?_map, hi, Option.map_some]
    · rw [List.getElem?_map, hj, Option.map_some]

omit [DecidableEq ν] in
/-- The object at a place of the second of two programs. -/
theorem getElem?_append_add (xs ys : List (Object ν)) (k : ℕ) :
    (xs ++ ys)[xs.length + k]? = ys[k]? := by
  rw [List.getElem?_append_right (Nat.le_add_right _ _), Nat.add_sub_cancel_left]

omit [DecidableEq ν] in
/-- **Two programs that are linked together.**  If no object of one refers to `x` while an
object of the other defines it, references to `x` resolve as in each program alone. -/
theorem resolves_append_iff {xs ys : List (Object ν)} {i j : ℕ} {x : ν}
    (hxs : ∀ a ∈ xs, ∀ b ∈ ys, x ∈ a.references → x ∉ b.defines)
    (hys : ∀ a ∈ xs, ∀ b ∈ ys, x ∈ b.references → x ∉ a.defines) :
    Resolves (xs ++ ys) i x j ↔
      Resolves xs i x j ∨
        ∃ i' j', i = xs.length + i' ∧ j = xs.length + j' ∧ Resolves ys i' x j' := by
  have hside : ∀ k object, (xs ++ ys)[k]? = some object →
      xs[k]? = some object ∨ ∃ k', k = xs.length + k' ∧ ys[k']? = some object := by
    intro k object hk
    rcases Nat.lt_or_ge k xs.length with hlt | hge
    · left
      rwa [List.getElem?_append_left hlt] at hk
    · right
      obtain ⟨k', rfl⟩ := Nat.exists_eq_add_of_le hge
      rw [getElem?_append_add] at hk
      exact ⟨k', rfl, hk⟩
  constructor
  · rintro ⟨referring, defining, hi, hj, href, hdef⟩
    rcases hside i referring hi with hfirst | ⟨i', rfl, hsecond⟩
    · rcases hside j defining hj with hfirst' | ⟨j', rfl, hsecond'⟩
      · exact .inl ⟨referring, defining, hfirst, hfirst', href, hdef⟩
      · exact absurd hdef (hxs referring (List.mem_of_getElem? hfirst) defining
          (List.mem_of_getElem? hsecond') href)
    · rcases hside j defining hj with hfirst' | ⟨j', rfl, hsecond'⟩
      · exact absurd hdef (hys defining (List.mem_of_getElem? hfirst') referring
          (List.mem_of_getElem? hsecond) href)
      · exact .inr ⟨i', j', rfl, rfl, referring, defining, hsecond, hsecond', href, hdef⟩
  · rintro (⟨referring, defining, hi, hj, href, hdef⟩ |
      ⟨i', j', rfl, rfl, referring, defining, hi, hj, href, hdef⟩)
    · refine ⟨referring, defining, ?_, ?_, href, hdef⟩
      · rw [List.getElem?_append_left (List.getElem?_eq_some_iff.mp hi).1, hi]
      · rw [List.getElem?_append_left (List.getElem?_eq_some_iff.mp hj).1, hj]
    · refine ⟨referring, defining, ?_, ?_, href, hdef⟩
      · rw [getElem?_append_add, hi]
      · rw [getElem?_append_add, hj]

omit [DecidableEq ν] in
/-- Between the objects of the first program references resolve as before. -/
theorem resolves_append_of_lt {xs ys : List (Object ν)} {i j : ℕ} {x : ν} (hi : i < xs.length)
    (hj : j < xs.length) : Resolves (xs ++ ys) i x j ↔ Resolves xs i x j := by
  rw [Resolves, Resolves, List.getElem?_append_left hi, List.getElem?_append_left hj]

/-! ## Tables of old and new names -/

/-- What a table of old and new names makes of a name. -/
def redefine (table : List (ν × ν)) (x : ν) : ν := (table.lookup x).getD x

section

variable {olds : List ν} {f : ν → ν} {x : ν}

/-- A table that lists `f x` for every `x` in `olds` replaces these by `f x`. -/
theorem redefine_map_of_mem (hx : x ∈ olds) :
    redefine (olds.map fun old => (old, f old)) x = f x := by
  induction olds with
  | nil => exact absurd hx List.not_mem_nil
  | cons old olds ih =>
      rw [redefine, List.map_cons]
      by_cases hold : x = old
      · subst hold
        rw [List.lookup_cons_self, Option.getD_some]
      · have hlookup : (x == old) = false := beq_eq_false_iff_ne.mpr hold
        rw [List.lookup_cons, hlookup]
        exact ih ((List.mem_cons.mp hx).resolve_left hold)

/-- Other names stay. -/
theorem redefine_map_of_not_mem (hx : x ∉ olds) :
    redefine (olds.map fun old => (old, f old)) x = x := by
  induction olds with
  | nil => rfl
  | cons old olds ih =>
      rw [List.mem_cons, not_or] at hx
      have hlookup : (x == old) = false := beq_eq_false_iff_ne.mpr hx.1
      rw [redefine, List.map_cons, List.lookup_cons, hlookup]
      exact ih hx.2

end

end

/-! ## Prefixes -/

section

variable {α : Type*} [DecidableEq α] {p : List α} {olds : Finset (List α)}

/-- The prefix `p` before the names in `olds`. -/
def prefixed (p : List α) (olds : Finset (List α)) (x : List α) : List α :=
  if x ∈ olds then p ++ x else x

/-- Exactly these names change. -/
theorem prefixed_ne_self_iff (hp : p ≠ []) {x : List α} : prefixed p olds x ≠ x ↔ x ∈ olds := by
  rw [prefixed]
  split_ifs with hx
  · refine iff_of_true (fun hsame => hp ?_) hx
    exact List.append_left_eq_self.mp hsame
  · exact iff_of_false (fun hne => hne rfl) hx

/-- **Prefixes keep names apart**, if no name starts with the prefix before. -/
theorem injOn_prefixed : Set.InjOn (prefixed p olds) {x | ¬ p <+: x} := by
  intro x hx y hy hsame
  rw [Set.mem_ofPred_eq] at hx hy
  rw [prefixed, prefixed] at hsame
  split_ifs at hsame with hxs hys hys
  · exact List.append_cancel_left hsame
  · -- `y` would start with the prefix
    rw [← hsame] at hy
    exact absurd (List.prefix_append p x) hy
  · rw [hsame] at hx
    exact absurd (List.prefix_append p y) hx
  · exact hsame

end

end Linking
