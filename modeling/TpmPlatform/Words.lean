/-
# Lines and words

Splitting a text at terminators and at blanks, over any alphabet and any predicate
that says what a terminator or a blank is.

`splitInclusive_flatMap` : a text made of terminated lines splits into these lines;
`words_append` : a line that starts with a word has it as its first word;
`getLast?_trim` : what a trimmed line ends with is the last letter that is no blank;
`takeWhile_replace` : replacing what starts with a separator keeps what stands before it.
-/
import Mathlib.Data.List.DropRight

namespace Words

variable {α : Type*} {p : α → Bool}

/-! ## Lines -/

/-- The pieces of a list that end with a terminator, which they keep; the last piece
may be without. -/
def splitInclusive (p : α → Bool) : List α → List (List α)
  | [] => []
  | a :: as =>
    if p a then [a] :: splitInclusive p as
    else
      match splitInclusive p as with
      | [] => [[a]]
      | piece :: pieces => (a :: piece) :: pieces

/-- A terminator ends the first piece. -/
theorem splitInclusive_append_cons {line : List α} {a : α} (hline : ∀ b ∈ line, p b = false)
    (ha : p a = true) (rest : List α) :
    splitInclusive p (line ++ a :: rest) = (line ++ [a]) :: splitInclusive p rest := by
  induction line with
  | nil => rw [List.nil_append, splitInclusive, if_pos ha, List.nil_append]
  | cons b line ih =>
      rw [List.forall_mem_cons] at hline
      rw [List.cons_append, splitInclusive, if_neg (by rw [hline.1]; exact Bool.false_ne_true),
        ih hline.2]
      rfl

/-- **Terminated lines** are the pieces of the text that they make up. -/
theorem splitInclusive_flatMap {lines : List (List α)} {a : α}
    (hlines : ∀ line ∈ lines, ∀ b ∈ line, p b = false) (ha : p a = true) :
    splitInclusive p (lines.flatMap (· ++ [a])) = lines.map (· ++ [a]) := by
  induction lines with
  | nil => rfl
  | cons line lines ih =>
      rw [List.forall_mem_cons] at hlines
      rw [List.flatMap_cons, List.append_assoc, List.singleton_append,
        splitInclusive_append_cons hlines.1 ha, ih hlines.2, List.map_cons]

/-! ## Words -/

/-- The pieces between blanks that are not empty. -/
def words (p : α → Bool) (line : List α) : List (List α) :=
  (line.splitOnP p).filter fun piece => !piece.isEmpty

@[simp] theorem words_nil : words p [] = [] := by
  rw [words, List.splitOnP_nil]
  rfl

/-- A blank separates what is on its two sides. -/
theorem words_append_cons {a : α} (ha : p a = true) (before after : List α) :
    words p (before ++ a :: after) = words p before ++ words p after := by
  rw [words, List.splitOnP_append_cons before after ha, List.filter_append, words, words]

/-- A blank at the start does not count. -/
theorem words_cons {a : α} (ha : p a = true) (line : List α) :
    words p (a :: line) = words p line := by
  have h := words_append_cons ha [] line
  rw [words_nil, List.nil_append, List.nil_append] at h
  exact h

/-- Nor does one at the end. -/
theorem words_concat {a : α} (ha : p a = true) (line : List α) :
    words p (line ++ [a]) = words p line := by
  rw [words_append_cons ha, words_nil, List.append_nil]

/-- A word is itself. -/
theorem words_word {word : List α} (hword : ∀ a ∈ word, p a = false) (hne : word ≠ []) :
    words p word = [word] := by
  rw [words, List.splitOnP_eq_singleton hword, List.filter_cons_of_pos, List.filter_nil]
  cases word with
  | nil => exact absurd rfl hne
  | cons a word => rfl

/-- **The first word** of a line that starts with a word. -/
theorem words_append {word rest : List α} (hword : ∀ a ∈ word, p a = false) (hne : word ≠ [])
    (hrest : ∀ a ∈ rest.head?, p a = true) : words p (word ++ rest) = word :: words p rest := by
  cases rest with
  | nil => rw [List.append_nil, words_word hword hne, words_nil]
  | cons a rest =>
      have ha : p a = true := hrest a rfl
      rw [words_append_cons ha, words_word hword hne, words_cons ha, List.singleton_append]

/-! ## Trimming -/

/-- The line without the blanks at its two ends. -/
def trim (p : α → Bool) (line : List α) : List α := (line.dropWhile p).rdropWhile p

/-- Trimming from the left does not touch the words. -/
theorem words_dropWhile (line : List α) : words p (line.dropWhile p) = words p line := by
  induction line with
  | nil => rfl
  | cons a line ih =>
      cases ha : p a with
      | true => rw [List.dropWhile_cons_of_pos ha, words_cons ha, ih]
      | false => rw [List.dropWhile_cons_of_neg (by rw [ha]; exact Bool.false_ne_true)]

/-- Nor does trimming from the right. -/
theorem words_rdropWhile (line : List α) : words p (line.rdropWhile p) = words p line := by
  induction line using List.reverseRecOn with
  | nil => rfl
  | append_singleton line a ih =>
      cases ha : p a with
      | true => rw [List.rdropWhile_concat_pos p line a ha, words_concat ha, ih]
      | false =>
          rw [List.rdropWhile_concat_neg p line a (by rw [ha]; exact Bool.false_ne_true)]

/-- **Trimming keeps the words.** -/
theorem words_trim (line : List α) : words p (trim p line) = words p line := by
  rw [trim, words_rdropWhile, words_dropWhile]

/-- Trimming from the left keeps the letters that are no blanks. -/
theorem filter_dropWhile (line : List α) :
    (line.dropWhile p).filter (fun a => !p a) = line.filter fun a => !p a := by
  induction line with
  | nil => rfl
  | cons a line ih =>
      cases ha : p a with
      | true => rw [List.dropWhile_cons_of_pos ha, ih, List.filter_cons_of_neg (by simp [ha])]
      | false => rw [List.dropWhile_cons_of_neg (by rw [ha]; exact Bool.false_ne_true)]

/-- What is left from the right ends with the last of them. -/
theorem getLast?_rdropWhile (line : List α) :
    (line.rdropWhile p).getLast? = (line.filter fun a => !p a).getLast? := by
  induction line using List.reverseRecOn with
  | nil => rfl
  | append_singleton line a ih =>
      cases ha : p a with
      | true =>
          rw [List.rdropWhile_concat_pos p line a ha, ih, List.filter_append,
            List.filter_singleton, ha]
          simp
      | false =>
          rw [List.rdropWhile_concat_neg p line a (by rw [ha]; exact Bool.false_ne_true),
            List.filter_append, List.filter_singleton, ha]
          simp

/-- **What a trimmed line ends with** is the last letter that is no blank. -/
theorem getLast?_trim (line : List α) :
    (trim p line).getLast? = (line.filter fun a => !p a).getLast? := by
  rw [trim, getLast?_rdropWhile, filter_dropWhile]

/-- A blank at the end makes no difference. -/
theorem trim_concat {a : α} (ha : p a = true) (line : List α) :
    trim p (line ++ [a]) = trim p line := by
  rw [trim, List.dropWhile_append]
  split_ifs with hblank
  · rw [trim, List.isEmpty_iff.mp hblank, List.dropWhile_cons_of_pos ha, List.dropWhile_nil]
  · rw [List.rdropWhile_concat_pos p _ a ha, trim]

/-! ## Replacing -/

section

variable [DecidableEq α]

/-- The text with the occurrences of `pat` replaced by `new`, from left to right, where the
next `skip` letters belong to an occurrence that has been replaced. -/
def replaceFrom (pat new : List α) : ℕ → List α → List α
  | _, [] => []
  | skip + 1, _ :: as => replaceFrom pat new skip as
  | 0, a :: as =>
    if pat <+: a :: as then new ++ replaceFrom pat new (pat.length - 1) as
    else a :: replaceFrom pat new 0 as

/-- The text with the occurrences of `pat` replaced by `new`. -/
def replace (pat new text : List α) : List α := replaceFrom pat new 0 text

/-- A single letter is replaced wherever it stands. -/
theorem replace_singleton (a : α) (new text : List α) :
    replace [a] new text = text.flatMap fun b => if b = a then new else [b] := by
  unfold replace
  induction text with
  | nil => rfl
  | cons b text ih =>
      have hpat : [a] <+: b :: text ↔ b = a := by
        rw [List.cons_prefix_cons, eq_comm, and_iff_left List.nil_prefix]
      rw [replaceFrom, List.flatMap_cons, List.length_singleton, Nat.sub_self, ih]
      by_cases h : b = a
      · rw [if_pos (hpat.mpr h), if_pos h]
      · rw [if_neg (mt hpat.mp h), if_neg h, List.singleton_append]

/-- **What stands before the first separator** stays, if pattern and replacement start with
one. -/
theorem takeWhile_replace {sep : α} (hsep : p sep = false) (pat new text : List α) :
    (replace (sep :: pat) (sep :: new) text).takeWhile p = text.takeWhile p := by
  unfold replace
  induction text with
  | nil => rfl
  | cons a as ih =>
      rw [replaceFrom]
      split_ifs with hpat
      · -- the text has a separator here itself
        obtain ⟨rfl, -⟩ := List.cons_prefix_cons.mp hpat
        rw [List.cons_append, List.takeWhile_cons_of_neg (by rw [hsep]; exact Bool.false_ne_true),
          List.takeWhile_cons_of_neg (by rw [hsep]; exact Bool.false_ne_true)]
      · rw [List.takeWhile_cons, List.takeWhile_cons, ih]

end

end Words
