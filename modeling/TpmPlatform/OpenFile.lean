/-
# Files that are overwritten from the start

A file is its contents and a position.  Writing a buffer is a loop of writes, each of which
takes as many bytes as the operating system likes; it can fail between any two of them, and
so can the process that runs it.  A store that keeps one record in a file by rewinding and
writing it anew overwrites a prefix of the old record.

* `writeAll_spec` : what the loop leaves, however it ends: a prefix of the buffer, written
  over what stood there, the whole of it exactly if the loop succeeds;
* `Overwritten` : a record over which another one was written, as far as the loop got.
-/
import Mathlib.Data.List.Basic

/-- The answer of the operating system to a `write`. -/
inductive WriteAnswer
  | wrote (count : ℕ)
  | interrupted
  | failed (message : String)
  deriving DecidableEq

/-- A file that is open for writing. -/
structure OpenFile (α : Type*) where
  contents : List α
  position : ℕ
  deriving DecidableEq

namespace OpenFile

variable {α : Type*}

/-- The file with `bytes` written at its position. -/
def write (f : OpenFile α) (bytes : List α) : OpenFile α where
  contents := f.contents.take f.position ++ bytes ++ f.contents.drop (f.position + bytes.length)
  position := f.position + bytes.length

/-- Back to the start. -/
def rewind (f : OpenFile α) : OpenFile α := { f with position := 0 }

/-- `write_all`: the loop over the answers of the operating system.  Without an outcome the
process has ended before the loop did. -/
def writeAll (f : OpenFile α) : List α → List WriteAnswer → Option (Except String Unit) × OpenFile α
  | [], _ => (some (.ok ()), f)
  | _ :: _, [] => (none, f)
  | b :: buf, .wrote count :: answers =>
    if count = 0 then (some (.error "failed to write whole buffer"), f)
    else writeAll (f.write ((b :: buf).take count)) ((b :: buf).drop count) answers
  | b :: buf, .interrupted :: answers => writeAll f (b :: buf) answers
  | _ :: _, .failed message :: _ => (some (.error message), f)

/-! ## What is left behind -/

/-- Writing twice is writing the concatenation. -/
theorem write_write {f : OpenFile α} (h : f.position ≤ f.contents.length) (xs ys : List α) :
    (f.write xs).write ys = f.write (xs ++ ys) := by
  have htake : (f.contents.take f.position).length = f.position := by
    rw [List.length_take]
    omega
  have hhead : (f.contents.take f.position ++ xs).length = f.position + xs.length := by
    rw [List.length_append, htake]
  have hdrop : ((f.contents.take f.position ++ xs) ++
      f.contents.drop (f.position + xs.length)).drop (f.position + xs.length + ys.length) =
      f.contents.drop (f.position + xs.length + ys.length) := by
    rw [← hhead, List.drop_append, List.drop_eq_nil_of_le (Nat.le_add_right _ _),
      List.nil_append, Nat.add_sub_cancel_left, List.drop_drop, hhead]
  unfold write
  dsimp only
  rw [hdrop, List.length_append, ← Nat.add_assoc]
  congr 1
  have hfront : ((f.contents.take f.position ++ xs) ++
      f.contents.drop (f.position + xs.length)).take (f.position + xs.length) =
      f.contents.take f.position ++ xs := by
    rw [← hhead, List.take_left]
  rw [hfront, List.append_assoc, List.append_assoc, List.append_assoc, List.append_assoc]

/-- After a write the position is inside the file. -/
theorem position_write_le {f : OpenFile α} (h : f.position ≤ f.contents.length) (xs : List α) :
    (f.write xs).position ≤ (f.write xs).contents.length := by
  unfold write
  dsimp only
  rw [List.length_append, List.length_append, List.length_take]
  omega

/-- Writing nothing changes nothing. -/
theorem write_nil (f : OpenFile α) : f.write [] = f := by
  unfold write
  rw [List.append_nil, List.length_nil, Nat.add_zero, List.take_append_drop]

/-- **`write_all`** writes a prefix of the buffer, and the whole of it exactly if it
succeeds. -/
theorem writeAll_spec {f : OpenFile α} (h : f.position ≤ f.contents.length) (buf : List α)
    (answers : List WriteAnswer) :
    ∃ k ≤ buf.length, (f.writeAll buf answers).2 = f.write (buf.take k) ∧
      ((f.writeAll buf answers).1 = some (.ok ()) ↔ k = buf.length) := by
  induction answers generalizing f buf with
  | nil =>
      cases buf with
      | nil => exact ⟨0, Nat.le_refl _, (write_nil f).symm, iff_of_true rfl rfl⟩
      | cons b buf =>
          refine ⟨0, Nat.zero_le _, (write_nil f).symm, iff_of_false ?_ ?_⟩
          · intro hc
            cases hc
          · simp
  | cons answer answers ih =>
      cases buf with
      | nil => exact ⟨0, Nat.le_refl _, (write_nil f).symm, iff_of_true rfl rfl⟩
      | cons b buf =>
          cases answer with
          | interrupted => exact ih h (b :: buf)
          | failed message =>
              refine ⟨0, Nat.zero_le _, (write_nil f).symm, iff_of_false ?_ ?_⟩
              · intro hc
                cases hc
              · simp
          | wrote count =>
              rw [writeAll]
              by_cases hcount : count = 0
              · rw [if_pos hcount]
                refine ⟨0, Nat.zero_le _, (write_nil f).symm, iff_of_false ?_ ?_⟩
                · intro hc
                  cases hc
                · simp
              · rw [if_neg hcount]
                obtain ⟨k, hk, hfile, hok⟩ :=
                  ih (position_write_le h ((b :: buf).take count)) ((b :: buf).drop count)
                -- the bytes of this write, and then those of the later ones
                have hlength : ((b :: buf).drop count).length = (b :: buf).length - count :=
                  List.length_drop
                have hsplit : (b :: buf).take count ++ ((b :: buf).drop count).take k =
                    (b :: buf).take (min count (b :: buf).length + k) := by
                  rw [List.take_add, ← List.take_take, List.take_length]
                  congr 2
                  rcases Nat.le_total count (b :: buf).length with hle | hle
                  · rw [Nat.min_eq_left hle]
                  · rw [Nat.min_eq_right hle, List.drop_eq_nil_of_le hle, List.drop_length]
                refine ⟨min count (b :: buf).length + k, by omega, ?_, ?_⟩
                · rw [hfile, write_write h, hsplit]
                · rw [hok, hlength]
                  omega

/-- One write that takes everything. -/
theorem writeAll_wrote {f : OpenFile α} {buf : List α} {count : ℕ} (hbuf : buf ≠ [])
    (hcount : buf.length ≤ count) :
    f.writeAll buf [.wrote count] = (some (.ok ()), f.write buf) := by
  cases buf with
  | nil => exact absurd rfl hbuf
  | cons b buf =>
      rw [List.length_cons] at hcount
      rw [writeAll, if_neg (by omega), List.take_of_length_le hcount,
        List.drop_eq_nil_of_le hcount]
      rfl

/-! ## Records -/

/-- `new` written over `old`, as far as the first `k` bytes. -/
def Overwritten (old new : List α) (k : ℕ) (contents : List α) : Prop :=
  k ≤ new.length ∧ contents = new.take k ++ old.drop k

/-- **Rewinding and writing** overwrites the record, all of it exactly if it succeeds. -/
theorem overwritten_writeAll_rewind (f : OpenFile α) (new : List α) (answers : List WriteAnswer) :
    ∃ k, Overwritten f.contents new k (f.rewind.writeAll new answers).2.contents ∧
      ((f.rewind.writeAll new answers).1 = some (.ok ()) ↔ k = new.length) := by
  obtain ⟨k, hk, hfile, hok⟩ := writeAll_spec (f := f.rewind) (Nat.zero_le _) new answers
  refine ⟨k, ⟨hk, ?_⟩, hok⟩
  rw [hfile]
  show f.contents.take 0 ++ new.take k ++ f.contents.drop (0 + (new.take k).length) = _
  rw [List.take_zero, List.nil_append, Nat.zero_add, List.length_take, Nat.min_eq_left hk]

/-- A record of the new length keeps its length. -/
theorem Overwritten.length_eq {old new contents : List α} {k : ℕ}
    (h : Overwritten old new k contents) : contents.length = max k old.length := by
  obtain ⟨hk, rfl⟩ := h
  rw [List.length_append, List.length_take, List.length_drop]
  omega

/-- A record that has been overwritten completely is the new one. -/
theorem Overwritten.eq_new {old new contents : List α} {k : ℕ}
    (h : Overwritten old new k contents) (hk : k = new.length) (hle : old.length ≤ new.length) :
    contents = new := by
  obtain ⟨-, rfl⟩ := h
  rw [hk, List.take_length, List.drop_eq_nil_of_le hle, List.append_nil]

end OpenFile
