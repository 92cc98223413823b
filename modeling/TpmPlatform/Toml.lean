/-
# A table of strings in TOML

The part of TOML that a script writes: a comment, a table, and assignments of basic strings to
bare keys, each on a line of its own.

`denotes_escape_iff` : with backslashes and quotes escaped, a basic string stands for what has
been escaped, unless there is a control character in it, and for nothing else;
`reads_readTable` : a reader of such documents.
-/
import TpmPlatform.Words
import Mathlib.Tactic.ByCases

namespace Toml

/-! ## Basic strings -/

/-- The characters that a basic string cannot hold as they are, quotes and backslashes apart. -/
def isControl (c : Char) : Bool := decide (c.toNat < 0x20) && c != '\t' || c.toNat == 0x7F

/-- The text between the quotes of a basic string, and what it stands for.  The escapes for
control characters and for characters by their number are left out. -/
inductive Denotes : List Char → List Char → Prop
  | nil : Denotes [] []
  | plain {c : Char} {text value : List Char} (hcontrol : isControl c = false) (hquote : c ≠ '"')
      (hbackslash : c ≠ '\\') (h : Denotes text value) : Denotes (c :: text) (c :: value)
  | quote {text value : List Char} (h : Denotes text value) :
      Denotes ('\\' :: '"' :: text) ('"' :: value)
  | backslash {text value : List Char} (h : Denotes text value) :
      Denotes ('\\' :: '\\' :: text) ('\\' :: value)

/-- A character as a basic string holds it. -/
def escapeChar (c : Char) : List Char :=
  if c = '\\' then ['\\', '\\'] else if c = '"' then ['\\', '"'] else [c]

/-- Backslashes and quotes escaped. -/
def escape (value : List Char) : List Char := value.flatMap escapeChar

theorem escape_cons (c : Char) (value : List Char) :
    escape (c :: value) = escapeChar c ++ escape value := List.flatMap_cons

/-- What is escaped stands for itself. -/
theorem denotes_escape {value : List Char} (h : ∀ c ∈ value, isControl c = false) :
    Denotes (escape value) value := by
  induction value with
  | nil => exact .nil
  | cons c value ih =>
      rw [List.forall_mem_cons] at h
      rw [escape_cons, escapeChar]
      split_ifs with hbackslash hquote
      · subst hbackslash
        exact .backslash (ih h.2)
      · subst hquote
        exact .quote (ih h.2)
      · exact .plain h.1 hquote hbackslash (ih h.2)

/-- **An escaped string** stands for what has been escaped, if that has no control
characters, and otherwise it is no basic string. -/
theorem denotes_escape_iff {value other : List Char} :
    Denotes (escape value) other ↔ other = value ∧ ∀ c ∈ value, isControl c = false := by
  constructor
  · intro h
    induction value generalizing other with
    | nil =>
        cases h
        exact ⟨rfl, List.forall_mem_nil _⟩
    | cons c value ih =>
        rw [List.forall_mem_cons]
        rw [escape_cons, escapeChar] at h
        generalize htext : escape value = text at h ih
        split_ifs at h with hbackslash hquote
        · subst hbackslash
          cases h with
          | plain hcontrol hq hb h => exact absurd rfl hb
          | backslash h =>
              obtain ⟨rfl, hvalue⟩ := ih h
              exact ⟨rfl, by decide, hvalue⟩
        · subst hquote
          cases h with
          | plain hcontrol hq hb h => exact absurd rfl hb
          | quote h =>
              obtain ⟨rfl, hvalue⟩ := ih h
              exact ⟨rfl, by decide, hvalue⟩
        · cases h with
          | plain hcontrol hq hb h =>
              obtain ⟨rfl, hvalue⟩ := ih h
              exact ⟨rfl, hcontrol, hvalue⟩
          | quote h => exact absurd rfl hbackslash
          | backslash h => exact absurd rfl hbackslash
  · rintro ⟨rfl, h⟩
    exact denotes_escape h

/-- What stands for a string has no control characters. -/
theorem isControl_of_denotes {text value : List Char} (h : Denotes text value) :
    ∀ c ∈ text, isControl c = false := by
  induction h with
  | nil => exact List.forall_mem_nil _
  | plain hcontrol _ _ _ ih => exact List.forall_mem_cons.mpr ⟨hcontrol, ih⟩
  | quote _ ih =>
      exact List.forall_mem_cons.mpr ⟨by decide, List.forall_mem_cons.mpr ⟨by decide, ih⟩⟩
  | backslash _ ih =>
      exact List.forall_mem_cons.mpr ⟨by decide, List.forall_mem_cons.mpr ⟨by decide, ih⟩⟩

/-! ## Documents -/

/-- `name = "text"`, which assigns `value`. -/
structure Assignment where
  name : List Char
  text : List Char
  value : List Char

/-- The line of an assignment. -/
def Assignment.line (a : Assignment) : List Char :=
  a.name ++ (" = \"".toList ++ (a.text ++ ['"']))

/-- The lines of a document with a comment and one table. -/
def lines (comment table : List Char) (assignments : List Assignment) : List (List Char) :=
  ('#' :: comment) :: ('[' :: (table ++ [']'])) :: assignments.map Assignment.line

/-- The document. -/
def document (comment table : List Char) (assignments : List Assignment) : List Char :=
  (lines comment table assignments).flatMap (· ++ ['\n'])

/-- The characters of a bare key. -/
def isBare (c : Char) : Bool := c.isAlphanum || c == '_' || c == '-'

/-- A bare key. -/
def BareKey (name : List Char) : Prop := name ≠ [] ∧ ∀ c ∈ name, isBare c = true

/-- The document is one. -/
structure Valid (comment table : List Char) (assignments : List Assignment) : Prop where
  comment : ∀ c ∈ comment, isControl c = false
  table : BareKey table
  names : ∀ a ∈ assignments, BareKey a.name
  distinct : (assignments.map Assignment.name).Nodup
  strings : ∀ a ∈ assignments, Denotes a.text a.value

/-- The reader finds what the documents assign: it takes a document, a table and a key. -/
def Reads (reader : List Char → List Char → List Char → Option (List Char)) : Prop :=
  ∀ comment table assignments, Valid comment table assignments → ∀ a ∈ assignments,
    reader (document comment table assignments) table a.name = some a.value

/-! ## A reader -/

/-- A basic string up to its closing quote. -/
def readBasic : List Char → Option (List Char)
  | [] => none
  | '"' :: _ => some []
  | '\\' :: '"' :: text => (readBasic text).map ('"' :: ·)
  | '\\' :: '\\' :: text => (readBasic text).map ('\\' :: ·)
  | '\\' :: _ => none
  | c :: text => if isControl c then none else (readBasic text).map (c :: ·)

/-- What the line assigns to the name. -/
def assigned (name line : List Char) : Option (List Char) :=
  if name ++ " = \"".toList <+: line then readBasic (line.drop (name.length + 4)) else none

/-- What the table of the document assigns to the name. -/
def readTable (text table name : List Char) : Option (List Char) :=
  let lines := Words.splitInclusive (· == '\n') text
  let lines := lines.dropWhile (· != '[' :: (table ++ "]\n".toList))
  (lines.tail.takeWhile (·.head? != some '[')).findSome? (assigned name)

theorem readBasic_of_denotes {text value rest : List Char} (h : Denotes text value) :
    readBasic (text ++ '"' :: rest) = some value := by
  induction h with
  | nil => rfl
  | @plain c text value hcontrol hquote hbackslash _ ih =>
      rw [List.cons_append, readBasic.eq_def]
      split
      · next h => cases h
      · next h => exact absurd (List.cons.inj h).1 hquote
      · next h => exact absurd (List.cons.inj h).1 hbackslash
      · next h => exact absurd (List.cons.inj h).1 hbackslash
      · next h => exact absurd (List.cons.inj h).1 hbackslash
      · next h =>
          obtain ⟨rfl, rfl⟩ := List.cons.inj h
          rw [hcontrol, if_neg Bool.false_ne_true, ih, Option.map_some]
  | quote _ ih => rw [List.cons_append, List.cons_append, readBasic, ih, Option.map_some]
  | backslash _ ih => rw [List.cons_append, List.cons_append, readBasic, ih, Option.map_some]

/-- A bare key has no blanks. -/
theorem not_blank_of_bareKey {name : List Char} (h : BareKey name) :
    ∀ c ∈ name, (c != ' ') = true := by
  intro c hc
  refine bne_iff_ne.mpr ?_
  rintro rfl
  exact absurd (h.2 ' ' hc) (by decide)

/-- The line of an assignment is read for its own name only. -/
theorem assigned_line {a : Assignment} {name : List Char} (ha : BareKey a.name)
    (hname : BareKey name) (hstring : Denotes a.text a.value) :
    assigned name (a.line ++ ['\n']) = if a.name = name then some a.value else none := by
  have hline : a.line ++ ['\n'] =
      a.name ++ (' ' :: "= \"".toList ++ (a.text ++ '"' :: ['\n'])) := by
    simp only [Assignment.line, List.append_assoc, List.singleton_append]
    rfl
  have hkey : name ++ " = \"".toList = name ++ (' ' :: "= \"".toList) := rfl
  unfold assigned
  split_ifs with hprefix heq heq
  · subst heq
    rw [hline, show a.name.length + 4 = (a.name ++ (' ' :: "= \"".toList)).length by
      rw [List.length_append]; rfl, ← List.append_assoc, List.drop_left,
      readBasic_of_denotes hstring]
  · -- both names end at the first blank
    obtain ⟨rest, hrest⟩ := hprefix
    rw [hline, hkey, List.append_assoc] at hrest
    have htake := congrArg (List.takeWhile (· != ' ')) hrest
    rw [List.takeWhile_append_of_pos (not_blank_of_bareKey hname),
      List.takeWhile_append_of_pos (not_blank_of_bareKey ha), List.cons_append, List.cons_append,
      List.takeWhile_cons_of_neg (by decide), List.takeWhile_cons_of_neg (by decide),
      List.append_nil, List.append_nil] at htake
    exact absurd htake.symm heq
  · subst heq
    refine absurd ⟨a.text ++ '"' :: ['\n'], ?_⟩ hprefix
    rw [hline, hkey, List.append_assoc]
  · rfl

/-- The lines of a document end where they seem to. -/
theorem not_newline_of_valid {comment table : List Char} {assignments : List Assignment}
    (h : Valid comment table assignments) :
    ∀ line ∈ lines comment table assignments, ∀ c ∈ line, (c == '\n') = false := by
  have hbare : ∀ name, BareKey name → ∀ c ∈ name, c ≠ '\n' := by
    rintro name hname c hc rfl
    exact absurd (hname.2 '\n' hc) (by decide)
  have hplain : ∀ text : List Char, (∀ c ∈ text, isControl c = false) → ∀ c ∈ text, c ≠ '\n' := by
    rintro text htext c hc rfl
    exact absurd (htext '\n' hc) (by decide)
  intro line hline c hc
  rw [beq_eq_false_iff_ne]
  obtain rfl | hline := List.mem_cons.mp hline
  · obtain rfl | hc := List.mem_cons.mp hc
    · decide
    · exact hplain comment h.comment c hc
  obtain rfl | hline := List.mem_cons.mp hline
  · rw [List.mem_cons, List.mem_append, List.mem_singleton] at hc
    obtain rfl | hc | rfl := hc
    · decide
    · exact hbare table h.table c hc
    · decide
  · obtain ⟨a, ha, rfl⟩ := List.mem_map.mp hline
    rw [Assignment.line, List.mem_append, List.mem_append, List.mem_append,
      List.mem_singleton] at hc
    obtain hc | hc | hc | rfl := hc
    · exact hbare a.name (h.names a ha) c hc
    · rintro rfl
      exact absurd hc (by decide)
    · exact hplain a.text (isControl_of_denotes (h.strings a ha)) c hc
    · decide

/-- **The reader reads** such documents. -/
theorem reads_readTable : Reads readTable := by
  intro comment table assignments hvalid a ha
  have hlines : Words.splitInclusive (· == '\n') (document comment table assignments) =
      (lines comment table assignments).map (· ++ ['\n']) :=
    Words.splitInclusive_flatMap (not_newline_of_valid hvalid) rfl
  have htable : ('[' :: (table ++ [']'])) ++ ['\n'] = '[' :: (table ++ "]\n".toList) := by
    rw [List.cons_append, List.append_assoc]
    rfl
  have hkeep : ((assignments.map Assignment.line).map (· ++ ['\n'])).takeWhile
      (·.head? != some '[') = (assignments.map Assignment.line).map (· ++ ['\n']) := by
    refine List.takeWhile_eq_self_iff.mpr ?_
    intro line hline
    rw [List.map_map] at hline
    obtain ⟨b, hb, rfl⟩ := List.mem_map.mp hline
    obtain ⟨hne, hbare⟩ := hvalid.names b hb
    obtain ⟨c, rest, hname⟩ := List.exists_cons_of_ne_nil hne
    rw [Function.comp_apply, Assignment.line, hname, List.cons_append, List.cons_append,
      List.head?_cons]
    refine bne_iff_ne.mpr fun h => ?_
    have hc := hbare c (by rw [hname]; exact List.mem_cons_self)
    rw [Option.some.inj h] at hc
    exact absurd hc (by decide)
  have hfind : ((assignments.map Assignment.line).map (· ++ ['\n'])).findSome?
      (assigned a.name) = some a.value := by
    have hnames := hvalid.names
    have hdistinct := hvalid.distinct
    have hstrings := hvalid.strings
    clear hvalid hlines hkeep
    induction assignments with
    | nil => cases ha
    | cons b assignments ih =>
        rw [List.map_cons, List.nodup_cons] at hdistinct
        rw [List.map_cons, List.map_cons, List.findSome?_cons,
          assigned_line (hnames b List.mem_cons_self) (hnames a ha) (hstrings b List.mem_cons_self)]
        obtain rfl | ha' := List.mem_cons.mp ha
        · rw [if_pos rfl]
        · have hother : b.name ≠ a.name := by
            intro hsame
            exact hdistinct.1 (List.mem_map.mpr ⟨a, ha', hsame.symm⟩)
          rw [if_neg hother]
          exact ih ha' (fun c hc => hnames c (List.mem_cons_of_mem _ hc)) hdistinct.2
            fun c hc => hstrings c (List.mem_cons_of_mem _ hc)
  rw [readTable, hlines, lines, List.map_cons, List.map_cons, List.dropWhile_cons_of_pos (by
    rw [bne_iff_ne]; intro h; exact absurd (List.cons.inj h).1 (by decide)), htable,
    List.dropWhile_cons_of_neg (by rw [bne_self_eq_false]; exact Bool.false_ne_true),
    List.tail_cons, hkeep, hfind]

end Toml
