/-
# Prefixed symbols link as before

What `nm` prints is read back symbol by symbol, what is written to the rename file is
read back line by line, and the renaming that it stands for keeps all names apart.

`renames_keeps_linking` : for every set of archives whose symbols are words without the
prefix, the two listings in any order and with any headers between them.
`defines_of_not_prefixed` : of what the archives define under a name without the prefix,
nothing is left but what `renames` does not rename.
`resolves_callback`, `resolves_function` : the Rust side, which has the new names fixed
in its attributes, is linked with the archives in both directions.
-/
import TpmPlatform.Symbols

open Linking

namespace TpmPlatform.Symbols

/-! ## Lines and words -/

/-- Only a carriage return is taken off. -/
theorem stripCarriageReturn_cases (line : Str) :
    stripCarriageReturn line = line ∨ line = stripCarriageReturn line ++ ['\r'] := by
  rw [stripCarriageReturn]
  split_ifs with hlast
  · right
    obtain ⟨init, rfl⟩ := List.getLast?_eq_some_iff.mp hlast
    rw [List.dropLast_concat]
  · exact Or.inl rfl

/-- What a carriage return at the end makes no difference to, is not changed. -/
theorem apply_stripCarriageReturn {β : Type} {f : Str → β}
    (hf : ∀ line, f (line ++ ['\r']) = f line) (line : Str) :
    f (stripCarriageReturn line) = f line := by
  rcases stripCarriageReturn_cases line with hsame | hcut
  · rw [hsame]
  · have hconcat := hf (stripCarriageReturn line)
    rw [← hcut] at hconcat
    exact hconcat.symm

/-- It belongs to no word. -/
theorem splitWhitespace_stripCarriageReturn (line : Str) :
    splitWhitespace (stripCarriageReturn line) = splitWhitespace line := by
  have hblank : isWhitespace '\r' = true := by decide
  exact apply_stripCarriageReturn (Words.words_concat hblank) line

/-- Trimming takes it off anyway. -/
theorem trim_stripCarriageReturn (line : Str) : trim (stripCarriageReturn line) = trim line := by
  have hblank : isWhitespace '\r' = true := by decide
  exact apply_stripCarriageReturn (Words.trim_concat hblank) line

/-- A word is on one line. -/
theorem newline_not_mem_of_word {word : Str} (hword : ∀ c ∈ word, isWhitespace c = false) :
    '\n' ∉ word := by
  intro hmem
  have hblank := hword '\n' hmem
  revert hblank
  decide

/-- **Lines.**  What is written line by line is read line by line. -/
theorem lines_flatMap {texts : List Str} (htexts : ∀ line ∈ texts, '\n' ∉ line) :
    lines (texts.flatMap (· ++ ['\n'])) = texts.map stripCarriageReturn := by
  have hplain : ∀ line ∈ texts, ∀ c ∈ line, (c == '\n') = false := by
    intro line hline c hc
    rw [beq_eq_false_iff_ne]
    rintro rfl
    exact htexts line hline hc
  rw [lines, Words.splitInclusive_flatMap hplain (beq_self_eq_true '\n'), List.map_map]
  apply List.map_congr_left
  intro line _
  rw [Function.comp_apply, stripLineEnding, if_pos List.getLast?_concat, List.dropLast_concat]

/-- A letter of an identifier is no blank. -/
theorem isWhitespace_of_isAlphanum {c : Char} (h : (c.isAlphanum || c == '_') = true) :
    isWhitespace c = false := by
  rw [Bool.or_eq_true, beq_iff_eq] at h
  rcases h with h | rfl
  · have hkind : ((c.isUpper || c.isLower) || c.isDigit) = true := h
    rw [Bool.or_eq_true, Bool.or_eq_true] at hkind
    have hcode : 48 ≤ c.toNat ∧ c.toNat ≤ 122 := by
      rcases hkind with (hupper | hlower) | hdigit
      · have hrange : 65 ≤ c.toNat ∧ c.toNat ≤ 90 := of_decide_eq_true hupper
        omega
      · have hrange : 97 ≤ c.toNat ∧ c.toNat ≤ 122 :=
          ⟨of_decide_eq_true (Bool.and_eq_true_iff.mp hlower).1,
            of_decide_eq_true (Bool.and_eq_true_iff.mp hlower).2⟩
        omega
      · have hrange : 48 ≤ c.toNat ∧ c.toNat ≤ 57 :=
          ⟨of_decide_eq_true (Bool.and_eq_true_iff.mp hdigit).1,
            of_decide_eq_true (Bool.and_eq_true_iff.mp hdigit).2⟩
        omega
    simp only [isWhitespace, Bool.or_eq_false_iff, Bool.and_eq_false_iff, decide_eq_false_iff_not,
      beq_eq_false_iff_ne]
    omega
  · decide

/-- An identifier is a word. -/
theorem word_of_isCIdentifier {name : Str} (h : isCIdentifier name = true) :
    name ≠ [] ∧ ∀ c ∈ name, isWhitespace c = false := by
  cases name with
  | nil => cases h
  | cons c chars =>
      rw [isCIdentifier, Bool.and_eq_true, List.all_eq_true] at h
      refine ⟨List.cons_ne_nil c chars, ?_⟩
      rw [List.forall_mem_cons]
      refine ⟨isWhitespace_of_isAlphanum ?_, fun d hd => isWhitespace_of_isAlphanum (h.2 d hd)⟩
      rw [Char.isAlphanum, Bool.or_assoc, Bool.or_comm c.isDigit, ← Bool.or_assoc, h.1]
      rfl

/-! ## Listings -/

/-- A symbol as `nm --format=posix` prints it: the name, and the columns after it, which
hold a letter and numbers. -/
structure NmSymbol where
  name : Str
  columns : Str
  name_ne_nil : name ≠ []
  separated : ∀ c ∈ columns.head?, isWhitespace c = true
  columns_clean : '\n' ∉ columns ∧ ':' ∉ columns

/-- A line of a listing; the members of an archive have headers, `archive[member]:`. -/
inductive NmLine
  | header (archive member : Str) (hclean : '\n' ∉ archive ∧ '\n' ∉ member)
  | blank
  | entry (symbol : NmSymbol)

/-- The text of a line. -/
def NmLine.text : NmLine → Str
  | .header archive member _ => archive ++ '[' :: member ++ [']', ':']
  | .blank => []
  | .entry symbol => symbol.name ++ symbol.columns

/-- The symbol of a line, if it is the line of one. -/
def NmLine.symbol? : NmLine → Option Str
  | .entry symbol => some symbol.name
  | _ => none

/-- What is printed. -/
def printed (listing : List NmLine) : Str := (listing.map NmLine.text).flatMap (· ++ ['\n'])

/-- The name is among the symbols of the listing. -/
def Lists (listing : List NmLine) (name : Str) : Prop :=
  ∃ line ∈ listing, line.symbol? = some name

instance (listing : List NmLine) (name : Str) : Decidable (Lists listing name) :=
  inferInstanceAs (Decidable (∃ line ∈ listing, line.symbol? = some name))

/-- A name that the build script can handle: a word that has not got the prefix and does
not end like a header. -/
@[mk_iff]
structure Plain (name : Str) : Prop where
  word : ∀ c ∈ name, isWhitespace c = false
  not_prefixed : ¬ symbolPrefix <+: name
  no_colon : name.getLast? ≠ some ':'

instance (name : Str) : Decidable (Plain name) :=
  -- along the list, not over all characters
  have : Decidable (∀ c ∈ name, isWhitespace c = false) := List.decidableBAll _ name
  decidable_of_iff _ (plain_iff name).symm

/-- The symbols that `nm` lists under a filter. -/
def Archive.listedBy (archive : Archive) : NmFilter → Finset Str
  | .definedOnly => archive.symbols.defines
  | .undefinedOnly => archive.symbols.references

/-- `nm` succeeds on the archives, and prints a line for each symbol that the filter lets
through and for no other, with headers and blank lines anywhere between them. -/
def ListsSymbols (nm : Nm) (archives : List Archive) : Prop :=
  ∀ filter, ∃ output listing, nm filter archives = .ok output ∧ output.success = true ∧
    output.stdout = (String.ofList (printed listing)).toByteArray ∧
    ∀ name, Lists listing name ↔ ∃ archive ∈ archives, name ∈ archive.listedBy filter

/-- A listed line is one line. -/
theorem NmLine.newline_not_mem_text {line : NmLine}
    (hplain : ∀ name, line.symbol? = some name → Plain name) : '\n' ∉ line.text := by
  cases line with
  | header archive member hclean =>
      rw [NmLine.text]
      simp [hclean.1, hclean.2]
  | blank => exact List.not_mem_nil
  | entry symbol =>
      rw [NmLine.text, List.mem_append, not_or]
      exact ⟨newline_not_mem_of_word (hplain symbol.name rfl).word, symbol.columns_clean.1⟩

/-- A header ends in a colon. -/
theorem getLast?_trim_header (archive member : Str) (hclean : '\n' ∉ archive ∧ '\n' ∉ member) :
    (trim (NmLine.header archive member hclean).text).getLast? = some ':' := by
  have hcolon : isWhitespace ':' = false := by decide
  have hbracket : isWhitespace ']' = false := by decide
  rw [trim, Words.getLast?_trim, NmLine.text, List.filter_append]
  simp [hcolon, hbracket]

/-- The line of a symbol does not. -/
theorem getLast?_trim_entry {symbol : NmSymbol} (hplain : Plain symbol.name) :
    (trim (NmLine.entry symbol).text).getLast? ≠ some ':' := by
  have hname : symbol.name.filter (fun c => !isWhitespace c) = symbol.name := by
    apply List.filter_eq_self.mpr
    intro c hc
    rw [hplain.word c hc]
    rfl
  rw [trim, Words.getLast?_trim, NmLine.text, List.filter_append, hname, List.getLast?_append]
  intro hlast
  rcases Option.or_eq_some_iff.mp hlast with hcolumns | ⟨-, hend⟩
  · exact symbol.columns_clean.2 (List.mem_of_mem_filter (List.mem_of_getLast? hcolumns))
  · exact hplain.no_colon hend

/-- Its first word is the name. -/
theorem splitWhitespace_entry {symbol : NmSymbol} (hplain : Plain symbol.name) :
    (splitWhitespace (NmLine.entry symbol).text).head? = some symbol.name := by
  rw [splitWhitespace, NmLine.text,
    Words.words_append hplain.word symbol.name_ne_nil symbol.separated, List.head?_cons]

/-- **Listings are read back**: what the build script finds in them are the names of the
symbols, the headers between them notwithstanding. -/
theorem mem_listedSymbols_printed {listing : List NmLine}
    (hplain : ∀ name, Lists listing name → Plain name) (name : Str) :
    name ∈ listedSymbols (printed listing) ↔ Lists listing name := by
  have htexts : ∀ line ∈ listing.map NmLine.text, '\n' ∉ line := by
    intro text htext
    obtain ⟨line, hline, rfl⟩ := List.mem_map.mp htext
    apply NmLine.newline_not_mem_text
    intro name hname
    exact hplain name ⟨line, hline, hname⟩
  rw [listedSymbols, List.mem_toFinset, List.mem_filterMap, printed, lines_flatMap htexts]
  constructor
  · rintro ⟨trimmed, htrimmed, hhead⟩
    obtain ⟨hmem, hcolon⟩ := List.mem_filter.mp htrimmed
    simp only [List.mem_map, exists_exists_and_eq_and] at hmem
    obtain ⟨line, hline, rfl⟩ := hmem
    rw [trim_stripCarriageReturn] at hcolon hhead
    rw [splitWhitespace, trim, Words.words_trim] at hhead
    cases line with
    | header archive member hclean =>
        rw [getLast?_trim_header archive member hclean] at hcolon
        cases hcolon
    | blank =>
        rw [NmLine.text, Words.words_nil] at hhead
        cases hhead
    | entry symbol =>
        have hfirst := splitWhitespace_entry (hplain symbol.name ⟨_, hline, rfl⟩)
        rw [splitWhitespace, hhead] at hfirst
        exact ⟨_, hline, hfirst.symm⟩
  · rintro ⟨line, hline, hname⟩
    have hsymbol := hplain name ⟨line, hline, hname⟩
    -- only the line of a symbol has one
    obtain ⟨symbol, rfl, rfl⟩ : ∃ symbol, line = NmLine.entry symbol ∧ symbol.name = name := by
      cases line with
      | header archive member hclean => cases hname
      | blank => cases hname
      | entry symbol => exact ⟨symbol, rfl, Option.some.inj hname⟩
    refine ⟨trim (stripCarriageReturn (NmLine.entry symbol).text), ?_, ?_⟩
    · rw [List.mem_filter]
      refine ⟨List.mem_map_of_mem (List.mem_map_of_mem (List.mem_map_of_mem hline)), ?_⟩
      rw [trim_stripCarriageReturn, Bool.not_eq_true', beq_eq_false_iff_ne]
      exact getLast?_trim_entry hsymbol
    · rw [trim_stripCarriageReturn, splitWhitespace, trim, Words.words_trim]
      exact splitWhitespace_entry hsymbol

example : listedSymbols "libTpm.a[a.c.o]:\n_TPM_Init T 0 10\n\nmemcpy U\n".toList
    = {"_TPM_Init".toList, "memcpy".toList} := by decide

/-- Every name that the archives define or refer to is plain. -/
def AllPlain (archives : List Archive) : Prop :=
  ∀ archive ∈ archives, ∀ filter, ∀ name ∈ archive.listedBy filter, Plain name

section

variable {nm : Nm} {archives : List Archive}

/-- `list` finds the symbols that `nm` lists. -/
theorem list_eq_ok (hnm : ListsSymbols nm archives) (hplain : AllPlain archives)
    (filter : NmFilter) : ∃ symbols, list nm filter archives = .ok symbols ∧
      ∀ name, name ∈ symbols ↔ ∃ archive ∈ archives, name ∈ archive.listedBy filter := by
  obtain ⟨output, listing, hrun, hsuccess, hstdout, hlists⟩ := hnm filter
  have hlisted : ∀ name, Lists listing name → Plain name := by
    intro name hname
    obtain ⟨archive, harchive, hmem⟩ := (hlists name).mp hname
    exact hplain archive harchive filter name hmem
  have hutf8 : String.fromUTF8? output.stdout = some (String.ofList (printed listing)) := by
    rw [hstdout, String.fromUTF8?, dif_pos (String.ofList (printed listing)).isValidUTF8]
    rfl
  refine ⟨listedSymbols (String.ofList (printed listing)).toList, ?_, ?_⟩
  · rw [list, hrun, Except.bind, hsuccess, hutf8]
    rfl
  · intro name
    rw [String.toList_ofList, mem_listedSymbols_printed hlisted name, hlists name]

/-! ## The rename file -/

/-- Some archive defines the name. -/
def Defined (archives : List Archive) (name : Str) : Prop :=
  ∃ archive ∈ archives, name ∈ archive.symbols.defines

/-- Some archive refers to the name. -/
def Referenced (archives : List Archive) (name : Str) : Prop :=
  ∃ archive ∈ archives, name ∈ archive.symbols.references

/-- **What is renamed**: identifiers that are not SymCrypt's, if an archive defines them
or they are platform callbacks. -/
theorem renames_eq_ok (hnm : ListsSymbols nm archives) (hplain : AllPlain archives) :
    ∃ olds : Finset Str,
      renames nm archives = .ok (olds.sort.flatMap fun symbol => renameLine symbol ++ ['\n']) ∧
        ∀ name, name ∈ olds ↔ isRenamed name = true ∧
          (Defined archives name ∨
            Referenced archives name ∧ platformSymbolPrefix <+: name) := by
  obtain ⟨symbols, hsymbols, hmem⟩ := list_eq_ok hnm hplain .definedOnly
  obtain ⟨undefined, hundefined, hmem'⟩ := list_eq_ok hnm hplain .undefinedOnly
  refine ⟨_, by rw [renames, hsymbols, Except.bind, hundefined, Except.bind], ?_⟩
  intro name
  rw [Finset.mem_filter, Finset.mem_union, Finset.mem_filter, hmem, hmem', and_comm]
  rfl

end

/-- The rename file as `objcopy` reads it: two words a line, the old name and the new. -/
def readRenames (file : Str) : Option (List (Str × Str)) :=
  (lines file).mapM fun line =>
    match splitWhitespace line with
    | [old, new] => some (old, new)
    | _ => none

/-- The words of a line of the rename file. -/
theorem splitWhitespace_renameLine {symbol : Str} (h : isCIdentifier symbol = true) :
    splitWhitespace (renameLine symbol) = [symbol, symbolPrefix ++ symbol] := by
  obtain ⟨hne, hword⟩ := word_of_isCIdentifier h
  have hblank : isWhitespace ' ' = true := by decide
  have hprefix : (symbolPrefix.all fun c => !isWhitespace c) = true := by decide
  have hnew : ∀ c ∈ symbolPrefix ++ symbol, isWhitespace c = false := by
    intro c hc
    rcases List.mem_append.mp hc with hc | hc
    · exact (Bool.not_eq_true' _).mp (List.all_eq_true.mp hprefix c hc)
    · exact hword c hc
  have hnew_ne : symbolPrefix ++ symbol ≠ [] := List.append_ne_nil_of_right_ne_nil _ hne
  rw [splitWhitespace, renameLine, Words.words_append_cons hblank, Words.words_word hword hne,
    Words.words_word hnew hnew_ne, List.singleton_append]

/-- It is one line. -/
theorem newline_not_mem_renameLine {symbol : Str} (h : isCIdentifier symbol = true) :
    '\n' ∉ renameLine symbol := by
  have hprefix : '\n' ∉ ' ' :: symbolPrefix := by decide
  have hsymbol : '\n' ∉ symbol := newline_not_mem_of_word (word_of_isCIdentifier h).2
  rw [renameLine, ← List.cons_append, List.mem_append, List.mem_append, not_or, not_or]
  exact ⟨hsymbol, hprefix, hsymbol⟩

/-- The old and the new names. -/
def renameTable (olds : List Str) : List (Str × Str) :=
  olds.map fun old => (old, symbolPrefix ++ old)

/-- **The rename file is read back**, one line a symbol. -/
theorem readRenames_flatMap {olds : List Str} (holds : ∀ old ∈ olds, isCIdentifier old = true) :
    readRenames (olds.flatMap fun old => renameLine old ++ ['\n'])
      = some (renameTable olds) := by
  have htexts : ∀ line ∈ olds.map renameLine, '\n' ∉ line := by
    intro line hline
    obtain ⟨old, hold, rfl⟩ := List.mem_map.mp hline
    exact newline_not_mem_renameLine (holds old hold)
  have hlines := lines_flatMap htexts
  rw [List.flatMap_map] at hlines
  rw [readRenames, hlines, renameTable]
  clear hlines htexts
  induction olds with
  | nil => rfl
  | cons old olds ih =>
      rw [List.forall_mem_cons] at holds
      rw [List.map_cons, List.map_cons, List.mapM_cons, ih holds.2,
        splitWhitespace_stripCarriageReturn, splitWhitespace_renameLine holds.1]
      rfl

/-! ## The table -/

section

variable {olds : Finset Str}

/-- What the table stands for. -/
theorem redefine_renameTable : redefine (renameTable olds.sort) = prefixed symbolPrefix olds := by
  funext name
  rw [renameTable, prefixed]
  split_ifs with hname
  · exact redefine_map_of_mem ((Finset.mem_sort (· ≤ ·)).mpr hname)
  · exact redefine_map_of_not_mem fun hsort => hname ((Finset.mem_sort (· ≤ ·)).mp hsort)

/-- The old names. -/
theorem map_fst_renameTable : (renameTable olds.sort).map Prod.fst = olds.sort := by
  rw [renameTable, List.map_map]
  exact List.map_id olds.sort

/-- The new names. -/
theorem map_snd_renameTable :
    (renameTable olds.sort).map Prod.snd = olds.sort.map (symbolPrefix ++ ·) := by
  rw [renameTable, List.map_map]
  rfl

/-- **No name is repeated**, if none has got the prefix before. -/
theorem nodup_renameTable (holds : ∀ old ∈ olds, ¬ symbolPrefix <+: old) :
    ((renameTable olds.sort).map Prod.fst ++ (renameTable olds.sort).map Prod.snd).Nodup := by
  rw [map_fst_renameTable, map_snd_renameTable, List.nodup_append]
  have hsort : olds.sort.Nodup := Finset.sort_nodup olds (· ≤ ·)
  refine ⟨hsort, hsort.map (List.append_right_injective symbolPrefix), ?_⟩
  rintro old hold new hnew rfl
  obtain ⟨name, -, rfl⟩ := List.mem_map.mp hnew
  exact holds _ ((Finset.mem_sort (· ≤ ·)).mp hold) (List.prefix_append symbolPrefix name)

end

/-! ## What the renaming keeps -/

/-- The objects that are linked. -/
def objects (archives : List Archive) : List (Object Str) := archives.map Archive.symbols

/-- Their names are those that an archive defines or refers to. -/
theorem mem_names_objects {archives : List Archive} {name : Str} :
    name ∈ names (objects archives) ↔ Defined archives name ∨ Referenced archives name := by
  rw [names, Set.mem_ofPred_eq, Defined, Referenced, ← exists_or]
  constructor
  · rintro ⟨object, hobject, hname⟩
    obtain ⟨archive, harchive, rfl⟩ := List.mem_map.mp hobject
    exact ⟨archive, hname.imp (And.intro harchive) (And.intro harchive)⟩
  · rintro ⟨archive, hname⟩
    have harchive : archive ∈ archives := hname.elim And.left And.left
    exact ⟨archive.symbols, List.mem_map_of_mem harchive, hname.imp And.right And.right⟩

/-- The archives define and refer to plain names. -/
theorem AllPlain.plain {archives : List Archive} (hplain : AllPlain archives) {name : Str}
    (hname : name ∈ names (objects archives)) : Plain name := by
  rcases mem_names_objects.mp hname with hdef | href
  · obtain ⟨archive, harchive, hmem⟩ := hdef
    exact hplain archive harchive .definedOnly name hmem
  · obtain ⟨archive, harchive, hmem⟩ := href
    exact hplain archive harchive .undefinedOnly name hmem

/-- The identifiers that are not SymCrypt's. -/
theorem isRenamed_iff {name : Str} :
    isRenamed name = true ↔ isCIdentifier name = true ∧ ¬ "SymCrypt".toList <+: name := by
  rw [isRenamed, Bool.and_eq_true, Bool.not_eq_true', decide_eq_false_iff_not]

/-- A platform callback is not SymCrypt's. -/
theorem not_symCrypt_of_platform {name : Str} (hplat : platformSymbolPrefix <+: name) :
    ¬ "SymCrypt".toList <+: name := by
  intro hsym
  have hboth := List.prefix_of_prefix_length_le hplat hsym (by decide)
  revert hboth
  decide

/-- The file and the table keep the archives linked: what the file says, and what becomes
of the names when every archive is rewritten by it. -/
structure Namespaced (archives : List Archive) (file : Str) (table : List (Str × Str)) :
    Prop where
  /-- every line of the file has two words, the old name and the new -/
  read : readRenames file = some table
  /-- no name is repeated -/
  nodup : (table.map Prod.fst ++ table.map Prod.snd).Nodup
  /-- there is a line for every name that changes -/
  mem_olds : ∀ name, name ∈ table.map Prod.fst ↔
    name ∈ names (objects archives) ∧ redefine table name ≠ name
  /-- names are equal if they were equal before -/
  apart : ∀ x ∈ names (objects archives), ∀ y ∈ names (objects archives),
    redefine table x = redefine table y ↔ x = y
  /-- references are resolved as before -/
  resolves : ∀ i y j, Resolves ((objects archives).map (Object.rename (redefine table))) i y j ↔
    ∃ x, redefine table x = y ∧ Resolves (objects archives) i x j
  /-- a name that changes gets the prefix -/
  changed : ∀ name, redefine table name ≠ name → redefine table name = symbolPrefix ++ name
  /-- what is defined changes -/
  defined : ∀ name, Defined archives name → isCIdentifier name = true →
    ¬ "SymCrypt".toList <+: name → redefine table name = symbolPrefix ++ name
  /-- what is undefined changes if an archive defines it or it is a platform callback -/
  undefined : ∀ name, Referenced archives name → (redefine table name ≠ name ↔
    (∃ archive ∈ archives, name ∈ archive.symbols.defines ∧ isCIdentifier name = true ∧
      ¬ "SymCrypt".toList <+: name) ∨
    isCIdentifier name = true ∧ platformSymbolPrefix <+: name)

/-- **Prefixed symbols link as before.** -/
theorem namespaced_renameTable {archives : List Archive} {olds : Finset Str}
    (hplain : AllPlain archives)
    (holds : ∀ name, name ∈ olds ↔ isRenamed name = true ∧
      (Defined archives name ∨ Referenced archives name ∧ platformSymbolPrefix <+: name)) :
    Namespaced archives (olds.sort.flatMap fun symbol => renameLine symbol ++ ['\n'])
      (renameTable olds.sort) := by
  have hchanged : ∀ name, redefine (renameTable olds.sort) name ≠ name ↔ name ∈ olds := by
    intro name
    rw [redefine_renameTable]
    exact prefixed_ne_self_iff (by decide)
  have hnames : ∀ name ∈ olds, name ∈ names (objects archives) := by
    intro name hname
    exact mem_names_objects.mpr (((holds name).mp hname).2.imp_right And.left)
  have hinj : Set.InjOn (redefine (renameTable olds.sort)) (names (objects archives)) := by
    rw [redefine_renameTable]
    exact injOn_prefixed.mono fun name hname => (hplain.plain hname).not_prefixed
  refine ⟨?read, ?nodup, ?mem_olds, ?apart, ?resolves, ?changed, ?defined, ?undefined⟩
  case read =>
    apply readRenames_flatMap
    intro old hold
    have hrenamed := ((holds old).mp ((Finset.mem_sort (· ≤ ·)).mp hold)).1
    exact (isRenamed_iff.mp hrenamed).1
  case nodup =>
    exact nodup_renameTable fun old hold => (hplain.plain (hnames old hold)).not_prefixed
  case mem_olds =>
    intro name
    rw [hchanged, map_fst_renameTable, Finset.mem_sort]
    exact (and_iff_right_of_imp (hnames name)).symm
  case apart =>
    intro x hx y hy
    exact hinj.eq_iff hx hy
  case resolves =>
    intro i y j
    exact resolves_rename_iff hinj
  case changed =>
    intro name hname
    rw [redefine_renameTable, prefixed, if_pos ((hchanged name).mp hname)]
  case defined =>
    intro name hdef hident hsym
    have hmem : name ∈ olds := (holds name).mpr ⟨isRenamed_iff.mpr ⟨hident, hsym⟩, Or.inl hdef⟩
    rw [redefine_renameTable, prefixed, if_pos hmem]
  case undefined =>
    intro name href
    rw [hchanged, holds, isRenamed_iff]
    constructor
    · rintro ⟨⟨hident, hsym⟩, ⟨archive, harchive, hdef⟩ | ⟨-, hplat⟩⟩
      · exact Or.inl ⟨archive, harchive, hdef, hident, hsym⟩
      · exact Or.inr ⟨hident, hplat⟩
    · rintro (⟨archive, harchive, hdef, hident, hsym⟩ | ⟨hident, hplat⟩)
      · exact ⟨⟨hident, hsym⟩, Or.inl ⟨archive, harchive, hdef⟩⟩
      · exact ⟨⟨hident, not_symCrypt_of_platform hplat⟩, Or.inr ⟨href, hplat⟩⟩

/-- `objcopy` succeeds on a file that repeats no name, and the symbols of the copy are those
of the archive under their new names. -/
def RedefinesSyms (objcopy : Objcopy) : Prop :=
  ∀ file table archive, readRenames file = some table →
    (table.map Prod.fst ++ table.map Prod.snd).Nodup →
    ∃ output, objcopy file archive = .ok (output, archive.symbols.rename (redefine table)) ∧
      output.success = true

section

variable {nm : Nm} {objcopy : Objcopy} {archives : List Archive} {file : Str}
  {table : List (Str × Str)}

/-- **Every archive is rewritten by the same table.** -/
theorem namespaceLibraries_eq_ok (hobjcopy : RedefinesSyms objcopy)
    (hfile : renames nm archives = .ok file) (hspaced : Namespaced archives file table)
    (libraries : List String) :
    namespaceLibraries nm objcopy libraries archives
      = .ok ((libraries.zip archives).map fun (library, archive) =>
        (library, archive.symbols.rename (redefine table))) := by
  rw [namespaceLibraries, hfile, Except.bind]
  refine Eq.trans (congrArg (List.mapM · _) ?_) List.mapM_pure
  funext ⟨library, archive⟩
  obtain ⟨output, hcopy, hsuccess⟩ := hobjcopy file table archive hspaced.read hspaced.nodup
  have hnot : ¬ (!output.success) = true := by
    rw [hsuccess]
    exact Bool.false_ne_true
  show (objcopy file archive).bind _ = _
  rw [hcopy, Except.bind]
  exact if_neg hnot

/-- **A second copy does not clash.**  What an archive defines afterwards under a name
without the prefix, it has defined before, and it is linker metadata or SymCrypt's. -/
theorem defines_of_not_prefixed (hspaced : Namespaced archives file table) {archive : Archive}
    (harchive : archive ∈ archives) {name : Str}
    (hmem : name ∈ (archive.symbols.rename (redefine table)).defines)
    (hname : ¬ symbolPrefix <+: name) :
    name ∈ archive.symbols.defines ∧ isRenamed name = false := by
  obtain ⟨old, hold, rfl⟩ := Finset.mem_image.mp hmem
  have hsame : redefine table old = old := by
    by_contra hne
    rw [hspaced.changed old hne] at hname
    exact hname (List.prefix_append symbolPrefix old)
  rw [hsame]
  refine ⟨hold, ?_⟩
  rw [Bool.eq_false_iff]
  intro hrenamed
  obtain ⟨hident, hsym⟩ := isRenamed_iff.mp hrenamed
  rw [hspaced.defined old ⟨archive, harchive, hold⟩ hident hsym] at hname
  exact hname (List.prefix_append symbolPrefix old)

/-! ## The Rust side -/

variable {rust : Object Str}

/-- The copies of the archives, and the platform after them. -/
def linked (archives : List Archive) (table : List (Str × Str)) (rust : Object Str) :
    List (Object Str) :=
  (objects archives).map (Object.rename (redefine table)) ++ [rust]

/-- There is a copy for every archive. -/
theorem length_map_objects {f : Str → Str} :
    ((objects archives).map (Object.rename f)).length = archives.length := by
  rw [List.length_map, objects, List.length_map]

/-- The copy of an archive has its place. -/
theorem getElem?_linked {i : ℕ} {archive : Archive} (hi : archives[i]? = some archive) :
    (linked archives table rust)[i]? = some (archive.symbols.rename (redefine table)) := by
  have hlt : i < ((objects archives).map (Object.rename (redefine table))).length := by
    rw [length_map_objects]
    exact (List.getElem?_eq_some_iff.mp hi).1
  rw [linked, List.getElem?_append_left hlt, List.getElem?_map, objects, List.getElem?_map, hi]
  rfl

/-- The platform comes last. -/
theorem getElem?_linked_length : (linked archives table rust)[archives.length]? = some rust := by
  rw [linked, ← length_map_objects]
  exact List.getElem?_concat_length

/-- **Callbacks reach the Rust side**, which exports them under their new names. -/
theorem resolves_callback (hspaced : Namespaced archives file table) {i : ℕ} {archive : Archive}
    (hi : archives[i]? = some archive) {name : Str} (href : name ∈ archive.symbols.references)
    (hident : isCIdentifier name = true) (hplat : platformSymbolPrefix <+: name)
    (hrust : symbolPrefix ++ name ∈ rust.defines) :
    Resolves (linked archives table rust) i (symbolPrefix ++ name) archives.length := by
  have hreferenced : Referenced archives name := ⟨archive, List.mem_of_getElem? hi, href⟩
  have hchanged : redefine table name ≠ name :=
    (hspaced.undefined name hreferenced).mpr (Or.inr ⟨hident, hplat⟩)
  have hnew := Finset.mem_image_of_mem (redefine table) href
  rw [hspaced.changed name hchanged] at hnew
  exact ⟨_, rust, getElem?_linked hi, getElem?_linked_length, hnew, hrust⟩

/-- **The Rust side reaches the TPM**, whose functions it imports under their new names. -/
theorem resolves_function (hspaced : Namespaced archives file table) {j : ℕ} {archive : Archive}
    (hj : archives[j]? = some archive) {name : Str} (hdef : name ∈ archive.symbols.defines)
    (hident : isCIdentifier name = true) (hsym : ¬ "SymCrypt".toList <+: name)
    (hrust : symbolPrefix ++ name ∈ rust.references) :
    Resolves (linked archives table rust) archives.length (symbolPrefix ++ name) j := by
  have hdefined : Defined archives name := ⟨archive, List.mem_of_getElem? hj, hdef⟩
  have hnew := Finset.mem_image_of_mem (redefine table) hdef
  rw [hspaced.defined name hdefined hident hsym] at hnew
  exact ⟨rust, _, getElem?_linked_length, getElem?_linked hj, hrust, hnew⟩

end

/-! ## Every set of archives -/

/-- **Symbol namespacing preserves linking.** -/
theorem renames_keeps_linking (nm : Nm) (objcopy : Objcopy) (archives : List Archive)
    (hnm : ListsSymbols nm archives) (hobjcopy : RedefinesSyms objcopy)
    (hplain : AllPlain archives) :
    ∃ file table, renames nm archives = .ok file ∧ Namespaced archives file table ∧
      ∀ libraries, namespaceLibraries nm objcopy libraries archives
        = .ok ((libraries.zip archives).map fun (library, archive) =>
          (library, archive.symbols.rename (redefine table))) := by
  obtain ⟨olds, hfile, holds⟩ := renames_eq_ok hnm hplain
  have hspaced := namespaced_renameTable hplain holds
  exact ⟨_, renameTable olds.sort, hfile, hspaced, namespaceLibraries_eq_ok hobjcopy hfile hspaced⟩

/-! ## Two archives -/

/-- The line of a function. -/
def functionLine (name : Str) (h : name ≠ []) : NmLine :=
  .entry ⟨name, " T 0 0".toList, h, by rintro c ⟨⟩; rfl, by decide⟩

/-- The core of the TPM, which calls the platform and the other archive. -/
def coreArchive : Archive where
  path := "libTpm_CoreLib.a"
  symbols := { defines := {"_TPM_Init".toList, "@feat.00".toList},
               references := {"_plat__NVEnable".toList, "CryptInit".toList, "memcpy".toList} }

/-- The archive with the cryptography. -/
def cryptArchive : Archive where
  path := "libTpm_SymCrypt_Environment.a"
  symbols := { defines := {"CryptInit".toList, "SymCryptFatal".toList},
               references := {"_plat__Fail".toList} }

/-- What `nm` prints for the two. -/
def twoListings : NmFilter → List NmLine
  | .definedOnly =>
    [.header "libTpm_CoreLib.a".toList "ExecCommand.c.o".toList (by decide),
      functionLine "_TPM_Init".toList (by decide), functionLine "@feat.00".toList (by decide),
      .blank, .header "libTpm_SymCrypt_Environment.a".toList "env.c.o".toList (by decide),
      functionLine "SymCryptFatal".toList (by decide), functionLine "CryptInit".toList (by decide)]
  | .undefinedOnly =>
    [.header "libTpm_CoreLib.a".toList "ExecCommand.c.o".toList (by decide),
      functionLine "CryptInit".toList (by decide), functionLine "memcpy".toList (by decide),
      functionLine "_plat__NVEnable".toList (by decide), .blank,
      .header "libTpm_SymCrypt_Environment.a".toList "env.c.o".toList (by decide),
      functionLine "_plat__Fail".toList (by decide)]

/-- `nm` on the two archives. -/
def twoArchivesNm : Nm := fun filter _ =>
  .ok { success := true, stdout := (String.ofList (printed (twoListings filter))).toByteArray,
        stdoutLossy := String.ofList (printed (twoListings filter)), stderrLossy := "" }

/-- An `objcopy` that renames by the file. -/
def renamingObjcopy : Objcopy := fun file archive =>
  match readRenames file with
  | some table =>
    .ok ({ success := true, stdout := .empty, stdoutLossy := "", stderrLossy := "" },
      archive.symbols.rename (redefine table))
  | none =>
    .ok ({ success := false, stdout := .empty, stdoutLossy := "", stderrLossy := "garbage" },
      archive.symbols)

/-- It does what is expected of it. -/
theorem redefinesSyms_renamingObjcopy : RedefinesSyms renamingObjcopy := by
  intro file table archive hread _
  rw [renamingObjcopy, hread]
  exact ⟨_, rfl, rfl⟩

/-- And the listings are those of the two archives. -/
theorem listsSymbols_twoArchivesNm :
    ListsSymbols twoArchivesNm [coreArchive, cryptArchive] := by
  have hlisted : ∀ filter, ∀ line ∈ twoListings filter, ∀ name ∈ line.symbol?,
      ∃ archive ∈ [coreArchive, cryptArchive], name ∈ archive.listedBy filter := by
    intro filter
    cases filter with
    | definedOnly => decide
    | undefinedOnly => decide
  have hlists : ∀ filter, ∀ archive ∈ [coreArchive, cryptArchive],
      ∀ name ∈ archive.listedBy filter, Lists (twoListings filter) name := by
    intro filter
    cases filter with
    | definedOnly => decide
    | undefinedOnly => decide
  intro filter
  refine ⟨_, twoListings filter, rfl, rfl, rfl, ?_⟩
  intro name
  constructor
  · rintro ⟨line, hline, hname⟩
    exact hlisted filter line hline name hname
  · rintro ⟨archive, harchive, hname⟩
    exact hlists filter archive harchive name hname

/-- Their names are plain. -/
theorem allPlain_twoArchives : AllPlain [coreArchive, cryptArchive] := by
  intro archive harchive filter
  revert archive
  cases filter with
  | definedOnly => decide
  | undefinedOnly => decide

/-- The theorem at the two archives. -/
theorem renames_keeps_linking_twoArchives :
    ∃ file table, renames twoArchivesNm [coreArchive, cryptArchive] = .ok file ∧
      Namespaced [coreArchive, cryptArchive] file table ∧
      ∀ libraries, namespaceLibraries twoArchivesNm renamingObjcopy libraries
          [coreArchive, cryptArchive]
        = .ok ((libraries.zip [coreArchive, cryptArchive]).map fun (library, archive) =>
          (library, archive.symbols.rename (redefine table))) :=
  renames_keeps_linking twoArchivesNm renamingObjcopy [coreArchive, cryptArchive]
    listsSymbols_twoArchivesNm redefinesSyms_renamingObjcopy allPlain_twoArchives

end TpmPlatform.Symbols
