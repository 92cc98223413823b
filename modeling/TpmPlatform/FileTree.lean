/-
# Trees of files

A file system as what stands at each path, with the commands of a shell script on it: remove
a tree, make a directory, move trees into a directory, write a file and append to it.  There
are no symbolic links, so that a path is the list of the names from the root, and each file
has one path.

A text that names a path is walked from the root or from where the shell is, and every step
starts from a directory.

`walk_unique`, `walk_kept` : the walk leads to one path, and still does on a disk that has
kept the directories;
`remove_of_not_within`, `moveInto_of_not_within` : what a command leaves alone;
`moveInto_append` : what has been moved stands at its new place;
`Kept` : files stay files and directories stay directories, which every command but the
removal ensures.
-/
import TpmPlatform.Words
import Mathlib.Data.List.Infix
import Mathlib.Logic.Function.Basic

namespace FileTree

/-- What is between slashes. -/
abbrev Name := List Char

/-- The names from the root. -/
abbrev Path := List Name

/-- What stands at a path. -/
inductive Node
  | file (contents : List Char)
  | dir
  deriving DecidableEq

/-- A file system, or a tree in it with the paths relative to its root. -/
abbrev Disk := Path → Option Node

/-- The path is in the tree: it is the root, or below it. -/
def Within (root path : Path) : Prop := root <+: path

instance (root path : Path) : Decidable (Within root path) :=
  inferInstanceAs (Decidable (_ <+: _))

/-- `[[ -f path ]]`. -/
def IsFile (disk : Disk) (path : Path) : Prop := ∃ contents, disk path = some (.file contents)

/-- `[[ -d path ]]`. -/
def IsDir (disk : Disk) (path : Path) : Prop := disk path = some .dir

instance (disk : Disk) (path : Path) : Decidable (IsFile disk path) :=
  match h : disk path with
  | some (.file contents) => isTrue ⟨contents, h⟩
  | some .dir => isFalse (by rintro ⟨_, hfile⟩; rw [h] at hfile; cases hfile)
  | none => isFalse (by rintro ⟨_, hfile⟩; rw [h] at hfile; cases hfile)

instance (disk : Disk) (path : Path) : Decidable (IsDir disk path) :=
  inferInstanceAs (Decidable (_ = _))

/-- What stands below something stands below a directory. -/
def Rooted (tree : Disk) : Prop :=
  ∀ root path, root <+: path → root ≠ path → tree path ≠ none → IsDir tree root

/-- The tree with these entries. -/
def ofList (entries : List (Path × Node)) : Disk := fun path => entries.lookup path

theorem ofList_eq_none {entries : List (Path × Node)} {path : Path}
    (h : ∀ entry ∈ entries, entry.1 ≠ path) : ofList entries path = none := by
  refine List.lookup_eq_none_iff.mpr fun entry hentry => ?_
  exact bne_iff_ne.mpr (h entry hentry).symm

/-- It is enough to look at the directories of the entries. -/
theorem rooted_ofList {entries : List (Path × Node)}
    (h : ∀ entry ∈ entries, ∀ root ∈ entry.1.inits, root ≠ entry.1 →
      ofList entries root = some .dir) : Rooted (ofList entries) := by
  intro root path hbelow hne hthere
  obtain ⟨entry, hentry, rfl⟩ : ∃ entry ∈ entries, entry.1 = path := by
    by_contra hnone
    exact hthere (ofList_eq_none fun entry hentry hsame => hnone ⟨entry, hentry, hsame⟩)
  exact h entry hentry root ((List.mem_inits _ _).mpr hbelow) hne

/-! ## Texts -/

/-- What is between the slashes of a text, the empty pieces included. -/
def pieces (text : List Char) : List Name := text.splitOnP (· == '/')

/-- The path of an absolute text without dots. -/
def components (text : List Char) : Path := Words.words (· == '/') text

/-- One step after the other, each from a directory. -/
def walk (disk : Disk) : Path → List Name → Option Path
  | here, [] => some here
  | here, name :: names =>
    if IsDir disk here then
      if name = [] ∨ name = ['.'] then walk disk here names
      else if name = ['.', '.'] then walk disk here.dropLast names
      else walk disk (here ++ [name]) names
    else none

/-- The path that a text names for a process in the directory `here`, if the directories on
the way are there. -/
def locate (disk : Disk) (here : Path) : List Char → Option Path
  | [] => none
  | c :: text =>
    if c = '/' then walk disk [] (pieces text) else walk disk here (pieces (c :: text))

/-- `cd`. -/
def enter (disk : Disk) (here : Path) (text : List Char) : Option Path :=
  (locate disk here text).filter fun path => decide (IsDir disk path)

/-! ## Commands -/

/-- `rm -r root`. -/
def remove (root : Path) (disk : Disk) : Disk := fun path =>
  if Within root path then none else disk path

/-- `mkdir dir`: where nothing stands, in a directory. -/
def mkdir (dir : Path) (disk : Disk) : Option Disk :=
  if disk dir = none ∧ IsDir disk dir.dropLast then
    some (Function.update disk dir (some .dir))
  else none

/-- `mv name… dir/`, where the names are those of a tree elsewhere and are free in `dir`. -/
def moveInto (dir : Path) (names : List Name) (tree disk : Disk) : Disk := fun path =>
  if Within dir path ∧ ∃ name ∈ names, Within [name] (path.drop dir.length) then
    tree (path.drop dir.length)
  else disk path

/-- `cat > path`, in a directory and not on one. -/
def write (path : Path) (contents : List Char) (disk : Disk) : Disk :=
  Function.update disk path (some (.file contents))

/-- `cat >> path`: in a directory and not on one. -/
def append (path : Path) (contents : List Char) (disk : Disk) : Option Disk :=
  if IsDir disk path.dropLast then
    match disk path with
    | some .dir => none
    | some (.file old) => some (write path (old ++ contents) disk)
    | none => some (write path contents disk)
  else none

/-! ## Walks -/

section

variable {disk disk' : Disk} {here path path' : Path} {text : List Char} {name : Name}

/-- A step leads to one place, whatever the disk. -/
theorem walk_unique {names : List Name} (h : walk disk here names = some path)
    (h' : walk disk' here names = some path') : path = path' := by
  induction names generalizing here with
  | nil => exact Option.some.inj (h.symm.trans h')
  | cons name names ih =>
      rw [walk] at h h'
      split_ifs at h h' <;> exact ih h h'

/-- So does a text. -/
theorem locate_unique (h : locate disk here text = some path)
    (h' : locate disk' here text = some path') : path = path' := by
  cases text with
  | nil => cases h
  | cons c text =>
      rw [locate] at h h'
      split_ifs at h h' <;> exact walk_unique h h'

/-- From wherever it is seen, an absolute text names the same. -/
theorem locate_absolute (habsolute : text.head? = some '/') (here' : Path)
    (h : locate disk here text = some path) : locate disk here' text = some path := by
  cases text with
  | nil => cases h
  | cons c text =>
      have hc : c = '/' := Option.some.inj habsolute
      rw [locate, if_pos hc] at h ⊢
      exact h

/-- One walk after the other. -/
theorem walk_append (names more : List Name) :
    walk disk here (names ++ more) = (walk disk here names).bind fun path =>
      walk disk path more := by
  induction names generalizing here with
  | nil => rfl
  | cons name names ih =>
      rw [List.cons_append, walk, walk]
      split_ifs
      · exact ih
      · exact ih
      · exact ih
      · rfl

/-- A name that is a step down. -/
def Plain (name : Name) : Prop := name ≠ [] ∧ name ≠ ['.'] ∧ name ≠ ['.', '.'] ∧ '/' ∉ name

instance (name : Name) : Decidable (Plain name) := inferInstanceAs (Decidable (_ ∧ _))

theorem pieces_append (text more : List Char) :
    pieces (text ++ '/' :: more) = pieces text ++ pieces more :=
  List.splitOnP_append_cons text more (by decide)

theorem pieces_of_plain (h : Plain name) : pieces name = [name] := by
  apply List.splitOnP_eq_singleton
  intro c hc
  rw [beq_eq_false_iff_ne]
  rintro rfl
  exact h.2.2.2 hc

/-- A plain name is a step down from a directory. -/
theorem walk_plain (h : Plain name) (hdir : IsDir disk here) :
    walk disk here [name] = some (here ++ [name]) := by
  obtain ⟨hne, hdot, hdots, -⟩ := h
  rw [walk, if_pos hdir, if_neg (not_or.mpr ⟨hne, hdot⟩), if_neg hdots, walk]

/-- **A longer text** names what is below. -/
theorem locate_child (htext : locate disk here text = some path) (hdir : IsDir disk path)
    (h : Plain name) : locate disk here (text ++ '/' :: name) = some (path ++ [name]) := by
  cases text with
  | nil => cases htext
  | cons c text =>
      rw [locate] at htext
      rw [List.cons_append, locate]
      split_ifs at htext ⊢
      · rw [pieces_append, walk_append, htext, Option.bind_some, pieces_of_plain h]
        exact walk_plain h hdir
      · rw [← List.cons_append, pieces_append, walk_append, htext, Option.bind_some,
          pieces_of_plain h]
        exact walk_plain h hdir

/-- What `cd` enters is a directory. -/
theorem enter_eq_some_iff :
    enter disk here text = some path ↔ locate disk here text = some path ∧ IsDir disk path := by
  rw [enter, Option.filter_eq_some_iff, decide_eq_true_iff]

end

/-! ## What the commands do -/

section

variable {root dir path rest : Path} {names : List Name} {name : Name} {tree disk disk' : Disk}

/-- What is below something in the tree is in the tree. -/
theorem Within.append (h : Within root path) (rest : Path) : Within root (path ++ rest) :=
  List.IsPrefix.trans h (List.prefix_append path rest)

/-- Where a file stands there is a directory. -/
theorem isDir_of_child (h : Rooted tree) (hfile : IsFile tree (dir ++ [name])) :
    IsDir tree dir := by
  obtain ⟨contents, hfile⟩ := hfile
  refine h dir (dir ++ [name]) (List.prefix_append _ _) ?_ ?_
  · intro hsame
    exact absurd (List.self_eq_append_right.mp hsame) (List.cons_ne_nil name [])
  · rw [hfile]
    exact Option.some_ne_none _

theorem remove_of_not_within (h : ¬ Within root path) : remove root disk path = disk path :=
  if_neg h

theorem remove_of_within (h : Within root path) : remove root disk path = none := if_pos h

/-- A directory that has been made is new, and the only change. -/
theorem mkdir_eq_some (h : mkdir dir disk = some disk') :
    disk dir = none ∧ IsDir disk dir.dropLast ∧ disk' = Function.update disk dir (some .dir) := by
  unfold mkdir at h
  split_ifs at h with hfree
  exact ⟨hfree.1, hfree.2, (Option.some.inj h).symm⟩

/-- Nothing is moved to other places. -/
theorem moveInto_of_not_within (h : ¬ Within dir path) :
    moveInto dir names tree disk path = disk path :=
  if_neg fun hpath => h hpath.1

/-- The directory itself is not moved. -/
theorem moveInto_self : moveInto dir names tree disk dir = disk dir := by
  refine if_neg ?_
  rintro ⟨-, name, -, hname⟩
  rw [List.drop_length] at hname
  exact absurd (List.prefix_nil.mp hname) (List.cons_ne_nil name [])

/-- **What has been moved** stands at its new place. -/
theorem moveInto_append (hname : name ∈ names) (h : Within [name] path) :
    moveInto dir names tree disk (dir ++ path) = tree path := by
  rw [moveInto, List.drop_left]
  exact if_pos ⟨List.prefix_append dir path, name, hname, h⟩

/-- Only the file itself is written. -/
theorem append_eq_some {contents : List Char} (h : append path contents disk = some disk') :
    IsDir disk path.dropLast ∧
      ∃ old, (disk path = none ∧ old = [] ∨ disk path = some (.file old)) ∧
        disk' = write path (old ++ contents) disk := by
  unfold append at h
  split_ifs at h with hdir
  refine ⟨hdir, ?_⟩
  split at h
  · cases h
  · next old hold => exact ⟨old, .inr hold, (Option.some.inj h).symm⟩
  · next hnone => exact ⟨[], .inl ⟨hnone, rfl⟩, (Option.some.inj h).symm⟩

end

/-! ## What stays -/

section

variable {here path : Path} {disk disk' : Disk}

/-- Files stay files and directories stay directories. -/
structure Kept (disk disk' : Disk) : Prop where
  file : ∀ path, IsFile disk path → IsFile disk' path
  dir : ∀ path, IsDir disk path → IsDir disk' path

theorem Kept.refl (disk : Disk) : Kept disk disk := ⟨fun _ h => h, fun _ h => h⟩

theorem Kept.trans {disk'' : Disk} (h : Kept disk disk') (h' : Kept disk' disk'') :
    Kept disk disk'' :=
  ⟨fun path hfile => h'.file path (h.file path hfile),
    fun path hdir => h'.dir path (h.dir path hdir)⟩

theorem kept_write {contents : List Char} (h : ¬ IsDir disk path) :
    Kept disk (write path contents disk) where
  file := by
    intro other hfile
    by_cases hother : other = path
    · subst hother
      exact ⟨contents, Function.update_self ..⟩
    · rw [IsFile, write, Function.update_of_ne hother]
      exact hfile
  dir := by
    intro other hdir
    have hother : other ≠ path := by
      rintro rfl
      exact h hdir
    rw [IsDir, write, Function.update_of_ne hother]
    exact hdir

/-- Where nothing stands, anything can be put. -/
theorem kept_update (h : disk path = none) (node : Node) :
    Kept disk (Function.update disk path (some node)) := by
  have hne : ∀ other, disk other ≠ none →
      Function.update disk path (some node) other = disk other := by
    intro other hother
    refine Function.update_of_ne ?_ _ _
    rintro rfl
    exact hother h
  refine ⟨?_, ?_⟩
  · rintro other ⟨contents, hfile⟩
    exact ⟨contents, (hne other (by rw [hfile]; exact Option.some_ne_none _)).trans hfile⟩
  · intro other hdir
    exact (hne other (by rw [hdir]; exact Option.some_ne_none _)).trans hdir

theorem kept_mkdir (h : mkdir path disk = some disk') : Kept disk disk' := by
  obtain ⟨hfree, -, rfl⟩ := mkdir_eq_some h
  exact kept_update hfree .dir

theorem kept_append {contents : List Char} (h : append path contents disk = some disk') :
    Kept disk disk' := by
  obtain ⟨-, old, hold, rfl⟩ := append_eq_some h
  refine kept_write fun hdir => ?_
  rw [IsDir] at hdir
  rw [hdir] at hold
  obtain ⟨h, -⟩ | h := hold <;> cases h

/-- **A walk** on a disk that has kept the directories leads where it did. -/
theorem walk_kept (hkept : Kept disk disk') {names : List Name}
    (h : walk disk here names = some path) : walk disk' here names = some path := by
  induction names generalizing here with
  | nil => exact h
  | cons name names ih =>
      rw [walk] at h ⊢
      split_ifs at h with hdir hstay hup
      · rw [if_pos (hkept.dir here hdir), if_pos hstay]
        exact ih h
      · rw [if_pos (hkept.dir here hdir), if_neg hstay, if_pos hup]
        exact ih h
      · rw [if_pos (hkept.dir here hdir), if_neg hstay, if_neg hup]
        exact ih h

theorem locate_kept (hkept : Kept disk disk') {text : List Char}
    (h : locate disk here text = some path) : locate disk' here text = some path := by
  cases text with
  | nil => cases h
  | cons c text =>
      rw [locate] at h ⊢
      split_ifs at h ⊢
      · exact walk_kept hkept h
      · exact walk_kept hkept h

end

end FileTree
