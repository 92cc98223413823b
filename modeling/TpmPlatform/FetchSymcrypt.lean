/-
# Staging a prebuilt SymCrypt (`scripts/fetch-symcrypt.sh`)

The script downloads a release, checks what is in it, replaces the directory that it stages
SymCrypt in, and writes where that is to `.cargo/config.toml`, unless somebody has written
that file by hand.

The machine is a parameter: `uname`, the release of GitHub and what `curl` and `tar` leave of
it, the current directory, `cygpath`.  There are no symbolic links on the disk, and `CDPATH` is
not set.  The temporary directory is outside of the directory that is replaced.  A command fails
where what it needs is not there; permissions, full disks and the like are left out.

`of_prepare` : what is staged has been downloaded and is complete;
`replaced_congr` : nothing stale survives in the directory that is replaced;
`writeConfig_cases` : the ways in which the script ends.
-/
import TpmPlatform.Fallible
import TpmPlatform.FileTree
import TpmPlatform.Symbols

namespace TpmPlatform.FetchSymcrypt

open FileTree Fallible

/-! ## Surroundings -/

/-- `PLATFORM`, when it has been checked. -/
inductive Platform
  | linux
  | windows
  deriving DecidableEq

/-- The variables that the arguments set; an empty one has not been set. -/
structure Options where
  dest : Str
  tag : Str
  arch : Str
  platform : Str

/-- A text that `pwd` prints: absolute, and without dots. -/
def Printed (text : Str) : Prop :=
  text.head? = some '/' ∧ ∀ name ∈ components text, name ≠ ['.'] ∧ name ≠ ['.', '.']

instance (text : Str) : Decidable (Printed text) := inferInstanceAs (Decidable (_ ∧ _))

/-- Where the script runs. -/
structure Machine where
  repoRoot : Str
  repoRoot_printed : Printed repoRoot
  /-- `PWD` -/
  pwd : Str
  pwd_printed : Printed pwd
  /-- `uname -s` -/
  kernel : Str
  /-- `uname -m` -/
  hardware : Str
  /-- What is found of `tag_name` in GitHub's answer, if there is one. -/
  latestTag : Option Str
  /-- What `tar` extracts of the archive at the URL, if it can. -/
  download : Platform → Str → Option Disk
  /-- `cygpath -m`, if there is that command. -/
  cygpath : Option (Str → Str)
  githubEnv : Str

/-- The directory of the repository. -/
def Machine.root (m : Machine) : Path := components m.repoRoot

/-- The current directory. -/
def Machine.here (m : Machine) : Path := components m.pwd

/-- How the script ends. -/
inductive Outcome
  /-- Everything is staged and written. -/
  | done
  /-- The usage is shown. -/
  | helped
  /-- The script says why it exits. -/
  | refused (message : String)
  /-- A command fails. -/
  | failed
  deriving DecidableEq

/-! ## Arguments -/

/-- `DEST` and the empty variables. -/
def defaults (m : Machine) : Options where
  dest := m.repoRoot ++ "/.symcrypt".toList
  tag := []
  arch := []
  platform := []

/-- The options that take a value. -/
def Options.set (o : Options) (arg value : Str) : Option Options :=
  if arg = "--dest".toList then some { o with dest := value }
  else if arg = "--tag".toList then some { o with tag := value }
  else if arg = "--arch".toList then some { o with arch := value }
  else if arg = "--platform".toList then some { o with platform := value }
  else none

/-- The other arguments. -/
def otherArgument (arg : Str) : Outcome :=
  if arg = "-h".toList ∨ arg = "--help".toList then .helped
  else .refused s!"unknown argument: {String.ofList arg}"

/-- The loop over the arguments. -/
def parse (o : Options) : List Str → Except Outcome Options
  | [] => .ok o
  | [arg] =>
    -- without its value, the option fails on `$2`
    if (o.set arg []).isSome then .error .failed else .error (otherArgument arg)
  | arg :: value :: args =>
    match o.set arg value with
    | some o => parse o args
    | none => .error (otherArgument arg)

/-- The platform by default. -/
def hostPlatform (m : Machine) : Except Outcome Str :=
  if m.kernel = "Linux".toList then .ok "linux".toList
  else if "MINGW".toList <+: m.kernel ∨ "MSYS".toList <+: m.kernel ∨
      "CYGWIN".toList <+: m.kernel then .ok "windows".toList
  else .error (.refused s!"unsupported host platform: {String.ofList m.kernel}")

/-- `PLATFORM`. -/
def platform (m : Machine) (o : Options) : Except Outcome Platform :=
  (if o.platform = [] then hostPlatform m else .ok o.platform).bind fun name =>
    if name = "linux".toList then .ok .linux
    else if name = "windows".toList then .ok .windows
    else .error (.refused s!"unsupported platform: {String.ofList name}")

/-- The architecture by default. -/
def hostArch (m : Machine) : Except Outcome Str :=
  if m.hardware = "x86_64".toList ∨ m.hardware = "amd64".toList then .ok "x86_64".toList
  else if m.hardware = "aarch64".toList ∨ m.hardware = "arm64".toList then .ok "aarch64".toList
  else .error (.refused s!"unsupported host architecture: {String.ofList m.hardware}")

/-- `ARCH`. -/
def arch (m : Machine) (o : Options) : Except Outcome Str :=
  (if o.arch = [] then hostArch m else .ok o.arch).bind fun name =>
    if name = "x86_64".toList ∨ name = "aarch64".toList then .ok name
    else .error (.refused s!"unsupported architecture: {String.ofList name}")

/-- `REPO`. -/
def repo : Str := "microsoft/openvmm-deps".toList

/-- `TAG`. -/
def tag (m : Machine) (o : Options) : Except Outcome Str :=
  if o.tag = [] then
    match m.latestTag with
    | none => .error .failed
    | some [] => .error (.refused s!"failed to resolve the latest {String.ofList repo} release")
    | some tag => .ok tag
  else .ok o.tag

/-! ## The release -/

/-- `ASSET`. -/
def asset (arch tag : Str) : Platform → Str
  | .windows => "symcrypt-windows.".toList ++ arch ++ '.' :: tag ++ ".tar.gz".toList
  | .linux => "openvmm-deps.".toList ++ arch ++ '.' :: tag ++ ".tar.gz".toList

/-- `URL`. -/
def url (arch tag : Str) (p : Platform) : Str :=
  "https://github.com/".toList ++ repo ++ "/releases/download/".toList ++ tag ++
    '/' :: asset arch tag p

/-- `LIB_SUBDIR`. -/
def Platform.libSubdir : Platform → Str
  | .windows => "lib/static".toList
  | .linux => "lib".toList

/-- And its path. -/
def Platform.libPath (p : Platform) : Path := components p.libSubdir

/-- `LIBRARIES`. -/
def Platform.libraries : Platform → List Str
  | .windows =>
    ["symcrypt_usermodewin8_1.lib".toList, "symcrypt_common.lib".toList,
      "symcrypt_mlkem.lib".toList]
  | .linux => ["libsymcrypt.a".toList]

/-- One round of the loop that looks for the libraries. -/
def checkLibrary (asset : Str) (p : Platform) (tree : Disk) (library : Str) :
    Except Outcome Str :=
  if IsFile tree (p.libPath ++ [library]) then .ok library
  else .error (.refused s!"{String.ofList asset} did not contain {String.ofList p.libSubdir}/{String.ofList library}")

/-- The header. -/
def header : Path := components "include/symcrypt.h".toList

/-- The checks of what the archive contains. -/
def checkContents (asset : Str) (p : Platform) (tree : Disk) : Except Outcome (List Str) :=
  if IsFile tree header then p.libraries.mapM (checkLibrary asset p tree)
  else .error (.refused s!"{String.ofList asset} did not contain include/symcrypt.h")

/-! ## The directory -/

/-- `$(…)`, which drops the line ends at the end. -/
def captured (text : Str) : Str := text.rdropWhile (· == '\n')

/-- `basename`. -/
def basename (path : Str) : Str :=
  let path' := path.rdropWhile (· == '/')
  if path' = [] then path.take 1 else path'.rtakeWhile (· != '/')

/-- `dirname`. -/
def dirname (path : Str) : Str :=
  let path' := path.rdropWhile (· == '/')
  let dir := path'.rdropWhile (· != '/')
  if path' = [] ∧ path ≠ [] then ['/']
  else if dir = [] then ['.']
  else if dir.rdropWhile (· == '/') = [] then ['/']
  else dir.rdropWhile (· == '/')

/-- The operand is taken for options: `basename` and `dirname` fail on it, or show a text that
is no directory to `cd` into. -/
def IsOption (operand : Str) : Prop := operand.head? = some '-' ∧ operand ≠ ['-']

instance (operand : Str) : Decidable (IsOption operand) := inferInstanceAs (Decidable (_ ∧ _))

/-- What `pwd` prints in a directory that was entered by an absolute text: two slashes at the
start stay, three do not. -/
def printPath (absolute : Str) (path : Path) : Str :=
  (if "//".toList <+: absolute ∧ ¬ "///".toList <+: absolute then "//".toList else ['/']) ++
    List.intercalate ['/'] path

/-- `cd dir && pwd`. -/
def cdPwd (m : Machine) (disk : Disk) (dir : Str) : Option Str :=
  let absolute :=
    if dir.head? = some '/' then dir
    else if m.pwd.getLast? = some '/' then m.pwd ++ dir
    else m.pwd ++ '/' :: dir
  (enter disk m.here dir).map (printPath absolute)

/-- `DEST`, with its directory resolved, and the path that this names. -/
def destination (m : Machine) (o : Options) (disk : Disk) : Except Outcome (Str × Path) :=
  let name := captured (basename o.dest)
  if IsOption o.dest then .error .failed
  else if name = [] ∨ name = ['.'] ∨ name = ['.', '.'] ∨ name = ['/'] then
    .error (.refused s!"refusing to stage SymCrypt into {String.ofList o.dest}")
  else
    match cdPwd m disk (captured (dirname o.dest)) with
    | none => .error .failed
    | some dir =>
      let dest := captured dir ++ '/' :: name
      -- without a place for it nothing is removed, and `mkdir` fails
      match locate disk [] dest with
      | none => .error .failed
      | some path => .ok (dest, path)

/-- What there is to stage, and where. -/
structure Staged where
  platform : Platform
  dest : Str
  path : Path
  tree : Disk

/-- The script up to its first change outside of the temporary directory. -/
def stage (m : Machine) (o : Options) (disk : Disk) : Except Outcome Staged :=
  (platform m o).bind fun p =>
    (arch m o).bind fun arch =>
      (tag m o).bind fun tag =>
        match m.download p (url arch tag p) with
        | none => .error .failed
        | some tree =>
          (checkContents (asset arch tag p) p tree).bind fun _ =>
            (destination m o disk).map fun dest => ⟨p, dest.1, dest.2, tree⟩

/-- The previous directory is removed, if there is one. -/
def removeDest (s : Staged) (disk : Disk) : Disk := remove s.path disk

/-- The new one is made, and filled. -/
def fillDest (s : Staged) (disk : Disk) : Option Disk :=
  (locate disk [] s.dest).bind fun path =>
    (mkdir path disk).map (moveInto path ["include".toList, "lib".toList] s.tree)

/-! ## The config -/

/-- The directory of `CARGO_CONFIG`. -/
def cargoDir (root : Path) : Path := root ++ [".cargo".toList]

/-- `CARGO_CONFIG`. -/
def cargoConfig (root : Path) : Path := cargoDir root ++ ["config.toml".toList]

/-- `MARKER`. -/
def marker : Str := "# Generated by scripts/fetch-symcrypt.sh".toList

/-- There is a config, and its first line is not the marker. -/
def HandWritten : Option Node → Prop
  | none => False
  | some .dir => True
  | some (.file text) => text.takeWhile (· != '\n') ≠ marker

instance : (config : Option Node) → Decidable (HandWritten config)
  | none => isFalse not_false
  | some .dir => isTrue trivial
  | some (.file _) => inferInstanceAs (Decidable (_ ≠ _))

/-- `toml_escape`. -/
def tomlEscape (path : Str) : Str :=
  captured (Words.replace ['"'] ['\\', '"'] (Words.replace ['\\'] ['\\', '\\'] path))

/-- A path as a native program takes it. -/
def nativePath (m : Machine) (p : Platform) (path : Str) : Str :=
  match p, m.cygpath with
  | .windows, some cygpath => cygpath path
  | _, _ => path

/-- `INCLUDE_DIR`. -/
def includeDir (m : Machine) (s : Staged) : Str :=
  nativePath m s.platform (s.dest ++ "/include".toList)

/-- `LIB_DIR`. -/
def libDir (m : Machine) (s : Staged) : Str :=
  nativePath m s.platform (s.dest ++ '/' :: s.platform.libSubdir)

/-- The config. -/
def configText (m : Machine) (s : Staged) : Str :=
  marker ++ "\n[env]\nSYMCRYPT_INCLUDE_DIR = \"".toList ++ tomlEscape (includeDir m s) ++
    "\"\nSYMCRYPT_LIB_DIR = \"".toList ++ tomlEscape (libDir m s) ++ "\"\n".toList

/-- What is appended to `GITHUB_ENV`. -/
def githubText (m : Machine) (s : Staged) : Str :=
  "SYMCRYPT_INCLUDE_DIR=".toList ++ includeDir m s ++ "\nSYMCRYPT_LIB_DIR=".toList ++
    libDir m s ++ ['\n']

/-- The directory of the config is made, unless it is there. -/
def makeCargoDir (m : Machine) (disk : Disk) : Option Disk :=
  if IsDir disk (cargoDir m.root) then some disk else mkdir (cargoDir m.root) disk

/-- The last step: the variables are passed on to later steps of GitHub's workflow. -/
def tellGithub (m : Machine) (s : Staged) (disk : Disk) : Disk × Outcome :=
  if m.githubEnv = [] then (disk, .done)
  else
    match (locate disk m.here m.githubEnv).bind fun path => append path (githubText m s) disk with
    | none => (disk, .failed)
    | some disk => (disk, .done)

/-- The end of the script, from the check of the config on. -/
def writeConfig (m : Machine) (s : Staged) (disk : Disk) : Disk × Outcome :=
  if HandWritten (disk (cargoConfig m.root)) then
    (disk, .refused s!"refusing to overwrite hand-written {String.ofList m.repoRoot}/.cargo/config.toml")
  else
    match makeCargoDir m disk with
    | none => (disk, .failed)
    | some disk => tellGithub m s (write (cargoConfig m.root) (configText m s) disk)

/-- The arguments, and all that comes before the first change. -/
def prepare (m : Machine) (args : List Str) (disk : Disk) : Except Outcome Staged :=
  (parse (defaults m) args).bind fun o => stage m o disk

/-- The script. -/
def run (m : Machine) (args : List Str) (disk : Disk) : Disk × Outcome :=
  match prepare m args disk with
  | .error outcome => (disk, outcome)
  | .ok s =>
    match fillDest s (removeDest s disk) with
    | none => (removeDest s disk, .failed)
    | some disk => writeConfig m s disk

/-! ## What the steps do -/

section

variable {m : Machine} {s : Staged} {disk disk' : Disk} {outcome : Outcome} {path : Path}

/-- What stands on the disk when the directory has been replaced. -/
def replaced (s : Staged) (disk : Disk) : Disk :=
  moveInto s.path ["include".toList, "lib".toList] s.tree
    (Function.update (removeDest s disk) s.path (some .dir))

/-- The directory is made where it was removed. -/
theorem fillDest_eq_some {disk₀ : Disk} (hdest : locate disk₀ [] s.dest = some s.path)
    (h : fillDest s (removeDest s disk) = some disk') :
    disk' = replaced s disk ∧ locate (removeDest s disk) [] s.dest = some s.path ∧
      IsDir (removeDest s disk) s.path.dropLast := by
  obtain ⟨made, hmade, hfilled⟩ := Option.bind_eq_some_iff.mp h
  obtain rfl := locate_unique hmade hdest
  obtain ⟨disk₁, hmkdir, rfl⟩ := Option.map_eq_some_iff.mp hfilled
  obtain ⟨-, hparent, rfl⟩ := mkdir_eq_some hmkdir
  exact ⟨rfl, hmade, hparent⟩

/-- Outside of the directory nothing is replaced. -/
theorem replaced_of_not_within (h : ¬ Within s.path path) : replaced s disk path = disk path := by
  have hne : path ≠ s.path := by
    rintro rfl
    exact h (List.prefix_refl _)
  rw [replaced, moveInto_of_not_within h, Function.update_of_ne hne, removeDest,
    remove_of_not_within h]

/-- Nothing stale survives: what is in the directory does not depend on what was there. -/
theorem replaced_congr (h : Within s.path path) :
    replaced s disk path = replaced s disk' path := by
  have hmade : Function.update (removeDest s disk) s.path (some .dir) path =
      Function.update (removeDest s disk') s.path (some .dir) path := by
    by_cases hne : path = s.path
    · rw [hne, Function.update_self, Function.update_self]
    · rw [Function.update_of_ne hne, Function.update_of_ne hne, removeDest, removeDest,
        remove_of_within h, remove_of_within h]
  rw [replaced, replaced, moveInto, moveInto, hmade]

/-- The directory itself is one. -/
theorem replaced_self : replaced s disk s.path = some .dir := by
  rw [replaced, moveInto_self]
  exact Function.update_self ..

/-- What has been checked in the archive stands in the directory. -/
theorem replaced_append {name : Str} (hname : name ∈ ["include".toList, "lib".toList])
    (h : Within [name] path) : replaced s disk (s.path ++ path) = s.tree path :=
  moveInto_append hname h

/-- What is not in the directory is kept. -/
theorem kept_replaced : Kept (removeDest s disk) (replaced s disk) := by
  have hout : ∀ other, removeDest s disk other ≠ none →
      replaced s disk other = removeDest s disk other := by
    intro other hother
    have hnot : ¬ Within s.path other := fun hwithin => hother (remove_of_within hwithin)
    rw [replaced_of_not_within hnot, removeDest, remove_of_not_within hnot]
  refine ⟨?_, ?_⟩
  · rintro other ⟨contents, hfile⟩
    exact ⟨contents, (hout other (by rw [hfile]; exact Option.some_ne_none _)).trans hfile⟩
  · intro other hdir
    exact (hout other (by rw [hdir]; exact Option.some_ne_none _)).trans hdir

/-- The directory of the config is not the config. -/
theorem cargoConfig_ne {root : Path} : cargoConfig root ≠ cargoDir root := by
  intro h
  exact absurd (List.append_right_eq_self.mp h) (List.cons_ne_nil _ _)

/-- Making the directory of the config keeps what there is, and makes no config. -/
theorem makeCargoDir_eq_some (h : makeCargoDir m disk = some disk') :
    Kept disk disk' ∧ IsDir disk' (cargoDir m.root) ∧
      ∀ path, path ≠ cargoDir m.root → disk' path = disk path := by
  unfold makeCargoDir at h
  split_ifs at h with hthere
  · obtain rfl := Option.some.inj h
    exact ⟨.refl _, hthere, fun _ _ => rfl⟩
  · have hkept := kept_mkdir h
    obtain ⟨-, -, rfl⟩ := mkdir_eq_some h
    exact ⟨hkept, Function.update_self .., fun path hpath => Function.update_of_ne hpath _ _⟩

/-- The file of GitHub is appended to, if there is one, or the step fails. -/
theorem tellGithub_cases (h : tellGithub m s disk = (disk', outcome)) :
    disk' = disk ∧ (m.githubEnv = [] ∧ outcome = .done ∨ outcome = .failed) ∨
      ∃ path, m.githubEnv ≠ [] ∧ locate disk m.here m.githubEnv = some path ∧
        append path (githubText m s) disk = some disk' ∧ outcome = .done := by
  unfold tellGithub at h
  by_cases hgithub : m.githubEnv = []
  · rw [if_pos hgithub] at h
    obtain ⟨rfl, rfl⟩ := Prod.mk.inj h
    exact .inl ⟨rfl, .inl ⟨hgithub, rfl⟩⟩
  · rw [if_neg hgithub] at h
    cases happend : (locate disk m.here m.githubEnv).bind fun path =>
        append path (githubText m s) disk with
    | none =>
        rw [happend] at h
        obtain ⟨rfl, rfl⟩ := Prod.mk.inj h
        exact .inl ⟨rfl, .inr rfl⟩
    | some appended =>
        rw [happend] at h
        obtain ⟨rfl, rfl⟩ := Prod.mk.inj h
        obtain ⟨path, hpath, hfile⟩ := Option.bind_eq_some_iff.mp happend
        exact .inr ⟨path, hgithub, hpath, hfile, rfl⟩

/-- **How the script ends** when the directory has been replaced: it refuses to write the
config, or it cannot, or it writes it. -/
theorem writeConfig_cases (h : writeConfig m s disk = (disk', outcome)) :
    (HandWritten (disk (cargoConfig m.root)) ∧ disk' = disk ∧
      ∃ message, outcome = .refused message) ∨
    (¬ HandWritten (disk (cargoConfig m.root)) ∧ makeCargoDir m disk = none ∧ disk' = disk ∧
      outcome = .failed) ∨
    ∃ made, ¬ HandWritten (disk (cargoConfig m.root)) ∧ makeCargoDir m disk = some made ∧
      tellGithub m s (write (cargoConfig m.root) (configText m s) made) = (disk', outcome) := by
  unfold writeConfig at h
  by_cases hhand : HandWritten (disk (cargoConfig m.root))
  · rw [if_pos hhand] at h
    obtain ⟨rfl, rfl⟩ := Prod.mk.inj h
    exact .inl ⟨hhand, rfl, _, rfl⟩
  · rw [if_neg hhand] at h
    cases hmade : makeCargoDir m disk with
    | none =>
        rw [hmade] at h
        obtain ⟨rfl, rfl⟩ := Prod.mk.inj h
        exact .inr (.inl ⟨hhand, rfl, rfl, rfl⟩)
    | some made =>
        rw [hmade] at h
        exact .inr (.inr ⟨made, hhand, rfl, h⟩)

/-- Where no config was written by hand, writing it keeps what there is. -/
theorem kept_tellGithub (hhand : ¬ HandWritten (disk (cargoConfig m.root)))
    (h : tellGithub m s (write (cargoConfig m.root) (configText m s) disk) =
      (disk', outcome)) : Kept disk disk' := by
  have hfile : ¬ IsDir disk (cargoConfig m.root) := by
    intro hdir
    rw [IsDir] at hdir
    rw [hdir] at hhand
    exact hhand trivial
  obtain ⟨rfl, -⟩ | ⟨path, -, -, happend, -⟩ := tellGithub_cases h
  · exact kept_write hfile
  · exact (kept_write hfile).trans (kept_append happend)

/-- What is staged stays. -/
theorem kept_writeConfig (h : writeConfig m s disk = (disk', outcome)) : Kept disk disk' := by
  obtain ⟨-, rfl, -⟩ | ⟨-, -, rfl, -⟩ | ⟨made, hhand, hmade, htold⟩ := writeConfig_cases h
  · exact .refl _
  · exact .refl _
  · obtain ⟨hkept, -, hconfig⟩ := makeCargoDir_eq_some hmade
    rw [← hconfig _ cargoConfig_ne] at hhand
    exact hkept.trans (kept_tellGithub hhand htold)

/-- What the config is in the end, if the file of GitHub is another. -/
theorem config_of_tellGithub
    (hgithub : locate disk' m.here m.githubEnv ≠ some (cargoConfig m.root))
    (h : tellGithub m s (write (cargoConfig m.root) (configText m s) disk) = (disk', outcome)) :
    disk' (cargoConfig m.root) = some (.file (configText m s)) := by
  obtain ⟨rfl, -⟩ | ⟨path, -, hpath, happend, -⟩ := tellGithub_cases h
  · exact Function.update_self ..
  · have hlater := locate_kept (kept_append happend) hpath
    obtain ⟨-, old, -, rfl⟩ := append_eq_some happend
    have hne : cargoConfig m.root ≠ path := by
      rintro rfl
      exact hgithub hlater
    rw [write, Function.update_of_ne hne]
    exact Function.update_self ..

end

/-! ## What is checked before the first change -/

section

variable {m : Machine} {s : Staged} {o : Options} {disk disk' : Disk} {α : Type}

/-- The script shows its usage, or says that it does not know the argument. -/
theorem otherArgument_ne (arg : Str) : otherArgument arg ≠ .done := by
  unfold otherArgument
  split_ifs <;> exact fun h => by cases h

/-- It says why it exits. -/
theorem avoids_refused (message : String) :
    Avoids .done (.error (.refused message) : Except Outcome α) := avoids_error fun h => by cases h

/-- A command fails. -/
theorem avoids_failed : Avoids .done (.error .failed : Except Outcome α) :=
  avoids_error fun h => by cases h

theorem avoids_parse (args : List Str) : Avoids .done (parse o args) := by
  fun_induction parse o args with
  | case1 o => exact avoids_ok o
  | case2 o arg hset => exact avoids_failed
  | case3 o arg hset => exact avoids_error (otherArgument_ne arg)
  | case4 o arg value args o' hset ih => exact ih
  | case5 o arg value args hset => exact avoids_error (otherArgument_ne arg)

theorem avoids_platform : Avoids .done (platform m o) := by
  refine Avoids.bind (avoids_ite ?_ (avoids_ok _)) fun name => ?_
  · exact avoids_ite (avoids_ok _) (avoids_ite (avoids_ok _) (avoids_refused _))
  · exact avoids_ite (avoids_ok _) (avoids_ite (avoids_ok _) (avoids_refused _))

theorem avoids_arch : Avoids .done (arch m o) := by
  refine Avoids.bind (avoids_ite ?_ (avoids_ok _)) fun name => ?_
  · exact avoids_ite (avoids_ok _) (avoids_ite (avoids_ok _) (avoids_refused _))
  · exact avoids_ite (avoids_ok _) (avoids_refused _)

theorem avoids_tag : Avoids .done (tag m o) := by
  refine avoids_ite ?_ (avoids_ok _)
  split
  · exact avoids_failed
  · exact avoids_refused _
  · exact avoids_ok _

theorem avoids_checkContents {asset : Str} {p : Platform} {tree : Disk} :
    Avoids .done (checkContents asset p tree) :=
  avoids_ite (avoids_mapM (fun _ => avoids_ite (avoids_ok _) (avoids_refused _)) _)
    (avoids_refused _)

theorem avoids_destination : Avoids .done (destination m o disk) := by
  refine avoids_ite avoids_failed (avoids_ite (avoids_refused _) ?_)
  split
  · exact avoids_failed
  · dsimp only
    split
    · exact avoids_failed
    · exact avoids_ok _

/-- Nothing is said to be done before something has been staged. -/
theorem avoids_prepare (args : List Str) : Avoids .done (prepare m args disk) := by
  refine (avoids_parse args).bind fun o => ?_
  refine avoids_platform.bind fun p => ?_
  refine avoids_arch.bind fun arch => ?_
  refine avoids_tag.bind fun tag => ?_
  split
  · exact avoids_failed
  · exact avoids_checkContents.bind fun _ => avoids_destination.map _

/-- The archive has what is needed. -/
structure Staged.Complete (s : Staged) : Prop where
  header : IsFile s.tree header
  libraries : ∀ library ∈ s.platform.libraries, IsFile s.tree (s.platform.libPath ++ [library])

/-- Where the directory is: its name in a directory that has been entered. -/
theorem destination_eq_ok_iff {dest : Str × Path} :
    destination m o disk = .ok dest ↔
      (¬ IsOption o.dest ∧ ¬ (captured (basename o.dest) = [] ∨
        captured (basename o.dest) = ['.'] ∨ captured (basename o.dest) = ['.', '.'] ∨
        captured (basename o.dest) = ['/'])) ∧
      ∃ dir, cdPwd m disk (captured (dirname o.dest)) = some dir ∧
        dest.1 = captured dir ++ '/' :: captured (basename o.dest) ∧
        locate disk [] dest.1 = some dest.2 := by
  rw [destination]
  dsimp only
  split_ifs with hoption hname
  · exact iff_of_false (fun h => nomatch h) fun h => h.1.1 hoption
  · exact iff_of_false (fun h => nomatch h) fun h => h.1.2 hname
  · rw [and_iff_right ⟨hoption, hname⟩]
    cases cdPwd m disk (captured (dirname o.dest)) with
    | none => exact iff_of_false (fun h => nomatch h) fun ⟨_, h, _⟩ => nomatch h
    | some dir =>
        dsimp only
        constructor
        · intro h
          split at h
          · cases h
          · next path hpath =>
            obtain rfl := Except.ok.inj h
            exact ⟨dir, rfl, rfl, hpath⟩
        · rintro ⟨dir', hdir, hdest, hpath⟩
          obtain rfl := Option.some.inj hdir
          rw [hdest] at hpath
          rw [hpath, ← hdest]

/-- What `pwd` prints starts with a slash, and so does what `$(…)` keeps of it with a name. -/
theorem head?_dest {dir text : Str} (h : cdPwd m disk text = some dir) (name : Str) :
    (captured dir ++ '/' :: name).head? = some '/' := by
  obtain ⟨path, -, rfl⟩ := Option.map_eq_some_iff.mp h
  have hprinted : ∀ absolute : Str, (printPath absolute path).head? = some '/' := by
    intro absolute
    rw [printPath]
    split_ifs <;> rfl
  cases hcaptured : captured (printPath _ path) with
  | nil => rfl
  | cons c kept =>
      obtain ⟨dropped, hdropped⟩ := List.rdropWhile_prefix (· == '\n') (l := printPath _ path)
      rw [← captured, hcaptured] at hdropped
      rw [← hprinted, ← hdropped]
      rfl

/-- **What is staged** has been downloaded, and it is complete; and an absolute text names its
place. -/
theorem of_prepare {args : List Str} (h : prepare m args disk = .ok s) :
    s.Complete ∧ (∃ url, m.download s.platform url = some s.tree) ∧
      s.dest.head? = some '/' ∧ locate disk [] s.dest = some s.path := by
  simp only [prepare, stage, bind_eq_ok] at h
  obtain ⟨o, -, p, -, arch, -, tag, -, h⟩ := h
  split at h
  · cases h
  · next tree htree =>
    obtain ⟨_, hcontents, h⟩ := bind_eq_ok.mp h
    obtain ⟨dest, hdest, rfl⟩ := map_eq_ok.mp h
    obtain ⟨-, dir, hdir, htext, hlocate⟩ := destination_eq_ok_iff.mp hdest
    have habsolute : dest.1.head? = some '/' := by
      rw [htext]
      exact head?_dest hdir _
    unfold checkContents at hcontents
    obtain ⟨hheader, hlibraries⟩ : IsFile tree header ∧
        p.libraries.mapM (checkLibrary (asset arch tag p) p tree) = .ok _ := by
      split_ifs at hcontents with hheader
      exact ⟨hheader, hcontents⟩
    exact ⟨⟨hheader, (mapM_eq_ok.mp hlibraries).1⟩, ⟨_, htree⟩, habsolute, hlocate⟩

end

end TpmPlatform.FetchSymcrypt
