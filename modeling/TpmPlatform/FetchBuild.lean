/-
# From the script to the build (`scripts/fetch-symcrypt.sh`, `build.rs`)

`denotes_tomlEscape_iff` : a path is in the config as it is, unless it has control characters;
`run_configures` : after a run of the script that is done, Cargo reads the two directories out
of the config, and the build script accepts them and links SymCrypt from there.

Cargo's reading of the config is a parameter; the host has no `cygpath`.
-/
import TpmPlatform.BuildLinks
import TpmPlatform.FetchRuns
import TpmPlatform.Toml

namespace TpmPlatform.FetchSymcrypt

open FileTree BuildScript Fallible Linking

/-! ## The text of the config -/

/-- The two replacements escape each character for itself. -/
theorem replace_eq_escape (path : Str) :
    Words.replace ['"'] ['\\', '"'] (Words.replace ['\\'] ['\\', '\\'] path) =
      Toml.escape path := by
  rw [Words.replace_singleton, Words.replace_singleton, List.flatMap_assoc, Toml.escape]
  refine List.flatMap_congr fun c _ => ?_
  rw [Toml.escapeChar]
  by_cases hbackslash : c = '\\'
  · rw [if_pos hbackslash, if_pos hbackslash]
    rfl
  · rw [if_neg hbackslash, if_neg hbackslash, List.flatMap_singleton]

/-- `$(…)` drops nothing else. -/
theorem captured_concat {c : Char} (hc : c ≠ '\n') (text : Str) :
    captured (text ++ [c]) = text ++ [c] :=
  List.rdropWhile_concat_neg _ _ _ (by rwa [beq_iff_eq])

/-- Only a line end is escaped to something that ends with one. -/
theorem getLast?_escapeChar {c : Char} (hc : c ≠ '\n') :
    ∃ first last, Toml.escapeChar c = first ++ [last] ∧ last ≠ '\n' := by
  rw [Toml.escapeChar]
  split_ifs
  · exact ⟨['\\'], '\\', rfl, by decide⟩
  · exact ⟨['\\'], '"', rfl, by decide⟩
  · exact ⟨[], c, rfl, hc⟩

/-- What `$(…)` drops of the escaped path is what it would drop of the path. -/
theorem tomlEscape_eq (path : Str) : tomlEscape path = Toml.escape (captured path) := by
  rw [tomlEscape, replace_eq_escape]
  have hconcat : ∀ (path : Str) (c : Char),
      Toml.escape (path ++ [c]) = Toml.escape path ++ Toml.escapeChar c := by
    intro path c
    rw [Toml.escape, List.flatMap_append, List.flatMap_singleton]
    rfl
  induction path using List.reverseRecOn with
  | nil => rfl
  | append_singleton path c ih =>
      by_cases hc : c = '\n'
      · subst hc
        rw [hconcat, captured, captured, show Toml.escapeChar '\n' = ['\n'] from rfl,
          List.rdropWhile_concat_pos _ _ _ rfl, List.rdropWhile_concat_pos _ _ _ rfl]
        exact ih
      · obtain ⟨first, last, hescape, hlast⟩ := getLast?_escapeChar hc
        rw [captured_concat hc, hconcat, hescape, ← List.append_assoc, captured_concat hlast]

/-- **A path in the config** is read as it is, but for line ends at its end, if it has no
control characters, and otherwise it is no string. -/
theorem denotes_tomlEscape_iff {path value : Str} :
    Toml.Denotes (tomlEscape path) value ↔
      value = captured path ∧ ∀ c ∈ captured path, Toml.isControl c = false := by
  rw [tomlEscape_eq, Toml.denotes_escape_iff]

/-- The two assignments. -/
def assignments (includeDir libDir : Str) : List Toml.Assignment :=
  [⟨"SYMCRYPT_INCLUDE_DIR".toList, tomlEscape includeDir, includeDir⟩,
    ⟨"SYMCRYPT_LIB_DIR".toList, tomlEscape libDir, libDir⟩]

/-- The config is a document with a comment and the table `env`. -/
theorem configText_eq (m : Machine) (s : Staged) :
    configText m s = Toml.document marker.tail "env".toList
      (assignments (includeDir m s) (libDir m s)) := by
  simp only [configText, Toml.document, Toml.lines, assignments, Toml.Assignment.line,
    List.map_cons, List.map_nil, List.flatMap_cons, List.flatMap_nil, List.append_assoc]
  rfl

/-! ## The directories -/

section

variable {m : Machine} {s : Staged}

/-- `lib` and `lib/static` are moved with `lib`. -/
theorem within_lib (p : Platform) : Within ["lib".toList] p.libPath := by
  cases p <;> decide

/-- On a host without `cygpath` the paths are those of the directories. -/
theorem nativePath_eq (hhost : m.cygpath = none) (p : Platform) (path : Str) :
    nativePath m p path = path := by
  cases p with
  | linux => rfl
  | windows => simp only [nativePath, hhost]

/-- **What is staged** is there in the end, the two directories and the libraries, in the place
that the text names. -/
theorem staged_of_run {args : List Str} {disk disk' : Disk}
    (hrooted : ∀ p url tree, m.download p url = some tree → Rooted tree)
    (hprepare : prepare m args disk = .ok s) (hrun : run m args disk = (disk', .done)) :
    locate disk' [] s.dest = some s.path ∧ IsDir disk' s.path ∧
      IsDir disk' (s.path ++ ["include".toList]) ∧ IsDir disk' (s.path ++ ["lib".toList]) ∧
      IsDir disk' (s.path ++ s.platform.libPath) ∧
      ∀ library ∈ s.platform.libraries,
        IsFile disk' (s.path ++ s.platform.libPath ++ [library]) := by
  obtain ⟨hcomplete, ⟨url, hdownload⟩, -, hdest⟩ := of_prepare hprepare
  have htree : Rooted s.tree := hrooted _ _ _ hdownload
  obtain ⟨herror, -⟩ | ⟨s', hprepare', ⟨-, hfailed⟩ | ⟨hreplaces, hwrite⟩⟩ := run_cases hrun
  · rw [herror] at hprepare
    cases hprepare
  · cases hfailed
  rw [hprepare] at hprepare'
  obtain rfl := Except.ok.inj hprepare'
  have hkept := kept_writeConfig hwrite
  have hlib : "lib".toList ∈ ["include".toList, "lib".toList] := by decide
  have hinclude : "include".toList ∈ ["include".toList, "lib".toList] := by decide
  have hlibrary : ∀ library ∈ s.platform.libraries,
      IsFile s.tree (s.platform.libPath ++ [library]) := hcomplete.libraries
  obtain ⟨library₀, hmem₀⟩ : ∃ library, library ∈ s.platform.libraries := by
    cases s.platform
    · exact ⟨_, List.mem_cons_self⟩
    · exact ⟨_, List.mem_cons_self⟩
  have hlibDir : IsDir s.tree s.platform.libPath := isDir_of_child htree (hlibrary library₀ hmem₀)
  have hlibOuter : IsDir s.tree ["lib".toList] := by
    refine htree _ _ ((within_lib s.platform).append [library₀]) ?_ ?_
    · intro h
      have hlength := congrArg List.length h
      have hpos := List.IsPrefix.length_le (within_lib s.platform)
      simp only [List.length_append, List.length_singleton] at hlength hpos
      omega
    · obtain ⟨contents, hfile⟩ := hlibrary library₀ hmem₀
      rw [hfile]
      exact Option.some_ne_none _
  refine ⟨locate_kept (kept_replaced.trans hkept) hreplaces.located, hkept.dir _ replaced_self,
    hkept.dir _ ?_, hkept.dir _ ?_, hkept.dir _ ?_, fun library hmem => hkept.file _ ?_⟩
  · have hheader : IsFile s.tree (["include".toList] ++ ["symcrypt.h".toList]) := hcomplete.header
    rw [IsDir, replaced_append hinclude (List.prefix_refl _)]
    exact isDir_of_child htree hheader
  · rw [IsDir, replaced_append hlib (List.prefix_refl _)]
    exact hlibOuter
  · rw [IsDir, replaced_append hlib (within_lib _)]
    exact hlibDir
  · rw [List.append_assoc, IsFile, replaced_append hlib ((within_lib _).append _)]
    exact hlibrary library hmem

/-- The files of the disk, as the build script looks at them from the directory `here`. -/
def seen (here : Path) (disk : Disk) (symbols : Str → Object Str) : Files where
  isFile text := decide (∃ path ∈ locate disk here text, IsFile disk path)
  isDir text := decide (∃ path ∈ locate disk here text, IsDir disk path)
  symbols := symbols

/-- What a text names is seen there. -/
theorem seen_isDir {here path : Path} {disk : Disk} {symbols : Str → Object Str} {text : Str}
    (htext : locate disk here text = some path) (hdir : IsDir disk path) :
    (seen here disk symbols).isDir text = true :=
  decide_eq_true ⟨path, htext, hdir⟩

theorem seen_isFile {here path : Path} {disk : Disk} {symbols : Str → Object Str} {text : Str}
    (htext : locate disk here text = some path) (hfile : IsFile disk path) :
    (seen here disk symbols).isFile text = true :=
  decide_eq_true ⟨path, htext, hfile⟩

/-- The text of the libraries' directory names it. -/
theorem locate_libDir {here path : Path} {disk : Disk} {dest : Str} (p : Platform)
    (hdest : locate disk here dest = some path) (hdir : IsDir disk path)
    (hlib : IsDir disk (path ++ ["lib".toList])) :
    locate disk here (dest ++ '/' :: p.libSubdir) = some (path ++ p.libPath) := by
  have hlibName : Plain "lib".toList := by decide
  have hstaticName : Plain "static".toList := by decide
  have houter := locate_child hdest hdir hlibName
  cases p with
  | linux => exact houter
  | windows =>
      have hinner := locate_child houter hlib hstaticName
      rw [List.append_assoc, List.append_assoc] at hinner
      exact hinner

/-- The directory of the libraries ends without a slash. -/
theorem join_libDir (p : Platform) (dest name : Str) :
    join (dest ++ '/' :: p.libSubdir) name = (dest ++ '/' :: p.libSubdir) ++ '/' :: name := by
  obtain ⟨first, last, hsplit, hlast⟩ :
      ∃ first last, '/' :: p.libSubdir = first ++ [last] ∧ last ≠ '/' := by
    cases p
    · exact ⟨"/li".toList, 'b', rfl, by decide⟩
    · exact ⟨"/lib/stati".toList, 'c', rfl, by decide⟩
  refine if_neg ?_
  rw [hsplit, ← List.append_assoc, List.getLast?_concat]
  rintro (h | h)
  · exact List.append_ne_nil_of_right_ne_nil _ (List.cons_ne_nil last []) h
  · exact hlast (Option.some.inj h)

theorem not_isControl_of_all {text : Str}
    (h : (text.all fun c => !Toml.isControl c) = true) : ∀ c ∈ text, Toml.isControl c = false :=
  fun c hc => (Bool.not_eq_true' _).mp (List.all_eq_true.mp h c hc)

/-- The config is a document, if the directory is written without control characters. -/
theorem valid_assignments (hhost : m.cygpath = none)
    (hplain : ∀ c ∈ s.dest, Toml.isControl c = false) :
    Toml.Valid marker.tail "env".toList (assignments (includeDir m s) (libDir m s)) := by
  have hpath : ∀ name : Str, (('/' :: name).all fun c => !Toml.isControl c) = true →
      (∃ first last, '/' :: name = first ++ [last] ∧ last ≠ '\n') →
      Toml.Denotes (tomlEscape (s.dest ++ '/' :: name)) (s.dest ++ '/' :: name) := by
    rintro name hname ⟨first, last, hsplit, hlast⟩
    have hcaptured : captured (s.dest ++ '/' :: name) = s.dest ++ '/' :: name := by
      rw [hsplit, ← List.append_assoc, captured_concat hlast]
    rw [denotes_tomlEscape_iff, hcaptured]
    refine ⟨rfl, fun c hc => ?_⟩
    obtain hc | hc := List.mem_append.mp hc
    · exact hplain c hc
    · exact not_isControl_of_all hname c hc
  have hinclude : Toml.Denotes (tomlEscape (includeDir m s)) (includeDir m s) := by
    rw [includeDir, nativePath_eq hhost]
    exact hpath _ (by decide) ⟨"/includ".toList, 'e', rfl, by decide⟩
  have hlib : Toml.Denotes (tomlEscape (libDir m s)) (libDir m s) := by
    rw [libDir, nativePath_eq hhost]
    cases s.platform
    · exact hpath _ (by decide) ⟨"/li".toList, 'b', rfl, by decide⟩
    · exact hpath _ (by decide) ⟨"/lib/stati".toList, 'c', rfl, by decide⟩
  have hkey : ∀ name : Str, name ≠ [] → name.all Toml.isBare = true → Toml.BareKey name :=
    fun _ hne hbare => ⟨hne, List.all_eq_true.mp hbare⟩
  have hincludeKey : Toml.BareKey "SYMCRYPT_INCLUDE_DIR".toList :=
    hkey _ (by decide) (by decide)
  have hlibKey : Toml.BareKey "SYMCRYPT_LIB_DIR".toList := hkey _ (by decide) (by decide)
  refine ⟨not_isControl_of_all (by decide), hkey _ (by decide) (by decide), ?_, ?_, ?_⟩
  · exact List.forall_mem_cons.mpr ⟨hincludeKey, List.forall_mem_singleton.mpr hlibKey⟩
  · show ["SYMCRYPT_INCLUDE_DIR".toList, "SYMCRYPT_LIB_DIR".toList].Nodup
    decide
  · exact List.forall_mem_cons.mpr ⟨hinclude, List.forall_mem_singleton.mpr hlib⟩

/-- The libraries of the build script have the names of the script. -/
theorem libraries_eq {e : Environment} {p : Platform}
    (htarget : isWindowsMsvc e = true ↔ p = .windows) :
    (symcryptLibraries e).map (archiveFileName e) = p.libraries := by
  unfold symcryptLibraries archiveFileName
  cases p with
  | linux =>
      have hlinux : ¬ isWindowsMsvc e = true := fun h => by cases htarget.mp h
      rw [if_neg hlinux, List.map_singleton, if_neg hlinux]
      rfl
  | windows =>
      have hwindows : isWindowsMsvc e = true := htarget.mpr rfl
      rw [if_pos hwindows, List.map_cons, List.map_cons, List.map_singleton, if_pos hwindows,
        if_pos hwindows, if_pos hwindows]
      rfl

/-- Every library has a plain name. -/
theorem plain_libraries (p : Platform) : ∀ library ∈ p.libraries, Plain library := by
  cases p <;> decide

/-- **From the script to the build**: after a run that is done, Cargo reads the directories out
of the config, and with them the build script, wherever it runs, links SymCrypt from the
directory staged. -/
theorem run_configures {args : List Str} {disk disk' : Disk}
    {cargo : Str → Str → Str → Option Str} (hcargo : Toml.Reads cargo)
    (hhost : m.cygpath = none)
    (hgithub : locate disk' m.here m.githubEnv ≠ some (cargoConfig m.root))
    (hrooted : ∀ p url tree, m.download p url = some tree → Rooted tree)
    (hprepare : prepare m args disk = .ok s) (hrun : run m args disk = (disk', .done))
    (hplain : ∀ c ∈ s.dest, Toml.isControl c = false) :
    ∃ config, disk' (cargoConfig m.root) = some (.file config) ∧
      ∀ (e : Environment) (here : Path) (symbols : Str → Object Str),
        (isWindowsMsvc e = true ↔ s.platform = .windows) →
        (∀ name ∈ ["SYMCRYPT_INCLUDE_DIR".toList, "SYMCRYPT_LIB_DIR".toList],
          env e name = cargo config "env".toList name) →
        configureSymcrypt e (seen here disk' symbols) =
          .ok (symcryptDirectives e (s.dest ++ '/' :: s.platform.libSubdir)) := by
  obtain ⟨-, -, hshort⟩ | ⟨s', hprepare', ⟨-, hfailed⟩ | ⟨-, hwrite⟩⟩ := run_cases hrun
  · exact absurd rfl hshort
  · cases hfailed
  rw [hprepare] at hprepare'
  obtain rfl := Except.ok.inj hprepare'
  obtain ⟨-, -, message, hmessage⟩ | ⟨-, -, -, hfailed⟩ | ⟨made, -, -, htold⟩ :=
    writeConfig_cases hwrite
  · cases hmessage
  · cases hfailed
  refine ⟨configText m s, config_of_tellGithub hgithub htold, ?_⟩
  intro e here symbols htarget henv
  rw [List.forall_mem_cons, List.forall_mem_singleton] at henv
  obtain ⟨hinclude, hlib⟩ := henv
  have hread := fun a ha => hcargo _ _ _ (valid_assignments hhost hplain) a ha
  rw [configText_eq] at hinclude hlib
  rw [hread _ List.mem_cons_self] at hinclude
  rw [hread _ (List.mem_cons_of_mem _ List.mem_cons_self)] at hlib
  rw [includeDir, nativePath_eq hhost] at hinclude
  rw [libDir, nativePath_eq hhost] at hlib
  -- the texts name what has been staged
  obtain ⟨hroot, hdir, hincludeDir, houterDir, hlibDir, hlibraries⟩ :=
    staged_of_run hrooted hprepare hrun
  obtain ⟨-, -, habsolute, -⟩ := of_prepare hprepare
  have hdest := locate_absolute habsolute here hroot
  have hincludeName : Plain "include".toList := by decide
  have hincludeText := locate_child hdest hdir hincludeName
  have hlibText := locate_libDir s.platform hdest hdir houterDir
  have hlinked : (configureLink e (seen here disk' symbols)).map Prod.fst =
      .ok (symcryptDirectives e (s.dest ++ '/' :: s.platform.libSubdir)) := by
    refine configureLink_eq_ok.mpr ⟨_, ⟨⟨hlib, seen_isDir hlibText hlibDir⟩, ?_⟩, rfl⟩
    intro library hlibrary
    have hname : archiveFileName e library ∈ s.platform.libraries := by
      rw [← libraries_eq htarget]
      exact List.mem_map_of_mem hlibrary
    rw [join_libDir]
    exact seen_isFile (locate_child hlibText hlibDir (plain_libraries _ _ hname))
      (hlibraries _ hname)
  exact bind_eq_ok.mpr
    ⟨_, requiredDir_eq_ok.mpr ⟨hinclude, seen_isDir hincludeText hincludeDir⟩, hlinked⟩

end

/-- A build for Linux whose variables come out of the config. -/
def linuxEnvironment : Environment where
  host := "x86_64-unknown-linux-gnu".toList
  target := "x86_64-unknown-linux-gnu".toList
  outDir := "/out".toList
  manifestDir := "/src".toList
  var := Toml.readTable (configText linuxMachine linuxStaged) "env".toList

theorem run_configures_linux :
    configureSymcrypt linuxEnvironment (seen ["r".toList] stagedDisk fun _ => ⟨∅, ∅⟩) =
      .ok [.linkLib "symcrypt".toList, .linkSearch "/r/.symcrypt/lib".toList] := by
  have hrooted : ∀ p url tree, linuxMachine.download p url = some tree → Rooted tree := by
    intro p url tree htree
    obtain rfl := download_linuxMachine htree
    exact rooted_ofList (by decide)
  have hprepare : prepare linuxMachine ["--tag".toList, "1".toList] newDisk =
      .ok linuxStaged := rfl
  have hrun : run linuxMachine ["--tag".toList, "1".toList] newDisk = (stagedDisk, .done) := rfl
  have hgithub : locate stagedDisk linuxMachine.here linuxMachine.githubEnv =
      some ["env".toList] := rfl
  have hthere : stagedDisk (cargoConfig linuxMachine.root) =
      some (.file (configText linuxMachine linuxStaged)) := rfl
  obtain ⟨config, hconfig, hbuild⟩ := run_configures Toml.reads_readTable rfl
    (by rw [hgithub]; decide) hrooted hprepare hrun (not_isControl_of_all (by decide))
  obtain rfl := Node.file.inj (Option.some.inj (hthere.symm.trans hconfig))
  have hvariables : ∀ name ∈ ["SYMCRYPT_INCLUDE_DIR".toList, "SYMCRYPT_LIB_DIR".toList],
      env linuxEnvironment name =
        Toml.readTable (configText linuxMachine linuxStaged) "env".toList name := by decide
  exact hbuild linuxEnvironment ["r".toList] (fun _ => ⟨∅, ∅⟩) (by decide) hvariables

end TpmPlatform.FetchSymcrypt
