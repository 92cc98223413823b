/-
# Running the script again (`scripts/fetch-symcrypt.sh`)

`runs_keep_config_iff` : over any runs, a config that was written by hand survives exactly if
no run replaces a directory that it is in;
`run_again` : a run that is done can be run again, as long as the directory that `--dest` is in
can be entered, and then changes nothing any more but the file of GitHub.
-/
import TpmPlatform.FetchSymcrypt

namespace TpmPlatform.FetchSymcrypt

open FileTree Fallible

/-! ## One run -/

section

variable {m : Machine} {args : List Str} {disk disk' : Disk} {outcome : Outcome}

/-- The directory has been replaced: its place is found after the removal. -/
structure Replaces (s : Staged) (disk : Disk) : Prop where
  located : locate (removeDest s disk) [] s.dest = some s.path
  parent : IsDir (removeDest s disk) s.path.dropLast

/-- A run changes nothing and is not done, or it cannot make the directory that it has removed,
or it replaces the directory and goes on to the config. -/
theorem run_cases (h : run m args disk = (disk', outcome)) :
    prepare m args disk = .error outcome ∧ disk' = disk ∧ outcome ≠ .done ∨
      ∃ s, prepare m args disk = .ok s ∧
        (disk' = removeDest s disk ∧ outcome = .failed ∨
          Replaces s disk ∧ writeConfig m s (replaced s disk) = (disk', outcome)) := by
  unfold run at h
  cases hprepare : prepare m args disk with
  | error stopped =>
      rw [hprepare] at h
      obtain ⟨rfl, rfl⟩ := Prod.mk.inj h
      refine .inl ⟨rfl, rfl, ?_⟩
      rintro rfl
      exact avoids_prepare args hprepare
  | ok s =>
      rw [hprepare] at h
      dsimp only at h
      refine .inr ⟨s, rfl, ?_⟩
      cases hfill : fillDest s (removeDest s disk) with
      | none =>
          rw [hfill] at h
          obtain ⟨rfl, rfl⟩ := Prod.mk.inj h
          exact .inl ⟨rfl, rfl⟩
      | some filled =>
          rw [hfill] at h
          obtain ⟨-, -, -, hdest⟩ := of_prepare hprepare
          obtain ⟨rfl, hlocated, hparent⟩ := fillDest_eq_some hdest hfill
          exact .inr ⟨⟨hlocated, hparent⟩, h⟩

/-- What the script writes, and whatever may follow, is not taken for written by hand. -/
theorem not_handWritten_configText {s : Staged} (rest : Str) :
    ¬ HandWritten (some (.file (configText m s ++ rest))) := by
  have hmarker : marker.all (· != '\n') = true := by decide
  have hend : ∀ more, ("\n[env]\nSYMCRYPT_INCLUDE_DIR = \"".toList ++ more).takeWhile
      (· != '\n') = [] := fun _ => rfl
  rw [HandWritten, configText]
  simp only [List.append_assoc]
  rw [List.takeWhile_append_of_pos (List.all_eq_true.mp hmarker), hend, List.append_nil]
  exact not_not.mpr rfl

/-- After the config has been written, it is the script's. -/
theorem written_of_tellGithub {s : Staged}
    (h : tellGithub m s (write (cargoConfig m.root) (configText m s) disk) = (disk', outcome)) :
    ∃ rest, disk' (cargoConfig m.root) = some (.file (configText m s ++ rest)) := by
  obtain ⟨rfl, -⟩ | ⟨path, -, -, happend, -⟩ := tellGithub_cases h
  · refine ⟨[], ?_⟩
    rw [List.append_nil]
    exact Function.update_self ..
  · obtain ⟨-, old, hold, rfl⟩ := append_eq_some happend
    by_cases hsame : cargoConfig m.root = path
    · rw [← hsame, write, Function.update_self] at hold
      obtain ⟨hnone, -⟩ | hold := hold
      · cases hnone
      · cases hold
        refine ⟨githubText m s, ?_⟩
        rw [hsame]
        exact Function.update_self ..
    · refine ⟨[], ?_⟩
      rw [List.append_nil, write, Function.update_of_ne hsame]
      exact Function.update_self ..

/-- A config in a file that was written by hand stays in a run that leaves its directory alone,
and the run is not done. -/
theorem run_keeps_config (hrun : run m args disk = (disk', outcome))
    (hdest : ∀ s, prepare m args disk = .ok s → ¬ Within s.path (cargoConfig m.root))
    (hhand : HandWritten (disk (cargoConfig m.root))) :
    disk' (cargoConfig m.root) = disk (cargoConfig m.root) ∧ outcome ≠ .done := by
  obtain ⟨-, rfl, hshort⟩ | ⟨s, hprepare, ⟨rfl, rfl⟩ | ⟨-, hwrite⟩⟩ := run_cases hrun
  · exact ⟨rfl, hshort⟩
  · exact ⟨remove_of_not_within (hdest s hprepare), fun h => by cases h⟩
  · have hsame : replaced s disk (cargoConfig m.root) = disk (cargoConfig m.root) :=
      replaced_of_not_within (hdest s hprepare)
    obtain ⟨-, rfl, message, rfl⟩ | ⟨hnot, -⟩ | ⟨_, hnot, -⟩ := writeConfig_cases hwrite
    · exact ⟨hsame, fun h => by cases h⟩
    · rw [hsame] at hnot
      exact absurd hhand hnot
    · rw [hsame] at hnot
      exact absurd hhand hnot

/-- The releases hold no file of the config's name. -/
def NoConfig (m : Machine) : Prop :=
  ∀ p url tree, m.download p url = some tree → ∀ dir, tree (dir ++ ["config.toml".toList]) = none

/-- A config in a directory that is replaced is gone. -/
theorem replaced_config {s : Staged} {root : Path}
    (htree : ∀ dir, s.tree (dir ++ ["config.toml".toList]) = none)
    (h : Within s.path (cargoConfig root)) (hne : cargoConfig root ≠ s.path) :
    replaced s disk (cargoConfig root) = none := by
  obtain ⟨rest, hrest⟩ := h
  have hsplit : s.path ++ rest = cargoDir root ++ ["config.toml".toList] := hrest
  have hnil : rest ≠ [] := by
    rintro rfl
    rw [List.append_nil] at hrest
    exact hne hrest.symm
  -- what stands there in the archive would have the config's name
  obtain ⟨dir, name, rfl⟩ := (List.eq_nil_or_concat' rest).resolve_left hnil
  rw [← List.append_assoc] at hsplit
  obtain ⟨-, hname⟩ := List.append_inj' hsplit rfl
  rw [← hrest, replaced, moveInto, List.drop_left]
  split_ifs
  · rw [hname]
    exact htree dir
  · rw [Function.update_of_ne (by rw [hrest]; exact hne)]
    exact remove_of_within (List.prefix_append _ _)

/-- A text that was written by hand is not written by a run. -/
theorem lost_of_run {text : Str} (hhand : HandWritten (some (.file text))) (hno : NoConfig m)
    (hrun : run m args disk = (disk', outcome))
    (h : disk (cargoConfig m.root) ≠ some (.file text) ∨
      ∃ s, prepare m args disk = .ok s ∧ Within s.path (cargoConfig m.root)) :
    disk' (cargoConfig m.root) ≠ some (.file text) := by
  obtain ⟨herror, rfl, -⟩ | ⟨s, hprepare, hrest⟩ := run_cases hrun
  · obtain h | ⟨s, hprepare, -⟩ := h
    · exact h
    · rw [herror] at hprepare
      cases hprepare
  have hor : disk (cargoConfig m.root) ≠ some (.file text) ∨
      Within s.path (cargoConfig m.root) := by
    obtain h | ⟨s', hprepare', hwithin⟩ := h
    · exact .inl h
    · rw [hprepare] at hprepare'
      obtain rfl := Except.ok.inj hprepare'
      exact .inr hwithin
  obtain ⟨rfl, -⟩ | ⟨-, hwrite⟩ := hrest
  · -- the directory is removed and cannot be made again
    by_cases hwithin : Within s.path (cargoConfig m.root)
    · rw [removeDest, remove_of_within hwithin]
      exact fun h => by cases h
    · rw [removeDest, remove_of_not_within hwithin]
      exact hor.resolve_right hwithin
  · have hreplaced : replaced s disk (cargoConfig m.root) ≠ some (.file text) := by
      by_cases hwithin : Within s.path (cargoConfig m.root)
      · by_cases hself : cargoConfig m.root = s.path
        · rw [hself, replaced_self]
          exact fun h => by cases h
        · obtain ⟨-, ⟨url, hdownload⟩, -, -⟩ := of_prepare hprepare
          rw [replaced_config (hno _ _ _ hdownload) hwithin hself]
          exact fun h => by cases h
      · rw [replaced_of_not_within hwithin]
        exact hor.resolve_right hwithin
    obtain ⟨-, rfl, -⟩ | ⟨-, -, rfl, -⟩ | ⟨made, -, -, htold⟩ := writeConfig_cases hwrite
    · exact hreplaced
    · exact hreplaced
    · obtain ⟨rest, hwritten⟩ := written_of_tellGithub htold
      rw [hwritten]
      intro htext
      refine not_handWritten_configText (m := m) (s := s) rest ?_
      rw [htext]
      exact hhand

end

/-! ## The same run again -/

section

variable {m : Machine} {args : List Str} {s : Staged} {disk disk' : Disk} {outcome : Outcome}

/-- What a run leaves outside of its directory, apart from the config and the file of GitHub. -/
theorem writeConfig_of_within (h : writeConfig m s disk = (disk', outcome))
    (hdir : ¬ Within s.path (cargoDir m.root)) (hconfig : ¬ Within s.path (cargoConfig m.root))
    (hgithub : ∀ path, locate disk' m.here m.githubEnv = some path → ¬ Within s.path path)
    {path : Path} (hpath : Within s.path path) : disk' path = disk path := by
  have hne : ∀ other, ¬ Within s.path other → path ≠ other := by
    rintro other hother rfl
    exact hother hpath
  obtain ⟨-, rfl, -⟩ | ⟨-, -, rfl, -⟩ | ⟨made, -, hmade, htold⟩ := writeConfig_cases h
  · rfl
  · rfl
  · obtain ⟨-, -, hsame⟩ := makeCargoDir_eq_some hmade
    have hwritten : write (cargoConfig m.root) (configText m s) made path = disk path :=
      (Function.update_of_ne (hne _ hconfig) _ _).trans (hsame path (hne _ hdir))
    obtain ⟨rfl, -⟩ | ⟨github, -, hlocated, happend, -⟩ := tellGithub_cases htold
    · exact hwritten
    · have hout := hgithub github (locate_kept (kept_append happend) hlocated)
      obtain ⟨-, old, -, rfl⟩ := append_eq_some happend
      exact (Function.update_of_ne (hne _ hout) _ _).trans hwritten

/-- What is staged again is what is there. -/
theorem replaced_again (h : writeConfig m s (replaced s disk) = (disk', outcome))
    (hconfig : ¬ Within s.path (cargoConfig m.root))
    (hgithub : ∀ path, locate disk' m.here m.githubEnv = some path → ¬ Within s.path path) :
    replaced s disk' = disk' := by
  have hdir : ¬ Within s.path (cargoDir m.root) := fun hdir => hconfig (hdir.append _)
  funext path
  by_cases hpath : Within s.path path
  · rw [writeConfig_of_within h hdir hconfig hgithub hpath]
    exact replaced_congr hpath
  · exact replaced_of_not_within hpath

/-- And it can be staged again. -/
theorem Replaces.again (hreplaces : Replaces s disk)
    (h : writeConfig m s (replaced s disk) = (disk', outcome)) : Replaces s disk' := by
  have hkept : Kept (removeDest s disk) (removeDest s disk') := by
    have hlater : Kept (removeDest s disk) disk' := kept_replaced.trans (kept_writeConfig h)
    have hout : ∀ other, removeDest s disk other ≠ none →
        removeDest s disk' other = disk' other := by
      intro other hother
      exact remove_of_not_within fun hwithin => hother (remove_of_within hwithin)
    refine ⟨?_, ?_⟩
    · rintro other hfile
      obtain ⟨contents, hcontents⟩ := hlater.file other hfile
      obtain ⟨old, hold⟩ := hfile
      refine ⟨contents, (hout other ?_).trans hcontents⟩
      rw [hold]
      exact Option.some_ne_none _
    · intro other hdir
      refine (hout other ?_).trans (hlater.dir other hdir)
      rw [show removeDest s disk other = some .dir from hdir]
      exact Option.some_ne_none _
  exact ⟨locate_kept hkept hreplaces.located, hkept.dir _ hreplaces.parent⟩

/-- The directory that `--dest` is in can be entered. -/
def Enterable (m : Machine) (args : List Str) (disk : Disk) : Prop :=
  ∀ o, parse (defaults m) args = .ok o → enter disk m.here (captured (dirname o.dest)) ≠ none

/-- **The same is staged** on a disk on which the directory can be entered, and its text names
the same place; and on a disk on which it cannot be entered, nothing is. -/
theorem prepare_again (hprepare : prepare m args disk = .ok s)
    (hlocated : locate disk' [] s.dest = some s.path) :
    (Enterable m args disk' → prepare m args disk' = .ok s) ∧
      (¬ Enterable m args disk' → prepare m args disk' = .error .failed) := by
  simp only [prepare, stage, bind_eq_ok] at hprepare
  obtain ⟨o, ho, p, hp, arch, harch, tag, htag, h⟩ := hprepare
  split at h
  · cases h
  next tree htree =>
  obtain ⟨contents, hcontents, h⟩ := bind_eq_ok.mp h
  obtain ⟨dest, hdest, rfl⟩ := map_eq_ok.mp h
  obtain ⟨hname, dir, hdir, htext, -⟩ := destination_eq_ok_iff.mp hdest
  have hsame : prepare m args disk' = (destination m o disk').map
      fun dest => ⟨p, dest.1, dest.2, tree⟩ := by
    simp only [prepare, stage, ho, hp, harch, htag, htree, hcontents, Except.bind]
  rw [hsame]
  obtain ⟨entered, hentered, rfl⟩ := Option.map_eq_some_iff.mp hdir
  constructor
  · intro henter
    obtain ⟨entered', hentered'⟩ := Option.ne_none_iff_exists'.mp (henter o ho)
    obtain rfl := locate_unique (enter_eq_some_iff.mp hentered).1 (enter_eq_some_iff.mp hentered').1
    refine map_eq_ok.mpr ⟨dest, destination_eq_ok_iff.mpr ⟨hname, _, ?_, htext, hlocated⟩, rfl⟩
    exact Option.map_eq_some_iff.mpr ⟨entered, hentered', rfl⟩
  · intro henter
    have hnone : enter disk' m.here (captured (dirname o.dest)) = none := by
      by_contra hsome
      refine henter fun o' ho' => ?_
      rw [ho] at ho'
      obtain rfl := Except.ok.inj ho'
      exact hsome
    have hfailed : destination m o disk' = .error .failed := by
      rw [destination]
      dsimp only
      rw [if_neg hname.1, if_neg hname.2, cdPwd, hnone]
      rfl
    rw [hfailed]
    rfl

/-- **A run that is done** can be run again on the disk that it leaves: it fails at once if the
directory that `--dest` is in cannot be entered any more, and otherwise it is done again, and
only appends the variables once more to the file of GitHub, if there is one. -/
theorem run_again (hrun : run m args disk = (disk', .done))
    (hprepare : prepare m args disk = .ok s) (hconfig : ¬ Within s.path (cargoConfig m.root))
    (hgithub : ∀ path, locate disk' m.here m.githubEnv = some path →
      ¬ Within s.path path ∧ path ≠ cargoConfig m.root) :
    (¬ Enterable m args disk' → run m args disk' = (disk', .failed)) ∧
    (Enterable m args disk' → ∃ disk'', run m args disk' = (disk'', .done) ∧
      (∀ path, locate disk' m.here m.githubEnv ≠ some path → disk'' path = disk' path) ∧
      ∀ path, locate disk' m.here m.githubEnv = some path → ∃ old,
        disk' path = some (.file (old ++ githubText m s)) ∧
        disk'' path = some (.file (old ++ githubText m s ++ githubText m s))) := by
  obtain ⟨-, -, hshort⟩ | ⟨s', hprepare', ⟨-, hfailed⟩ | ⟨hreplaces, hwrite⟩⟩ := run_cases hrun
  · exact absurd rfl hshort
  · cases hfailed
  rw [hprepare] at hprepare'
  obtain rfl := Except.ok.inj hprepare'
  have hfree : ∀ path, locate disk' m.here m.githubEnv = some path → ¬ Within s.path path :=
    fun path hpath => (hgithub path hpath).1
  obtain ⟨-, -, -, hdest⟩ := of_prepare hprepare
  have hagain := hreplaces.again hwrite
  have hlocated : locate disk' [] s.dest = some s.path :=
    locate_kept (kept_replaced.trans (kept_writeConfig hwrite)) hreplaces.located
  obtain ⟨henterable, hstuck⟩ := prepare_again hprepare hlocated
  refine ⟨fun henter => ?_, fun henter => ?_⟩
  · rw [run, hstuck henter]
  have hfill : fillDest s (removeDest s disk') = some disk' := by
    have hmkdir : mkdir s.path (removeDest s disk') =
        some (Function.update (removeDest s disk') s.path (some .dir)) :=
      if_pos ⟨remove_of_within (List.prefix_refl _), hagain.parent⟩
    rw [fillDest, hagain.located, Option.bind_some, hmkdir]
    exact congrArg some (replaced_again hwrite hconfig hfree)
  obtain ⟨-, -, message, hmessage⟩ | ⟨-, -, -, hfailed⟩ |
      ⟨made, hnot, hmade, htold⟩ := writeConfig_cases hwrite
  · cases hmessage
  · cases hfailed
  obtain ⟨-, hmadeDir, hmadeConfig⟩ := makeCargoDir_eq_some hmade
  rw [← hmadeConfig _ cargoConfig_ne] at hnot
  have htext : disk' (cargoConfig m.root) = some (.file (configText m s)) :=
    config_of_tellGithub (fun h => (hgithub _ h).2 rfl) htold
  -- the second run finds the config of the first, and its directory
  have hhand : ¬ HandWritten (disk' (cargoConfig m.root)) := by
    rw [htext, ← List.append_nil (configText m s)]
    exact not_handWritten_configText []
  have hdir : makeCargoDir m disk' = some disk' :=
    if_pos ((kept_tellGithub hnot htold).dir _ hmadeDir)
  have hsame : write (cargoConfig m.root) (configText m s) disk' = disk' := by
    rw [write, ← htext, Function.update_eq_self]
  have hsecond : run m args disk' = tellGithub m s disk' := by
    rw [run, henterable henter]
    dsimp only
    rw [hfill]
    dsimp only
    rw [writeConfig, if_neg hhand, hdir]
    dsimp only
    rw [hsame]
  rw [hsecond]
  obtain ⟨rfl, ⟨hnone, -⟩ | hfailed⟩ | ⟨github, hsome, hgithubPath, happend, -⟩ :=
    tellGithub_cases htold
  · refine ⟨_, if_pos hnone, fun _ _ => rfl, fun path hpath => ?_⟩
    rw [hnone] at hpath
    cases hpath
  · cases hfailed
  · have hlater := locate_kept (kept_append happend) hgithubPath
    have hparent := (kept_append happend).dir _ (append_eq_some happend).1
    obtain ⟨-, old, -, hdisk⟩ := append_eq_some happend
    have hthere : disk' github = some (.file (old ++ githubText m s)) := by
      rw [hdisk]
      exact Function.update_self ..
    have hsecondAppend : append github (githubText m s) disk' =
        some (write github (old ++ githubText m s ++ githubText m s) disk') := by
      rw [append, if_pos hparent, hthere]
    refine ⟨write github (old ++ githubText m s ++ githubText m s) disk', ?_, ?_, ?_⟩
    · rw [tellGithub, if_neg hsome, hlater, Option.bind_some, hsecondAppend]
    · intro path hpath
      refine Function.update_of_ne ?_ _ _
      rintro rfl
      exact hpath hlater
    · intro path hpath
      obtain rfl := Option.some.inj (hlater.symm.trans hpath)
      exact ⟨old, hthere, Function.update_self ..⟩

end

/-! ## Any runs -/

/-- One run after the other, on any machines. -/
def runs : List (Machine × List Str) → Disk → Disk × List Outcome
  | [], disk => (disk, [])
  | r :: rs, disk =>
    let (disk, outcome) := run r.1 r.2 disk
    let (disk, outcomes) := runs rs disk
    (disk, outcome :: outcomes)

/-- The run leaves the config's directory alone. -/
def Spares (root : Path) (r : Machine × List Str) (disk : Disk) : Prop :=
  ∀ s, prepare r.1 r.2 disk = .ok s → ¬ Within s.path (cargoConfig root)

/-- Each of the runs leaves it alone, on the disk that it finds. -/
def AllSpare (root : Path) : List (Machine × List Str) → Disk → Prop
  | [], _ => True
  | r :: rs, disk => Spares root r disk ∧ AllSpare root rs (run r.1 r.2 disk).1

section

variable {root : Path} {text : Str} {r : Machine × List Str} {rs : List (Machine × List Str)}
  {disk disk' : Disk} {outcomes : List Outcome}

/-- The first run, and then the others. -/
theorem runs_cons (h : runs (r :: rs) disk = (disk', outcomes)) :
    ∃ disk₁ outcome outcomes', run r.1 r.2 disk = (disk₁, outcome) ∧
      runs rs disk₁ = (disk', outcomes') ∧ outcomes = outcome :: outcomes' := by
  obtain ⟨hdisk, houtcomes⟩ := Prod.mk.inj h
  exact ⟨_, _, _, rfl, Prod.ext hdisk rfl, houtcomes.symm⟩

/-- What is lost is not found again. -/
theorem lost_of_runs (hroot : ∀ r ∈ rs, r.1.root = root) (hno : ∀ r ∈ rs, NoConfig r.1)
    (hhand : HandWritten (some (.file text))) (h : runs rs disk = (disk', outcomes))
    (hlost : disk (cargoConfig root) ≠ some (.file text)) :
    disk' (cargoConfig root) ≠ some (.file text) := by
  induction rs generalizing disk outcomes with
  | nil =>
      obtain ⟨rfl, -⟩ := Prod.mk.inj h
      exact hlost
  | cons r rs ih =>
      rw [List.forall_mem_cons] at hroot hno
      obtain ⟨disk₁, outcome, outcomes', hrun, hrest, rfl⟩ := runs_cons h
      refine ih hroot.2 hno.2 hrest ?_
      have hone := lost_of_run hhand hno.1 hrun
      rw [hroot.1] at hone
      exact hone (.inl hlost)

end

/-! ## A machine -/

/-- A release for Linux. -/
def linuxRelease : List (Path × Node) :=
  [([], .dir), (["include".toList], .dir),
    (["include".toList, "symcrypt.h".toList], .file []), (["lib".toList], .dir),
    (["lib".toList, "libsymcrypt.a".toList], .file [])]

/-- A machine that has been given the release, with a step of GitHub's workflow. -/
def linuxMachine : Machine where
  repoRoot := "/r".toList
  repoRoot_printed := by decide
  pwd := "/r".toList
  pwd_printed := by decide
  kernel := "Linux".toList
  hardware := "x86_64".toList
  latestTag := none
  download p _ := if p = .linux then some (ofList linuxRelease) else none
  cygpath := none
  githubEnv := "/env".toList

theorem download_linuxMachine {p : Platform} {url : Str} {tree : Disk}
    (h : linuxMachine.download p url = some tree) : tree = ofList linuxRelease := by
  have htree : (if p = .linux then some (ofList linuxRelease) else none) = some tree := h
  split_ifs at htree with hlinux
  exact (Option.some.inj htree).symm

/-- What a run on it with the directory by default stages. -/
def linuxStaged : Staged :=
  ⟨.linux, "/r/.symcrypt".toList, ["r".toList, ".symcrypt".toList], ofList linuxRelease⟩

/-- A repository with a config that was written by hand. -/
def handWrittenDisk : Disk :=
  ofList [([], .dir), (["r".toList], .dir), (["r".toList, ".cargo".toList], .dir),
    (cargoConfig ["r".toList], .file "[build]".toList)]

theorem noConfig_linuxMachine : NoConfig linuxMachine := by
  have hnames : ∀ entry ∈ linuxRelease, entry.1.getLast? ≠ some "config.toml".toList := by decide
  intro p url tree htree dir
  obtain rfl := download_linuxMachine htree
  refine ofList_eq_none fun entry hentry hsame => ?_
  refine hnames entry hentry ?_
  rw [hsame, List.getLast?_concat]

/-- A repository without a config. -/
def newDisk : Disk := ofList [([], .dir), (["r".toList], .dir)]

/-- What a first run leaves there. -/
def stagedDisk : Disk := (run linuxMachine ["--tag".toList, "1".toList] newDisk).1

/-- The first run makes the config and the file of GitHub; the second one finds the config, and
appends the two variables once more. -/
theorem run_again_linux :
    ∃ disk, run linuxMachine ["--tag".toList, "1".toList] stagedDisk = (disk, .done) ∧
      (∀ path, path ≠ ["env".toList] → disk path = stagedDisk path) ∧
      stagedDisk ["env".toList] = some (.file (githubText linuxMachine linuxStaged)) ∧
      disk ["env".toList] = some (.file (githubText linuxMachine linuxStaged ++
        githubText linuxMachine linuxStaged)) := by
  have hrun : run linuxMachine ["--tag".toList, "1".toList] newDisk = (stagedDisk, .done) := rfl
  have hprepare : prepare linuxMachine ["--tag".toList, "1".toList] newDisk =
      .ok linuxStaged := rfl
  have hgithub : locate stagedDisk linuxMachine.here linuxMachine.githubEnv =
      some ["env".toList] := rfl
  have hfile : stagedDisk ["env".toList] = some (.file (githubText linuxMachine linuxStaged)) :=
    rfl
  obtain ⟨-, hagain⟩ := run_again hrun hprepare (by decide) (by
    intro path hpath
    obtain rfl := Option.some.inj (hgithub.symm.trans hpath)
    decide)
  obtain ⟨disk, hsecond, hout, happend⟩ := hagain (by
    intro o ho
    obtain rfl := Except.ok.inj (show Except.ok _ = Except.ok o from ho)
    exact Option.some_ne_none ["r".toList])
  refine ⟨disk, hsecond, fun path hpath => hout path ?_, hfile, ?_⟩
  · rw [hgithub]
    exact fun h => hpath (Option.some.inj h).symm
  · obtain ⟨old, hold, hnew⟩ := happend _ hgithub
    have hempty : githubText linuxMachine linuxStaged =
        old ++ githubText linuxMachine linuxStaged :=
      Node.file.inj (Option.some.inj (hfile.symm.trans hold))
    rw [List.self_eq_append_left.mp hempty, List.nil_append] at hnew
    exact hnew

/-- A repository with two directories, one in the other. -/
def nestedDisk : Disk :=
  ofList [([], .dir), (["r".toList], .dir), (["r".toList, "a".toList], .dir),
    (["r".toList, "a".toList, "b".toList], .dir)]

/-- A way that leads through the directory itself can be gone only once. -/
example :
    let args := ["--tag".toList, "1".toList, "--dest".toList, "a/b/../../a".toList]
    let first := run linuxMachine args nestedDisk
    first.2 = .done ∧ (run linuxMachine args first.1).2 = .failed := ⟨rfl, rfl⟩

end TpmPlatform.FetchSymcrypt
