/-
# The test harness (`test-harness/src/main.rs`)

The sample program keeps the NV region in a file.  If there is none it creates one and
starts cold, otherwise the file is the persistent state; its `commit_nv_state` rewinds the
file and writes the region over it.  The program can end at any moment, also while it
writes.

* `commit_durable` : after a run whose last complete commit was accepted, the next run starts
  from the region that was committed, or from that region with a prefix of the next one over
  it if the program ended while it wrote that;
* `restartable_iff` : however often the program has been run, it can be started again exactly
  if its first run had a commit accepted.
-/
import TpmPlatform.HostRuns
import TpmPlatform.OpenFile
import TpmPlatform.WellFormed

namespace TpmPlatform

open Runs

/-! ## The file -/

/-- `commit_nv_state` of `TestPlatformCallbacks`, with the answers of the operating system;
without an outcome the program has ended while it wrote. -/
def commitNvState (file : OpenFile UInt8) (state : List UInt8) (rewound : Except String Unit)
    (answers : List WriteAnswer) : Option (Except String Unit) × OpenFile UInt8 :=
  match rewound with
  | .error e => (some (.error e), file)
  | .ok () => file.rewind.writeAll state answers

/-- The file that `main` opens, and the kind that it initializes the platform with. -/
def openNvram : Option (List UInt8) → OpenFile UInt8 × InitKind
  | none => ({ contents := [], position := 0 }, .coldInit)
  | some blob =>
    -- the file has been read to its end
    ({ contents := blob, position := blob.length }, .coldInitWithPersistentState blob)

/-- **One commit** overwrites the file, all of it exactly if it is accepted. -/
theorem commitNvState_spec (file : OpenFile UInt8) {state : List UInt8} (hstate : state ≠ [])
    (rewound : Except String Unit) (answers : List WriteAnswer) :
    ∃ k, OpenFile.Overwritten file.contents state k
        (commitNvState file state rewound answers).2.contents ∧
      ((commitNvState file state rewound answers).1 = some (.ok ()) ↔ k = state.length) := by
  cases rewound with
  | error e =>
      refine ⟨0, ⟨Nat.zero_le _, rfl⟩, iff_of_false ?_ ?_⟩
      · intro hc
        cases hc
      · exact fun hlen => hstate (List.length_eq_zero_iff.mp hlen.symm)
  | ok _ => exact OpenFile.overwritten_writeAll_rewind file state answers

/-- A region is not empty. -/
theorem ne_nil_of_length {region : List UInt8} (h : region.length = nvMemorySize) :
    region ≠ [] := by
  rintro rfl
  exact absurd h (by decide)

/-- A commit of a region that is cut off has overwritten less than all of the file. -/
theorem commitNvState_cut {file file' : OpenFile UInt8} {state : List UInt8}
    (hstate : state.length = nvMemorySize) {rewound : Except String Unit}
    {answers : List WriteAnswer} (h : commitNvState file state rewound answers = (none, file')) :
    ∃ k < nvMemorySize, OpenFile.Overwritten file.contents state k file'.contents := by
  obtain ⟨k, hover, hok⟩ := commitNvState_spec file (ne_nil_of_length hstate) rewound answers
  rw [h] at hover hok
  refine ⟨k, lt_of_le_of_ne (hstate ▸ hover.1) fun hk => ?_, hover⟩
  cases hok.mpr (hk.trans hstate.symm)

/-- The file after the commits of a run, all of them complete. -/
inductive Committed : OpenFile UInt8 → List Commit → OpenFile UInt8 → Prop
  | nil (file : OpenFile UInt8) : Committed file [] file
  | cons {file file₁ file' : OpenFile UInt8} {c : Commit} {cs : List Commit}
      {rewound verdict : Except String Unit} {answers : List WriteAnswer}
      (hcommit : commitNvState file c.state rewound answers = (some verdict, file₁))
      (haccepted : verdict.isOk = c.accepted) (hrest : Committed file₁ cs file') :
      Committed file (c :: cs) file'

/-- One complete commit of a region, to a file that is no longer than one. -/
theorem committed_one {file file₁ : OpenFile UInt8} {c : Commit}
    {rewound verdict : Except String Unit} {answers : List WriteAnswer}
    (hcommit : commitNvState file c.state rewound answers = (some verdict, file₁))
    (haccepted : verdict.isOk = c.accepted) (hsize : c.state.length = nvMemorySize)
    (hfile : file.contents.length ≤ nvMemorySize) :
    file₁.contents.length ≤ nvMemorySize ∧
      (file₁.contents.length = nvMemorySize ↔
        file.contents.length = nvMemorySize ∨ c.accepted = true) ∧
      (c.accepted = true → file₁.contents = c.state) := by
  obtain ⟨k, hover, hok⟩ := commitNvState_spec file (ne_nil_of_length hsize) rewound answers
  rw [hcommit] at hover hok
  have hlength := hover.length_eq
  have hk : k ≤ nvMemorySize := hsize ▸ hover.1
  have hfull : c.accepted = true ↔ k = nvMemorySize := by
    rw [← haccepted, ← hsize, ← hok, Option.some.injEq]
    cases verdict with
    | ok _ => exact iff_of_true rfl rfl
    | error e => exact iff_of_false Bool.false_ne_true (by intro hc; cases hc)
  dsimp only at hlength
  refine ⟨by omega, ?_, ?_⟩
  · rw [hfull]
    omega
  · intro h
    exact hover.eq_new (hsize ▸ hfull.mp h) (by rw [hsize]; exact hfile)

/-- **The commits of a run**: the file has the length of a region if it had before, or if one
of them was accepted. -/
theorem length_committed {file file' : OpenFile UInt8} {cs : List Commit}
    (h : Committed file cs file') (hsize : ∀ c ∈ cs, c.state.length = nvMemorySize)
    (hfile : file.contents.length ≤ nvMemorySize) :
    file'.contents.length ≤ nvMemorySize ∧
      (file'.contents.length = nvMemorySize ↔
        file.contents.length = nvMemorySize ∨ ∃ c ∈ cs, c.accepted = true) := by
  induction h with
  | nil file => exact ⟨hfile, by simp⟩
  | @cons file file₁ file' c cs _ _ _ hcommit haccepted _ ih =>
      obtain ⟨hle, hiff, -⟩ :=
        committed_one hcommit haccepted (hsize c List.mem_cons_self) hfile
      obtain ⟨hle', hiff'⟩ := ih (fun d hd => hsize d (List.mem_cons_of_mem c hd)) hle
      refine ⟨hle', ?_⟩
      rw [hiff', hiff]
      simp only [List.mem_cons, exists_eq_or_imp, or_assoc]

/-- If the last of them was accepted, the file holds what it wrote. -/
theorem contents_committed {file file' : OpenFile UInt8} {cs : List Commit} {c : Commit}
    (h : Committed file (cs ++ [c]) file')
    (hsize : ∀ d ∈ cs ++ [c], d.state.length = nvMemorySize)
    (hfile : file.contents.length ≤ nvMemorySize) (hc : c.accepted = true) :
    file'.contents = c.state := by
  induction cs generalizing file with
  | nil =>
      cases h with
      | cons hcommit haccepted hrest =>
          cases hrest with
          | nil =>
              exact (committed_one hcommit haccepted (hsize c List.mem_cons_self) hfile).2.2 hc
  | cons d cs ih =>
      cases h with
      | cons hcommit haccepted hrest =>
          obtain ⟨hle, -, -⟩ :=
            committed_one hcommit haccepted (hsize d List.mem_cons_self) hfile
          exact ih hrest (fun e he => hsize e (List.mem_cons_of_mem d he)) hle

/-! ## What is committed -/

/-- The platform is well formed, and all that the host has been handed are regions. -/
structure CommitsSized (p : PlatformImpl) : Prop where
  wellFormed : p.state.WellFormed
  commits : ∀ c ∈ p.callbacks.commits, c.state.length = nvMemorySize

/-- A use of the crate by a host that has not been handed anything yet and restores nothing
but well-formed states. -/
def Process.Op.Careful {ι : Type} {B : Build ι} {ρ : Type} (codec : Codec) (op : Process.Op B ρ) :
    Prop :=
  op.Over codec (fun callbacks => callbacks.commits = []) (fun _ => True) PlatformState.WellFormed

/-- Then it stays so: a commit hands over the region. -/
theorem commitsSized_invariant :
    HostInvariant (fun callbacks => callbacks.commits = []) (fun _ => True)
      PlatformState.WellFormed CommitsSized where
  powerUp := by
    intro callbacks initKind hnone hvalid
    refine ⟨wellFormed_invariant.powerUp callbacks initKind hvalid, ?_⟩
    show ∀ c ∈ callbacks.commits, c.state.length = nvMemorySize
    rw [hnone]
    exact fun c hc => absurd hc List.not_mem_nil
  callback := by
    intro p c p' h _ hstep
    refine ⟨wellFormed_invariant.callback p c p' h.wellFormed hstep, ?_⟩
    rw [(Callback.effect hstep).commits_eq]
    cases c with
    | nvCommit verdict =>
        intro d hd
        rcases List.mem_append.mp hd with hd | hd
        · exact h.commits d hd
        · rw [List.mem_singleton.mp hd]
          exact h.wellFormed.length_region
    | _ => exact h.commits
  signalPowerOff p h := ⟨wellFormed_invariant.signalPowerOff p h.wellFormed, h.commits⟩
  poweredAgain p withNewNvmemBlob h hlen :=
    ⟨wellFormed_invariant.poweredAgain p withNewNvmemBlob h.wellFormed hlen, h.commits⟩
  restored _ _ _ h hstate :=
    ⟨⟨hstate.length_region, hstate.rate, hstate.locality⟩, h.commits⟩
  withCancel p flag h := ⟨wellFormed_invariant.withCancel p flag h.wellFormed, h.commits⟩
  localitySet p locality h :=
    ⟨wellFormed_invariant.localitySet p locality h.wellFormed, h.commits⟩

namespace Process

variable {ι : Type} {B : Build ι} {ρ : Type}

/-- The uses of the crate between `initialize` and the drop of the handle. -/
def Op.UsesHandle : Op B ρ → Prop
  | .initializePlatform _ _ _ _ => False
  | .drop => False
  | _ => True

/-! ## Runs of the program -/

/-- The program has been started and has used the platform up to now: `p` is the platform and
`file` the file, every commit so far being complete.  A call into the library that has not
returned yet stands in `ops` with the callbacks it has made. -/
structure Running [DecidableEq ι] (lib : TpmLibrary B ρ) (codec : Codec)
    (disk : Option (List UInt8)) (p : PlatformImpl) (file : OpenFile UInt8) : Prop where
  run : ∃ library manufacture tpmInit ops w,
    runFrom (step lib codec) (start library)
      (.initializePlatform { commits := [] } (openNvram disk).2 manufacture tpmInit :: ops) =
        some w ∧
    w.platform = some p ∧ ∀ op ∈ ops, op.UsesHandle ∧ op.Careful codec
  committed : Committed (openNvram disk).1 p.callbacks.commits file

/-- A run of the program, from what is on the disk to what is on the disk: the commits that
were complete, and the region that was being written when the program ended, if any. -/
inductive Ran [DecidableEq ι] (lib : TpmLibrary B ρ) (codec : Codec) :
    Option (List UInt8) → List Commit → Option (List UInt8) → List UInt8 → Prop
  /-- `initialize` returns an error, and the program panics. -/
  | refused {blob : List UInt8} {library : LibraryState B ρ}
      {manufacture tpmInit : LibraryRun B ρ} {e : Error}
      (hrefused : (start library).initializePlatform { commits := [] }
        (openNvram (some blob)).2 manufacture tpmInit = some (.error e, start library)) :
      Ran lib codec (some blob) [] none blob
  /-- The program ends between two commits. -/
  | ended {disk : Option (List UInt8)} {p : PlatformImpl} {file : OpenFile UInt8}
      (hrunning : Running lib codec disk p file) :
      Ran lib codec disk p.callbacks.commits none file.contents
  /-- The program ends while it commits the region. -/
  | torn {disk : Option (List UInt8)} {p : PlatformImpl} {file file' : OpenFile UInt8}
      {rewound : Except String Unit} {answers : List WriteAnswer}
      (hrunning : Running lib codec disk p file)
      (hcut : commitNvState file p.state.nvmem.region rewound answers = (none, file')) :
      Ran lib codec disk p.callbacks.commits (some p.state.nvmem.region) file'.contents

/-- Without a platform and a handle it has none later. -/
theorem not_running [DecidableEq ι] {lib : TpmLibrary B ρ} {codec : Codec} {w w' : Process B ρ}
    {ops : List (Op B ρ)} {p : PlatformImpl} (hnone : w.platform = none) (hzero : w.handles = 0)
    (huses : ∀ op ∈ ops, op.UsesHandle) (hrun : runFrom (step lib codec) w ops = some w')
    (hp : w'.platform = some p) : False := by
  cases ops with
  | nil =>
      rw [runFrom_nil] at hrun
      obtain rfl := Option.some.inj hrun
      rw [hnone] at hp
      cases hp
  | cons op ops =>
      obtain ⟨w₁, hstep, -⟩ := (runFrom_cons_eq_some _).mp hrun
      have hop := huses op List.mem_cons_self
      cases op with
      | initializePlatform _ _ _ _ => exact hop
      | drop => exact hop
      | _ => exact (of_needsHandle hstep).1 hzero

/-- A run that is not refused was given no file or one of the right length, and all it has
committed are regions. -/
theorem Running.sized [DecidableEq ι] {lib : TpmLibrary B ρ} {codec : Codec}
    {disk : Option (List UInt8)} {p : PlatformImpl} {file : OpenFile UInt8}
    (h : Running lib codec disk p file) :
    (∀ blob, disk = some blob → blob.length = nvMemorySize) ∧ CommitsSized p := by
  obtain ⟨library, manufacture, tpmInit, ops, w, hrun, hp, hops⟩ := h.run
  have huses : ∀ op ∈ ops, op.UsesHandle := fun op hop => (hops op hop).1
  have hcareful : ∀ op ∈ Op.initializePlatform { commits := [] } (openNvram disk).2 manufacture
      tpmInit :: ops, op.Careful codec := by
    rw [List.forall_mem_cons]
    exact ⟨⟨rfl, fun _ _ => trivial, fun _ _ => trivial⟩, fun op hop => (hops op hop).2⟩
  have hsized := commitsSized_invariant.run (holds_none CommitsSized rfl) hcareful hrun
  refine ⟨?_, (holds_some hp).mp hsized⟩
  obtain ⟨w₁, hinit, hrest⟩ := (runFrom_cons_eq_some _).mp hrun
  cases effect hinit with
  | refused _ => exact (not_running rfl rfl huses hrest hp).elim
  | started _ hvalid _ _ =>
      rintro blob rfl
      exact hvalid

/-- The file that a run starts with is no longer than a region. -/
theorem Running.length_opened [DecidableEq ι] {lib : TpmLibrary B ρ} {codec : Codec}
    {disk : Option (List UInt8)} {p : PlatformImpl} {file : OpenFile UInt8}
    (h : Running lib codec disk p file) : (openNvram disk).1.contents.length ≤ nvMemorySize := by
  cases disk with
  | none => exact Nat.zero_le _
  | some blob => exact (h.sized.1 blob rfl).le

/-- The region that the platform of the next run starts with. -/
theorem region_openNvram (callbacks : HostCallbacks) (blob : List UInt8) :
    (PlatformImpl.powerUp callbacks (openNvram (some blob)).2).state.nvmem.region = blob := by
  rw [PlatformImpl.nvmem_powerUp]
  rfl

/-- **Durability.**  After a run whose last complete commit was accepted the program can be
started again, and the platform starts with the region that was committed, or with a prefix
of the next one over it if the program ended while it wrote that. -/
theorem commit_durable [DecidableEq ι] (lib : TpmLibrary B ρ) (codec : Codec)
    (disk : Option (List UInt8)) (cs : List Commit) (c : Commit) (torn : Option (List UInt8))
    (disk' : List UInt8) (callbacks : HostCallbacks)
    (h : Ran lib codec disk (cs ++ [c]) torn disk') (hc : c.accepted = true) :
    let initKind := (openNvram (some disk')).2
    let region := (PlatformImpl.powerUp callbacks initKind).state.nvmem.region
    initKind.Valid ∧ (torn = none → region = c.state) ∧
      ∀ new, torn = some new → ∃ k < nvMemorySize, region = new.take k ++ c.state.drop k := by
  dsimp only
  rw [region_openNvram]
  generalize hcommits : cs ++ [c] = commits at h
  cases h with
  | refused _ =>
      exact absurd hcommits (List.append_ne_nil_of_right_ne_nil cs (List.cons_ne_nil c []))
  | @ended _ p file hrunning =>
      have hsized := hrunning.sized.2.commits
      have hcommitted := hrunning.committed
      rw [← hcommits] at hsized hcommitted
      have hcontents := contents_committed hcommitted hsized hrunning.length_opened hc
      have hlength : file.contents.length = nvMemorySize := by
        rw [hcontents]
        exact hsized c (List.mem_append_right cs List.mem_cons_self)
      refine ⟨hlength, fun _ => hcontents, ?_⟩
      intro new hnew
      cases hnew
  | @torn _ p file file' rewound answers hrunning hcut =>
      have hsized := hrunning.sized.2.commits
      have hcommitted := hrunning.committed
      rw [← hcommits] at hsized hcommitted
      have hcontents := contents_committed hcommitted hsized hrunning.length_opened hc
      have hc_length := hsized c (List.mem_append_right cs List.mem_cons_self)
      -- the write has got to byte `k` of the region
      obtain ⟨k, hk, hover⟩ :=
        commitNvState_cut hrunning.sized.2.wellFormed.length_region hcut
      have hlength : file'.contents.length = nvMemorySize := by
        rw [hover.length_eq, hcontents, hc_length]
        exact max_eq_right hk.le
      refine ⟨hlength, ?_, ?_⟩
      · intro hnone
        cases hnone
      · intro new hnew
        obtain rfl := Option.some.inj hnew
        exact ⟨k, hk, hcontents ▸ hover.2⟩

/-- What all the runs of the program so far have committed, and the file they have left. -/
inductive History [DecidableEq ι] (lib : TpmLibrary B ρ) (codec : Codec) :
    List (List Commit) → Option (List UInt8) → Prop
  | never : History lib codec [] none
  | next {css : List (List Commit)} {disk : Option (List UInt8)} {cs : List Commit}
      {torn : Option (List UInt8)} {disk' : List UInt8} (h : History lib codec css disk)
      (hran : Ran lib codec disk cs torn disk') : History lib codec (css ++ [cs]) (some disk')

/-- A run starts with the file it is given, or with an empty one. -/
theorem length_openNvram (disk : Option (List UInt8)) :
    (openNvram disk).1.contents.length = (disk.getD []).length := by
  cases disk with
  | none => rfl
  | some blob => rfl

/-- **One run** leaves a file of the length of a region if it was given one, or if it was
given none and had a commit accepted. -/
theorem Ran.length_iff [DecidableEq ι] {lib : TpmLibrary B ρ} {codec : Codec}
    {disk : Option (List UInt8)} {cs : List Commit} {torn : Option (List UInt8)}
    {disk' : List UInt8} (h : Ran lib codec disk cs torn disk') :
    disk'.length = nvMemorySize ↔
      (disk.getD []).length = nvMemorySize ∨ disk = none ∧ ∃ c ∈ cs, c.accepted = true := by
  cases h with
  | @refused _ _ _ _ e _ =>
      refine (or_iff_left ?_).symm
      rintro ⟨hc, -⟩
      cases hc
  | @ended _ p file hrunning =>
      have hlength := (length_committed hrunning.committed hrunning.sized.2.commits
        hrunning.length_opened).2
      rw [length_openNvram] at hlength
      rw [hlength]
      cases disk with
      | none => simp
      | some blob =>
          have hblob := hrunning.sized.1 blob rfl
          exact iff_of_true (.inl hblob) (.inl hblob)
  | @torn _ p file file' rewound answers hrunning hcut =>
      obtain ⟨hle, hlength⟩ := length_committed hrunning.committed hrunning.sized.2.commits
        hrunning.length_opened
      -- the write that was cut off did not make the file longer than a region
      obtain ⟨k, hk, hover⟩ :=
        commitNvState_cut hrunning.sized.2.wellFormed.length_region hcut
      have hsame :
          file'.contents.length = nvMemorySize ↔ file.contents.length = nvMemorySize := by
        rw [hover.length_eq]
        omega
      rw [length_openNvram] at hlength
      rw [hsame, hlength]
      cases disk with
      | none => simp
      | some blob =>
          have hblob := hrunning.sized.1 blob rfl
          exact iff_of_true (.inl hblob) (.inl hblob)

/-- **Restarting.**  However often the program has been run, and wherever each run ended, it
can be started again exactly if its first run had a commit accepted. -/
theorem restartable_iff [DecidableEq ι] (lib : TpmLibrary B ρ) (codec : Codec)
    (cs : List Commit) (css : List (List Commit)) (disk : Option (List UInt8))
    (h : History lib codec (cs :: css) disk) :
    (openNvram disk).2.Valid ↔ ∃ c ∈ cs, c.accepted = true := by
  suffices hdisk : ∃ blob, disk = some blob ∧
      (blob.length = nvMemorySize ↔ ∃ c ∈ cs, c.accepted = true) by
    obtain ⟨blob, rfl, hlength⟩ := hdisk
    exact hlength
  generalize hall : cs :: css = all at h
  induction h generalizing css with
  | never => cases hall
  | @next before disk cs' torn disk' hbefore hran ih =>
      refine ⟨disk', rfl, ?_⟩
      rw [hran.length_iff]
      cases hbefore with
      | never =>
          obtain ⟨rfl, -⟩ := List.cons.inj hall
          have hempty : ¬ (([] : List UInt8).length = nvMemorySize) := by decide
          rw [Option.getD_none, or_iff_right hempty]
          exact and_iff_right rfl
      | @next before disk₀ cs₀ torn₀ disk hbefore₀ hran₀ =>
          -- the first run is not the last one
          cases hlast : before ++ [cs₀] with
          | nil =>
              exact absurd hlast
                (List.append_ne_nil_of_right_ne_nil before (List.cons_ne_nil cs₀ []))
          | cons first rest =>
              rw [hlast, List.cons_append] at hall
              obtain ⟨rfl, -⟩ := List.cons.inj hall
              obtain ⟨blob, hblob, hlength⟩ := ih rest hlast.symm
              obtain rfl := Option.some.inj hblob
              rw [Option.getD_some, hlength]
              refine or_iff_left ?_
              rintro ⟨hc, -⟩
              cases hc

/-! ## A first run -/

/-- A command that commits the region. -/
def committingRun : LibraryRun miniBuild Unit where
  callbacks := [.nvCommit (.ok ())]
  memory := miniMemory
  ret := 0

/-- The platform after a cold start and that command. -/
def committedPlatform : PlatformImpl :=
  let p := PlatformImpl.powerUp { commits := [] } .coldInit
  { p with callbacks := { commits := [{ state := p.state.nvmem.region, accepted := true }] } }

/-- The file after the commit. -/
def committedFile : OpenFile UInt8 :=
  (openNvram none).1.write (PlatformImpl.powerUp { commits := [] } .coldInit).state.nvmem.region

/-- The program has come so far. -/
theorem running_committed :
    Running miniLibrary refusingCodec none committedPlatform committedFile where
  run := by
    refine ⟨miniMemory, coldProcess.silent, coldProcess.silent,
      [.executeCommand committingRun.command],
      { coldProcess with platform := some committedPlatform }, rfl, rfl, ?_⟩
    rw [List.forall_mem_singleton]
    exact ⟨trivial, fun _ _ => trivial⟩
  committed := by
    have hcommit : commitNvState (openNvram none).1
        (PlatformImpl.powerUp { commits := [] } .coldInit).state.nvmem.region (.ok ())
        [.wrote nvMemorySize] = (some (.ok ()), committedFile) :=
      OpenFile.writeAll_wrote (ne_nil_of_length List.length_replicate) List.length_replicate.le
    exact .cons hcommit rfl (.nil committedFile)

/-- The program ends after its first commit. -/
theorem commit_durable_first :
    (openNvram (some committedFile.contents)).2.Valid :=
  (commit_durable miniLibrary refusingCodec none [] _ none committedFile.contents
    { commits := [] } (.ended running_committed) rfl).1

/-- Before a commit it has come so far. -/
theorem running_uncommitted :
    Running miniLibrary refusingCodec none (PlatformImpl.powerUp { commits := [] } .coldInit)
      (openNvram none).1 where
  run := ⟨miniMemory, coldProcess.silent, coldProcess.silent, [], coldProcess, rfl, rfl,
    fun _ hop => absurd hop List.not_mem_nil⟩
  committed := .nil _

/-- After a first run with a commit it can be started again, and after one without it cannot. -/
theorem restartable_first :
    (openNvram (some committedFile.contents)).2.Valid ∧
      ¬ (openNvram (some (openNvram none).1.contents)).2.Valid := by
  have hcommitted := restartable_iff miniLibrary refusingCodec _ [] _
    (.next .never (.ended running_committed))
  have huncommitted := restartable_iff miniLibrary refusingCodec _ [] _
    (.next .never (.ended running_uncommitted))
  refine ⟨hcommitted.mpr ⟨_, List.mem_singleton_self _, rfl⟩, fun h => ?_⟩
  obtain ⟨c, hc, -⟩ := huncommitted.mp h
  cases hc

end Process

end TpmPlatform
