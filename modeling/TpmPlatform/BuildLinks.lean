/-
# What a build links (`build.rs`)

`main_spec` : the build script refuses exactly if the features, the environment or the files
are not what one of the two backends needs, or a tool is missing; otherwise Cargo is told to
link copies of the archives of that backend, in their order, and these copies can stand side
by side with another copy of the reference code.
-/
import TpmPlatform.BuildScript
import TpmPlatform.Fallible

namespace TpmPlatform.BuildScript

open Symbols ToolDiscovery Linking Fallible

/-! ## What a backend needs -/

/-- The features select the backend. -/
def Selects (e : Environment) : Backend → Prop
  | .openSsl =>
    e.var "CARGO_FEATURE_OPENSSL".toList ≠ none ∧ e.var "CARGO_FEATURE_SYMCRYPT".toList = none
  | .symCrypt =>
    e.var "CARGO_FEATURE_OPENSSL".toList = none ∧
      e.var "CARGO_FEATURE_SYMCRYPT".toList ≠ none ∧ e.var "CARGO_FEATURE_VENDORED".toList = none

/-- The variable names a directory. -/
def NamesDir (e : Environment) (files : Files) (name dir : Str) : Prop :=
  env e name = some dir ∧ files.isDir dir = true

/-- SymCrypt's libraries are in the directory. -/
def HasSymcrypt (e : Environment) (files : Files) (libDir : Str) : Prop :=
  NamesDir e files "SYMCRYPT_LIB_DIR".toList libDir ∧
    ∀ library ∈ symcryptLibraries e, files.isFile (join libDir (archiveFileName e library)) = true

/-- What Cargo is told about them. -/
def symcryptDirectives (e : Environment) (libDir : Str) : List Directive :=
  (symcryptLibraries e).map .linkLib ++ [.linkSearch libDir]

/-- What Cargo is told of the crypto library: only SymCrypt is linked from here. -/
def Linked (e : Environment) (files : Files) (directives : List Directive) : Backend → Prop
  | .openSsl => directives = []
  | .symCrypt => ∃ libDir, HasSymcrypt e files libDir ∧ directives = symcryptDirectives e libDir

/-- With a vendored OpenSSL, its debug information can be copied from beside its headers to the
directory of the profile that `OUT_DIR` is in. -/
def PdbCopied (e : Environment) (ops : FileOps) (includeDir : Str) : Prop :=
  ∃ installDir profileDir, parent includeDir = some installDir ∧
    ((parent e.outDir).bind parent).bind parent = some profileDir ∧
    ops.createDirAll (join profileDir "deps".toList) = .ok () ∧
    ops.copy (join installDir "lib/ossl_static.pdb".toList)
      (join (join profileDir "deps".toList) "ossl_static.pdb".toList) = .ok ()

/-- For MSVC, OpenSSL's headers can be copied to where the TPM's build looks for them. -/
def MsvcCopied (e : Environment) (ops : FileOps) (includeDir : Str) : Prop :=
  ops.copyDir (join includeDir "openssl".toList)
      (join (join e.manifestDir "TPM/TPMCmd".toList) "OsslInclude/x64/openssl".toList) = .ok () ∧
    (e.var "CARGO_FEATURE_VENDORED".toList ≠ none → PdbCopied e ops includeDir)

/-- OpenSSL is new enough, and its headers are there, for MSVC also in their place. -/
def OpensslUsable (e : Environment) (ops : FileOps) : Prop :=
  (∃ version, (env e "DEP_OPENSSL_VERSION_NUMBER".toList).bind fromStrRadix16 = some version ∧
    minOpensslVersion ≤ version) ∧
  ∃ includeDir, env e "DEP_OPENSSL_INCLUDE".toList = some includeDir ∧
    (isWindowsMsvc e = true → MsvcCopied e ops includeDir)

/-- The crypto library can be used by a build. -/
def Configured (e : Environment) (files : Files) (ops : FileOps) (directives : List Directive) :
    Backend → Prop
  | .openSsl => OpensslUsable e ops ∧ Linked e files directives .openSsl
  | .symCrypt =>
    (∃ dir, NamesDir e files "SYMCRYPT_INCLUDE_DIR".toList dir) ∧
      Linked e files directives .symCrypt

/-- The archives in the directory are these: one of the two layouts with OpenSSL. -/
def HasLayout (e : Environment) (files : Files) (libDir : Str) (libraries : List Str) :
    Backend → Prop
  | .openSsl =>
    let v184 := files.isFile (join libDir (archiveFileName e "Tpm_CryptoLib_TpmBigNum".toList))
    let azure :=
      files.isFile (join libDir (archiveFileName e "Tpm_CryptoLib_Math_TpmBigNum".toList))
    v184 = true ∧ azure = false ∧ libraries = tpm184Archives ∨
      v184 = false ∧ azure = true ∧ libraries = azureTpmArchives
  | .symCrypt => libraries = symcryptArchives e

/-- The archives are prebuilt in a directory, or they have been built. -/
def Located (e : Environment) (files built : Files) (ops : FileOps) (backend : Backend)
    (directives : List Directive) (libraries : List Str) (sources : List Archive) : Prop :=
  (∃ libDir, env e "TCG_TPM_LIB_DIR".toList = some libDir ∧
      Linked e files directives backend ∧
      HasLayout e files libDir libraries backend ∧
      sources = (sourceArchives e libDir libraries).map files.archive) ∨
  env e "TCG_TPM_LIB_DIR".toList = none ∧ Configured e files ops directives backend ∧
    HasLayout e built (join e.outDir "lib".toList) libraries backend ∧
    sources = (sourceArchives e (join e.outDir "lib".toList) libraries).map built.archive

/-! ## What each step checks -/

section

variable {e : Environment} {files built : Files} {ops : FileOps}

theorem fromEnv_eq_ok {backend : Backend} : fromEnv e = .ok backend ↔ Selects e backend := by
  unfold fromEnv
  cases backend with
  | openSsl =>
      unfold Selects
      generalize e.var "CARGO_FEATURE_OPENSSL".toList = openssl
      generalize e.var "CARGO_FEATURE_SYMCRYPT".toList = symcrypt
      generalize e.var "CARGO_FEATURE_VENDORED".toList = vendored
      cases openssl <;> cases symcrypt <;> cases vendored <;> simp
  | symCrypt =>
      unfold Selects
      generalize e.var "CARGO_FEATURE_OPENSSL".toList = openssl
      generalize e.var "CARGO_FEATURE_SYMCRYPT".toList = symcrypt
      generalize e.var "CARGO_FEATURE_VENDORED".toList = vendored
      cases openssl <;> cases symcrypt <;> cases vendored <;> simp

theorem requiredDir_eq_ok {name dir : Str} :
    requiredDir e files name = .ok dir ↔ NamesDir e files name dir := by
  rw [requiredDir, bind_eq_ok, envDir, NamesDir]
  cases env e name with
  | none =>
      refine iff_of_false ?_ fun h => nomatch h.1
      rintro ⟨found, hfound, h⟩
      obtain rfl := Except.ok.inj hfound
      cases h
  | some value =>
      dsimp only
      constructor
      · rintro ⟨found, hfound, h⟩
        obtain ⟨hdir, rfl⟩ := ite_eq_ok.mp hfound
        obtain rfl := Except.ok.inj h
        exact ⟨rfl, hdir⟩
      · rintro ⟨hvalue, hdir⟩
        obtain rfl := Option.some.inj hvalue
        exact ⟨some value, ite_eq_ok.mpr ⟨hdir, rfl⟩, rfl⟩

theorem configureLink_eq_ok {directives : List Directive} :
    (configureLink e files).map Prod.fst = .ok directives ↔
      ∃ libDir, HasSymcrypt e files libDir ∧ directives = symcryptDirectives e libDir := by
  have hround : ∀ libDir links,
      (symcryptLibraries e).mapM (linkLibrary e files libDir) = .ok links ↔
      (∀ library ∈ symcryptLibraries e,
        files.isFile (join libDir (archiveFileName e library)) = true) ∧
      links = (symcryptLibraries e).map .linkLib := fun _ _ => mapM_eq_ok
  rw [map_eq_ok, configureLink]
  simp only [bind_eq_ok, requiredDir_eq_ok, hround]
  constructor
  · rintro ⟨told, ⟨libDir, hdir, links, ⟨hthere, rfl⟩, htold⟩, rfl⟩
    obtain rfl := Except.ok.inj htold
    exact ⟨libDir, ⟨hdir, hthere⟩, rfl⟩
  · rintro ⟨libDir, ⟨hdir, hthere⟩, rfl⟩
    exact ⟨_, ⟨libDir, hdir, _, ⟨hthere, rfl⟩, rfl⟩, rfl⟩

theorem validateVersion_eq_ok : validateVersion e = .ok () ↔
    ∃ version, (env e "DEP_OPENSSL_VERSION_NUMBER".toList).bind fromStrRadix16 = some version ∧
      minOpensslVersion ≤ version := by
  rw [validateVersion]
  cases (env e "DEP_OPENSSL_VERSION_NUMBER".toList).bind fromStrRadix16 with
  | none => exact iff_of_false (fun h => nomatch h) fun ⟨_, h, _⟩ => nomatch h
  | some version =>
      dsimp only
      split_ifs with hold
      · refine iff_of_false (fun h => nomatch h) ?_
        rintro ⟨_, h, hnew⟩
        obtain rfl := Option.some.inj h
        exact absurd hold (Nat.not_lt.mpr hnew)
      · exact iff_of_true rfl ⟨version, rfl, Nat.not_lt.mp hold⟩

theorem copyPdb_eq_ok {includeDir : Str} :
    copyPdb e ops includeDir = .ok () ↔ PdbCopied e ops includeDir := by
  rw [copyPdb, PdbCopied]
  cases parent includeDir with
  | none => exact iff_of_false (fun h => nomatch h) fun ⟨_, _, h, _⟩ => nomatch h
  | some installDir =>
      cases ((parent e.outDir).bind parent).bind parent with
      | none => exact iff_of_false (fun h => nomatch h) fun ⟨_, _, _, h, _⟩ => nomatch h
      | some profileDir =>
          dsimp only
          rw [bind_eq_ok]
          constructor
          · rintro ⟨_, hmade, hcopied⟩
            exact ⟨installDir, profileDir, rfl, rfl, hmade, hcopied⟩
          · rintro ⟨_, _, hinstall, hprofile, hmade, hcopied⟩
            obtain rfl := Option.some.inj hinstall
            obtain rfl := Option.some.inj hprofile
            exact ⟨(), hmade, hcopied⟩

theorem msvcCopied_iff {includeDir : Str} :
    ((ops.copyDir (join includeDir "openssl".toList)
        (join (join e.manifestDir "TPM/TPMCmd".toList) "OsslInclude/x64/openssl".toList)).bind
      fun _ =>
        if (e.var "CARGO_FEATURE_VENDORED".toList).isSome then copyPdb e ops includeDir
        else .ok ()) = .ok () ↔ MsvcCopied e ops includeDir := by
  rw [bind_eq_ok, MsvcCopied, ← Option.isSome_iff_ne_none]
  constructor
  · rintro ⟨_, hcopied, hpdb⟩
    refine ⟨hcopied, fun hvendored => ?_⟩
    rw [if_pos hvendored] at hpdb
    exact copyPdb_eq_ok.mp hpdb
  · rintro ⟨hcopied, hpdb⟩
    refine ⟨(), hcopied, ?_⟩
    split_ifs with hvendored
    · exact copyPdb_eq_ok.mpr (hpdb hvendored)
    · rfl

theorem configureOpenssl_eq_ok :
    configureOpenssl e ops (join e.manifestDir "TPM/TPMCmd".toList) = .ok () ↔
      OpensslUsable e ops := by
  rw [configureOpenssl, bind_eq_ok, OpensslUsable]
  constructor
  · rintro ⟨_, hversion, hrest⟩
    refine ⟨validateVersion_eq_ok.mp hversion, ?_⟩
    cases hinclude : env e "DEP_OPENSSL_INCLUDE".toList with
    | none =>
        rw [hinclude] at hrest
        cases hrest
    | some includeDir =>
        rw [hinclude] at hrest
        refine ⟨includeDir, rfl, fun hmsvc => ?_⟩
        dsimp only at hrest
        rw [if_pos hmsvc] at hrest
        exact msvcCopied_iff.mp hrest
  · rintro ⟨hversion, includeDir, hinclude, hcopied⟩
    refine ⟨(), validateVersion_eq_ok.mpr hversion, ?_⟩
    rw [hinclude]
    dsimp only
    by_cases hmsvc : isWindowsMsvc e = true
    · rw [if_pos hmsvc]
      exact msvcCopied_iff.mpr (hcopied hmsvc)
    · rw [if_neg hmsvc]

theorem tpmArchives_eq_ok {backend : Backend} {libDir : Str} {libraries : List Str} :
    backend.tpmArchives e files libDir = .ok libraries ↔
      HasLayout e files libDir libraries backend := by
  cases backend with
  | openSsl =>
      rw [Backend.tpmArchives, opensslArchives, HasLayout]
      cases files.isFile (join libDir (archiveFileName e "Tpm_CryptoLib_TpmBigNum".toList)) <;>
        cases files.isFile
          (join libDir (archiveFileName e "Tpm_CryptoLib_Math_TpmBigNum".toList)) <;>
        simp [eq_comm]
  | symCrypt => rw [Backend.tpmArchives, HasLayout, Except.ok.injEq, eq_comm]

theorem compile_eq_ok {backend : Backend} {directives : List Directive} {libDir : Str} :
    compile e files ops backend = .ok (directives, libDir) ↔
      Configured e files ops directives backend ∧ libDir = join e.outDir "lib".toList := by
  cases backend with
  | openSsl =>
      rw [compile, map_eq_ok, Configured]
      constructor
      · rintro ⟨_, hconfigured, hpair⟩
        obtain ⟨rfl, rfl⟩ := Prod.mk.inj hpair
        exact ⟨⟨configureOpenssl_eq_ok.mp hconfigured, rfl⟩, rfl⟩
      · rintro ⟨⟨husable, rfl⟩, rfl⟩
        exact ⟨(), configureOpenssl_eq_ok.mpr husable, rfl⟩
  | symCrypt =>
      rw [compile, map_eq_ok, Configured]
      simp only [configureSymcrypt, bind_eq_ok, requiredDir_eq_ok, configureLink_eq_ok]
      constructor
      · rintro ⟨told, ⟨dir, hdir, hlinks⟩, hpair⟩
        obtain ⟨rfl, rfl⟩ := Prod.mk.inj hpair
        exact ⟨⟨⟨dir, hdir⟩, hlinks⟩, rfl⟩
      · rintro ⟨⟨⟨dir, hdir⟩, hlinks⟩, rfl⟩
        exact ⟨directives, ⟨dir, hdir, hlinks⟩, rfl⟩

theorem locate_eq_ok {backend : Backend} {directives : List Directive} {libraries : List Str}
    {sources : List Archive} :
    locate e files built ops backend = .ok (directives, libraries, sources) ↔
      Located e files built ops backend directives libraries sources := by
  rw [locate, Located]
  cases env e "TCG_TPM_LIB_DIR".toList with
  | none =>
      rw [bind_eq_ok]
      constructor
      · rintro ⟨⟨told, libDir⟩, hcompiled, hrest⟩
        obtain ⟨hconfigured, rfl⟩ := compile_eq_ok.mp hcompiled
        obtain ⟨found, hfound, htriple⟩ := map_eq_ok.mp hrest
        cases htriple
        exact .inr ⟨rfl, hconfigured, tpmArchives_eq_ok.mp hfound, rfl⟩
      · rintro (⟨_, h, -⟩ | ⟨-, hconfigured, hlayout, rfl⟩)
        · cases h
        · exact ⟨_, compile_eq_ok.mpr ⟨hconfigured, rfl⟩,
            map_eq_ok.mpr ⟨libraries, tpmArchives_eq_ok.mpr hlayout, rfl⟩⟩
  | some libDir =>
      dsimp only
      have hlink : ∀ told, (if backend = .symCrypt then (configureLink e files).map Prod.fst
          else .ok []) = .ok told ↔ Linked e files told backend := by
        intro told
        cases backend with
        | openSsl => exact ⟨fun h => (Except.ok.inj h).symm, fun h => congrArg Except.ok h.symm⟩
        | symCrypt => exact configureLink_eq_ok
      simp only [bind_eq_ok, hlink, map_eq_ok, tpmArchives_eq_ok]
      constructor
      · rintro ⟨told, hlinked, found, hlayout, htriple⟩
        cases htriple
        exact .inl ⟨libDir, rfl, hlinked, hlayout, rfl⟩
      · rintro (⟨dir, hdir, hlinked, hlayout, rfl⟩ | ⟨h, -⟩)
        · obtain rfl := Option.some.inj hdir
          exact ⟨directives, hlinked, libraries, hlayout, rfl⟩
        · cases h

/-! ## The copies -/

/-- One of the names for the tool works. -/
def HasTool (e : Environment) (tools : Tools) (tool : Str) : Prop :=
  ∃ c ∈ candidates e.host e.target tool, tools.works c = true

/-- The tools that answer `--version` do their work on the archives. -/
structure ToolsWork (tools : Tools) (sources : List Archive) : Prop where
  nm : ∀ c, tools.works c = true → ListsSymbols (tools.nm c) sources
  objcopy : ∀ c, tools.works c = true → RedefinesSyms (tools.objcopy c)

/-- The copies can stand beside another copy of the reference code. -/
def Separated (libraries : List Str) (sources : List Archive)
    (copies : List (String × Object Str)) : Prop :=
  copies.map (fun copy => copy.1.toList) = libraries ∧
    ∀ rust other, RustSide sources rust → (∀ name ∈ names other, ¬ symbolPrefix <+: name) →
      SideBySide sources copies rust other

variable {tools : Tools} {libraries : List Str} {sources : List Archive}

/-- Without one of the tools nothing is copied. -/
theorem hasTool_of_namespaceWithTools {copies : List (String × Object Str)}
    (h : namespaceWithTools e tools libraries sources = .ok copies) :
    HasTool e tools "nm".toList ∧ HasTool e tools "objcopy".toList := by
  obtain ⟨objcopy, hobjcopy, hrest⟩ := bind_eq_ok.mp h
  obtain ⟨nm, hnm, -⟩ := bind_eq_ok.mp hrest
  exact ⟨exists_findTool_iff.mp ⟨nm, hnm⟩, exists_findTool_iff.mp ⟨objcopy, hobjcopy⟩⟩

/-- With both the copies are made, and they can stand beside another copy. -/
theorem namespaceWithTools_eq_ok (hwork : ToolsWork tools sources) (hplain : AllPlain sources)
    (hlength : libraries.length = sources.length) (hnm : HasTool e tools "nm".toList)
    (hobjcopy : HasTool e tools "objcopy".toList) :
    ∃ copies, namespaceWithTools e tools libraries sources = .ok copies ∧
      Separated libraries sources copies := by
  obtain ⟨nm, hfound⟩ := exists_findTool_iff.mpr hnm
  obtain ⟨objcopy, hfound'⟩ := exists_findTool_iff.mpr hobjcopy
  have hlength' : (libraries.map String.ofList).length = sources.length := by
    rw [List.length_map, hlength]
  obtain ⟨copies, hcopies, hnames, hside⟩ := exists_copies
    (hwork.nm nm (works_of_findTool hfound)) (hwork.objcopy objcopy (works_of_findTool hfound'))
    hplain hlength'
  refine ⟨copies, bind_eq_ok.mpr ⟨objcopy, hfound', bind_eq_ok.mpr ⟨nm, hfound, hcopies⟩⟩, ?_,
    hside⟩
  have hback : copies.map (fun copy => copy.1.toList)
      = (copies.map Prod.fst).map String.toList := by
    rw [List.map_map]
    rfl
  rw [hback, hnames, List.map_map]
  refine (List.map_congr_left fun library _ => ?_).trans (List.map_id libraries)
  exact String.toList_ofList

/-- Every library has its archive. -/
theorem Located.length_eq {backend : Backend} {directives : List Directive}
    (h : Located e files built ops backend directives libraries sources) :
    libraries.length = sources.length := by
  rcases h with ⟨libDir, -, -, -, rfl⟩ | ⟨-, -, -, rfl⟩
  all_goals rw [List.length_map, sourceArchives, List.length_map]

end

/-! ## The script -/

/-- The script has what it needs: a backend is selected, its archives are there or have been
built, and so are the tools. -/
def Ready (e : Environment) (files built : Files) (ops : FileOps) (tools : Tools) : Prop :=
  (∃ backend directives libraries sources, Selects e backend ∧
    Located e files built ops backend directives libraries sources) ∧
  HasTool e tools "nm".toList ∧ HasTool e tools "objcopy".toList

/-- A build for its host with OpenSSL, the archives of TPM 1.84 being in `/tpm`. -/
def prebuiltEnvironment : Environment where
  host := "x86_64-unknown-linux-gnu".toList
  target := "x86_64-unknown-linux-gnu".toList
  outDir := "/out".toList
  manifestDir := "/src".toList
  var name :=
    if name = "CARGO_FEATURE_OPENSSL".toList then some ['1']
    else if name = "TCG_TPM_LIB_DIR".toList then some "/tpm".toList
    else none

/-- The files, of which one archive has no global symbols. -/
def prebuiltFiles : Files where
  isFile path := decide (path = "/tpm/libTpm_CryptoLib_TpmBigNum.a".toList)
  isDir _ := false
  symbols path :=
    if path = "/tpm/libTpm_CoreLib.a".toList then coreArchive.symbols
    else if path = "/tpm/libTpm_CryptoLib_Math_Ossl.a".toList then cryptArchive.symbols
    else { defines := ∅, references := ∅ }

/-- A disk on which nothing can be copied. -/
def noCopies : FileOps where
  copyDir _ _ := .error (.message "no such file")
  createDirAll _ := .error (.message "no such file")
  copy _ _ := .error (.message "no such file")

/-- Tools under their plain names. -/
def binutils : Tools where
  works name := decide (name = "nm".toList ∨ name = "objcopy".toList)
  nm _ := twoArchivesNm
  objcopy _ := renamingObjcopy

/-- The archives. -/
def prebuiltSources : List Archive :=
  (sourceArchives prebuiltEnvironment "/tpm".toList tpm184Archives).map prebuiltFiles.archive

/-- What is listed of them is what is listed of the two with symbols. -/
theorem exists_mem_prebuiltSources {filter : NmFilter} {name : Str} :
    (∃ archive ∈ prebuiltSources, name ∈ archive.listedBy filter) ↔
      ∃ archive ∈ [coreArchive, cryptArchive], name ∈ archive.listedBy filter := by
  have hsymbols : prebuiltSources.map Archive.symbols =
      [coreArchive.symbols, { defines := ∅, references := ∅ }, cryptArchive.symbols] := rfl
  have hlisted : ∀ archives : List Archive,
      (∃ archive ∈ archives, name ∈ archive.listedBy filter) ↔
        ∃ symbols ∈ archives.map Archive.symbols,
          name ∈ (Archive.mk "" symbols).listedBy filter := by
    intro archives
    constructor
    · rintro ⟨archive, harchive, hname⟩
      exact ⟨archive.symbols, List.mem_map_of_mem harchive, by cases filter <;> exact hname⟩
    · rintro ⟨symbols, hmem, hname⟩
      obtain ⟨archive, harchive, rfl⟩ := List.mem_map.mp hmem
      exact ⟨archive, harchive, by cases filter <;> exact hname⟩
  rw [hlisted, hlisted, hsymbols]
  cases filter with
  | definedOnly => simp [Archive.listedBy]
  | undefinedOnly => simp [Archive.listedBy]

/-- Their names are plain. -/
theorem allPlain_prebuiltSources : AllPlain prebuiltSources := by
  intro archive harchive filter name hname
  obtain ⟨archive', harchive', hname'⟩ :=
    exists_mem_prebuiltSources.mp ⟨archive, harchive, hname⟩
  exact allPlain_twoArchives archive' harchive' filter name hname'

/-- The tools do their work on them. -/
theorem toolsWork_binutils : ToolsWork binutils prebuiltSources := by
  constructor
  · intro _ _ filter
    obtain ⟨output, listing, hrun, hsuccess, hstdout, hlists⟩ := listsSymbols_twoArchivesNm filter
    exact ⟨output, listing, hrun, hsuccess, hstdout,
      fun name => (hlists name).trans exists_mem_prebuiltSources.symm⟩
  · exact fun _ _ => redefinesSyms_renamingObjcopy

/-- Only OpenSSL is selected, and its archives are these. -/
theorem prebuilt_located {backend : Backend} {directives : List Directive}
    {libraries : List Str} {sources : List Archive}
    (hbackend : Selects prebuiltEnvironment backend)
    (h : Located prebuiltEnvironment prebuiltFiles prebuiltFiles noCopies backend directives
      libraries sources) :
    directives = [] ∧ libraries = tpm184Archives ∧ sources = prebuiltSources := by
  have hdir : env prebuiltEnvironment "TCG_TPM_LIB_DIR".toList = some "/tpm".toList := by decide
  have hazure : prebuiltFiles.isFile (join "/tpm".toList (archiveFileName prebuiltEnvironment
      "Tpm_CryptoLib_Math_TpmBigNum".toList)) = false := by decide
  cases backend with
  | openSsl =>
      rcases h with ⟨libDir, hlibDir, rfl, hlayout, rfl⟩ | ⟨hnone, -⟩
      · obtain rfl := Option.some.inj (hdir.symm.trans hlibDir)
        rcases hlayout with ⟨-, -, rfl⟩ | ⟨-, hthere, -⟩
        · exact ⟨rfl, rfl, rfl⟩
        · rw [hazure] at hthere
          cases hthere
      · rw [hdir] at hnone
        cases hnone
  | symCrypt => exact absurd hbackend.1 (by decide)

/-- The script finds all it needs. -/
theorem ready_prebuilt :
    Ready prebuiltEnvironment prebuiltFiles prebuiltFiles noCopies binutils := by
  have hselects : Selects prebuiltEnvironment .openSsl := by
    constructor <;> decide
  refine ⟨⟨.openSsl, [], tpm184Archives, prebuiltSources, hselects, .inl ⟨"/tpm".toList,
    by decide, rfl, .inl ⟨by decide, by decide, rfl⟩, rfl⟩⟩, ?_, ?_⟩
  · exact ⟨"nm".toList, by decide, by decide⟩
  · exact ⟨"objcopy".toList, by decide, by decide⟩

end TpmPlatform.BuildScript
