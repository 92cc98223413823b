/-
# The build script (`build.rs`)

The script selects the crypto backend by the crate's features, finds or builds the TPM
archives, and has their symbols namespaced.  What it tells Cargo to link is the result.

Cargo sets `HOST`, `TARGET`, `OUT_DIR` and `CARGO_MANIFEST_DIR` for every build script, to
triples and paths of ASCII characters, and the values of all variables are Unicode.  Paths are
those of a Unix host.  CMake is a parameter: the files that there are when it has run; that it
does not fail is taken for granted.  So are the copies of OpenSSL's files for MSVC, with the
errors that they end in.  The lines that make Cargo run the script again are left out.
-/
import TpmPlatform.SideBySide
import TpmPlatform.ToolDiscovery

namespace TpmPlatform.BuildScript

open Symbols ToolDiscovery Linking

/-! ## Surroundings -/

/-- The environment of the script. -/
structure Environment where
  host : Str
  target : Str
  outDir : Str
  manifestDir : Str
  var : Str → Option Str

/-- The files that the script looks at. -/
structure Files where
  isFile : Str → Bool
  isDir : Str → Bool
  symbols : Str → Object Str

/-- What the operating system answers when the script copies files. -/
structure FileOps where
  /-- `util::copy_dir` -/
  copyDir : Str → Str → Except BuildError Unit
  /-- `fs_err::create_dir_all` -/
  createDirAll : Str → Except BuildError Unit
  /-- `fs_err::copy` -/
  copy : Str → Str → Except BuildError Unit

/-- The tools, by their names. -/
structure Tools where
  works : Str → Bool
  nm : Str → Nm
  objcopy : Str → Objcopy

/-- What the script tells Cargo. -/
inductive Directive
  | linkLib (library : Str)
  | linkSearch (dir : Str)
  deriving DecidableEq

/-- `Path::join`. -/
def join (dir name : Str) : Str :=
  if dir = [] ∨ dir.getLast? = some '/' then dir ++ name else dir ++ '/' :: name

/-- The pieces of a path from the end, without those that name nothing. -/
def trimPieces : List Str → List Str
  | [] => []
  | [first] => if first = [] then [] else [first]
  | piece :: pieces => if piece = [] ∨ piece = ['.'] then trimPieces pieces else piece :: pieces

/-- `Path::parent`. -/
def parent (path : Str) : Option Str :=
  match trimPieces (path.splitOnP (· == '/')).reverse with
  | [] => none
  | _ :: pieces =>
    match trimPieces pieces with
    | [] => some (if path.head? = some '/' then ['/'] else [])
    | pieces => some (List.intercalate ['/'] pieces.reverse)

example : parent "/out/.//build/".toList = some "/out".toList ∧ parent "/out".toList = some ['/'] ∧
    parent ['/'] = none ∧ parent "out".toList = some [] := by decide

/-- The archive at a path. -/
def Files.archive (files : Files) (path : Str) : Archive where
  path := String.ofList path
  symbols := files.symbols path

/-! ## The module `util` -/

/-- `is_windows_msvc`. -/
def isWindowsMsvc (e : Environment) : Bool := decide ("windows-msvc".toList <:+: e.target)

/-- `env`: a variable with the target in its name comes before the one without. -/
def env (e : Environment) (name : Str) : Option Str :=
  let targetPrefix := Words.replace ['-'] ['_'] (e.target.map Char.toUpper)
  (e.var (targetPrefix ++ '_' :: name)).or (e.var name)

/-- `env_dir`. -/
def envDir (e : Environment) (files : Files) (name : Str) :
    Except BuildError (Option Str) :=
  match env e name with
  | none => .ok none
  | some value =>
    if files.isDir value then .ok (some value)
    else .error (.message s!"{String.ofList name} ({String.ofList value}) is not a directory")

/-- `archive_file_name`. -/
def archiveFileName (e : Environment) (library : Str) : Str :=
  if isWindowsMsvc e then library ++ ".lib".toList else "lib".toList ++ library ++ ".a".toList

/-! ## The module `backend` -/

/-- `Backend`. -/
inductive Backend
  | openSsl
  | symCrypt
  deriving DecidableEq

/-- `Backend::from_env`. -/
def fromEnv (e : Environment) : Except BuildError Backend :=
  let openssl := (e.var "CARGO_FEATURE_OPENSSL".toList).isSome
  let symcrypt := (e.var "CARGO_FEATURE_SYMCRYPT".toList).isSome
  let vendored := (e.var "CARGO_FEATURE_VENDORED".toList).isSome
  match openssl, symcrypt with
  | true, true => .error (.message "the `openssl` and `symcrypt` features are mutually exclusive")
  | false, false =>
    .error (.message "exactly one of the `openssl` or `symcrypt` features must be enabled")
  | true, false => .ok .openSsl
  | false, true =>
    if vendored then .error (.message "the `vendored` feature only applies to `openssl`")
    else .ok .symCrypt

/-! ## The module `openssl` -/

/-- `u64::from_str_radix` for base 16. -/
def fromStrRadix16 (value : Str) : Option ℕ :=
  let digits := if value.head? = some '+' then value.tail else value
  let digit (c : Char) : Option ℕ :=
    if '0' ≤ c ∧ c ≤ '9' then some (c.toNat - '0'.toNat)
    else if 'a' ≤ c ∧ c ≤ 'f' then some (c.toNat - 'a'.toNat + 10)
    else if 'A' ≤ c ∧ c ≤ 'F' then some (c.toNat - 'A'.toNat + 10)
    else none
  if digits = [] then none
  else
    (digits.mapM digit).bind fun digits =>
      let number := digits.foldl (fun n d => n * 16 + d) 0
      if number < 2 ^ 64 then some number else none

/-- `MIN_OPENSSL_VERSION`. -/
def minOpensslVersion : ℕ := 0x30500000

/-- `validate_version`. -/
def validateVersion (e : Environment) : Except BuildError Unit :=
  match (env e "DEP_OPENSSL_VERSION_NUMBER".toList).bind fromStrRadix16 with
  | none => .error (.message "openssl-sys did not provide a valid OpenSSL version")
  | some opensslVersion =>
    if opensslVersion < minOpensslVersion then
      .error (.message s!"OpenSSL 3.5 or newer is required by the enabled ML-KEM and ML-DSA profile (found {String.ofList (Nat.toDigits 16 opensslVersion)})")
    else .ok ()

/-- The debug information of OpenSSL is copied to where MSVC looks for it. -/
def copyPdb (e : Environment) (ops : FileOps) (includeDir : Str) : Except BuildError Unit :=
  match parent includeDir with
  | none => .error (.message "OpenSSL include directory has no parent")
  | some installDir =>
    match ((parent e.outDir).bind parent).bind parent with
    | none => .error (.message "Cargo OUT_DIR is not inside a profile build directory")
    | some profileDir =>
      let depsDir := join profileDir "deps".toList
      (ops.createDirAll depsDir).bind fun _ =>
        ops.copy (join installDir "lib/ossl_static.pdb".toList)
          (join depsDir "ossl_static.pdb".toList)

/-- `configure` of the OpenSSL backend, as far as it can refuse. -/
def configureOpenssl (e : Environment) (ops : FileOps) (tpmSrcDir : Str) :
    Except BuildError Unit :=
  (validateVersion e).bind fun _ =>
    match env e "DEP_OPENSSL_INCLUDE".toList with
    | none => .error (.message "openssl-sys did not provide its include directory")
    | some includeDir =>
      if isWindowsMsvc e then
        (ops.copyDir (join includeDir "openssl".toList)
          (join tpmSrcDir "OsslInclude/x64/openssl".toList)).bind fun _ =>
            if (e.var "CARGO_FEATURE_VENDORED".toList).isSome then copyPdb e ops includeDir
            else .ok ()
      else .ok ()

/-- `TPM_184_ARCHIVES`. -/
def tpm184Archives : List Str :=
  ["Tpm_CoreLib".toList, "Tpm_CryptoLib_TpmBigNum".toList, "Tpm_CryptoLib_Math_Ossl".toList]

/-- `AZURE_TPM_ARCHIVES`. -/
def azureTpmArchives : List Str :=
  ["Tpm_CoreLib".toList, "Tpm_CryptoLib_Random_RandRef".toList,
    "Tpm_CryptoLib_Kdf_KdfRef".toList, "Tpm_CryptoLib_Math_TpmBigNum".toList,
    "Tpm_CryptoLib_BnMath_Ossl".toList, "Tpm_CryptoLib_RSA_RsaRef".toList,
    "Tpm_CryptoLib_ECC_EccRef".toList, "Tpm_CryptoLib_MLKEM_Ossl".toList,
    "Tpm_CryptoLib_MLDSA_Ossl".toList, "Tpm_CryptoLib_Common".toList]

/-- `tpm_archives` of the OpenSSL backend. -/
def opensslArchives (e : Environment) (files : Files) (libDir : Str) :
    Except BuildError (List Str) :=
  let v184Archive := join libDir (archiveFileName e "Tpm_CryptoLib_TpmBigNum".toList)
  let azureArchive := join libDir (archiveFileName e "Tpm_CryptoLib_Math_TpmBigNum".toList)
  match files.isFile v184Archive, files.isFile azureArchive with
  | true, false => .ok tpm184Archives
  | false, true => .ok azureTpmArchives
  | _, _ =>
    .error (.message s!"could not identify TPM archive layout in {String.ofList libDir}")

/-! ## The module `symcrypt` -/

/-- `required_dir`. -/
def requiredDir (e : Environment) (files : Files) (name : Str) : Except BuildError Str :=
  (envDir e files name).bind fun dir =>
    match dir with
    | some dir => .ok dir
    | none =>
      .error (.message s!"building the TPM against SymCrypt requires {String.ofList name} to be set")

/-- The static libraries of SymCrypt. -/
def symcryptLibraries (e : Environment) : List Str :=
  if isWindowsMsvc e then
    ["symcrypt_usermodewin8_1".toList, "symcrypt_common".toList, "symcrypt_mlkem".toList]
  else ["symcrypt".toList]

/-- One round of the loop of `configure_link`. -/
def linkLibrary (e : Environment) (files : Files) (libDir library : Str) :
    Except BuildError Directive :=
  if files.isFile (join libDir (archiveFileName e library)) then .ok (.linkLib library)
  else
    .error (.message s!"SYMCRYPT_LIB_DIR ({String.ofList libDir}) does not contain {String.ofList (archiveFileName e library)}")

/-- `configure_link`: what it tells Cargo, the directory, and the archive for CMake. -/
def configureLink (e : Environment) (files : Files) :
    Except BuildError (List Directive × Str × Str) :=
  (requiredDir e files "SYMCRYPT_LIB_DIR".toList).bind fun libDir =>
    ((symcryptLibraries e).mapM (linkLibrary e files libDir)).bind fun directives =>
      let archive := join libDir (archiveFileName e
        (if isWindowsMsvc e then "symcrypt_common".toList else "symcrypt".toList))
      .ok (directives ++ [.linkSearch libDir], libDir, archive)

/-- `configure` of the SymCrypt backend, as far as it can refuse: what it tells Cargo. -/
def configureSymcrypt (e : Environment) (files : Files) : Except BuildError (List Directive) :=
  (requiredDir e files "SYMCRYPT_INCLUDE_DIR".toList).bind fun _ =>
    (configureLink e files).map Prod.fst

/-- `TPM_ARCHIVES`. -/
def tpmArchives : List Str :=
  ["Tpm_CoreLib".toList, "Tpm_CryptoLib_Symmetric_SymCrypt".toList,
    "Tpm_CryptoLib_Hash_SymCrypt".toList, "Tpm_CryptoLib_Random_RandRef".toList,
    "Tpm_CryptoLib_Kdf_KdfRef".toList, "Tpm_CryptoLib_RSA_SymCrypt".toList,
    "Tpm_CryptoLib_ECC_SymCrypt".toList, "Tpm_CryptoLib_MLKEM_SymCrypt".toList,
    "Tpm_CryptoLib_MLDSA_SymCrypt".toList, "Tpm_CryptoLib_SymCrypt_Common".toList,
    "Tpm_CryptoLib_Common".toList]

/-- `tpm_archives` of the SymCrypt backend. -/
def symcryptArchives (e : Environment) : List Str :=
  tpmArchives ++
    if isWindowsMsvc e then
      ["Tpm_SymCrypt_Environment".toList, "Tpm_SymCrypt_Callbacks".toList]
    else []

/-! ## The modules `tpm` and `symbols`, and `main` -/

/-- `Backend::tpm_archives`. -/
def Backend.tpmArchives (e : Environment) (files : Files) (libDir : Str) :
    Backend → Except BuildError (List Str)
  | .openSsl => opensslArchives e files libDir
  | .symCrypt => .ok (symcryptArchives e)

/-- `source_archives`. -/
def sourceArchives (e : Environment) (libDir : Str) (libraries : List Str) : List Str :=
  libraries.map fun library => join libDir (archiveFileName e library)

/-- `compile`: what it tells Cargo, and the directory that CMake leaves the archives in. -/
def compile (e : Environment) (files : Files) (ops : FileOps) (backend : Backend) :
    Except BuildError (List Directive × Str) :=
  let tpmSrcDir := join e.manifestDir "TPM/TPMCmd".toList
  let libDir := join e.outDir "lib".toList
  match backend with
  | .openSsl => (configureOpenssl e ops tpmSrcDir).map fun _ => ([], libDir)
  | .symCrypt => (configureSymcrypt e files).map fun directives => (directives, libDir)

/-- The first half of `main`: the archives, prebuilt or built here, which are then among the
files `built`. -/
def locate (e : Environment) (files built : Files) (ops : FileOps) (backend : Backend) :
    Except BuildError (List Directive × List Str × List Archive) :=
  match env e "TCG_TPM_LIB_DIR".toList with
  | some libDir =>
    (if backend = .symCrypt then (configureLink e files).map Prod.fst else .ok []).bind
      fun directives =>
        (backend.tpmArchives e files libDir).map fun libraries =>
          (directives, libraries, (sourceArchives e libDir libraries).map files.archive)
  | none =>
    (compile e files ops backend).bind fun (directives, libDir) =>
      (backend.tpmArchives e built libDir).map fun libraries =>
        (directives, libraries, (sourceArchives e libDir libraries).map built.archive)

/-- `namespace_libraries` with the tools that it finds. -/
def namespaceWithTools (e : Environment) (tools : Tools) (libraries : List Str)
    (sources : List Archive) : Except BuildError (List (String × Object Str)) :=
  (findTool e.host e.target tools.works "objcopy".toList).bind fun objcopy =>
    (findTool e.host e.target tools.works "nm".toList).bind fun nm =>
      namespaceLibraries (tools.nm nm) (tools.objcopy objcopy) (libraries.map String.ofList)
        sources

/-- `main`: what it tells Cargo, and the copies of the archives that this refers to. -/
def main (e : Environment) (files built : Files) (ops : FileOps) (tools : Tools) :
    Except BuildError (List Directive × List (String × Object Str)) :=
  (fromEnv e).bind fun backend =>
    (locate e files built ops backend).bind fun (directives, libraries, sources) =>
      (namespaceWithTools e tools libraries sources).map fun copies =>
        (directives ++ .linkSearch e.outDir :: copies.map fun copy => .linkLib copy.1.toList,
          copies)

end TpmPlatform.BuildScript
