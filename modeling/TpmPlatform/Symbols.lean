/-
# Symbol names (`build.rs`, the module `symbols`)

The build script puts a prefix before the symbols of the TPM archives, so that a binary
can link them alongside another copy of the reference code: it lists the symbols with
`nm`, writes a file of old and new names, and has `objcopy` rewrite every archive by it.

The two tools are parameters; that they have been found, that `OUT_DIR` is set and that
the file can be written there is not part of the model.  Of an archive there is what the
tools make of it, its global symbols.
-/
import Mathlib.Data.Char
import Mathlib.Data.Finset.Sort
import Mathlib.Data.List.Lex
import TpmPlatform.Linking
import TpmPlatform.Words

namespace TpmPlatform

/-- A Rust string, as its characters; comparing these is comparing the UTF-8 bytes. -/
abbrev Str := List Char

namespace Symbols

/-! ## Strings -/

/-- `char::is_whitespace`, the characters of the Unicode property `White_Space`. -/
def isWhitespace (c : Char) : Bool :=
  let n := c.toNat
  (9 ≤ n && n ≤ 13) || n == 0x20 || n == 0x85 || n == 0xA0 || n == 0x1680 ||
    (0x2000 ≤ n && n ≤ 0x200A) || n == 0x2028 || n == 0x2029 || n == 0x202F || n == 0x205F ||
    n == 0x3000

/-- The line without a carriage return at its end. -/
def stripCarriageReturn (line : Str) : Str :=
  if line.getLast? = some '\r' then line.dropLast else line

/-- The line without its line ending, if it has one. -/
def stripLineEnding (line : Str) : Str :=
  if line.getLast? = some '\n' then stripCarriageReturn line.dropLast else line

/-- `str::lines`. -/
def lines (s : Str) : List Str := (Words.splitInclusive (· == '\n') s).map stripLineEnding

/-- `str::trim`. -/
def trim (s : Str) : Str := Words.trim isWhitespace s

/-- `str::split_whitespace`. -/
def splitWhitespace (s : Str) : List Str := Words.words isWhitespace s

/-! ## The tools -/

/-- What a tool leaves behind: its exit status, the bytes it has printed, and what
`String::from_utf8_lossy` makes of its two streams. -/
structure Output where
  success : Bool
  stdout : ByteArray
  stdoutLossy : String
  stderrLossy : String

/-- The errors of the build script, a `Box<dyn Error>` in the source. -/
inductive BuildError
  | io (message : String)
  | fromUtf8
  | message (text : String)

/-- Which symbols `nm` lists: `--defined-only` or `--undefined-only`. -/
inductive NmFilter
  | definedOnly
  | undefinedOnly
  deriving DecidableEq

/-- An archive with its global symbols. -/
structure Archive where
  path : String
  symbols : Linking.Object Str

/-- A call of `nm` with a filter, `--extern-only` and `--format=posix`. -/
abbrev Nm := NmFilter → List Archive → Except BuildError Output

/-- A call of `objcopy --redefine-syms` with the content of the file; besides what it
prints there are the symbols of the copy. -/
abbrev Objcopy := Str → Archive → Except BuildError (Output × Linking.Object Str)

/-! ## The module -/

/-- `SYMBOL_PREFIX`. -/
def symbolPrefix : Str := "ms_tcg_tpm_185_".toList

/-- `PLATFORM_SYMBOL_PREFIX`, the naming convention for the platform callbacks. -/
def platformSymbolPrefix : Str := "_plat".toList

/-- `is_c_identifier`. -/
def isCIdentifier : Str → Bool
  | [] => false
  | c :: chars => (c.isAlpha || c == '_') && chars.all fun c => c.isAlphanum || c == '_'

/-- The symbols in what `nm` has printed: the first word of every line but the headers. -/
def listedSymbols (stdout : Str) : Finset Str :=
  ((((lines stdout).map trim).filter fun line => !(line.getLast? == some ':')).filterMap
    fun line => (splitWhitespace line).head?).toFinset

/-- `list`. -/
def list (nm : Nm) (filter : NmFilter) (archives : List Archive) :
    Except BuildError (Finset Str) :=
  (nm filter archives).bind fun output =>
    if !output.success then
      .error (.message s!"nm failed to list TPM symbols\nstderr: {output.stderrLossy}")
    else
      match String.fromUTF8? output.stdout with
      | none => .error .fromUtf8
      | some stdout => .ok (listedSymbols stdout.toList)

/-- The symbols that `renames` keeps. -/
def isRenamed (symbol : Str) : Bool :=
  isCIdentifier symbol
    -- the external SymCrypt archives call what the TPM supplies under these names
    && !decide ("SymCrypt".toList <+: symbol)

/-- A line of the rename file. -/
def renameLine (symbol : Str) : Str := symbol ++ ' ' :: (symbolPrefix ++ symbol)

/-- `renames`, the content of the rename file. -/
def renames (nm : Nm) (archives : List Archive) : Except BuildError Str :=
  (list nm .definedOnly archives).bind fun symbols =>
    (list nm .undefinedOnly archives).bind fun undefined =>
      let symbols := symbols ∪ undefined.filter fun symbol => platformSymbolPrefix <+: symbol
      let symbols := symbols.filter fun symbol => isRenamed symbol
      .ok (symbols.sort.flatMap fun symbol => renameLine symbol ++ ['\n'])

/-- `namespace_libraries`: the libraries to link, with the symbols of their copies. -/
def namespaceLibraries (nm : Nm) (objcopy : Objcopy) (libraries : List String)
    (sourceArchives : List Archive) : Except BuildError (List (String × Linking.Object Str)) :=
  (renames nm sourceArchives).bind fun renames =>
    (libraries.zip sourceArchives).mapM fun (library, sourceArchive) =>
      (objcopy renames sourceArchive).bind fun (output, destArchive) =>
        if !output.success then
          .error (.message s!"objcopy failed for {sourceArchive.path}\nstdout: {output.stdoutLossy}\nstderr: {output.stderrLossy}")
        else .ok (library, destArchive)

end Symbols

end TpmPlatform
