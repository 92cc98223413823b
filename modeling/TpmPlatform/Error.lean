/-
# Error values (`error.rs`, `nvmem.rs`)

The error types of the crate.  An error of the host's callbacks or of the
deserializer is an opaque value of another crate; it is kept as its text.

Conventions of the whole model: a fallible method that changes its receiver
returns its `Except` together with the state it leaves behind, also on an error;
a method that may panic (or overflow, which panics where overflow checks are on)
returns an `Option` around that, with `none` for the panic.
-/
import Mathlib.Data.Int.Notation
import Mathlib.Data.Nat.Notation

namespace TpmPlatform

/-- `NvError`: what can go wrong with non-volatile memory. -/
inductive NvError
  | alreadyInitialized
  | mismatchedBlobSize (expected actual : ℕ)
  | invalidAccess (startOffset len : ℕ)
  deriving DecidableEq, Repr

/-- `Error`: the errors of the crate. -/
inductive Error
  | alreadyInitialized
  | platformCallback (error : String)
  | invalidEntropyCallbackLength (requested returned : ℕ)
  | entropyHealthTestFailed
  | ffi (function : String) (error : ℤ)
  | invalidRequestSize
  | invalidResponseSize
  | nvMem (error : NvError)
  | failedPlatformRestore (error : String)
  | invalidRestoreSize
  | invalidRestoreFormat
  | failedRestore (code : ℤ)
  deriving DecidableEq, Repr

end TpmPlatform
