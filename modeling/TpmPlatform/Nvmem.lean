/-
# Non-volatile memory (`plat/api/nvmem.rs`)

The NV region of the platform and the operations on it.  The region is a byte
list whose length is data: the deserializer can put a region of any length into
the state, so that it is `nvMemorySize` bytes long is an invariant and not part
of the type.  Offsets and sizes are `usize` values of a 64-bit target.
-/
import TpmPlatform.Bytes
import TpmPlatform.Error

namespace TpmPlatform

open Bytes

/-- `NV_MEMORY_SIZE`: 128 KiB. -/
def nvMemorySize : ℕ := 128 * 1024

/-- `NvState`. -/
structure NvState where
  region : List UInt8
  isInit : Bool
  deriving DecidableEq

/-- `validate_nv_size`. -/
def validateNvSize (size : ℕ) : Except Error Unit :=
  if size ≠ nvMemorySize then
    .error (.nvMem (.mismatchedBlobSize nvMemorySize size))
  else
    .ok ()

/-- A size is accepted exactly when it is the one the library was built for. -/
theorem validateNvSize_eq_ok {size : ℕ} : validateNvSize size = .ok () ↔ size = nvMemorySize := by
  unfold validateNvSize
  by_cases h : size = nvMemorySize
  · rw [if_neg (not_not.mpr h)]
    exact iff_of_true rfl h
  · rw [if_pos h]
    exact iff_of_false (by intro hc; cases hc) h

namespace NvState

/-- `NvState::new`. -/
def new : NvState where
  region := List.replicate nvMemorySize 0
  isInit := false

/-! ## Enabling and disabling -/

/-- `nv_enable_from_blob`. -/
def nvEnableFromBlob (s : NvState) (blob : List UInt8) : Except Error Unit × NvState :=
  if s.isInit then
    (.error (.nvMem .alreadyInitialized), s)
  else
    match validateNvSize blob.length with
    | .error e => (.error e, s)
    | .ok () => (.ok (), { region := blob, isInit := true })

/-- `nv_enable`.  It may follow `nv_enable_from_blob`, so an initialized region is
no error and stays as it is. -/
def nvEnable (s : NvState) : Except Error Unit × NvState :=
  (.ok (),
    if !s.isInit then
      { region := List.replicate nvMemorySize 0, isInit := true }
    else
      s)

/-- `nv_disable`. -/
def nvDisable (s : NvState) : NvState := { s with isInit := false }

/-- Enabling an initialized region does nothing. -/
theorem nvEnable_of_isInit {s : NvState} (h : s.isInit = true) : s.nvEnable = (.ok (), s) := by
  unfold nvEnable
  rw [h]
  rfl

/-- Enabling an uninitialized region zero-fills it. -/
theorem nvEnable_of_not_isInit {s : NvState} (h : s.isInit = false) :
    s.nvEnable = (.ok (), { region := List.replicate nvMemorySize 0, isInit := true }) := by
  unfold nvEnable
  rw [h]
  rfl

/-- A blob of the right size enables a disabled region. -/
theorem nvEnableFromBlob_eq_ok {s : NvState} {blob : List UInt8} (hinit : s.isInit = false)
    (hlen : blob.length = nvMemorySize) :
    s.nvEnableFromBlob blob = (.ok (), { region := blob, isInit := true }) := by
  unfold nvEnableFromBlob
  rw [if_neg (by rw [hinit]; exact Bool.false_ne_true), validateNvSize_eq_ok.mpr hlen]

/-- `nv_enable_from_blob` succeeds on a disabled region and a blob of the right
size only, and then the blob is the region; otherwise nothing changes. -/
theorem nvEnableFromBlob_cases (s : NvState) (blob : List UInt8) :
    (s.isInit = false ∧ blob.length = nvMemorySize ∧
      s.nvEnableFromBlob blob = (.ok (), { region := blob, isInit := true })) ∨
    ∃ e, s.nvEnableFromBlob blob = (.error (.nvMem e), s) := by
  cases hinit : s.isInit with
  | true =>
      right
      unfold nvEnableFromBlob
      rw [if_pos hinit]
      exact ⟨_, rfl⟩
  | false =>
      by_cases hlen : blob.length = nvMemorySize
      · exact Or.inl ⟨rfl, hlen, nvEnableFromBlob_eq_ok hinit hlen⟩
      · right
        unfold nvEnableFromBlob
        rw [if_neg (by rw [hinit]; exact Bool.false_ne_true), validateNvSize, if_pos hlen]
        exact ⟨_, rfl⟩

/-! ## Accesses -/

/-- `nv_range`: the `len` bytes from `start_offset` on, if they lie in the region. -/
def nvRange (s : NvState) (startOffset len : ℕ) : Except Error (List UInt8) :=
  if startOffset + len ≤ s.region.length then
    .ok (window s.region startOffset len)
  else
    .error (.nvMem (.invalidAccess startOffset len))

/-- `nv_memory_read`: the outcome and the caller's buffer after the call. -/
def nvMemoryRead (s : NvState) (startOffset : ℕ) (buf : List UInt8) :
    Except Error Unit × List UInt8 :=
  match s.nvRange startOffset buf.length with
  | .ok region => (.ok (), region)
  -- `NvRead()` discards the failure, so the buffer is zeroed for it
  | .error e => (.error e, List.replicate buf.length 0)

/-- `nv_is_different`. -/
def nvIsDifferent (s : NvState) (startOffset : ℕ) (buf : List UInt8) : Except Error Bool :=
  (s.nvRange startOffset buf.length).map fun region => region != buf

/-- `nv_memory_write`. -/
def nvMemoryWrite (s : NvState) (startOffset : ℕ) (buf : List UInt8) :
    Except Error Unit × NvState :=
  match s.nvRange startOffset buf.length with
  | .ok _ => (.ok (), { s with region := splice s.region startOffset buf })
  | .error e => (.error e, s)

/-- `nv_memory_clear`. -/
def nvMemoryClear (s : NvState) (startOffset size : ℕ) : Except Error Unit × NvState :=
  match s.nvRange startOffset size with
  | .ok _ => (.ok (), { s with region := splice s.region startOffset (List.replicate size 0) })
  | .error e => (.error e, s)

/-- `nv_memory_move`, with its own bounds checks; `copy_within` reads the whole
source range before it writes. -/
def nvMemoryMove (s : NvState) (sourceOffset destOffset size : ℕ) :
    Except Error Unit × NvState :=
  if sourceOffset + size > s.region.length then
    (.error (.nvMem (.invalidAccess sourceOffset size)), s)
  else if destOffset + size > s.region.length then
    (.error (.nvMem (.invalidAccess destOffset size)), s)
  else
    (.ok (), { s with region := splice s.region destOffset (window s.region sourceOffset size) })

/-- A write inside the region. -/
theorem nvMemoryWrite_of_le {s : NvState} {startOffset : ℕ} {buf : List UInt8}
    (h : startOffset + buf.length ≤ s.region.length) :
    s.nvMemoryWrite startOffset buf =
      (.ok (), { s with region := splice s.region startOffset buf }) := by
  unfold nvMemoryWrite nvRange
  rw [if_pos h]

/-- A write that leaves the region is refused and changes nothing. -/
theorem nvMemoryWrite_of_gt {s : NvState} {startOffset : ℕ} {buf : List UInt8}
    (h : s.region.length < startOffset + buf.length) :
    s.nvMemoryWrite startOffset buf =
      (.error (.nvMem (.invalidAccess startOffset buf.length)), s) := by
  unfold nvMemoryWrite nvRange
  rw [if_neg (by omega)]

/-- Clearing is writing zeros. -/
theorem nvMemoryClear_eq_nvMemoryWrite (s : NvState) (startOffset size : ℕ) :
    s.nvMemoryClear startOffset size = s.nvMemoryWrite startOffset (List.replicate size 0) := by
  unfold nvMemoryClear nvMemoryWrite
  rw [List.length_replicate]

/-- Moving is writing what the source range held, when both ranges lie in the
region. -/
theorem nvMemoryMove_of_le {s : NvState} {sourceOffset destOffset size : ℕ}
    (hs : sourceOffset + size ≤ s.region.length) (hd : destOffset + size ≤ s.region.length) :
    s.nvMemoryMove sourceOffset destOffset size =
      s.nvMemoryWrite destOffset (window s.region sourceOffset size) := by
  unfold nvMemoryMove
  rw [if_neg (by omega), if_neg (by omega),
    nvMemoryWrite_of_le (by rw [length_window hs]; exact hd)]

/-- A move with a range that leaves the region changes nothing. -/
theorem nvMemoryMove_of_gt (s : NvState) (sourceOffset destOffset size : ℕ)
    (h : s.region.length < sourceOffset + size ∨ s.region.length < destOffset + size) :
    ∃ e, s.nvMemoryMove sourceOffset destOffset size = (.error (.nvMem e), s) := by
  unfold nvMemoryMove
  by_cases hs : sourceOffset + size > s.region.length
  · exact ⟨_, if_pos hs⟩
  · rw [if_neg hs, if_pos (by omega)]
    exact ⟨_, rfl⟩

/-- A write changes neither the length of the region nor the flag. -/
theorem nvMemoryWrite_shape (s : NvState) (startOffset : ℕ) (buf : List UInt8) :
    (s.nvMemoryWrite startOffset buf).2.region.length = s.region.length ∧
      (s.nvMemoryWrite startOffset buf).2.isInit = s.isInit := by
  by_cases h : startOffset + buf.length ≤ s.region.length
  · rw [nvMemoryWrite_of_le h]
    exact ⟨length_splice h, rfl⟩
  · rw [nvMemoryWrite_of_gt (by omega)]
    exact ⟨rfl, rfl⟩

/-- A clear changes neither the length of the region nor the flag. -/
theorem nvMemoryClear_shape (s : NvState) (startOffset size : ℕ) :
    (s.nvMemoryClear startOffset size).2.region.length = s.region.length ∧
      (s.nvMemoryClear startOffset size).2.isInit = s.isInit := by
  rw [nvMemoryClear_eq_nvMemoryWrite]
  exact nvMemoryWrite_shape s startOffset _

/-- A move changes neither the length of the region nor the flag. -/
theorem nvMemoryMove_shape (s : NvState) (sourceOffset destOffset size : ℕ) :
    (s.nvMemoryMove sourceOffset destOffset size).2.region.length = s.region.length ∧
      (s.nvMemoryMove sourceOffset destOffset size).2.isInit = s.isInit := by
  by_cases h : sourceOffset + size ≤ s.region.length ∧ destOffset + size ≤ s.region.length
  · rw [nvMemoryMove_of_le h.1 h.2]
    exact nvMemoryWrite_shape s destOffset _
  · obtain ⟨e, he⟩ := nvMemoryMove_of_gt s sourceOffset destOffset size (by omega)
    rw [he]
    exact ⟨rfl, rfl⟩

end NvState

end TpmPlatform
