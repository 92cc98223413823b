/-
# NV accesses as a bounds-checked byte array

The five callbacks that read and write ranges of the region, for every region and
every `u32` offset and size.  They share one condition, that the range ends inside the
region (`InRegion`), although `nv_memory_move` checks it in its own words; what they do
to the region on success is one notion as well, a range overwritten with given bytes
(`Overwrites`).
-/
import TpmPlatform.PlatApi

namespace TpmPlatform

open Bytes

namespace PlatformImpl

/-- The range ends inside the region. -/
def InRegion (p : PlatformImpl) (startOffset size : ℕ) : Prop :=
  startOffset + size ≤ p.state.nvmem.region.length

instance (p : PlatformImpl) (startOffset size : ℕ) : Decidable (p.InRegion startOffset size) :=
  Nat.decLe _ _

/-! ## Reading -/

/-- A read inside the region returns the range. -/
theorem platNvMemoryRead_of_inRegion {p : PlatformImpl} {startOffset : UInt32}
    {data : List UInt8} (h : p.InRegion startOffset.toNat data.length) :
    p.platNvMemoryRead startOffset data =
      ({ value := 1
         buffer := window p.state.nvmem.region startOffset.toNat data.length }, p) := by
  unfold platNvMemoryRead NvState.nvMemoryRead NvState.nvRange
  rw [InRegion] at h
  rw [if_pos h]

/-- Any other read fails and zero-fills the buffer. -/
theorem platNvMemoryRead_of_not_inRegion {p : PlatformImpl} {startOffset : UInt32}
    {data : List UInt8} (h : ¬ p.InRegion startOffset.toNat data.length) :
    p.platNvMemoryRead startOffset data =
      ({ value := 0, buffer := List.replicate data.length 0 }, p) := by
  unfold platNvMemoryRead NvState.nvMemoryRead NvState.nvRange
  rw [InRegion] at h
  rw [if_neg h]

/-- Inside the region the changed status says whether a read would give something
else than the buffer. -/
theorem platNvGetChangedStatus_of_inRegion {p : PlatformImpl} {startOffset : UInt32}
    {data : List UInt8} (h : p.InRegion startOffset.toNat data.length) :
    p.platNvGetChangedStatus startOffset data =
      (if (p.platNvMemoryRead startOffset data).1.buffer = data then .int 0 else .int 1, p) := by
  rw [platNvMemoryRead_of_inRegion h]
  unfold platNvGetChangedStatus NvState.nvIsDifferent NvState.nvRange
  rw [InRegion] at h
  rw [if_pos h]
  by_cases hsame : window p.state.nvmem.region startOffset.toNat data.length = data
  · rw [if_pos hsame]
    simp [Except.map, hsame, Reply.bool]
  · rw [if_neg hsame]
    simp [Except.map, hsame, Reply.bool]

/-- Elsewhere it is `NV_INVALID_LOCATION`. -/
theorem platNvGetChangedStatus_of_not_inRegion {p : PlatformImpl} {startOffset : UInt32}
    {data : List UInt8} (h : ¬ p.InRegion startOffset.toNat data.length) :
    p.platNvGetChangedStatus startOffset data = (.int (-1), p) := by
  unfold platNvGetChangedStatus NvState.nvIsDifferent NvState.nvRange
  rw [InRegion] at h
  rw [if_neg h]
  rfl

/-! ## Overwriting -/

/-- A callback has overwritten the range from `startOffset` on with `bytes`: it reports
success, length and everything outside the range are unchanged, as is the rest of the
platform, and a read of the range returns the bytes. -/
structure Overwrites (p : PlatformImpl) (startOffset : UInt32) (bytes : List UInt8)
    (r : Reply × PlatformImpl) : Prop where
  reply : r.1 = .int 1
  frame : ∃ region, r.2 = p.withNvmem { p.state.nvmem with region := region }
  length_eq : r.2.state.nvmem.region.length = p.state.nvmem.region.length
  outside : ∀ i, i < startOffset.toNat ∨ startOffset.toNat + bytes.length ≤ i →
    r.2.state.nvmem.region[i]? = p.state.nvmem.region[i]?
  readBack : ∀ buf : List UInt8, buf.length = bytes.length →
    r.2.platNvMemoryRead startOffset buf = ({ value := 1, buffer := bytes }, r.2)

/-- A splice inside the region is such an overwriting. -/
theorem overwrites_splice {p : PlatformImpl} {startOffset : UInt32} {bytes : List UInt8}
    (h : p.InRegion startOffset.toNat bytes.length) :
    Overwrites p startOffset bytes (.bool true, p.withNvmem
      { p.state.nvmem with region := splice p.state.nvmem.region startOffset.toNat bytes }) where
  reply := rfl
  frame := ⟨_, rfl⟩
  length_eq := length_splice h
  outside := by
    intro i hi
    exact getElem?_splice_of_outside h hi
  readBack := by
    intro buf hbuf
    rw [platNvMemoryRead_of_inRegion]
    · rw [hbuf]
      congr 2
      exact window_splice h
    · rw [InRegion, hbuf]
      exact le_of_le_of_eq h (length_splice h).symm

/-- A write inside the region. -/
theorem platNvMemoryWrite_of_inRegion {p : PlatformImpl} {startOffset : UInt32}
    {data : List UInt8} (h : p.InRegion startOffset.toNat data.length) :
    Overwrites p startOffset data (p.platNvMemoryWrite startOffset data) := by
  rw [platNvMemoryWrite, NvState.nvMemoryWrite_of_le h]
  exact overwrites_splice h

/-- Any other write fails and changes nothing. -/
theorem platNvMemoryWrite_of_not_inRegion {p : PlatformImpl} {startOffset : UInt32}
    {data : List UInt8} (h : ¬ p.InRegion startOffset.toNat data.length) :
    p.platNvMemoryWrite startOffset data = (.int 0, p) := by
  rw [platNvMemoryWrite, NvState.nvMemoryWrite_of_gt (Nat.not_le.mp h)]
  rfl

/-- Clearing is writing zeros. -/
theorem platNvMemoryClear_eq (p : PlatformImpl) (start size : UInt32) :
    p.platNvMemoryClear start size =
      p.platNvMemoryWrite start (List.replicate size.toNat 0) := by
  rw [platNvMemoryClear, NvState.nvMemoryClear_eq_nvMemoryWrite]
  rfl

/-- Moving inside the region is writing what the source range held. -/
theorem platNvMemoryMove_of_inRegion {p : PlatformImpl} {sourceOffset destOffset size : UInt32}
    (hs : p.InRegion sourceOffset.toNat size.toNat)
    (hd : p.InRegion destOffset.toNat size.toNat) :
    p.platNvMemoryMove sourceOffset destOffset size =
      p.platNvMemoryWrite destOffset
        (window p.state.nvmem.region sourceOffset.toNat size.toNat) := by
  rw [platNvMemoryMove, NvState.nvMemoryMove_of_le hs hd]
  rfl

/-- Any other move fails and changes nothing. -/
theorem platNvMemoryMove_of_not_inRegion {p : PlatformImpl}
    {sourceOffset destOffset size : UInt32}
    (h : ¬ (p.InRegion sourceOffset.toNat size.toNat ∧ p.InRegion destOffset.toNat size.toNat)) :
    p.platNvMemoryMove sourceOffset destOffset size = (.int 0, p) := by
  have hout : p.state.nvmem.region.length < sourceOffset.toNat + size.toNat ∨
      p.state.nvmem.region.length < destOffset.toNat + size.toNat := by
    simp only [InRegion] at h
    omega
  obtain ⟨e, he⟩ := NvState.nvMemoryMove_of_gt p.state.nvmem _ _ _ hout
  rw [platNvMemoryMove, he]
  rfl

/-! ## All five -/

/-- The NV callbacks on the region of `p` are those of a bounds-checked byte array. -/
structure BoundsChecked (p : PlatformImpl) : Prop where
  read : ∀ (startOffset : UInt32) (data : List UInt8),
    p.platNvMemoryRead startOffset data =
      if p.InRegion startOffset.toNat data.length then
        ({ value := 1
           buffer := window p.state.nvmem.region startOffset.toNat data.length }, p)
      else ({ value := 0, buffer := List.replicate data.length 0 }, p)
  changedStatus : ∀ (startOffset : UInt32) (data : List UInt8),
    p.platNvGetChangedStatus startOffset data =
      (if p.InRegion startOffset.toNat data.length then
        if (p.platNvMemoryRead startOffset data).1.buffer = data then .int 0 else .int 1
      else .int (-1), p)
  write : ∀ (startOffset : UInt32) (data : List UInt8),
    if p.InRegion startOffset.toNat data.length then
      Overwrites p startOffset data (p.platNvMemoryWrite startOffset data)
    else p.platNvMemoryWrite startOffset data = (.int 0, p)
  clear : ∀ start size : UInt32,
    if p.InRegion start.toNat size.toNat then
      Overwrites p start (List.replicate size.toNat 0) (p.platNvMemoryClear start size)
    else p.platNvMemoryClear start size = (.int 0, p)
  move : ∀ sourceOffset destOffset size : UInt32,
    if p.InRegion sourceOffset.toNat size.toNat ∧ p.InRegion destOffset.toNat size.toNat then
      Overwrites p destOffset (window p.state.nvmem.region sourceOffset.toNat size.toNat)
        (p.platNvMemoryMove sourceOffset destOffset size)
    else p.platNvMemoryMove sourceOffset destOffset size = (.int 0, p)

/-- **NV accesses are bounds-checked.**  For every platform, whatever its region, and
all offsets, sizes and buffers: the five operations fail exactly if a range they are
given ends outside the region, and then leave it alone; otherwise they read or
overwrite that range and nothing else, a move with what its source range held before. -/
theorem nv_boundsChecked (p : PlatformImpl) : p.BoundsChecked where
  read := by
    intro startOffset data
    split_ifs with h
    · exact platNvMemoryRead_of_inRegion h
    · exact platNvMemoryRead_of_not_inRegion h
  changedStatus := by
    intro startOffset data
    split_ifs with h hsame
    · rw [platNvGetChangedStatus_of_inRegion h, if_pos hsame]
    · rw [platNvGetChangedStatus_of_inRegion h, if_neg hsame]
    · exact platNvGetChangedStatus_of_not_inRegion h
  write := by
    intro startOffset data
    split_ifs with h
    · exact platNvMemoryWrite_of_inRegion h
    · exact platNvMemoryWrite_of_not_inRegion h
  clear := by
    intro start size
    have hsize : (List.replicate size.toNat (0 : UInt8)).length = size.toNat :=
      List.length_replicate
    rw [platNvMemoryClear_eq]
    split_ifs with h
    · exact platNvMemoryWrite_of_inRegion (hsize.symm ▸ h)
    · exact platNvMemoryWrite_of_not_inRegion (hsize.symm ▸ h)
  move := by
    intro sourceOffset destOffset size
    split_ifs with h
    · have hsize : (window p.state.nvmem.region sourceOffset.toNat size.toNat).length =
          size.toNat := length_window h.1
      rw [platNvMemoryMove_of_inRegion h.1 h.2]
      exact platNvMemoryWrite_of_inRegion (hsize.symm ▸ h.2)
    · exact platNvMemoryMove_of_not_inRegion h

end PlatformImpl

end TpmPlatform
