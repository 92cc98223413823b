/-
# PCR initialization (`plat/api/pcr.rs`)

The attributes of the PCRs, packed into words as the TPM library expects them, and their
initial values.

`PcrAttributes.word_iff` : the words are in one-to-one correspondence with their fields.
`initial_value_contract` : which PCRs of which banks get an initial value, what it is, by the
attributes that are reported for the PCR, and what is left alone.
-/
import Mathlib.Data.Int.Notation
import TpmPlatform.BitFields

namespace TpmPlatform

open BitFields

/-! ## Attributes -/

/-- `PcrAttributes`, a bit field of 32 bits. -/
structure PcrAttributes where
  word : BitVec 32
  deriving DecidableEq

namespace PcrAttributes

/-- `state_save`. -/
def stateSave (a : PcrAttributes) : Bool := (field a.word 1 0).getLsbD 0

/-- `do_not_increment_pcr_counter`. -/
def doNotIncrementPcrCounter (a : PcrAttributes) : Bool := (field a.word 1 1).getLsbD 0

/-- `policy_auth_group`. -/
def policyAuthGroup (a : PcrAttributes) : BitVec 3 := field a.word 3 2

/-- `auth_values_group`. -/
def authValuesGroup (a : PcrAttributes) : BitVec 3 := field a.word 3 5

/-- `reset_locality`. -/
def resetLocality (a : PcrAttributes) : BitVec 5 := field a.word 5 8

/-- `extend_locality`. -/
def extendLocality (a : PcrAttributes) : BitVec 5 := field a.word 5 13

/-- The bits that have no name. -/
def padding (a : PcrAttributes) : BitVec 14 := field a.word 14 18

/-- `PcrAttributes::new`. -/
def new : PcrAttributes := ⟨0⟩

def withStateSave (a : PcrAttributes) (value : Bool) : PcrAttributes :=
  ⟨setField a.word 0 (BitVec.ofBool value)⟩

def withDoNotIncrementPcrCounter (a : PcrAttributes) (value : Bool) : PcrAttributes :=
  ⟨setField a.word 1 (BitVec.ofBool value)⟩

def withPolicyAuthGroup (a : PcrAttributes) (value : BitVec 3) : PcrAttributes :=
  ⟨setField a.word 2 value⟩

def withAuthValuesGroup (a : PcrAttributes) (value : BitVec 3) : PcrAttributes :=
  ⟨setField a.word 5 value⟩

def withResetLocality (a : PcrAttributes) (value : BitVec 5) : PcrAttributes :=
  ⟨setField a.word 8 value⟩

def withExtendLocality (a : PcrAttributes) (value : BitVec 5) : PcrAttributes :=
  ⟨setField a.word 13 value⟩

/-- `PcrAttributes::with`; a value that does not fit is refused by the compiler. -/
def withAll (stateSave doNotIncrementPcrCounter : Bool) (policyAuthGroup authValuesGroup : BitVec 3)
    (resetLocality extendLocality : BitVec 5) : PcrAttributes :=
  ((((((new.withStateSave stateSave).withDoNotIncrementPcrCounter doNotIncrementPcrCounter)
    ).withPolicyAuthGroup policyAuthGroup).withAuthValuesGroup authValuesGroup
    ).withResetLocality resetLocality).withExtendLocality extendLocality

end PcrAttributes

/-- `NUM_PCRS`. -/
def numPcrs : UInt32 := 24

/-- `INIT_ATTRIBUTES`. -/
def initAttributes : List PcrAttributes :=
  -- static RTM
  List.replicate 16 (.withAll true false 0 0 0 0x1F) ++
  [.withAll false false 0 0 0x0F 0x1F,
    .withAll false false 0 0 0x10 0x1C,
    .withAll false false 0 0 0x10 0x1C,
    .withAll false false 0 0 0x10 0x0C,
    .withAll false true 1 1 0x14 0x0E,
    .withAll false true 1 1 0x14 0x04,
    .withAll false true 1 1 0x14 0x04,
    .withAll false false 0 0 0x0F 0x1F]

/-- Every PCR has its attributes. -/
theorem length_initAttributes : initAttributes.length = numPcrs.toNat := by
  rfl

/-- The attributes of a PCR. -/
def attributesOf (pcrNumber : UInt32) (h : pcrNumber < numPcrs) : PcrAttributes :=
  initAttributes.get ⟨pcrNumber.toNat, length_initAttributes ▸ UInt32.lt_iff_toNat_lt.mp h⟩

/-! ## Banks -/

/-- `DEFAULT_ACTIVE_PCR_BANKS`, SHA-256 and SHA-384. -/
def defaultActivePcrBanks : List UInt16 := [0x000B, 0x000C]

/-- `digest_size`. -/
def digestSize (alg : UInt16) : Option UInt16 :=
  if alg = 0x0004 then some 20
  else if alg = 0x000B then some 32
  else if alg = 0x000C then some 48
  else if alg = 0x000D then some 64
  else none

/-! ## Callbacks -/

/-- `_platPcr__NumberOfPcrs`. -/
def platPcrNumberOfPcrs : UInt32 := numPcrs

/-- `_platPcr__GetPcrInitializationAttributes`; out of range it is those of PCR 0. -/
def platPcrGetPcrInitializationAttributes (pcrNumber : UInt32) : BitVec 32 :=
  if h : pcrNumber < numPcrs then (attributesOf pcrNumber h).word
  else (attributesOf 0 (by decide)).word

/-- `_platPcr_IsPcrBankDefaultActive`. -/
def platPcrIsPcrBankDefaultActive (pcrAlg : UInt16) : ℤ :=
  if pcrAlg ∈ defaultActivePcrBanks then 1 else 0

/-- What `_platPcr__GetInitialValueForPcr` leaves behind: its answer, and what the two
pointers point to, if they are not null. -/
structure InitialValue where
  code : UInt32
  pcrBuffer : Option (List UInt8)
  pcrLength : Option UInt16
  deriving DecidableEq

/-- `TPM_RC_SUCCESS`. -/
def tpmRcSuccess : UInt32 := 0x000

/-- `TPM_RC_PCR`. -/
def tpmRcPcr : UInt32 := 0x127

/-- `TPM_RC_FAILURE`. -/
def tpmRcFailure : UInt32 := 0x101

/-- `HCRTM_PCR`. -/
def hcrtmPcr : UInt32 := 0

/-- The bytes that a PCR starts with. -/
def initialDigest (pcrNumber : UInt32) (h : pcrNumber < numPcrs) (startupLocality : UInt8)
    (pcrSize : UInt16) : List UInt8 :=
  let defaultByte : UInt8 :=
    if (attributesOf pcrNumber h).resetLocality &&& 0x10 ≠ 0 then 0xFF else 0x00
  let digest := List.replicate pcrSize.toNat defaultByte
  if pcrNumber = hcrtmPcr then digest.set (pcrSize - 1).toNat startupLocality else digest

/-- `_platPcr__GetInitialValueForPcr`. -/
def platPcrGetInitialValueForPcr (pcrNumber : UInt32) (pcrAlg : UInt16) (startupLocality : UInt8)
    (pcrBuffer : Option (List UInt8)) (bufferSize : UInt16) (pcrLength : Option UInt16) :
    InitialValue :=
  if h : pcrNumber < numPcrs then
    match pcrBuffer, pcrLength with
    | some buffer, some _ =>
      match digestSize pcrAlg with
      | none => ⟨tpmRcPcr, pcrBuffer, some 0⟩
      | some pcrSize =>
        if bufferSize < pcrSize then ⟨tpmRcFailure, pcrBuffer, pcrLength⟩
        else
          ⟨tpmRcSuccess, some (initialDigest pcrNumber h startupLocality pcrSize ++
            buffer.drop pcrSize.toNat), some pcrSize⟩
    | _, _ => ⟨tpmRcFailure, pcrBuffer, pcrLength⟩
  else ⟨tpmRcFailure, pcrBuffer, pcrLength⟩

/-! ## Words and their fields -/

namespace PcrAttributes

/-- The fields of a word that has been put together. -/
theorem fields_withAll (s d : Bool) (p v : BitVec 3) (r e : BitVec 5) :
    (withAll s d p v r e).stateSave = s ∧
    (withAll s d p v r e).doNotIncrementPcrCounter = d ∧
    (withAll s d p v r e).policyAuthGroup = p ∧
    (withAll s d p v r e).authValuesGroup = v ∧
    (withAll s d p v r e).resetLocality = r ∧
    (withAll s d p v r e).extendLocality = e ∧
    (withAll s d p v r e).padding = 0 := by
  have hbit : ∀ b : Bool, (BitVec.ofBool b).getLsbD 0 = b := by decide
  have hnew : field (0 : BitVec 32) 14 18 = 0 := by decide
  simp (disch := decide) only [withAll, stateSave, doNotIncrementPcrCounter, policyAuthGroup,
    authValuesGroup, resetLocality, extendLocality, padding, withStateSave,
    withDoNotIncrementPcrCounter, withPolicyAuthGroup, withAuthValuesGroup, withResetLocality,
    withExtendLocality, new, field_setField_of_apart, field_setField, hbit, hnew, and_self]

/-- The places of the fields. -/
def places : List (ℕ × ℕ) := [(1, 0), (1, 1), (3, 2), (3, 5), (5, 8), (5, 13), (14, 18)]

/-- Fields of one bit. -/
theorem field_one_eq {x y : BitVec 32} {offset : ℕ}
    (h : (field x 1 offset).getLsbD 0 = (field y 1 offset).getLsbD 0) :
    field x 1 offset = field y 1 offset := by
  apply BitVec.eq_of_getLsbD_eq
  intro i hi
  obtain rfl : i = 0 := by omega
  exact h

/-- **A word is put together from its fields.** -/
theorem withAll_fields {a : PcrAttributes} (h : a.padding = 0) :
    withAll a.stateSave a.doNotIncrementPcrCounter a.policyAuthGroup a.authValuesGroup
      a.resetLocality a.extendLocality = a := by
  obtain ⟨hs, hd, hp, hv, hr, he, hpad⟩ := fields_withAll a.stateSave a.doNotIncrementPcrCounter
    a.policyAuthGroup a.authValuesGroup a.resetLocality a.extendLocality
  have hcover : ∀ i < 32, ∃ f ∈ places, f.2 ≤ i ∧ i < f.2 + f.1 := by decide
  refine congrArg PcrAttributes.mk (eq_of_fields places hcover ?_)
  rw [places]
  simp only [List.forall_mem_cons]
  exact ⟨field_one_eq hs, field_one_eq hd, hp, hv, hr, he, hpad.trans h.symm,
    fun _ hf => absurd hf List.not_mem_nil⟩

/-- **Words and fields.**  A word without padding is put together from fields in one way. -/
theorem word_iff (a : PcrAttributes) :
    a.padding = 0 ↔ ∃! f : Bool × Bool × BitVec 3 × BitVec 3 × BitVec 5 × BitVec 5,
      withAll f.1 f.2.1 f.2.2.1 f.2.2.2.1 f.2.2.2.2.1 f.2.2.2.2.2 = a := by
  constructor
  · intro hpad
    refine ⟨(a.stateSave, a.doNotIncrementPcrCounter, a.policyAuthGroup, a.authValuesGroup,
      a.resetLocality, a.extendLocality), withAll_fields hpad, ?_⟩
    rintro ⟨s, d, p, v, r, e⟩ rfl
    obtain ⟨hs, hd, hp, hv, hr, he, -⟩ := fields_withAll s d p v r e
    rw [hs, hd, hp, hv, hr, he]
  · rintro ⟨⟨s, d, p, v, r, e⟩, rfl, -⟩
    exact (fields_withAll s d p v r e).2.2.2.2.2.2

end PcrAttributes

/-- What holds of every row of the table, holds of every PCR. -/
theorem attributesOf_mem (pcrNumber : UInt32) (h : pcrNumber < numPcrs) :
    attributesOf pcrNumber h ∈ initAttributes :=
  List.get_mem initAttributes _

/-- What is saved over a restart of the TPM, cannot be reset without one. -/
theorem resetLocality_of_stateSave (pcrNumber : UInt32) (h : pcrNumber < numPcrs) :
    (attributesOf pcrNumber h).stateSave = true → (attributesOf pcrNumber h).resetLocality = 0 := by
  have hrows : ∀ a ∈ initAttributes, a.stateSave = true → a.resetLocality = 0 := by decide
  exact hrows _ (attributesOf_mem pcrNumber h)

/-- A mask of localities, by its bits. -/
theorem and_mask_ne_zero_iff (localities : BitVec 5) :
    localities &&& 0x10 ≠ 0 ↔ localities.getLsbD 4 = true := by
  revert localities
  decide

/-- Locality 4 is bit 12 of the word that is reported. -/
theorem resetLocality_iff (pcrNumber : UInt32) (h : pcrNumber < numPcrs) :
    (attributesOf pcrNumber h).resetLocality &&& 0x10 ≠ 0 ↔
      (platPcrGetPcrInitializationAttributes pcrNumber).getLsbD 12 = true := by
  rw [and_mask_ne_zero_iff, PcrAttributes.resetLocality, getLsbD_field _ (by decide),
    platPcrGetPcrInitializationAttributes, dif_pos h]

/-! ## Initial values -/

/-- Every digest has bytes. -/
theorem digestSize_pos {alg size : UInt16} (h : digestSize alg = some size) : 0 < size.toNat := by
  rw [digestSize] at h
  split_ifs at h
  all_goals
    obtain rfl := Option.some.inj h
    decide

/-- A bank that is active from the start has an initial value. -/
theorem digestSize_of_defaultActive {alg : UInt16} (h : platPcrIsPcrBankDefaultActive alg = 1) :
    ∃ size, digestSize alg = some size := by
  have hmem : alg ∈ defaultActivePcrBanks := by
    by_contra hnot
    rw [platPcrIsPcrBankDefaultActive, if_neg hnot] at h
    cases h
  rcases List.mem_cons.mp hmem with rfl | hmem
  · exact ⟨32, by decide⟩
  · obtain rfl := List.mem_singleton.mp hmem
    exact ⟨48, by decide⟩

theorem length_initialDigest (pcrNumber : UInt32) (h : pcrNumber < numPcrs) (loc : UInt8)
    (size : UInt16) : (initialDigest pcrNumber h loc size).length = size.toNat := by
  rw [initialDigest]
  split_ifs
  all_goals simp only [List.length_set, List.length_replicate]

/-- The byte that a PCR starts with at a place of its digest. -/
def initialByte (pcrNumber : UInt32) (startupLocality : UInt8) (size i : ℕ) : UInt8 :=
  if pcrNumber = hcrtmPcr ∧ i + 1 = size then startupLocality
  else if (platPcrGetPcrInitializationAttributes pcrNumber).getLsbD 12 then 0xFF
  else 0x00

/-- **What a PCR starts with**, by the attributes that are reported for it. -/
theorem getElem?_initialDigest (pcrNumber : UInt32) (h : pcrNumber < numPcrs) (loc : UInt8)
    {size : UInt16} (hsize : 0 < size.toNat) {i : ℕ} (hi : i < size.toNat) :
    (initialDigest pcrNumber h loc size)[i]? =
      some (initialByte pcrNumber loc size.toNat i) := by
  have hlast : (size - 1).toNat = size.toNat - 1 := by
    have hle : (1 : UInt16) ≤ size := UInt16.le_iff_toNat_le.mpr hsize
    rw [UInt16.toNat_sub_of_le _ _ hle]
    rfl
  have hdefault : ∀ b : UInt8, (List.replicate size.toNat b)[i]? = some b := by
    intro b
    rw [List.getElem?_replicate, if_pos hi]
  have hbyte : (if (attributesOf pcrNumber h).resetLocality &&& 0x10 ≠ 0 then (0xFF : UInt8)
      else 0x00) = if (platPcrGetPcrInitializationAttributes pcrNumber).getLsbD 12 then 0xFF
        else 0x00 := by
    simp only [resetLocality_iff]
  rw [initialDigest, initialByte, hbyte, hlast]
  by_cases hpcr : pcrNumber = hcrtmPcr
  · rw [if_pos hpcr, List.getElem?_set, List.length_replicate, hdefault]
    by_cases hplace : i + 1 = size.toNat
    · rw [if_pos (by omega), if_pos (by omega), if_pos ⟨hpcr, hplace⟩]
    · rw [if_neg (by omega)]
      exact congrArg some (if_neg fun hc => hplace hc.2).symm
  · rw [if_neg hpcr, hdefault]
    exact congrArg some (if_neg fun hc => hpcr hc.1).symm

/-- What has to be there for an initial value: the PCR, its bank, and room for the digest. -/
structure HasInitialValue (pcrNumber : UInt32) (pcrAlg : UInt16)
    (pcrBuffer : Option (List UInt8)) (bufferSize : UInt16) (pcrLength : Option UInt16)
    (buffer : List UInt8) (size : UInt16) : Prop where
  inRange : pcrNumber < platPcrNumberOfPcrs
  buffer : pcrBuffer = some buffer
  length : pcrLength.isSome = true
  bank : digestSize pcrAlg = some size
  room : size ≤ bufferSize

section

variable {pcrNumber : UInt32} {pcrAlg : UInt16} {startupLocality : UInt8}
  {pcrBuffer : Option (List UInt8)} {bufferSize : UInt16} {pcrLength : Option UInt16}

/-- With all this the digest is written. -/
theorem initialValue_of_has {buffer : List UInt8} {size : UInt16}
    (h : HasInitialValue pcrNumber pcrAlg pcrBuffer bufferSize pcrLength buffer size) :
    platPcrGetInitialValueForPcr pcrNumber pcrAlg startupLocality pcrBuffer bufferSize pcrLength =
      { code := tpmRcSuccess
        pcrBuffer := some (initialDigest pcrNumber h.inRange startupLocality size ++
          buffer.drop size.toNat)
        pcrLength := some size } := by
  obtain ⟨length, rfl⟩ := Option.isSome_iff_exists.mp h.length
  obtain rfl := h.buffer
  have hrange : pcrNumber < numPcrs := h.inRange
  rw [platPcrGetInitialValueForPcr, dif_pos hrange]
  dsimp only
  rw [h.bank]
  exact if_neg (UInt16.not_lt.mpr h.room)

/-- Without it the buffer is left alone, and at most the length becomes 0. -/
theorem initialValue_of_not_has
    (h : ¬ ∃ buffer size,
      HasInitialValue pcrNumber pcrAlg pcrBuffer bufferSize pcrLength buffer size) :
    let after := platPcrGetInitialValueForPcr pcrNumber pcrAlg startupLocality pcrBuffer bufferSize
      pcrLength
    after.pcrBuffer = pcrBuffer ∧
      (after.code = tpmRcFailure ∧ after.pcrLength = pcrLength ∨
        after.code = tpmRcPcr ∧ digestSize pcrAlg = none ∧ pcrNumber < platPcrNumberOfPcrs ∧
          after.pcrLength = some 0) := by
  rw [platPcrGetInitialValueForPcr]
  split_ifs with hrange
  · cases pcrBuffer with
    | none => exact ⟨rfl, .inl ⟨rfl, rfl⟩⟩
    | some buffer =>
        cases pcrLength with
        | none => exact ⟨rfl, .inl ⟨rfl, rfl⟩⟩
        | some length =>
            dsimp only
            cases hbank : digestSize pcrAlg with
            | none => exact ⟨rfl, .inr ⟨rfl, rfl, hrange, rfl⟩⟩
            | some size =>
                by_cases hroom : bufferSize < size
                · dsimp only
                  rw [if_pos hroom]
                  exact ⟨rfl, .inl ⟨rfl, rfl⟩⟩
                · exact absurd ⟨buffer, size, hrange, rfl, rfl, hbank, UInt16.not_lt.mp hroom⟩ h
  · exact ⟨rfl, .inl ⟨rfl, rfl⟩⟩

/-- **Initial values.**  A PCR gets one exactly if it is there, its bank is one of the four
with a digest, and the digest fits; then exactly the bytes of the digest are written, as the
attributes that are reported for the PCR demand.  Otherwise the buffer is left alone. -/
theorem initial_value_contract (pcrNumber : UInt32) (pcrAlg : UInt16) (startupLocality : UInt8)
    (pcrBuffer : Option (List UInt8)) (bufferSize : UInt16) (pcrLength : Option UInt16)
    (hbuffer : ∀ buffer ∈ pcrBuffer, bufferSize.toNat ≤ buffer.length) :
    let after := platPcrGetInitialValueForPcr pcrNumber pcrAlg startupLocality pcrBuffer bufferSize
      pcrLength
    (after.code = tpmRcSuccess ↔ ∃ buffer size,
      HasInitialValue pcrNumber pcrAlg pcrBuffer bufferSize pcrLength buffer size) ∧
    (after.code ≠ tpmRcSuccess → after.pcrBuffer = pcrBuffer ∧
      (after.code = tpmRcFailure ∧ after.pcrLength = pcrLength ∨
        after.code = tpmRcPcr ∧ digestSize pcrAlg = none ∧ after.pcrLength = some 0)) ∧
    ∀ buffer size, HasInitialValue pcrNumber pcrAlg pcrBuffer bufferSize pcrLength buffer size →
      after.pcrLength = some size ∧ ∃ filled, after.pcrBuffer = some filled ∧
        filled.length = buffer.length ∧
        ∀ i, filled[i]? = if i < size.toNat then
          some (initialByte pcrNumber startupLocality size.toNat i) else buffer[i]? := by
  intro after
  have hhas : ∀ buffer size, HasInitialValue pcrNumber pcrAlg pcrBuffer bufferSize pcrLength buffer
      size → after.code = tpmRcSuccess := by
    intro buffer size h
    exact congrArg InitialValue.code (initialValue_of_has h)
  have hcode : after.code = tpmRcSuccess ↔ ∃ buffer size,
      HasInitialValue pcrNumber pcrAlg pcrBuffer bufferSize pcrLength buffer size := by
    constructor
    · intro hsuccess
      by_contra hnot
      obtain ⟨-, ⟨hfail, -⟩ | ⟨hpcr, -⟩⟩ := initialValue_of_not_has hnot
      · exact absurd (hsuccess.symm.trans hfail) (by decide)
      · exact absurd (hsuccess.symm.trans hpcr) (by decide)
    · rintro ⟨buffer, size, h⟩
      exact hhas buffer size h
  refine ⟨hcode, ?_, ?_⟩
  · intro hfailed
    obtain ⟨hsame, ⟨hfail, hlength⟩ | ⟨hpcr, hbank, -, hlength⟩⟩ :=
      initialValue_of_not_has fun h => hfailed (hcode.mpr h)
    · exact ⟨hsame, .inl ⟨hfail, hlength⟩⟩
    · exact ⟨hsame, .inr ⟨hpcr, hbank, hlength⟩⟩
  · intro buffer size h
    have hafter : after = _ := initialValue_of_has h
    have hroom : size.toNat ≤ buffer.length :=
      Nat.le_trans (UInt16.le_iff_toNat_le.mp h.room) (hbuffer buffer h.buffer)
    have hdigest := length_initialDigest pcrNumber h.inRange startupLocality size
    rw [hafter]
    refine ⟨rfl, _, rfl, ?_, ?_⟩
    · rw [List.length_append, hdigest, List.length_drop]
      omega
    · intro i
      split_ifs with hi
      · rw [List.getElem?_append_left (by rwa [hdigest])]
        exact getElem?_initialDigest pcrNumber h.inRange startupLocality (digestSize_pos h.bank) hi
      · rw [List.getElem?_append_right (by rw [hdigest]; exact Nat.not_lt.mp hi), hdigest,
          List.getElem?_drop, Nat.add_sub_cancel' (Nat.not_lt.mp hi)]

end

/-- PCR 17 of the SHA-256 bank, which only a dynamic launch resets, starts with ones. -/
theorem initial_value_contract_seventeen :
    (platPcrGetInitialValueForPcr 17 0x000B 3 (some (List.replicate 40 7)) 40 (some 0)).code =
      tpmRcSuccess ∧
    (platPcrGetInitialValueForPcr 17 0x000B 3 (some (List.replicate 40 7)) 40 (some 0)).pcrLength =
      some 32 := by
  obtain ⟨hcode, -, hfilled⟩ := initial_value_contract 17 0x000B 3 (some (List.replicate 40 7)) 40
    (some 0) (by
      intro buffer hbuffer
      obtain rfl := Option.some.inj hbuffer
      decide)
  have hhas : HasInitialValue 17 0x000B (some (List.replicate 40 7)) 40 (some 0)
      (List.replicate 40 7) 32 :=
    ⟨by decide, rfl, rfl, by decide, by decide⟩
  exact ⟨hcode.mpr ⟨_, _, hhas⟩, (hfilled _ _ hhas).1⟩

end TpmPlatform
