/-
# The symbols of the crate (`plat/api/*.rs`, `plat/mod.rs`, `tpmlib_state.rs`)

The Rust side has the prefix fixed in its attributes: it exports the platform callbacks as
`ms_tcg_tpm_185__plat*`, and imports five functions of the library.

`crate_links_iff` : a binary of the namespaced archives, the crate and anything without the
prefix is complete exactly if the archives call no callback that neither side has, and define
the five functions.
-/
import TpmPlatform.SideBySide

open Linking

namespace TpmPlatform.Symbols

/-! ## The attributes -/

/-- The names in the attributes `export_name`. -/
def exportNames : List Str :=
  ["ms_tcg_tpm_185__plat__IsCanceled".toList,
    "ms_tcg_tpm_185__plat__TimerRead".toList,
    "ms_tcg_tpm_185__plat__TimerWasReset".toList,
    "ms_tcg_tpm_185__plat__TimerWasStopped".toList,
    "ms_tcg_tpm_185__plat__ClockRateAdjust".toList,
    "ms_tcg_tpm_185__plat__GetEntropy".toList,
    "ms_tcg_tpm_185__plat__Fail".toList,
    "ms_tcg_tpm_185__plat__InFailureMode".toList,
    "ms_tcg_tpm_185__plat__GetFailureCode".toList,
    "ms_tcg_tpm_185__plat__GetFailureLocation".toList,
    "ms_tcg_tpm_185__plat__StartTpmInit".toList,
    "ms_tcg_tpm_185__plat__EndOkTpmInit".toList,
    "ms_tcg_tpm_185__plat__LocalityGet".toList,
    "ms_tcg_tpm_185__plat__IsNvVirtualIndex".toList,
    "ms_tcg_tpm_185__plat__NvOperationAcceptsVirtualHandles".toList,
    "ms_tcg_tpm_185__plat__NvVirtual_PopulateNvIndexInfo".toList,
    "ms_tcg_tpm_185__plat__NvVirtual_Read".toList,
    "ms_tcg_tpm_185__plat__NvVirtual_ReadPublic".toList,
    "ms_tcg_tpm_185__plat__NvVirtual_CapGetIndex".toList,
    "ms_tcg_tpm_185__plat__NVEnable".toList,
    "ms_tcg_tpm_185__plat__GetNvReadyState".toList,
    "ms_tcg_tpm_185__plat__NvMemoryRead".toList,
    "ms_tcg_tpm_185__plat__NvGetChangedStatus".toList,
    "ms_tcg_tpm_185__plat__NvMemoryWrite".toList,
    "ms_tcg_tpm_185__plat__NvMemoryClear".toList,
    "ms_tcg_tpm_185__plat__NvMemoryMove".toList,
    "ms_tcg_tpm_185__plat__NvCommit".toList,
    "ms_tcg_tpm_185__plat__TearDown".toList,
    "ms_tcg_tpm_185__platPcr__NumberOfPcrs".toList,
    "ms_tcg_tpm_185__platPcr__GetPcrInitializationAttributes".toList,
    "ms_tcg_tpm_185__platPcr_IsPcrBankDefaultActive".toList,
    "ms_tcg_tpm_185__platPcr__GetInitialValueForPcr".toList,
    "ms_tcg_tpm_185__plat__WasPowerLost".toList,
    "ms_tcg_tpm_185__plat__PhysicalPresenceAsserted".toList,
    "ms_tcg_tpm_185__plat_GetEnabledSelfTest".toList,
    "ms_tcg_tpm_185__plat__GetManufacturerCapabilityCode".toList,
    "ms_tcg_tpm_185__plat__GetVendorCapabilityCode".toList,
    "ms_tcg_tpm_185__plat__GetTpmFirmwareVersionHigh".toList,
    "ms_tcg_tpm_185__plat__GetTpmFirmwareVersionLow".toList,
    "ms_tcg_tpm_185__plat__GetVendorTpmType".toList,
    "ms_tcg_tpm_185__plat__GetTpmFirmwareSvn".toList,
    "ms_tcg_tpm_185__plat__GetTpmFirmwareMaxSvn".toList,
    "ms_tcg_tpm_185__plat__GetPlatformManufactureData".toList,
    "ms_tcg_tpm_185__plat_GetSpecCapabilityValue".toList]

/-- The names in the attributes `link_name`. -/
def linkNames : List Str :=
  ["ms_tcg_tpm_185__TPM_Init".toList,
    "ms_tcg_tpm_185_TPM_Manufacture".toList,
    "ms_tcg_tpm_185_ExecuteCommand".toList,
    "ms_tcg_tpm_185_INJECTED_GetRuntimeState".toList,
    "ms_tcg_tpm_185_INJECTED_ApplyRuntimeState".toList]

/-- The crate; `others` are the names from elsewhere that it refers to, such as those of the
crypto library. -/
def crateObject (others : Finset Str) : Object Str where
  defines := exportNames.toFinset
  references := linkNames.toFinset ∪ others

/-- Every exported name is the new name of a callback. -/
theorem exists_callback {name : Str} (h : name ∈ exportNames) :
    ∃ callback, name = symbolPrefix ++ callback ∧ platformSymbolPrefix <+: callback := by
  have hall : exportNames.all (fun name =>
      decide (symbolPrefix ++ platformSymbolPrefix <+: name)) = true := by decide +kernel
  obtain ⟨rest, rfl⟩ := of_decide_eq_true (List.all_eq_true.mp hall name h)
  exact ⟨platformSymbolPrefix ++ rest, List.append_assoc .., List.prefix_append ..⟩

/-- Every imported name is the new name of a function that is renamed, and no callback. -/
theorem exists_function {name : Str} (h : name ∈ linkNames) :
    ∃ function, name = symbolPrefix ++ function ∧ isRenamed function = true ∧
      ¬ platformSymbolPrefix <+: function := by
  have hall : linkNames.all (fun name => decide (symbolPrefix <+: name) &&
      isRenamed (name.drop symbolPrefix.length) &&
        decide (¬ platformSymbolPrefix <+: name.drop symbolPrefix.length)) = true := by
    decide +kernel
  have hname := List.all_eq_true.mp hall name h
  rw [Bool.and_eq_true, Bool.and_eq_true, decide_eq_true_eq, decide_eq_true_eq] at hname
  exact ⟨_, (List.prefix_iff_eq_append.mp hname.1.1).symm, hname.1.2, hname.2⟩

/-- What is imported is not exported. -/
theorem linkNames_disjoint_exportNames {name : Str} (h : name ∈ linkNames) :
    name ∉ exportNames := by
  intro hexport
  obtain ⟨function, rfl, -, hfunction⟩ := exists_function h
  obtain ⟨callback, hsame, hcallback⟩ := exists_callback hexport
  exact hfunction (List.append_cancel_left hsame ▸ hcallback)

/-- The crate keeps to its side, if what it refers to elsewhere is not of the TPM. -/
theorem rustSide_crateObject {archives : List Archive} (hplain : AllPlain archives)
    {others : Finset Str} (hothers : ∀ name ∈ others, ¬ TpmName archives name) :
    RustSide archives (crateObject others) := by
  constructor
  · intro name hname
    obtain ⟨callback, rfl, -⟩ := exists_callback (List.mem_toFinset.mp hname)
    exact List.prefix_append symbolPrefix callback
  · intro name hname htpm
    rcases Finset.mem_union.mp hname with hlink | hmem
    · obtain ⟨function, rfl, -⟩ := exists_function (List.mem_toFinset.mp hlink)
      exact htpm.not_prefixed hplain (List.prefix_append symbolPrefix function)
    · exact hothers name hmem htpm

/-! ## What the archives have to provide -/

/-- The archives call no callback that is nowhere, and define the functions of the TPM that
the crate calls. -/
structure Provides (archives : List Archive) : Prop where
  callbacks : ∀ name, Referenced archives name → isCIdentifier name = true →
    platformSymbolPrefix <+: name → Defined archives name ∨ symbolPrefix ++ name ∈ exportNames
  functions : ∀ name, symbolPrefix ++ name ∈ linkNames → Defined archives name

section

variable {archives : List Archive} {file : Str} {table : List (Str × Str)}

/-- A name with the prefix in a copy is the new name of one that was there. -/
theorem Namespaced.mem_of_mem_image (hspaced : Namespaced archives file table)
    (hplain : AllPlain archives) {old new : Finset Str} {name : Str}
    (hold : ∀ x ∈ old, x ∈ names (objects archives)) (hnew : new = old.image (redefine table))
    (h : symbolPrefix ++ name ∈ new) :
    name ∈ old ∧ redefine table name = symbolPrefix ++ name := by
  rw [hnew] at h
  obtain ⟨x, hx, hredefine⟩ := Finset.mem_image.mp h
  by_cases hsame : redefine table x = x
  · -- before, no name had the prefix
    rw [hsame] at hredefine
    exact absurd (hredefine ▸ List.prefix_append symbolPrefix name)
      (hplain.plain (hold x hx)).not_prefixed
  · obtain rfl := List.append_cancel_left ((hspaced.changed x hsame).symm.trans hredefine)
    exact ⟨hx, hredefine⟩

/-- The copies define the new names of what the archives define. -/
theorem Namespaced.exists_defines_iff (hspaced : Namespaced archives file table)
    (hplain : AllPlain archives) {name : Str} (hname : isRenamed name = true) :
    (∃ copied ∈ (objects archives).map (Object.rename (redefine table)),
      symbolPrefix ++ name ∈ copied.defines) ↔ Defined archives name := by
  constructor
  · rintro ⟨copied, hcopied, hdef⟩
    obtain ⟨object, hobject, rfl⟩ := List.mem_map.mp hcopied
    obtain ⟨archive, harchive, rfl⟩ := List.mem_map.mp hobject
    have hold : ∀ x ∈ archive.symbols.defines, x ∈ names (objects archives) :=
      fun x hx => ⟨_, hobject, .inl hx⟩
    exact ⟨archive, harchive, (hspaced.mem_of_mem_image hplain hold rfl hdef).1⟩
  · rintro hdefined
    obtain ⟨archive, harchive, hdef⟩ := id hdefined
    obtain ⟨hident, hsym⟩ := isRenamed_iff.mp hname
    refine ⟨_, List.mem_map_of_mem (List.mem_map_of_mem harchive), ?_⟩
    rw [← hspaced.defined name hdefined hident hsym]
    exact Finset.mem_image_of_mem (redefine table) hdef

/-- A reference of a copy under a name with the prefix is one of the archives: to what they
define, or to a callback. -/
theorem Namespaced.exists_references_iff (hspaced : Namespaced archives file table)
    (hplain : AllPlain archives) {name : Str} :
    (∃ copied ∈ (objects archives).map (Object.rename (redefine table)),
      symbolPrefix ++ name ∈ copied.references) ↔
      Referenced archives name ∧ TpmName archives name := by
  constructor
  · rintro ⟨copied, hcopied, href⟩
    obtain ⟨object, hobject, rfl⟩ := List.mem_map.mp hcopied
    obtain ⟨archive, harchive, rfl⟩ := List.mem_map.mp hobject
    have hold : ∀ x ∈ archive.symbols.references, x ∈ names (objects archives) :=
      fun x hx => ⟨_, hobject, .inr hx⟩
    obtain ⟨hreferenced, hredefine⟩ := hspaced.mem_of_mem_image hplain hold rfl href
    have hchanged : redefine table name ≠ name := by
      rw [hredefine]
      exact fun hsame => absurd (List.append_left_eq_self.mp hsame) (by decide)
    refine ⟨⟨archive, harchive, hreferenced⟩, ?_⟩
    rcases (hspaced.undefined name ⟨archive, harchive, hreferenced⟩).mp hchanged with
      ⟨archive', harchive', hdef, hident, hsym⟩ | ⟨hident, hplat⟩
    · exact ⟨isRenamed_iff.mpr ⟨hident, hsym⟩, .inl ⟨archive', harchive', hdef⟩⟩
    · exact ⟨isRenamed_iff.mpr ⟨hident, not_symCrypt_of_platform hplat⟩, .inr hplat⟩
  · rintro ⟨⟨archive, harchive, href⟩, hname⟩
    refine ⟨_, List.mem_map_of_mem (List.mem_map_of_mem harchive), ?_⟩
    rw [← hspaced.redefine_tpmName ⟨_, List.mem_map_of_mem harchive, .inr href⟩ hname]
    exact Finset.mem_image_of_mem (redefine table) href

/-! ## The binary -/

variable {copies : List (String × Object Str)} {others : Finset Str} {other : List (Object Str)}

/-- What has the prefix in the binary, is in a copy or in the crate. -/
theorem exists_mem_binary_iff {P : Object Str → Prop} (hother : ∀ object ∈ other, ¬ P object) :
    (∃ object ∈ binary copies (crateObject others) other, P object) ↔
      (∃ copied ∈ copies.map Prod.snd, P copied) ∨ P (crateObject others) := by
  rw [binary]
  simp only [List.mem_append, List.mem_cons, or_and_right, exists_or, exists_eq_left]
  refine or_congr_right (or_iff_left ?_)
  rintro ⟨object, hmem, h⟩
  exact hother object hmem h

/-- **What is left undefined** under a name with the prefix. -/
theorem Namespaced.undefined_binary_iff (hspaced : Namespaced archives file table)
    (hplain : AllPlain archives)
    (hcopies : copies.map Prod.snd = (objects archives).map (Object.rename (redefine table)))
    (hothers : ∀ name ∈ others, ¬ symbolPrefix <+: name)
    (hother : ∀ name ∈ names other, ¬ symbolPrefix <+: name) {name : Str} :
    Undefined (binary copies (crateObject others) other) (symbolPrefix ++ name) ↔
      (Referenced archives name ∧ TpmName archives name ∨ symbolPrefix ++ name ∈ linkNames) ∧
        ¬ Defined archives name ∧ symbolPrefix ++ name ∉ exportNames := by
  have hprefixed : symbolPrefix <+: symbolPrefix ++ name := List.prefix_append symbolPrefix name
  have hreferences : (∃ object ∈ binary copies (crateObject others) other,
      symbolPrefix ++ name ∈ object.references) ↔
      Referenced archives name ∧ TpmName archives name ∨ symbolPrefix ++ name ∈ linkNames := by
    rw [exists_mem_binary_iff fun object hmem href => hother _ ⟨object, hmem, .inr href⟩ hprefixed,
      hcopies, hspaced.exists_references_iff hplain, crateObject, Finset.mem_union,
      List.mem_toFinset]
    exact or_congr_right (or_iff_left fun hmem => hothers _ hmem hprefixed)
  have hdefines : (∃ object ∈ binary copies (crateObject others) other,
      symbolPrefix ++ name ∈ object.defines) ↔
      (∃ copied ∈ (objects archives).map (Object.rename (redefine table)),
        symbolPrefix ++ name ∈ copied.defines) ∨ symbolPrefix ++ name ∈ exportNames := by
    rw [exists_mem_binary_iff fun object hmem hdef => hother _ ⟨object, hmem, .inl hdef⟩ hprefixed,
      hcopies, crateObject, List.mem_toFinset]
  have hrenamed : Referenced archives name ∧ TpmName archives name ∨
      symbolPrefix ++ name ∈ linkNames → isRenamed name = true := by
    rintro (⟨-, hname⟩ | hlink)
    · exact hname.1
    · obtain ⟨function, heq, hfunction, -⟩ := exists_function hlink
      exact List.append_cancel_left heq ▸ hfunction
  rw [Undefined, hreferences]
  refine and_congr_right fun href => ?_
  rw [← hspaced.exists_defines_iff hplain (hrenamed href), ← not_or, ← hdefines]
  simp only [not_exists, not_and]

end

/-- **The crate links.**  Whatever archives are namespaced, and whatever objects without the
prefix are linked with the copies and the crate: the two sides are kept apart, and no name
with the prefix is left undefined in the binary exactly if the archives call no callback that
is neither in one of them nor exported by the crate, and define the functions that the crate
imports. -/
theorem crate_links_iff (nm : Nm) (objcopy : Objcopy) (archives : List Archive)
    (libraries : List String) (others : Finset Str) (other : List (Object Str))
    (hnm : ListsSymbols nm archives) (hobjcopy : RedefinesSyms objcopy)
    (hplain : AllPlain archives) (hlength : libraries.length = archives.length)
    (hothers : ∀ name ∈ others, ¬ TpmName archives name ∧ ¬ symbolPrefix <+: name)
    (hother : ∀ name ∈ names other, ¬ symbolPrefix <+: name) :
    ∃ copies, namespaceLibraries nm objcopy libraries archives = .ok copies ∧
      copies.map Prod.fst = libraries ∧ SideBySide archives copies (crateObject others) other ∧
      ((∀ name, symbolPrefix <+: name →
        ¬ Undefined (binary copies (crateObject others) other) name) ↔ Provides archives) := by
  obtain ⟨file, table, copies, hspaced, hok, hlibraries, hcopies⟩ :=
    exists_namespaced_copies hnm hobjcopy hplain hlength
  have hrust := rustSide_crateObject hplain fun name hname => (hothers name hname).1
  refine ⟨copies, hok, hlibraries, hspaced.sideBySide hplain hrust hother hcopies, ?_⟩
  have hundefined : ∀ name, Undefined (binary copies (crateObject others) other)
      (symbolPrefix ++ name) ↔ _ :=
    fun name => hspaced.undefined_binary_iff hplain hcopies
      (fun name hname => (hothers name hname).2) hother
  constructor
  · intro hcomplete
    constructor
    · intro name href hident hplat
      by_contra hnot
      obtain ⟨hundef, hexport⟩ := not_or.mp hnot
      have hname : TpmName archives name :=
        ⟨isRenamed_iff.mpr ⟨hident, not_symCrypt_of_platform hplat⟩, .inr hplat⟩
      exact hcomplete _ (List.prefix_append symbolPrefix name)
        ((hundefined name).mpr ⟨.inl ⟨href, hname⟩, hundef, hexport⟩)
    · intro name hlink
      by_contra hundef
      exact hcomplete _ (List.prefix_append symbolPrefix name)
        ((hundefined name).mpr ⟨.inr hlink, hundef, linkNames_disjoint_exportNames hlink⟩)
  · rintro hprovides - ⟨name, rfl⟩ hundef
    obtain ⟨⟨href, hrenamed, hdef | hplat⟩ | hlink, hnone, hexport⟩ := (hundefined name).mp hundef
    · exact hnone hdef
    · rcases hprovides.callbacks name href (isRenamed_iff.mp hrenamed).1 hplat with hdef | hexported
      · exact hnone hdef
      · exact hexport hexported
    · exact hnone (hprovides.functions name hlink)

/-- The two archives are not yet a TPM: what `initialize` calls to manufacture it is not
there. -/
theorem crate_links_iff_twoArchives :
    ∃ copies, namespaceLibraries twoArchivesNm renamingObjcopy ["core", "crypt"]
        [coreArchive, cryptArchive] = .ok copies ∧
      ∃ name, symbolPrefix <+: name ∧ Undefined (binary copies (crateObject ∅) []) name := by
  obtain ⟨copies, hcopies, -, -, hiff⟩ := crate_links_iff twoArchivesNm renamingObjcopy
    [coreArchive, cryptArchive] ["core", "crypt"] ∅ [] listsSymbols_twoArchivesNm
    redefinesSyms_renamingObjcopy allPlain_twoArchives rfl
    (fun _ hname => absurd hname (Finset.notMem_empty _))
    (fun _ ⟨_, hmem, _⟩ => absurd hmem List.not_mem_nil)
  refine ⟨copies, hcopies, ?_⟩
  by_contra hnone
  obtain ⟨archive, harchive, hdef⟩ := (hiff.mp fun name hprefixed hundef =>
    hnone ⟨name, hprefixed, hundef⟩).functions "TPM_Manufacture".toList (by decide)
  revert archive
  decide

end TpmPlatform.Symbols
