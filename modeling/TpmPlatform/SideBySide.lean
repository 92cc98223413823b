/-
# Two copies side by side (`build.rs`, `plat/mod.rs`, `tpmlib_state.rs`)

The prefix is there so that a binary can link this crate alongside another copy of the
reference code, which has the same names without it.

`side_by_side` : in a binary of the copies that `namespace_libraries` makes, the Rust
platform and any other objects without the prefix, every reference under a name of the TPM
or under a name with the prefix is resolved as if the other copy were not there, and in the
TPM itself as before the renaming.
-/
import TpmPlatform.Namespacing

open Linking

namespace TpmPlatform.Symbols

variable {archives : List Archive} {file : Str} {table : List (Str × Str)}

/-- A name of the TPM: what an archive defines, or a platform callback, if it is renamed. -/
def TpmName (archives : List Archive) (name : Str) : Prop :=
  isRenamed name = true ∧ (Defined archives name ∨ platformSymbolPrefix <+: name)

/-- The Rust side exports its functions under names with the prefix, and refers to the TPM
under such names. -/
structure RustSide (archives : List Archive) (rust : Object Str) : Prop where
  exports : ∀ name ∈ rust.defines, symbolPrefix <+: name
  imports : ∀ name ∈ rust.references, ¬ TpmName archives name

/-! ## Names that change -/

/-- A name of the TPM that an archive has changes. -/
theorem Namespaced.redefine_tpmName (hspaced : Namespaced archives file table) {name : Str}
    (hmem : name ∈ names (objects archives)) (hname : TpmName archives name) :
    redefine table name = symbolPrefix ++ name := by
  obtain ⟨hident, hsym⟩ := isRenamed_iff.mp hname.1
  rcases mem_names_objects.mp hmem with hdef | href
  · exact hspaced.defined name hdef hident hsym
  · apply hspaced.changed
    rw [hspaced.undefined name href]
    rcases hname.2 with ⟨archive, harchive, hdef⟩ | hplat
    · exact .inl ⟨archive, harchive, hdef, hident, hsym⟩
    · exact .inr ⟨hident, hplat⟩

/-- What has a name without the prefix in a copy is not of the TPM. -/
theorem Namespaced.not_tpmName (hspaced : Namespaced archives file table) {copied : Object Str}
    (hcopied : copied ∈ (objects archives).map (Object.rename (redefine table))) {name : Str}
    (hmem : name ∈ copied.defines ∨ name ∈ copied.references)
    (hname : ¬ symbolPrefix <+: name) : ¬ TpmName archives name := by
  intro htpm
  obtain ⟨object, hobject, rfl⟩ := List.mem_map.mp hcopied
  obtain ⟨old, hold, hnew⟩ : ∃ old, (old ∈ object.defines ∨ old ∈ object.references) ∧
      redefine table old = name := by
    rcases hmem with hdef | href
    · obtain ⟨old, hold, hnew⟩ := Finset.mem_image.mp hdef
      exact ⟨old, .inl hold, hnew⟩
    · obtain ⟨old, hold, hnew⟩ := Finset.mem_image.mp href
      exact ⟨old, .inr hold, hnew⟩
  have hin : old ∈ names (objects archives) := ⟨object, hobject, hold⟩
  by_cases hsame : redefine table old = old
  · obtain rfl : old = name := hsame.symm.trans hnew
    rw [hspaced.redefine_tpmName hin htpm] at hnew
    exact hname (hnew ▸ List.prefix_append symbolPrefix old)
  · rw [hspaced.changed old hsame] at hnew
    exact hname (hnew ▸ List.prefix_append symbolPrefix old)

/-! ## Linking the two -/

/-- The copies and the Rust side do not meet the other objects under a name of either kind. -/
theorem Namespaced.apart_of_other (hspaced : Namespaced archives file table)
    {rust : Object Str} (hrust : RustSide archives rust) {other : List (Object Str)}
    (hother : ∀ name ∈ names other, ¬ symbolPrefix <+: name) {name : Str}
    (hname : TpmName archives name ∨ symbolPrefix <+: name) :
    ∀ a ∈ linked archives table rust, ∀ b ∈ other,
      (name ∈ a.references → name ∉ b.defines) ∧ (name ∈ b.references → name ∉ a.defines) := by
  intro a ha b hb
  by_cases hprefixed : symbolPrefix <+: name
  · -- no other object has such a name at all
    exact ⟨fun _ hdef => hother name ⟨b, hb, .inl hdef⟩ hprefixed,
      fun href _ => hother name ⟨b, hb, .inr href⟩ hprefixed⟩
  · have htpm := hname.resolve_right hprefixed
    rcases List.mem_append.mp ha with ha | ha
    · exact ⟨fun href _ => hspaced.not_tpmName ha (.inr href) hprefixed htpm,
        fun _ hdef => hspaced.not_tpmName ha (.inl hdef) hprefixed htpm⟩
    · obtain rfl := List.mem_singleton.mp ha
      exact ⟨fun href _ => hrust.imports name href htpm,
        fun _ hdef => hprefixed (hrust.exports name hdef)⟩

/-- A name of the TPM has not got the prefix. -/
theorem TpmName.not_prefixed {name : Str} (h : TpmName archives name)
    (hplain : AllPlain archives) : ¬ symbolPrefix <+: name := by
  rcases h.2 with ⟨archive, harchive, hdef⟩ | hplat
  · exact (hplain archive harchive .definedOnly name hdef).not_prefixed
  · intro hprefixed
    have hboth := List.prefix_of_prefix_length_le hplat hprefixed (by decide)
    revert hboth
    decide

/-- No object of ours defines one. -/
theorem Namespaced.not_resolves_linked (hspaced : Namespaced archives file table)
    (hplain : AllPlain archives) {rust : Object Str} (hrust : RustSide archives rust) {name : Str}
    (hname : TpmName archives name) {i j : ℕ} :
    ¬ Resolves (linked archives table rust) i name j := by
  rintro ⟨-, defining, -, hj, -, hdef⟩
  rcases List.mem_append.mp (List.mem_of_getElem? hj) with hmem | hmem
  · exact hspaced.not_tpmName hmem (.inl hdef) (hname.not_prefixed hplain) hname
  · obtain rfl := List.mem_singleton.mp hmem
    exact hname.not_prefixed hplain (hrust.exports name hdef)

/-- Under its new name a name of the TPM is resolved as before. -/
theorem Namespaced.resolves_tpmName (hspaced : Namespaced archives file table)
    (hplain : AllPlain archives) {name : Str} (hname : TpmName archives name) {i j : ℕ} :
    Resolves ((objects archives).map (Object.rename (redefine table))) i (symbolPrefix ++ name) j ↔
      Resolves (objects archives) i name j := by
  rw [hspaced.resolves]
  constructor
  · rintro ⟨old, hnew, hres⟩
    obtain ⟨referring, -, hi, -, href, -⟩ := id hres
    have hin : old ∈ names (objects archives) := ⟨referring, List.mem_of_getElem? hi, .inr href⟩
    by_cases hsame : redefine table old = old
    · -- an unchanged name would have had the prefix before
      rw [hsame] at hnew
      exact absurd (hnew ▸ List.prefix_append symbolPrefix name) (hplain.plain hin).not_prefixed
    · rw [hspaced.changed old hsame] at hnew
      exact List.append_cancel_left hnew ▸ hres
  · intro hres
    obtain ⟨referring, -, hi, -, href, -⟩ := id hres
    exact ⟨name, hspaced.redefine_tpmName ⟨referring, List.mem_of_getElem? hi, .inr href⟩ hname,
      hres⟩

/-! ## The binary -/

/-- The copies of the archives, the Rust side, and the other objects. -/
def binary (copies : List (String × Object Str)) (rust : Object Str) (other : List (Object Str)) :
    List (Object Str) :=
  copies.map Prod.snd ++ rust :: other

/-- The binary is linked as if neither side knew of the other. -/
structure SideBySide (archives : List Archive) (copies : List (String × Object Str))
    (rust : Object Str) (other : List (Object Str)) : Prop where
  /-- names with the prefix are resolved as without the other objects -/
  ours : ∀ i name j, symbolPrefix <+: name →
    (Resolves (binary copies rust other) i name j ↔ Resolves (binary copies rust []) i name j)
  /-- names of the TPM are resolved by the other objects alone -/
  theirs : ∀ i name j, TpmName archives name →
    (Resolves (binary copies rust other) i name j ↔
      ∃ i' j', i = copies.length + 1 + i' ∧ j = copies.length + 1 + j' ∧ Resolves other i' name j')
  /-- the archives are linked with each other as before -/
  tpm : ∀ i name j, TpmName archives name → i < copies.length → j < copies.length →
    (Resolves (binary copies rust other) i (symbolPrefix ++ name) j ↔
      Resolves (objects archives) i name j)
  /-- the callbacks of an archive reach the Rust side -/
  callbacks : ∀ i archive name, archives[i]? = some archive → name ∈ archive.symbols.references →
    isCIdentifier name = true → platformSymbolPrefix <+: name →
    symbolPrefix ++ name ∈ rust.defines →
    Resolves (binary copies rust other) i (symbolPrefix ++ name) copies.length
  /-- the Rust side reaches the functions of an archive -/
  functions : ∀ j archive name, archives[j]? = some archive → name ∈ archive.symbols.defines →
    isRenamed name = true → symbolPrefix ++ name ∈ rust.references →
    Resolves (binary copies rust other) copies.length (symbolPrefix ++ name) j

section

variable {rust : Object Str} {other : List (Object Str)}

/-- Under names of either kind the two sides are linked as if each was alone. -/
theorem Namespaced.resolves_alone (hspaced : Namespaced archives file table)
    (hrust : RustSide archives rust) (hother : ∀ name ∈ names other, ¬ symbolPrefix <+: name)
    {name : Str} (hname : TpmName archives name ∨ symbolPrefix <+: name) {i j : ℕ} :
    Resolves (linked archives table rust ++ other) i name j ↔
      Resolves (linked archives table rust) i name j ∨
        ∃ i' j', i = archives.length + 1 + i' ∧ j = archives.length + 1 + j' ∧
          Resolves other i' name j' := by
  have hapart := hspaced.apart_of_other hrust hother hname
  have hlength : (linked archives table rust).length = archives.length + 1 := by
    rw [linked, List.length_append, length_map_objects, List.length_singleton]
  rw [resolves_append_iff (fun a ha b hb => (hapart a ha b hb).1)
    (fun a ha b hb => (hapart a ha b hb).2), hlength]

/-- A name with the prefix is resolved on our side. -/
theorem Namespaced.resolves_ours (hspaced : Namespaced archives file table)
    (hrust : RustSide archives rust) (hother : ∀ name ∈ names other, ¬ symbolPrefix <+: name)
    {name : Str} (hname : symbolPrefix <+: name) {i j : ℕ} :
    Resolves (linked archives table rust ++ other) i name j ↔
      Resolves (linked archives table rust) i name j := by
  rw [hspaced.resolves_alone hrust hother (.inr hname)]
  refine or_iff_left ?_
  rintro ⟨i', j', -, -, referring, -, hi, -, href, -⟩
  exact hother name ⟨referring, List.mem_of_getElem? hi, .inr href⟩ hname

/-- The copies keep the two sides apart. -/
theorem Namespaced.sideBySide (hspaced : Namespaced archives file table)
    (hplain : AllPlain archives) (hrust : RustSide archives rust)
    (hother : ∀ name ∈ names other, ¬ symbolPrefix <+: name)
    {copies : List (String × Object Str)}
    (hcopies : copies.map Prod.snd = (objects archives).map (Object.rename (redefine table))) :
    SideBySide archives copies rust other := by
  have hlength : copies.length = archives.length := by
    rw [← List.length_map Prod.snd, hcopies, length_map_objects]
  have hbinary : ∀ others, binary copies rust others = linked archives table rust ++ others := by
    intro others
    rw [binary, linked, hcopies, List.append_assoc]
    rfl
  have hprefix_append : ∀ name : Str, symbolPrefix <+: symbolPrefix ++ name :=
    fun name => List.prefix_append symbolPrefix name
  constructor
  case ours =>
    intro i name j hname
    rw [hbinary, hbinary, List.append_nil]
    exact hspaced.resolves_ours hrust hother hname
  case theirs =>
    intro i name j hname
    rw [hbinary, hlength, hspaced.resolves_alone hrust hother (.inl hname)]
    exact or_iff_right (hspaced.not_resolves_linked hplain hrust hname)
  case tpm =>
    intro i name j hname hi hj
    rw [hlength, ← length_map_objects] at hi hj
    rw [hbinary, hspaced.resolves_ours hrust hother (hprefix_append name), linked,
      resolves_append_of_lt hi hj]
    exact hspaced.resolves_tpmName hplain hname
  case callbacks =>
    intro i archive name hi href hident hplat hexport
    rw [hbinary, hlength, hspaced.resolves_ours hrust hother (hprefix_append name)]
    exact resolves_callback hspaced hi href hident hplat hexport
  case functions =>
    intro j archive name hj hdef hrenamed himport
    obtain ⟨hident, hsym⟩ := isRenamed_iff.mp hrenamed
    rw [hbinary, hlength, hspaced.resolves_ours hrust hother (hprefix_append name)]
    exact resolves_function hspaced hj hdef hident hsym himport

/-- The copies that `namespace_libraries` makes are the renamed archives. -/
theorem exists_namespaced_copies {nm : Nm} {objcopy : Objcopy} {libraries : List String}
    (hnm : ListsSymbols nm archives) (hobjcopy : RedefinesSyms objcopy)
    (hplain : AllPlain archives) (hlength : libraries.length = archives.length) :
    ∃ file table copies, Namespaced archives file table ∧
      namespaceLibraries nm objcopy libraries archives = .ok copies ∧
      copies.map Prod.fst = libraries ∧
      copies.map Prod.snd = (objects archives).map (Object.rename (redefine table)) := by
  obtain ⟨olds, hfile, holds⟩ := renames_eq_ok hnm hplain
  have hspaced := namespaced_renameTable hplain holds
  refine ⟨_, _, _, hspaced, namespaceLibraries_eq_ok hobjcopy hfile hspaced libraries, ?_, ?_⟩
  · rw [List.map_map]
    exact List.map_fst_zip hlength.le
  · rw [List.map_map, objects, List.map_map]
    refine Eq.trans ?_ (congrArg (List.map _) (List.map_snd_zip hlength.ge))
    rw [List.map_map]
    rfl

/-- And they do, whatever they are linked with. -/
theorem exists_copies {nm : Nm} {objcopy : Objcopy} {libraries : List String}
    (hnm : ListsSymbols nm archives) (hobjcopy : RedefinesSyms objcopy)
    (hplain : AllPlain archives) (hlength : libraries.length = archives.length) :
    ∃ copies, namespaceLibraries nm objcopy libraries archives = .ok copies ∧
      copies.map Prod.fst = libraries ∧ ∀ rust other, RustSide archives rust →
        (∀ name ∈ names other, ¬ symbolPrefix <+: name) →
          SideBySide archives copies rust other := by
  obtain ⟨file, table, copies, hspaced, hok, hlibraries, hcopies⟩ :=
    exists_namespaced_copies hnm hobjcopy hplain hlength
  exact ⟨copies, hok, hlibraries, fun rust other hrust hother =>
    hspaced.sideBySide hplain hrust hother hcopies⟩

end

/-- A Rust side that starts the TPM and lets it enable NV memory. -/
def twoArchivesRust : Object Str where
  defines := {symbolPrefix ++ "_plat__NVEnable".toList}
  references := {symbolPrefix ++ "_TPM_Init".toList}

end TpmPlatform.Symbols
