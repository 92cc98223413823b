/-
# Migrating from host to host, and between builds

A TPM is migrated any number of times: what one host restores, the next one saves again.
And a blob may reach a host with another build of the library, which goes by the length of
the blob and by the header, with its revision and the number of variables.

* `migration_chain` : however many hosts a TPM passes through, the last one has its platform
  state and its variables, and its objects up to the addresses of a process in the crypto
  state of a sequence; the method pointers are those of the last host;
* `other_build_iff` : which blobs of other builds are refused, and how.
-/
import TpmPlatform.CodePointers
import TpmPlatform.Migration
import TpmPlatform.Panics

namespace TpmPlatform

open Bytes

/-! ## Up to the addresses of a process -/

section

variable {ι : Type} {B : Build ι} {ρ : Type}

/-- A field that no method pointer of a hash state overlaps. -/
def Build.Pointerless (f : Field B.sizeofObject) : Prop :=
  ∀ j g, g ≠ .type → f.Disjoint (B.layout.hash j g)

/-- Where the crypto state of a sequence lies: the union `state` of an ML-DSA handle and the
hash contexts, and in these the fields in which the backend keeps addresses of its process,
which `copyOut` and `copyIn` translate. -/
structure CryptoState {ι : Type} (B : Build ι) where
  state : Field B.sizeofObject
  addresses : List (Field B.sizeofObject)
  attributes_disjoint : B.layout.attributes.Disjoint state
  signScheme_disjoint : B.layout.signScheme.Disjoint state
  hash_within : ∀ j g (f : Field B.sizeofObject), f.Disjoint state →
    f.Disjoint (B.layout.hash j g)
  addresses_within : ∀ a ∈ addresses, ∀ f : Field B.sizeofObject, f.Disjoint state → f.Disjoint a

namespace CryptoState

variable (C : CryptoState B)

/-- A field that means the same in every process: of an ML-DSA sequence, all but the union,
in which an import puts a handle of its own; otherwise, all but the method pointers and the
addresses of the backend. -/
def Portable (object : B.Object) (f : Field B.sizeofObject) : Prop :=
  if Build.isMldsaSequence object then f.Disjoint C.state
  else Build.Pointerless f ∧ ∀ a ∈ C.addresses, f.Disjoint a

/-- What lies outside the union is portable. -/
theorem portable_of_disjoint {f : Field B.sizeofObject} (h : f.Disjoint C.state)
    (object : B.Object) : C.Portable object f := by
  unfold Portable
  split_ifs
  · exact h
  · exact ⟨fun j g _ => C.hash_within j g f h, fun a ha => C.addresses_within a ha f h⟩

/-- No portable field has a method pointer in it. -/
theorem Portable.pointerless {C : CryptoState B} {object : B.Object} {f : Field B.sizeofObject}
    (h : C.Portable object f) : Build.Pointerless f := by
  unfold Portable at h
  split_ifs at h with hmldsa
  · exact fun j g _ => C.hash_within j g f h
  · exact h.1

end CryptoState

/-- Importing what was exported gives the portable fields of a sequence back. -/
def TpmLibrary.ImportUndoesExport (C : CryptoState B) (source destination : TpmLibrary B ρ) :
    Prop :=
  ∀ (object : B.Object) rest f, Build.isOccupiedSequence object = true → C.Portable object f →
    let image := source.sequenceDataExport object object
    f.get (destination.sequenceDataImport image image rest).object = f.get object

/-- What arrives in a slot: the portable fields of the object, and the method pointers of the
host `lib` in every SMAC context that a sequence uses; an object that is no sequence arrives
unchanged. -/
structure Carried (C : CryptoState B) (lib : TpmLibrary B ρ) (object object' : B.Object) :
    Prop where
  same : ∀ f, C.Portable object f → f.get object' = f.get object
  unchanged : Build.isOccupiedSequence object = false → object' = object
  local_methods : Build.isOccupiedSequence object' = true →
    Build.isMldsaSequence object' = false →
    ∀ j : Fin B.layout.hashCount, j.val < Build.hashStateCount object' →
      LocalMethods lib object' j

/-- The fields outside of the union that the loops go by arrive. -/
theorem Carried.attributes_eq {C : CryptoState B} {lib : TpmLibrary B ρ}
    {object object' : B.Object} (h : Carried C lib object object') :
    B.layout.attributes.get object' = B.layout.attributes.get object :=
  h.same _ (C.portable_of_disjoint C.attributes_disjoint object)

theorem Carried.signScheme_eq {C : CryptoState B} {lib : TpmLibrary B ρ}
    {object object' : B.Object} (h : Carried C lib object object') :
    B.layout.signScheme.get object' = B.layout.signScheme.get object :=
  h.same _ (C.portable_of_disjoint C.signScheme_disjoint object)

/-- Whether an object is an occupied sequence is a matter of its attributes. -/
theorem Carried.isOccupiedSequence_eq {C : CryptoState B} {lib : TpmLibrary B ρ}
    {object object' : B.Object} (h : Carried C lib object object') :
    Build.isOccupiedSequence object' = Build.isOccupiedSequence object := by
  unfold Build.isOccupiedSequence Build.attributeBit
  rw [h.attributes_eq]

/-- Whether it is one with ML-DSA, also of its scheme. -/
theorem Carried.isMldsaSequence_eq {C : CryptoState B} {lib : TpmLibrary B ρ}
    {object object' : B.Object} (h : Carried C lib object object') :
    Build.isMldsaSequence object' = Build.isMldsaSequence object := by
  unfold Build.isMldsaSequence Build.attributeBit
  rw [h.attributes_eq, h.signScheme_eq]

/-- The portable fields stay the same ones. -/
theorem Carried.portable_iff {C : CryptoState B} {lib : TpmLibrary B ρ}
    {object object' : B.Object} (h : Carried C lib object object') (f : Field B.sizeofObject) :
    C.Portable object' f ↔ C.Portable object f := by
  unfold CryptoState.Portable
  rw [h.isMldsaSequence_eq]

/-- The fix-up keeps the fields that the import loop goes by. -/
theorem SmacRebound.sameDispatch {lib : TpmLibrary B ρ} {object bound : B.Object}
    (h : SmacRebound lib object bound) : SameDispatch object bound where
  attributes_eq := h.others _ fun j g _ => B.layout.attributes_disjoint j g
  signScheme_eq := h.others _ fun j g _ => B.layout.signScheme_disjoint j g
  type_eq i := by
    refine h.others _ fun j g hg => ?_
    exact B.layout.hash_disjoint i .type j g fun heq => hg (Prod.mk.inj heq).2.symm

/-- After the fix-up the contexts in use have the methods of this process. -/
theorem SmacRebound.localMethods {lib : TpmLibrary B ρ} {object bound : B.Object}
    (h : SmacRebound lib object bound) (hmldsa : Build.isMldsaSequence bound = false)
    {j : Fin B.layout.hashCount} (hj : j.val < Build.hashStateCount bound) :
    LocalMethods lib bound j := by
  have hsame : SameDispatch object bound := h.sameDispatch
  intro hsmac
  have hrebinds : Build.rebinds object j := by
    refine ⟨hsame.isMldsaSequence_eq ▸ hmldsa, hsame.hashStateCount_eq ▸ hj, ?_⟩
    rw [Build.isSmac, ← hsame.type_eq j]
    exact hsmac
  have hfields := h.hashFields j
  simp only [if_pos hrebinds] at hfields
  exact ⟨hfields .hashDef, hfields .smacData, hfields .smacEnd⟩

/-- **One hop**: a migrated slot is carried. -/
theorem carried_of_migratedSlot {C : CryptoState B} {source destination : TpmLibrary B ρ}
    (hundoes : source.ImportUndoesExport C destination) {object object' : B.Object}
    (h : MigratedSlot source destination object object') :
    Carried C destination object object' := by
  unfold MigratedSlot at h
  by_cases hseq : Build.isOccupiedSequence object = true
  · rw [if_pos hseq] at h
    obtain ⟨rest, hbound⟩ := h
    refine ⟨fun f hf => ?_, ?_, ?_⟩
    · exact (hbound.others f hf.pointerless).trans (hundoes object rest f hseq hf)
    · intro hnot
      rw [hseq] at hnot
      cases hnot
    · intro _ hmldsa j hj
      exact hbound.localMethods hmldsa hj
  · rw [if_neg hseq] at h
    subst h
    exact ⟨fun _ _ => rfl, fun _ => rfl, fun hc => absurd hc hseq⟩

/-- **Hops compose**: the pointers are those of the last host. -/
theorem Carried.trans {C : CryptoState B} {lib lib' : TpmLibrary B ρ}
    {object object' object'' : B.Object} (h : Carried C lib object object')
    (h' : Carried C lib' object' object'') : Carried C lib' object object'' where
  same f hf := (h'.same f ((h.portable_iff f).mpr hf)).trans (h.same f hf)
  unchanged hnot := by
    have hnot' : Build.isOccupiedSequence object' = false := by
      rw [h.isOccupiedSequence_eq]
      exact hnot
    exact (h'.unchanged hnot').trans (h.unchanged hnot)
  local_methods := h'.local_methods

/-! ## A chain of hosts -/

/-- A host: its library and the process that is to take the TPM over. -/
structure Host {ι : Type} (B : Build ι) (ρ : Type) where
  lib : TpmLibrary B ρ
  process : Process B ρ

/-- One host after the other restores what the one before has saved. -/
def migrate [DecidableEq ι] (codec : Codec) : Host B ρ → List (Host B ρ) → Option (Host B ρ)
  | host, [] => some host
  | host, next :: hosts =>
    match host.process.saveState host.lib codec with
    | none => none
    | some blob =>
      match next.process.restoreState next.lib codec blob with
      | some (.ok (), process) => migrate codec { next with process := process } hosts
      | _ => none

/-- What is assumed of the libraries of the hosts, any of which may be the source and the
destination of a hop. -/
structure HostsCompatible (C : CryptoState B) (hosts : List (Host B ρ)) : Prop where
  exports : ∀ host ∈ hosts, host.lib.ExportKeepsAttributes
  imports : ∀ host ∈ hosts, host.lib.ImportIsSilent
  undoes : ∀ source ∈ hosts, ∀ destination ∈ hosts,
    source.lib.ImportUndoesExport C destination.lib

/-- What has arrived at a host: the platform state, the variables, and every slot. -/
structure Arrived (C : CryptoState B) (s : LibraryState B ρ) (platformState : PlatformState)
    (last : Host B ρ) : Prop where
  platform : ∃ q, last.process.platform = some q ∧ q.state = platformState
  globals : ∀ v ∈ B.tpmRuntimeVariables, v ≠ .sObjects →
    last.process.library.contents v = s.contents v
  slots : ∀ i, Carried C last.lib (s.sObjects.get i) (last.process.library.sObjects.get i)

/-- **One hop**, from a host whose platform has the state `platformState`. -/
theorem exists_hop [DecidableEq ι] (hfits : B.Fits) {C : CryptoState B} {codec : Codec}
    {host next : Host B ρ} {platformState : PlatformState} (hcodec : codec.RoundTrips platformState)
    (hexport : host.lib.ExportKeepsAttributes) (himport : next.lib.ImportIsSilent)
    (hundoes : host.lib.ImportUndoesExport C next.lib)
    (hhost : ∃ p, host.process.platform = some p ∧ p.state = platformState)
    (hnext : ∃ q, next.process.platform = some q) :
    ∃ blob process, host.process.saveState host.lib codec = some blob ∧
      next.process.restoreState next.lib codec blob = some (.ok (), process) ∧
      Arrived C host.process.library platformState { next with process := process } := by
  obtain ⟨p, hp, rfl⟩ := hhost
  obtain ⟨q, hq⟩ := hnext
  obtain ⟨blob, hencode, hdecode⟩ := hcodec (host.process.library.image host.lib)
  obtain ⟨t₁, hrestore, hvariables, hslots⟩ := restoreRuntimeState_image hfits hexport himport
    host.process.library next.process.library p.state.failure
  refine ⟨blob, { next.process with
    platform := some { q with state := p.state }, library := t₁ }, ?_, ?_, ?_⟩
  · unfold Process.saveState
    dsimp only [Option.bind_eq_bind]
    rw [getRuntimeState_eq_image host.lib host.process.library hfits, hp, Option.bind_some,
      Option.bind_some, PlatformImpl.getRuntimeState, hencode]
  · unfold Process.restoreState
    rw [hdecode]
    dsimp only
    rw [hq, Option.bind_some, PlatformImpl.restoreRuntimeState]
    dsimp only
    rw [hrestore, Option.map_some]
    rfl
  · exact ⟨⟨_, rfl, rfl⟩, hvariables, fun i => carried_of_migratedSlot hundoes (hslots i)⟩

/-- **Migration chains.**  However many hosts a TPM passes through, every save and every
restore on the way succeeds; the last host has the platform state of the first, every
variable of the table but `s_objects` byte for byte, every object that is no sequence as it
was, and every sequence up to the addresses of a process; its method pointers are those of
the last host. -/
theorem migration_chain [DecidableEq ι] (hfits : B.Fits) (C : CryptoState B) (codec : Codec)
    (first next : Host B ρ) (hosts : List (Host B ρ)) (p : PlatformImpl)
    (hp : first.process.platform = some p) (hcodec : codec.RoundTrips p.state)
    (hcompatible : HostsCompatible C (first :: next :: hosts))
    (hplatforms : ∀ host ∈ next :: hosts, ∃ q, host.process.platform = some q) :
    ∃ last, migrate codec first (next :: hosts) = some last ∧
      Arrived C first.process.library p.state last := by
  obtain ⟨exports, imports, undoes⟩ := hcompatible
  have hfirst : ∃ q, first.process.platform = some q ∧ q.state = p.state := ⟨p, hp, rfl⟩
  clear hp
  -- the first hop, and then the hops of the rest of the chain
  induction hosts generalizing first next with
  | nil =>
      obtain ⟨blob, process, hsave, hrestore, harrived⟩ := exists_hop hfits hcodec
        (exports first List.mem_cons_self)
        (imports next (List.mem_cons_of_mem _ List.mem_cons_self))
        (undoes first List.mem_cons_self next (List.mem_cons_of_mem _ List.mem_cons_self)) hfirst
        (hplatforms next List.mem_cons_self)
      refine ⟨{ next with process := process }, ?_, harrived⟩
      unfold migrate
      rw [hsave]
      dsimp only
      rw [hrestore]
      rfl
  | cons third hosts ih =>
      obtain ⟨blob, process, hsave, hrestore, harrived⟩ := exists_hop hfits hcodec
        (exports first List.mem_cons_self)
        (imports next (List.mem_cons_of_mem _ List.mem_cons_self))
        (undoes first List.mem_cons_self next (List.mem_cons_of_mem _ List.mem_cons_self)) hfirst
        (hplatforms next List.mem_cons_self)
      -- the host that has taken the TPM over has the library it had before
      have hlater : ∀ {P : TpmLibrary B ρ → Prop},
          (∀ host ∈ first :: next :: third :: hosts, P host.lib) →
          ∀ host ∈ { next with process := process } :: third :: hosts, P host.lib := by
        intro P hP host hmem
        rcases List.mem_cons.mp hmem with rfl | hmem
        · exact hP next (List.mem_cons_of_mem _ List.mem_cons_self)
        · exact hP host (List.mem_cons_of_mem _ (List.mem_cons_of_mem _ hmem))
      have hundoes : ∀ source ∈ { next with process := process } :: third :: hosts,
          ∀ destination ∈ { next with process := process } :: third :: hosts,
            source.lib.ImportUndoesExport C destination.lib := by
        intro source hsource
        refine hlater (P := fun lib => source.lib.ImportUndoesExport C lib) ?_
        intro destination hdestination
        exact hlater (P := fun lib => lib.ImportUndoesExport C destination.lib)
          (fun host hhost => undoes host hhost destination hdestination) source hsource
      obtain ⟨last, hlast, hrest⟩ := ih { next with process := process } third
        (fun host hhost => hplatforms host (List.mem_cons_of_mem _ hhost)) (hlater exports)
        (hlater imports) hundoes harrived.platform
      refine ⟨last, ?_, hrest.platform, ?_, ?_⟩
      · rw [migrate, hsave]
        dsimp only
        rw [hrestore]
        exact hlast
      · intro v hv hne
        exact (hrest.globals v hv hne).trans (harrived.globals v hv hne)
      · intro i
        exact (harrived.slots i).trans (hrest.slots i)

end

/-- The crypto state in the miniature build: the last four bytes of an object, and no address
in it but the method pointers. -/
def miniCryptoState : CryptoState miniBuild where
  state := { offset := 2, width := 4, fits := by decide }
  addresses := []
  attributes_disjoint := by decide
  signScheme_disjoint := by decide
  hash_within := by
    intro j g f h
    have hin : 2 ≤ (miniBuild.layout.hash j g).offset ∧
        (miniBuild.layout.hash j g).offset + (miniBuild.layout.hash j g).width ≤ 6 := by
      cases g <;> revert j <;> decide
    rcases h with h | h
    · exact Or.inl (h.trans hin.1)
    · exact Or.inr (hin.2.trans h)
  addresses_within := by
    intro a ha
    cases ha

/-- The sign sequence of `signingProcess` passes through a host at other addresses and comes
back to where it was saved. -/
theorem migration_chain_back :
    ∃ last, migrate (Process.imageCodec Process.coldPlatformState)
        { lib := miniLibrary, process := Process.signingProcess }
        [{ lib := Process.movedLibrary, process := Process.coldProcess },
          { lib := miniLibrary, process := Process.coldProcess }] = some last ∧
      Arrived miniCryptoState Process.signingProcess.library Process.coldPlatformState last := by
  refine migration_chain (by decide) miniCryptoState
    (Process.imageCodec Process.coldPlatformState) _ _ _ _ rfl (fun image => ⟨image, rfl, rfl⟩)
    ⟨?_, ?_, ?_⟩ ?_
  · simp [TpmLibrary.ExportKeepsAttributes, miniLibrary, Process.movedLibrary]
  · simp [TpmLibrary.ImportIsSilent, miniLibrary, Process.movedLibrary]
  · simp [TpmLibrary.ImportUndoesExport, miniLibrary, Process.movedLibrary]
  · simp [Process.coldProcess]

/-! ## Another build -/

section

variable {ι ι' : Type} {B : Build ι} {B' : Build ι'} {ρ ρ' : Type}

/-- The header depends on the number of variables alone. -/
theorem headerMatches_image_iff (hfits : B.Fits) (hfits' : B'.Fits) (lib : TpmLibrary B ρ)
    (s : LibraryState B ρ) :
    B'.headerMatches (s.image lib) = true ↔
      B.tpmRuntimeVariables.length = B'.tpmRuntimeVariables.length := by
  have hown : B.headerMatches (s.image lib) = true := Build.headerMatches_header hfits _
  constructor
  · intro h
    rw [Build.headerMatches, Bool.and_eq_true, beq_iff_eq] at h hown
    exact hown.2.symm.trans h.2
  · intro hcount
    have hheader : B.header = B'.header := by
      rw [Build.header, Build.header, hcount]
    rw [LibraryState.image, hheader]
    exact Build.headerMatches_header hfits' _

/-- The size that the hook checks is right exactly if the two images are equally long. -/
theorem size_image_iff (hfits : B.Fits) (hfits' : B'.Fits) (lib : TpmLibrary B ρ)
    (s : LibraryState B ρ) :
    UInt32.ofNat (s.image lib).length = B'.getRuntimeStateSize ↔ B.imageSize = B'.imageSize := by
  rw [LibraryState.length_image, ← UInt32.toNat_inj, Build.toNat_getRuntimeStateSize hfits',
    UInt32.toNat_ofNat', Nat.mod_eq_of_lt hfits]

/-- What the library's half of a restore makes of the image of another build. -/
theorem restoreRuntimeState_other [DecidableEq ι'] (hfits : B.Fits) (hfits' : B'.Fits)
    (source : TpmLibrary B ρ) (destination : TpmLibrary B' ρ') (s : LibraryState B ρ)
    (t : LibraryState B' ρ') (failure : FailureState) :
    (B.imageSize ≠ B'.imageSize → t.restoreRuntimeState destination failure (s.image source) =
        some (.error .invalidRestoreSize, t, failure)) ∧
      (B.imageSize = B'.imageSize →
        B.tpmRuntimeVariables.length ≠ B'.tpmRuntimeVariables.length →
        t.restoreRuntimeState destination failure (s.image source) =
          some (.error .invalidRestoreFormat, t, failure)) ∧
      (B.imageSize = B'.imageSize →
        B.tpmRuntimeVariables.length = B'.tpmRuntimeVariables.length →
        ∃ r t' failure', t.restoreRuntimeState destination failure (s.image source) =
          some (r, t', failure') ∧ (r = .ok () ∨ r = .error (.failedRestore 4))) := by
  have hsize := size_image_iff hfits hfits' source s
  have hheader := headerMatches_image_iff hfits hfits' source s
  have hlong : ¬ (s.image source).length < Build.headerSize := by
    rw [LibraryState.length_image, Build.imageSize]
    omega
  refine ⟨fun hne => ?_, fun heq hcount => ?_, fun heq hcount => ?_⟩
  · unfold LibraryState.restoreRuntimeState injectedApplyRuntimeState
    dsimp only
    rw [if_pos (fun h => hne (hsize.mp h))]
    rfl
  · unfold LibraryState.restoreRuntimeState injectedApplyRuntimeState
    dsimp only
    have hnot : (!B'.headerMatches (s.image source)) = true := by
      rw [Bool.not_eq_true', ← Bool.not_eq_true]
      exact fun h => hcount (hheader.mp h)
    rw [if_neg (not_not.mpr (hsize.mpr heq)), if_neg hlong, if_pos hnot]
    rfl
  · obtain ⟨⟨r, t', failure'⟩, hrestore⟩ :=
      exists_restoreRuntimeState hfits' destination t failure (s.image source)
    refine ⟨r, t', failure', hrestore, ?_⟩
    rcases restoreRuntimeState_cases hrestore with ⟨-, hnot, -⟩ | ⟨s₁, -, -, -, -, hr⟩
    · exact absurd ⟨hsize.mpr heq, Nat.not_lt.mp hlong, hheader.mpr hcount⟩ hnot
    · split_ifs at hr with hok
      · exact Or.inl hr
      · exact Or.inr hr

/-- The miniature build with one object slot more. -/
def roomyBuild : Build Global := { miniBuild with maxLoadedObjects := 3 }

/-- Its library. -/
def roomyLibrary : TpmLibrary roomyBuild Unit where
  objectFlush object rest := (object, rest)
  sequenceDataExport _ staged := staged
  sequenceDataImport object _ rest := { object := object, rest := rest, failures := [] }
  nvIndexCacheInit rest := rest
  cryptCmacData := 7
  cryptCmacEnd := 9

/-- The process after a cold init in that build. -/
def Process.roomyProcess : Process roomyBuild Unit where
  platform := some (.powerUp { commits := [] } .coldInit)
  library := {
    globals := fun _ => Raw.read [] 0
    sObjects := List.Vector.replicate 3 (Raw.read [] 0)
    rest := () }
  handles := 1

end

end TpmPlatform
