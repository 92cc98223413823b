/-
# Finding the tools (`build.rs`, the module `tool_discovery`)

The build script needs an `objcopy` and an `nm` that can handle archives of the target.  It
makes a list of names from the host and target triples and takes the first that answers
`--version`.

`nodup_candidates` : no name is on it twice;
`candidates_native`, `candidates_cross` : the list, for the host itself and for others;
`find_tool_spec` : what is found is the first on it that works.
-/
import TpmPlatform.Symbols

namespace TpmPlatform.ToolDiscovery

open Symbols

/-! ## The module -/

/-- The first component of a triple, the architecture. -/
def arch (triple : Str) : Str := triple.takeWhile (· != '-')

/-- `push_candidate`. -/
def pushCandidate (candidates : List Str) (candidate : Str) : List Str :=
  if candidate ∈ candidates then candidates else candidates ++ [candidate]

/-- `format!("{prefix}-{tool}")`. -/
def prefixedTool (triple tool : Str) : Str := triple ++ '-' :: tool

/-- `add_target_prefixed`. -/
def addTargetPrefixed (candidates : List Str) (target tool : Str) : List Str :=
  let targetPrefix := Words.replace "-unknown-".toList "-".toList target
  let candidates := pushCandidate candidates (prefixedTool targetPrefix tool)
  if targetPrefix ≠ target then pushCandidate candidates (prefixedTool target tool)
  else candidates

/-- `candidates`. -/
def candidates (host target tool : Str) : List Str :=
  let crossCompiling := host ≠ target
  let sameArchitecture := arch host = arch target
  let candidates : List Str := []
  let candidates :=
    if crossCompiling then
      let candidates := addTargetPrefixed candidates target tool
      -- a musl target gets the binutils with the GNU prefix as well
      let candidates :=
        if "-linux-".toList <:+: target then
          pushCandidate candidates (prefixedTool (arch target ++ "-linux-gnu".toList) tool)
        else candidates
      if sameArchitecture ∧ ¬ "-msvc".toList <:+ target then addTargetPrefixed candidates host tool
      else candidates
    else candidates
  let candidates :=
    if crossCompiling ∨ "-msvc".toList <:+ target ∨ "-apple-".toList <:+: target then
      pushCandidate candidates (prefixedTool "llvm".toList tool)
    else candidates
  if ¬ crossCompiling then pushCandidate candidates tool else candidates

/-- `find_tool`, where `works` says which names answer `--version`. -/
def findTool (host target : Str) (works : Str → Bool) (tool : Str) : Except BuildError Str :=
  match (candidates host target tool).find? works with
  | some candidate => .ok candidate
  | none =>
    let tried := String.intercalate ", " ((candidates host target tool).map String.ofList)
    .error (.message s!"could not find {String.ofList tool}; tried {tried}")

/-! ## The list -/

/-- Pushing adds a name. -/
@[simp] theorem mem_pushCandidate {candidates : List Str} {candidate c : Str} :
    c ∈ pushCandidate candidates candidate ↔ c ∈ candidates ∨ c = candidate := by
  rw [pushCandidate]
  split_ifs with hmem
  · refine (or_iff_left_of_imp ?_).symm
    rintro rfl
    exact hmem
  · rw [List.mem_append, List.mem_singleton]

/-- It repeats none. -/
theorem nodup_pushCandidate {candidates : List Str} (h : candidates.Nodup) (candidate : Str) :
    (pushCandidate candidates candidate).Nodup := by
  rw [pushCandidate]
  split_ifs with hmem
  · exact h
  · exact List.nodup_append.mpr ⟨h, List.nodup_singleton candidate, by
      intro c hc d hd hcd
      rw [List.mem_singleton.mp hd] at hcd
      exact hmem (hcd ▸ hc)⟩

/-- The names with a triple before them. -/
def TargetPrefixed (target tool c : Str) : Prop :=
  c = prefixedTool (Words.replace "-unknown-".toList "-".toList target) tool ∨
    c = prefixedTool target tool

/-- `add_target_prefixed` adds these names. -/
@[simp] theorem mem_addTargetPrefixed {candidates : List Str} {target tool c : Str} :
    c ∈ addTargetPrefixed candidates target tool ↔
      c ∈ candidates ∨ TargetPrefixed target tool c := by
  rw [addTargetPrefixed, TargetPrefixed]
  split_ifs with hsame
  · rw [mem_pushCandidate, mem_pushCandidate, or_assoc]
  · -- both names are one
    rw [not_not] at hsame
    rw [mem_pushCandidate, hsame, or_self]

theorem nodup_addTargetPrefixed {candidates : List Str} (h : candidates.Nodup)
    (target tool : Str) : (addTargetPrefixed candidates target tool).Nodup := by
  rw [addTargetPrefixed]
  split_ifs
  · exact nodup_pushCandidate (nodup_pushCandidate h _) _
  · exact nodup_pushCandidate h _

/-- **No name is tried twice.** -/
theorem nodup_candidates (host target tool : Str) : (candidates host target tool).Nodup := by
  rw [candidates]
  dsimp only
  split_ifs
  all_goals
    repeat' first
      | exact List.nodup_nil
      | apply nodup_pushCandidate
      | apply nodup_addTargetPrefixed

/-- A name that is added under a condition. -/
theorem mem_ite {P Q : Prop} [Decidable P] {xs ys : List Str} {c : Str}
    (h : c ∈ xs ↔ c ∈ ys ∨ Q) : c ∈ (if P then xs else ys) ↔ c ∈ ys ∨ P ∧ Q := by
  split_ifs with hP
  · rw [h, and_iff_right hP]
  · rw [or_iff_left fun hc => hP hc.1]

/-! ## Names with a triple -/

/-- Taking `unknown` out of a triple leaves the architecture. -/
theorem arch_replace (triple : Str) :
    arch (Words.replace "-unknown-".toList "-".toList triple) = arch triple :=
  Words.takeWhile_replace (p := (· != '-')) rfl "unknown-".toList [] triple

/-- The architecture has no dash in it. -/
theorem arch_append (triple rest : Str) : arch (arch triple ++ '-' :: rest) = arch triple := by
  have hdash : ∀ c ∈ arch triple, (c != '-') = true := by
    intro c hc
    exact List.mem_takeWhile_imp (p := (· != '-')) hc
  rw [arch, List.takeWhile_append_of_pos hdash,
    List.takeWhile_cons_of_neg (by decide), List.append_nil]

/-- A name with a triple of an architecture before it. -/
def ForArch (target tool c : Str) : Prop :=
  ∃ triple, arch triple = arch target ∧ c = prefixedTool triple tool

/-- The names with a triple before them have its architecture. -/
theorem TargetPrefixed.forArch {triple target tool c : Str} (h : TargetPrefixed triple tool c)
    (harch : arch triple = arch target) : ForArch target tool c := by
  rcases h with rfl | rfl
  · exact ⟨_, (arch_replace triple).trans harch, rfl⟩
  · exact ⟨_, harch, rfl⟩

/-! ## What is found -/

/-- A tool is found if one of the names works. -/
theorem exists_findTool_iff {host target tool : Str} {works : Str → Bool} :
    (∃ c, findTool host target works tool = .ok c) ↔
      ∃ c ∈ candidates host target tool, works c = true := by
  rw [findTool, ← List.find?_isSome]
  cases (candidates host target tool).find? works with
  | none => exact iff_of_false (fun ⟨_, h⟩ => nomatch h) Bool.false_ne_true
  | some c => exact iff_of_true ⟨c, rfl⟩ rfl

/-- **What is found** is the first name on the list that works. -/
theorem findTool_eq_ok_iff {host target tool c : Str} {works : Str → Bool} :
    findTool host target works tool = .ok c ↔
      ∃ before after, candidates host target tool = before ++ c :: after ∧ works c = true ∧
        ∀ d ∈ before, works d = false := by
  have hfound : findTool host target works tool = .ok c ↔
      (candidates host target tool).find? works = some c := by
    rw [findTool]
    cases (candidates host target tool).find? works with
    | none => exact iff_of_false (fun h => nomatch h) (fun h => nomatch h)
    | some found => rw [Except.ok.injEq, Option.some.injEq]
  rw [hfound, List.find?_eq_some_iff_append]
  constructor
  · rintro ⟨hworks, before, after, hsplit, hbefore⟩
    exact ⟨before, after, hsplit, hworks, fun d hd => (Bool.not_eq_true' _).mp (hbefore d hd)⟩
  · rintro ⟨before, after, hsplit, hworks, hbefore⟩
    exact ⟨hworks, before, after, hsplit, fun d hd => (Bool.not_eq_true' _).mpr (hbefore d hd)⟩

/-- And what is found works. -/
theorem works_of_findTool {host target tool c : Str} {works : Str → Bool}
    (h : findTool host target works tool = .ok c) : works c = true := by
  obtain ⟨-, -, -, hworks, -⟩ := findTool_eq_ok_iff.mp h
  exact hworks

/-- And nothing is found only if none works. -/
theorem findTool_eq_error_iff {host target tool : Str} {works : Str → Bool} :
    (∃ e, findTool host target works tool = .error e) ↔
      ∀ c ∈ candidates host target tool, works c = false := by
  rw [findTool]
  cases hfind : (candidates host target tool).find? works with
  | none =>
      refine iff_of_true ⟨_, rfl⟩ fun c hc => ?_
      exact (Bool.not_eq_true _).mp (List.find?_eq_none.mp hfind c hc)
  | some found =>
      refine iff_of_false (fun ⟨e, he⟩ => nomatch he) fun hnone => ?_
      have hworks := List.find?_some hfind
      rw [hnone found (List.mem_of_find?_eq_some hfind)] at hworks
      exact Bool.false_ne_true hworks

/-! ## The list for the host and for others -/

/-- The targets for which LLVM's tool is tried on a host of the same kind. -/
def PrefersLlvm (target : Str) : Prop :=
  "-msvc".toList <:+ target ∨ "-apple-".toList <:+: target

instance (target : Str) : Decidable (PrefersLlvm target) := inferInstanceAs (Decidable (_ ∨ _))

/-- A name with something before it is not the name. -/
theorem ne_prefixedTool (triple tool : Str) : tool ≠ prefixedTool triple tool := by
  intro h
  have hlength := congrArg List.length h
  rw [prefixedTool, List.length_append, List.length_cons] at hlength
  omega

/-- **Building for the host**: the plain tool, and before it LLVM's where that is preferred. -/
theorem candidates_native (target tool : Str) : candidates target target tool =
    if PrefersLlvm target then [prefixedTool "llvm".toList tool, tool] else [tool] := by
  have hne := ne_prefixedTool "llvm".toList tool
  have hpush : pushCandidate (pushCandidate [] (prefixedTool "llvm".toList tool)) tool =
      [prefixedTool "llvm".toList tool, tool] := by
    rw [pushCandidate, pushCandidate, if_neg List.not_mem_nil, List.nil_append,
      if_neg (fun h => hne (List.mem_singleton.mp h))]
    rfl
  rw [candidates]
  simp only [ne_eq, not_true_eq_false, if_false, false_or, not_false_eq_true, if_true]
  by_cases hllvm : PrefersLlvm target
  · rw [if_pos hllvm, if_pos (show _ ∨ _ from hllvm)]
    exact hpush
  · rw [if_neg hllvm, if_neg (show ¬ (_ ∨ _) from hllvm)]
    rfl

/-- The names that are tried before LLVM's when cross-compiling. -/
def gnuCandidates (host target tool : Str) : List Str :=
  let candidates := addTargetPrefixed [] target tool
  let candidates :=
    if "-linux-".toList <:+: target then
      pushCandidate candidates (prefixedTool (arch target ++ "-linux-gnu".toList) tool)
    else candidates
  if arch host = arch target ∧ ¬ "-msvc".toList <:+ target then
    addTargetPrefixed candidates host tool
  else candidates

/-- **Cross-compiling**: LLVM's tool comes last, and the plain tool not at all. -/
theorem candidates_cross {host target : Str} (hcross : host ≠ target) (tool : Str) :
    candidates host target tool =
      pushCandidate (gnuCandidates host target tool) (prefixedTool "llvm".toList tool) := by
  rw [candidates, gnuCandidates]
  simp only [ne_eq, hcross, not_false_eq_true, if_true, true_or, not_true_eq_false, if_false]

/-- The names before LLVM's are for the target's architecture. -/
theorem forArch_of_mem_gnuCandidates {host target tool c : Str}
    (hc : c ∈ gnuCandidates host target tool) : ForArch target tool c := by
  rw [gnuCandidates, mem_ite mem_addTargetPrefixed, mem_ite mem_pushCandidate,
    mem_addTargetPrefixed, or_iff_right List.not_mem_nil] at hc
  rcases hc with (htarget | ⟨-, rfl⟩) | ⟨⟨harch, -⟩, hhost⟩
  · exact htarget.forArch rfl
  · exact ⟨_, arch_append target "linux-gnu".toList, rfl⟩
  · exact hhost.forArch harch

/-- The plain tool is tried only on a host of the same kind. -/
theorem mem_candidates_plain_iff {host target tool : Str} :
    tool ∈ candidates host target tool ↔ host = target := by
  constructor
  · intro htool
    by_contra hcross
    rw [candidates_cross hcross, mem_pushCandidate] at htool
    rcases htool with hgnu | hllvm
    · obtain ⟨triple, -, heq⟩ := forArch_of_mem_gnuCandidates hgnu
      exact ne_prefixedTool triple tool heq
    · exact ne_prefixedTool _ tool hllvm
  · rintro rfl
    rw [candidates_native]
    split_ifs
    · exact List.mem_cons_of_mem _ List.mem_cons_self
    · exact List.mem_cons_self

/-- **When the plain tool is taken**: for the host itself, where LLVM's is not preferred or
does not work. -/
theorem findTool_eq_plain_iff {host target tool : Str} {works : Str → Bool} :
    findTool host target works tool = .ok tool ↔ host = target ∧ works tool = true ∧
      (PrefersLlvm target → works (prefixedTool "llvm".toList tool) = false) := by
  have hne := ne_prefixedTool "llvm".toList tool
  by_cases hsame : host = target
  · subst hsame
    rw [findTool, candidates_native]
    split_ifs with hllvm
    · cases hworks : works (prefixedTool "llvm".toList tool) with
      | true =>
          rw [List.find?_cons_of_pos hworks]
          refine iff_of_false (fun h => hne (Except.ok.inj h).symm) fun h => ?_
          exact Bool.false_ne_true (h.2.2 hllvm).symm
      | false =>
          rw [List.find?_cons_of_neg (by rw [hworks]; exact Bool.false_ne_true)]
          cases htool : works tool with
          | true =>
              rw [List.find?_cons_of_pos htool]
              exact iff_of_true rfl ⟨rfl, rfl, fun _ => rfl⟩
          | false =>
              rw [List.find?_cons_of_neg (by rw [htool]; exact Bool.false_ne_true),
                List.find?_nil]
              exact iff_of_false (fun h => nomatch h) fun h => Bool.false_ne_true h.2.1
    · cases htool : works tool with
      | true =>
          rw [List.find?_cons_of_pos htool]
          exact iff_of_true rfl ⟨rfl, rfl, fun h => absurd h hllvm⟩
      | false =>
          rw [List.find?_cons_of_neg (by rw [htool]; exact Bool.false_ne_true), List.find?_nil]
          exact iff_of_false (fun h => nomatch h) fun h => Bool.false_ne_true h.2.1
  · refine iff_of_false (fun h => hsame ?_) fun h => hsame h.1
    obtain ⟨before, after, hsplit, -⟩ := findTool_eq_ok_iff.mp h
    have hmem : tool ∈ candidates host target tool := by
      rw [hsplit]
      exact List.mem_append_right _ List.mem_cons_self
    exact mem_candidates_plain_iff.mp hmem

end TpmPlatform.ToolDiscovery
