/-
# Runs of a partial labelled step function

A component that takes one action after another is a function
`step : σ → α → Option σ`: the state an action leads to, or `none` when the
action cannot be taken (or aborts).  This file gives the runs of such a
component and the rules by which a fact about one step becomes a fact about
every run:

* `runFrom step s as` : the state a sequence of actions ends in;
* `Along step P s as` : every state the sequence visits satisfies `P`;
* `Guarded step C s as` : every step the sequence takes satisfies the side
  condition `C`, evaluated on the state before it;
* `emitted step emit s as` : the events that the steps of a run emit;
* `along_iff_guarded` : if one step keeps `P` exactly when its side condition
  holds, then a whole run keeps `P` exactly when all its steps do.
-/
import Mathlib.Data.List.Basic
import Mathlib.Data.Option.Basic

namespace Runs

variable {σ τ α β : Type*} (step : σ → α → Option σ)

/-- The state that the actions `as` lead to from `s`. -/
def runFrom : σ → List α → Option σ
  | s, [] => some s
  | s, a :: as => (step s a).bind fun s' => runFrom s' as

@[simp] theorem runFrom_nil (s : σ) : runFrom step s [] = some s := rfl

/-- The first action is taken first. -/
theorem runFrom_cons (s : σ) (a : α) (as : List α) :
    runFrom step s (a :: as) = (step s a).bind fun s' => runFrom step s' as := rfl

/-- A nonempty run is its first step and a run of the rest. -/
theorem runFrom_cons_eq_some {s t : σ} {a : α} {as : List α} :
    runFrom step s (a :: as) = some t ↔
      ∃ s', step s a = some s' ∧ runFrom step s' as = some t := by
  rw [runFrom_cons, Option.bind_eq_some_iff]

/-- Runs compose. -/
theorem runFrom_append (s : σ) (as bs : List α) :
    runFrom step s (as ++ bs) = (runFrom step s as).bind fun t => runFrom step t bs := by
  induction as generalizing s with
  | nil => rfl
  | cons a as ih =>
      rw [List.cons_append, runFrom_cons, runFrom_cons]
      cases step s a with
      | none => rfl
      | some s' => exact ih s'

/-- A run of one action more is a run and a step. -/
theorem runFrom_concat_eq_some {s t : σ} {a : α} {as : List α} :
    runFrom step s (as ++ [a]) = some t ↔
      ∃ s', runFrom step s as = some s' ∧ step s' a = some t := by
  rw [runFrom_append, Option.bind_eq_some_iff]
  simp only [runFrom_cons, runFrom_nil, Option.bind_fun_some]

/-- A run stops at the first action that cannot be taken. -/
theorem runFrom_eq_none {s : σ} {as : List α} :
    runFrom step s as = none ↔
      ∃ pre a suf t, as = pre ++ a :: suf ∧ runFrom step s pre = some t ∧ step t a = none := by
  induction as generalizing s with
  | nil =>
      refine iff_of_false (by rw [runFrom_nil]; intro h; cases h) ?_
      rintro ⟨pre, a, suf, t, happ, -⟩
      exact absurd happ.symm (List.append_ne_nil_of_right_ne_nil pre (List.cons_ne_nil a suf))
  | cons a as ih =>
      rw [runFrom_cons, Option.bind_eq_none_iff]
      constructor
      · intro h
        cases hsa : step s a with
        | none => exact ⟨[], a, as, s, rfl, rfl, hsa⟩
        | some s' =>
            obtain ⟨pre, b, suf, t, rfl, hrun, hstop⟩ := ih.mp (h s' hsa)
            exact ⟨a :: pre, b, suf, t, rfl,
              (runFrom_cons_eq_some step).mpr ⟨s', hsa, hrun⟩, hstop⟩
      · rintro ⟨pre, b, suf, t, happ, hrun, hstop⟩ s' hsa
        cases pre with
        | nil =>
            obtain ⟨rfl, -⟩ := List.cons.inj happ
            rw [runFrom_nil] at hrun
            obtain rfl := Option.some.inj hrun
            rw [hsa] at hstop
            cases hstop
        | cons c pre =>
            rw [List.cons_append, List.cons.injEq] at happ
            obtain ⟨rfl, happ⟩ := happ
            obtain ⟨s₁, hsa', hrun⟩ := (runFrom_cons_eq_some step).mp hrun
            obtain rfl := Option.some.inj (hsa.symm.trans hsa')
            exact ih.mpr ⟨pre, b, suf, t, happ, hrun, hstop⟩

/-! ## Facts that hold along a run -/

/-- Every state that the actions `as` visit from `s`, the first and the last
included, satisfies `P`. -/
def Along (P : σ → Prop) : σ → List α → Prop
  | s, [] => P s
  | s, a :: as => P s ∧ ∀ s', step s a = some s' → Along P s' as

/-- Every step that the actions `as` take from `s` satisfies the side condition
`C`, which looks at the state before the step and at the action. -/
def Guarded (C : σ → α → Prop) : σ → List α → Prop
  | _, [] => True
  | s, a :: as => ∀ s', step s a = some s' → C s a ∧ Guarded C s' as

variable {step}

theorem Along.head {P : σ → Prop} {s : σ} {as : List α} (h : Along step P s as) : P s := by
  cases as with
  | nil => exact h
  | cons a as => exact h.1

/-- `Along` says what it should: `P` holds after every initial part of the run. -/
theorem along_iff_initial {P : σ → Prop} {s : σ} {as : List α} :
    Along step P s as ↔
      ∀ pre suf t, as = pre ++ suf → runFrom step s pre = some t → P t := by
  induction as generalizing s with
  | nil =>
      constructor
      · rintro h pre suf t happ hrun
        obtain ⟨rfl, rfl⟩ := List.nil_eq_append_iff.mp happ
        rw [runFrom_nil] at hrun
        exact Option.some.inj hrun ▸ h
      · intro h
        exact h [] [] s rfl rfl
  | cons a as ih =>
      constructor
      · rintro ⟨hs, hrest⟩ pre suf t happ hrun
        cases pre with
        | nil =>
            rw [runFrom_nil] at hrun
            exact Option.some.inj hrun ▸ hs
        | cons b pre =>
            rw [List.cons_append, List.cons.injEq] at happ
            obtain ⟨rfl, happ⟩ := happ
            obtain ⟨s', hstep, hrun⟩ := (runFrom_cons_eq_some step).mp hrun
            exact ih.mp (hrest s' hstep) pre suf t happ hrun
      · intro h
        refine ⟨h [] (a :: as) s rfl rfl, fun s' hstep => ih.mpr ?_⟩
        intro pre suf t happ hrun
        refine h (a :: pre) suf t (by rw [happ, List.cons_append]) ?_
        exact (runFrom_cons_eq_some step).mpr ⟨s', hstep, hrun⟩

/-- A fact along a run holds where the run ends. -/
theorem Along.final {P : σ → Prop} {s t : σ} {as : List α} (h : Along step P s as)
    (hrun : runFrom step s as = some t) : P t :=
  along_iff_initial.mp h as [] t (List.append_nil as).symm hrun

theorem Along.mono {P Q : σ → Prop} (hPQ : ∀ s, P s → Q s) {s : σ} {as : List α}
    (h : Along step P s as) : Along step Q s as := by
  rw [along_iff_initial] at *
  intro pre suf t happ hrun
  exact hPQ t (h pre suf t happ hrun)

/-- Two facts that hold along a run hold together along it. -/
theorem Along.and {P Q : σ → Prop} {s : σ} {as : List α} (hP : Along step P s as)
    (hQ : Along step Q s as) : Along step (fun s => P s ∧ Q s) s as := by
  rw [along_iff_initial] at *
  intro pre suf t happ hrun
  exact ⟨hP pre suf t happ hrun, hQ pre suf t happ hrun⟩

/-- Two side conditions can be checked together. -/
theorem Guarded.and {C D : σ → α → Prop} {s : σ} {as : List α} (hC : Guarded step C s as)
    (hD : Guarded step D s as) : Guarded step (fun s a => C s a ∧ D s a) s as := by
  induction as generalizing s with
  | nil => exact trivial
  | cons a as ih =>
      intro s' h
      obtain ⟨hCs, hCrest⟩ := hC s' h
      obtain ⟨hDs, hDrest⟩ := hD s' h
      exact ⟨⟨hCs, hDs⟩, ih hCrest hDrest⟩

/-- A side condition that every step of the run meets, each after the ones before it. -/
theorem guarded_of_initial {C : σ → α → Prop} {s : σ} {as : List α}
    (h : ∀ pre a suf t, as = pre ++ a :: suf → runFrom step s pre = some t → C t a) :
    Guarded step C s as := by
  induction as generalizing s with
  | nil => exact trivial
  | cons a as ih =>
      intro s' hsa
      refine ⟨h [] a as s rfl rfl, ih fun pre b suf t happ hrun => ?_⟩
      refine h (a :: pre) b suf t (congrArg (List.cons a) happ) ?_
      exact (runFrom_cons_eq_some step).mpr ⟨s', hsa, hrun⟩

/-- The last step of a run meets its side condition. -/
theorem Guarded.final {C : σ → α → Prop} {s t t' : σ} {as : List α} {a : α}
    (h : Guarded step C s (as ++ [a])) (hrun : runFrom step s as = some t)
    (hstep : step t a = some t') : C t a := by
  induction as generalizing s with
  | nil =>
      obtain rfl := Option.some.inj hrun
      exact (h t' hstep).1
  | cons b as ih =>
      obtain ⟨s', hsb, hrest⟩ := (runFrom_cons_eq_some step).mp hrun
      exact ih (h s' hsb).2 hrest

/-- Side conditions that agree on every step that can be taken guard the same runs. -/
theorem Guarded.congr {C D : σ → α → Prop}
    (h : ∀ s a s', step s a = some s' → (C s a ↔ D s a)) {s : σ} {as : List α} :
    Guarded step C s as ↔ Guarded step D s as := by
  induction as generalizing s with
  | nil => exact Iff.rfl
  | cons a as ih =>
      constructor
      · intro hC s' hsa
        exact ⟨(h s a s' hsa).mp (hC s' hsa).1, ih.mp (hC s' hsa).2⟩
      · intro hD s' hsa
        exact ⟨(h s a s' hsa).mpr (hD s' hsa).1, ih.mpr (hD s' hsa).2⟩

/-- A run of renamed actions visits the same states. -/
theorem along_map (f : β → α) {P : σ → Prop} {s : σ} {bs : List β} :
    Along step P s (bs.map f) ↔ Along (fun s b => step s (f b)) P s bs := by
  induction bs generalizing s with
  | nil => exact Iff.rfl
  | cons b bs ih => exact and_congr_right fun _ => forall₂_congr fun s' _ => ih

/-- A run of renamed actions meets the same side conditions. -/
theorem guarded_map (f : β → α) {C : σ → α → Prop} {s : σ} {bs : List β} :
    Guarded step C s (bs.map f) ↔
      Guarded (fun s b => step s (f b)) (fun s b => C s (f b)) s bs := by
  induction bs generalizing s with
  | nil => exact Iff.rfl
  | cons b bs ih => exact forall₂_congr fun s' _ => and_congr_right fun _ => ih

/-- **Invariants.**  What every step keeps, every run keeps. -/
theorem along_of_step {P : σ → Prop} (hstep : ∀ s a s', P s → step s a = some s' → P s')
    {s : σ} (hs : P s) (as : List α) : Along step P s as := by
  induction as generalizing s with
  | nil => exact hs
  | cons a as ih => exact ⟨hs, fun s' h => ih (hstep s a s' hs h)⟩

/-- **Guarded invariants.**  What every step keeps under its side condition, every
run keeps whose steps all meet it. -/
theorem along_of_guarded {P : σ → Prop} {C : σ → α → Prop}
    (hstep : ∀ s a s', P s → C s a → step s a = some s' → P s')
    {s : σ} (hs : P s) {as : List α} (hg : Guarded step C s as) : Along step P s as := by
  induction as generalizing s with
  | nil => exact hs
  | cons a as ih =>
      refine ⟨hs, fun s' h => ?_⟩
      obtain ⟨hC, hrest⟩ := hg s' h
      exact ih (hstep s a s' hs hC h) hrest

/-- **Exact guards.**  If a step keeps `P` exactly when its side condition holds,
then a run keeps `P` exactly when all its steps meet the condition. -/
theorem along_iff_guarded {P : σ → Prop} {C : σ → α → Prop}
    (hstep : ∀ s a s', P s → step s a = some s' → (P s' ↔ C s a))
    {s : σ} (hs : P s) (as : List α) : Along step P s as ↔ Guarded step C s as := by
  constructor
  · intro h
    induction as generalizing s with
    | nil => exact trivial
    | cons a as ih =>
        intro s' hsa
        -- the fact holds after the step, which gives its side condition
        have hrest := h.2 s' hsa
        exact ⟨(hstep s a s' hs hsa).mp hrest.head, ih hrest.head hrest⟩
  · exact along_of_guarded (fun s a s' hP hC hsa => (hstep s a s' hP hsa).mpr hC) hs

/-- **Exact guards under an assumption.**  The same for the steps that meet an
assumption `D`, which keeps the invariant `I` going. -/
theorem along_iff_guarded_under {P I : σ → Prop} {C D : σ → α → Prop}
    (hI : ∀ s a s', I s → D s a → step s a = some s' → I s')
    (hstep : ∀ s a s', I s → D s a → step s a = some s' → (P s' ↔ C s a))
    {s : σ} (hs : I s) (hP : P s) {as : List α} (hD : Guarded step D s as) :
    Along step P s as ↔ Guarded step C s as := by
  induction as generalizing s with
  | nil => exact iff_of_true hP trivial
  | cons a as ih =>
      constructor
      · intro h s' hsa
        obtain ⟨hDs, hDrest⟩ := hD s' hsa
        have hrest := h.2 s' hsa
        exact ⟨(hstep s a s' hs hDs hsa).mp hrest.head,
          (ih (hI s a s' hs hDs hsa) hrest.head hDrest).mp hrest⟩
      · intro h
        refine ⟨hP, fun s' hsa => ?_⟩
        obtain ⟨hDs, hDrest⟩ := hD s' hsa
        obtain ⟨hCs, hCrest⟩ := h s' hsa
        exact (ih (hI s a s' hs hDs hsa) ((hstep s a s' hs hDs hsa).mpr hCs) hDrest).mpr hCrest

/-- What every step keeps holds where a run ends. -/
theorem invariant_runFrom {P : σ → Prop} (hstep : ∀ s a s', P s → step s a = some s' → P s')
    {s t : σ} {as : List α} (hs : P s) (hrun : runFrom step s as = some t) : P t :=
  (along_of_step hstep hs as).final hrun

/-! ## Ghost state -/

section Ghost

variable {ghost : τ → α → Option τ} {π : τ → σ}

/-- A component that carries additional data along, and is the original one when they
are forgotten, visits the same states. -/
theorem along_ghost (hπ : ∀ t a, (ghost t a).map π = step (π t) a) {P : σ → Prop} {t : τ}
    {as : List α} : Along step P (π t) as ↔ Along ghost (fun t => P (π t)) t as := by
  induction as generalizing t with
  | nil => exact Iff.rfl
  | cons a as ih =>
      refine and_congr_right fun _ => ⟨fun h t' hta => ?_, fun h s' hsa => ?_⟩
      · exact ih.mp (h (π t') (by rw [← hπ, hta]; rfl))
      · rw [← hπ, Option.map_eq_some_iff] at hsa
        obtain ⟨t', hta, rfl⟩ := hsa
        exact ih.mpr (h t' hta)

/-- It meets the same side conditions. -/
theorem guarded_ghost (hπ : ∀ t a, (ghost t a).map π = step (π t) a) {C : σ → α → Prop} {t : τ}
    {as : List α} : Guarded step C (π t) as ↔ Guarded ghost (fun t a => C (π t) a) t as := by
  induction as generalizing t with
  | nil => exact Iff.rfl
  | cons a as ih =>
      refine ⟨fun h t' hta => ?_, fun h s' hsa => ?_⟩
      · obtain ⟨hC, hrest⟩ := h (π t') (by rw [← hπ, hta]; rfl)
        exact ⟨hC, ih.mp hrest⟩
      · rw [← hπ, Option.map_eq_some_iff] at hsa
        obtain ⟨t', hta, rfl⟩ := hsa
        obtain ⟨hC, hrest⟩ := h t' hta
        exact ⟨hC, ih.mpr hrest⟩

end Ghost

/-! ## Runs that cannot get stuck -/

section Progress

variable {P : σ → List α → Prop}

/-- **Progress.**  `P` relates a state to the actions still to come.  If the next of
them can always be taken and leads to such a state again, then all of them can. -/
theorem exists_runFrom (hstep : ∀ s a as, P s (a :: as) → ∃ s', step s a = some s' ∧ P s' as)
    {s : σ} {as : List α} (hP : P s as) : ∃ t, runFrom step s as = some t ∧ P t [] := by
  induction as generalizing s with
  | nil => exact ⟨s, rfl, hP⟩
  | cons a as ih =>
      obtain ⟨s', hsa, hP'⟩ := hstep s a as hP
      obtain ⟨t, hrun, ht⟩ := ih hP'
      exact ⟨t, (runFrom_cons_eq_some step).mpr ⟨s', hsa, hrun⟩, ht⟩

/-- What `P` says about the state holds along such a run. -/
theorem along_of_progress {Q : σ → Prop}
    (hstep : ∀ s a as, P s (a :: as) → ∃ s', step s a = some s' ∧ P s' as)
    (hQ : ∀ s as, P s as → Q s) {s : σ} {as : List α} (hP : P s as) : Along step Q s as := by
  induction as generalizing s with
  | nil => exact hQ s [] hP
  | cons a as ih =>
      refine ⟨hQ s (a :: as) hP, fun s' h => ih ?_⟩
      obtain ⟨s₁, hsa, hP'⟩ := hstep s a as hP
      rw [hsa, Option.some.injEq] at h
      exact h ▸ hP'

/-- What `P` says about the next action guards such a run. -/
theorem guarded_of_progress {C : σ → α → Prop}
    (hstep : ∀ s a as, P s (a :: as) → ∃ s', step s a = some s' ∧ P s' as)
    (hC : ∀ s a as, P s (a :: as) → C s a) {s : σ} {as : List α} (hP : P s as) :
    Guarded step C s as := by
  induction as generalizing s with
  | nil => exact trivial
  | cons a as ih =>
      intro s' h
      obtain ⟨s₁, hsa, hP'⟩ := hstep s a as hP
      rw [hsa, Option.some.injEq] at h
      exact ⟨hC s a as hP, ih (h ▸ hP')⟩

end Progress

/-! ## Replacing actions -/

/-- The run in which each action is replaced by others, chosen in the state that it is taken
in. -/
def expanded (step : σ → α → Option σ) (expand : σ → α → List α) : σ → List α → List α
  | _, [] => []
  | s, a :: as =>
    expand s a ++
      match step s a with
      | none => []
      | some s' => expanded step expand s' as

/-- Two runs one after the other meet a side condition if both do. -/
theorem Guarded.append {C : σ → α → Prop} {s : σ} {as bs : List α} (has : Guarded step C s as)
    (hbs : ∀ t, runFrom step s as = some t → Guarded step C t bs) :
    Guarded step C s (as ++ bs) := by
  induction as generalizing s with
  | nil => exact hbs s rfl
  | cons a as ih =>
      intro s' hsa
      obtain ⟨hC, hrest⟩ := has s' hsa
      refine ⟨hC, ih hrest fun t ht => hbs t ?_⟩
      exact (runFrom_cons_eq_some step).mpr ⟨s', hsa, ht⟩

section Expansion

variable {expand : σ → α → List α}

/-- **Replacing actions.**  If in every state the replacement does what the action does, then
the run ends as before. -/
theorem runFrom_expanded (h : ∀ s a, runFrom step s (expand s a) = step s a) (s : σ)
    (as : List α) : runFrom step s (expanded step expand s as) = runFrom step s as := by
  induction as generalizing s with
  | nil => rfl
  | cons a as ih =>
      rw [expanded, runFrom_append, h, runFrom_cons]
      cases step s a with
      | none => rfl
      | some s' => exact ih s'

/-- It meets the side conditions that the replacements meet. -/
theorem guarded_expanded {C : σ → α → Prop}
    (h : ∀ s a, runFrom step s (expand s a) = step s a)
    (hC : ∀ s a, Guarded step C s (expand s a)) (s : σ) (as : List α) :
    Guarded step C s (expanded step expand s as) := by
  induction as generalizing s with
  | nil => exact trivial
  | cons a as ih =>
      rw [expanded]
      refine (hC s a).append fun t ht => ?_
      rw [h] at ht
      rw [ht]
      exact ih t

end Expansion

/-! ## Histories -/

/-- The events that a run emits, when a step from `s` by `a` emits `emit s a`; the
step after which the run stops emits its events as well. -/
def emitted (step : σ → α → Option σ) (emit : σ → α → List β) : σ → List α → List β
  | _, [] => []
  | s, a :: as =>
    emit s a ++
      match step s a with
      | none => []
      | some s' => emitted step emit s' as

/-- The events of a run whose first step is known. -/
theorem emitted_cons {step : σ → α → Option σ} {s s' : σ} {a : α} (h : step s a = some s')
    (emit : σ → α → List β) (as : List α) :
    emitted step emit s (a :: as) = emit s a ++ emitted step emit s' as := by
  rw [emitted, h]

/-- An event of a run is the event of one of its steps. -/
theorem exists_of_mem_emitted {step : σ → α → Option σ} {emit : σ → α → List β} {s : σ}
    {as : List α} {e : β} (h : e ∈ emitted step emit s as) : ∃ a ∈ as, ∃ t, e ∈ emit t a := by
  induction as generalizing s with
  | nil => exact absurd h List.not_mem_nil
  | cons a as ih =>
      rw [emitted, List.mem_append] at h
      rcases h with h | h
      · exact ⟨a, List.mem_cons_self, s, h⟩
      · split at h
        · exact absurd h List.not_mem_nil
        · obtain ⟨b, hb, t, ht⟩ := ih h
          exact ⟨b, List.mem_cons_of_mem a hb, t, ht⟩

/-- **Histories.**  If every step keeps `R` between the state and the events so far,
then `R` holds between the end of a run and all the events it emitted. -/
theorem emitted_of_step {emit : σ → α → List β} {R : σ → List β → Prop}
    (hstep : ∀ s a s' es, R s es → step s a = some s' → R s' (es ++ emit s a))
    {s s' : σ} {es : List β} {as : List α} (hR : R s es) (hrun : runFrom step s as = some s') :
    R s' (es ++ emitted step emit s as) := by
  induction as generalizing s es with
  | nil =>
      rw [runFrom_nil] at hrun
      rw [emitted, List.append_nil]
      exact Option.some.inj hrun ▸ hR
  | cons a as ih =>
      obtain ⟨s₁, hsa, hrest⟩ := (runFrom_cons_eq_some step).mp hrun
      rw [emitted_cons hsa, ← List.append_assoc]
      exact ih (hstep s a s₁ es hR hsa) hrest

/-- **Histories of runs that may stop.**  If every step keeps `R` between the state and
the events so far, and the events a step adds to such a history make a good one, whether
or not the step can be taken, then the events of every run make a good history. -/
theorem emitted_good {emit : σ → α → List β} {R : σ → List β → Prop} {Good : List β → Prop}
    (hstep : ∀ s a s' es, R s es → step s a = some s' → R s' (es ++ emit s a))
    (hgood : ∀ s a es, R s es → Good (es ++ emit s a))
    {s : σ} {es : List β} (hR : R s es) (hes : Good es) (as : List α) :
    Good (es ++ emitted step emit s as) := by
  induction as generalizing s es with
  | nil =>
      rw [emitted, List.append_nil]
      exact hes
  | cons a as ih =>
      cases hsa : step s a with
      | none =>
          rw [emitted, hsa, List.append_nil]
          exact hgood s a es hR
      | some s' =>
          rw [emitted_cons hsa, ← List.append_assoc]
          exact ih (hstep s a s' es hR hsa) (hgood s a es hR)

/-! ## Evaluating runs -/

/-- Whether a fact holds along a given run can be computed. -/
instance Along.decidable {P : σ → Prop} [DecidablePred P] :
    ∀ (s : σ) (as : List α), Decidable (Along step P s as)
  | s, [] => inferInstanceAs (Decidable (P s))
  | s, a :: as =>
    match h : step s a with
    | none => decidable_of_iff (P s) ⟨fun hs => ⟨hs, fun s' h' => by rw [h] at h'; cases h'⟩,
        fun hs => hs.1⟩
    | some s' =>
      have := Along.decidable (P := P) s' as
      decidable_of_iff (P s ∧ Along step P s' as)
        ⟨fun hs => ⟨hs.1, fun t ht => by rw [h] at ht; exact Option.some.inj ht ▸ hs.2⟩,
          fun hs => ⟨hs.1, hs.2 s' h⟩⟩

/-- Whether the steps of a given run meet a side condition can be computed. -/
instance Guarded.decidable {C : σ → α → Prop} [∀ s a, Decidable (C s a)] :
    ∀ (s : σ) (as : List α), Decidable (Guarded step C s as)
  | _, [] => isTrue trivial
  | s, a :: as =>
    match h : step s a with
    | none => isTrue fun s' h' => by rw [h] at h'; cases h'
    | some s' =>
      have := Guarded.decidable (C := C) s' as
      decidable_of_iff (C s a ∧ Guarded step C s' as)
        ⟨fun hs t ht => by rw [h] at ht; exact Option.some.inj ht ▸ hs,
          fun hs => hs s' h⟩

/-! ## Simulation -/

/-- **Simulation under a guard.**  If `R` relates the states before a step that meets
the side condition, and the abstract component `spec` can follow it, then it can
follow a whole run of such steps. -/
theorem simulates_of_guarded {R : σ → τ → Prop} {C : σ → α → Prop} {spec : τ → α → τ}
    (hstep : ∀ s t a s', R s t → C s a → step s a = some s' → R s' (spec t a))
    {s s' : σ} {t : τ} {as : List α} (hR : R s t) (hg : Guarded step C s as)
    (hrun : runFrom step s as = some s') : R s' (as.foldl spec t) := by
  induction as generalizing s t with
  | nil =>
      rw [runFrom_nil] at hrun
      exact Option.some.inj hrun ▸ hR
  | cons a as ih =>
      obtain ⟨s₁, hsa, hrest⟩ := (runFrom_cons_eq_some step).mp hrun
      obtain ⟨hC, hgrest⟩ := hg s₁ hsa
      exact ih (hstep s t a s₁ hR hC hsa) hgrest hrest

/-- A condition that always holds guards every run. -/
theorem guarded_of_forall {C : σ → α → Prop} (hC : ∀ s a, C s a) (s : σ) (as : List α) :
    Guarded step C s as := by
  induction as generalizing s with
  | nil => exact trivial
  | cons a as ih => exact fun s' _ => ⟨hC s a, ih s'⟩

/-- A condition that every action of a run meets guards it. -/
theorem guarded_of_mem {C : σ → α → Prop} {s : σ} {as : List α} (hC : ∀ a ∈ as, ∀ t, C t a) :
    Guarded step C s as := by
  induction as generalizing s with
  | nil => exact trivial
  | cons a as ih =>
      exact fun s' _ =>
        ⟨hC a List.mem_cons_self s, ih fun b hb => hC b (List.mem_cons_of_mem a hb)⟩

/-- **Simulation.**  If `R` relates the states before a step and the abstract
component `spec` can always follow, then it can follow a whole run. -/
theorem simulates_runFrom {R : σ → τ → Prop} {spec : τ → α → τ}
    (hstep : ∀ s t a s', R s t → step s a = some s' → R s' (spec t a))
    {s s' : σ} {t : τ} {as : List α} (hR : R s t) (hrun : runFrom step s as = some s') :
    R s' (as.foldl spec t) :=
  simulates_of_guarded (C := fun _ _ => True) (fun s t a s' hR _ h => hstep s t a s' hR h) hR
    (guarded_of_forall (fun _ _ => trivial) s as) hrun

end Runs
