import Mathlib.Data.List.Induction
import Mathlib.Tactic.Common

/-!
# Runs of a partial step function

A system is a step function `σ → ε → Option σ` over states `σ` and events `ε`; an event that
cannot happen in a state has no successor. A run takes a list of events in order, and every
property of runs below is an induction on that list, adding the newest event at its end.
-/

namespace SecuredApp.Core

variable {σ ε : Type*} {step : σ → ε → Option σ} {s s' : σ}

/-- Take the steps of `es` from `s` in order; `none` as soon as one of them cannot be taken. -/
def run (step : σ → ε → Option σ) (s : σ) (es : List ε) : Option σ :=
  es.foldlM step s

@[simp] lemma run_nil : run step s [] = some s := rfl

@[simp] lemma run_cons (e : ε) (es : List ε) :
    run step s (e :: es) = (step s e).bind fun s₁ => run step s₁ es := rfl

lemma run_append (es es' : List ε) :
    run step s (es ++ es') = (run step s es).bind fun s₁ => run step s₁ es' := by
  simp [run, List.foldlM_append]

lemma run_concat (es : List ε) (e : ε) :
    run step s (es ++ [e]) = (run step s es).bind fun s₁ => step s₁ e := by
  rw [run_append]
  cases run step s es with
  | none => rfl
  | some s₁ => simp

/-- The last step of a run that ends with the event `e`. -/
lemma run_concat_eq_some {es : List ε} {e : ε} :
    run step s (es ++ [e]) = some s' ↔
      ∃ s₁, run step s es = some s₁ ∧ step s₁ e = some s' := by
  rw [run_concat, Option.bind_eq_some_iff]

/-- Every event of the run satisfies `C` together with the events before it and the state it is
taken in. -/
def RunMeets (step : σ → ε → Option σ) (C : List ε → σ → ε → Prop) (s : σ) (es : List ε) : Prop :=
  ∀ pre e post s₁, es = pre ++ e :: post → run step s pre = some s₁ → C pre s₁ e

lemma runMeets_nil {C : List ε → σ → ε → Prop} : RunMeets step C s [] := by
  intro pre e post s₁ h
  simp at h

lemma RunMeets.mono {C D : List ε → σ → ε → Prop} {es : List ε}
    (h : ∀ pre s₁ e, C pre s₁ e → D pre s₁ e) (hC : RunMeets step C s es) :
    RunMeets step D s es := by
  intro pre e post s₁ heq hpre
  exact h pre s₁ e (hC pre e post s₁ heq hpre)

/-- Whether the events of a run meet a condition that only looks at the state. -/
def meetsAll (step : σ → ε → Option σ) (c : σ → ε → Bool) : σ → List ε → Bool
  | _, [] => true
  | s, e :: es =>
    c s e && match step s e with
      | none => true
      | some s₁ => meetsAll step c s₁ es

lemma runMeets_of_meetsAll {c : σ → ε → Bool} {es : List ε} (h : meetsAll step c s es = true) :
    RunMeets step (fun _ s e => c s e = true) s es := by
  induction es generalizing s with
  | nil => exact runMeets_nil
  | cons e es ih =>
    rw [meetsAll, Bool.and_eq_true] at h
    intro pre e' post s₁ heq hpre
    cases pre with
    | nil =>
      obtain ⟨rfl, -⟩ := List.cons.inj heq
      rw [run_nil, Option.some.injEq] at hpre
      exact hpre ▸ h.1
    | cons e₀ pre =>
      obtain ⟨rfl, rfl⟩ := List.cons.inj heq
      obtain ⟨s₂, hstep, hpre⟩ := Option.bind_eq_some_iff.mp hpre
      rw [hstep] at h
      exact ih h.2 pre e' post s₁ rfl hpre

/-- Conditions that are equivalent in every state of the run are met together. -/
lemma runMeets_congr {C D : List ε → σ → ε → Prop} {es : List ε}
    (h : ∀ pre e s₁, run step s pre = some s₁ → (C pre s₁ e ↔ D pre s₁ e)) :
    RunMeets step C s es ↔ RunMeets step D s es := by
  constructor
  · intro hC pre e post s₁ heq hpre
    exact (h pre e s₁ hpre).mp (hC pre e post s₁ heq hpre)
  · intro hD pre e post s₁ heq hpre
    exact (h pre e s₁ hpre).mpr (hD pre e post s₁ heq hpre)

/-- A run meets a condition if it does so up to its last event, and its last event does. -/
lemma runMeets_concat_iff {C : List ε → σ → ε → Prop} {es : List ε} {e : ε} {s₁ : σ}
    (hs : run step s es = some s₁) :
    RunMeets step C s (es ++ [e]) ↔ RunMeets step C s es ∧ C es s₁ e := by
  constructor
  · intro h
    refine ⟨fun pre e' post s₂ heq hpre => ?_, h es e [] s₁ rfl hs⟩
    exact h pre e' (post ++ [e]) s₂ (by simp [heq]) hpre
  · rintro ⟨h, hlast⟩ pre e' post s₂ heq hpre
    cases post using List.reverseRecOn with
    | nil =>
      obtain ⟨rfl, he⟩ := List.append_inj' heq rfl
      obtain ⟨rfl, -⟩ := List.cons.inj he
      rw [hs, Option.some.injEq] at hpre
      exact hpre ▸ hlast
    | append_singleton post e'' =>
      rw [← List.cons_append, ← List.append_assoc] at heq
      obtain ⟨rfl, -⟩ := List.append_inj' heq rfl
      exact h pre e' post s₂ rfl hpre

/-- Some event of the run satisfies `C` together with the events before it and the state it is
taken in. -/
def RunHas (step : σ → ε → Option σ) (C : List ε → σ → ε → Prop) (s : σ) (es : List ε) : Prop :=
  ∃ pre e post s₁, es = pre ++ e :: post ∧ run step s pre = some s₁ ∧ C pre s₁ e

/-- What a run has it still has when it goes on. -/
lemma RunHas.concat {C : List ε → σ → ε → Prop} {es : List ε} (h : RunHas step C s es) (e : ε) :
    RunHas step C s (es ++ [e]) := by
  obtain ⟨pre, e', post, s₁, rfl, hpre, hC⟩ := h
  exact ⟨pre, e', post ++ [e], s₁, by simp, hpre, hC⟩

lemma runHas_of_last {C : List ε → σ → ε → Prop} {es : List ε} {e : ε} {s₁ : σ}
    (hs : run step s es = some s₁) (hC : C es s₁ e) : RunHas step C s (es ++ [e]) :=
  ⟨es, e, [], s₁, rfl, hs, hC⟩

/-- An event after one that happened before. -/
lemma sublist_concat_of_mem {es : List ε} {e : ε} (h : e ∈ es) (e' : ε) :
    [e, e'].Sublist (es ++ [e']) :=
  (List.singleton_sublist.mpr h).append (List.Sublist.refl [e'])

/-- What comes in order in a run, up to its last event or with it. -/
lemma pair_sublist_concat_iff {es : List ε} {e e₁ e₂ : ε} :
    [e₁, e₂].Sublist (es ++ [e]) ↔ [e₁, e₂].Sublist es ∨ e₁ ∈ es ∧ e₂ = e := by
  rw [← List.reverse_sublist, List.reverse_append, List.reverse_singleton, List.singleton_append,
    List.sublist_cons_iff, List.reverse_sublist]
  refine or_congr_right ⟨?_, ?_⟩
  · rintro ⟨rest, heq, hrest⟩
    obtain ⟨rfl, rfl⟩ := List.cons.inj heq
    exact ⟨List.mem_reverse.mp (List.singleton_sublist.mp hrest), rfl⟩
  · rintro ⟨hmem, rfl⟩
    exact ⟨[e₁], rfl, List.singleton_sublist.mpr (List.mem_reverse.mpr hmem)⟩

/-- Induction over a run, for a property that may speak of the events taken so far. -/
lemma run_induction {P : List ε → σ → Prop} (h0 : P [] s)
    (hstep : ∀ es s₁ e s₂, run step s es = some s₁ → P es s₁ → step s₁ e = some s₂ →
      P (es ++ [e]) s₂)
    {es : List ε} (h : run step s es = some s') : P es s' := by
  induction es using List.reverseRecOn generalizing s' with
  | nil =>
    rw [run_nil, Option.some.injEq] at h
    exact h ▸ h0
  | append_singleton es e ih =>
    obtain ⟨s₁, hes, he⟩ := run_concat_eq_some.mp h
    exact hstep es s₁ e s' hes (ih hes) he

/-- An invariant of the steps that meet `C` holds at the end of a run whose steps all do. -/
lemma RunMeets.invariant {C : List ε → σ → ε → Prop} {P : σ → Prop} (h0 : P s)
    (hstep : ∀ es s₁ e s₂, P s₁ → C es s₁ e → step s₁ e = some s₂ → P s₂)
    {es : List ε} (hC : RunMeets step C s es) (h : run step s es = some s') : P s' := by
  induction es using List.reverseRecOn generalizing s' with
  | nil =>
    rw [run_nil, Option.some.injEq] at h
    exact h ▸ h0
  | append_singleton es e ih =>
    obtain ⟨s₁, hes, he⟩ := run_concat_eq_some.mp h
    obtain ⟨hC, hlast⟩ := (runMeets_concat_iff hes).mp hC
    exact hstep es s₁ e s' (ih hC hes) hlast he

/-- Where the steps that meet `C` keep the invariant `P`, and `P` gives `D` of the next step, a
run whose steps all meet `C` meets `D`. -/
lemma RunMeets.of_invariant {C D : List ε → σ → ε → Prop} {P : σ → Prop} (h0 : P s)
    (hstep : ∀ es s₁ e s₂, P s₁ → C es s₁ e → step s₁ e = some s₂ → P s₂)
    (hD : ∀ es s₁ e, P s₁ → C es s₁ e → D es s₁ e)
    {es : List ε} (hC : RunMeets step C s es) : RunMeets step D s es := by
  intro pre e post s₁ heq hpre
  have hmeets : RunMeets step C s pre := by
    intro pre' e' post' s₂ heq' hpre'
    exact hC pre' e' (post' ++ e :: post) s₂ (by simp [heq, heq']) hpre'
  exact hD pre s₁ e (hmeets.invariant h0 hstep hpre) (hC pre e post s₁ heq hpre)

/-- Where the steps that meet `D` keep an invariant under which `C` and `D` are equivalent, a run
meets the one exactly if it meets the other. -/
lemma runMeets_iff_of_invariant {C D : List ε → σ → ε → Prop} {P : σ → Prop} (h0 : P s)
    (hstep : ∀ es s₁ e s₂, P s₁ → D es s₁ e → step s₁ e = some s₂ → P s₂)
    (hiff : ∀ es s₁ e, P s₁ → (C es s₁ e ↔ D es s₁ e)) {es : List ε} :
    RunMeets step C s es ↔ RunMeets step D s es := by
  constructor
  · refine RunMeets.of_invariant h0 ?_ fun es s₁ e hP hC => (hiff es s₁ e hP).mp hC
    intro es s₁ e s₂ hP hC he
    exact hstep es s₁ e s₂ hP ((hiff es s₁ e hP).mp hC) he
  · exact RunMeets.of_invariant h0 hstep fun es s₁ e hP hD => (hiff es s₁ e hP).mpr hD

/-- An invariant of all steps holds at the end of every run. -/
lemma run_invariant {P : σ → Prop} (h0 : P s)
    (hstep : ∀ s₁ e s₂, P s₁ → step s₁ e = some s₂ → P s₂)
    {es : List ε} (h : run step s es = some s') : P s' :=
  run_induction (P := fun _ => P) h0 (fun _ s₁ e s₂ _ => hstep s₁ e s₂) h

/-- Where a step of one system, by an event that meets `C`, is a run of another one between the
states that `R` relates, so is a run by such events. -/
lemma run_simulates {τ δ : Type*} {step' : τ → δ → Option τ} {R : σ → τ → Prop} {C : ε → Prop}
    (hstep : ∀ s t e s₁, R s t → C e → step s e = some s₁ →
      ∃ es' t₁, run step' t es' = some t₁ ∧ R s₁ t₁)
    {es : List ε} {t : τ} (hR : R s t) (hC : ∀ e ∈ es, C e) (h : run step s es = some s') :
    ∃ es' t', run step' t es' = some t' ∧ R s' t' := by
  induction es generalizing s t with
  | nil =>
    rw [run_nil, Option.some.injEq] at h
    exact ⟨[], t, rfl, h ▸ hR⟩
  | cons e es ih =>
    obtain ⟨s₁, he, hes⟩ := Option.bind_eq_some_iff.mp h
    obtain ⟨hCe, hC⟩ := List.forall_mem_cons.mp hC
    obtain ⟨es₁, t₁, hrun₁, hR₁⟩ := hstep s t e s₁ hR hCe he
    obtain ⟨es', t', hrun, hR'⟩ := ih hR₁ hC hes
    refine ⟨es₁ ++ es', t', ?_, hR'⟩
    rw [run_append, hrun₁, Option.bind_some, hrun]

end SecuredApp.Core
