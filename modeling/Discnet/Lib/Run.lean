import Mathlib.Data.List.Basic

/-!
# Runs

A machine takes its inputs one after the other. What each step preserves
holds at the end of a run, and what each step leaves behind holds all along.
-/

namespace Discnet.Lib

variable {σ ι : Type} {step : σ → ι → σ} {P Q : σ → ι → Prop} {Inv : σ → Prop}

/-- Every step of the run is taken in a state and with an input that `P`
relates. -/
def Throughout (step : σ → ι → σ) (P : σ → ι → Prop) : σ → List ι → Prop
  | _, [] => True
  | s, input :: rest => P s input ∧ Throughout step P (step s input) rest

instance Throughout.decidable [∀ s input, Decidable (P s input)] :
    ∀ (s : σ) (inputs : List ι), Decidable (Throughout step P s inputs)
  | _, [] => .isTrue trivial
  | s, input :: rest =>
    @instDecidableAnd _ _ _ (Throughout.decidable (step s input) rest)

theorem Throughout.invariant {inputs : List ι} (h : Throughout step P s inputs) (hs : Inv s)
    (hstep : ∀ s, ∀ input ∈ inputs, Inv s → P s input → Inv (step s input)) :
    Inv (inputs.foldl step s) := by
  induction inputs generalizing s with
  | nil => exact hs
  | cons input rest ih =>
    obtain ⟨hp, hrest⟩ := h
    refine ih hrest (hstep s input List.mem_cons_self hs hp) fun s other hother => ?_
    exact hstep s other (List.mem_cons_of_mem _ hother)

/-- A second machine that takes the same inputs stays related. -/
theorem Throughout.simulation {τ : Type} {step' : τ → ι → τ} {R : τ → σ → Prop} {t : τ}
    {inputs : List ι} (h : Throughout step P s inputs) (hr : R t s)
    (hstep : ∀ t s input, R t s → P s input → R (step' t input) (step s input)) :
    R (inputs.foldl step' t) (inputs.foldl step s) := by
  induction inputs generalizing s t with
  | nil => exact hr
  | cons input rest ih => exact ih h.2 (hstep t s input hr h.1)

theorem Throughout.step_after {before rest : List ι} {input : ι}
    (h : Throughout step P s (before ++ input :: rest)) : P (before.foldl step s) input := by
  induction before generalizing s with
  | nil => exact h.1
  | cons first before ih => exact ih h.2

theorem Throughout.left {inputs others : List ι} (h : Throughout step P s (inputs ++ others)) :
    Throughout step P s inputs := by
  induction inputs generalizing s with
  | nil => trivial
  | cons input rest ih => exact ⟨h.1, ih h.2⟩

theorem Throughout.imp {inputs : List ι} (h : Throughout step P s inputs)
    (himp : ∀ s input, P s input → Q s input) : Throughout step Q s inputs := by
  induction inputs generalizing s with
  | nil => trivial
  | cons input rest ih => exact ⟨himp s input h.1, ih h.2⟩

theorem Throughout.and {inputs : List ι} (h : Throughout step P s inputs)
    (h' : Throughout step Q s inputs) :
    Throughout step (fun s input => P s input ∧ Q s input) s inputs := by
  induction inputs generalizing s with
  | nil => trivial
  | cons input rest ih => exact ⟨⟨h.1, h'.1⟩, ih h.2 h'.2⟩

theorem throughout_of_forall {R : ι → Prop} {inputs : List ι} (h : ∀ input ∈ inputs, R input)
    (s : σ) : Throughout step (fun _ input => R input) s inputs := by
  induction inputs generalizing s with
  | nil => trivial
  | cons input rest ih =>
    obtain ⟨hinput, hrest⟩ := List.forall_mem_cons.mp h
    exact ⟨hinput, ih hrest (step s input)⟩

/-- What follows from an invariant and the conditions holds at every step. -/
theorem Throughout.derive {inputs : List ι} (h : Throughout step P s inputs) (hs : Inv s)
    (hstep : ∀ s input, Inv s → P s input → Inv (step s input) ∧ Q s input) :
    Throughout step Q s inputs := by
  induction inputs generalizing s with
  | nil => trivial
  | cons input rest ih =>
    obtain ⟨hnext, hq⟩ := hstep s input hs h.1
    exact ⟨hq, ih h.2 hnext⟩

/-- Two conditions are the same as long as an invariant holds, and it holds as
long as they do. -/
theorem throughout_congr {inputs : List ι} (hs : Inv s)
    (hstep : ∀ s input, Inv s → P s input → Inv (step s input))
    (h : ∀ s input, Inv s → (P s input ↔ Q s input)) :
    Throughout step P s inputs ↔ Throughout step Q s inputs := by
  induction inputs generalizing s with
  | nil => exact Iff.rfl
  | cons input rest ih =>
    rw [Throughout, Throughout, ← h s input hs, and_congr_right_iff]
    intro hp
    exact ih (hstep s input hs hp)

theorem Throughout.append {inputs others : List ι} (h : Throughout step P s inputs)
    (h' : Throughout step P (inputs.foldl step s) others) :
    Throughout step P s (inputs ++ others) := by
  induction inputs generalizing s with
  | nil => exact h'
  | cons input rest ih => exact ⟨h.1, ih h.2 h'⟩

/-- Where a second machine answers every step with steps of its own, it
answers a whole run with as many runs. -/
theorem Throughout.forward {τ κ α : Type} {step' : τ → κ → τ} {R : σ → τ → Prop}
    {label : ι → List α} {label' : κ → α} {t : τ} {inputs : List ι}
    (h : Throughout step P s inputs) (hr : R s t)
    (hstep : ∀ s t input, R s t → P s input → ∃ answers : List κ,
      answers.map label' = label input ∧ R (step s input) (answers.foldl step' t)) :
    ∃ answers : List κ, answers.map label' = inputs.flatMap label ∧
      R (inputs.foldl step s) (answers.foldl step' t) := by
  induction inputs generalizing s t with
  | nil => exact ⟨[], rfl, hr⟩
  | cons input rest ih =>
    obtain ⟨first, hfirst, hnext⟩ := hstep s t input hr h.1
    obtain ⟨others, hothers, hlast⟩ := ih h.2 hnext
    refine ⟨first ++ others, ?_, ?_⟩
    · rw [List.map_append, hfirst, hothers, List.flatMap_cons]
    · rwa [List.foldl_append]

/-- A machine that could fail does not, where each of its steps is one of a
machine that cannot. -/
theorem Throughout.total {τ : Type} {step' : τ → ι → Option τ} {Inv : τ → Prop} {f : τ → σ} {t : τ}
    {inputs : List ι} (h : Throughout step P (f t) inputs) (ht : Inv t)
    (hstep : ∀ t input, Inv t → P (f t) input →
      ∃ t', step' t input = some t' ∧ Inv t' ∧ f t' = step (f t) input) :
    ∃ t', inputs.foldlM step' t = some t' ∧ Inv t' ∧ f t' = inputs.foldl step (f t) := by
  induction inputs generalizing t with
  | nil => exact ⟨t, rfl, ht, rfl⟩
  | cons input rest ih =>
    obtain ⟨t', hfirst, ht', hnext⟩ := hstep t input ht h.1
    obtain ⟨u, hrest, hu, hlast⟩ := ih (hnext ▸ h.2) ht'
    exact ⟨u, by simp [hfirst, hrest], hu, by rw [hlast, hnext, List.foldl_cons]⟩

/-- A run keeps to `P` and leads from one state to the other. -/
structure Leads (step : σ → ι → σ) (P : σ → ι → Prop) (s : σ) (inputs : List ι) (t : σ) : Prop where
  throughout : Throughout step P s inputs
  ends : inputs.foldl step s = t

namespace Leads

variable {t u : σ} {inputs others : List ι}

theorem nil (s : σ) : Leads step P s [] s := ⟨trivial, rfl⟩

theorem single (h : P s input) (ht : step s input = t) : Leads step P s [input] t :=
  ⟨⟨h, trivial⟩, ht⟩

theorem append (h : Leads step P s inputs t) (h' : Leads step P t others u) :
    Leads step P s (inputs ++ others) u := by
  obtain ⟨hfirst, rfl⟩ := h
  obtain ⟨hsecond, hends⟩ := h'
  exact ⟨hfirst.append hsecond, by simpa using hends⟩

theorem cons (h : P s input) (h' : Leads step P (step s input) inputs t) :
    Leads step P s (input :: inputs) t :=
  (single h rfl).append h'

theorem of_eq (h : Leads step P s inputs t) (ht : t = u) : Leads step P s inputs u := ht ▸ h

end Leads

end Discnet.Lib
