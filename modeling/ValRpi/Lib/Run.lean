import Mathlib.Data.List.Basic

/-!
# Runs

Runs of a labelled transition system: from an initial state, a sequence of
labelled steps, the newest label first.

* `Run.invariant` is the induction over a run, `Run.ghost` the one of a
  property that also looks at the labels;
* `Run.when` restricts the steps: a run of `Run.when P step` is a run whose
  steps all meet the condition `P`, on the state before the step and its label.
-/

/-- A run of `step` from `s₀`: its labels, newest first, and its last state. -/
inductive Run {S L : Type} (step : S → L → S → Prop) (s₀ : S) : List L → S → Prop
  | nil : Run step s₀ [] s₀
  | step {ls : List L} {l : L} {s s' : S} :
    Run step s₀ ls s → step s l s' → Run step s₀ (l :: ls) s'

namespace Run

variable {S L : Type} {step : S → L → S → Prop} {s₀ s : S} {ls : List L}

/-- The steps that meet a condition on the state before and the label. -/
def when (P : S → L → Prop) (step : S → L → S → Prop) (s : S) (l : L) (s' : S) : Prop :=
  P s l ∧ step s l s'

/-- A property of the labels and the state that every step keeps holds at the
    end of every run. -/
theorem ghost (Inv : List L → S → Prop) (h0 : Inv [] s₀)
    (hstep : ∀ ls s l s', Inv ls s → step s l s' → Inv (l :: ls) s') (h : Run step s₀ ls s) :
    Inv ls s := by
  induction h with
  | nil => exact h0
  | step _ hs ih => exact hstep _ _ _ _ ih hs

/-- A property of the state that every step keeps holds at the end of every run. -/
theorem invariant (Inv : S → Prop) (h0 : Inv s₀)
    (hstep : ∀ s l s', Inv s → step s l s' → Inv s') (h : Run step s₀ ls s) : Inv s :=
  h.ghost (fun _ => Inv) h0 fun _ => hstep

/-- A run is one of any other system that has its steps. -/
theorem mono {step' : S → L → S → Prop} (hstep : ∀ s l s', step s l s' → step' s l s')
    (h : Run step s₀ ls s) : Run step' s₀ ls s := by
  induction h with
  | nil => exact .nil
  | step _ hs ih => exact .step ih (hstep _ _ _ hs)

theorem of_when {P : S → L → Prop} (h : Run (when P step) s₀ ls s) : Run step s₀ ls s :=
  h.mono fun _ _ _ hs => hs.2

/-- A run has a state after every number of its steps. -/
theorem exists_of_append {later : List L} (h : Run step s₀ (later ++ ls) s) :
    ∃ s', Run step s₀ ls s' := by
  induction later generalizing s with
  | nil => exact ⟨s, h⟩
  | cons l later ih =>
    cases h with
    | step h _ => exact ih h

end Run
