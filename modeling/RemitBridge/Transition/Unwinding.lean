import RemitBridge.Transition.Basic

/-!
# Unwinding: runs that look the same

An observer of a system sees part of its state and some of its steps.  If what it sees is itself a
deterministic system, then two runs that start in states that look the same, and that show the
same steps, end in states that look the same, however many hidden steps each of them takes in
between.

## Main definitions

* `TransitionSystem.Observation A B` : what shows of the steps of `A` are steps of `B`.

## Main results

* `Observation.run` : what shows of a run of `A` is a run of `B`.
* `Observation.state_eq` : the same visible steps lead to the same visible state.
* `Observation.forall₂_visible` : the visible steps of two such runs correspond one by one.
-/

namespace RemitBridge

namespace TransitionSystem

variable {S L T M : Type*} {A : TransitionSystem S L} {B : TransitionSystem T M}

/-- An observation of the states of `A` that satisfy the invariant: a step is hidden and does not
change what shows, or what shows of it is a step of `B`. -/
structure Observation (A : TransitionSystem S L) (B : TransitionSystem T M) where
  /-- The states that are observed. -/
  Inv : S → Prop
  /-- What shows of a state. -/
  state : S → T
  /-- What shows of a step; `none` if it is hidden. -/
  label : L → Option M
  inv_step : ∀ {s l s'}, Inv s → A.step s l s' → Inv s'
  step : ∀ {s l s'}, Inv s → A.step s l s' → (label l = none ∧ state s' = state s) ∨
    ∃ m, label l = some m ∧ B.step (state s) m (state s')

namespace Observation

variable (O : Observation A B) {s s₁ s₂ s₁' s₂' : S} {ls ls₁ ls₂ : List L}

theorem inv_run (h : A.Run s ls s₁) (hs : O.Inv s) : O.Inv s₁ :=
  h.invariant hs fun _ _ _ hs hst => O.inv_step hs hst

/-- What shows of a run is a run. -/
theorem run (h : A.Run s ls s₁) (hs : O.Inv s) :
    B.Run (O.state s) (ls.filterMap O.label) (O.state s₁) := by
  induction h with
  | nil => exact .nil _
  | snoc h hst ih =>
    rw [List.filterMap_append]
    rcases O.step (O.inv_run h hs) hst with ⟨hnone, heq⟩ | ⟨m, hsome, hm⟩
    · rw [List.filterMap_cons_none hnone, List.filterMap_nil, List.append_nil, heq]
      exact ih
    · rw [List.filterMap_cons_some hsome, List.filterMap_nil]
      exact .snoc ih hm

/-- **Unwinding**: runs that show the same steps end in states that look the same. -/
theorem state_eq (hdet : B.Deterministic) (h₁ : A.Run s₁ ls₁ s₁') (h₂ : A.Run s₂ ls₂ s₂')
    (hs₁ : O.Inv s₁) (hs₂ : O.Inv s₂) (hstate : O.state s₁ = O.state s₂)
    (hlabels : ls₁.filterMap O.label = ls₂.filterMap O.label) : O.state s₁' = O.state s₂' := by
  have hrun₁ := O.run h₁ hs₁
  have hrun₂ := O.run h₂ hs₂
  rw [hstate, hlabels] at hrun₁
  exact hrun₁.unique hdet hrun₂

/-- **Visible steps correspond**: whatever holds of any two steps that look the same, taken from
states that look the same, holds of the visible steps of two such runs, pair by pair. -/
theorem forall₂_visible (hdet : B.Deterministic) {R : L → L → Prop}
    (hR : ∀ {s₁ l₁ s₁' s₂ l₂ s₂'}, O.Inv s₁ → O.Inv s₂ → O.state s₁ = O.state s₂ →
      O.label l₁ = O.label l₂ → (O.label l₁).isSome → A.step s₁ l₁ s₁' → A.step s₂ l₂ s₂' →
      R l₁ l₂)
    (h₁ : A.Run s₁ ls₁ s₁') (h₂ : A.Run s₂ ls₂ s₂') (hs₁ : O.Inv s₁) (hs₂ : O.Inv s₂)
    (hstate : O.state s₁ = O.state s₂)
    (hlabels : ls₁.filterMap O.label = ls₂.filterMap O.label) :
    List.Forall₂ R (ls₁.filter fun l => (O.label l).isSome)
      (ls₂.filter fun l => (O.label l).isSome) := by
  induction h₁ generalizing ls₂ s₂' with
  | nil =>
    have hnone : ls₂.filter (fun l => (O.label l).isSome) = [] := by
      rw [List.filter_eq_nil_iff]
      intro l hl
      have hl' := List.filterMap_eq_nil_iff.1 hlabels.symm l hl
      simp [hl']
    rw [hnone]
    exact .nil
  | @snoc u₁ s₁' ls₁ l₁ h₁ hst₁ ih =>
    cases hl₁ : O.label l₁ with
    | none =>
      -- A hidden step of the first run: nothing of the second run corresponds to it.
      rw [List.filterMap_append, List.filterMap_cons_none hl₁, List.filterMap_nil,
        List.append_nil] at hlabels
      rw [List.filter_append, List.filter_cons_of_neg (by simp [hl₁]), List.filter_nil,
        List.append_nil]
      exact ih h₂ hlabels
    | some m =>
      -- It corresponds to the last visible step of the second run.
      rw [List.filterMap_append, List.filterMap_cons_some hl₁, List.filterMap_nil] at hlabels
      obtain ⟨front, l₂, back, u₂, v₂, rfl, hfront, hst₂, hl₂, -, hback⟩ :=
        h₂.exists_last (f := O.label) (e := m) (by simp [← hlabels])
      have hbackMap : back.filterMap O.label = [] := List.filterMap_eq_nil_iff.2 hback
      have hbackFilter : back.filter (fun l => (O.label l).isSome) = [] := by
        rw [List.filter_eq_nil_iff]
        intro l hl
        simp [hback l hl]
      rw [List.filterMap_append, List.filterMap_cons_some hl₂, hbackMap] at hlabels
      have hfrontLabels := List.append_inj_left' hlabels rfl
      rw [List.filter_append, List.filter_append, List.filter_cons_of_pos (by simp [hl₁]),
        List.filter_cons_of_pos (by simp [hl₂]), hbackFilter, List.filter_nil]
      have hbefore := O.state_eq hdet h₁ hfront hs₁ hs₂ hstate hfrontLabels
      refine List.rel_append (ih hfront hfrontLabels) (.cons ?_ .nil)
      exact hR (O.inv_run h₁ hs₁) (O.inv_run hfront hs₂) hbefore (hl₁.trans hl₂.symm)
        (by simp [hl₁]) hst₁ hst₂

end Observation

end TransitionSystem

end RemitBridge
