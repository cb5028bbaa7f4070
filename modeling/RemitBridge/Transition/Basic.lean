import Mathlib.Algebra.BigOperators.Group.List.Basic
import Mathlib.Data.List.Forall2
import Mathlib.Data.List.Induction

/-!
# Transition systems and their runs

Every contract, and every group of contracts that call each other, is given a semantics as a
labelled transition system.  A property of the program is then a property of all the runs of
such a system, and it is proved from what one step can do.

## Main definitions

* `TransitionSystem S L` : a step relation `S → L → S → Prop`.
* `TransitionSystem.Run A s₀ ls s` : performing the labels `ls` in order leads from `s₀` to `s`.
* `TransitionSystem.Reachable A s₀ s` : some run leads from `s₀` to `s`.
* `TransitionSystem.restrict A P` : the steps of `A` that meet the condition `P`; a run of it is
  a run of `A` all of whose steps meet `P`.

## Main results

* `Run.invariant` : what holds initially and is kept by every step holds after every run.
* `Run.eq_add_sum` : a quantity that every step changes by an amount read off its label is,
  after a run, its initial value plus the sum over the labels.
* `Run.exists_switch` : a property that a run makes true is made true by one of its steps.
* `Run.lasts_iff` : a property that no step restores holds at the end of a run exactly if every
  step kept it.
* `Run.exists_last` : the last event of a run, with the runs before and after it.
* `Run.simulate` : a system whose steps are matched by another has its runs matched too.
-/

namespace RemitBridge

/-- A labelled transition system with states `S` and labels `L`. -/
structure TransitionSystem (S : Type*) (L : Type*) where
  /-- `step s l s'` : the system moves from `s` to `s'` performing `l`. -/
  step : S → L → S → Prop

namespace TransitionSystem

variable {S L : Type*} (A : TransitionSystem S L)

/-- The runs of a system, grown at their end: a statement about all runs is proved by looking at
the last step. -/
inductive Run : S → List L → S → Prop
  | nil (s : S) : Run s [] s
  | snoc {s₀ s s' : S} {ls : List L} {l : L} :
      Run s₀ ls s → A.step s l s' → Run s₀ (ls ++ [l]) s'

/-- Some run leads from `s₀` to `s`. -/
def Reachable (s₀ s : S) : Prop := ∃ ls, A.Run s₀ ls s

/-- The steps of `A` that meet `P`, which may look at the state before, the label and the state
after. -/
def restrict (P : S → L → S → Prop) : TransitionSystem S L where
  step s l s' := A.step s l s' ∧ P s l s'

/-- The label of a step determines where it leads. -/
def Deterministic : Prop := ∀ ⦃s l s₁ s₂⦄, A.step s l s₁ → A.step s l s₂ → s₁ = s₂

variable {A}

namespace Run

variable {s₀ s₁ s₂ s : S} {ls ls₁ ls₂ : List L} {l : L}

theorem single (h : A.step s₁ l s₂) : A.Run s₁ [l] s₂ := .snoc (.nil _) h

theorem append (h₁ : A.Run s₀ ls₁ s₁) (h₂ : A.Run s₁ ls₂ s₂) : A.Run s₀ (ls₁ ++ ls₂) s₂ := by
  induction h₂ with
  | nil => simpa using h₁
  | snoc _ hst ih =>
    rw [← List.append_assoc]
    exact .snoc ih hst

theorem cons (h : A.step s₀ l s₁) (h' : A.Run s₁ ls s₂) : A.Run s₀ (l :: ls) s₂ :=
  (single h).append h'

theorem reachable (h : A.Run s₀ ls s) : A.Reachable s₀ s := ⟨ls, h⟩

theorem eq_of_nil (h : A.Run s₀ [] s) : s = s₀ := by
  generalize hls : ([] : List L) = ls at h
  cases h with
  | nil => rfl
  | snoc => simp at hls

theorem concat_iff : A.Run s₀ (ls ++ [l]) s ↔ ∃ s₁, A.Run s₀ ls s₁ ∧ A.step s₁ l s := by
  constructor
  · intro h
    generalize hls : ls ++ [l] = ls' at h
    cases h with
    | nil => simp at hls
    | snoc h hst =>
      obtain ⟨rfl, rfl⟩ := List.append_singleton_inj.1 hls
      exact ⟨_, h, hst⟩
  · rintro ⟨s₁, h, hst⟩
    exact .snoc h hst

theorem append_iff : A.Run s₀ (ls₁ ++ ls₂) s ↔ ∃ s₁, A.Run s₀ ls₁ s₁ ∧ A.Run s₁ ls₂ s := by
  constructor
  · intro h
    induction ls₂ using List.reverseRecOn generalizing s with
    | nil => exact ⟨s, by simpa using h, .nil s⟩
    | append_singleton ls₂ l ih =>
      rw [← List.append_assoc] at h
      obtain ⟨s', h, hst⟩ := concat_iff.1 h
      obtain ⟨s₁, h₁, h₂⟩ := ih h
      exact ⟨s₁, h₁, h₂.snoc hst⟩
  · rintro ⟨s₁, h₁, h₂⟩
    exact h₁.append h₂

/-- Every label of a run is the label of one of its steps. -/
theorem exists_step (h : A.Run s₀ ls s) (hl : l ∈ ls) : ∃ s₁ s₂, A.step s₁ l s₂ := by
  induction h with
  | nil => cases hl
  | snoc _ hst ih =>
    rcases List.mem_append.1 hl with hl | hl
    · exact ih hl
    · exact ⟨_, _, List.mem_singleton.1 hl ▸ hst⟩

theorem unique (hdet : A.Deterministic) (h₁ : A.Run s₀ ls s₁) (h₂ : A.Run s₀ ls s₂) :
    s₁ = s₂ := by
  induction h₁ generalizing s₂ with
  | nil => exact (eq_of_nil h₂).symm
  | snoc _ hst ih =>
    obtain ⟨s, h, hst'⟩ := concat_iff.1 h₂
    obtain rfl := ih h
    exact hdet hst hst'

/-- **Inductive invariants**: a property that holds initially and is kept by every step holds at
the end of every run. -/
theorem invariant {I : S → Prop} (h : A.Run s₀ ls s) (h₀ : I s₀)
    (hstep : ∀ s l s', I s → A.step s l s' → I s') : I s := by
  induction h with
  | nil => exact h₀
  | snoc _ hst ih => exact hstep _ _ _ ih hst

/-- **Accounting along a run**: if every step changes `f` by the amount `g` of its label, a run
changes `f` by the sum of the amounts of its labels.  An invariant `I` may be used at every
step. -/
theorem eq_add_sum {M : Type*} [AddCommMonoid M] {I : S → Prop} {f : S → M} {g : L → M}
    (h : A.Run s₀ ls s) (h₀ : I s₀) (hI : ∀ s l s', I s → A.step s l s' → I s')
    (hstep : ∀ s l s', I s → A.step s l s' → f s' = f s + g l) :
    f s = f s₀ + (ls.map g).sum := by
  induction h with
  | nil => simp
  | snoc h hst ih =>
    rw [hstep _ _ _ (h.invariant h₀ hI) hst, ih]
    simp [add_assoc]

/-- A property false at the start of a run and true at its end is made true by one of the steps;
the rest of the run comes before and after it. -/
theorem exists_switch {P : S → Prop} (h : A.Run s₀ ls s) (h₀ : ¬ P s₀) (hP : P s) :
    ∃ ls₁ l ls₂ s₁ s₂, ls = ls₁ ++ l :: ls₂ ∧ A.Run s₀ ls₁ s₁ ∧ ¬ P s₁ ∧ A.step s₁ l s₂ ∧
      P s₂ ∧ A.Run s₂ ls₂ s := by
  induction h with
  | nil => exact absurd hP h₀
  | @snoc s s' ls l h hst ih =>
    by_cases hs : P s
    · obtain ⟨ls₁, l₁, ls₂, s₁, s₂, rfl, h₁, hn, hst₁, hp, h₂⟩ := ih hs
      exact ⟨ls₁, l₁, ls₂ ++ [l], s₁, s₂, by simp, h₁, hn, hst₁, hp, .snoc h₂ hst⟩
    · exact ⟨ls, l, [], s, s', rfl, h, hs, hst, hP, .nil _⟩

/-- The last step of a run that counts as an event `f`, and what comes before and after it. -/
theorem exists_last {E : Type*} {f : L → Option E} {e : E} (h : A.Run s₀ ls s)
    (he : (ls.filterMap f).getLast? = some e) :
    ∃ ls₁ l ls₂ s₁ s₂, ls = ls₁ ++ l :: ls₂ ∧ A.Run s₀ ls₁ s₁ ∧ A.step s₁ l s₂ ∧ f l = some e ∧
      A.Run s₂ ls₂ s ∧ ∀ l ∈ ls₂, f l = none := by
  induction h with
  | nil => simp at he
  | @snoc s s' ls l h hst ih =>
    rw [List.filterMap_append] at he
    cases hl : f l with
    | none =>
      rw [List.filterMap_cons_none hl, List.filterMap_nil, List.append_nil] at he
      obtain ⟨ls₁, l₁, ls₂, s₁, s₂, rfl, h₁, hst₁, hf, h₂, hnone⟩ := ih he
      refine ⟨ls₁, l₁, ls₂ ++ [l], s₁, s₂, by simp, h₁, hst₁, hf, .snoc h₂ hst, fun l' hl' => ?_⟩
      rcases List.mem_append.1 hl' with hl' | hl'
      · exact hnone l' hl'
      · exact List.mem_singleton.1 hl' ▸ hl
    | some e' =>
      rw [List.filterMap_cons_some hl, List.filterMap_nil, List.getLast?_append] at he
      obtain rfl : e' = e := by simpa using he
      exact ⟨ls, l, [], s, s', rfl, h, hst, hl, .nil _, nofun⟩

/-- Runs are matched by runs when steps are matched by steps, as long as an invariant `I` of the
matched system holds; the labels of the runs correspond one by one. -/
theorem simulate {T M : Type*} {B : TransitionSystem T M} {f : S → T} {I : S → Prop}
    {R : L → M → Prop} (h : A.Run s₀ ls s) (h₀ : I s₀)
    (hI : ∀ s l s', I s → A.step s l s' → I s')
    (hstep : ∀ s l s', I s → A.step s l s' → ∃ m, R l m ∧ B.step (f s) m (f s')) :
    ∃ ms, B.Run (f s₀) ms (f s) ∧ List.Forall₂ R ls ms := by
  induction h with
  | nil => exact ⟨[], .nil _, .nil⟩
  | snoc h hst ih =>
    obtain ⟨ms, hms, hR⟩ := ih
    obtain ⟨m, hlm, hm⟩ := hstep _ _ _ (h.invariant h₀ hI) hst
    exact ⟨ms ++ [m], .snoc hms hm, List.rel_append hR (.cons hlm .nil)⟩

/-- A run all of whose labels meet a condition is a run of the restricted system. -/
theorem restrict_of_labels {Q : L → Prop} (h : A.Run s₀ ls s) (hQ : ∀ l ∈ ls, Q l) :
    (A.restrict fun _ l _ => Q l).Run s₀ ls s := by
  induction h with
  | nil => exact .nil _
  | snoc _ hst ih => exact .snoc (ih fun l hl => hQ l (by simp [hl])) ⟨hst, hQ _ (by simp)⟩

/-- Runs of a system with more steps. -/
theorem mono {B : TransitionSystem S L} (h : A.Run s₀ ls s)
    (hAB : ∀ s l s', A.step s l s' → B.step s l s') : B.Run s₀ ls s := by
  induction h with
  | nil => exact .nil _
  | snoc _ hst ih => exact .snoc ih (hAB _ _ _ hst)

/-- A run is a run of the restricted system if an invariant makes every step meet the condition. -/
theorem restrict_of_invariant {I : S → Prop} {P : S → L → S → Prop} (h : A.Run s₀ ls s)
    (h₀ : I s₀) (hI : ∀ s l s', I s → A.step s l s' → I s')
    (hP : ∀ s l s', I s → A.step s l s' → P s l s') : (A.restrict P).Run s₀ ls s := by
  induction h with
  | nil => exact .nil _
  | snoc h hst ih => exact .snoc ih ⟨hst, hP _ _ _ (h.invariant h₀ hI) hst⟩

/-- A run is a run of the restricted system if an invariant and the labels make every step meet the
condition. -/
theorem restrict_of_labels_invariant {I : S → Prop} {Q : L → Prop} {P : S → L → S → Prop}
    (h : A.Run s₀ ls s) (hQ : ∀ l ∈ ls, Q l) (h₀ : I s₀)
    (hI : ∀ s l s', I s → A.step s l s' → I s')
    (hP : ∀ s l s', I s → A.step s l s' → Q l → P s l s') : (A.restrict P).Run s₀ ls s := by
  induction h with
  | nil => exact .nil _
  | snoc h hst ih =>
    have hl := hQ _ (List.mem_append_right _ (List.mem_singleton_self _))
    exact .snoc (ih fun l hl => hQ l (List.mem_append_left _ hl))
      ⟨hst, hP _ _ _ (h.invariant h₀ hI) hst hl⟩

/-- A condition on steps may be weakened. -/
theorem restrict_mono {P Q : S → L → S → Prop} (h : (A.restrict P).Run s₀ ls s)
    (hPQ : ∀ s l s', P s l s' → Q s l s') : (A.restrict Q).Run s₀ ls s :=
  h.mono fun _ _ _ hst => ⟨hst.1, hPQ _ _ _ hst.2⟩

/-- A run all of whose steps meet a condition is a run. -/
theorem of_restrict {P : S → L → S → Prop} (h : (A.restrict P).Run s₀ ls s) : A.Run s₀ ls s :=
  h.mono fun _ _ _ hst => hst.1

/-- **Lasting properties**: if a step from a state with `P` keeps `P` exactly if it meets `Q`, and
no step restores `P`, then a run that starts with `P` ends with it exactly if all its steps met
`Q`. -/
theorem lasts_iff {I P : S → Prop} {Q : S → L → S → Prop} (h : A.Run s₀ ls s) (h₀ : I s₀)
    (hP : P s₀) (hI : ∀ s l s', I s → A.step s l s' → I s')
    (hstep : ∀ s l s', I s → A.step s l s' → (P s' ↔ P s ∧ Q s l s')) :
    P s ↔ (A.restrict Q).Run s₀ ls s := by
  constructor
  · intro hs
    induction h with
    | nil => exact .nil _
    | snoc h hst ih =>
      obtain ⟨hs₁, hq⟩ := (hstep _ _ _ (h.invariant h₀ hI) hst).1 hs
      exact .snoc (ih hs₁) ⟨hst, hq⟩
  · intro hr
    have hboth : I s ∧ P s := hr.invariant (I := fun s => I s ∧ P s) ⟨h₀, hP⟩
      fun _ _ _ hs hst => ⟨hI _ _ _ hs.1 hst.1, (hstep _ _ _ hs.1 hst.1).2 ⟨hs.2, hst.2⟩⟩
    exact hboth.2

/-- **Potentials**: if `f` starts at zero and every step adds a non-negative `g` to it, then `f`
is zero at the end of a run exactly if no step of the run added anything.  The labels of the run
may be assumed to satisfy `Q`. -/
theorem potential_eq_zero_iff (hdet : A.Deterministic) {I : S → Prop} {Q : L → Prop} {f : S → ℤ}
    {g : S → L → ℤ} (h : A.Run s₀ ls s) (hQ : ∀ l ∈ ls, Q l) (h₀ : I s₀) (hf : f s₀ = 0)
    (hI : ∀ s l s', I s → Q l → A.step s l s' → I s')
    (hg : ∀ s l s', I s → A.step s l s' → 0 ≤ g s l ∧ f s' = f s + g s l) :
    0 ≤ f s ∧ (f s = 0 ↔ (A.restrict fun s l _ => g s l = 0).Run s₀ ls s) := by
  induction h with
  | nil => exact ⟨by omega, fun _ => .nil _, fun _ => hf⟩
  | @snoc s₁ s ls l h hst ih =>
    have hQ' : ∀ l ∈ ls, Q l := fun l hl => hQ l (by simp [hl])
    have hs₁ : I s₁ := (h.restrict_of_labels hQ').invariant h₀
      fun _ _ _ hs hst => hI _ _ _ hs hst.2 hst.1
    obtain ⟨hnonneg, hiff⟩ := ih hQ'
    obtain ⟨hg₀, hstep⟩ := hg _ _ _ hs₁ hst
    refine ⟨by omega, fun hs => ?_, fun hs => ?_⟩
    · exact .snoc (hiff.1 (by omega)) ⟨hst, by omega⟩
    · obtain ⟨s₂, h₂, -, hzero⟩ := concat_iff.1 hs
      obtain rfl := h.unique hdet (of_restrict h₂)
      rw [hstep, hiff.2 h₂, hzero, add_zero]

end Run

namespace Reachable

variable {s₀ s : S}

theorem invariant {I : S → Prop} (h : A.Reachable s₀ s) (h₀ : I s₀)
    (hstep : ∀ s l s', I s → A.step s l s' → I s') : I s := by
  obtain ⟨ls, hls⟩ := h
  exact hls.invariant h₀ hstep

end Reachable

/-- Corresponding labels with equal weights add up to the same sum. -/
theorem sum_eq_of_forall₂ {M N : Type*} [AddMonoid N] {R : L → M → Prop} {g : L → N} {g' : M → N}
    {ls : List L} {ms : List M} (h : List.Forall₂ R ls ms) (hg : ∀ l m, R l m → g l = g' m) :
    (ls.map g).sum = (ms.map g').sum := by
  induction h with
  | nil => rfl
  | cons hlm _ ih => rw [List.map_cons, List.map_cons, List.sum_cons, List.sum_cons, ih, hg _ _ hlm]

end TransitionSystem

end RemitBridge
