import Mathlib.Logic.Basic
import Mathlib.Tactic.SplitIfs

/-!
# Jobs: computations that keep what they wrote

`Job σ ε α` is a computation over a state `σ` that returns an `α`, or fails.  Unlike a transaction
it keeps its writes when it fails: what a process wrote to a database before it stopped is still
there when it starts again.

## Main definitions

* `Job.Triple P x Q E` : started in a state with `P`, the job `x` leaves a state with `Q` if it
  returns, and one with `E` if it fails.
* `Job.Within F x` : whatever the job does to the state is an effect `F`.

## Main results

* `Triple.bind`, `Triple.foldlM` : the rules for a sequence and for a loop, whose invariant speaks
  of the part of the list that has been handled.
* `Within.bind`, `Within.triple` : effects compose, and what they keep holds after the job.
-/

namespace RemitBridge

/-- Computations over a state `σ` that can fail with `ε`, and then keep the state they reached. -/
def Job (σ ε α : Type) : Type := σ → Except ε α × σ

namespace Job

variable {σ ε α β γ : Type}

instance : Monad (Job σ ε) where
  pure a := fun s => (.ok a, s)
  bind x f := fun s => match x s with
    | (.ok a, s') => f a s'
    | (.error e, s') => (.error e, s')

/-- Fail. -/
def throw (e : ε) : Job σ ε α := fun s => (.error e, s)

/-- Read something off the state. -/
def gets (f : σ → α) : Job σ ε α := fun s => (.ok (f s), s)

/-- Change the state. -/
def modify (f : σ → σ) : Job σ ε Unit := fun s => (.ok (), f s)

/-- Fail with `e` unless `c` holds. -/
def throwUnless (c : Prop) [Decidable c] (e : ε) : Job σ ε Unit :=
  if c then pure () else throw e

/-- The value of an option, or a failure with `e`. -/
def okOr (o : Option α) (e : ε) : Job σ ε α := o.elim (throw e) pure

/-! ### Running a sequence -/

variable {s s' : σ} {x : Job σ ε α} {f : α → Job σ ε β} {r : Except ε β × σ}

theorem pure_apply (a : α) (s : σ) : (pure a : Job σ ε α) s = (.ok a, s) := rfl

theorem bind_of_ok {a : α} (h : x s = (.ok a, s')) : (x >>= f) s = f a s' := by
  change (match x s with
    | (.ok a, s') => f a s'
    | (.error e, s') => (.error e, s')) = _
  rw [h]

theorem bind_of_error {e : ε} (h : x s = (.error e, s')) : (x >>= f) s = (.error e, s') := by
  change (match x s with
    | (.ok a, s') => f a s'
    | (.error e, s') => (.error e, s')) = _
  rw [h]

/-- A sequence fails in its first part, or runs its second part. -/
theorem bind_cases (h : (x >>= f) s = r) :
    (∃ e, x s = (.error e, r.2) ∧ r.1 = .error e) ∨ ∃ a s', x s = (.ok a, s') ∧ f a s' = r := by
  rcases hx : x s with ⟨e | a, s'⟩
  · rw [bind_of_error hx] at h
    subst h
    exact .inl ⟨e, rfl, rfl⟩
  · rw [bind_of_ok hx] at h
    exact .inr ⟨a, s', rfl, h⟩

/-- A sequence returns when both of its parts do. -/
theorem bind_ok {b : β} : (x >>= f) s = (.ok b, s') ↔
    ∃ a s₁, x s = (.ok a, s₁) ∧ f a s₁ = (.ok b, s') := by
  constructor
  · intro h
    rcases bind_cases h with ⟨e, -, hr⟩ | h
    · cases hr
    · exact h
  · rintro ⟨a, s₁, hx, hf⟩
    rw [bind_of_ok hx, hf]

theorem pure_ok {a b : α} : (pure a : Job σ ε α) s = (.ok b, s') ↔ b = a ∧ s' = s := by
  rw [pure_apply, Prod.mk.injEq, Except.ok.injEq]
  exact and_congr eq_comm eq_comm

theorem foldlM_cons {f : β → α → Job σ ε β} {b : β} {a : α} {as : List α} :
    (a :: as).foldlM f b = f b a >>= fun b' => as.foldlM f b' := rfl

theorem foldlM_nil {f : β → α → Job σ ε β} {b : β} : ([] : List α).foldlM f b = pure b := rfl

/-! ### Pre- and postconditions -/

/-- Started in a state with `P`, the job leaves one with `Q` if it returns, one with `E` if it
fails. -/
structure Triple (P : σ → Prop) (x : Job σ ε α) (Q : α → σ → Prop) (E : σ → Prop) : Prop where
  returns : ∀ {s a s'}, P s → x s = (.ok a, s') → Q a s'
  fails : ∀ {s e s'}, P s → x s = (.error e, s') → E s'

namespace Triple

variable {P P' E E' : σ → Prop} {Q Q' : α → σ → Prop} {R : β → σ → Prop}

theorem pure {a : α} (h : ∀ s, P s → Q a s) : Triple P (pure a : Job σ ε α) Q E where
  returns hs hx := by
    obtain ⟨rfl, rfl⟩ := pure_ok.1 hx
    exact h _ hs
  fails _ hx := by cases hx

theorem throw {e : ε} (h : ∀ s, P s → E s) : Triple P (throw e : Job σ ε α) Q E where
  returns _ hx := by cases hx
  fails hs hx := by
    cases hx
    exact h _ hs

theorem gets {g : σ → α} (h : ∀ s, P s → Q (g s) s) : Triple P (gets g : Job σ ε α) Q E where
  returns hs hx := by
    cases hx
    exact h _ hs
  fails _ hx := by cases hx

/-- A check that fails leaves the state alone. -/
theorem throwUnless {c : Prop} [Decidable c] {e : ε} {Q : Unit → σ → Prop}
    (h : ∀ s, P s → c → Q () s) (hE : ∀ s, P s → E s) :
    Triple P (throwUnless c e : Job σ ε Unit) Q E := by
  unfold Job.throwUnless
  split_ifs with hc
  · exact pure fun s hs => h s hs hc
  · exact throw hE

theorem modify {g : σ → σ} {Q : Unit → σ → Prop} (h : ∀ s, P s → Q () (g s)) :
    Triple P (modify g : Job σ ε Unit) Q E where
  returns hs hx := by
    cases hx
    exact h _ hs
  fails _ hx := by cases hx

theorem conseq (h : Triple P x Q E) (hP : ∀ s, P' s → P s) (hQ : ∀ a s, Q a s → Q' a s)
    (hE : ∀ s, E s → E' s) : Triple P' x Q' E' where
  returns hs hx := hQ _ _ (h.returns (hP _ hs) hx)
  fails hs hx := hE _ (h.fails (hP _ hs) hx)

/-- A fact that the precondition gives may be assumed. -/
theorem of_fact {p : Prop} (hp : ∀ s, P s → p) (h : p → Triple P x Q E) : Triple P x Q E where
  returns hs hx := (h (hp _ hs)).returns hs hx
  fails hs hx := (h (hp _ hs)).fails hs hx

/-- **Sequences.** -/
theorem bind (hx : Triple P x Q E) (hf : ∀ a, Triple (Q a) (f a) R E) :
    Triple P (x >>= f) R E where
  returns hs h := by
    obtain ⟨a, s₁, h₁, h₂⟩ := bind_ok.1 h
    exact (hf a).returns (hx.returns hs h₁) h₂
  fails hs h := by
    rcases bind_cases h with ⟨e, h₁, -⟩ | ⟨a, s₁, h₁, h₂⟩
    · exact hx.fails hs h₁
    · exact (hf a).fails (hx.returns hs h₁) h₂

/-- **Loops**: the invariant speaks of the elements handled so far, and each turn extends it by
one. -/
theorem foldlM {I : List β → α → σ → Prop} {g : α → β → Job σ ε α} {xs : List β} {a : α}
    (hstep : ∀ done y rest a, xs = done ++ y :: rest →
      Triple (I done a) (g a y) (fun a' => I (done ++ [y]) a') E) :
    Triple (I [] a) (xs.foldlM g a) (I xs) E := by
  have hloop : ∀ rest done a, xs = done ++ rest →
      Triple (I done a) (rest.foldlM g a) (I xs) E := by
    intro rest
    induction rest with
    | nil =>
      intro done a hxs
      rw [foldlM_nil, hxs, List.append_nil]
      exact .pure fun s hs => hs
    | cons y rest ih =>
      intro done a hxs
      rw [foldlM_cons]
      exact .bind (hstep done y rest a hxs) fun a' => ih (done ++ [y]) a' (by simp [hxs])
  exact hloop xs [] a rfl

end Triple

/-! ### Effects -/

/-- What may happen to the state in zero or more steps. -/
structure Effect (σ : Type) where
  rel : σ → σ → Prop
  refl : ∀ s, rel s s
  trans : ∀ {s₁ s₂ s₃}, rel s₁ s₂ → rel s₂ s₃ → rel s₁ s₃

/-- Whatever the job does to the state, whether it returns or fails, is an effect `F`. -/
def Within (F : Effect σ) (x : Job σ ε α) : Prop := ∀ s, F.rel s (x s).2

namespace Within

variable {F : Effect σ}

theorem pure (a : α) : Within F (pure a : Job σ ε α) := fun s => F.refl s

theorem throw (e : ε) : Within F (throw e : Job σ ε α) := fun s => F.refl s

theorem gets (g : σ → α) : Within F (gets g : Job σ ε α) := fun s => F.refl s

theorem modify {g : σ → σ} (h : ∀ s, F.rel s (g s)) : Within F (modify g : Job σ ε Unit) := h

theorem throwUnless {c : Prop} [Decidable c] {e : ε} :
    Within F (throwUnless c e : Job σ ε Unit) := by
  unfold Job.throwUnless
  split_ifs
  · exact pure ()
  · exact throw e

theorem bind (hx : Within F x) (hf : ∀ a, Within F (f a)) : Within F (x >>= f) := by
  intro s
  have hfirst := hx s
  rcases bind_cases (rfl : (x >>= f) s = _) with ⟨e, h, -⟩ | ⟨a, s₁, h₁, h₂⟩
  · rw [h] at hfirst
    exact hfirst
  · rw [h₁] at hfirst
    rw [← h₂]
    exact F.trans hfirst (hf a s₁)

/-- What follows the reading of an option may rely on its value. -/
theorem okOr_bind {o : Option α} {e : ε} (h : ∀ a, o = some a → Within F (f a)) :
    Within F (Job.okOr o e >>= f) := by
  cases o with
  | none => exact throw e
  | some a => exact h a rfl

theorem rel {r : Except ε α} (h : Within F x) (hx : x s = (r, s')) : F.rel s s' := by
  have hrel := h s
  rw [hx] at hrel
  exact hrel

/-- What holds of all states that an effect leads to holds after the job. -/
theorem triple {P Q : σ → Prop} (h : Within F x) (hrel : ∀ s s', P s → F.rel s s' → Q s') :
    Triple P x (fun _ => Q) Q where
  returns hs hx := hrel _ _ hs (h.rel hx)
  fails hs hx := hrel _ _ hs (h.rel hx)

end Within

end Job

end RemitBridge
