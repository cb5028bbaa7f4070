import Mathlib.Data.List.Induction
import Mathlib.Logic.Function.Basic
import RemitBridge.Transition.Basic

/-!
# Processes that run side by side

A process computes between calls to other machines, and while it waits for an answer others run.
`Process Q A ε α` is such a computation: it makes calls with a question `q : Q`, each of which is
answered in `A q` or fails, and in the end returns an `α` or fails itself.

An `Environment` says which outcomes a call can have and what it does to the world.  `Process.lts`
runs any number of processes, each started by a command; they take turns from call to call, and may
be stopped at any time.

## Main definitions

* `Process.Staging` : stages of a process, each determined by the calls made so far.
* `Process.Follows` : the process makes the calls that its stage allows.
* `Process.Asks` : a bound on the calls that the process makes.
* `Process.staged` : the system of which only the stages of the processes are known.

## Main results

* `Follows.bind`, `Follows.tryCatch`, `Follows.lift` : the rules for the constructs.
* `staged_of_run` : a run of processes that follow a staging is a run of the staged system.
* `play_run` : every script, executed with a function that answers the calls, is a run.
-/

namespace RemitBridge

/-- Computations that call other machines.  The answer to a call, or the error it fails with,
decides how the process goes on. -/
inductive Process (Q : Type) (A : Q → Type) (ε α : Type) where
  | done (a : α)
  | fail (e : ε)
  | call (q : Q) (next : Except ε (A q) → Process Q A ε α)

namespace Process

variable {Q : Type} {A : Q → Type} {ε α β : Type}

protected def bind : Process Q A ε α → (α → Process Q A ε β) → Process Q A ε β
  | .done a, f => f a
  | .fail e, _ => .fail e
  | .call q next, f => .call q fun o => (next o).bind f

instance : Monad (Process Q A ε) where
  pure := .done
  bind := .bind

/-- Run the process, and the handler if it fails. -/
def tryCatch : Process Q A ε α → (ε → Process Q A ε α) → Process Q A ε α
  | .done a, _ => .done a
  | .fail e, handler => handler e
  | .call q next, handler => .call q fun o => (next o).tryCatch handler

/-- What has been computed already. -/
def ofExcept : Except ε α → Process Q A ε α
  | .ok a => .done a
  | .error e => .fail e

/-- Make a call. -/
def ask (q : Q) : Process Q A ε (A q) := .call q ofExcept

/-- Fail with `e` unless `c` holds. -/
def throwUnless (c : Prop) [Decidable c] (e : ε) : Process Q A ε Unit :=
  if c then .done () else .fail e

theorem throwUnless_bind_pos {c : Prop} [Decidable c] {e : ε} {f : Unit → Process Q A ε α}
    (h : c) : throwUnless c e >>= f = f () := by
  rw [throwUnless, if_pos h]
  rfl

theorem throwUnless_bind_neg {c : Prop} [Decidable c] {e : ε} {f : Unit → Process Q A ε α}
    (h : ¬ c) : throwUnless c e >>= f = .fail e := by
  rw [throwUnless, if_neg h]
  rfl

/-- The same process where other calls can be made too. -/
def lift {Q' : Type} {A' : Q' → Type} : Process Q A ε α → Process (Q' ⊕ Q) (Sum.elim A' A) ε α
  | .done a => .done a
  | .fail e => .fail e
  | .call q next => .call (.inr q) fun o => (next o).lift

/-! ### Stages -/

/-- A question and what came of it. -/
structure Exchange (Q : Type) (A : Q → Type) (ε : Type) where
  question : Q
  outcome : Except ε (A question)

/-- The stages of processes that are started by commands: where they start, which calls lead from
one stage to the next, and what they may end with. -/
structure Staging (Q : Type) (A : Q → Type) (ε α C P : Type) where
  start : P
  /-- The stage after a call; `none` if the call is not made in this stage. -/
  next : C → P → (q : Q) → Except ε (A q) → Option P
  ends : C → P → Except ε α → Prop

/-- The calls of the process lead from stage to stage, starting with `φ`, and its end has `E`. -/
def Follows {P : Type} (next : P → (q : Q) → Except ε (A q) → Option P)
    (E : P → Except ε α → Prop) : P → Process Q A ε α → Prop
  | φ, .done a => E φ (.ok a)
  | φ, .fail e => E φ (.error e)
  | φ, .call q rest => ∀ o, ∃ ψ, next φ q o = some ψ ∧ Follows next E ψ (rest o)

namespace Follows

variable {P : Type} {next : P → (q : Q) → Except ε (A q) → Option P} {φ : P}
  {E F : P → Except ε α → Prop} {x : Process Q A ε α}

/-- **Sequences.** -/
theorem bind {f : α → Process Q A ε β} {F : P → Except ε β → Prop} (h : Follows next E φ x)
    (hok : ∀ ψ a, E ψ (.ok a) → Follows next F ψ (f a))
    (herror : ∀ ψ e, E ψ (.error e) → F ψ (.error e)) : Follows next F φ (x >>= f) := by
  induction x generalizing φ with
  | done a => exact hok _ _ h
  | fail e => exact herror _ _ h
  | call q rest ih =>
    intro o
    obtain ⟨ψ, hnext, hrest⟩ := h o
    exact ⟨ψ, hnext, ih o hrest⟩

/-- **Handlers.** -/
theorem tryCatch {handler : ε → Process Q A ε α} (h : Follows next E φ x)
    (hok : ∀ ψ a, E ψ (.ok a) → F ψ (.ok a))
    (herror : ∀ ψ e, E ψ (.error e) → Follows next F ψ (handler e)) :
    Follows next F φ (x.tryCatch handler) := by
  induction x generalizing φ with
  | done a => exact hok _ _ h
  | fail e => exact herror _ _ h
  | call q rest ih =>
    intro o
    obtain ⟨ψ, hnext, hrest⟩ := h o
    exact ⟨ψ, hnext, ih o hrest⟩

/-- One stage is enough for any process. -/
theorem any (x : Process Q A ε α) : Follows (fun _ _ _ => some ()) (fun _ _ => True) () x := by
  induction x with
  | done a => trivial
  | fail e => trivial
  | call q rest ih => exact fun o => ⟨(), rfl, ih o⟩

theorem pure {a : α} (h : E φ (.ok a)) : Follows next E φ (pure a : Process Q A ε α) := h

theorem ofExcept {r : Except ε α} (h : E φ r) :
    Follows next E φ (ofExcept r : Process Q A ε α) := by
  cases r with
  | ok a => exact h
  | error e => exact h

/-- **Calls.** -/
theorem ask {q : Q} {E : P → Except ε (A q) → Prop}
    (h : ∀ o, ∃ ψ, next φ q o = some ψ ∧ E ψ o) :
    Follows next E φ (ask q : Process Q A ε (A q)) := by
  intro o
  obtain ⟨ψ, hnext, hE⟩ := h o
  exact ⟨ψ, hnext, ofExcept hE⟩

/-- A call at the start of a sequence. -/
theorem ask_bind {q : Q} {f : A q → Process Q A ε α}
    (hok : ∀ a, ∃ ψ, next φ q (.ok a) = some ψ ∧ Follows next F ψ (f a))
    (herror : ∀ e, ∃ ψ, next φ q (.error e) = some ψ ∧ F ψ (.error e)) :
    Follows next F φ (Process.ask q >>= f) := by
  intro o
  cases o with
  | ok a => exact hok a
  | error e => exact herror e

/-- **Lifted processes** go through the stages that their own stages are mapped to. -/
theorem lift {Q' P' : Type} {A' : Q' → Type} {f : P → P'}
    {next' : P' → (q : Q' ⊕ Q) → Except ε (Sum.elim A' A q) → Option P'}
    {F : P' → Except ε α → Prop} (h : Follows next E φ x)
    (hnext : ∀ φ q o ψ, next φ q o = some ψ → next' (f φ) (.inr q) o = some (f ψ))
    (hend : ∀ φ r, E φ r → F (f φ) r) :
    Follows next' F (f φ) (x.lift : Process (Q' ⊕ Q) (Sum.elim A' A) ε α) := by
  induction x generalizing φ with
  | done a => exact hend _ _ h
  | fail e => exact hend _ _ h
  | call q rest ih =>
    intro o
    obtain ⟨ψ, hstage, hrest⟩ := h o
    exact ⟨f ψ, hnext _ _ _ _ hstage, ih o hrest⟩

end Follows

/-- Whatever the answers are, every call of the process is one of these. -/
def Asks (ok : Q → Prop) : Process Q A ε α → Prop
  | .done _ => True
  | .fail _ => True
  | .call q rest => ok q ∧ ∀ o, Asks ok (rest o)

namespace Asks

variable {ok : Q → Prop} {x : Process Q A ε α}

theorem bind {f : α → Process Q A ε β} (h : Asks ok x) (hf : ∀ a, Asks ok (f a)) :
    Asks ok (x >>= f) := by
  induction x with
  | done a => exact hf a
  | fail e => trivial
  | call q rest ih => exact ⟨h.1, fun o => ih o (h.2 o)⟩

theorem tryCatch {handler : ε → Process Q A ε α} (h : Asks ok x)
    (hhandler : ∀ e, Asks ok (handler e)) : Asks ok (x.tryCatch handler) := by
  induction x with
  | done a => trivial
  | fail e => exact hhandler e
  | call q rest ih => exact ⟨h.1, fun o => ih o (h.2 o)⟩

theorem ask_bind {q : Q} {f : A q → Process Q A ε α} (hq : ok q) (hf : ∀ a, Asks ok (f a)) :
    Asks ok (Process.ask q >>= f) := by
  refine ⟨hq, fun o => ?_⟩
  cases o with
  | ok a => exact hf a
  | error e => trivial

theorem throwUnless {c : Prop} [Decidable c] {e : ε} :
    Asks ok (throwUnless c e : Process Q A ε Unit) := by
  rw [Process.throwUnless]
  split_ifs <;> trivial

end Asks

/-- Calls that are not made need not lead to a stage. -/
theorem Follows.guard {P : Type} {next : P → (q : Q) → Except ε (A q) → Option P} {φ : P}
    {E : P → Except ε α → Prop} {x : Process Q A ε α} {ok : Q → Prop} [DecidablePred ok]
    (h : Follows next E φ x) (hx : Asks ok x) :
    Follows (fun φ q o => if ok q then next φ q o else none) E φ x := by
  induction x generalizing φ with
  | done a => exact h
  | fail e => exact h
  | call q rest ih =>
    intro o
    obtain ⟨ψ, hnext, hrest⟩ := h o
    exact ⟨ψ, (if_pos hx.1).trans hnext, ih o hrest (hx.2 o)⟩

/-! ### Running processes -/

/-- What calls can result in, and what they do to the world; and what happens to it besides. -/
structure Environment (W Q : Type) (A : Q → Type) (ε : Type) where
  answers : W → (q : Q) → Except ε (A q) → W → Prop
  evolves : W → W → Prop

/-- A machine that performs what it is asked, unless it refuses.  The caller may fail to learn
that it did. -/
def Environment.ofPerform {W : Type} (perform : (q : Q) → W → Option (A q × W))
    (evolves : W → W → Prop) : Environment W Q A ε where
  answers w q o w' := match o with
    | .ok a => perform q w = some (a, w')
    | .error _ => w' = w ∨ ∃ a, perform q w = some (a, w')
  evolves := evolves

/-- What such a machine answers if no call fails. -/
def obey {W : Type} (perform : (q : Q) → W → Option (A q × W)) (refusal : ε) (w : W) (q : Q) :
    Except ε (A q) × W :=
  match perform q w with
  | some (a, w') => (.ok a, w')
  | none => (.error refusal, w)

theorem obey_of_perform {W : Type} {perform : (q : Q) → W → Option (A q × W)} {refusal : ε}
    {w w' : W} {q : Q} {a : A q} (h : perform q w = some (a, w')) :
    obey perform refusal w q = (.ok a, w') := by
  rw [obey, h]

theorem obey_answers {W : Type} {perform : (q : Q) → W → Option (A q × W)} {refusal : ε}
    {evolves : W → W → Prop} (w : W) (q : Q) : (Environment.ofPerform perform evolves).answers w q
      (obey perform refusal w q).1 (obey perform refusal w q).2 := by
  rw [obey]
  split
  · next a w' hperform => exact hperform
  · exact .inl rfl

/-- A machine whose answers are determined. -/
def Environment.ofAnswer {W : Type} (answer : W → (q : Q) → Except ε (A q) × W) :
    Environment W Q A ε where
  answers w q o w' := answer w q = (o, w')
  evolves _ _ := False

/-- Two machines. -/
def Environment.sum {W W' Q' : Type} {A' : Q' → Type} (E : Environment W Q A ε)
    (E' : Environment W' Q' A' ε) : Environment (W × W') (Q ⊕ Q') (Sum.elim A A') ε where
  answers w q o w' := match q with
    | .inl q => E.answers w.1 q o w'.1 ∧ w'.2 = w.2
    | .inr q => E'.answers w.2 q o w'.2 ∧ w'.1 = w.1
  evolves w w' := E.evolves w.1 w'.1 ∧ w'.2 = w.2 ∨ E'.evolves w.2 w'.2 ∧ w'.1 = w.1

/-- What two machines answer. -/
def answerSum {W W' Q' : Type} {A' : Q' → Type} (f : W → (q : Q) → Except ε (A q) × W)
    (g : W' → (q : Q') → Except ε (A' q) × W') (w : W × W') :
    (q : Q ⊕ Q') → Except ε (Sum.elim A A' q) × (W × W')
  | .inl q => ((f w.1 q).1, (f w.1 q).2, w.2)
  | .inr q => ((g w.2 q).1, w.1, (g w.2 q).2)

theorem answerSum_answers {W W' Q' : Type} {A' : Q' → Type} {E : Environment W Q A ε}
    {E' : Environment W' Q' A' ε} {f : W → (q : Q) → Except ε (A q) × W}
    {g : W' → (q : Q') → Except ε (A' q) × W'}
    (hf : ∀ w q, E.answers w q (f w q).1 (f w q).2)
    (hg : ∀ w q, E'.answers w q (g w q).1 (g w q).2) (w : W × W') (q : Q ⊕ Q') :
    (E.sum E').answers w q (answerSum f g w q).1 (answerSum f g w q).2 := by
  cases q with
  | inl q => exact ⟨hf w.1 q, rfl⟩
  | inr q => exact ⟨hg w.2 q, rfl⟩

/-- If each of two machines answers every call, both together do. -/
theorem Environment.sum_total {W W' Q' : Type} {A' : Q' → Type} {E : Environment W Q A ε}
    {E' : Environment W' Q' A' ε} (h : ∀ w q, ∃ o w', E.answers w q o w')
    (h' : ∀ w q, ∃ o w', E'.answers w q o w') (w : W × W') (q : Q ⊕ Q') :
    ∃ o w', (E.sum E').answers w q o w' := by
  cases q with
  | inl q =>
    obtain ⟨o, w', hanswers⟩ := h w.1 q
    exact ⟨o, (w', w.2), hanswers, rfl⟩
  | inr q =>
    obtain ⟨o, w', hanswers⟩ := h' w.2 q
    exact ⟨o, (w.1, w'), hanswers, rfl⟩

/-- A process that has been started by a command and has made some calls. -/
structure Thread (Q : Type) (A : Q → Type) (ε α C : Type) where
  command : C
  made : List (Exchange Q A ε)
  rest : Process Q A ε α

structure State (W Q : Type) (A : Q → Type) (ε α C : Type) where
  world : W
  running : ℕ → Option (Thread Q A ε α C)

/-- No process is running. -/
def State.Idle {W C : Type} (s : State W Q A ε α C) : Prop := ∀ pid, s.running pid = none

inductive Label (Q : Type) (A : Q → Type) (ε α C : Type) where
  | start (pid : ℕ) (c : C)
  | call (pid : ℕ) (c : C) (q : Q) (o : Except ε (A q))
  | finish (pid : ℕ) (c : C) (r : Except ε α)
  | stop (pid : ℕ) (c : C)
  | evolve

section System

variable {W C P : Type} (E : Environment W Q A ε) (program : C → Process Q A ε α)
  (S : Staging Q A ε α C P)

inductive Step : State W Q A ε α C → Label Q A ε α C → State W Q A ε α C → Prop
  | start {s : State W Q A ε α C} {pid : ℕ} {c : C} : s.running pid = none →
      Step s (.start pid c)
        { s with running := Function.update s.running pid (some ⟨c, [], program c⟩) }
  | call {s : State W Q A ε α C} {pid : ℕ} {c : C} {made : List (Exchange Q A ε)} {q : Q}
      {rest : Except ε (A q) → Process Q A ε α} {o : Except ε (A q)} {w : W} :
      s.running pid = some ⟨c, made, .call q rest⟩ → E.answers s.world q o w →
      Step s (.call pid c q o)
        ⟨w, Function.update s.running pid (some ⟨c, made ++ [⟨q, o⟩], rest o⟩)⟩
  | finish {s : State W Q A ε α C} {pid : ℕ} {c : C} {made : List (Exchange Q A ε)}
      {r : Except ε α} : s.running pid = some ⟨c, made, ofExcept r⟩ →
      Step s (.finish pid c r) { s with running := Function.update s.running pid none }
  | stop {s : State W Q A ε α C} {pid : ℕ} {t : Thread Q A ε α C} : s.running pid = some t →
      Step s (.stop pid t.command) { s with running := Function.update s.running pid none }
  | evolve {s : State W Q A ε α C} {w : W} : E.evolves s.world w →
      Step s .evolve { s with world := w }

/-- The processes run side by side. -/
def lts : TransitionSystem (State W Q A ε α C) (Label Q A ε α C) := ⟨Step E program⟩

/-! ### The stages of a system -/

/-- The stage of a process that has been started by `c` and has made these calls. -/
def Staging.after (c : C) (made : List (Exchange Q A ε)) : Option P :=
  made.foldlM (fun φ x => S.next c φ x.question x.outcome) S.start

structure Staged (W C P : Type) where
  world : W
  stage : ℕ → Option (C × P)

/-- The command and the stage of a process. -/
def Thread.stage (t : Thread Q A ε α C) : Option (C × P) :=
  (S.after t.command t.made).map fun φ => (t.command, φ)

/-- What the stages tell of a state. -/
def State.staged (s : State W Q A ε α C) : Staged W C P :=
  ⟨s.world, fun pid => (s.running pid).bind (Thread.stage S)⟩

inductive StagedStep : Staged W C P → Label Q A ε α C → Staged W C P → Prop
  | start {s : Staged W C P} {pid : ℕ} {c : C} : s.stage pid = none → StagedStep s (.start pid c)
      { s with stage := Function.update s.stage pid (some (c, S.start)) }
  | call {s : Staged W C P} {pid : ℕ} {c : C} {φ ψ : P} {q : Q} {o : Except ε (A q)} {w : W} :
      s.stage pid = some (c, φ) → S.next c φ q o = some ψ → E.answers s.world q o w →
      StagedStep s (.call pid c q o) ⟨w, Function.update s.stage pid (some (c, ψ))⟩
  | finish {s : Staged W C P} {pid : ℕ} {c : C} {φ : P} {r : Except ε α} :
      s.stage pid = some (c, φ) → S.ends c φ r →
      StagedStep s (.finish pid c r) { s with stage := Function.update s.stage pid none }
  | stop {s : Staged W C P} {pid : ℕ} {c : C} {φ : P} : s.stage pid = some (c, φ) →
      StagedStep s (.stop pid c) { s with stage := Function.update s.stage pid none }
  | evolve {s : Staged W C P} {w : W} : E.evolves s.world w →
      StagedStep s .evolve { s with world := w }

/-- The system of which only the stages of the processes are known. -/
def staged : TransitionSystem (Staged W C P) (Label Q A ε α C) := ⟨StagedStep E S⟩

/-- The programs go through the stages. -/
def Stages : Prop := ∀ c, Follows (S.next c) (S.ends c) S.start (program c)

/-- Every running process is in a stage that it follows from. -/
def Disciplined (s : State W Q A ε α C) : Prop := ∀ pid t, s.running pid = some t →
  ∃ φ, S.after t.command t.made = some φ ∧ Follows (S.next t.command) (S.ends t.command) φ t.rest

variable {E program S} {s s' : State W Q A ε α C} {l : Label Q A ε α C}

theorem Staging.after_concat {c : C} {made : List (Exchange Q A ε)} {q : Q} {o : Except ε (A q)}
    {φ : P} (h : S.after c made = some φ) : S.after c (made ++ [⟨q, o⟩]) = S.next c φ q o := by
  rw [Staging.after] at h
  rw [Staging.after, List.foldlM_append, h]
  show (S.next c φ q o).bind some = _
  cases S.next c φ q o <;> rfl

/-- Induction on the calls that have led to a stage. -/
theorem Staging.after_induction {c : C} {I : List (Exchange Q A ε) → P → Prop} (h₀ : I [] S.start)
    (hnext : ∀ made φ q o ψ, I made φ → S.next c φ q o = some ψ → I (made ++ [⟨q, o⟩]) ψ)
    {made : List (Exchange Q A ε)} {φ : P} (h : S.after c made = some φ) : I made φ := by
  induction made using List.reverseRecOn generalizing φ with
  | nil =>
    obtain rfl := Option.some.inj h
    exact h₀
  | append_singleton made x ih =>
    cases hφ : S.after c made with
    | none =>
      rw [Staging.after] at hφ h
      rw [List.foldlM_append, hφ] at h
      cases h
    | some φ' =>
      rw [Staging.after_concat hφ] at h
      exact hnext made φ' _ _ φ (ih hφ) h

/-- What is found after one entry was updated: the new one, or an old one elsewhere. -/
theorem update_cases {f : ℕ → Option β} {pid pid' : ℕ} {x : Option β} {b : β}
    (h : Function.update f pid x pid' = some b) :
    pid' = pid ∧ x = some b ∨ pid' ≠ pid ∧ f pid' = some b := by
  rw [Function.update_apply] at h
  split_ifs at h with heq
  · exact .inl ⟨heq, h⟩
  · exact .inr ⟨heq, h⟩

section Threads

variable {J : Thread Q A ε α C → Prop}

theorem threads_update {w : W} {pid : ℕ} {t : Option (Thread Q A ε α C)}
    (h : ∀ pid t, s.running pid = some t → J t) (ht : ∀ t' ∈ t, J t') :
    ∀ pid' t', (⟨w, Function.update s.running pid t⟩ : State W Q A ε α C).running pid' = some t' →
      J t' := by
  intro pid' t' ht'
  rcases update_cases ht' with ⟨-, hnew⟩ | ⟨-, hold⟩
  · exact ht t' hnew
  · exact h pid' t' hold

/-- What holds of a process when it starts, and is kept by its calls, holds of every process. -/
theorem threads_step (hstart : ∀ c, J ⟨c, [], program c⟩)
    (hcall : ∀ c made q rest w o w', J ⟨c, made, .call q rest⟩ → E.answers w q o w' →
      J ⟨c, made ++ [⟨q, o⟩], rest o⟩) (h : ∀ pid t, s.running pid = some t → J t)
    (hst : (lts E program).step s l s') : ∀ pid t, s'.running pid = some t → J t := by
  cases hst with
  | @start pid c =>
    refine threads_update h fun t ht => ?_
    obtain rfl := Option.some.inj ht
    exact hstart c
  | @call pid c made q rest o w hrunning hanswers =>
    refine threads_update h fun t ht => ?_
    obtain rfl := Option.some.inj ht
    exact hcall c made q rest _ o w (h pid _ hrunning) hanswers
  | finish => exact threads_update h fun t ht => nomatch ht
  | stop => exact threads_update h fun t ht => nomatch ht
  | evolve => exact h

/-- What the answers to calls always are, the answers in the calls made so far are. -/
theorem made_of_run {I : (q : Q) → Except ε (A q) → Prop}
    (hI : ∀ w q o w', E.answers w q o w' → I q o) {s₀ : State W Q A ε α C}
    {ls : List (Label Q A ε α C)} (h₀ : s₀.Idle) (h : (lts E program).Run s₀ ls s) :
    ∀ pid t, s.running pid = some t → ∀ x ∈ t.made, I x.question x.outcome := by
  refine h.invariant (I := fun s => ∀ pid t, s.running pid = some t →
    ∀ x ∈ t.made, I x.question x.outcome) (fun pid t ht => ?_) fun s l s' hs hst =>
      threads_step (fun c x hx => absurd hx List.not_mem_nil) ?_ hs hst
  · rw [h₀ pid] at ht
    cases ht
  · intro c made q rest w o w' hmade hanswers x hx
    rcases List.mem_append.1 hx with hx | hx
    · exact hmade x hx
    · obtain rfl := List.mem_singleton.1 hx
      exact hI w q o w' hanswers

/-- Every call that a running process has made is a step of the run. -/
theorem called_of_run {s₀ : State W Q A ε α C} {ls : List (Label Q A ε α C)} (h₀ : s₀.Idle)
    (h : (lts E program).Run s₀ ls s) : ∀ pid t, s.running pid = some t →
      ∀ x ∈ t.made, Label.call pid t.command x.question x.outcome ∈ ls := by
  induction h with
  | nil => exact fun pid t ht => by rw [h₀ pid] at ht; cases ht
  | @snoc s s' ls l _ hst ih =>
    -- What a process has called before it has called in the longer run too.
    have hold : ∀ pid t, s.running pid = some t →
        ∀ x ∈ t.made, Label.call pid t.command x.question x.outcome ∈ ls ++ [l] :=
      fun pid t ht x hx => List.mem_append_left _ (ih pid t ht x hx)
    cases hst with
    | start =>
      intro pid t ht
      rcases update_cases ht with ⟨-, hnew⟩ | ⟨-, hrunning⟩
      · obtain rfl := Option.some.inj hnew
        exact fun x hx => absurd hx List.not_mem_nil
      · exact hold pid t hrunning
    | call hrunning =>
      intro pid t ht
      rcases update_cases ht with ⟨rfl, hnew⟩ | ⟨-, hrunning'⟩
      · obtain rfl := Option.some.inj hnew
        intro x hx
        rcases List.mem_append.1 hx with hx | hx
        · exact hold pid _ hrunning x hx
        · obtain rfl := List.mem_singleton.1 hx
          exact List.mem_append_right _ (List.mem_singleton_self _)
      · exact hold pid t hrunning'
    | finish | stop =>
      intro pid t ht
      rcases update_cases ht with ⟨-, hnew⟩ | ⟨-, hrunning⟩
      · cases hnew
      · exact hold pid t hrunning
    | evolve => exact hold

end Threads

theorem Disciplined.of_idle (h : s.Idle) : Disciplined S s := by
  intro pid t ht
  rw [h pid] at ht
  cases ht

theorem Disciplined.step (hS : Stages program S) (h : Disciplined S s)
    (hst : (lts E program).step s l s') : Disciplined S s' := by
  refine threads_step (fun c => ⟨S.start, rfl, hS c⟩) ?_ h hst
  rintro c made q rest w o w' ⟨φ, hφ, hfollows⟩ hanswers
  obtain ⟨ψ, hψ, hrest⟩ := hfollows o
  exact ⟨ψ, (Staging.after_concat hφ).trans hψ, hrest⟩

theorem disciplined_of_run {s₀ : State W Q A ε α C} {ls : List (Label Q A ε α C)}
    (hS : Stages program S) (h₀ : s₀.Idle) (h : (lts E program).Run s₀ ls s) : Disciplined S s :=
  h.invariant (I := Disciplined S) (.of_idle h₀) fun _ _ _ hs hst => hs.step hS hst

theorem staged_update {w : W} {pid : ℕ} {t : Option (Thread Q A ε α C)} :
    (⟨w, Function.update s.running pid t⟩ : State W Q A ε α C).staged S =
      ⟨w, Function.update (s.staged S).stage pid
        (t.bind (Thread.stage S))⟩ := by
  rw [State.staged, Staged.mk.injEq]
  refine ⟨rfl, ?_⟩
  funext pid'
  show (Function.update s.running pid t pid').bind (Thread.stage S) = _
  by_cases heq : pid' = pid
  · rw [heq, Function.update_self, Function.update_self]
  · rw [Function.update_of_ne heq, Function.update_of_ne heq]
    rfl

theorem stage_of_running {pid : ℕ} {t : Thread Q A ε α C} {φ : P} (h : s.running pid = some t)
    (hφ : S.after t.command t.made = some φ) :
    (s.staged S).stage pid = some (t.command, φ) := by
  show (s.running pid).bind (Thread.stage S) = _
  rw [h, Option.bind_some, Thread.stage, hφ]
  rfl

theorem running_of_stage {pid : ℕ} {c : C} {φ : P} (h : (s.staged S).stage pid = some (c, φ)) :
    ∃ t, s.running pid = some t ∧ t.command = c := by
  obtain ⟨t, ht, hstage⟩ := Option.bind_eq_some_iff.1
    (show (s.running pid).bind (Thread.stage S) = some (c, φ) from h)
  obtain ⟨φ', -, heq⟩ := Option.map_eq_some_iff.1 hstage
  cases heq
  exact ⟨t, ht, rfl⟩

theorem stage_of_not_running {pid : ℕ} (h : s.running pid = none) :
    (s.staged S).stage pid = none := by
  show (s.running pid).bind (Thread.stage S) = _
  rw [h]
  rfl

/-- A step of processes that follow the staging is a step of the staged system. -/
theorem staged_step (h : Disciplined S s) (hst : (lts E program).step s l s') :
    (staged E S).step (s.staged S) l (s'.staged S) := by
  cases hst with
  | @start pid c hnone =>
    rw [staged_update]
    exact .start (stage_of_not_running hnone)
  | @call pid c made q rest o w hrunning hanswers =>
    obtain ⟨φ, hφ, hfollows⟩ := h pid _ hrunning
    obtain ⟨ψ, hψ, -⟩ := hfollows o
    rw [staged_update, Option.bind_some, Thread.stage, Staging.after_concat hφ, hψ]
    exact .call (stage_of_running hrunning hφ) hψ hanswers
  | @finish pid c made r hrunning =>
    obtain ⟨φ, hφ, hfollows⟩ := h pid _ hrunning
    rw [staged_update]
    refine .finish (stage_of_running hrunning hφ) ?_
    cases r with
    | ok a => exact hfollows
    | error e => exact hfollows
  | @stop pid t hrunning =>
    obtain ⟨φ, hφ, -⟩ := h pid _ hrunning
    rw [staged_update]
    exact .stop (stage_of_running hrunning hφ)
  | evolve hevolves => exact .evolve hevolves

/-- **Stages of a run.**  Processes that follow a staging run like the staged system; conditions on
the stages carry over. -/
theorem staged_of_run {s₀ : State W Q A ε α C} {ls : List (Label Q A ε α C)}
    {G : Staged W C P → Label Q A ε α C → Staged W C P → Prop} (hS : Stages program S)
    (h₀ : Disciplined S s₀)
    (h : ((lts E program).restrict fun s l s' => G (s.staged S) l (s'.staged S)).Run s₀ ls s) :
    ((staged E S).restrict G).Run (s₀.staged S) ls (s.staged S) ∧ Disciplined S s := by
  induction h with
  | nil => exact ⟨.nil _, h₀⟩
  | snoc _ hst ih =>
    exact ⟨.snoc ih.1 ⟨staged_step ih.2 hst.1, hst.2⟩, ih.2.step hS hst.1⟩

theorem State.Idle.staged {s₀ : State W Q A ε α C} (h₀ : s₀.Idle) (pid : ℕ) :
    (s₀.staged S).stage pid = none :=
  stage_of_not_running (h₀ pid)

/-! ### Scripts -/

/-- One line of a script: a process is started, makes its next call, returns, or is stopped. -/
inductive Turn (C : Type) where
  | start (pid : ℕ) (c : C)
  | call (pid : ℕ)
  | finish (pid : ℕ)
  | stop (pid : ℕ)

variable (program) (answer : W → (q : Q) → Except ε (A q) × W)

/-- The state after one line of a script, and the step it was. -/
def perform (s : State W Q A ε α C) : Turn C → State W Q A ε α C × List (Label Q A ε α C)
  | .start pid c => match s.running pid with
    | none => ({ s with running := Function.update s.running pid (some ⟨c, [], program c⟩) },
        [.start pid c])
    | some _ => (s, [])
  | .call pid => match s.running pid with
    | some ⟨c, made, .call q rest⟩ => let (o, w) := answer s.world q
        (⟨w, Function.update s.running pid (some ⟨c, made ++ [⟨q, o⟩], rest o⟩)⟩,
          [.call pid c q o])
    | _ => (s, [])
  | .finish pid => match s.running pid with
    | some ⟨c, _, .done a⟩ => ({ s with running := Function.update s.running pid none },
        [.finish pid c (.ok a)])
    | some ⟨c, _, .fail e⟩ => ({ s with running := Function.update s.running pid none },
        [.finish pid c (.error e)])
    | _ => (s, [])
  | .stop pid => match s.running pid with
    | some t => ({ s with running := Function.update s.running pid none },
        [.stop pid t.command])
    | none => (s, [])

/-- The state after a script. -/
def play (s : State W Q A ε α C) : List (Turn C) → State W Q A ε α C
  | [] => s
  | t :: ts => play (perform program answer s t).1 ts

/-- The steps of a script. -/
def trace (s : State W Q A ε α C) : List (Turn C) → List (Label Q A ε α C)
  | [] => []
  | t :: ts => (perform program answer s t).2 ++ trace (perform program answer s t).1 ts

variable {program answer}

/-- A line of a script does nothing, or is one step. -/
theorem perform_cases (hanswer : ∀ w q, E.answers w q (answer w q).1 (answer w q).2) {t : Turn C} :
    perform program answer s t = (s, []) ∨ ∃ l, (perform program answer s t).2 = [l] ∧
      (lts E program).step s l (perform program answer s t).1 := by
  cases t with
  | start pid c =>
    rw [perform]
    split
    · next hnone => exact .inr ⟨_, rfl, .start hnone⟩
    · exact .inl rfl
  | call pid =>
    rw [perform]
    split
    · next c made q rest hrunning => exact .inr ⟨_, rfl, .call hrunning (hanswer _ _)⟩
    · exact .inl rfl
  | finish pid =>
    rw [perform]
    split
    · next c made a hrunning => exact .inr ⟨_, rfl, .finish (r := .ok a) hrunning⟩
    · next c made e hrunning => exact .inr ⟨_, rfl, .finish (r := .error e) hrunning⟩
    · exact .inl rfl
  | stop pid =>
    rw [perform]
    split
    · next t hrunning => exact .inr ⟨_, rfl, .stop hrunning⟩
    · exact .inl rfl

/-- Every script is a run; what holds between the states after its lines holds of its steps. -/
theorem play_restrict {G : State W Q A ε α C → State W Q A ε α C → Prop}
    (hanswer : ∀ w q, E.answers w q (answer w q).1 (answer w q).2) (ts : List (Turn C))
    (hG : ∀ n < ts.length, G (play program answer s (ts.take n))
      (play program answer s (ts.take (n + 1)))) :
    ((lts E program).restrict fun s _ s' => G s s').Run s (trace program answer s ts)
      (play program answer s ts) := by
  induction ts generalizing s with
  | nil => exact .nil _
  | cons t ts ih =>
    have hrest := ih (s := (perform program answer s t).1) fun n hn => by
      simpa only [List.take_succ_cons, play] using
        hG (n + 1) (by rw [List.length_cons]; omega)
    rw [trace, play]
    rcases perform_cases hanswer with hsame | ⟨l, hl, hst⟩
    · rw [hsame] at hrest ⊢
      exact hrest
    · rw [hl]
      exact .append (.snoc (.nil s) ⟨hst, hG 0 (Nat.succ_pos _)⟩) hrest

/-- Every script is a run. -/
theorem play_run (hanswer : ∀ w q, E.answers w q (answer w q).1 (answer w q).2)
    (ts : List (Turn C)) : (lts E program).Run s (trace program answer s ts)
      (play program answer s ts) :=
  (play_restrict (G := fun _ _ => True) hanswer ts fun _ _ => trivial).of_restrict

/-- The next call of a process. -/
theorem step_of_running (hanswer : ∀ w q, E.answers w q (answer w q).1 (answer w q).2) {pid : ℕ}
    {c : C} {made : List (Exchange Q A ε)} {q : Q} {rest : Except ε (A q) → Process Q A ε α}
    (h : s.running pid = some ⟨c, made, .call q rest⟩) :
    (lts E program).step s (.call pid c q (answer s.world q).1)
      (play program answer s [.call pid]) := by
  show Step E program s _ (perform program answer s (.call pid)).1
  simp only [perform, h]
  exact .call h (hanswer s.world q)

theorem play_append (ts ts' : List (Turn C)) :
    play program answer s (ts ++ ts') = play program answer (play program answer s ts) ts' := by
  induction ts generalizing s with
  | nil => rfl
  | cons t ts ih => exact ih

def Turn.pid : Turn C → ℕ
  | start pid _ | call pid | finish pid | stop pid => pid

/-- A process that a script does not mention is not changed by it. -/
theorem play_running (ts : List (Turn C)) {pid : ℕ} (h : ∀ t ∈ ts, t.pid ≠ pid) :
    (play program answer s ts).running pid = s.running pid := by
  induction ts generalizing s with
  | nil => rfl
  | cons t ts ih =>
    rw [play, ih fun t ht => h t (List.mem_cons_of_mem _ ht)]
    have hne := (h t List.mem_cons_self).symm
    cases t with
    | start | call | finish | stop =>
      rw [perform]
      split
      all_goals first
        | rfl
        | exact Function.update_of_ne hne _ _

end System

end Process

end RemitBridge
