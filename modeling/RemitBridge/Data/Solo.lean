import RemitBridge.Data.Process

/-!
# A process that runs alone

`Ensures E G x w` says that the process `x`, started in the world `w`, ends with a result and in a
world that satisfy `G`, however its calls are answered.  It follows the constructs of the process,
and holds of every run in which nothing else moves (`Ensures.of_run`).
-/

namespace RemitBridge

namespace Process

open TransitionSystem

variable {W Q : Type} {A : Q → Type} {ε α β : Type}

/-- However the calls are answered, the process ends with `G`. -/
def Ensures (E : Environment W Q A ε) (G : Except ε α → W → Prop) : Process Q A ε α → W → Prop
  | .done a, w => G (.ok a) w
  | .fail e, w => G (.error e) w
  | .call q next, w => ∀ o w', E.answers w q o w' → Ensures E G (next o) w'

namespace Ensures

variable {E : Environment W Q A ε} {F G : Except ε α → W → Prop} {x : Process Q A ε α} {w : W}

theorem mono (h : Ensures E F x w) (hFG : ∀ r w', F r w' → G r w') : Ensures E G x w := by
  induction x generalizing w with
  | done a => exact hFG _ _ h
  | fail e => exact hFG _ _ h
  | call q rest ih => exact fun o w' hanswers => ih o (h o w' hanswers)

/-- **Sequences.** -/
theorem bind {f : α → Process Q A ε β} {G : Except ε β → W → Prop} (h : Ensures E F x w)
    (hok : ∀ a w', F (.ok a) w' → Ensures E G (f a) w')
    (herror : ∀ e w', F (.error e) w' → G (.error e) w') : Ensures E G (x >>= f) w := by
  induction x generalizing w with
  | done a => exact hok _ _ h
  | fail e => exact herror _ _ h
  | call q rest ih => exact fun o w' hanswers => ih o (h o w' hanswers)

/-- **Handlers.** -/
theorem tryCatch {handler : ε → Process Q A ε α} (h : Ensures E F x w)
    (hok : ∀ a w', F (.ok a) w' → G (.ok a) w')
    (herror : ∀ e w', F (.error e) w' → Ensures E G (handler e) w') :
    Ensures E G (x.tryCatch handler) w := by
  induction x generalizing w with
  | done a => exact hok _ _ h
  | fail e => exact herror _ _ h
  | call q rest ih => exact fun o w' hanswers => ih o (h o w' hanswers)

/-- A call at the start of a sequence. -/
theorem ask_bind {q : Q} {f : A q → Process Q A ε α}
    (hok : ∀ a w', E.answers w q (.ok a) w' → Ensures E G (f a) w')
    (herror : ∀ e w', E.answers w q (.error e) w' → G (.error e) w') :
    Ensures E G (ask q >>= f) w := by
  intro o w' hanswers
  cases o with
  | ok a => exact hok a w' hanswers
  | error e => exact herror e w' hanswers

/-- **Lifted processes** leave the other machine alone. -/
theorem lift {W' Q' : Type} {A' : Q' → Type} {E' : Environment W' Q' A' ε} {w : W' × W}
    {G : Except ε α → W' × W → Prop} (h : Ensures E (fun r v => G r (w.1, v)) x w.2) :
    Ensures (E'.sum E) G (x.lift : Process (Q' ⊕ Q) (Sum.elim A' A) ε α) w := by
  induction x generalizing w with
  | done a => exact h
  | fail e => exact h
  | call q rest ih =>
    rintro o ⟨w', v⟩ ⟨hanswers, rfl⟩
    exact ih o (h o v hanswers)

end Ensures

/-! ### Steps -/

section Steps

variable {C : Type} {E : Environment W Q A ε} {program : C → Process Q A ε α}
  {running : ℕ → Option (Thread Q A ε α C)} {pid : ℕ} {c : C} {made : List (Exchange Q A ε)}
  {w w' : W}

/-- The process that has moved last makes a call. -/
theorem step_call {q : Q} {rest : Except ε (A q) → Process Q A ε α} {o : Except ε (A q)}
    (h : E.answers w q o w') :
    (lts E program).step ⟨w, Function.update running pid (some ⟨c, made, .call q rest⟩)⟩
      (.call pid c q o) ⟨w', Function.update running pid (some ⟨c, made ++ [⟨q, o⟩], rest o⟩)⟩ := by
  have hst : (lts E program).step ⟨w, Function.update running pid (some ⟨c, made, .call q rest⟩)⟩
      (.call pid c q o) _ := .call (Function.update_self _ _ _) h
  rwa [Function.update_idem] at hst

/-- The process that has moved last returns. -/
theorem step_finish {r : Except ε α} (h : running pid = none) :
    (lts E program).step ⟨w, Function.update running pid (some ⟨c, made, ofExcept r⟩)⟩
      (.finish pid c r) ⟨w, running⟩ := by
  have hst : (lts E program).step ⟨w, Function.update running pid (some ⟨c, made, ofExcept r⟩)⟩
      (.finish pid c r) _ := .finish (Function.update_self _ _ _)
  rwa [Function.update_idem, ← h, Function.update_eq_self] at hst

end Steps

/-! ### Runs -/

section Runs

variable {C : Type} {E : Environment W Q A ε} {program : C → Process Q A ε α}
  {s₀ s : State W Q A ε α C} {ls : List (Label Q A ε α C)} {pid : ℕ} {c : C} {r : Except ε α}

/-- The steps are calls of one process. -/
def Calls (pid : ℕ) (c : C) (ls : List (Label Q A ε α C)) : Prop :=
  ∀ l ∈ ls, ∃ q o, l = .call pid c q o

/-- The steps of one process, from its start to its end. -/
def Solo (pid : ℕ) (c : C) (r : Except ε α) (ls : List (Label Q A ε α C)) : Prop :=
  ∃ calls, ls = .start pid c :: calls ++ [.finish pid c r] ∧ Calls pid c calls

theorem Ensures.of_calls {G : Except ε α → W → Prop} (h : Ensures E G (program c) s₀.world)
    (hcalls : Calls pid c ls) (hrun : (lts E program).Run s₀ (.start pid c :: ls) s) :
    ∃ made rest, s.running pid = some ⟨c, made, rest⟩ ∧ Ensures E G rest s.world := by
  induction ls using List.reverseRecOn generalizing s with
  | nil =>
    obtain ⟨s₁, hnil, hst⟩ := Run.concat_iff.1 (show (lts E program).Run s₀ ([] ++ [_]) s from hrun)
    obtain rfl := hnil.eq_of_nil
    cases hst
    exact ⟨[], program c, Function.update_self .., h⟩
  | append_singleton ls l ih =>
    rw [← List.cons_append] at hrun
    obtain ⟨s₁, hrun, hst⟩ := Run.concat_iff.1 hrun
    obtain ⟨made, rest, hrunning, hensures⟩ :=
      ih (fun l hl => hcalls l (List.mem_append_left _ hl)) hrun
    obtain ⟨q, o, rfl⟩ := hcalls l (List.mem_append_right _ (List.mem_singleton_self l))
    cases hst with
    | call hcall hanswers =>
      obtain ⟨-, rfl, rfl⟩ := Thread.mk.inj (Option.some.inj (hrunning.symm.trans hcall))
      exact ⟨_, _, Function.update_self .., hensures o _ hanswers⟩

/-- **A process that runs alone** ends with what it ensures. -/
theorem Ensures.of_run {G : Except ε α → W → Prop} (h : Ensures E G (program c) s₀.world)
    (hsolo : Solo pid c r ls) (hrun : (lts E program).Run s₀ ls s) : G r s.world := by
  obtain ⟨calls, rfl, hcalls⟩ := hsolo
  obtain ⟨s₁, hrun, hst⟩ := Run.concat_iff.1 hrun
  obtain ⟨made, rest, hrunning, hensures⟩ := h.of_calls hcalls hrun
  cases hst with
  | finish hfinish =>
    obtain ⟨-, -, rfl⟩ := Thread.mk.inj (Option.some.inj (hrunning.symm.trans hfinish))
    cases r with
    | ok a => exact hensures
    | error e => exact hensures

theorem exists_calls (htotal : ∀ w q, ∃ o w', E.answers w q o w') (x : Process Q A ε α) :
    ∀ s made, s.running pid = some ⟨c, made, x⟩ → ∃ calls r s', Calls pid c calls ∧
      (lts E program).Run s (calls ++ [.finish pid c r]) s' := by
  induction x with
  | done a => exact fun s made hrunning =>
      ⟨[], .ok a, _, fun _ h => absurd h List.not_mem_nil, .single (.finish hrunning)⟩
  | fail e => exact fun s made hrunning =>
      ⟨[], .error e, _, fun _ h => absurd h List.not_mem_nil, .single (.finish hrunning)⟩
  | call q rest ih =>
    intro s made hrunning
    obtain ⟨o, w', hanswers⟩ := htotal s.world q
    obtain ⟨calls, r, s', hcalls, hrun⟩ :=
      ih o ⟨w', Function.update s.running pid (some ⟨c, made ++ [⟨q, o⟩], rest o⟩)⟩ _
        (Function.update_self ..)
    exact ⟨.call pid c q o :: calls, r, s', List.forall_mem_cons.2 ⟨⟨q, o, rfl⟩, hcalls⟩,
      .cons (.call hrunning hanswers) hrun⟩

/-- If every call is answered, a process can run to its end. -/
theorem exists_solo (htotal : ∀ w q, ∃ o w', E.answers w q o w') (h₀ : s₀.running pid = none) :
    ∃ r ls s, Solo pid c r ls ∧ (lts E program).Run s₀ ls s := by
  obtain ⟨calls, r, s, hcalls, hrun⟩ := exists_calls htotal (program c)
    { s₀ with running := Function.update s₀.running pid (some ⟨c, [], program c⟩) } []
    (Function.update_self ..)
  exact ⟨r, _, s, ⟨calls, rfl, hcalls⟩, .cons (.start h₀) hrun⟩

end Runs

end Process

end RemitBridge
