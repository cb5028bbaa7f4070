import RemitBridge.Soroban.Contract

/-!
# A contract and the service it calls

A client contract calls a service, another contract whose storage is the first part of the state
of the client's peers.  `Link.lts` is the behaviour of the two on a chain that they share with
everybody else.  A step is

* a step of the client, in which the storage of the service changes by nothing but the client's
  own calls;
* an invocation of the service by anybody else: like those of the client, it carries the
  signature of neither contract.

`tryCall` is the answer of the service to a `try_` call.

`Link.play` runs a script of invocations of both; every script is a run (`Link.play_run`).
-/

namespace RemitBridge

/-- The world of a service at the start of an invocation: its storage and the ledger. -/
def World.ofStorage {S E : Type} (s : S) (ledger : Ledger) : World S E Unit :=
  ⟨s, { ledger with transfers := [] }, [], ()⟩

/-- The answer of a service with the storage `s` to a `try_` call, and its storage afterwards.  A
call that fails is reverted.  The entry points that are called in this way move no tokens. -/
def tryCall {S E γ α : Type} (entryPoint : Exec (World S E Unit) γ α) (now : U64) (s : S) :
    TryCall γ α × S :=
  match entryPoint (.ofStorage s ⟨now, fun _ _ => 0, []⟩) with
  | .ok (a, w) => (.ok a, w.store)
  | .error (.err e) => (.err e, s)
  | .error .trap => (.failed, s)

theorem tryCall_ok {S E γ α : Type} {entryPoint : Exec (World S E Unit) γ α} {now : U64}
    {s s' : S} {a : α} : tryCall entryPoint now s = (.ok a, s') ↔
      ∃ w, entryPoint (.ofStorage s ⟨now, fun _ _ => 0, []⟩) = .ok (a, w) ∧ w.store = s' := by
  unfold tryCall
  split
  · next hok => simp [hok, and_assoc]
  · next herr => simp [herr]
  · next htrap => simp [htrap]

namespace Link

variable {S E S' ρ C R ε E' C' R' ε' : Type}

/-- The steps of a client and its service. -/
inductive Label (ω C R E ε C' R' E' ε' : Type) where
  /-- A step of the client. -/
  | client (l : Action ω C R E ε)
  /-- Somebody invokes the service. -/
  | service (env : Env) (c : C') (outcome : Outcome R' E' ε')

/-- The steps. -/
inductive Step (K : Contract S E (S' × ρ) C R ε) (K' : Contract S' E' Unit C' R' ε') :
    World S E (S' × ρ) → Label (S' × ρ) C R E ε C' R' E' ε' → World S E (S' × ρ) → Prop
  | client {w w' : World S E (S' × ρ)} {l : Action (S' × ρ) C R E ε} : K.lts.step w l w' →
      (∀ balance peers, l = .external balance peers → peers.1 = w.peers.1) →
      Step K K' w (.client l) w'
  | service {w : World S E (S' × ρ)} {v : World S' E' Unit} {env : Env} {c : C'} {r : R'} :
      env.signed K.self = false → env.signed K'.self = false →
      K'.invoke env c (.ofStorage w.peers.1 w.ledger) = .ok (r, v) →
      Step K K' w (.service env c (.done r v.ledger.transfers v.events))
        { w with ledger := v.ledger, peers := (v.store, w.peers.2) }
  | refused {w : World S E (S' × ρ)} {env : Env} {c : C'} {f : Fault ε'} :
      env.signed K.self = false → env.signed K'.self = false →
      K'.invoke env c (.ofStorage w.peers.1 w.ledger) = .error f →
      Step K K' w (.service env c (.reverted f)) w

variable (K : Contract S E (S' × ρ) C R ε) (K' : Contract S' E' Unit C' R' ε')

/-- The behaviour of a client and its service. -/
def lts : TransitionSystem (World S E (S' × ρ)) (Label (S' × ρ) C R E ε C' R' E' ε') :=
  ⟨Step K K'⟩

variable {K K'} in
theorem step_call {w w' : World S E (S' × ρ)} {env : Env} {c : C} {o : Outcome R E ε}
    (h : K.lts.step w (.call env c o) w') : (lts K K').step w (.client (.call env c o)) w' :=
  .client h nofun

variable {K} in
/-- Without a successful invocation the client keeps the storage of the service. -/
theorem service_eq {w w' : World S E (S' × ρ)} {l : Action (S' × ρ) C R E ε}
    (h : K.lts.step w l w')
    (hexternal : ∀ balance peers, l = .external balance peers → peers.1 = w.peers.1)
    (hl : l.succeeded = false) : w'.peers.1 = w.peers.1 := by
  cases h with
  | done => cases hl
  | external => exact hexternal _ _ rfl
  | _ => rfl

/-! ### Scripts -/

/-- One line of a script. -/
inductive Input (C C' : Type) where
  | client (i : Contract.Input C)
  | service (env : Env) (c : C')

/-- The world after one line of a script, and the step it was. -/
def perform (w : World S E (S' × ρ)) :
    Input C C' → World S E (S' × ρ) × List (Label (S' × ρ) C R E ε C' R' E' ε')
  | .client i => ((K.perform w i).1, (K.perform w i).2.map .client)
  | .service env c =>
    match K'.invoke env c (.ofStorage w.peers.1 w.ledger) with
    | .ok (r, v) => ({ w with ledger := v.ledger, peers := (v.store, w.peers.2) },
        [.service env c (.done r v.ledger.transfers v.events)])
    | .error f => (w, [.service env c (.reverted f)])

/-- The world after a script. -/
def play (w : World S E (S' × ρ)) : List (Input C C') → World S E (S' × ρ)
  | [] => w
  | i :: is => play (perform K K' w i).1 is

/-- The steps of a script. -/
def trace (w : World S E (S' × ρ)) :
    List (Input C C') → List (Label (S' × ρ) C R E ε C' R' E' ε')
  | [] => []
  | i :: is => (perform K K' w i).2 ++ trace (perform K K' w i).1 is

/-- The line does not carry the signature of either contract. -/
def unsigned : Input C C' → Bool
  | .client i => K.unsigned i
  | .service env _ => !env.signed K.self && !env.signed K'.self

variable {K K'}

theorem perform_run {w : World S E (S' × ρ)} {i : Input C C'} (h : unsigned K K' i = true) :
    (lts K K').Run w (perform K K' w i).2 (perform K K' w i).1 := by
  cases i with
  | client i =>
    rcases Contract.perform_cases (w := w) h with hnil | ⟨l, w', hone, hst, hl⟩
    · simp only [perform, hnil]
      exact .nil _
    · simp only [perform, hone]
      exact .single (.client hst fun balance peers he => absurd he (hl balance peers))
  | service env c =>
    have hi : env.signed K.self = false ∧ env.signed K'.self = false := by simpa [unsigned] using h
    cases hc : K'.invoke env c (.ofStorage w.peers.1 w.ledger) with
    | ok p =>
      simp only [perform, hc]
      exact .single (.service hi.1 hi.2 hc)
    | error f =>
      simp only [perform, hc]
      exact .single (.refused hi.1 hi.2 hc)

/-- Every script is a run. -/
theorem play_run (is : List (Input C C')) {w : World S E (S' × ρ)}
    (h : is.all (unsigned K K') = true) :
    (lts K K').Run w (trace K K' w is) (play K K' w is) := by
  induction is generalizing w with
  | nil => exact .nil _
  | cons i is ih =>
    rw [List.all_cons, Bool.and_eq_true] at h
    exact (perform_run h.1).append (ih h.2)

end Link

end RemitBridge
