import RemitBridge.Liquidity.Desk

/-!
# How often an approval is executed

`executeTopUp` checks the status of a request when it starts and writes it when it is done, and
submits a transaction in between.  Two executions that are under way together both submit one, and
so does an execution after another that could not record what it did.  If neither happens and a
decision is made once, at most one transaction is submitted (`one_submission`).
-/

namespace RemitBridge

namespace Liquidity

open Backend Process TransitionSystem

variable {N : Type} {sdk : Sdk} {env : Settings} {net : Environment N RpcCall RpcAnswer Failure}

def Desk.status (d : Desk) : Option TopUpStatus := d.request.map TopUpRequest.status

/-- A decision is written only to a pending request. -/
def Desk.DecidesPending (d d' : Desk) : Prop :=
  ∀ request request', d.request = some request → d'.request = some request' →
    request' ≠ request → request'.status = .approved ∨ request'.status = .rejected →
    request.status = .pending

/-- What keeps executions apart. -/
structure Desk.Careful (d d' : Desk) : Prop where
  /-- An execution finds the request approved only while no other one is under way. -/
  alone : ∀ pid, d.engaged pid = none → d'.engaged pid = some false →
    ∀ pid', d.engaged pid' = none
  /-- An execution that has submitted a transaction ends with its outcome recorded. -/
  recorded : ∀ pid, d.engaged pid = some true → d'.engaged pid = none →
    d'.status = some .executed ∨ d'.status = some .failed
  decided : d.DecidesPending d'

/-- What is known of a request for which `n` transactions have been submitted. -/
structure Desk.Sound (n : ℕ) (d : Desk) : Prop where
  once : n ≤ 1
  alone : ∀ pid pid', d.engaged pid ≠ none → d.engaged pid' ≠ none → pid = pid'
  unsent : ∀ pid, d.engaged pid = some false → n = 0
  undecided : d.status = none ∨ d.status = some .pending → n = 0 ∧ ∀ pid, d.engaged pid = none
  approved : d.status = some .approved → n = 0 ∨ ∃ pid, d.engaged pid = some true

/-- Whoever is under way afterwards was so before, or is the process that moved. -/
theorem ne_none_of_update {f : ℕ → Option Bool} {pid pid' : ℕ} {b : Option Bool}
    (hpid : f pid ≠ none) (h : Function.update f pid b pid' ≠ none) : f pid' ≠ none := by
  by_cases heq : pid' = pid
  · rwa [heq]
  · rwa [Function.update_of_ne heq] at h

namespace Desk.Sound

variable {n : ℕ} {d : Desk}

/-- While an execution is under way the request has been decided. -/
theorem not_undecided {pid : ℕ} {b : Bool} (h : Sound n d) (hpid : d.engaged pid = some b) :
    ¬ (d.status = none ∨ d.status = some .pending) := by
  intro hstatus
  rw [(h.undecided hstatus).2 pid] at hpid
  cases hpid

/-- An execution ends, or has its outcome recorded without noticing. -/
theorem close {pid : ℕ} {b : Bool} {b' : Option Bool} {request : Option TopUpRequest}
    (h : Sound n d) (hpid : d.engaged pid = some b) (hb : b' ≠ some false)
    (hundecided : ¬ (request.map TopUpRequest.status = none ∨
      request.map TopUpRequest.status = some .pending))
    (happroved : request.map TopUpRequest.status = some .approved → n = 0) :
    Sound n ⟨request, Function.update d.engaged pid b'⟩ where
  once := h.once
  alone pid₁ pid₂ h₁ h₂ := by
    have hne : d.engaged pid ≠ none := by rw [hpid]; nofun
    exact h.alone _ _ (ne_none_of_update hne h₁) (ne_none_of_update hne h₂)
  unsent pid' h' := by
    rcases update_cases h' with ⟨-, hnew⟩ | ⟨-, hold⟩
    · exact absurd hnew hb
    · exact h.unsent pid' hold
  undecided h' := absurd h' hundecided
  approved h' := .inl (happroved h')

theorem begin {pid : ℕ} (h : Sound n d) (hstatus : d.status = some .approved)
    (hnone : ∀ pid, d.engaged pid = none) :
    Sound n { d with engaged := Function.update d.engaged pid (some false) } := by
  have hzero : n = 0 := by
    rcases h.approved hstatus with hn | ⟨pid', hpid'⟩
    · exact hn
    · rw [hnone pid'] at hpid'
      cases hpid'
  have hself : ∀ pid', Function.update d.engaged pid (some false) pid' ≠ none → pid' = pid := by
    intro pid' hpid'
    by_contra hne
    rw [Function.update_of_ne hne, hnone pid'] at hpid'
    exact hpid' rfl
  refine ⟨h.once, fun pid₁ pid₂ h₁ h₂ => (hself _ h₁).trans (hself _ h₂).symm, fun _ _ => hzero,
    fun h' => ?_, fun _ => .inl hzero⟩
  change d.status = none ∨ d.status = some .pending at h'
  rw [hstatus] at h'
  rcases h' with h' | h' <;> cases h'

theorem submit {pid : ℕ} (h : Sound n d) (hpid : d.engaged pid = some false) :
    Sound (n + 1) { d with engaged := Function.update d.engaged pid (some true) } := by
  have hzero := h.unsent pid hpid
  have hne : d.engaged pid ≠ none := by rw [hpid]; nofun
  refine ⟨by omega, fun pid₁ pid₂ h₁ h₂ =>
    h.alone _ _ (ne_none_of_update hne h₁) (ne_none_of_update hne h₂), fun pid' h' => ?_,
    fun h' => absurd h' (h.not_undecided hpid), fun _ => .inr ⟨pid, Function.update_self ..⟩⟩
  rcases update_cases h' with ⟨-, hnew⟩ | ⟨heq, hold⟩
  · cases hnew
  · exact absurd (h.alone pid' pid (by rw [hold]; nofun) hne) heq

theorem step {d' : Desk} {l : Option Transaction} (h : Sound n d) (hst : Desk.Step d l d')
    (hcareful : d.Careful d') : Sound (n + l.toList.length) d' := by
  cases hst with
  | idle => exact h
  | @proposed request hnone hproposed =>
    obtain ⟨hzero, hengaged⟩ := h.undecided (.inl (by rw [status, hnone]; rfl))
    refine ⟨h.once, h.alone, h.unsent, fun _ => ⟨hzero, hengaged⟩, fun _ => .inl hzero⟩
  | @decided request approved approvedBy note now hrequest =>
    by_cases hsame : (TopUpData.decided approved approvedBy note now).apply request = request
    · rw [hsame, ← hrequest]
      exact h
    · have hpending := hcareful.decided _ _ hrequest rfl hsame (by
        cases approved
        · exact .inr rfl
        · exact .inl rfl)
      obtain ⟨hzero, hengaged⟩ :=
        h.undecided (.inr (by rw [status, hrequest, Option.map_some, hpending]))
      exact ⟨h.once, h.alone, h.unsent, fun _ => ⟨hzero, hengaged⟩, fun _ => .inl hzero⟩
  | @begun request pid hrequest happroved hnone =>
    refine h.begin (by rw [status, hrequest, Option.map_some, happroved]) ?_
    exact hcareful.alone pid hnone (Function.update_self ..)
  | submitted hpid => exact h.submit hpid
  | executed hpid hrequest hb => exact h.close hpid hb (by rintro (h | h) <;> cases h) nofun
  | failed hpid hrequest => exact h.close hpid nofun (by rintro (h | h) <;> cases h) nofun
  | @dropped pid b hpid =>
    refine h.close hpid nofun (h.not_undecided hpid) fun happroved => ?_
    cases b with
    | false => exact h.unsent pid hpid
    | true =>
      -- It has submitted, so its outcome is recorded.
      change d.status = _ at happroved
      have hrecorded : d.status = some .executed ∨ d.status = some .failed :=
        hcareful.recorded pid hpid (Function.update_self ..)
      rw [happroved] at hrecorded
      rcases hrecorded with h' | h' <;> cases h'

end Desk.Sound

/-- The steps keep the executions of the request apart. -/
def Careful (id : String) (s s' : ServiceState N) : Prop :=
  (desk id (s.staged staging)).Careful (desk id (s'.staged staging))

theorem sound_of_run {s₀ s : ServiceState N} {ls : List ServiceLabel} (h₀ : s₀.Idle)
    (id : String) (h : ((service sdk env net).restrict fun s _ s' => Careful id s s').Run s₀ ls s) :
    (desk id (s.staged staging)).Sound (submissions id ls).length := by
  have hrun := (staged_of_run (G := fun s _ s' => (desk id s).Careful (desk id s'))
    follows_program (.of_idle h₀) h).1
  generalize s.staged staging = s' at hrun
  clear h
  induction hrun with
  | nil =>
    have hnone : ∀ pid, (desk id (s₀.staged staging)).engaged pid = none := fun pid =>
      engaged_of_stage (h₀.staged pid)
    refine ⟨Nat.zero_le _, fun pid _ h => absurd (hnone pid) h, fun pid h => ?_,
      fun _ => ⟨rfl, hnone⟩, fun _ => .inl rfl⟩
    rw [hnone pid] at h
    cases h
  | snoc _ hst ih =>
    rw [submissions, List.filterMap_append, List.length_append]
    have hstep := ih.step (desk_of_step hst.1) hst.2
    rw [List.filterMap_cons, List.filterMap_nil]
    cases hl : submissionOf id _ with
    | none => rwa [hl] at hstep
    | some tx => rwa [hl] at hstep

/-- **Submissions.**  For a request whose executions are kept apart at most one transaction is
submitted. -/
theorem one_submission {s₀ s : ServiceState N} {ls : List ServiceLabel} (h₀ : s₀.Idle)
    (id : String) (h : ((service sdk env net).restrict fun s _ s' => Careful id s s').Run s₀ ls s) :
    (submissions id ls).length ≤ 1 := (sound_of_run h₀ id h).once

/-! ### Two executions of one approval -/

namespace Sample

/-- Everything is accepted, and written as it is. -/
def library : Sdk where
  fromSecret _ := .ok ⟨"operator"⟩
  address value := .ok (.text value)
  nativeToScVal value _ := .ok value
  bigIntOfDecimal n := .ok n

def deployment : Settings := ⟨"hook", "pool", "S", "S", 365⟩

/-- A network that includes every transaction at once. -/
structure Network where
  sequence : ℕ
  landed : List String

def respond (n : Network) : (q : RpcCall) → Except Failure (RpcAnswer q) × Network
  | .getAccount _ => (.ok n.sequence, n)
  | .simulateTransaction _ => (.ok (.success none []), n)
  | .sendTransaction tx =>
    (.ok ⟨.pending, toString tx.sequence, none⟩, ⟨tx.sequence, n.landed ++ [toString tx.sequence]⟩)
  | .getTransaction hash => (.ok (if hash ∈ n.landed then .success 1 else .notFound), n)

def answer : Records × Network → (q : ServiceCall) →
    Except Failure (ServiceAnswer q) × (Records × Network) :=
  answerSum (obey Query.perform (.error "refused")) respond

theorem answer_answers (w : Records × Network) (q : ServiceCall) :
    (environment (.ofAnswer respond)).answers w q (answer w q).1 (answer w q).2 :=
  answerSum_answers obey_answers (fun _ _ => rfl) w q

/-- A request in the state it was proposed in. -/
def proposed : TopUpRequest :=
  ⟨"agent", "LAGOS", 100, "low", .pending, "proposer", none, none, none, none, none, none⟩

def approved : TopUpRequest :=
  { proposed with status := .approved, approvedBy := some "approver", decidedAt := some 0 }

/-- The database with one request, and no call yet. -/
def opened (request : TopUpRequest) : ServiceState Network where
  world := ({ users := [], corridors := [], regions := ["LAGOS"], transfers := ∅, exposures := ∅
              agents := [⟨"agent", "borrower", .authorized, none, none, none⟩]
              chainEvents := [], cursors := ∅
              topUps := AList.insert "request" request ∅, alerts := [] }, ⟨0, []⟩)
  running _ := none

theorem opened_idle (request : TopUpRequest) : (opened request).Idle := fun _ => rfl

def execute : Command := .executeTopUp "request" 1

/-- Both executions look the request up before either has drawn. -/
def twice : List (Turn Command) :=
  [.start 1 execute, .start 2 execute, .call 1, .call 2, .call 1, .call 1, .call 1, .call 1,
    .call 2, .call 2, .call 2]

/-- One execution, until it has submitted its transaction. -/
def once : List (Turn Command) := [.start 1 execute, .call 1, .call 1, .call 1, .call 1]

def played (request : TopUpRequest) (ts : List (Turn Command)) : ServiceState Network :=
  play (program library deployment) answer (opened request) ts

def traced (request : TopUpRequest) (ts : List (Turn Command)) : List ServiceLabel :=
  trace (program library deployment) answer (opened request) ts

theorem played_run (request : TopUpRequest) (ts : List (Turn Command)) :
    (service library deployment (.ofAnswer respond)).Run (opened request) (traced request ts)
      (played request ts) :=
  play_run answer_answers ts

/-- The steps of a script that goes on after another one. -/
def continued (request : TopUpRequest) (ts ts' : List (Turn Command)) : List ServiceLabel :=
  trace (program library deployment) answer (played request ts) ts'

theorem continued_run (request : TopUpRequest) (ts ts' : List (Turn Command)) :
    (service library deployment (.ofAnswer respond)).Run (played request ts)
      (continued request ts ts') (played request (ts ++ ts')) := by
  rw [show played request (ts ++ ts') = _ from play_append ts ts']
  exact play_run answer_answers ts'

/-- An execution that is alone and has not recorded anything yet. -/
theorem careful_once : ∀ n < once.length, Careful "request"
    (played approved (once.take n)) (played approved (once.take (n + 1))) := by
  intro n hn
  have hsole : ∀ n, ∀ pid ≠ 1, (desk "request"
      ((played approved (once.take n)).staged staging)).engaged pid = none := by
    intro n pid hpid
    refine engaged_of_stage (stage_of_not_running ?_)
    refine play_running _ fun t ht => ?_
    have hone : ∀ t ∈ once, t.pid = 1 := by decide
    rw [hone t (List.mem_of_mem_take ht)]
    exact Ne.symm hpid
  have hunsent : ∀ n < 5, (desk "request"
      ((played approved (once.take n)).staged staging)).engaged 1 ≠ some true := by
    decide +kernel
  have hrequest : ∀ n < 6, (desk "request"
      ((played approved (once.take n)).staged staging)).request = some approved := by
    decide +kernel
  have hlength : once.length = 5 := rfl
  refine ⟨fun pid h h' pid' => ?_, fun pid h _ => ?_, fun request request' h h' hne _ => ?_⟩
  -- Nobody else works on the request, and the one that does has not submitted before.
  · by_cases hpid : pid = 1
    · subst hpid
      by_cases hpid' : pid' = 1
      · rw [hpid', h]
      · exact hsole n pid' hpid'
    · rw [hsole (n + 1) pid hpid] at h'
      cases h'
  · by_cases hpid : pid = 1
    · exact absurd (hpid ▸ h) (hunsent n (by omega))
    · rw [hsole n pid hpid] at h
      cases h
  -- The row does not change, so no decision comes in between.
  · rw [hrequest n (by omega)] at h
    rw [hrequest (n + 1) (by omega)] at h'
    exact absurd (Option.some.inj (h'.symm.trans h)) hne

end Sample

/-- Two executions under way together submit two transactions. -/
theorem not_one_submission_sample : (Sample.opened Sample.approved).Idle ∧
    (service Sample.library Sample.deployment (.ofAnswer Sample.respond)).Run
      (Sample.opened Sample.approved)
      (Sample.traced Sample.approved Sample.twice) (Sample.played Sample.approved Sample.twice) ∧
    ¬ (submissions "request" (Sample.traced Sample.approved Sample.twice)).length ≤ 1 :=
  ⟨Sample.opened_idle _, Sample.played_run _ _, by decide +kernel⟩

/-- An execution that is alone submits one transaction. -/
theorem one_submission_sample :
    (submissions "request" (Sample.traced Sample.approved Sample.once)).length = 1 ∧
    (submissions "request" (Sample.traced Sample.approved Sample.once)).length ≤ 1 :=
  ⟨by decide +kernel, one_submission (Sample.opened_idle _) "request"
    (play_restrict Sample.answer_answers Sample.once Sample.careful_once)⟩

end Liquidity

end RemitBridge
