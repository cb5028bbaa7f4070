import RemitBridge.Liquidity.Submissions

/-!
# Decisions on a request

`decideTopUp` finds a request pending and then writes its decision, whatever the request has become
in between.  As long as every decision is written to a pending request, the first one is final: it
is not overwritten, and nothing is drawn for a request that was rejected (`decision_final`).
-/

namespace RemitBridge

namespace Liquidity

open Backend Process TransitionSystem

variable {N : Type} {sdk : Sdk} {env : Settings} {net : Environment N RpcCall RpcAnswer Failure}
  {id : String}

/-- Who decided a request, when and with which note. -/
def TopUpRequest.decision (request : TopUpRequest) : Option String × Option String × Option ℕ :=
  (request.approvedBy, request.decisionNote, request.decidedAt)

/-- The row of a request. -/
def requestIn (id : String) (s : ServiceState N) : Option TopUpRequest :=
  s.world.1.topUps.lookup id

/-- The command rejects the request. -/
def Command.Rejects (id : String) : Command → Prop
  | decideTopUp requestId approved .. => requestId = id ∧ approved = false
  | executeTopUp .. => False

/-- A decided request: what was decided stays, rejected or not. -/
structure Kept (request request' : TopUpRequest) : Prop where
  decided : request'.status ≠ .pending
  decision : request'.decision = request.decision
  rejected : request'.status = .rejected ↔ request.status = .rejected

/-- Neither a rejection nor made from one. -/
theorem Kept.of_ne {request request' : TopUpRequest} (hpending : request'.status ≠ .pending)
    (hdecision : request'.decision = request.decision) (hrejected' : request'.status ≠ .rejected)
    (hrejected : request.status ≠ .rejected) : Kept request request' :=
  ⟨hpending, hdecision, iff_of_false hrejected' hrejected⟩

/-- As long as a request is not approved nothing is under way, and nothing has been submitted. -/
def Desk.Unapproved (n : ℕ) (d : Desk) : Prop :=
  d.status = none ∨ d.status = some .pending ∨ d.status = some .rejected →
    n = 0 ∧ ∀ pid, d.engaged pid = none

namespace Desk

variable {n : ℕ} {d d' : Desk} {l : Option Transaction}

theorem Unapproved.not_of_engaged (h : Unapproved n d) {pid : ℕ} {b : Bool}
    (hpid : d.engaged pid = some b) :
    ¬ (d.status = none ∨ d.status = some .pending ∨ d.status = some .rejected) := by
  intro hstatus
  rw [(h hstatus).2 pid] at hpid
  cases hpid

theorem Unapproved.step (h : Unapproved n d) (hst : Desk.Step d l d')
    (hdecides : d.DecidesPending d') : Unapproved (n + l.toList.length) d' := by
  cases hst with
  | idle => exact h
  | proposed hnone => exact fun _ => h (.inl (by rw [status, hnone]; rfl))
  | @decided request approved approvedBy note now hrequest =>
    by_cases hsame : (TopUpData.decided approved approvedBy note now).apply request = request
    · rw [hsame, ← hrequest]
      exact h
    · have hpending := hdecides _ _ hrequest rfl hsame (by
        cases approved
        · exact .inr rfl
        · exact .inl rfl)
      exact fun _ => h (.inr (.inl (by rw [status, hrequest, Option.map_some, hpending])))
  | begun hrequest happroved =>
    intro hstatus
    change d.status = none ∨ d.status = some .pending ∨ d.status = some .rejected at hstatus
    rw [status, hrequest, Option.map_some, happroved] at hstatus
    rcases hstatus with h' | h' | h' <;> cases h'
  | submitted hpid | dropped hpid => exact fun hstatus => absurd hstatus (h.not_of_engaged hpid)
  | executed | failed =>
    intro hstatus
    rcases hstatus with h' | h' | h' <;> cases h'

/-- While a request is rejected nothing is submitted for it. -/
theorem Step.eq_none (h : Unapproved n d) (hst : Desk.Step d l d')
    (hrejected : d.status = some .rejected) : l = none := by
  cases hst with
  | submitted hpid => exact absurd (.inr (.inr hrejected)) (h.not_of_engaged hpid)
  | _ => rfl

/-- What a step does to a request that has been decided. -/
theorem Step.kept (h : Unapproved n d) (hst : Desk.Step d l d') (hdecides : d.DecidesPending d')
    {request : TopUpRequest} (hrequest : d.request = some request)
    (hdecided : request.status ≠ .pending) :
    ∃ request', d'.request = some request' ∧ Kept request request' := by
  have hself : Kept request request := ⟨hdecided, rfl, Iff.rfl⟩
  have happroved : ∀ pid b, d.engaged pid = some b → request.status ≠ .rejected := by
    intro pid b hpid hrejected
    refine h.not_of_engaged hpid (.inr (.inr ?_))
    rw [status, hrequest, Option.map_some, hrejected]
  cases hst with
  | idle | begun | submitted | dropped => exact ⟨request, hrequest, hself⟩
  | proposed hnone =>
    rw [hnone] at hrequest
    cases hrequest
  | @decided request' approved approvedBy note now hrequest' =>
    obtain rfl := Option.some.inj (hrequest.symm.trans hrequest')
    by_cases hsame : (TopUpData.decided approved approvedBy note now).apply request = request
    · exact ⟨request, congrArg some hsame, hself⟩
    · refine absurd (hdecides _ _ hrequest rfl hsame ?_) hdecided
      cases approved
      · exact .inr rfl
      · exact .inl rfl
  | @executed request' pid txHash now b hpid hrequest' =>
    obtain rfl := Option.some.inj (hrequest.symm.trans hrequest')
    exact ⟨_, rfl, .of_ne (by simp [TopUpData.apply]) rfl (by simp [TopUpData.apply])
      (happroved pid _ hpid)⟩
  | @failed request' pid reason b hpid hrequest' =>
    obtain rfl := Option.some.inj (hrequest.symm.trans hrequest')
    exact ⟨_, rfl, .of_ne (by simp [TopUpData.apply]) rfl (by simp [TopUpData.apply])
      (happroved pid _ hpid)⟩

end Desk

theorem Kept.trans {request₁ request₂ request₃ : TopUpRequest} (h : Kept request₁ request₂)
    (h' : Kept request₂ request₃) : Kept request₁ request₃ :=
  ⟨h'.decided, h'.decision.trans h.decision, h'.rejected.trans h.rejected⟩

/-! ### Runs -/

/-- The staged service, in which every decision is written to a pending request. -/
def stagedService (net : Environment N RpcCall RpcAnswer Failure) (id : String) :
    TransitionSystem (StagedService N) ServiceLabel :=
  (staged (environment net) staging).restrict fun s _ s' => (desk id s).DecidesPending (desk id s')

/-- A rejection that its decider knows of has been written. -/
def Acknowledges (id : String) (s : StagedService N) : Prop :=
  ∀ pid c request, s.stage pid = some (c, .decided request) → c.Rejects id →
    (desk id s).status = some .rejected

section Runs

variable {s s' : StagedService N} {n : ℕ} {l : ServiceLabel} {ls : List ServiceLabel}

/-- What is rejected stays rejected. -/
theorem rejected_step (h : (desk id s).Unapproved n) (hst : (stagedService net id).step s l s')
    (hrejected : (desk id s).status = some .rejected) : (desk id s').status = some .rejected := by
  obtain ⟨request, hrequest, hstatus⟩ := Option.map_eq_some_iff.1 hrejected
  obtain ⟨request', hrequest', hkept⟩ := (desk_of_step hst.1).kept h hst.2 hrequest
    (by rw [hstatus]; nofun)
  rw [Desk.status, hrequest', Option.map_some, hkept.rejected.2 hstatus]

theorem Acknowledges.step (hunapproved : (desk id s).Unapproved n) (h : Acknowledges id s)
    (hst : (stagedService net id).step s l s') : Acknowledges id s' := by
  intro pid c request hstage hrejects
  have hold : ∀ request, s.stage pid = some (c, .decided request) →
      (desk id s').status = some .rejected :=
    fun request hstage => rejected_step hunapproved hst (h pid c request hstage hrejects)
  obtain ⟨hst, -⟩ := hst
  cases hst with
  | @start pid' c' hnone =>
    rcases update_cases hstage with ⟨-, hnew⟩ | ⟨-, hstage⟩
    · cases hnew
    · exact hold request hstage
  | @call pid' c' φ ψ q o w hstage' hnext hanswers =>
    rcases update_cases hstage with ⟨-, hnew⟩ | ⟨-, hstage⟩
    · obtain ⟨rfl, rfl⟩ := Prod.mk.inj (Option.some.inj hnew)
      cases c' with
      | executeTopUp => exact hrejects.elim
      | decideTopUp requestId approved approvedBy note now =>
        obtain ⟨rfl, rfl⟩ := hrejects
        -- Only writing the decision leads to this stage.
        generalize hψ : Stage.decided request = ψ at hnext
        cases stageCall_of_next hnext with
        | @decided data request' hdecision =>
          obtain rfl := Option.some.inj hdecision
          rcases update_answers hanswers with hwrites | ⟨⟨e, he⟩, -⟩
          · obtain ⟨old, -, hnew⟩ := hwrites.lookup_self
            exact congrArg (Option.map TopUpRequest.status) hnew
          · cases he
        | @find o =>
          rcases o with e | _ | ⟨found, agent⟩
          · cases hψ
          · cases hψ
          · change _ = (if found.status = .pending then Stage.deciding else .ended) at hψ
            split_ifs at hψ
        | _ => cases hψ
    · exact hold request hstage
  | @finish pid' | @stop pid' =>
    rcases update_cases hstage with ⟨-, hnew⟩ | ⟨-, hstage⟩
    · cases hnew
    · exact hold request hstage
  | evolve => exact hold request hstage

/-- What is known after a run: of a request in the state `d` before, for which `n` transactions had
been submitted. -/
structure Decided (id : String) (n : ℕ) (s : StagedService N) (ls : List ServiceLabel)
    (s' : StagedService N) : Prop where
  unapproved : (desk id s').Unapproved (n + (submissions id ls).length)
  acknowledges : Acknowledges id s'
  kept : ∀ request, (desk id s).request = some request → request.status ≠ .pending →
    ∃ request', (desk id s').request = some request' ∧ Kept request request'
  undrawn : (desk id s).status = some .rejected → submissions id ls = []
  rejected : ∀ pid c request, .finish pid c (.ok (.decided request)) ∈ ls → c.Rejects id →
    (desk id s').status = some .rejected

theorem decided_of_run (hunapproved : (desk id s).Unapproved n) (hack : Acknowledges id s)
    (h : (stagedService net id).Run s ls s') : Decided id n s ls s' := by
  induction h with
  | nil =>
    exact ⟨hunapproved, hack,
      fun request hrequest hdecided => ⟨request, hrequest, hdecided, rfl, Iff.rfl⟩,
      fun _ => rfl, fun _ _ _ hmem => absurd hmem List.not_mem_nil⟩
  | @snoc s₁ s₂ ls l h hst ih =>
    have hlength : (submissions id (ls ++ [l])).length =
        (submissions id ls).length + (submissionOf id l).toList.length := by
      rw [submissions, List.filterMap_append, List.length_append, List.filterMap_cons,
        List.filterMap_nil, submissions]
      cases submissionOf id l <;> rfl
    refine ⟨?_, ih.acknowledges.step ih.unapproved hst, ?_, ?_, ?_⟩
    · rw [hlength, ← Nat.add_assoc]
      exact ih.unapproved.step (desk_of_step hst.1) hst.2
    · intro request hrequest hdecided
      obtain ⟨request₁, hrequest₁, hkept₁⟩ := ih.kept request hrequest hdecided
      obtain ⟨request₂, hrequest₂, hkept₂⟩ := (desk_of_step hst.1).kept ih.unapproved hst.2
        hrequest₁ hkept₁.decided
      exact ⟨request₂, hrequest₂, hkept₁.trans hkept₂⟩
    · intro hrejected
      have hrejected₁ : (desk id s₁).status = some .rejected := by
        obtain ⟨request, hrequest, hstatus⟩ := Option.map_eq_some_iff.1 hrejected
        obtain ⟨request₁, hrequest₁, hkept₁⟩ := ih.kept request hrequest (by rw [hstatus]; decide)
        rw [Desk.status, hrequest₁, Option.map_some, hkept₁.rejected.2 hstatus]
      have hnil := ih.undrawn hrejected
      have hnone := (desk_of_step hst.1).eq_none ih.unapproved hrejected₁
      rw [← List.length_eq_zero_iff, hlength, hnil, hnone]
      rfl
    · intro pid c request hmem hrejects
      rcases List.mem_append.1 hmem with hmem | hmem
      · exact rejected_step ih.unapproved hst (ih.rejected pid c request hmem hrejects)
      · obtain rfl := List.mem_singleton.1 hmem
        refine rejected_step ih.unapproved hst ?_
        cases hst.1 with
        | finish hstage hends =>
          cases hends
          exact ih.acknowledges pid c request hstage hrejects

end Runs

/-- Every decision on the request is written to it while it is pending. -/
def DecidesPending (id : String) (s s' : ServiceState N) : Prop :=
  (desk id (s.staged staging)).DecidesPending (desk id (s'.staged staging))

/-- The decisions on a request are final, after the steps `ls` and in the steps `ls'` after them. -/
structure Final (id : String) (ls : List ServiceLabel) (s : ServiceState N)
    (ls' : List ServiceLabel) (s' : ServiceState N) : Prop where
  /-- What has been decided stays decided as it was. -/
  kept : ∀ request, requestIn id s = some request → request.status ≠ .pending →
    ∃ request', requestIn id s' = some request' ∧ Kept request request'
  /-- A request for which a draw was submitted is not rejected. -/
  undrawn : submissions id ls ≠ [] →
    (requestIn id s).map TopUpRequest.status ≠ some .rejected
  /-- Nothing is submitted after a rejection has been acknowledged. -/
  heeded : ∀ pid c request, .finish pid c (.ok (.decided request)) ∈ ls → c.Rejects id →
    submissions id ls' = []

/-- **Decisions are final**, as long as they are written to a pending request. -/
theorem decision_final {s₀ s₁ s₂ : ServiceState N} {ls₁ ls₂ : List ServiceLabel} (h₀ : s₀.Idle)
    (h₁ : ((service sdk env net).restrict fun s _ s' => DecidesPending id s s').Run s₀ ls₁ s₁)
    (h₂ : ((service sdk env net).restrict fun s _ s' => DecidesPending id s s').Run s₁ ls₂ s₂) :
    Final id ls₁ s₁ ls₂ s₂ := by
  obtain ⟨hrun₁, hdisciplined⟩ := staged_of_run
    (G := fun s _ s' => (desk id s).DecidesPending (desk id s')) follows_program (.of_idle h₀) h₁
  obtain ⟨hrun₂, -⟩ := staged_of_run
    (G := fun s _ s' => (desk id s).DecidesPending (desk id s')) follows_program hdisciplined h₂
  have hnone : ∀ pid, (desk id (s₀.staged staging)).engaged pid = none := fun pid =>
    engaged_of_stage (h₀.staged pid)
  have hack : Acknowledges id (s₀.staged staging) := by
    intro pid c request hstage
    rw [h₀.staged pid] at hstage
    cases hstage
  have hdecided₁ := decided_of_run (n := 0) (fun _ => ⟨rfl, hnone⟩) hack hrun₁
  have hdecided₂ := decided_of_run hdecided₁.unapproved hdecided₁.acknowledges hrun₂
  refine ⟨hdecided₂.kept, fun hsubmitted hrejected => hsubmitted ?_, ?_⟩
  · have hzero := (hdecided₁.unapproved (.inr (.inr hrejected))).1
    exact List.length_eq_zero_iff.1 (by omega)
  · intro pid c request hmem hrejects
    exact hdecided₂.undrawn (hdecided₁.rejected pid c request hmem hrejects)

/-! ### Two decisions on one request -/

namespace Sample

def approve : Command := .decideTopUp "request" true "first" none 2

def reject : Command := .decideTopUp "request" false "second" none 3

/-- Two deciders find the request pending; one of them approves it. -/
def approving : List (Turn Command) :=
  [.start 1 approve, .start 2 reject, .call 1, .call 2, .call 1]

/-- An execution finds it approved, and then the other one rejects it. -/
def rejecting : List (Turn Command) := [.start 3 execute, .call 3, .call 2, .finish 2]

/-- The execution submits its transaction. -/
def drawing : List (Turn Command) := [.call 3, .call 3, .call 3]

/-- The request after the rejection. -/
def rejected : TopUpRequest := (TopUpData.decided false "second" none 3).apply proposed

/-- A decider rejects the request. -/
def decides : List (Turn Command) := [.start 1 reject, .call 1, .call 1, .finish 1]

/-- An execution comes too late. -/
def refused : List (Turn Command) := [.start 2 execute, .call 2, .finish 2]

theorem decidesPending_of_request {s s' : ServiceState Network} {request : TopUpRequest}
    (h : requestIn "request" s = some request)
    (h' : request.status = .pending ∨ requestIn "request" s' = some request) :
    DecidesPending "request" s s' := by
  intro old new hold hnew hne _
  obtain rfl := Option.some.inj (h.symm.trans hold)
  rcases h' with hpending | hsame
  · exact hpending
  · exact absurd (Option.some.inj (hnew.symm.trans hsame)) hne

/-- The request is pending until the decision is written. -/
theorem decides_decidesPending : ∀ n < decides.length, DecidesPending "request"
    (played proposed (decides.take n)) (played proposed (decides.take (n + 1))) := by
  intro n hn
  have hbefore : ∀ n < 3,
      requestIn "request" (played proposed (decides.take n)) = some proposed := by
    decide +kernel
  have hafter : ∀ n < 2,
      requestIn "request" (played proposed (decides.take (3 + n))) = some rejected := by
    decide +kernel
  have hlength : decides.length = 4 := rfl
  by_cases hlt : n < 3
  · exact decidesPending_of_request (hbefore n hlt) (.inl rfl)
  · obtain rfl : n = 3 := by omega
    exact decidesPending_of_request (hafter 0 (by omega)) (.inr (hafter 1 (by omega)))

/-- An execution that comes too late leaves the request alone. -/
theorem refused_decidesPending : ∀ n < refused.length, DecidesPending "request"
    (play (program library deployment) answer (played proposed decides) (refused.take n))
    (play (program library deployment) answer (played proposed decides)
      (refused.take (n + 1))) := by
  intro n hn
  have hrejected : ∀ n < 4, requestIn "request" (play (program library deployment) answer
      (played proposed decides) (refused.take n)) = some rejected := by
    decide +kernel
  have hlength : refused.length = 3 := rfl
  exact decidesPending_of_request (hrejected n (by omega)) (.inr (hrejected (n + 1) (by omega)))

/-- The decisions are final after a script and in another one after it. -/
def FinalIn (ts ts' : List (Turn Command)) : Prop :=
  Final "request" (traced proposed ts) (played proposed ts) (continued proposed ts ts')
    (played proposed (ts ++ ts'))

theorem not_finalIn_rejecting : ¬ FinalIn approving rejecting := by
  intro h
  obtain ⟨request', hrequest', hkept⟩ :=
    h.kept ((TopUpData.decided true "first" none 2).apply proposed) (by decide +kernel) nofun
  have hrejected : requestIn "request" (played proposed (approving ++ rejecting)) =
      some rejected := by
    decide +kernel
  obtain rfl := Option.some.inj (hrejected.symm.trans hrequest')
  exact absurd hkept.decision (by decide)

theorem not_finalIn_drawing : ¬ FinalIn (approving ++ rejecting) drawing := by
  intro h
  have hmem : .finish 2 reject (.ok (.decided rejected)) ∈
      traced proposed (approving ++ rejecting) := by
    refine List.mem_of_getElem? (i := 8) ?_
    rfl
  have hlength : (submissions "request"
      (continued proposed (approving ++ rejecting) drawing)).length = 1 := by
    decide +kernel
  rw [h.heeded 2 reject rejected hmem ⟨rfl, rfl⟩] at hlength
  cases hlength

end Sample

/-- A rejection overwrites an approval, and a draw is submitted nevertheless. -/
theorem not_decision_final_sample : (Sample.opened Sample.proposed).Idle ∧
    (service Sample.library Sample.deployment (.ofAnswer Sample.respond)).Run
      (Sample.opened Sample.proposed) (Sample.traced Sample.proposed Sample.approving)
      (Sample.played Sample.proposed Sample.approving) ∧
    (service Sample.library Sample.deployment (.ofAnswer Sample.respond)).Run
      (Sample.played Sample.proposed Sample.approving)
      (Sample.continued Sample.proposed Sample.approving Sample.rejecting)
      (Sample.played Sample.proposed (Sample.approving ++ Sample.rejecting)) ∧
    (service Sample.library Sample.deployment (.ofAnswer Sample.respond)).Run
      (Sample.played Sample.proposed (Sample.approving ++ Sample.rejecting))
      (Sample.continued Sample.proposed (Sample.approving ++ Sample.rejecting) Sample.drawing)
      (Sample.played Sample.proposed
        (Sample.approving ++ Sample.rejecting ++ Sample.drawing)) ∧
    ¬ Sample.FinalIn Sample.approving Sample.rejecting ∧
    ¬ Sample.FinalIn (Sample.approving ++ Sample.rejecting) Sample.drawing ∧
    (requestIn "request" (Sample.played Sample.proposed
      (Sample.approving ++ Sample.rejecting ++ Sample.drawing))).map TopUpRequest.status =
        some .rejected :=
  ⟨Sample.opened_idle _, Sample.played_run _ _, Sample.continued_run _ _ _,
    Sample.continued_run _ _ _, Sample.not_finalIn_rejecting, Sample.not_finalIn_drawing,
    by decide +kernel⟩

/-- A rejection that is acknowledged before the execution starts. -/
theorem decision_final_sample :
    submissions "request" (trace (program Sample.library Sample.deployment) Sample.answer
      (Sample.played Sample.proposed Sample.decides) Sample.refused) = [] ∧
    Final "request" (Sample.traced Sample.proposed Sample.decides)
      (Sample.played Sample.proposed Sample.decides)
      (trace (program Sample.library Sample.deployment) Sample.answer
        (Sample.played Sample.proposed Sample.decides) Sample.refused)
      (play (program Sample.library Sample.deployment) Sample.answer
        (Sample.played Sample.proposed Sample.decides) Sample.refused) :=
  ⟨rfl, decision_final (Sample.opened_idle _)
    (play_restrict Sample.answer_answers Sample.decides Sample.decides_decidesPending)
    (play_restrict Sample.answer_answers Sample.refused Sample.refused_decidesPending)⟩

end Liquidity

end RemitBridge
