import RemitBridge.Backend.Fate
import RemitBridge.Liquidity.Decisions

/-!
# What a request reads after an execution

An execution writes `EXECUTED` once `invoke` has returned, and `FAILED` if anything went wrong,
before or after its transaction was submitted.  Whether that agrees with what becomes of the
transaction depends on what is known of it then (`outcome_agrees`).  While the executions of a
request are kept apart it depends on the same whether the request agrees with what becomes of
everything submitted for it (`request_agrees_iff`).
-/

namespace RemitBridge

namespace Liquidity

open Backend Process TransitionSystem

variable {N : Type} {sdk : Sdk} {env : Settings} {net : Environment N RpcCall RpcAnswer Failure}
  {F : Fate} {id : String}

/-- The transactions that have been submitted by these calls. -/
def transactionsIn (made : List (Exchange ServiceCall ServiceAnswer Failure)) : List Transaction :=
  made.flatMap fun x => match x.question with
    | .inl _ => []
    | .inr q => q.sent

/-- What a call tells of the transaction. -/
def advance (s : Submission) : Exchange ServiceCall ServiceAnswer Failure → Submission
  | ⟨.inl _, _⟩ => s
  | ⟨.inr q, o⟩ => (s.next q o).getD s

/-- What is known of the transaction after these calls. -/
def progress (made : List (Exchange ServiceCall ServiceAnswer Failure)) : Submission :=
  made.foldl advance .unsent

/-- What a call writes to a request. -/
def writtenBy : ServiceCall → Option (String × TopUpData)
  | .inl (.updateTopUp id data) => some (id, data)
  | .inl (.transaction (.updateTopUp id data :: _)) => some (id, data)
  | _ => none

/-- The status and the hash agree with what becomes of the transactions that were submitted. -/
structure TopUpRequest.Agrees (F : Fate) (sent : List Transaction) (request : TopUpRequest) :
    Prop where
  failed : request.status = .failed → ∀ tx ∈ sent, F.lands tx = false
  executed : request.status = .executed →
    ∃ tx, sent.filter F.lands = [tx] ∧ request.txHash = some (F.hashOf tx)

/-- What is known of a transaction is enough for what is written, or the transaction happens to
turn out that way. -/
def Supports (F : Fate) (s : Submission) : TopUpData → Prop
  | .decided .. => True
  | .executed .. => match s with
    | .pending tx _ _ => F.lands tx = true
    | _ => True
  | .failed _ => match s with
    | .unsent | .failed .. => True
    | .unknown tx | .refused tx | .pending tx _ _ | .lost tx _ => F.lands tx = false
    | .confirmed .. => False

theorem forall_sent_iff {s : Submission} {reason : String} (hs : s.Known F) :
    (∀ tx ∈ s.sent, F.lands tx = false) ↔ Supports F s (.failed reason) := by
  cases s with
  | unsent => exact iff_of_true nofun trivial
  | unknown | refused | pending | lost => exact List.forall_mem_singleton
  | confirmed tx hash =>
    obtain ⟨rfl, hlands⟩ := hs
    refine iff_of_false (fun h => ?_) id
    have hlost : F.effective (F.hashOf tx) = false := h tx (List.mem_singleton_self tx)
    rw [hlands] at hlost
    cases hlost
  | failed tx hash =>
    obtain ⟨rfl, hlost⟩ := hs
    exact iff_of_true (List.forall_mem_singleton.2 hlost) trivial

theorem exists_sent_iff {s : Submission} {txHash : String} {now : ℕ} (hs : s.Known F)
    (hreturned : s.returned = some txHash) :
    (∃ tx, s.sent.filter F.lands = [tx] ∧ some txHash = some (F.hashOf tx)) ↔
      Supports F s (.executed (some txHash) now) := by
  cases s with
  | confirmed tx hash =>
    obtain ⟨rfl, hlands⟩ := hs
    refine iff_of_true ⟨tx, ?_, hreturned.symm⟩ trivial
    exact List.filter_eq_self.2 (List.forall_mem_singleton.2 hlands)
  | pending tx hash polls =>
    obtain rfl : hash = F.hashOf tx := hs
    constructor
    · rintro ⟨tx', hfilter, -⟩
      have hmem : tx' ∈ [tx].filter F.lands := hfilter ▸ List.mem_singleton_self tx'
      obtain ⟨hmem, hlands⟩ := List.mem_filter.1 hmem
      rwa [List.mem_singleton.1 hmem] at hlands
    · intro hlands
      refine ⟨tx, List.filter_eq_self.2 (List.forall_mem_singleton.2 hlands), ?_⟩
      change (if polls = pollAttempts then some (F.hashOf tx) else none) = _ at hreturned
      split_ifs at hreturned
      exact hreturned.symm
  | _ => cases hreturned

/-! ### What a call knows -/

/-- What is known of the transaction in a stage. -/
def Stage.submission : Stage → Submission
  | executing _ _ s | unrecorded _ s | executed _ s | failed s => s
  | begun | deciding | decided _ | ended => .unsent

theorem submission_found {c : Command}
    {o : Except Failure (Option (TopUpRequest × Indexer.AgentRow))} :
    (c.found o).submission = .unsent := by
  rcases c with _ | _ <;> rcases o with e | _ | ⟨request, agent⟩
  all_goals first
    | rfl
    | exact apply_ite Stage.submission _ _ _ |>.trans (ite_self _)

/-- What the calls of a stage have told. -/
structure Informed (F : Fate) (made : List (Exchange ServiceCall ServiceAnswer Failure))
    (s : Submission) : Prop where
  progress : progress made = s
  sent : transactionsIn made = s.sent
  known : s.Known F

theorem Informed.query {made : List (Exchange ServiceCall ServiceAnswer Failure)}
    {s : Submission} {q : Query} {o : Except Failure (QueryAnswer q)} (h : Informed F made s) :
    Informed F (made ++ [⟨.inl q, o⟩]) s := by
  refine ⟨?_, ?_, h.known⟩
  · rw [Liquidity.progress, List.foldl_append]
    exact h.progress
  · rw [transactionsIn, List.flatMap_append]
    exact (List.append_nil _).trans h.sent

theorem Informed.rpc {made : List (Exchange ServiceCall ServiceAnswer Failure)}
    {s s' : Submission} {q : RpcCall} {o : Except Failure (RpcAnswer q)} (h : Informed F made s)
    (hnext : s.next q o = some s') (ho : F.Agrees q o) :
    Informed F (made ++ [⟨.inr q, o⟩]) s' := by
  refine ⟨?_, ?_, h.known.next hnext ho⟩
  · rw [Liquidity.progress, List.foldl_append]
    show advance (Liquidity.progress made) ⟨.inr q, o⟩ = s'
    rw [h.progress]
    show (s.next q o).getD s = s'
    rw [hnext]
    rfl
  · rw [transactionsIn, List.flatMap_append, Submission.sent_next hnext, ← h.sent]
    show _ ++ (q.sent ++ []) = _
    rw [List.append_nil]
    rfl

/-- The network reports what becomes of transactions; the database is not asked. -/
def Reports (F : Fate) : (q : ServiceCall) → Except Failure (ServiceAnswer q) → Prop
  | .inl _, _ => True
  | .inr q, o => F.Agrees q o

theorem reports_of_answers (hF : F.Reported net) (w : Records × N) (q : ServiceCall)
    (o : Except Failure (ServiceAnswer q)) (w' : Records × N)
    (h : (environment net).answers w q o w') : Reports F q o := by
  cases q with
  | inl q => trivial
  | inr q => exact hF _ _ _ _ (rpc_answers h).2

theorem informed_of_after {c : Command}
    {made : List (Exchange ServiceCall ServiceAnswer Failure)} {φ : Stage}
    (h : staging.after c made = some φ) (hmade : ∀ x ∈ made, Reports F x.question x.outcome) :
    Informed F made φ.submission := by
  refine staging.after_induction (I := fun made φ =>
    (∀ x ∈ made, Reports F x.question x.outcome) → Informed F made φ.submission)
    (fun _ => ⟨rfl, rfl, trivial⟩) ?_ h hmade
  intro made φ q o ψ ih hnext hmade
  obtain ⟨hmade, ho⟩ := List.forall_mem_append.1 hmade
  have hbefore := ih hmade
  cases stageCall_of_next hnext with
  | @find o =>
    have hfound : (c.found o).submission = .unsent := submission_found
    exact hfound ▸ hbefore.query
  | rpc hmove => exact hbefore.rpc hmove (ho _ (List.mem_singleton_self _))
  | decided | undecided | executed | unrecorded | failed | failedToRecord => exact hbefore.query

/-! ### Writes -/

/-- What a stage writes to the request. -/
theorem writtenBy_cases {c : Command} {φ ψ : Stage} {q : ServiceCall}
    {o : Except Failure (ServiceAnswer q)} {data : TopUpData} (h : StageCall c φ q o ψ)
    (hq : writtenBy q = some (id, data)) : c.requestId = id ∧
    ((∃ approved approvedBy note now, data = .decided approved approvedBy note now) ∨
    φ.engagement ≠ none ∧ ((∃ txHash now, data = .executed (some txHash) now ∧
      φ.submission.returned = some txHash) ∨ ∃ reason, data = .failed reason)) := by
  cases h with
  | find | rpc => cases hq
  | decided hdecision | undecided hdecision =>
    obtain ⟨rfl, rfl⟩ := Prod.mk.inj (Option.some.inj hq)
    cases c with
    | decideTopUp =>
      obtain rfl := Option.some.inj hdecision
      exact ⟨rfl, .inl ⟨_, _, _, _, rfl⟩⟩
    | executeTopUp => cases hdecision
  | executed hreturned | unrecorded hreturned =>
    obtain ⟨rfl, rfl⟩ := Prod.mk.inj (Option.some.inj hq)
    refine ⟨rfl, .inr ⟨?_, .inl ⟨_, _, rfl, hreturned⟩⟩⟩
    rw [engagement_executing]
    nofun
  | failed =>
    obtain ⟨rfl, rfl⟩ := Prod.mk.inj (Option.some.inj hq)
    refine ⟨rfl, .inr ⟨?_, .inr ⟨_, rfl⟩⟩⟩
    rw [engagement_executing]
    nofun
  | failedToRecord =>
    obtain ⟨rfl, rfl⟩ := Prod.mk.inj (Option.some.inj hq)
    exact ⟨rfl, .inr ⟨nofun, .inr ⟨_, rfl⟩⟩⟩

section Writes

variable {s₀ s s' : ServiceState N} {ls : List ServiceLabel} {pid : ℕ}
  {t : Thread ServiceCall ServiceAnswer Failure Outcome Command} {c : Command} {q : ServiceCall}
  {o : Except Failure (ServiceAnswer q)} {data : TopUpData}

/-- What is written, compared with what becomes of the transactions `sent`, if they are those of the
execution that writes. -/
theorem agrees_iff_supports {sent : List Transaction} (hF : F.Reported net) (h₀ : s₀.Idle)
    (h : (service sdk env net).Run s₀ ls s) (ht : s.running pid = some t)
    (hst : (service sdk env net).step s (.call pid c q o) s')
    (hq : writtenBy q = some (id, data)) (hw : Records.Writes id data s.world.1 s'.world.1)
    (hsent : ∀ φ, staging.after t.command t.made = some φ → t.command.requestId = id →
      φ.engagement ≠ none → sent = transactionsIn t.made) :
    (∀ request, requestIn id s' = some request → request.Agrees F sent) ↔
      Supports F (progress t.made) data := by
  obtain ⟨φ, hφ, hfollows⟩ := disciplined_of_run follows_program h₀ h pid t ht
  have hinformed := informed_of_after hφ
    (made_of_run (reports_of_answers hF) h₀ h pid t ht)
  -- There is one row to read after the write.
  obtain ⟨old, -, hnew⟩ := hw.lookup_self
  have hreads : (∀ request, requestIn id s' = some request → request.Agrees F sent) ↔
      (data.apply old).Agrees F sent :=
    ⟨fun h => h _ hnew, fun h request hrequest =>
      Option.some.inj (hnew.symm.trans hrequest) ▸ h⟩
  rw [hreads, hinformed.progress]
  cases hst with
  | call hrunning hanswers =>
    obtain rfl := Option.some.inj (ht.symm.trans hrunning)
    obtain ⟨ψ, hnext, -⟩ := hfollows o
    obtain ⟨hid, ⟨approved, approvedBy, note, now, rfl⟩ | ⟨hengaged, hdata⟩⟩ :=
      writtenBy_cases (stageCall_of_next hnext) hq
    -- A decision says nothing about a transaction.
    · refine iff_of_true ⟨?_, ?_⟩ trivial <;> cases approved <;> nofun
    · rw [hsent φ hφ hid hengaged, hinformed.sent]
      rcases hdata with ⟨txHash, now, rfl, hreturned⟩ | ⟨reason, rfl⟩
      · rw [← exists_sent_iff hinformed.known hreturned]
        exact ⟨fun h => h.executed rfl, fun h => ⟨nofun, fun _ => h⟩⟩
      · rw [← forall_sent_iff hinformed.known]
        exact ⟨fun h => h.failed rfl, fun h => ⟨fun _ => h, nofun⟩⟩

/-- **Outcomes.**  What an execution writes agrees with what becomes of its transaction exactly if
it is supported by what the execution knows of it. -/
theorem outcome_agrees (hF : F.Reported net) (h₀ : s₀.Idle)
    (h : (service sdk env net).Run s₀ ls s) (ht : s.running pid = some t)
    (hst : (service sdk env net).step s (.call pid c q o) s')
    (hq : writtenBy q = some (id, data)) (hw : Records.Writes id data s.world.1 s'.world.1) :
    (∀ request, requestIn id s' = some request → request.Agrees F (transactionsIn t.made)) ↔
      Supports F (progress t.made) data :=
  agrees_iff_supports hF h₀ h ht hst hq hw fun _ _ _ _ => rfl

/-! ### One execution at a time -/

/-- An execution that has submitted has submitted one transaction. -/
theorem sent_of_engaged {made : List (Exchange ServiceCall ServiceAnswer Failure)} {φ : Stage}
    (h : staging.after c made = some φ) (hengaged : φ.engagement = some true) :
    ∃ tx, φ.submission.sent = [tx] := by
  have hsent : φ.submission ≠ .unsent := by
    refine staging.after_induction (I := fun _ φ => φ.engagement = some true →
      φ.submission ≠ .unsent) (fun h => nomatch h) ?_ h hengaged
    intro made φ q o ψ _ hnext hψ
    cases stageCall_of_next hnext with
    | find => cases (found_engagement hψ).1
    | @rpc _ _ _ s' =>
      rintro (rfl : s' = .unsent)
      cases hψ
    | unrecorded hreturned => exact Submission.ne_unsent_of_returned hreturned
    | decided | undecided | executed | failed | failedToRecord => cases hψ
  cases hs : φ.submission with
  | unsent => exact absurd hs hsent
  | _ => exact ⟨_, rfl⟩

theorem unsent_of_engaged {φ : Stage} (h : φ.engagement = some false) :
    φ.submission.sent = [] := by
  cases φ with
  | executing request agent s =>
    cases s with
    | unsent => rfl
    | _ => cases h
  | _ => cases h

/-- What an execution has submitted is among what has been submitted for the request. -/
theorem mem_submissions (h₀ : s₀.Idle) (h : (service sdk env net).Run s₀ ls s)
    (ht : s.running pid = some t) (hid : t.command.requestId = id) {tx : Transaction}
    (htx : tx ∈ transactionsIn t.made) : tx ∈ submissions id ls := by
  obtain ⟨⟨q, o⟩, hx, htx⟩ := List.mem_flatMap.1 htx
  have hcalled := called_of_run h₀ h pid t ht _ hx
  refine List.mem_filterMap.2 ⟨_, hcalled, ?_⟩
  rcases q with q | q
  · cases htx
  · cases q with
    | sendTransaction tx' =>
      obtain rfl := List.mem_singleton.1 htx
      exact if_pos hid
    | _ => cases htx

/-- **Requests.**  While executions are kept apart, what is written to a request agrees with what
becomes of everything that has been submitted for it exactly if it is supported by what the
execution knows. -/
theorem request_agrees_iff (hF : F.Reported net) (h₀ : s₀.Idle)
    (h : ((service sdk env net).restrict fun s _ s' => Careful id s s').Run s₀ ls s)
    (ht : s.running pid = some t) (hst : (service sdk env net).step s (.call pid c q o) s')
    (hq : writtenBy q = some (id, data)) (hw : Records.Writes id data s.world.1 s'.world.1) :
    (∀ request, requestIn id s' = some request → request.Agrees F (submissions id ls)) ↔
      Supports F (progress t.made) data := by
  have hrun : (service sdk env net).Run s₀ ls s := h.of_restrict
  have hsound := sound_of_run h₀ id h
  refine agrees_iff_supports hF h₀ hrun ht hst hq hw fun φ hφ hid hφengaged => ?_
  have hinformed := informed_of_after hφ (made_of_run (reports_of_answers hF) h₀ hrun pid t ht)
  have hengaged : (desk id (s.staged staging)).engaged pid = φ.engagement := by
    rw [engaged_of_stage (stage_of_running ht hφ), ← hid]
    exact engagementIn_self
  -- An execution that holds the request has submitted nothing for it, or all that was submitted.
  cases hb : φ.engagement with
  | none => exact absurd hb hφengaged
  | some b =>
    rw [hb] at hengaged
    cases b with
    | false =>
      rw [hinformed.sent, unsent_of_engaged hb]
      exact List.eq_nil_of_length_eq_zero (hsound.unsent pid hengaged)
    | true =>
      obtain ⟨tx, htx⟩ := sent_of_engaged hφ hb
      rw [← hinformed.sent] at htx
      have hmem : tx ∈ submissions id ls :=
        mem_submissions h₀ hrun ht hid (htx ▸ List.mem_singleton_self tx)
      obtain ⟨tx', htx'⟩ := List.length_eq_one_iff.1
        (Nat.le_antisymm hsound.once (List.length_pos_of_mem hmem))
      rw [htx'] at hmem
      rw [htx, htx', List.mem_singleton.1 hmem]

end Writes

/-! ### A poll that fails -/

namespace Sample

/-- Every transaction takes effect. -/
def fate : Fate := ⟨fun tx => toString tx.sequence, fun _ => true⟩

/-- The network includes every transaction, but does not answer when it is polled. -/
def cutOff (n : Network) : (q : RpcCall) → Except Failure (RpcAnswer q) × Network
  | .getTransaction _ => (.error (.error "socket hang up"), n)
  | q => respond n q

def answerCutOff : Records × Network → (q : ServiceCall) →
    Except Failure (ServiceAnswer q) × (Records × Network) :=
  answerSum (obey Query.perform (.error "refused")) cutOff

theorem answerCutOff_answers (w : Records × Network) (q : ServiceCall) :
    (environment (.ofAnswer cutOff)).answers w q (answerCutOff w q).1 (answerCutOff w q).2 :=
  answerSum_answers obey_answers (fun _ _ => rfl) w q

theorem fate_reported : fate.Reported (.ofAnswer respond) := by
  intro w q o w' h
  obtain ⟨rfl, -⟩ := Prod.mk.inj h
  cases q with
  | getAccount | simulateTransaction => trivial
  | sendTransaction tx => rfl
  | getTransaction hash =>
    show fate.Agrees _ (.ok (if hash ∈ w.landed then _ else _))
    split_ifs
    · rfl
    · trivial

theorem fate_reported_cutOff : fate.Reported (.ofAnswer cutOff) := by
  intro w q o w' h
  cases q with
  | getTransaction =>
    obtain ⟨rfl, -⟩ := Prod.mk.inj h
    trivial
  | getAccount | simulateTransaction | sendTransaction => exact fate_reported w _ o w' h

/-- An execution, until it has polled for its transaction. -/
def polled : List (Turn Command) := [.start 1 execute, .call 1, .call 1, .call 1, .call 1, .call 1]

/-- The state after a script, if the network does not answer when it is polled. -/
def playedCutOff (ts : List (Turn Command)) : ServiceState Network :=
  play (program library deployment) answerCutOff (opened approved) ts

end Sample

/-- The request reads `FAILED`, and the draw takes effect. -/
theorem not_outcome_agrees_sample : Sample.fate.Reported (.ofAnswer Sample.cutOff) ∧
    (Sample.opened Sample.approved).Idle ∧
    (service Sample.library Sample.deployment (.ofAnswer Sample.cutOff)).Run
      (Sample.opened Sample.approved)
      (trace (program Sample.library Sample.deployment) Sample.answerCutOff
        (Sample.opened Sample.approved) (Sample.polled ++ [.call 1, .finish 1]))
      (Sample.playedCutOff (Sample.polled ++ [.call 1, .finish 1])) ∧
    ∃ t request, (Sample.playedCutOff Sample.polled).running 1 = some t ∧
      requestIn "request" (Sample.playedCutOff (Sample.polled ++ [.call 1, .finish 1])) =
        some request ∧
      ¬ request.Agrees Sample.fate (transactionsIn t.made) := by
  refine ⟨Sample.fate_reported_cutOff, Sample.opened_idle _,
    play_run Sample.answerCutOff_answers _, _, _, rfl, rfl, fun h => ?_⟩
  exact absurd (h.failed rfl _ (List.mem_singleton_self _)) (by decide)

/-- The draw is confirmed and recorded. -/
theorem outcome_agrees_sample :
    ∃ t, (Sample.played Sample.approved Sample.polled).running 1 = some t ∧
    Supports Sample.fate (progress t.made) (.executed (some "1") 1) ∧
    ((∀ request, requestIn "request" (Sample.played Sample.approved (Sample.polled ++ [.call 1])) =
      some request → request.Agrees Sample.fate (transactionsIn t.made)) ↔
      Supports Sample.fate (progress t.made) (.executed (some "1") 1)) := by
  obtain ⟨made, rest, hrunning⟩ : ∃ made rest,
      (Sample.played Sample.approved Sample.polled).running 1 = some ⟨Sample.execute, made,
        .call (.inl (.transaction (completion "request" Sample.approved (some "1") 1))) rest⟩ :=
    ⟨_, _, rfl⟩
  have hst : (service Sample.library Sample.deployment (.ofAnswer Sample.respond)).step _ _ _ :=
    step_of_running Sample.answer_answers hrunning
  exact ⟨_, rfl, trivial, outcome_agrees Sample.fate_reported (Sample.opened_idle _)
    (Sample.played_run Sample.approved Sample.polled) rfl hst rfl ⟨Sample.approved, rfl, rfl⟩⟩

end Liquidity

end RemitBridge
