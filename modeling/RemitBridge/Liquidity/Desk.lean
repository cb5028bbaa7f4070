import RemitBridge.Liquidity.Service

/-!
# One request, as the calls that run side by side see it

The service is a number of calls over the database and the network.  `Desk` is what of its state
concerns one request: its row, and which executions are under way.  `desk_of_step` says what a step
of the service does to it: every step of the service is a step of the desk, of which there are
eight kinds.
-/

namespace RemitBridge

namespace Liquidity

open Backend Process

open Indexer (AgentRow)

variable {N : Type}

/-- The database and the network. -/
def environment (net : Environment N RpcCall RpcAnswer Failure) :
    Environment (Records × N) ServiceCall ServiceAnswer Failure :=
  database.sum net

abbrev ServiceState (N : Type) :=
  State (Records × N) ServiceCall ServiceAnswer Failure Outcome Command

abbrev ServiceLabel := Label ServiceCall ServiceAnswer Failure Outcome Command

abbrev StagedService (N : Type) := Staged (Records × N) Command Stage

/-- The behaviour of the service. -/
def service (sdk : Sdk) (env : Settings) (net : Environment N RpcCall RpcAnswer Failure) :
    TransitionSystem (ServiceState N) ServiceLabel :=
  lts (environment net) (program sdk env)

/-- The transaction that a step submits for a request. -/
def submissionOf (id : String) : ServiceLabel → Option Transaction
  | .call _ c (.inr (.sendTransaction tx)) _ => if c.requestId = id then some tx else none
  | _ => none

/-- The transactions submitted for a request. -/
def submissions (id : String) (ls : List ServiceLabel) : List Transaction :=
  ls.filterMap (submissionOf id)

/-! ### Calls -/

/-- The calls of the service, and the stages they lead to. -/
inductive StageCall (c : Command) :
    Stage → (q : ServiceCall) → Except Failure (ServiceAnswer q) → Stage → Prop
  | find {o : Except Failure (ServiceAnswer (.inl (.findTopUp c.requestId)))} :
      StageCall c .begun (.inl (.findTopUp c.requestId)) o (c.found o)
  | decided {data : TopUpData} {request : TopUpRequest} : c.decision = some data →
      StageCall c .deciding (.inl (.updateTopUp c.requestId data)) (.ok request) (.decided request)
  | undecided {data : TopUpData} {e : Failure} : c.decision = some data →
      StageCall c .deciding (.inl (.updateTopUp c.requestId data)) (.error e) .ended
  | rpc {request : TopUpRequest} {agent : AgentRow} {s s' : Submission} {q : RpcCall}
      {o : Except Failure (RpcAnswer q)} : s.next q o = some s' →
      StageCall c (.executing request agent s) (.inr q) o (.executing request agent s')
  | executed {request : TopUpRequest} {agent : AgentRow} {s : Submission} {txHash : String}
      {now : ℕ} : s.returned = some txHash →
      StageCall c (.executing request agent s)
        (.inl (.transaction (completion c.requestId request (some txHash) now))) (.ok ())
        (.executed txHash s)
  | unrecorded {request : TopUpRequest} {agent : AgentRow} {s : Submission} {txHash : String}
      {now : ℕ} {e : Failure} : s.returned = some txHash →
      StageCall c (.executing request agent s)
        (.inl (.transaction (completion c.requestId request (some txHash) now))) (.error e)
        (.unrecorded request s)
  | failed {request : TopUpRequest} {agent : AgentRow} {s : Submission} {reason : String}
      {o : Except Failure (ServiceAnswer (.inl (.updateTopUp c.requestId (.failed reason))))} :
      s.givesUp = true → StageCall c (.executing request agent s)
        (.inl (.updateTopUp c.requestId (.failed reason))) o (.failed s)
  | failedToRecord {request : TopUpRequest} {s : Submission} {reason : String}
      {o : Except Failure (ServiceAnswer (.inl (.updateTopUp c.requestId (.failed reason))))} :
      StageCall c (.unrecorded request s) (.inl (.updateTopUp c.requestId (.failed reason))) o
        (.failed s)

theorem stageCall_of_next {c : Command} {φ ψ : Stage} {q : ServiceCall}
    {o : Except Failure (ServiceAnswer q)} (h : Stage.next c φ q o = some ψ) :
    StageCall c φ q o ψ := by
  cases φ with
  | begun =>
    rcases q with (id | _ | _) | _
    · obtain ⟨rfl, rfl⟩ : id = c.requestId ∧ c.found o = ψ := by
        simpa [Stage.next] using h
      exact .find
    all_goals cases h
  | deciding =>
    rcases q with (_ | ⟨id, data⟩ | _) | _
    · cases h
    · change (if id = c.requestId ∧ c.decision = some data then _ else _) = _ at h
      split_ifs at h with hc
      obtain ⟨rfl, hdata⟩ := hc
      cases o with
      | ok request =>
        cases h
        exact .decided hdata
      | error e =>
        cases h
        exact .undecided hdata
    all_goals cases h
  | executing request agent s =>
    rcases q with (_ | ⟨id, data⟩ | statements) | q
    · cases h
    -- An execution that gives up writes a failure.
    · change (if id = c.requestId ∧ data.isFailure = true ∧ s.givesUp = true then _ else _) = _ at h
      split_ifs at h with hc
      obtain ⟨rfl, hdata, hs⟩ := hc
      cases h
      cases data with
      | failed reason => exact .failed hs
      | decided | executed => cases hdata
    · rw [Stage.next] at h
      -- The completion is written only with the hash that has been returned.
      cases hreturned : s.returned with
      | none =>
        rw [hreturned] at h
        cases h
      | some txHash =>
        rw [hreturned] at h
        change (if c.statements request txHash = some statements then _ else _) = _ at h
        split_ifs at h with hc
        cases c with
        | decideTopUp => cases hc
        | executeTopUp requestId now =>
          obtain rfl := Option.some.inj hc
          cases o with
          | ok u =>
            cases h
            exact .executed hreturned
          | error e =>
            cases h
            exact .unrecorded hreturned
    · obtain ⟨s', hnext, rfl⟩ := Option.map_eq_some_iff.1 h
      exact .rpc hnext
  | unrecorded request s =>
    rcases q with (_ | ⟨id, data⟩ | _) | _
    · cases h
    · change (if id = c.requestId ∧ data.isFailure = true then _ else _) = _ at h
      split_ifs at h with hc
      obtain ⟨rfl, hdata⟩ := hc
      cases h
      cases data with
      | failed reason => exact .failedToRecord
      | decided | executed => cases hdata
    all_goals cases h
  | decided | executed | failed | ended =>
    rcases q with (_ | _ | _) | _ <;> cases h

/-! ### What calls do to requests -/

section Answers

variable {net : Environment N RpcCall RpcAnswer Failure} {w w' : Records × N} {id : String}

theorem find_answers {o : Except Failure (ServiceAnswer (.inl (.findTopUp id)))}
    (h : (environment net).answers w (.inl (.findTopUp id)) o w') : w'.1 = w.1 ∧
      ∀ answer, o = .ok answer → w.1.topUps.lookup id = answer.map Prod.fst := by
  obtain ⟨h, -⟩ := h
  rcases o with e | answer
  · have hsame : w'.1 = w.1 := by
      rcases h with h | ⟨answer, h⟩
      · exact h
      · exact (findTopUp_ok (r := w.1) h).1
    exact ⟨hsame, fun answer heq => by cases heq⟩
  · have hfound : Query.perform (.findTopUp id) w.1 = some (answer, w'.1) := h
    refine ⟨(findTopUp_ok hfound).1, fun answer' heq => ?_⟩
    rw [← Except.ok.inj heq]
    exact (findTopUp_ok hfound).2

theorem update_answers {data : TopUpData}
    {o : Except Failure (ServiceAnswer (.inl (.updateTopUp id data)))}
    (h : (environment net).answers w (.inl (.updateTopUp id data)) o w') :
    Records.Writes id data w.1 w'.1 ∨ (∃ e, o = .error e) ∧ w'.1 = w.1 := by
  obtain ⟨h, -⟩ := h
  rcases o with e | request
  · rcases h with h | ⟨request, h⟩
    · exact .inr ⟨⟨e, rfl⟩, h⟩
    · exact .inl (updateTopUp_writes h).1
  · exact .inl (updateTopUp_writes h).1

/-- The transaction after a draw, if it is carried out, carries out its three statements. -/
theorem completion_statements {r r' : Records} {request : TopUpRequest} {txHash : Option String}
    {now : ℕ} {u : Unit}
    (h : Query.perform (.transaction (completion id request txHash now)) r = some (u, r')) :
    ∃ row r₁ r₂, r.updateTopUp id (.executed txHash now) = some (row, r₁) ∧
      r₁.incrementExposure request.agentId request.regionId request.amountRequested = some r₂ ∧
      r' = r₂.resolveAlerts request.agentId request.regionId now := by
  obtain ⟨r₃, hstatements, heq⟩ := Option.map_eq_some_iff.1 h
  obtain ⟨-, rfl⟩ := Prod.mk.inj heq
  simp only [completion, List.foldlM_cons, List.foldlM_nil, Option.bind_eq_bind,
    Option.bind_eq_some_iff] at hstatements
  obtain ⟨r₁, h₁, r₂, h₂, r₄, h₃, hend⟩ := hstatements
  obtain rfl := Option.some.inj hend
  obtain rfl := Option.some.inj h₃
  obtain ⟨⟨row, _⟩, hupdate, rfl⟩ := Option.map_eq_some_iff.1 h₁
  exact ⟨row, _, r₂, hupdate, h₂, rfl⟩

/-- It records the hash. -/
theorem perform_completion {r r' : Records} {request : TopUpRequest} {txHash : Option String}
    {now : ℕ} {u : Unit}
    (h : Query.perform (.transaction (completion id request txHash now)) r = some (u, r')) :
    Records.Writes id (.executed txHash now) r r' := by
  obtain ⟨old, r₁, r₂, hupdate, hincrement, rfl⟩ := completion_statements h
  obtain ⟨row, hrow, htopUps⟩ := (updateTopUp_writes hupdate).1
  exact ⟨row, hrow, (incrementExposure_topUps hincrement).trans htopUps⟩

theorem completion_answers {request : TopUpRequest} {txHash : Option String} {now : ℕ}
    {o : Except Failure
      (ServiceAnswer (.inl (.transaction (completion id request txHash now))))}
    (h : (environment net).answers w
      (.inl (.transaction (completion id request txHash now))) o w') :
    Records.Writes id (.executed txHash now) w.1 w'.1 ∨ (∃ e, o = .error e) ∧ w'.1 = w.1 := by
  obtain ⟨h, -⟩ := h
  rcases o with e | u
  · rcases h with h | ⟨u, h⟩
    · exact .inr ⟨⟨e, rfl⟩, h⟩
    · exact .inl (perform_completion h)
  · exact .inl (perform_completion h)

theorem rpc_answers {q : RpcCall} {o : Except Failure (ServiceAnswer (.inr q))}
    (h : (environment net).answers w (.inr q) o w') :
    w'.1 = w.1 ∧ net.answers w.2 q o w'.2 := ⟨h.2, h.1⟩

end Answers

/-! ### The desk -/

/-- What concerns one request: its row, and the executions of it that are under way.  They have
found it approved, and have not yet recorded what came of it. -/
structure Desk where
  request : Option TopUpRequest
  /-- Whether a transaction has been submitted. -/
  engaged : ℕ → Option Bool

/-- A call that is in this stage is under way. -/
def Stage.engagement : Stage → Option Bool
  | executing _ _ .unsent => some false
  | executing .. | unrecorded .. => some true
  | begun | deciding | decided _ | executed .. | failed _ | ended => none

def engagementIn (id : String) (t : Command × Stage) : Option Bool :=
  if t.1.requestId = id then t.2.engagement else none

def desk (id : String) (s : StagedService N) : Desk :=
  ⟨s.world.1.topUps.lookup id, fun pid => (s.stage pid).bind (engagementIn id)⟩

/-- What can happen to a request.  A step that submits a transaction is labelled with it. -/
inductive Desk.Step : Desk → Option Transaction → Desk → Prop
  | idle {d : Desk} : Step d none d
  | proposed {d : Desk} {request : TopUpRequest} : d.request = none → request.Proposed →
      Step d none { d with request := some request }
  | decided {d : Desk} {request : TopUpRequest} {approved : Bool} {approvedBy : String}
      {note : Option String} {now : ℕ} : d.request = some request → Step d none
        { d with request := some ((TopUpData.decided approved approvedBy note now).apply request) }
  | begun {d : Desk} {request : TopUpRequest} {pid : ℕ} : d.request = some request →
      request.status = .approved → d.engaged pid = none →
      Step d none { d with engaged := Function.update d.engaged pid (some false) }
  | submitted {d : Desk} {pid : ℕ} {tx : Transaction} : d.engaged pid = some false →
      Step d (some tx) { d with engaged := Function.update d.engaged pid (some true) }
  | executed {d : Desk} {request : TopUpRequest} {pid : ℕ} {txHash : Option String} {now : ℕ}
      {b : Option Bool} : d.engaged pid = some true → d.request = some request →
      b ≠ some false → Step d none ⟨some ((TopUpData.executed txHash now).apply request),
        Function.update d.engaged pid b⟩
  | failed {d : Desk} {request : TopUpRequest} {pid : ℕ} {reason : String} {b : Bool} :
      d.engaged pid = some b → d.request = some request →
      Step d none ⟨some ((TopUpData.failed reason).apply request),
        Function.update d.engaged pid none⟩
  /-- The execution was stopped, or ended without recording what came of it. -/
  | dropped {d : Desk} {pid : ℕ} {b : Bool} : d.engaged pid = some b →
      Step d none { d with engaged := Function.update d.engaged pid none }

section Desk

variable {net : Environment N RpcCall RpcAnswer Failure} {id : String} {s s' : StagedService N}

theorem engaged_of_stage {pid : ℕ} {t : Option (Command × Stage)} (h : s.stage pid = t) :
    (desk id s).engaged pid = t.bind (engagementIn id) := by
  rw [← h]
  rfl

theorem desk_update {w : Records × N} {pid : ℕ} {t : Option (Command × Stage)} :
    desk id (⟨w, Function.update s.stage pid t⟩ : StagedService N) =
      ⟨w.1.topUps.lookup id,
        Function.update (desk id s).engaged pid (t.bind (engagementIn id))⟩ := by
  rw [desk, Desk.mk.injEq]
  refine ⟨rfl, ?_⟩
  funext pid'
  show (Function.update s.stage pid t pid').bind (engagementIn id) = _
  by_cases heq : pid' = pid
  · rw [heq, Function.update_self, Function.update_self]
  · rw [Function.update_of_ne heq, Function.update_of_ne heq]
    rfl

/-- A step that changes neither the row nor what is under way. -/
theorem Desk.Step.of_same {w : Records × N} {pid : ℕ} {t t' : Option (Command × Stage)}
    (ht : s.stage pid = t) (hw : w.1.topUps.lookup id = s.world.1.topUps.lookup id)
    (hsame : t'.bind (engagementIn id) = t.bind (engagementIn id)) :
    Desk.Step (desk id s) none
      (desk id (⟨w, Function.update s.stage pid t'⟩ : StagedService N)) := by
  rw [desk_update, hsame, ← engaged_of_stage ht, Function.update_eq_self, hw]
  exact .idle

/-- A call that ends, or is stopped. -/
theorem Desk.Step.of_ended {pid : ℕ} {t : Command × Stage} (ht : s.stage pid = some t) :
    Desk.Step (desk id s) none
      (desk id (⟨s.world, Function.update s.stage pid none⟩ : StagedService N)) := by
  cases hb : engagementIn id t with
  | none => exact .of_same ht rfl hb.symm
  | some b =>
    rw [desk_update]
    exact .dropped ((engaged_of_stage ht).trans hb)

/-- Only submitting a transaction changes whether one has been submitted. -/
theorem Submission.next_cases {s s' : Submission} {q : RpcCall} {o : Except Failure (RpcAnswer q)}
    (h : s.next q o = some s') :
    (∃ tx, q = .sendTransaction tx ∧ s = .unsent ∧ s' ≠ .unsent) ∨
      (∀ tx, q ≠ .sendTransaction tx) ∧ (s' = .unsent ↔ s = .unsent) := by
  cases Submission.move_of_next h with
  | account | simulated => exact .inr ⟨nofun, Iff.rfl⟩
  | @refused tx | @accepted tx | @unknown tx => exact .inl ⟨tx, rfl, rfl, nofun⟩
  | confirmed | failed | notFound | lost => exact .inr ⟨nofun, iff_of_false nofun nofun⟩

theorem engagement_executing {request : TopUpRequest} {agent : AgentRow} {s : Submission} :
    (Stage.executing request agent s).engagement =
      some (match s with | .unsent => false | _ => true) := by
  cases s <;> rfl

theorem engagement_executing_of_ne {request : TopUpRequest} {agent : AgentRow} {s : Submission}
    (h : s ≠ .unsent) : (Stage.executing request agent s).engagement = some true := by
  cases s with
  | unsent => exact absurd rfl h
  | _ => rfl

theorem Submission.ne_unsent_of_returned {s : Submission} {hash : String}
    (h : s.returned = some hash) : s ≠ .unsent := by
  rintro rfl
  cases h

/-- A call about another request. -/
theorem Desk.Step.of_other {c : Command} {φ ψ : Stage} {q : ServiceCall}
    {o : Except Failure (ServiceAnswer q)} {pid : ℕ} {w : Records × N} (hc : c.requestId ≠ id)
    (hstage : s.stage pid = some (c, φ)) (hcall : StageCall c φ q o ψ)
    (hanswers : (environment net).answers s.world q o w) : Desk.Step (desk id s) none
      (desk id (⟨w, Function.update s.stage pid (some (c, ψ))⟩ : StagedService N)) := by
  have hsame : (some (c, ψ)).bind (engagementIn id) = (some (c, φ)).bind (engagementIn id) := by
    rw [Option.bind_some, Option.bind_some, engagementIn, engagementIn, if_neg hc, if_neg hc]
  refine .of_same hstage ?_ hsame
  have hwrites : ∀ data, Records.Writes c.requestId data s.world.1 w.1 →
      w.1.topUps.lookup id = s.world.1.topUps.lookup id :=
    fun data hdata => hdata.lookup_ne (Ne.symm hc)
  cases hcall with
  | find => rw [(find_answers hanswers).1]
  | rpc => rw [(rpc_answers hanswers).1]
  | decided | undecided | failed | failedToRecord =>
    rcases update_answers hanswers with h | ⟨-, h⟩
    · exact hwrites _ h
    · rw [h]
  | executed | unrecorded =>
    rcases completion_answers hanswers with h | ⟨-, h⟩
    · exact hwrites _ h
    · rw [h]

theorem engagementIn_self {c : Command} {φ : Stage} :
    (some (c, φ)).bind (engagementIn c.requestId) = φ.engagement := if_pos rfl

/-- Of the calls that look the request up, those that find it approved are under way. -/
theorem found_engagement {c : Command} {o : Except Failure (Option (TopUpRequest × AgentRow))}
    {b : Bool} (h : (c.found o).engagement = some b) : b = false ∧
      ∃ request agent, o = .ok (some (request, agent)) ∧ request.status = .approved := by
  rcases o with e | _ | ⟨request, agent⟩
  · cases c <;> cases h
  · cases c <;> cases h
  · cases c with
    | decideTopUp =>
      change (if request.status = .pending then Stage.deciding else .ended).engagement = _ at h
      split_ifs at h <;> cases h
    | executeTopUp =>
      change (if request.status = .approved then Stage.executing request agent .unsent
        else .ended).engagement = _ at h
      split_ifs at h with happroved
      · exact ⟨(Option.some.inj h).symm, request, agent, rfl, happroved⟩
      · cases h

/-- A call about the request. -/
theorem Desk.Step.of_call {c : Command} {φ ψ : Stage} {q : ServiceCall}
    {o : Except Failure (ServiceAnswer q)} {pid : ℕ} {w : Records × N}
    (hstage : s.stage pid = some (c, φ)) (hcall : StageCall c φ q o ψ)
    (hanswers : (environment net).answers s.world q o w) :
    Desk.Step (desk c.requestId s) (submissionOf c.requestId (.call pid c q o))
      (desk c.requestId (⟨w, Function.update s.stage pid (some (c, ψ))⟩ : StagedService N)) := by
  have hengaged : (desk c.requestId s).engaged pid = φ.engagement :=
    (engaged_of_stage hstage).trans engagementIn_self
  -- A call that leaves the request and the engagement of the process.
  have hsame : w.1 = s.world.1 → ψ.engagement = φ.engagement →
      Desk.Step (desk c.requestId s) none
        (desk c.requestId (⟨w, Function.update s.stage pid (some (c, ψ))⟩ : StagedService N)) := by
    intro hw hψ
    refine .of_same hstage (by rw [hw]) ?_
    rw [engagementIn_self, engagementIn_self, hψ]
  cases hcall with
  | @find o =>
    obtain ⟨hw, hfound⟩ := find_answers hanswers
    cases hψ : (c.found o).engagement with
    | none => exact hsame hw hψ
    | some b =>
      obtain ⟨rfl, request, agent, rfl, happroved⟩ := found_engagement hψ
      rw [desk_update, engagementIn_self, hψ, hw]
      exact .begun (hfound _ rfl) happroved hengaged
  | @decided data request hdecision =>
    rcases update_answers hanswers with h | ⟨⟨e, he⟩, -⟩
    · obtain ⟨old, hold, hnew⟩ := h.lookup_self
      rw [desk_update, engagementIn_self, hnew, show (Stage.decided request).engagement =
        (desk c.requestId s).engaged pid from hengaged.symm, Function.update_eq_self]
      cases c with
      | decideTopUp =>
        obtain rfl := Option.some.inj hdecision
        exact .decided hold
      | executeTopUp => cases hdecision
    · cases he
  | @undecided data e hdecision =>
    rcases update_answers hanswers with h | ⟨-, hw⟩
    · obtain ⟨old, hold, hnew⟩ := h.lookup_self
      rw [desk_update, engagementIn_self, hnew, show Stage.ended.engagement =
        (desk c.requestId s).engaged pid from hengaged.symm, Function.update_eq_self]
      cases c with
      | decideTopUp =>
        obtain rfl := Option.some.inj hdecision
        exact .decided hold
      | executeTopUp => cases hdecision
    · exact hsame hw rfl
  | @rpc request agent sub sub' q o hnext =>
    obtain ⟨hw, -⟩ := rpc_answers hanswers
    rcases Submission.next_cases hnext with ⟨tx, rfl, rfl, hsent⟩ | ⟨hother, hunsent⟩
    · rw [desk_update, engagementIn_self, engagement_executing_of_ne hsent, hw]
      rw [show submissionOf c.requestId (.call pid c (.inr (.sendTransaction tx)) o) = some tx from
        if_pos rfl]
      exact .submitted hengaged
    · have hnone : submissionOf c.requestId (.call pid c (.inr q) o) = none := by
        cases q with
        | sendTransaction tx => exact absurd rfl (hother tx)
        | _ => rfl
      rw [hnone]
      refine hsame hw ?_
      by_cases hs : sub = .unsent
      · rw [hs, hunsent.2 hs]
      · rw [engagement_executing_of_ne hs, engagement_executing_of_ne fun h => hs (hunsent.1 h)]
  | @executed request agent sub txHash now hreturned =>
    rcases completion_answers hanswers with h | ⟨⟨e, he⟩, -⟩
    · obtain ⟨old, hold, hnew⟩ := h.lookup_self
      rw [desk_update, engagementIn_self, hnew]
      rw [engagement_executing_of_ne (Submission.ne_unsent_of_returned hreturned)] at hengaged
      exact .executed hengaged hold nofun
    · cases he
  | @unrecorded request agent sub txHash now e hreturned =>
    rw [engagement_executing_of_ne (Submission.ne_unsent_of_returned hreturned)] at hengaged
    rcases completion_answers hanswers with h | ⟨-, hw⟩
    · obtain ⟨old, hold, hnew⟩ := h.lookup_self
      rw [desk_update, engagementIn_self, hnew]
      exact .executed hengaged hold nofun
    · exact hsame hw (engagement_executing_of_ne
        (Submission.ne_unsent_of_returned hreturned)).symm
  | @failed request agent sub reason o hgivesUp =>
    rw [engagement_executing] at hengaged
    rw [desk_update, engagementIn_self]
    rcases update_answers hanswers with h | ⟨-, hw⟩
    · obtain ⟨old, hold, hnew⟩ := h.lookup_self
      rw [hnew]
      exact .failed hengaged hold
    · rw [hw]
      exact .dropped hengaged
  | @failedToRecord request sub reason o =>
    rw [desk_update, engagementIn_self]
    rcases update_answers hanswers with h | ⟨-, hw⟩
    · obtain ⟨old, hold, hnew⟩ := h.lookup_self
      rw [hnew]
      exact .failed hengaged hold
    · rw [hw]
      exact .dropped hengaged

/-- **What a step of the service does to a request.** -/
theorem desk_of_step {l : ServiceLabel} (hst : (staged (environment net) staging).step s l s') :
    Desk.Step (desk id s) (submissionOf id l) (desk id s') := by
  cases hst with
  | @start pid c hnone =>
    refine .of_same hnone rfl ?_
    show engagementIn id (c, .begun) = none
    rw [engagementIn]
    split_ifs <;> rfl
  | @call pid c φ ψ q o w hstage hnext hanswers =>
    have hcall := stageCall_of_next hnext
    by_cases hc : c.requestId = id
    · subst hc
      exact .of_call hstage hcall hanswers
    · have hnone : submissionOf id (.call pid c q o) = none := by
        cases q with
        | inl q => rfl
        | inr q =>
          cases q with
          | sendTransaction tx => exact if_neg hc
          | _ => rfl
      rw [hnone]
      exact .of_other hc hstage hcall hanswers
  | finish hstage => exact .of_ended hstage
  | stop hstage => exact .of_ended hstage
  | @evolve w hevolves =>
    rcases hevolves with ⟨hcontinues, -⟩ | ⟨-, hsame⟩
    · rcases hcontinues id with h | ⟨hnone, request, hrequest, hproposed⟩
      · rw [show desk id { s with world := w } = desk id s from
          Desk.mk.injEq .. |>.mpr ⟨h, rfl⟩]
        exact .idle
      · rw [show desk id { s with world := w } = { desk id s with request := some request } from
          Desk.mk.injEq .. |>.mpr ⟨hrequest, rfl⟩]
        exact .proposed hnone hproposed
    · rw [show desk id { s with world := w } = desk id s from
        Desk.mk.injEq .. |>.mpr ⟨congrArg (fun r => r.topUps.lookup id) hsame, rfl⟩]
      exact .idle

end Desk

end Liquidity

end RemitBridge
