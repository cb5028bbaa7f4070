import RemitBridge.Backend.Fate
import RemitBridge.Kyc.Service
import RemitBridge.Liquidity.Submissions

/-!
# Active attestations are published

The row of a passed check is written as `ACTIVE` before its attestation is published, and an event
of the provider makes any row `ACTIVE`.  So a row can be active without an attestation: because the
tier was not enough, because the publication failed, or because the check was only passed later.  If
none of this happens, every active row has been published at the tier that was required
(`active_published`).
-/

namespace RemitBridge

namespace Kyc

open Backend Process TransitionSystem

open Indexer (UserRow)

variable {N V : Type} {lib : Library} {env : KycSettings}
  {provider : Environment V ProviderCall ProviderAnswer Failure}
  {net : Environment N RpcCall RpcAnswer Failure} {A : Archive N}

/-- The tables, the provider and the network. -/
abbrev World (V N : Type) := (Records × V) × N

abbrev ServiceState (V N : Type) :=
  State (World V N) ServiceCall ServiceAnswer Failure Outcome Command

abbrev StagedState (V N : Type) := Staged (World V N) Command Stage

def environment (provider : Environment V ProviderCall ProviderAnswer Failure)
    (net : Environment N RpcCall RpcAnswer Failure) :
    Environment (World V N) ServiceCall ServiceAnswer Failure :=
  (database.sum provider).sum net

/-- Any number of calls run side by side. -/
def service (lib : Library) (env : KycSettings)
    (provider : Environment V ProviderCall ProviderAnswer Failure)
    (net : Environment N RpcCall RpcAnswer Failure) :
    TransitionSystem (ServiceState V N) ServiceLabel :=
  lts (environment provider net) (program lib env)

/-! ### What was required -/

/-- The tier that each call has asked the provider for, and the tier that was asked for when a row
was created. -/
structure Docket where
  asked : ℕ → Option VerificationTier
  required : String → Option VerificationTier

def Docket.note (d : Docket) : ServiceLabel → Docket
  | .call pid _ (.inl (.inr (.submit _ request))) (.ok _) =>
    { d with asked := Function.update d.asked pid (some request.requiredTier) }
  | .call pid _ (.inl (.inl (.createAttestation row))) (.ok _) =>
    { d with required := Function.update d.required row.id (d.asked pid) }
  | _ => d

def docket (ls : List ServiceLabel) : Docket := ls.foldl Docket.note ⟨fun _ => none, fun _ => none⟩

/-- An attestation with the hash and the tier of the row has been published, and the tier satisfies
what was required. -/
def KycAttestation.Published (lib : Library) (env : KycSettings) (A : Archive N) (w : N)
    (required : VerificationTier) (row : KycAttestation) : Prop :=
  ∃ (tier : ProviderTier) (input : PublishAttestationInput) (tx : Transaction),
    row.tier = toPrismaTier tier ∧ tierSatisfies tier required = true ∧
    input.tier = toContractTier tier ∧ hex input.attestationHash = row.attestationHash ∧
    input.Publishes lib.toSdk env.toSettings tx ∧ A.applied w tx

/-- The data makes a row active. -/
def AttestationData.activates : AttestationData → Bool
  | screened .active _ => true
  | screened .pending _ | screened .expired _ | screened .revoked _ => false
  | published _ | revoked .. | expired => false

/-- What keeps active rows published. -/
structure Diligent (A : Archive N) (s : StagedState V N) (l : ServiceLabel)
    (s' : StagedState V N) : Prop where
  /-- A creation that fails has written nothing. -/
  written : ∀ pid c row e, l = .call pid c (.inl (.inl (.createAttestation row))) (.error e) →
    row.status = .active → s'.world.1.1 = s.world.1.1
  /-- A call that has written the row of a passed check ends with its publication in effect, at a
  tier that is enough. -/
  published : ∀ pid c subject required result sub,
    s.stage pid = some (c, .created subject required result sub) → s'.stage pid = none →
    tierSatisfies result.tier required = true ∧ sub.Effective A s.world.2
  /-- An event of the provider approves no row without a hash. -/
  approved : ∀ pid c id data o, l = .call pid c (.inl (.inl (.update id data))) o →
    data.activates = true → ∀ row ∈ s.world.1.1.attestations, row.id = id → row.carriesHash = true

/-! ### Calls -/

/-- The user that a submission is about, once it is known. -/
def Stage.subject : Stage → Option UserRow
  | identified subject | screened subject _ _ | created subject _ _ _ => some subject
  | begun | matched .. | revoking _ | ended => none

/-- Neither between the answer of the provider and the row, nor after a row that was approved. -/
def Stage.quiet : Stage → Bool
  | screened .. | created .. => false
  | begun | identified _ | matched .. | revoking _ | ended => true

theorem Stage.quiet_of_revoking {φ : Stage} {s : Submission} (h : φ = ofSubmission s) :
    φ.quiet = true := by
  rw [h]
  cases s <;> rfl

theorem Stage.subject_of_revoking {φ : Stage} {s : Submission} (h : φ = ofSubmission s) :
    φ.subject = none := by
  rw [h]
  cases s <;> rfl

/-- The calls of the stages. -/
inductive StageCall (lib : Library) (env : KycSettings) (c : Command) :
    Stage → (q : ServiceCall) → Except Failure (ServiceAnswer q) → Stage → Prop
  | looked {q : Query} {o : Except Failure (QueryAnswer q)} {ψ : Stage} : q.data = none →
      q.creates = false → ψ.quiet = true → ψ.subject = none →
      StageCall lib env c .begun (.inl (.inl q)) o ψ
  | identified {id : String} {subject : UserRow} :
      c.input.map SubmitVerificationInput.userId = some id →
      StageCall lib env c .begun (.inl (.inl (.findUser id))) (.ok (some subject))
        (.identified subject)
  | screened {subject : UserRow} {name : String} {request : VerificationRequest}
      {result : VerificationResult} :
      c.input.map (fun input => input.request request.requiredTier) = some request →
      StageCall lib env c (.identified subject) (.inl (.inr (.submit name request))) (.ok result)
        (.screened subject request.requiredTier result)
  | unscreened {subject : UserRow} {name : String} {request : VerificationRequest} {e : Failure} :
      StageCall lib env c (.identified subject) (.inl (.inr (.submit name request)))
      (.error e) .ended
  | created {subject : UserRow} {required : VerificationTier} {result : VerificationResult}
      {row record : KycAttestation} : c.attestation lib env result = some row →
      result.outcome = .approved → StageCall lib env c (.screened subject required result)
        (.inl (.inl (.createAttestation row))) (.ok record)
        (.created subject required result .unsent)
  | recorded {subject : UserRow} {required : VerificationTier} {result : VerificationResult}
      {row record : KycAttestation} : c.attestation lib env result = some row →
      result.outcome ≠ .approved → StageCall lib env c (.screened subject required result)
        (.inl (.inl (.createAttestation row))) (.ok record) .ended
  | unrecorded {subject : UserRow} {required : VerificationTier} {result : VerificationResult}
      {row : KycAttestation} {e : Failure} : c.attestation lib env result = some row →
      StageCall lib env c (.screened subject required result)
        (.inl (.inl (.createAttestation row))) (.error e) .ended
  | submitted {subject : UserRow} {required : VerificationTier} {result : VerificationResult}
      {s s' : Submission} {q : RpcCall} {o : Except Failure (RpcAnswer q)} :
      (∀ tx ∈ q.sent, c.Publishes lib env subject result tx) → s.next q o = some s' →
      StageCall lib env c (.created subject required result s) (.inr q) o
        (.created subject required result s')
  | noted {subject : UserRow} {required : VerificationTier} {result : VerificationResult}
      {s : Submission} {id : String} {hash : Option String}
      {o : Except Failure (QueryAnswer (.update id (.published hash)))} :
      StageCall lib env c (.created subject required result s)
        (.inl (.inl (.update id (.published hash)))) o (.created subject required result s)
  | decided {id : String} {event : WebhookEvent}
      {o : Except Failure (QueryAnswer (.update id (event.data c.now)))} :
      StageCall lib env c (.matched id event) (.inl (.inl (.update id (event.data c.now)))) o .ended
  | began {s' : Submission} {ψ : Stage} {q : RpcCall} {o : Except Failure (RpcAnswer q)} :
      c.input = none → Submission.unsent.next q o = some s' → ψ = .ofSubmission s' →
      StageCall lib env c .begun (.inr q) o ψ
  | revoking {s s' : Submission} {ψ : Stage} {q : RpcCall} {o : Except Failure (RpcAnswer q)} :
      c.input = none → s.next q o = some s' → ψ = .ofSubmission s' →
      StageCall lib env c (.revoking s) (.inr q) o ψ
  | revoked {s : Submission} {selection : Selection} {now : ℕ} {reason : String}
      {hash : Option String}
      {o : Except Failure (QueryAnswer (.updateMany selection (.revoked now reason hash)))} :
      StageCall lib env c (.revoking s)
        (.inl (.inl (.updateMany selection (.revoked now reason hash)))) o .ended
  | expired {selection : Selection}
      {o : Except Failure (QueryAnswer (.updateMany selection .expired))} :
      StageCall lib env c .begun (.inl (.inl (.updateMany selection .expired))) o .ended

theorem stageCall_of_next {c : Command} {φ ψ : Stage} {q : ServiceCall}
    {o : Except Failure (ServiceAnswer q)} (h : Stage.next lib env c φ q o = some ψ) :
    StageCall lib env c φ q o ψ := by
  cases φ with
  | begun =>
    rcases q with (((id | id | row | ref | ⟨id, data⟩ | ⟨selection, data⟩) | _) | q)
    · cases h
      exact .looked rfl rfl rfl rfl
    · change (if c.input.map SubmitVerificationInput.userId = some id then _ else none) =
        some ψ at h
      split_ifs at h with hid
      cases h
      rcases o with e | _ | subject
      · exact .looked rfl rfl rfl rfl
      · exact .looked rfl rfl rfl rfl
      · exact .identified hid
    · cases h
    -- A webhook looks its row up; the answers all lead on as they are read.
    · rw [Stage.next] at h
      split at h
      · next event hevent =>
        split_ifs at h
        cases h
        refine .looked rfl rfl ?_ ?_ <;> rcases o with e | _ | row <;> rfl
      · cases h
    · cases h
    · cases data with
      | expired =>
        cases h
        exact .expired
      | _ => cases h
    · cases h
    · change (if c.input = none then _ else none) = some ψ at h
      split_ifs at h with hinput
      obtain ⟨s', hnext, rfl⟩ := Option.map_eq_some_iff.1 h
      exact .began hinput hnext rfl
  | identified subject =>
    rcases q with ((_ | ⟨name, request⟩) | q)
    · cases h
    · change (if c.input.map (fun input => input.request request.requiredTier) = some request then _
        else none) = some ψ at h
      split_ifs at h with hrequest
      rcases o with e | result
      · cases h
        exact .unscreened
      · cases h
        exact .screened hrequest
    · cases h
  | screened subject required result =>
    rcases q with (((id | id | row | ref | ⟨id, data⟩ | ⟨selection, data⟩) | _) | q)
    all_goals first
      | cases h
      | skip
    -- The only query left is the creation of the row.
    change (if c.attestation lib env result = some row then _ else none) = some ψ at h
    split_ifs at h with hrow happroved
    · rcases o with e | record
      · cases h
        exact .unrecorded hrow
      · cases h
        exact .created hrow happroved
    · rcases o with e | record
      · cases h
        exact .unrecorded hrow
      · cases h
        exact .recorded hrow happroved
  | created subject required result s =>
    rcases q with (((id | id | row | ref | ⟨id, data⟩ | ⟨selection, data⟩) | _) | q)
    · cases h
    · cases h
    · cases h
    · cases h
    · cases data with
      | published hash =>
        change (if s.returned = hash then _ else none) = some ψ at h
        split_ifs at h
        cases h
        exact .noted
      | _ => cases h
    · cases h
    · cases h
    · change (if tierSatisfies result.tier required = true ∧ _ then _ else none) = some ψ at h
      split_ifs at h with hq
      obtain ⟨s', hnext, rfl⟩ := Option.map_eq_some_iff.1 h
      exact .submitted hq.2 hnext
  | matched id event =>
    rcases q with (((_ | _ | _ | _ | ⟨id', data⟩ | _) | _) | q)
    all_goals first
      | cases h
      | skip
    -- The webhook writes what the event says to the row that it has found.
    change (if id' = id ∧ data = event.data c.now then _ else none) = some ψ at h
    split_ifs at h with hdata
    obtain ⟨rfl, rfl⟩ := hdata
    cases h
    exact .decided
  | revoking s =>
    rcases q with (((_ | _ | _ | _ | _ | ⟨selection, data⟩) | _) | q)
    all_goals first
      | cases h
      | skip
    · cases data with
      | revoked now reason hash =>
        change (if s.returned = hash then _ else none) = some ψ at h
        split_ifs at h
        cases h
        exact .revoked
      | _ => cases h
    · change (if c.input = none then _ else none) = some ψ at h
      split_ifs at h with hinput
      obtain ⟨s', hnext, rfl⟩ := Option.map_eq_some_iff.1 h
      exact .revoking hinput hnext rfl
  | ended => rcases q with (((_ | _ | _ | _ | _ | _) | _) | q) <;> cases h

/-! ### What is known of the rows -/

/-- The call that has written the row is still under way. -/
def KycAttestation.Underway (lib : Library) (env : KycSettings) (s : StagedState V N)
    (required : VerificationTier) (row : KycAttestation) : Prop :=
  ∃ pid c subject result sub, ∃ new : KycAttestation,
    s.stage pid = some (c, .created subject required result sub) ∧
    c.attestation lib env result = some new ∧ result.outcome = .approved ∧ row.tier = new.tier ∧
    row.attestationHash = new.attestationHash

/-- A row without a hash is not active; the attestation of any other has been published, or is about
to be. -/
def KycAttestation.Accounted (lib : Library) (env : KycSettings) (A : Archive N) (d : Docket)
    (s : StagedState V N) (row : KycAttestation) : Prop :=
  row.status ≠ .active ∧ row.carriesHash = false ∨ ∃ required, d.required row.id = some required ∧
    (row.Published lib env A s.world.2 required ∨ row.Underway lib env s required)

structure Sound (lib : Library) (env : KycSettings) (A : Archive N) (d : Docket)
    (s : StagedState V N) : Prop where
  rows : ∀ row ∈ s.world.1.1.attestations, row.Accounted lib env A d s
  asked : ∀ pid c subject required result,
    s.stage pid = some (c, .screened subject required result) → d.asked pid = some required
  backed : ∀ pid c subject required result sub,
    s.stage pid = some (c, .created subject required result sub) →
    sub.Backed A s.world.2 (c.Publishes lib env subject result)

variable {d d' : Docket} {s s' : StagedState V N} {w : World V N} {row : KycAttestation}
  {required : VerificationTier}

theorem AttestationData.status_apply {data : AttestationData} (h : data.activates = false)
    (hrow : row.status ≠ .active) : (data.apply row).status ≠ .active := by
  rcases data with _ | ⟨_ | _ | _ | _, _ | _⟩ | _ | _
  all_goals first
    | exact hrow
    | exact absurd (show true = false from h) (by decide)
    | exact nofun

theorem KycAttestation.Accounted.apply {data : AttestationData}
    (h : row.Accounted lib env A d s) (hdata : data.activates = true → row.carriesHash = true) :
    (data.apply row).Accounted lib env A d s := by
  rcases h with ⟨hstatus, hhash⟩ | ⟨required, hid, h⟩
  · refine .inl ⟨AttestationData.status_apply ?_ hstatus, ?_⟩
    · by_contra hactivates
      rw [hdata (Bool.eq_true_of_not_eq_false hactivates)] at hhash
      cases hhash
    · rwa [KycAttestation.carriesHash, AttestationData.apply_attestationHash]
  · refine .inr ⟨required, by rwa [AttestationData.apply_id], ?_⟩
    simpa only [KycAttestation.Published, KycAttestation.Underway, AttestationData.apply_tier,
      AttestationData.apply_attestationHash] using h

theorem KycAttestation.Published.mono {w w' : N} (h : row.Published lib env A w required)
    (hw : ∀ tx, A.applied w tx → A.applied w' tx) : row.Published lib env A w' required := by
  obtain ⟨tier, input, tx, htier, hrequired, hinput, hhash, hpublishes, happlied⟩ := h
  exact ⟨tier, input, tx, htier, hrequired, hinput, hhash, hpublishes, hw tx happlied⟩

theorem KycAttestation.Accounted.mono (h : row.Accounted lib env A d s)
    (hrequired : d'.required row.id = d.required row.id)
    (hw : ∀ tx, A.applied s.world.2 tx → A.applied s'.world.2 tx)
    (hunderway : ∀ required, row.Underway lib env s required →
      row.Published lib env A s'.world.2 required ∨ row.Underway lib env s' required) :
    row.Accounted lib env A d' s' := by
  rw [KycAttestation.Accounted, hrequired]
  rcases h with h | ⟨required, hid, hpublished | h⟩
  · exact .inl h
  · exact .inr ⟨required, hid, .inl (hpublished.mono hw)⟩
  · exact .inr ⟨required, hid, hunderway required h⟩

/-- A call after which a row that was under way still is. -/
theorem KycAttestation.Underway.call {pid : ℕ} {c : Command} {φ ψ : Stage} {q : ServiceCall}
    {o : Except Failure (ServiceAnswer q)} (h : row.Underway lib env s required)
    (hstage : s.stage pid = some (c, φ)) (hcall : StageCall lib env c φ q o ψ) :
    row.Underway lib env ⟨w, Function.update s.stage pid (some (c, ψ))⟩ required := by
  obtain ⟨pid', c', subject, result, sub, new, hpid', hnew⟩ := h
  by_cases heq : pid' = pid
  · subst heq
    obtain ⟨rfl, rfl⟩ := Prod.mk.inj (Option.some.inj (hstage.symm.trans hpid'))
    cases hcall with
    | submitted | noted => exact ⟨pid', c, subject, result, _, new, Function.update_self .., hnew⟩
  · exact ⟨pid', c', subject, result, sub, new, (Function.update_of_ne heq _ _).trans hpid', hnew⟩

/-- The end of the call that has written the row. -/
theorem KycAttestation.Underway.close {pid : ℕ} (hs : Sound lib env A d s)
    (h : row.Underway lib env s required)
    (hpublished : ∀ c subject required result sub,
      s.stage pid = some (c, .created subject required result sub) →
      tierSatisfies result.tier required = true ∧ sub.Effective A s.world.2) :
    row.Published lib env A s.world.2 required ∨
      row.Underway lib env { s with stage := Function.update s.stage pid none } required := by
  obtain ⟨pid', c, subject, result, sub, new, hpid', hattestation, happroved, htier, hhash⟩ := h
  by_cases heq : pid' = pid
  · subst heq
    obtain ⟨hrequired, heffective⟩ := hpublished _ _ _ _ _ hpid'
    obtain ⟨tx, ⟨input, hinput, hpublishes⟩, happlied⟩ :=
      (hs.backed _ _ _ _ _ _ hpid').applied heffective
    cases c with
    | submitVerification =>
      obtain rfl := Option.some.inj hattestation
      obtain ⟨attester, -, rfl⟩ := Option.map_eq_some_iff.1 hinput
      refine .inl ⟨result.tier, _, tx, htier, hrequired, rfl, ?_, hpublishes, happlied⟩
      rw [hhash]
      exact (if_pos happroved).symm
    | _ => cases hattestation
  · exact .inr ⟨pid', c, subject, result, sub, new, (Function.update_of_ne heq _ _).trans hpid',
      hattestation, happroved, htier, hhash⟩

/-! ### One call -/

section Call

variable {pid : ℕ} {c : Command} {φ ψ : Stage} {q : ServiceCall}
  {o : Except Failure (ServiceAnswer q)}

theorem applied_of_answers (hA : A.Faithful net) {w w' : World V N}
    (h : (environment provider net).answers w q o w') (tx : Transaction)
    (htx : A.applied w.2 tx) : A.applied w'.2 tx := by
  cases q with
  | inl q =>
    have hnet : w'.2 = w.2 := h.2
    rwa [hnet]
  | inr q => exact hA.answers _ _ _ _ tx h.1 htx

theorem asked_note {pid' : ℕ} (h : pid' ≠ pid) :
    (d.note (.call pid c q o)).asked pid' = d.asked pid' := by
  rcases q with (((_ | _ | _ | _ | _ | _) | _) | _) <;> rcases o with _ | _
  all_goals first
    | rfl
    | exact Function.update_of_ne h _ _

/-- What is known of the stages. -/
theorem Sound.stages (h : Sound lib env A d s) (hA : A.Faithful net)
    (hstage : s.stage pid = some (c, φ)) (hcall : StageCall lib env c φ q o ψ)
    (hanswers : (environment provider net).answers s.world q o w)
    (hrows : ∀ row ∈ w.1.1.attestations, row.Accounted lib env A (d.note (.call pid c q o))
      ⟨w, Function.update s.stage pid (some (c, ψ))⟩) :
    Sound lib env A (d.note (.call pid c q o)) ⟨w, Function.update s.stage pid (some (c, ψ))⟩ := by
  refine ⟨hrows, fun pid' c' subject required result hpid' => ?_,
    fun pid' c' subject required result sub hpid' => ?_⟩
  · rcases update_cases hpid' with ⟨heq, hnew⟩ | ⟨heq, hold⟩
    · obtain ⟨rfl, rfl⟩ := Prod.mk.inj (Option.some.inj hnew)
      cases hcall with
      | looked _ _ hquiet => cases hquiet
      | screened => exact heq ▸ Function.update_self ..
      | began _ _ hrevoking | revoking _ _ hrevoking => cases Stage.quiet_of_revoking hrevoking
    · rw [asked_note heq]
      exact h.asked _ _ _ _ _ hold
  · rcases update_cases hpid' with ⟨heq, hnew⟩ | ⟨heq, hold⟩
    · obtain ⟨rfl, rfl⟩ := Prod.mk.inj (Option.some.inj hnew)
      cases hcall with
      | looked _ _ hquiet => cases hquiet
      | created => trivial
      | submitted hq hnext => exact (h.backed _ _ _ _ _ _ hstage).next hA hnext hq hanswers.1
      | noted => exact (h.backed _ _ _ _ _ _ hstage).mono (applied_of_answers hA hanswers)
      | began _ _ hrevoking | revoking _ _ hrevoking => cases Stage.quiet_of_revoking hrevoking
    · exact (h.backed _ _ _ _ _ _ hold).mono (applied_of_answers hA hanswers)

/-- The rows after a call that only reads, or changes the rows there are. -/
theorem Sound.rows_of_query {q : Query} {o : Except Failure (QueryAnswer q)}
    (h : Sound lib env A d s) (hA : A.Faithful net) (hstage : s.stage pid = some (c, φ))
    (hcall : StageCall lib env c φ (.inl (.inl q)) o ψ) (hq : q.creates = false)
    (hanswers : (environment provider net).answers s.world (.inl (.inl q)) o w)
    (hactivates : ∀ data, q.data = some data → data.activates = true →
      ∀ row ∈ s.world.1.1.attestations, q.concerns s.world.1.1 row = true → row.carriesHash = true)
    (hd : d'.required = d.required) : ∀ row ∈ w.1.1.attestations,
      row.Accounted lib env A d' ⟨w, Function.update s.stage pid (some (c, ψ))⟩ := by
  intro row hrow
  refine .mono (d := d) (s := s) ?_ (congrFun hd _) (applied_of_answers hA hanswers)
    fun required hunderway => .inr (hunderway.call hstage hcall)
  obtain ⟨old, hold, rfl | ⟨data, hdata, rfl, hconcerns⟩⟩ :=
    revised_of_answers hq hanswers.1.1 row hrow
  · exact h.rows row hold
  · exact (h.rows old hold).apply fun hactive => hactivates data hdata hactive old hold hconcerns

/-- The rows after a call to the provider or the network. -/
theorem Sound.rows_of_same (h : Sound lib env A d s) (hA : A.Faithful net)
    (hstage : s.stage pid = some (c, φ)) (hcall : StageCall lib env c φ q o ψ)
    (hanswers : (environment provider net).answers s.world q o w)
    (hrows : w.1.1 = s.world.1.1) (hd : d'.required = d.required) :
    ∀ row ∈ w.1.1.attestations,
      row.Accounted lib env A d' ⟨w, Function.update s.stage pid (some (c, ψ))⟩ := by
  intro row hrow
  rw [hrows] at hrow
  exact (h.rows row hrow).mono (congrFun hd _) (applied_of_answers hA hanswers)
    fun required hunderway => .inr (hunderway.call hstage hcall)

theorem attestation_unapproved {result : VerificationResult} {new : KycAttestation}
    (h : c.attestation lib env result = some new) (hresult : result.outcome ≠ .approved) :
    new.status ≠ .active ∧ new.carriesHash = false := by
  cases c with
  | submitVerification =>
    obtain rfl := Option.some.inj h
    constructor
    · show result.outcome.status ≠ .active
      cases houtcome : result.outcome
      · exact absurd houtcome hresult
      all_goals exact nofun
    · show (if result.outcome = .approved then _ else _ : String).toList.all isHexDigit = false
      rw [if_neg hresult]
      exact not_all_rejected _
  | _ => cases h

theorem attestation_approved {result : VerificationResult} {new : KycAttestation}
    (h : c.attestation lib env result = some new) (hresult : result.outcome = .approved) :
    new.status = .active := by
  cases c with
  | submitVerification =>
    obtain rfl := Option.some.inj h
    show result.outcome.status = .active
    rw [hresult]
    rfl
  | _ => cases h

/-- The rows after one was created. -/
theorem Sound.rows_of_create {new record : KycAttestation} (h : Sound lib env A d s)
    (hA : A.Faithful net) (hstage : s.stage pid = some (c, φ)) (hcall : StageCall lib env c φ q o ψ)
    (hanswers : (environment provider net).answers s.world q o w)
    (hcreate : Query.perform (.createAttestation new) s.world.1.1 = some (record, w.1.1))
    (hd : ∀ id ≠ new.id, d'.required id = d.required id)
    (hnew : new.Accounted lib env A d' ⟨w, Function.update s.stage pid (some (c, ψ))⟩) :
    ∀ row ∈ w.1.1.attestations,
      row.Accounted lib env A d' ⟨w, Function.update s.stage pid (some (c, ψ))⟩ := by
  obtain ⟨hrows, hfresh⟩ := created_of_perform hcreate
  intro row hrow
  rw [hrows] at hrow
  rcases List.mem_append.1 hrow with hold | hrow
  · exact (h.rows row hold).mono (hd _ (hfresh row hold)) (applied_of_answers hA hanswers)
      fun required hunderway => .inr (hunderway.call hstage hcall)
  · exact List.mem_singleton.1 hrow ▸ hnew

/-- **One call.** -/
theorem Sound.call (h : Sound lib env A d s) (hA : A.Faithful net)
    (hstage : s.stage pid = some (c, φ)) (hcall : StageCall lib env c φ q o ψ)
    (hanswers : (environment provider net).answers s.world q o w)
    (hdiligent : Diligent A s (.call pid c q o) ⟨w, Function.update s.stage pid (some (c, ψ))⟩) :
    Sound lib env A (d.note (.call pid c q o)) ⟨w, Function.update s.stage pid (some (c, ψ))⟩ := by
  refine h.stages hA hstage hcall hanswers ?_
  have hcall' := hcall
  cases hcall' with
  | @looked q o ψ hdata hq =>
    refine h.rows_of_query hA hstage hcall hq hanswers (fun data hsome => ?_) ?_
    · rw [hdata] at hsome
      cases hsome
    · cases q with
      | createAttestation row => cases hq
      | _ => rfl
  | identified =>
    refine h.rows_of_query hA hstage hcall rfl hanswers (fun data hdata => ?_) rfl
    cases hdata
  | screened | unscreened =>
    exact h.rows_of_same hA hstage hcall hanswers hanswers.1.2 rfl
  | submitted | began | revoking =>
    exact h.rows_of_same hA hstage hcall hanswers (congrArg Prod.fst hanswers.2) rfl
  | @created subject required result new record hattestation happroved =>
    refine h.rows_of_create hA hstage hcall hanswers hanswers.1.1
      (fun id hid => Function.update_of_ne hid _ _)
      (.inr ⟨required, ?_, .inr ⟨pid, c, subject, result,
        _, new, Function.update_self .., hattestation, happroved, rfl, rfl⟩⟩)
    exact (Function.update_self ..).trans (h.asked _ _ _ _ _ hstage)
  | @recorded subject required result new record hattestation hresult =>
    exact h.rows_of_create hA hstage hcall hanswers hanswers.1.1
      (fun id hid => Function.update_of_ne hid _ _)
      (.inl (attestation_unapproved hattestation hresult))
  | @unrecorded subject required result new e hattestation =>
    -- A creation that fails may have been made; a diligent one of an approval has not.
    by_cases hresult : result.outcome = .approved
    · refine h.rows_of_same hA hstage hcall hanswers ?_ rfl
      exact hdiligent.written _ _ _ _ rfl (attestation_approved hattestation hresult)
    · rcases hanswers.1.1 with hsame | ⟨record, hcreate⟩
      · exact h.rows_of_same hA hstage hcall hanswers hsame rfl
      · exact h.rows_of_create hA hstage hcall hanswers hcreate (fun _ _ => rfl)
          (.inl (attestation_unapproved hattestation hresult))
  | noted =>
    refine h.rows_of_query hA hstage hcall rfl hanswers (fun data hdata hactive => ?_) rfl
    cases hdata
    cases hactive
  | @decided id event o =>
    -- A diligent event approves only what has been published.
    refine h.rows_of_query hA hstage hcall rfl hanswers (fun data hdata hactive => ?_) rfl
    cases hdata
    exact fun row hrow hconcerns =>
      hdiligent.approved _ _ _ _ _ rfl hactive row hrow (of_decide_eq_true hconcerns)
  | revoked | expired =>
    refine h.rows_of_query hA hstage hcall rfl hanswers (fun data hdata hactive => ?_) rfl
    cases hdata
    cases hactive

end Call

/-! ### Runs -/

theorem Sound.finish {pid : ℕ} {l : ServiceLabel} (h : Sound lib env A d s)
    (hdiligent : Diligent A s l { s with stage := Function.update s.stage pid none }) :
    Sound lib env A d { s with stage := Function.update s.stage pid none } := by
  have hstage : ∀ pid' φ, Function.update s.stage pid none pid' = some φ →
      s.stage pid' = some φ := by
    intro pid' φ hφ
    rcases update_cases hφ with ⟨-, hnew⟩ | ⟨-, hold⟩
    · cases hnew
    · exact hold
  refine ⟨fun row hrow => ?_, fun pid' c subject required result hpid' =>
    h.asked _ _ _ _ _ (hstage pid' _ hpid'), fun pid' c subject required result sub hpid' =>
    h.backed _ _ _ _ _ _ (hstage pid' _ hpid')⟩
  exact (h.rows row hrow).mono rfl (fun _ htx => htx) fun required hunderway =>
    hunderway.close h fun c subject required result sub hpid =>
      hdiligent.published pid c subject required result sub hpid (Function.update_self ..)

theorem Sound.start {pid : ℕ} {c : Command} (h : Sound lib env A d s) (hnone : s.stage pid = none) :
    Sound lib env A d { s with stage := Function.update s.stage pid (some (c, .begun)) } := by
  have hstage : ∀ pid' c' φ, φ.quiet = false →
      Function.update s.stage pid (some (c, .begun)) pid' = some (c', φ) →
      s.stage pid' = some (c', φ) := by
    intro pid' c' φ hφ hpid'
    rcases update_cases hpid' with ⟨-, hnew⟩ | ⟨-, hold⟩
    · cases hnew
      cases hφ
    · exact hold
  refine ⟨fun row hrow => ?_, fun pid' c' subject required result hpid' =>
    h.asked _ _ _ _ _ (hstage pid' c' _ rfl hpid'), fun pid' c' subject required result sub hpid' =>
    h.backed _ _ _ _ _ _ (hstage pid' c' _ rfl hpid')⟩
  refine (h.rows row hrow).mono rfl (fun _ htx => htx) ?_
  rintro required ⟨pid', c', subject, result, sub, new, hpid', hnew⟩
  refine .inr ⟨pid', c', subject, result, sub, new, ?_, hnew⟩
  have hne : pid' ≠ pid := by
    rintro rfl
    rw [hnone] at hpid'
    cases hpid'
  exact (Function.update_of_ne hne _ _).trans hpid'

theorem Sound.evolve (h : Sound lib env A d s) (hA : A.Faithful net)
    (hevolves : (environment provider net).evolves s.world w) :
    Sound lib env A d { s with world := w } := by
  have hw : ∀ tx, A.applied s.world.2 tx → A.applied w.2 tx := by
    intro tx htx
    rcases hevolves with ⟨-, hnet⟩ | ⟨hnet, -⟩
    · rwa [hnet]
    · exact hA.evolves _ _ tx hnet htx
  have hrows : ∀ row ∈ w.1.1.attestations, row ∈ s.world.1.1.attestations := by
    intro row hrow
    rcases hevolves with ⟨⟨hcontinues, -⟩ | ⟨-, hsame⟩, -⟩ | ⟨-, hsame⟩
    · exact hcontinues.subset hrow
    · rwa [hsame] at hrow
    · rwa [hsame] at hrow
  exact ⟨fun row hrow => (h.rows row (hrows row hrow)).mono rfl hw fun required h => .inr h,
    h.asked,
    fun pid c subject required result sub hpid => (h.backed _ _ _ _ _ _ hpid).mono hw⟩

theorem Sound.step {l : ServiceLabel} (h : Sound lib env A d s) (hA : A.Faithful net)
    (hst : (staged (environment provider net) (staging lib env)).step s l s')
    (hdiligent : Diligent A s l s') : Sound lib env A (d.note l) s' := by
  cases hst with
  | start hnone => exact h.start hnone
  | call hstage hnext hanswers =>
    exact h.call hA hstage (stageCall_of_next hnext) hanswers hdiligent
  | finish => exact h.finish hdiligent
  | stop => exact h.finish hdiligent
  | evolve hevolves => exact h.evolve hA hevolves

/-- The call is a submission. -/
def Command.submits : Command → Bool
  | submitVerification .. => true
  | webhook .. | revokeForSubject .. | expireStaleAttestations _ => false

/-- **Active attestations.**  In runs of diligent steps, while nothing is being submitted, every
active row has been published at a tier that satisfies what was required. -/
theorem active_published (hA : A.Faithful net) {s₀ s : ServiceState V N} {ls : List ServiceLabel}
    (h₀ : s₀.Idle) (hempty : s₀.world.1.1.attestations = [])
    (h : ((service lib env provider net).restrict fun s l s' =>
      Diligent A (s.staged (staging lib env)) l (s'.staged (staging lib env))).Run s₀ ls s)
    (hdone : ∀ pid t, s.running pid = some t → t.command.submits = false)
    {row : KycAttestation} (hrow : row ∈ s.world.1.1.attestations)
    (hactive : row.status = .active) : ∃ required, (docket ls).required row.id = some required ∧
      row.Published lib env A s.world.2 required := by
  have hrun := (staged_of_run follows_program (.of_idle h₀) h).1
  have hsound : Sound lib env A (docket ls) (s.staged (staging lib env)) := by
    generalize s.staged (staging lib env) = s' at hrun
    clear h hdone hrow hactive
    induction hrun with
    | nil =>
      refine ⟨fun row hrow => ?_, fun pid c subject required result hpid => ?_,
        fun pid c subject required result sub hpid => ?_⟩
      · rw [show (s₀.staged (staging lib env)).world = s₀.world from rfl, hempty] at hrow
        cases hrow
      · rw [h₀.staged] at hpid
        cases hpid
      · rw [h₀.staged] at hpid
        cases hpid
    | snoc _ hst ih =>
      rw [docket, List.foldl_append]
      exact ih.step hA hst.1 hst.2
  rcases hsound.rows row hrow with ⟨hstatus, -⟩ | ⟨required, hid, hpublished | hunderway⟩
  · exact absurd hactive hstatus
  · exact ⟨required, hid, hpublished⟩
  · obtain ⟨pid, c, subject, result, sub, new, hpid, hattestation, -⟩ := hunderway
    obtain ⟨t, ht, rfl⟩ := running_of_stage hpid
    have hsubmits := hdone pid t ht
    cases hcommand : t.command with
    | submitVerification => rw [hcommand] at hsubmits; cases hsubmits
    | _ => rw [hcommand] at hattestation; cases hattestation

/-! ### An approval at a lower tier -/

/-- No call ends, and nothing else goes wrong. -/
def calm : ServiceLabel → Bool
  | .finish .. | .stop .. => false
  | .call _ _ (.inl (.inl (.createAttestation _))) (.error _) => false
  | .call _ _ (.inl (.inl (.update _ data))) _ => !data.activates
  | .start .. | .call .. | .evolve => true

theorem Diligent.of_calm {l : ServiceLabel}
    (hst : (staged (environment provider net) (staging lib env)).step s l s')
    (hl : calm l = true) : Diligent A s l s' := by
  refine ⟨?_, fun pid c subject required result sub hpid hnone => ?_, ?_⟩
  · rintro pid c row e rfl
    cases hl
  · cases hst with
    | @start pid' c' =>
      change Function.update s.stage pid' _ pid = none at hnone
      by_cases heq : pid = pid'
      · rw [heq, Function.update_self] at hnone
        cases hnone
      · rw [Function.update_of_ne heq, hpid] at hnone
        cases hnone
    | @call pid' c' φ ψ q o w =>
      change Function.update s.stage pid' _ pid = none at hnone
      by_cases heq : pid = pid'
      · rw [heq, Function.update_self] at hnone
        cases hnone
      · rw [Function.update_of_ne heq, hpid] at hnone
        cases hnone
    | finish | stop => cases hl
    | evolve =>
      rw [show s.stage pid = none from hnone] at hpid
      cases hpid
  · rintro pid c id data o rfl hactive
    change (!data.activates) = true at hl
    rw [hactive] at hl
    cases hl

namespace Sample

open Liquidity.Sample (Network respond)

def library : Library where
  toSdk := Liquidity.Sample.library
  attestationHashOf _ := [0xa5]
  mockProvider := ⟨fun _ _ => false, fun _ => .error (.error "unsigned")⟩
  httpProvider _ := ⟨fun _ _ => true, fun _ => .ok ⟨"ref", .approved, []⟩⟩

def settings : KycSettings where
  toSettings := Liquidity.Sample.deployment
  kycProvider := "http"
  kycProviderBaseUrl := some "https://provider"

/-- A provider that always gives the same answer. -/
def screen (result : VerificationResult) :
    (q : ProviderCall) → Except Failure (ProviderAnswer q) × VerificationResult
  | .submit .. => (.ok result, result)

def answer : World VerificationResult Network → (q : ServiceCall) →
    Except Failure (ServiceAnswer q) × World VerificationResult Network :=
  answerSum (answerSum (obey Query.perform (.error "refused")) screen) respond

theorem answer_answers (w : World VerificationResult Network) (q : ServiceCall) :
    (environment (.ofAnswer screen) (.ofAnswer respond)).answers w q (answer w q).1
      (answer w q).2 :=
  answerSum_answers (answerSum_answers obey_answers fun _ _ => rfl) (fun _ _ => rfl) w q

/-- What the network has included. -/
def archive : Archive Network :=
  ⟨fun tx => toString tx.sequence, fun n tx => toString tx.sequence ∈ n.landed⟩

theorem archive_faithful : archive.Faithful (.ofAnswer respond) := by
  refine ⟨fun w q o w' tx h htx => ?_, fun w w' tx h => h.elim, fun w tx sent w' h => ?_,
    fun w tx ledger w' h => ?_⟩
  · obtain ⟨-, rfl⟩ := Prod.mk.inj h
    cases q with
    | sendTransaction => exact List.mem_append_left _ htx
    | getAccount | simulateTransaction | getTransaction => exact htx
  · obtain ⟨hsent, -⟩ := Prod.mk.inj h
    cases hsent
    rfl
  · obtain ⟨hsuccess, rfl⟩ := Prod.mk.inj h
    by_cases hlanded : archive.hashOf tx ∈ w.landed
    · exact hlanded
    · rw [if_neg hlanded] at hsuccess
      cases hsuccess

/-- The provider approves at the tier `Standard`. -/
def result : VerificationResult := ⟨.approved, .standard, "http", "ref", [], none, "payload"⟩

def input (amount : ℤ) : SubmitVerificationInput :=
  ⟨"user", "NG_LAG", amount, "NGN_LAG", "A. Sender", "1990-01-01", "NG", none, none, none⟩

def opened : ServiceState VerificationResult Network where
  world := ((⟨[⟨"user", some "sender"⟩], [⟨"NGN_LAG", 100, 1000⟩], []⟩, result), ⟨0, []⟩)
  running _ := none

theorem opened_idle : opened.Idle := fun _ => rfl

def submission (amount : ℤ) : Command := .submitVerification (input amount) "uuid" 1000

def played (ts : List (Turn Command)) : ServiceState VerificationResult Network :=
  play (program library settings) answer opened ts

def traced (ts : List (Turn Command)) : List ServiceLabel :=
  trace (program library settings) answer opened ts

/-- A submission until its row is written. -/
def written (amount : ℤ) : List (Turn Command) :=
  [.start 1 (submission amount), .call 1, .call 1, .call 1, .call 1]

/-- A submission until its attestation is published and that is recorded. -/
def published (amount : ℤ) : List (Turn Command) :=
  written amount ++ [.call 1, .call 1, .call 1, .call 1, .call 1]

/-- The row of the submission. -/
def approvedRow (amount : ℤ) : KycAttestation :=
  (input amount).attestation library settings "uuid" 1000 result

def publishedRow (amount : ℤ) : KycAttestation :=
  { approvedRow amount with publishTxHash := some "1" }

theorem not_applied {n : Network} (h : n.landed = []) (tx : Transaction) :
    ¬ archive.applied n tx := by
  intro happlied
  change toString tx.sequence ∈ n.landed at happlied
  rw [h] at happlied
  cases happlied

theorem played_running {ts : List (Turn Command)} (hts : ∀ t ∈ ts, t.pid = 1) {pid : ℕ}
    (hpid : pid ≠ 1) : (played ts).running pid = none :=
  play_running ts fun t ht => by
    rw [hts t ht]
    exact hpid.symm

/-- Nothing is submitted after the script. -/
theorem played_done {ts : List (Turn Command)} (hts : ∀ t ∈ ts, t.pid = 1)
    (h : ((played ts).running 1).isNone = true) (pid : ℕ)
    (t : Thread ServiceCall ServiceAnswer Failure Outcome Command)
    (ht : (played ts).running pid = some t) : t.command.submits = false := by
  by_cases hpid : pid = 1
  · rw [hpid, Option.isNone_iff_eq_none.1 h] at ht
    cases ht
  · rw [played_running hts hpid] at ht
    cases ht

theorem published_run : ((service library settings (.ofAnswer screen) (.ofAnswer respond)).restrict
    fun s l s' => Diligent archive (s.staged (staging library settings)) l
      (s'.staged (staging library settings))).Run opened (traced (published 500))
      (played (published 500)) := by
  have hcalm : ∀ l ∈ traced (published 500), calm l = true := by decide +kernel
  exact (play_run answer_answers _).restrict_of_labels_invariant hcalm (.of_idle opened_idle)
    (fun _ _ _ hs hst => hs.step follows_program hst)
    fun _ _ _ hs hst hl => .of_calm (staged_step hs hst) hl

/-- The submission ends when its attestation is published. -/
theorem finish_diligent {r : Except Failure Outcome} {s' : StagedState VerificationResult Network} :
    Diligent archive ((played (published 500)).staged (staging library settings))
      (.finish 1 (submission 500) r) s' := by
  obtain ⟨tx, htx⟩ : ∃ tx, ((played (published 500)).staged (staging library settings)).stage 1 =
      some (submission 500,
          .created ⟨"user", some "sender"⟩ .standard result (.confirmed tx "1")) :=
    ⟨_, rfl⟩
  refine ⟨fun _ _ _ _ h => (by cases h), fun pid c subject required result sub hpid _ => ?_,
    fun _ _ _ _ _ h => (by cases h)⟩
  by_cases heq : pid = 1
  · rw [heq, htx] at hpid
    cases hpid
    exact ⟨rfl, trivial⟩
  · rw [stage_of_not_running (played_running (by decide) heq)] at hpid
    cases hpid

end Sample

/-- The transfer requires the tier `ENHANCED`, and the provider approves the tier `Standard`. -/
theorem not_active_published_sample : Sample.archive.Faithful (.ofAnswer Liquidity.Sample.respond) ∧
    Sample.opened.Idle ∧ Sample.opened.world.1.1.attestations = [] ∧
    (service Sample.library Sample.settings (.ofAnswer Sample.screen)
      (.ofAnswer Liquidity.Sample.respond)).Run Sample.opened
      (Sample.traced (Sample.written 5000 ++ [.finish 1]))
      (Sample.played (Sample.written 5000 ++ [.finish 1])) ∧
    (∀ pid t, (Sample.played (Sample.written 5000 ++ [.finish 1])).running pid = some t →
      t.command.submits = false) ∧
    Sample.approvedRow 5000 ∈
    (Sample.played (Sample.written 5000 ++ [.finish 1])).world.1.1.attestations ∧
    (Sample.approvedRow 5000).status = .active ∧ ∀ required,
      ¬ (Sample.approvedRow 5000).Published Sample.library Sample.settings Sample.archive
        (Sample.played (Sample.written 5000 ++ [.finish 1])).world.2 required := by
  have hlanded : (Sample.played (Sample.written 5000 ++ [.finish 1])).world.2.landed = [] := by
    decide +kernel
  refine ⟨Sample.archive_faithful, Sample.opened_idle, rfl, play_run Sample.answer_answers _,
    Sample.played_done (by decide) (by decide +kernel), by decide +kernel, rfl, ?_⟩
  rintro required ⟨tier, input, tx, -, -, -, -, -, happlied⟩
  exact Sample.not_applied hlanded tx happlied

/-- The transfer requires the tier `STANDARD`. -/
theorem active_published_sample : ∃ outcome required,
    (docket (Sample.traced (Sample.published 500) ++
      [.finish 1 (Sample.submission 500) (.ok outcome)])).required (Sample.publishedRow 500).id =
        some required ∧
    (Sample.publishedRow 500).Published Sample.library Sample.settings Sample.archive
      (Sample.played (Sample.published 500)).world.2 required := by
  obtain ⟨made, outcome, hrunning⟩ :
    ∃ made outcome, (Sample.played (Sample.published 500)).running 1 =
    some ⟨Sample.submission 500, made, .done outcome⟩ := ⟨_, _, rfl⟩
  have hrow : Sample.publishedRow 500 ∈
      (Sample.played (Sample.published 500)).world.1.1.attestations := by
    decide +kernel
  have hrun := Run.snoc Sample.published_run
    ⟨Step.finish (r := .ok outcome) hrunning, Sample.finish_diligent⟩
  refine ⟨outcome, active_published Sample.archive_faithful Sample.opened_idle rfl hrun
    (fun pid t ht => ?_) hrow rfl⟩
  rcases update_cases ht with ⟨-, hnew⟩ | ⟨hpid, hold⟩
  · cases hnew
  · rw [Sample.played_running (by decide) hpid] at hold
    cases hold

end Kyc

end RemitBridge
