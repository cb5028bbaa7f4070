import RemitBridge.Hook.Attestation
import RemitBridge.Indexer.Emission
import RemitBridge.Indexer.Poison
import RemitBridge.Kyc.Publication

/-!
# Whom an attestation is about

The hook keeps one attestation for each address.  A submission publishes under the address of the
user that was verified, or under the attester's if the user has none; then all such users share one
attestation on chain, which is about none of them (`about_user_iff`).
-/

namespace RemitBridge

namespace Kyc

open Backend Process TransitionSystem

open Indexer (UserRow StrKey Value)

variable {N V ω : Type} {lib : Library} {env : KycSettings}
  {provider : Environment V ProviderCall ProviderAnswer Failure}
  {net : Environment N RpcCall RpcAnswer Failure} {K : StrKey}

/-- A transaction that a submission has sent, and the user that it has verified. -/
structure Publication where
  input : SubmitVerificationInput
  user : Option UserRow
  tx : Transaction

/-- The user that each call has found, and what the submissions have sent. -/
structure Register where
  found : ℕ → Option UserRow
  sent : List Publication

def Register.note (g : Register) : ServiceLabel → Register
  | .call pid _ (.inl (.inl (.findUser _))) (.ok user) =>
    { g with found := Function.update g.found pid user }
  | .call pid (.submitVerification input _ _) (.inr (.sendTransaction tx)) _ =>
    { g with sent := g.sent ++ [⟨input, g.found pid, tx⟩] }
  | _ => g

def register (ls : List ServiceLabel) : Register := ls.foldl Register.note ⟨fun _ => none, []⟩

/-- What the submissions of a run have sent. -/
def publications (ls : List ServiceLabel) : List Publication := (register ls).sent

/-- Only addresses are converted to ones. -/
def Addresses (sdk : Sdk) (K : StrKey) : Prop :=
  ∀ text value, sdk.address text = .ok value → ∃ a, text = K.encode a ∧ value = K.value a

/-- The call of the hook that a transaction makes, which is about this subject. -/
inductive Executes (K : StrKey) (hookId : String) (tx : Transaction) (subject : Address) :
    Hook.Label ω → Prop
  | publish {e : Env} {attester : Address} {tier : KycTier} {attestationHash : BytesN 32}
      {regionId providerId : Symbol} {expiresAt : U64}
      {outcome : RemitBridge.Outcome Hook.Ret Hook.Event ComplianceError} :
      tx.contractId = hookId → tx.method = "publish_attestation" →
      tx.args = [K.value attester, K.value subject, .ofTier tier, .ofBytes attestationHash,
        .ofSymbol regionId, .ofSymbol providerId, .ofU64 expiresAt] →
      Executes K hookId tx subject
        (.call e (.publishAttestation attester subject tier attestationHash
        regionId providerId expiresAt) outcome)

/-- The attestation is about the user that was verified, and the attestations of other addresses are
as before. -/
structure Publication.AboutUser (K : StrKey) (p : Publication) (subject : Address)
    (w w' : Hook.World ω) : Prop where
  user : ∃ user, p.user = some user ∧ user.id = p.input.userId ∧
    user.stellarAddress = some (K.encode subject)
  others : ∀ a, p.user.bind UserRow.stellarAddress ≠ some (K.encode a) →
    w'.store.getAttestation a = w.store.getAttestation a

/-! ### What is sent -/

/-- The transaction publishes what the verification of this user gave. -/
def Publication.Verified (lib : Library) (env : KycSettings) (p : Publication) : Prop :=
  ∃ user now result attester, p.user = some user ∧ user.id = p.input.userId ∧
    (p.input.publication lib env now user result attester).Publishes lib.toSdk env.toSettings p.tx

structure Registered (lib : Library) (env : KycSettings) (g : Register) (s : StagedState V N) :
    Prop where
  found : ∀ pid c φ user, s.stage pid = some (c, φ) → φ.subject = some user →
    g.found pid = some user ∧ c.input.map SubmitVerificationInput.userId = some user.id
  sent : ∀ p ∈ g.sent, p.Verified lib env

variable {g : Register} {s s' : StagedState V N} {w : World V N} {pid : ℕ} {c : Command}
    {φ ψ : Stage}
  {q : ServiceCall} {o : Except Failure (ServiceAnswer q)}

theorem found_note {pid' : ℕ} (h : pid' ≠ pid) :
    (g.note (.call pid c q o)).found pid' = g.found pid' := by
  rcases q with ((⟨id⟩ | ⟨id⟩ | _ | _ | _ | _) | _) | _ | _ | ⟨tx⟩ | _
  case inl.inl.findUser =>
    cases o with
    | ok user => exact Function.update_of_ne h _ _
    | error e => rfl
  case inr.sendTransaction => cases c <;> rfl
  all_goals rfl

theorem found_note_rpc {q : RpcCall} {o : Except Failure (RpcAnswer q)} :
    (g.note (.call pid c (.inr q) o)).found = g.found := by
  rcases q with _ | _ | ⟨tx⟩ | _
  case sendTransaction => cases c <;> rfl
  all_goals rfl

/-- What a call sends is registered, with the user that was found. -/
theorem mem_sent_note {p : Publication} (h : p ∈ (g.note (.call pid c q o)).sent) :
    p ∈ g.sent ∨ ∃ input, c.input = some input ∧ p.input = input ∧ p.user = g.found pid ∧
      q = .inr (.sendTransaction p.tx) := by
  rcases q with ((⟨id⟩ | ⟨id⟩ | _ | _ | _ | _) | _) | _ | _ | ⟨tx⟩ | _
  case inl.inl.findUser => cases o <;> exact .inl h
  case inr.sendTransaction =>
    cases c with
    | submitVerification input uuid now =>
      rcases List.mem_append.1 h with h | h
      · exact .inl h
      · obtain rfl := List.mem_singleton.1 h
        exact .inr ⟨_, rfl, rfl, rfl, rfl⟩
    | _ => exact .inl h
  all_goals exact .inl h

/-- A user that is found has the identifier that was looked for. -/
theorem id_of_findUser {id : String} {subject : UserRow} {r r' : Records}
    (h : Query.perform (.findUser id) r = some (some subject, r')) : subject.id = id := by
  obtain ⟨hfound, -⟩ := Prod.mk.inj (Option.some.inj h)
  have hid : decide (subject.id = id) = true :=
    List.find?_some (p := fun row : UserRow => decide (row.id = id)) hfound
  exact of_decide_eq_true hid

/-- **One call.** -/
theorem Registered.call (h : Registered lib env g s) (hstage : s.stage pid = some (c, φ))
    (hcall : StageCall lib env c φ q o ψ)
    (hanswers : (environment provider net).answers s.world q o w) :
    Registered lib env (g.note (.call pid c q o))
      ⟨w, Function.update s.stage pid (some (c, ψ))⟩ := by
  refine ⟨fun pid' c' φ' user hpid' huser => ?_, fun p hp => ?_⟩
  · rcases update_cases hpid' with ⟨rfl, hnew⟩ | ⟨heq, hold⟩
    · obtain ⟨rfl, rfl⟩ := Prod.mk.inj (Option.some.inj hnew)
      cases hcall with
      | looked _ _ _ hsubject =>
        rw [hsubject] at huser
        cases huser
      | @identified id subject hid =>
        obtain rfl := Option.some.inj huser
        refine ⟨Function.update_self .., ?_⟩
        rw [hid, id_of_findUser hanswers.1.1]
      -- From then on the call keeps the user that it has found.
      | screened | created => exact h.found _ _ _ _ hstage huser
      | submitted =>
        rw [found_note_rpc]
        exact h.found _ _ _ _ hstage huser
      | noted => exact h.found _ _ _ _ hstage huser
      | unscreened | recorded | unrecorded | decided | revoked | expired => cases huser
      | began _ _ hrevoking | revoking _ _ hrevoking =>
        rw [Stage.subject_of_revoking hrevoking] at huser
        cases huser
    · rw [found_note heq]
      exact h.found _ _ _ _ hold huser
  · rcases mem_sent_note hp with hp | ⟨input, hinput, rfl, huser, rfl⟩
    · exact h.sent p hp
    · -- Only a call that has written its row sends, and a submission does nothing else.
      cases hcall with
      | @submitted subject required result s s' q o hq =>
        obtain ⟨hfound, hid⟩ := h.found _ _ _ _ hstage rfl
        obtain ⟨publication, hpublication, hpublishes⟩ := hq p.tx (List.mem_singleton_self _)
        cases c with
        | submitVerification input uuid now =>
          obtain ⟨attester, -, rfl⟩ := Option.map_eq_some_iff.1 hpublication
          obtain rfl := Option.some.inj hinput
          exact ⟨subject, now, result, attester, huser.trans hfound, (Option.some.inj hid).symm,
            hpublishes⟩
        | _ => cases hinput
      | began hnone | revoking hnone =>
        rw [hnone] at hinput
        cases hinput

theorem Registered.step {l : ServiceLabel} (h : Registered lib env g s)
    (hst : (staged (environment provider net) (staging lib env)).step s l s') :
    Registered lib env (g.note l) s' := by
  cases hst with
  | @start pid c hnone =>
    refine ⟨fun pid' c' φ user hpid' huser => ?_, h.sent⟩
    rcases update_cases hpid' with ⟨-, hnew⟩ | ⟨-, hold⟩
    · cases hnew
      cases huser
    · exact h.found _ _ _ _ hold huser
  | call hstage hnext hanswers => exact h.call hstage (stageCall_of_next hnext) hanswers
  | @finish pid | @stop pid =>
    refine ⟨fun pid' c' φ user hpid' huser => ?_, h.sent⟩
    rcases update_cases hpid' with ⟨-, hnew⟩ | ⟨-, hold⟩
    · cases hnew
    · exact h.found _ _ _ _ hold huser
  | evolve => exact ⟨h.found, h.sent⟩

/-- **What is sent** publishes the verification of the user that was found. -/
theorem verified_of_run {s₀ s : ServiceState V N} {ls : List ServiceLabel} (h₀ : s₀.Idle)
    (h : (service lib env provider net).Run s₀ ls s) {p : Publication} (hp : p ∈ publications ls) :
    p.Verified lib env := by
  have hall := h.restrict_of_labels (Q := fun _ => True) fun _ _ => trivial
  have hrun := (staged_of_run (G := fun _ _ _ => True) follows_program (.of_idle h₀) hall).1
  have hregistered : Registered lib env (register ls) (s.staged (staging lib env)) := by
    generalize s.staged (staging lib env) = s' at hrun
    clear h hall hp
    induction hrun with
    | nil =>
      refine ⟨fun pid c φ user hpid => ?_, fun p hp => (by cases hp)⟩
      rw [h₀.staged] at hpid
      cases hpid
    | snoc _ hst ih =>
      rw [register, List.foldl_append]
      exact ih.step hst.1
  exact hregistered.sent p hp

/-! ### What it is about -/

/-- The attestation that a transaction publishes is about the subject of the input. -/
theorem subject_of_publishes {sdk : Sdk} {settings : Settings} {input : PublishAttestationInput}
    {tx : Transaction} {hookId : String} {subject : Address} {l : Hook.Label ω}
    (hsdk : Addresses sdk K) (h : input.Publishes sdk settings tx)
    (hl : Executes K hookId tx subject l) : input.subject = K.encode subject := by
  obtain ⟨-, -, hargs⟩ := h
  cases hl with
  | publish _ _ hsent =>
    rw [hsent] at hargs
    cases hok : publishAttestationArgs sdk input with
    | error e =>
      rw [hok] at hargs
      cases hargs
    | ok args =>
      rw [hok] at hargs
      obtain rfl := Option.some.inj hargs
      obtain ⟨value, hvalue, hsecond⟩ := subject_of_publishAttestationArgs hok
      obtain ⟨a, ha, rfl⟩ := hsdk _ _ hvalue
      rw [ha]
      exact (Value.text.inj (Option.some.inj hsecond)).symm

/-- What the hook is asked for a subject changes no attestation of another one. -/
theorem others_of_executes {self : Address} {w₀ w w' : Hook.World ω} {ls : List (Hook.Label ω)}
    {hookId : String} {tx : Transaction} {subject a : Address} {l : Hook.Label ω}
    (h₀ : w₀.store = .blank) (h : (Hook.contract self).lts.Run w₀ ls w)
    (hst : (Hook.contract self).lts.step w l w') (hl : Executes K hookId tx subject l)
    (ha : a ≠ subject) : w'.store.getAttestation a = w.store.getAttestation a := by
  cases hl with
  | publish =>
    rcases Hook.step_cases (Hook.wellFormed_of_run h₀ h) hst with
      hquiet | ⟨env, c, ret, ms, es, hlabel, -, hwrites⟩
    · rw [hquiet.store]
    · cases hlabel
      cases hwrites with
      | nothing hc => cases hc
      | publishes _ _ _ hattestations =>
        rw [Hook.Storage.getAttestation, hattestations]
        exact AList.lookup_insert_ne ha

/-- **Whom an attestation is about.**  Whatever a submission publishes is about the user that it has
verified, and leaves the attestations of other addresses alone, exactly if the user has an
address. -/
theorem about_user_iff (hsdk : Addresses lib.toSdk K) {s₀ s : ServiceState V N}
    {ls : List ServiceLabel} (h₀ : s₀.Idle) (h : (service lib env provider net).Run s₀ ls s)
    {p : Publication} (hp : p ∈ publications ls) {self : Address} {w₀ w w' : Hook.World ω}
    {hs : List (Hook.Label ω)} {l : Hook.Label ω} {subject : Address} (hblank : w₀.store = .blank)
    (hrun : (Hook.contract self).lts.Run w₀ hs w) (hst : (Hook.contract self).lts.step w l w')
    (hl : Executes K env.contractComplianceHook p.tx subject l) :
    p.AboutUser K subject w w' ↔ (p.user.bind UserRow.stellarAddress).isSome = true := by
  constructor
  · rintro ⟨⟨user, huser, -, haddress⟩, -⟩
    rw [huser, Option.bind_some, haddress]
    rfl
  · intro hsome
    obtain ⟨user, now, result, attester, huser, hid, hpublishes⟩ := verified_of_run h₀ h hp
    rw [huser, Option.bind_some, Option.isSome_iff_exists] at hsome
    obtain ⟨address, haddress⟩ := hsome
    have hsubject : user.stellarAddress = some (K.encode subject) := by
      rw [haddress, ← subject_of_publishes hsdk hpublishes hl]
      show some address = some (user.stellarAddress.getD _)
      rw [haddress]
      rfl
    refine ⟨⟨user, huser, hid, hsubject⟩, fun a ha => others_of_executes hblank hrun hst hl ?_⟩
    rintro rfl
    rw [huser] at ha
    exact ha hsubject

/-! ### A user without an address -/

namespace Sample

open Hook.Sample (attester digest)

/-- The attester's address is 3, and the addresses from 3 to 5 are the only ones. -/
def hookLibrary : Library where
  fromSecret _ := .ok ⟨"3"⟩
  address text :=
    if text ∈ ["3", "4", "5"] then .ok (.text text) else .error (.error "unsupported address type")
  nativeToScVal value _ := .ok value
  bigIntOfDecimal n := .ok n
  attestationHashOf _ := digest.bytes
  mockProvider := library.mockProvider
  httpProvider := library.httpProvider

theorem hookLibrary_addresses : Addresses hookLibrary.toSdk Indexer.Sample.strKey := by
  intro text value h
  change (if text ∈ ["3", "4", "5"] then _ else _) = Except.ok value at h
  split_ifs at h with htext
  obtain rfl := Except.ok.inj h
  rcases List.mem_cons.1 htext with rfl | htext
  · exact ⟨⟨3⟩, rfl, rfl⟩
  · rcases List.mem_cons.1 htext with rfl | htext
    · exact ⟨⟨4⟩, rfl, rfl⟩
    · obtain rfl := List.mem_singleton.1 htext
      exact ⟨⟨5⟩, rfl, rfl⟩

/-- A user with this address. -/
def openedWith (address : Option String) :
    ServiceState VerificationResult Liquidity.Sample.Network :=
  { opened with world := ((⟨[⟨"user", address⟩], [⟨"NGN_LAG", 100, 1000⟩], []⟩, result), ⟨0, []⟩) }

/-- The user is verified, and the attestation is submitted. -/
def verifying (address : Option String) : List ServiceLabel :=
  trace (program hookLibrary settings) answer (openedWith address) (published 500)

def verified (address : Option String) : ServiceState VerificationResult Liquidity.Sample.Network :=
  play (program hookLibrary settings) answer (openedWith address) (published 500)

theorem verifying_run (address : Option String) :
    (service hookLibrary settings (.ofAnswer screen) (.ofAnswer Liquidity.Sample.respond)).Run
      (openedWith address) (verifying address) (verified address) :=
  play_run answer_answers _

/-- What is submitted. -/
def publicationOf (address : Option String) : Publication where
  input := input 500
  user := some ⟨"user", address⟩
  tx := {
    source := "3"
    sequence := 1
    contractId := "hook"
    method := "publish_attestation"
    args :=
      [.text "3", .text (address.getD "3"), .ofTier .standard, .ofBytes digest, .text "NG_LAG",
      .text "http", .bigint 31536001]
    auth := []
    signatures := ["3"] }

/-- The hook, set up. -/
def hooked : Hook.World Unit :=
  (Hook.contract ⟨0⟩).play Hook.Sample.blank (Hook.Sample.opening.take 4)

theorem hooked_run : (Hook.contract ⟨0⟩).lts.Run Hook.Sample.blank
    ((Hook.contract ⟨0⟩).trace Hook.Sample.blank (Hook.Sample.opening.take 4)) hooked :=
  Contract.play_run _ rfl

def publish (subject : Address) : Hook.Call :=
  .publishAttestation attester subject .standard digest ⟨"NG_LAG"⟩ ⟨"http"⟩ 31536001

/-- The hook, after the attestation of the subject was published. -/
def attested (subject : Address) : Hook.World Unit :=
  (Hook.contract ⟨0⟩).play hooked [.call (Hook.Sample.signedBy attester) (publish subject)]

end Sample

/-- The user has no address, and the attestation is about the attester. -/
theorem not_about_user_sample : ∃ outcome,
    Addresses Sample.hookLibrary.toSdk Indexer.Sample.strKey ∧ (Sample.openedWith none).Idle ∧
    (service Sample.hookLibrary Sample.settings (.ofAnswer Sample.screen)
      (.ofAnswer Liquidity.Sample.respond)).Run (Sample.openedWith none) (Sample.verifying none)
      (Sample.verified none) ∧
    Sample.publicationOf none ∈ publications (Sample.verifying none) ∧
    (Hook.contract ⟨0⟩).lts.Run Hook.Sample.blank
      ((Hook.contract ⟨0⟩).trace Hook.Sample.blank (Hook.Sample.opening.take 4)) Sample.hooked ∧
    (Hook.contract ⟨0⟩).lts.step Sample.hooked (.call (Hook.Sample.signedBy Hook.Sample.attester)
      (Sample.publish Hook.Sample.attester) outcome) (Sample.attested Hook.Sample.attester) ∧
    Executes Indexer.Sample.strKey Sample.settings.contractComplianceHook
      (Sample.publicationOf none).tx Hook.Sample.attester (.call (ω := Unit)
        (Hook.Sample.signedBy Hook.Sample.attester) (Sample.publish Hook.Sample.attester) outcome) ∧
    (Sample.attested Hook.Sample.attester).store.getAttestation Hook.Sample.attester ≠
      Sample.hooked.store.getAttestation Hook.Sample.attester ∧
    ¬ (Sample.publicationOf none).AboutUser Indexer.Sample.strKey Hook.Sample.attester Sample.hooked
      (Sample.attested Hook.Sample.attester) := by
  refine ⟨_, Sample.hookLibrary_addresses, fun _ => rfl, Sample.verifying_run none, ?_,
    Sample.hooked_run, Contract.step_done rfl rfl rfl rfl, .publish rfl rfl rfl, by decide, ?_⟩
  · exact List.mem_singleton_self _
  · rintro ⟨⟨user, huser, -, haddress⟩, -⟩
    obtain rfl := Option.some.inj huser
    cases haddress

/-- The user has an address. -/
theorem about_user_sample :
    (Sample.publicationOf (some "4")).AboutUser Indexer.Sample.strKey Hook.Sample.alice
        Sample.hooked (Sample.attested Hook.Sample.alice) ↔
      ((Sample.publicationOf (some "4")).user.bind UserRow.stellarAddress).isSome = true := by
  obtain ⟨outcome, hstep⟩ : ∃ outcome, (Hook.contract ⟨0⟩).lts.step Sample.hooked
      (.call (Hook.Sample.signedBy Hook.Sample.attester) (Sample.publish Hook.Sample.alice) outcome)
      (Sample.attested Hook.Sample.alice) := ⟨_, Contract.step_done rfl rfl rfl rfl⟩
  exact about_user_iff Sample.hookLibrary_addresses (fun _ => rfl) (Sample.verifying_run (some "4"))
    (p := Sample.publicationOf (some "4")) (List.mem_singleton_self _) rfl Sample.hooked_run hstep
    (.publish rfl rfl rfl)

end Kyc

end RemitBridge
