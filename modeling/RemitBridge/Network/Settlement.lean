import RemitBridge.Network.Solvency
import RemitBridge.Escrow.Lifecycle
import RemitBridge.Registry.Bonded

/-!
# Settlement across the network

A transfer passes three contracts: the escrow creates it if the compliance hook admits it, and pays
it to an agent whom the registry authorises.  `claimed_history` reads all of this off a record that
says that the transfer was claimed.
-/

namespace RemitBridge

open TransitionSystem Exec

namespace Escrow

/-- The registry to which the call asks to connect the escrow. -/
def Call.agentRegistry : Call → Option Address
  | initializeContract _ agentRegistry .. | setAgentRegistry agentRegistry => some agentRegistry
  | _ => none

/-- The hook to which the call asks to connect the escrow. -/
def Call.complianceHook : Call → Option Address
  | initializeContract _ _ complianceHook .. | setComplianceHook complianceHook =>
    some complianceHook
  | _ => none

/-- The escrow is connected to what it was connected to before, or what it was asked to connect
to. -/
theorem peers_of_invoke {ω : Type} {H : Host ω} {env : Env} {c : Call} {r : Ret} {w w' : World ω}
    {config' : EscrowConfig} (h : invoke H env c w = .ok (r, w'))
    (hconfig' : w'.store.config = some config') :
    (c.agentRegistry = some config'.agentRegistry ∨ ∃ config, w.store.config = some config ∧
      config'.agentRegistry = config.agentRegistry) ∧
    (c.complianceHook = some config'.complianceHook ∨ ∃ config, w.store.config = some config ∧
      config'.complianceHook = config.complianceHook) := by
  have hkept : w'.store.config = w.store.config →
      (c.agentRegistry = some config'.agentRegistry ∨ ∃ config, w.store.config = some config ∧
        config'.agentRegistry = config.agentRegistry) ∧
      (c.complianceHook = some config'.complianceHook ∨ ∃ config, w.store.config = some config ∧
        config'.complianceHook = config.complianceHook) := fun heq =>
    ⟨.inr ⟨config', heq ▸ hconfig', rfl⟩, .inr ⟨config', heq ▸ hconfig', rfl⟩⟩
  cases c with
  -- Transfers leave the configuration alone.
  | createTransfer =>
    obtain ⟨id, h₁, rfl⟩ := bind_pure_ok.1 h
    exact hkept (locks_of_createTransfer h₁).config
  | cancelTransfer =>
    obtain ⟨u, h₁, rfl⟩ := bind_pure_ok.1 h
    obtain ⟨t, t', hsettles⟩ := settles_of_cancelTransfer h₁
    exact hkept hsettles.config
  | claimTransfer =>
    obtain ⟨receipt, h₁, rfl⟩ := bind_pure_ok.1 h
    obtain ⟨t, t', hsettles⟩ := settles_of_claimTransfer h₁
    exact hkept hsettles.config
  | refundExpired =>
    obtain ⟨u, h₁, rfl⟩ := bind_pure_ok.1 h
    obtain ⟨t, t', hsettles⟩ := settles_of_refundExpired h₁
    exact hkept hsettles.config
  -- Two setters change a peer, and the initialisation sets both.
  | initializeContract =>
    simp [invoke, initializeContract, bind_assoc] at h
    obtain ⟨-, -, -, -, rfl⟩ := h
    obtain rfl := Option.some.inj hconfig'
    exact ⟨.inl rfl, .inl rfl⟩
  | setAdmin =>
    simp [invoke, setAdmin, bind_assoc] at h
    obtain ⟨previous, -, -, -, rfl⟩ := h
    exact hkept rfl
  | setFeeBps =>
    simp [invoke, setFeeBps, bind_assoc] at h
    obtain ⟨-, -, -, -, config, hconfig, -, rfl⟩ := h
    obtain rfl := Option.some.inj hconfig'
    exact ⟨.inr ⟨config, hconfig, rfl⟩, .inr ⟨config, hconfig, rfl⟩⟩
  | setMaxExpiry =>
    simp [invoke, setMaxExpiry, bind_assoc] at h
    obtain ⟨-, -, -, -, config, hconfig, -, rfl⟩ := h
    obtain rfl := Option.some.inj hconfig'
    exact ⟨.inr ⟨config, hconfig, rfl⟩, .inr ⟨config, hconfig, rfl⟩⟩
  | setTreasury =>
    simp [invoke, setTreasury, bind_assoc] at h
    obtain ⟨-, -, -, config, hconfig, -, rfl⟩ := h
    obtain rfl := Option.some.inj hconfig'
    exact ⟨.inr ⟨config, hconfig, rfl⟩, .inr ⟨config, hconfig, rfl⟩⟩
  | setAgentRegistry =>
    simp [invoke, setAgentRegistry, bind_assoc] at h
    obtain ⟨-, -, -, config, hconfig, -, rfl⟩ := h
    obtain rfl := Option.some.inj hconfig'
    exact ⟨.inl rfl, .inr ⟨config, hconfig, rfl⟩⟩
  | setComplianceHook =>
    simp [invoke, setComplianceHook, bind_assoc] at h
    obtain ⟨-, -, -, config, hconfig, -, rfl⟩ := h
    obtain rfl := Option.some.inj hconfig'
    exact ⟨.inr ⟨config, hconfig, rfl⟩, .inl rfl⟩
  | setPaused =>
    simp [invoke, setPaused, bind_assoc] at h
    obtain ⟨-, -, -, config, hconfig, -, rfl⟩ := h
    obtain rfl := Option.some.inj hconfig'
    exact ⟨.inr ⟨config, hconfig, rfl⟩, .inr ⟨config, hconfig, rfl⟩⟩
  | quoteClaim =>
    simp [invoke, quoteClaim, bind_assoc] at h
    obtain ⟨-, -, -, -, -, -, -, -, -, -, rfl⟩ := h
    exact hkept rfl

end Escrow

namespace Network

variable {N : Net} {s₀ s s' : Net.State} {l : Net.Label} {ls ls' : List Net.Label} {env : Env}
  {id : U64} {t : Transfer}

/-! ### The wiring of the escrow -/

/-- The step does not connect the escrow to another hook or another registry. -/
def KeepsPeers (N : Net) : Net.Label → Prop
  | .escrow _ c (.done ..) => (∀ a, c.agentRegistry = some a → a = N.registry) ∧
      ∀ a, c.complianceHook = some a → a = N.hook
  | _ => True

/-- The escrow is connected to the hook and the registry of the network. -/
def Connected (N : Net) (s : Net.State) : Prop := ∀ config, s.escrow.config = some config →
  config.agentRegistry = N.registry ∧ config.complianceHook = N.hook

theorem Connected.step (hc : Connected N s) (hl : KeepsPeers N l) (h : N.lts.step s l s') :
    Connected N s' := by
  cases h with
  | escrow _ hst =>
    cases hst with
    | done _ hok =>
      intro config' hconfig'
      obtain ⟨hregistry, hhook⟩ := Escrow.peers_of_invoke hok hconfig'
      constructor
      · rcases hregistry with h | ⟨config, hconfig, heq⟩
        · exact hl.1 _ h
        · exact heq.trans (hc config hconfig).1
      · rcases hhook with h | ⟨config, hconfig, heq⟩
        · exact hl.2 _ h
        · exact heq.trans (hc config hconfig).2
    | reverted => exact hc
  | _ => exact hc

theorem connected_of_run (h₀ : N.Deployed s₀) (h : N.lts.Run s₀ ls s)
    (hls : ∀ l ∈ ls, KeepsPeers N l) : Connected N s := by
  refine (h.restrict_of_labels hls).invariant (I := Connected N) ?_
    fun _ _ _ hc hst => hc.step hst.2 hst.1
  intro config hconfig
  rw [h₀.escrow] at hconfig
  cases hconfig

/-! ### The transfers -/

/-- What a step does to the transfers. -/
theorem transfers_cases (h₀ : N.Deployed s₀) (h : N.lts.Run s₀ ls s) (hst : N.lts.step s l s') :
    s'.escrow.transfers = s.escrow.transfers ∨
    ∃ env c r w, l = .escrow env c (.done r w.ledger.transfers w.events) ∧ s' = s.afterEscrow w ∧
      Escrow.invoke N.escrowHost env c s.escrowWorld.clear = .ok (r, w) ∧
      ((∃ t, Escrow.Locks N.escrowHost env c r t s.escrowWorld.clear w) ∨
        ∃ id t t', Escrow.Settles N.escrowHost env c id t t' s.escrowWorld.clear w) := by
  cases hst with
  | escrow _ hst =>
    cases hst with
    | done _ hok =>
      cases escrow_covered h₀ h with
      | blank hblank hnonneg =>
        have hfresh := Escrow.fresh_of_blank (w := s.escrowWorld.clear) hblank hnonneg hok
        have hnone : s.escrow.transfers = ∅ := congrArg Escrow.Storage.transfers hblank
        exact .inl (hfresh.transfers.trans hnone.symm)
      | covered hw =>
        rcases Escrow.invoke_cases (w := s.escrowWorld.clear) hw.admin hok with hc | hc
        · exact .inl hc.transfers
        · exact .inr ⟨_, _, _, _, rfl, rfl, hok, hc⟩
    | reverted => exact .inl rfl
  | _ => exact .inl rfl

theorem wellFormed_of_getTransfer (h₀ : N.Deployed s₀) (h : N.lts.Run s₀ ls s)
    (ht : s.escrow.getTransfer id = some t) : Escrow.WellFormed N.escrowHost s.escrowWorld := by
  cases escrow_covered h₀ h with
  | blank hblank =>
    simp only [Net.State.escrowWorld_store] at hblank
    rw [hblank] at ht
    cases ht
  | covered hw => exact hw

/-- Terms never change, and a settled transfer never changes at all. -/
theorem transfer_kept (h₀ : N.Deployed s₀) (h : N.lts.Run s₀ ls s) (h' : N.lts.Run s ls' s')
    (ht : s.escrow.getTransfer id = some t) : ∃ t', s'.escrow.getTransfer id = some t' ∧
      Escrow.terms t' = Escrow.terms t ∧ (t.status ≠ .pending → t' = t) := by
  obtain ⟨ass, v, -, hrun, hv⟩ := escrow_run h'
  obtain ⟨t', ht', hterms, hfinal⟩ :=
    Escrow.transfer_stable (wellFormed_of_getTransfer h₀ h ht) hrun ht
  obtain ⟨hstore, -⟩ := Contract.same_iff.1 hv
  refine ⟨t', ?_, hterms, hfinal⟩
  rw [hstore] at ht'
  exact ht'

/-! ### The record of a claimed transfer -/

/-- The step created the transfer.  Its sender asked for it and paid it in, and the hook, which
counts it in the sender's volume of the day, found the limit kept and the sender's attestation, if
one is required, good for the amount. -/
structure Admitted (N : Net) (t : Transfer) (s : Net.State) (l : Net.Label) (s' : Net.State) :
    Prop where
  call : ∃ env events, l = .escrow env
    (.createTransfer t.sender t.amount t.token t.claimHash t.corridorId t.expiry)
    (.done (.id t.id) [⟨t.token, t.sender, N.escrow, t.amount⟩] events) ∧ env.signed t.sender = true
  created : t.createdAt = s.ledger.timestamp
  unpaused : s.hook.isPaused = false
  unrevoked : (s.hook.getAttestation t.sender).any Attestation.revoked = false
  volume : (s'.hook.dailyVolume t.sender t.corridorId (Hook.dayOf t.createdAt)).val =
    (s.hook.dailyVolume t.sender t.corridorId (Hook.dayOf t.createdAt)).val + t.amount.val
  permitted : ∃ thresholds held, s.hook.getThresholds t.corridorId = some thresholds ∧
    s'.hook.dailyVolume t.sender t.corridorId (Hook.dayOf t.createdAt) ≤ thresholds.dailyLimit ∧
    Hook.HoldsTier (s.hook.getAttestation t.sender) (thresholds.requiredTier t.amount) t.createdAt
      held

/-- The step paid the transfer, in time, to somebody else than the sender: to the agent on the
record, who asked for it and revealed the code, and whom the registry authorised in the region of
the corridor. -/
structure Delivered (N : Net) (t : Transfer) (s : Net.State) (l : Net.Label) : Prop where
  call : ∃ env agent reveal fee payout treasury receipt events,
    l = .escrow env (.claimTransfer agent t.id reveal) (.done (.receipt receipt)
      (⟨t.token, N.escrow, agent, payout⟩ ::
        Escrow.feeTransfers N.escrowHost t.token treasury fee) events) ∧
    env.signed agent = true ∧ t.claimedBy = some agent ∧ agent ≠ t.sender ∧
    N.sha256 reveal.bytes = t.claimHash ∧ 0 ≤ fee.val ∧ payout.val + fee.val = t.amount.val ∧
    ∃ regionId, s.registry.getCorridorRegion t.corridorId = some regionId ∧
      Registry.AuthorizedIn s.registry agent regionId
  unexpired : s.ledger.timestamp ≤ t.expiry

theorem admitted_of_locks {c : Escrow.Call} {r : Escrow.Ret}
    {w : Escrow.World (Hook.Storage × Registry.Storage)} (hc : Connected N s)
    (h : Escrow.Locks N.escrowHost env c r t s.escrowWorld.clear w) :
    Admitted N t s (.escrow env c (.done r w.ledger.transfers w.events)) (s.afterEscrow w) := by
  obtain ⟨config, total, hconfig, hcommit⟩ := h.commit
  rw [(hc config hconfig).2, Net.escrowHost_tryCommitTransfer, if_pos rfl] at hcommit
  obtain ⟨hanswer, hpeers⟩ := Prod.mk.inj hcommit
  obtain ⟨v, hv, hstore⟩ := tryCall_ok.1 (Prod.ext hanswer rfl)
  obtain ⟨escrow, -, -, -, hpaused, thresholds, hthresholds, htotal, hle, -, hrevoked,
    ⟨held, hheld⟩, heq⟩ := Hook.commitTransfer_ok.1 hv
  have hcreated : t.createdAt = s.ledger.timestamp := by
    rw [h.record]
    rfl
  have hafter : w.peers.1 = v.store := (congrArg Prod.fst hpeers).symm.trans hstore.symm
  have hvolume : w.peers.1.dailyVolume t.sender t.corridorId (Hook.dayOf t.createdAt) = total := by
    rw [hafter, heq, hcreated]
    simp [Hook.Storage.dailyVolume, World.ofStorage]
  refine ⟨⟨env, w.events, ?_, h.signed⟩, hcreated, hpaused, hrevoked, ?_,
    thresholds, held, hthresholds, ?_, ?_⟩
  · rw [h.call, h.ret, h.ledger]
    rfl
  · rw [Net.State.afterEscrow_hook, hvolume, htotal, hcreated]
    rfl
  · rw [Net.State.afterEscrow_hook, hvolume]
    exact hle
  · rw [hcreated]
    exact hheld

theorem delivered_of_settles {c : Escrow.Call} {r : Escrow.Ret} {t₁ : Transfer}
    {w : Escrow.World (Hook.Storage × Registry.Storage)} (hc : Connected N s)
    (hw : Escrow.WellFormed N.escrowHost s.escrowWorld.clear)
    (hok : Escrow.invoke N.escrowHost env c s.escrowWorld.clear = .ok (r, w))
    (h : Escrow.Settles N.escrowHost env c id t₁ t s.escrowWorld.clear w)
    (hclaimed : t.status = .claimed) :
    Delivered N t s (.escrow env c (.done r w.ledger.transfers w.events)) := by
  obtain ⟨payments, hsettlement, hledger⟩ := h.settlement
  have hsound := hw.records _ _ h.stored
  have hpayments : w.ledger.transfers = payments := by
    rw [hledger, Ledger.apply_transfers, World.clear_transfers, List.nil_append]
  rw [hpayments]
  obtain rfl := hsound.keyed
  generalize w.peers = peers at hsettlement
  cases hsettlement with
  | @claimed agent reveal config fee payout _ hagent hconfig hexp hne hhash hauth hfee hpayout =>
    rw [(hc config hconfig).1, Net.escrowHost_tryIsAuthorizedForCorridor, if_pos rfl] at hauth
    obtain ⟨receipt, -, hret⟩ := bind_pure_ok.1 hok
    rw [hret]
    refine ⟨⟨env, agent, reveal, fee, payout, config.treasury, receipt, w.events, rfl, hagent, rfl,
      hne.symm, hhash, Escrow.feeFor_nonneg hsound.positive.le hfee, ?_,
      Registry.authorizedIn_of_corridor (TryCall.ok.inj (congrArg Prod.fst hauth))⟩, hexp⟩
    show payout.val + fee.val = t₁.amount.val
    omega
  | cancelled => cases hclaimed
  | refunded => cases hclaimed

/-- What admits a transfer is about its terms. -/
theorem Admitted.of_terms {t' : Transfer} (h : Admitted N t s l s')
    (hterms : Escrow.terms t' = Escrow.terms t) : Admitted N t' s l s' := by
  simp only [Escrow.terms, Escrow.Terms.mk.injEq] at hterms
  obtain ⟨hid, hsender, hamount, htoken, hhash, hcorridor, hexpiry, hcreated⟩ := hterms
  constructor
  · rw [hid, hsender, hamount, htoken, hhash, hcorridor, hexpiry]
    exact h.call
  · exact hcreated.trans h.created
  · exact h.unpaused
  · rw [hsender]
    exact h.unrevoked
  · rw [hsender, hcorridor, hcreated, hamount]
    exact h.volume
  · rw [hsender, hcorridor, hcreated, hamount]
    exact h.permitted

/-- The record of a transfer was written by a step that created it. -/
theorem exists_admitted (h₀ : N.Deployed s₀) (h : N.lts.Run s₀ ls s)
    (hls : ∀ l ∈ ls, KeepsPeers N l) (ht : s.escrow.getTransfer id = some t) :
    ∃ ls₁ l ls₂ s₁ s₂ t₁, ls = ls₁ ++ l :: ls₂ ∧ N.lts.Run s₀ ls₁ s₁ ∧ N.lts.step s₁ l s₂ ∧
      Escrow.terms t = Escrow.terms t₁ ∧ Admitted N t₁ s₁ l s₂ ∧ N.lts.Run s₂ ls₂ s := by
  obtain ⟨ls₁, l, ls₂, s₁, s₂, rfl, h₁, hnone, hst, ⟨t₂, ht₂⟩, h₂⟩ :=
    h.exists_switch (P := fun s => ∃ t, s.escrow.getTransfer id = some t)
      (by rintro ⟨t, ht⟩; rw [h₀.escrow] at ht; cases ht) ⟨t, ht⟩
  have hc := connected_of_run h₀ h₁ fun l hl => hls l (List.mem_append_left _ hl)
  obtain ⟨t', ht', hterms, -⟩ := transfer_kept h₀ (h₁.snoc hst) h₂ ht₂
  obtain rfl := Option.some.inj (ht.symm.trans ht')
  rw [Escrow.Storage.getTransfer] at ht₂
  rcases transfers_cases h₀ h₁ hst with hsame | ⟨env, c, r, w, rfl, rfl, hok, ⟨t₁, hlocks⟩ |
    ⟨id', t₁, t', hsettles⟩⟩
  · exact absurd ⟨t₂, by rwa [hsame] at ht₂⟩ hnone
  · rw [Net.State.afterEscrow_escrow, hlocks.transfers, Store.lookup_insert_ite] at ht₂
    split_ifs at ht₂
    · obtain rfl := Option.some.inj ht₂
      exact ⟨ls₁, _, ls₂, s₁, _, t₁, rfl, h₁, hst, hterms, admitted_of_locks hc hlocks, h₂⟩
    · exact absurd ⟨t₂, ht₂⟩ hnone
  · -- A settlement writes over a record.
    rw [Net.State.afterEscrow_escrow, hsettles.transfers, Store.lookup_insert_ite] at ht₂
    split_ifs at ht₂ with hid
    · have hw := wellFormed_of_getTransfer h₀ h₁ hsettles.stored
      have hkeyed := (hw.records _ _ hsettles.stored).keyed
      exact absurd ⟨t₁, by rw [hid, hkeyed]; exact hsettles.stored⟩ hnone
    · exact absurd ⟨t₂, ht₂⟩ hnone

/-- A claimed transfer was delivered by a step that found its record pending. -/
theorem exists_delivered (h₀ : N.Deployed s₀) (h : N.lts.Run s₀ ls s)
    (hls : ∀ l ∈ ls, KeepsPeers N l) (ht : s.escrow.getTransfer id = some t)
    (hclaimed : t.status = .claimed) :
    ∃ ls₁ l ls₂ s₁ s₂ t₁, ls = ls₁ ++ l :: ls₂ ∧ N.lts.Run s₀ ls₁ s₁ ∧ N.lts.step s₁ l s₂ ∧
      s₁.escrow.getTransfer id = some t₁ ∧ Escrow.terms t = Escrow.terms t₁ ∧
      Delivered N t s₁ l ∧ N.lts.Run s₂ ls₂ s := by
  obtain ⟨ls₁, l, ls₂, s₁, s₂, rfl, h₁, hnone, hst, ⟨t₂, ht₂, hne⟩, h₂⟩ := h.exists_switch
    (P := fun s => ∃ t, s.escrow.getTransfer id = some t ∧ t.status ≠ .pending)
    (by rintro ⟨t, ht, -⟩; rw [h₀.escrow] at ht; cases ht)
    ⟨t, ht, by rw [hclaimed]; exact TransferStatus.noConfusion⟩
  have hc := connected_of_run h₀ h₁ fun l hl => hls l (List.mem_append_left _ hl)
  -- A settled record is final, so the one at the end is the one that the step left.
  obtain ⟨t', ht', -, hfinal⟩ := transfer_kept h₀ (h₁.snoc hst) h₂ ht₂
  obtain rfl : t = t₂ := (Option.some.inj (ht.symm.trans ht')).trans (hfinal hne)
  rw [Escrow.Storage.getTransfer] at ht₂
  rcases transfers_cases h₀ h₁ hst with hsame | ⟨env, c, r, w, rfl, rfl, hok, ⟨t₁, hlocks⟩ |
    ⟨id', t₁, t', hsettles⟩⟩
  · exact absurd ⟨t, by rwa [hsame] at ht₂, hne⟩ hnone
  · -- A new record is pending.
    rw [Net.State.afterEscrow_escrow, hlocks.transfers, Store.lookup_insert_ite] at ht₂
    split_ifs at ht₂
    · rw [← Option.some.inj ht₂, hlocks.record] at hne
      exact absurd rfl hne
    · exact absurd ⟨t, ht₂, hne⟩ hnone
  · have hw := wellFormed_of_getTransfer h₀ h₁ hsettles.stored
    have hkeyed := (hw.records _ _ hsettles.stored).keyed
    rw [Net.State.afterEscrow_escrow, hsettles.transfers, hkeyed, Store.lookup_insert_ite] at ht₂
    split_ifs at ht₂ with hid
    · obtain rfl := Option.some.inj ht₂
      obtain ⟨payments, hsettlement, -⟩ := hsettles.settlement
      exact ⟨ls₁, _, ls₂, s₁, _, t₁, rfl, h₁, hst, hid ▸ hsettles.stored, hsettlement.terms_eq,
        delivered_of_settles hc hw.clear hok hsettles hclaimed, h₂⟩
    · exact absurd ⟨t, ht₂, hne⟩ hnone

/-- **What the record of a claimed transfer says happened.**  In a run from the deployment on in
which the escrow is connected to no other hook and registry, whoever the record says claimed the
transfer did so in time, with the code, and authorised in the region of the corridor; and before
that the sender asked for the transfer, with the terms on record, and the hook admitted it. -/
theorem claimed_history (h₀ : N.Deployed s₀) (h : N.lts.Run s₀ ls s)
    (hls : ∀ l ∈ ls, KeepsPeers N l) (ht : s.escrow.getTransfer id = some t)
    (hclaimed : t.status = .claimed) :
    ∃ ls₁ l₁ ls₂ l₂ ls₃ s₁ s₂ s₃ s₄, ls = ls₁ ++ l₁ :: (ls₂ ++ l₂ :: ls₃) ∧
      N.lts.Run s₀ ls₁ s₁ ∧ N.lts.step s₁ l₁ s₂ ∧ Admitted N t s₁ l₁ s₂ ∧
      N.lts.Run s₂ ls₂ s₃ ∧ N.lts.step s₃ l₂ s₄ ∧ Delivered N t s₃ l₂ ∧ N.lts.Run s₄ ls₃ s := by
  obtain ⟨ls', l₂, ls₃, s₃, s₄, t₁, rfl, h₃, hst₂, ht₁, hterms₁, hdelivered, h₄⟩ :=
    exists_delivered h₀ h hls ht hclaimed
  obtain ⟨ls₁, l₁, ls₂, s₁, s₂, t₂, rfl, h₁, hst₁, hterms₂, hadmitted, h₂⟩ :=
    exists_admitted h₀ h₃ (fun l hl => hls l (List.mem_append_left _ hl)) ht₁
  exact ⟨ls₁, l₁, ls₂, l₂, ls₃, s₁, s₂, s₃, s₄, by simp, h₁, hst₁,
    hadmitted.of_terms (hterms₁.trans hterms₂), h₂, hst₂, hdelivered, h₄⟩

/-! ### Whom the escrow pays -/

/-- The step raises the minimum bond of a region. -/
def RaisesMinimum (s : Net.State) : Net.Label → Prop
  | .registry env c o => Registry.RaisesMinimum (ω := Unit) s.registry (.call env c o)
  | _ => False

theorem bonded_of_run (h₀ : N.Deployed s₀)
    (h : (N.lts.restrict fun s l _ => ¬ RaisesMinimum s l).Run s₀ ls s) :
    Registry.Bonded s.registry := by
  have hblank : Registry.Placed s₀.registry ∧ Registry.Bonded s₀.registry :=
    h₀.registry ▸ ⟨.blank, .blank⟩
  refine (h.invariant (I := fun s => Registry.Placed s.registry ∧ Registry.Bonded s.registry)
    hblank fun s l s' hs hst => ?_).2
  rcases registry_cases hst.1 with hsame | ⟨env, c, o, w, rfl, rfl, hown⟩
  · rw [hsame]
    exact hs
  · exact ⟨hs.1.step hown, hs.2.step hs.1.toKeyed hown hst.2⟩

/-- **Whom the escrow pays has something to lose.**  In a run from the deployment on in which the
escrow is connected to no other hook and registry and no region's minimum bond is raised, an agent
that is paid a transfer has at that moment a bond, of at least the minimum of the region of the
corridor, and the registry holds the tokens for it. -/
theorem claimant_bonded (h₀ : N.Deployed s₀)
    (h : (N.lts.restrict fun s l _ => ¬ RaisesMinimum s l).Run s₀ ls s)
    (hls : ∀ l ∈ ls, KeepsPeers N l) {agent : Address} {reveal : BytesN 32} {ret : Escrow.Ret}
    {payments : List TokenTransfer} {events : List Escrow.Event}
    (hst : N.lts.step s (.escrow env (.claimTransfer agent id reveal)
      (.done ret payments events)) s') :
    ∃ t record region token, s.escrow.getTransfer id = some t ∧
      s.registry.getAgent agent = some record ∧ record.status = .authorized ∧
      s.registry.getCorridorRegion t.corridorId = some record.regionId ∧
      s.registry.getRegion record.regionId = some region ∧ region.active = true ∧
      region.minBond ≤ record.bond ∧ s.registry.bondToken = some token ∧
      record.bond.val ≤ s.ledger.balance token N.registry := by
  have hrun := h.of_restrict
  have hc := connected_of_run h₀ hrun hls
  cases hst with
  | escrow _ hst =>
    obtain ⟨receipt, hok, -⟩ := bind_pure_ok.1 (Contract.invoke_of_step_done hst)
    obtain ⟨-, config, hconfig, t, ht, -, -, -, -, peers, hauth, -⟩ :=
      Escrow.claimTransfer_ok.1 hok
    rw [(hc config hconfig).1, Net.escrowHost_tryIsAuthorizedForCorridor, if_pos rfl] at hauth
    have hauthorized : s.registry.isAuthorizedForCorridor agent t.corridorId = true :=
      TryCall.ok.inj (congrArg Prod.fst hauth)
    obtain ⟨regionId, hcorridor, record, region, hrecord, hstatus, rfl, hregion, hactive⟩ :=
      Registry.authorizedIn_of_corridor hauthorized
    obtain ⟨region', hregion', hbond⟩ := bonded_of_run h₀ h _ _ hrecord hstatus
    obtain rfl := Option.some.inj (hregion.symm.trans hregion')
    cases registry_covered h₀ hrun with
    | blank hblank =>
      simp only [Net.State.registryWorld_store] at hblank
      rw [hblank] at hrecord
      cases hrecord
    | backed hb =>
      obtain ⟨token, htoken⟩ := Option.isSome_iff_exists.1 hb.bondToken
      exact ⟨t, record, region, token, ht, hrecord, hstatus, hcorridor, hregion, hactive, hbond,
        htoken, ((hb.toRecorded.bond_le_bonded hrecord).trans hb.covered).trans
          (hb.funded token htoken)⟩

/-! ### The sample run -/

namespace Testbed

/-- After the agent has claimed the transfer. -/
def claimed : Net.State := net.play deployed script

/-- The record of the transfer at the end. -/
def claimedTransfer : Transfer where
  id := 1
  sender := alice
  amount := 100
  token := usd
  claimHash := claimHash
  corridorId := corridor
  expiry := 1400
  status := .claimed
  createdAt := 1000
  settledAt := 1200
  claimedBy := some agent

theorem claimed_transfer : claimed.escrow.getTransfer 1 = some claimedTransfer := by decide

/-- A call that sets neither of the two addresses. -/
theorem keepsPeers_of_none {env : Env} {c : Escrow.Call}
    {o : Outcome Escrow.Ret Escrow.Event EscrowError} (hregistry : c.agentRegistry = none)
    (hhook : c.complianceHook = none) : KeepsPeers net (.escrow env c o) := by
  cases o <;> simp [KeepsPeers, hregistry, hhook]

theorem script_keepsPeers : ∀ l ∈ net.trace deployed script, KeepsPeers net l :=
  List.forall_iff_forall_mem.1 ⟨trivial, trivial,
    ⟨fun _ h => (Option.some.inj h).symm, fun _ h => (Option.some.inj h).symm⟩, trivial, trivial,
    trivial, trivial, trivial, trivial, trivial, trivial, trivial, keepsPeers_of_none rfl rfl,
    trivial, trivial, keepsPeers_of_none rfl rfl⟩

theorem script_trace : net.trace deployed script =
    net.trace deployed (opening ++ lending) ++ net.trace lent claiming :=
  Net.trace_append _ _ _ _

/-- Before the agent claims the transfer. -/
theorem lent_keepsMinimum : (net.lts.restrict fun s l _ => ¬ RaisesMinimum s l).Run deployed
    (net.trace deployed (opening ++ lending)) lent :=
  (lent_run.restrict_of_labels (Q := fun l => ∀ s, ¬ RaisesMinimum s l)
    (List.forall_iff_forall_mem.1 ⟨fun _ => id, fun _ => id, fun _ => id, fun _ => id, fun _ => id,
      fun _ => id, fun _ => id, fun _ => id, fun _ => id, fun _ => id, fun _ => id, fun _ => id,
      fun _ => id, fun _ => id, fun _ => id⟩)).restrict_mono fun s _ _ hl => hl s

theorem claim_step : net.lts.step lent (.escrow (signedBy agent)
    (.claimTransfer agent 1 code)
      (.done (.receipt ⟨1, agent, 100, 1, 99, 1200⟩)
        [⟨usd, ⟨10⟩, agent, 99⟩, ⟨usd, ⟨10⟩, treasury, 1⟩]
        [.transferClaimed 1 agent corridor 100 1 99])) claimed :=
  .escrow (Net.unsigned_of_all rfl) (Contract.step_done rfl rfl rfl rfl)

end Testbed

theorem claimed_history_sample : ∃ l s s', Testbed.net.lts.step s l s' ∧
    Admitted Testbed.net Testbed.claimedTransfer s l s' := by
  obtain ⟨ls₁, l₁, ls₂, l₂, ls₃, s₁, s₂, s₃, s₄, -, -, hst, hadmitted, -⟩ :=
    claimed_history Testbed.deployed_deployed Testbed.script_run Testbed.script_keepsPeers
      Testbed.claimed_transfer rfl
  exact ⟨l₁, s₁, s₂, hst, hadmitted⟩

theorem claimant_bonded_sample : ∃ record token,
    Testbed.lent.registry.getAgent Testbed.agent = some record ∧
    record.bond.val ≤ Testbed.lent.ledger.balance token ⟨12⟩ := by
  obtain ⟨t, record, region, token, -, hrecord, -, -, -, -, -, -, hle⟩ :=
    claimant_bonded Testbed.deployed_deployed Testbed.lent_keepsMinimum
      (fun l hl => Testbed.script_keepsPeers l (Testbed.script_trace ▸ List.mem_append_left _ hl))
      Testbed.claim_step
  exact ⟨record, token, hrecord, hle⟩

end Network

end RemitBridge
