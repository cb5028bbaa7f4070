import RemitBridge.Escrow.Contract

/-!
# What each entry point of the escrow does

For every entry point that touches a transfer, one lemma says exactly when it succeeds and what
world it leaves (`createTransfer_ok`, `cancelTransfer_ok`, `claimTransfer_ok`,
`refundExpired_ok`).  `invoke_cases` sums them up: a successful invocation leaves the transfers
and the balances alone, or locks one new transfer, or settles one pending transfer.
-/

namespace RemitBridge

namespace Escrow

open Exec

variable {ω : Type} {H : Host ω} {env : Env} {w w' : World ω}

/-! ### Helpers -/

section Helpers

variable {α : Type} {r : α × World ω}

@[simp] theorem getAdmin_bind_ok {f : Address → Exec (World ω) EscrowError α} :
    (getAdmin >>= f) w = .ok r ↔ ∃ a, w.store.admin = some a ∧ f a w = .ok r := by
  simp only [getAdmin, bind_assoc, read_bind, okOr_bind_ok]

@[simp] theorem getConfig_bind_ok {f : EscrowConfig → Exec (World ω) EscrowError α} :
    (getConfig >>= f) w = .ok r ↔ ∃ c, w.store.config = some c ∧ f c w = .ok r := by
  simp only [getConfig, bind_assoc, read_bind, okOr_bind_ok]

@[simp] theorem loadTransfer_bind_ok {id : U64} {f : Transfer → Exec (World ω) EscrowError α} :
    (loadTransfer id >>= f) w = .ok r ↔ ∃ t, w.store.getTransfer id = some t ∧ f t w = .ok r := by
  simp only [loadTransfer, bind_assoc, read_bind, okOr_bind_ok]

@[simp] theorem requireAdmin_bind_ok {f : Address → Exec (World ω) EscrowError α} :
    (requireAdmin env >>= f) w = .ok r ↔
      ∃ a, w.store.admin = some a ∧ env.signed a = true ∧ f a w = .ok r := by
  simp only [requireAdmin, bind_assoc, getAdmin_bind_ok, requireAuth_bind_ok, pure_bind_apply]

@[simp] theorem setAdminEntry_bind {a : Address} {f : Unit → Exec (World ω) EscrowError α} :
    (setAdminEntry a >>= f) w = f () { w with store := w.store.putAdmin a } := rfl

@[simp] theorem setConfig_bind {c : EscrowConfig} {f : Unit → Exec (World ω) EscrowError α} :
    (setConfig c >>= f) w = f () { w with store := w.store.putConfig c } := rfl

@[simp] theorem setStats_bind {s : EscrowStats} {f : Unit → Exec (World ω) EscrowError α} :
    (setStats s >>= f) w = f () { w with store := w.store.putStats s } := rfl

@[simp] theorem setTransfer_bind {t : Transfer} {f : Unit → Exec (World ω) EscrowError α} :
    (setTransfer t >>= f) w = f () { w with store := w.store.putTransfer t } := rfl

@[simp] theorem pushSenderTransfer_bind {a : Address} {id : U64}
    {f : Unit → Exec (World ω) EscrowError α} :
    (pushSenderTransfer a id >>= f) w = f () { w with store := w.store.putSenderTransfer a id } :=
  rfl

@[simp] theorem nextId_bind_ok {f : U64 → Exec (World ω) EscrowError α} :
    (nextId >>= f) w = .ok r ↔ ∃ n : U64, n.val = w.store.transferCount.val + 1 ∧
      f n { w with store := w.store.putNextId n } = .ok r := by
  simp only [nextId, bind_assoc, read_bind, orTrap_bind_ok, write_bind, pure_bind_apply,
    MachineInt.checkedAdd_eq_some, U64.one_val]

@[simp] theorem release_bind_ok {t : Transfer} {dest : Address} {status : TransferStatus}
    {f : Transfer → Exec (World ω) EscrowError α} :
    (release H env t dest status >>= f) w = .ok r ↔
      (0 ≤ t.amount.val ∧ t.amount.val ≤ w.ledger.balance t.token H.self) ∧
      env.accepts ⟨t.token, H.self, dest, t.amount⟩ = true ∧
      f (t.settle status w.ledger.timestamp t.claimedBy)
        { w with
          store := w.store.putTransfer (t.settle status w.ledger.timestamp t.claimedBy)
          ledger := w.ledger.move ⟨t.token, H.self, dest, t.amount⟩ } = .ok r := by
  simp only [release, bind_assoc, transferToken_bind_ok, timestamp_bind, setTransfer_bind,
    pure_bind_apply, true_or, true_and, Ledger.move_timestamp]

@[simp] theorem commitVolume_bind_ok {hook sender : Address} {amount : I128} {corridor : Symbol}
    {f : Unit → Exec (World ω) EscrowError α} :
    (commitVolume H env hook sender amount corridor >>= f) w = .ok r ↔
      ∃ total peers, H.tryCommitTransfer hook (env.invokedBy H.self) w.ledger.timestamp sender
        amount corridor w.peers = (.ok total, peers) ∧ f () { w with peers } = .ok r := by
  simp only [commitVolume, bind_assoc, timestamp_bind, callPeers_bind]
  obtain ⟨answer, peers⟩ := H.tryCommitTransfer hook (env.invokedBy H.self) w.ledger.timestamp
    sender amount corridor w.peers
  cases answer <;> simp

@[simp] theorem checkAgent_bind_ok {registry agent : Address} {corridor : Symbol}
    {f : Unit → Exec (World ω) EscrowError α} :
    (checkAgent H env registry agent corridor >>= f) w = .ok r ↔
      ∃ peers, H.tryIsAuthorizedForCorridor registry (env.invokedBy H.self) w.ledger.timestamp
        agent corridor w.peers = (.ok true, peers) ∧ f () { w with peers } = .ok r := by
  simp only [checkAgent, bind_assoc, timestamp_bind, callPeers_bind]
  obtain ⟨answer, peers⟩ := H.tryIsAuthorizedForCorridor registry (env.invokedBy H.self)
    w.ledger.timestamp agent corridor w.peers
  rcases answer with ((_ | _) | _ | _ | _) <;> simp

end Helpers

/-- The fee's transfer to the treasury: none if there is no fee. -/
def feeTransfers (H : Host ω) (token treasury : Address) (fee : I128) : List TokenTransfer :=
  if 0 < fee.val then [⟨token, H.self, treasury, fee⟩] else []

@[simp] theorem payFee_bind_ok {α : Type} {r : α × World ω} {token treasury : Address}
    {fee : I128} {f : Unit → Exec (World ω) EscrowError α} :
    (payFee H env token treasury fee >>= f) w = .ok r ↔
      (0 < fee.val → fee.val ≤ w.ledger.balance token H.self ∧
        env.accepts ⟨token, H.self, treasury, fee⟩ = true) ∧
      f () { w with ledger := w.ledger.apply (feeTransfers H token treasury fee) } = .ok r := by
  unfold payFee feeTransfers
  split_ifs with h
  · simp [bind_assoc, h, h.le, and_assoc]
  · simp [h]

/-! ### The fee -/

theorem feeFor_eq_some {amount fee : I128} {feeBps : U32} (h : 0 ≤ amount.val) :
    feeFor amount feeBps = some fee ↔ amount.val * feeBps.val ≤ 2 ^ 127 - 1 ∧
      fee.val = amount.val * feeBps.val / 10000 :=
  MachineInt.mulDiv_eq_some h feeBps.val_nonneg (by decide)

theorem feeFor_nonneg {amount fee : I128} {feeBps : U32} (h : 0 ≤ amount.val)
    (hf : feeFor amount feeBps = some fee) : 0 ≤ fee.val := by
  rw [(feeFor_eq_some h |>.1 hf).2]
  exact Int.ediv_nonneg (Int.mul_nonneg h feeBps.val_nonneg) (by decide)

/-- The fee is within the ceiling whenever the configured rate is. -/
theorem feeFor_le {amount fee : I128} {feeBps : U32} (h : 0 ≤ amount.val)
    (hbps : feeBps ≤ maxFeeBps) (hf : feeFor amount feeBps = some fee) :
    fee.val ≤ amount.val * 500 / 10000 := by
  rw [(feeFor_eq_some h |>.1 hf).2]
  have hb : feeBps.val ≤ 500 := hbps
  exact Int.ediv_le_ediv (by decide) (Int.mul_le_mul_of_nonneg_left hb h)

/-! ### The entry points that touch a transfer -/

/-- **Creating a transfer.** -/
theorem createTransfer_ok {sender token : Address} {amount : I128} {claimHash : BytesN 32}
    {corridorId : Symbol} {expiry id : U64} :
    createTransfer H env sender amount token claimHash corridorId expiry w = .ok (id, w') ↔
      env.signed sender = true ∧ ∃ config, w.store.config = some config ∧
      config.paused = false ∧ 0 < amount.val ∧ w.ledger.timestamp < expiry ∧
      ∃ window : U64, window.val = expiry.val - w.ledger.timestamp.val ∧
      window ≤ config.maxExpirySecs ∧
      ∃ total peers, H.tryCommitTransfer config.complianceHook (env.invokedBy H.self)
        w.ledger.timestamp sender amount corridorId w.peers = (.ok total, peers) ∧
      (0 ≤ amount.val ∧ amount.val ≤ w.ledger.balance token sender) ∧
      env.accepts ⟨token, sender, H.self, amount⟩ = true ∧
      id.val = w.store.transferCount.val + 1 ∧
      ∃ volumeLocked : I128, volumeLocked.val = w.store.getStats.volumeLocked.val + amount.val ∧
      w' =
        { store := (((w.store.putNextId id).putTransfer (.lock id sender amount token claimHash
            corridorId expiry w.ledger.timestamp)).putSenderTransfer sender id).putStats
              { w.store.getStats with
                created := w.store.getStats.created.saturatingAdd 1, volumeLocked }
          ledger := w.ledger.move ⟨token, sender, H.self, amount⟩
          events := w.events ++
            [.transferCreated id sender amount token corridorId claimHash expiry]
          peers } := by
  unfold createTransfer
  rw [requireAuth_bind_ok]
  refine and_congr_right fun hs => ?_
  simp [hs, MachineInt.checkedSub_eq_some, MachineInt.checkedAdd_eq_some]
  exact Iff.rfl

/-- **Cancelling a transfer.** -/
theorem cancelTransfer_ok {sender : Address} {id : U64} {u : Unit} :
    cancelTransfer H env sender id w = .ok (u, w') ↔
      env.signed sender = true ∧ ∃ t, w.store.getTransfer id = some t ∧ t.sender = sender ∧
      t.status = .pending ∧
      (0 ≤ t.amount.val ∧ t.amount.val ≤ w.ledger.balance t.token H.self) ∧
      env.accepts ⟨t.token, H.self, t.sender, t.amount⟩ = true ∧
      ∃ volumeLocked : I128, volumeLocked.val = w.store.getStats.volumeLocked.val - t.amount.val ∧
      w' =
        { store := (w.store.putTransfer
            (t.settle .cancelled w.ledger.timestamp t.claimedBy)).putStats
              { w.store.getStats with
                cancelled := w.store.getStats.cancelled.saturatingAdd 1, volumeLocked }
          ledger := w.ledger.move ⟨t.token, H.self, t.sender, t.amount⟩
          events := w.events ++ [.transferCancelled id t.sender t.amount t.corridorId]
          peers := w.peers } := by
  unfold cancelTransfer
  simp [MachineInt.checkedSub_eq_some]
  exact fun _ => Iff.rfl

/-- **Claiming a transfer.** -/
theorem claimTransfer_ok {agent : Address} {id : U64} {reveal : BytesN 32}
    {receipt : ClaimReceipt} :
    claimTransfer H env agent id reveal w = .ok (receipt, w') ↔
      env.signed agent = true ∧ ∃ config, w.store.config = some config ∧
      ∃ t, w.store.getTransfer id = some t ∧ t.status = .pending ∧
      w.ledger.timestamp ≤ t.expiry ∧ t.sender ≠ agent ∧ H.sha256 reveal.bytes = t.claimHash ∧
      ∃ peers, H.tryIsAuthorizedForCorridor config.agentRegistry (env.invokedBy H.self)
        w.ledger.timestamp agent t.corridorId w.peers = (.ok true, peers) ∧
      ∃ fee, feeFor t.amount config.feeBps = some fee ∧
      ∃ payout : I128, payout.val = t.amount.val - fee.val ∧
      (0 ≤ payout.val ∧ payout.val ≤ w.ledger.balance t.token H.self) ∧
      env.accepts ⟨t.token, H.self, agent, payout⟩ = true ∧
      (0 < fee.val →
        fee.val ≤ (w.ledger.move ⟨t.token, H.self, agent, payout⟩).balance t.token H.self ∧
        env.accepts ⟨t.token, H.self, config.treasury, fee⟩ = true) ∧
      ∃ volumeLocked : I128, volumeLocked.val = w.store.getStats.volumeLocked.val - t.amount.val ∧
      ∃ volumeSettled : I128,
        volumeSettled.val = w.store.getStats.volumeSettled.val + t.amount.val ∧
      ∃ feesCollected : I128, feesCollected.val = w.store.getStats.feesCollected.val + fee.val ∧
      receipt = ⟨id, agent, t.amount, fee, payout, w.ledger.timestamp⟩ ∧
      w' =
        { store := (w.store.putTransfer
            (t.settle .claimed w.ledger.timestamp (some agent))).putStats
              { w.store.getStats with
                claimed := w.store.getStats.claimed.saturatingAdd 1
                volumeLocked, volumeSettled, feesCollected }
          ledger := (w.ledger.move ⟨t.token, H.self, agent, payout⟩).apply
            (feeTransfers H t.token config.treasury fee)
          events := w.events ++ [.transferClaimed id agent t.corridorId t.amount fee payout]
          peers } := by
  unfold claimTransfer
  simp [MachineInt.checkedSub_eq_some, MachineInt.checkedAdd_eq_some]
  exact fun _ => Iff.rfl

/-- **Refunding an expired transfer.** -/
theorem refundExpired_ok {id : U64} {u : Unit} :
    refundExpired H env id w = .ok (u, w') ↔
      ∃ t, w.store.getTransfer id = some t ∧ t.status = .pending ∧
      t.expiry < w.ledger.timestamp ∧
      (0 ≤ t.amount.val ∧ t.amount.val ≤ w.ledger.balance t.token H.self) ∧
      env.accepts ⟨t.token, H.self, t.sender, t.amount⟩ = true ∧
      ∃ volumeLocked : I128, volumeLocked.val = w.store.getStats.volumeLocked.val - t.amount.val ∧
      w' =
        { store := (w.store.putTransfer
            (t.settle .refunded w.ledger.timestamp t.claimedBy)).putStats
              { w.store.getStats with
                refunded := w.store.getStats.refunded.saturatingAdd 1, volumeLocked }
          ledger := w.ledger.move ⟨t.token, H.self, t.sender, t.amount⟩
          events := w.events ++ [.transferRefunded id t.sender t.amount t.corridorId]
          peers := w.peers } := by
  unfold refundExpired
  simp [MachineInt.checkedSub_eq_some]
  exact Iff.rfl

/-! ### What an invocation can do -/

/-- The invocation changes the configuration at most: it keeps the transfers, the counters and
the ledger, and what it changes of the configuration is what it was asked to. -/
structure Configures (c : Call) (w w' : World ω) : Prop where
  transfers : w'.store.transfers = w.store.transfers
  transferCount : w'.store.transferCount = w.store.transferCount
  stats : w'.store.getStats = w.store.getStats
  ledger : w'.ledger = w.ledger
  peers : w'.peers = w.peers
  admin : w'.store.admin.isSome
  settles : c.settles = none
  creates : c.creates = false
  config : ∀ config, w.store.config = some config → ∃ config', w'.store.config = some config' ∧
    (config'.feeBps = config.feeBps ∨ config'.feeBps ≤ maxFeeBps) ∧
    (config'.treasury = config.treasury ∨ c = .setTreasury config'.treasury) ∧
    (config'.complianceHook = config.complianceHook ∨ c = .setComplianceHook config'.complianceHook)

/-- The invocation creates the transfer `t` and locks its amount. -/
structure Locks (H : Host ω) (env : Env) (c : Call) (ret : Ret) (t : Transfer) (w w' : World ω) :
    Prop where
  call : c = .createTransfer t.sender t.amount t.token t.claimHash t.corridorId t.expiry
  ret : ret = .id t.id
  record : t = .lock t.id t.sender t.amount t.token t.claimHash t.corridorId t.expiry
    w.ledger.timestamp
  signed : env.signed t.sender = true
  positive : 0 < t.amount.val
  id : t.id.val = w.store.transferCount.val + 1
  commit : ∃ config total, w.store.config = some config ∧
    H.tryCommitTransfer config.complianceHook (env.invokedBy H.self) w.ledger.timestamp t.sender
      t.amount t.corridorId w.peers = (.ok total, w'.peers)
  transfers : w'.store.transfers = w.store.transfers.insert t.id t
  transferCount : w'.store.transferCount = t.id
  config : w'.store.config = w.store.config
  admin : w'.store.admin = w.store.admin
  volumeLocked : w'.store.getStats.volumeLocked.val =
    w.store.getStats.volumeLocked.val + t.amount.val
  ledger : w'.ledger = w.ledger.move ⟨t.token, t.sender, H.self, t.amount⟩

/-- The three ways in which a pending transfer `t`, called by its `id`, is settled: the record
that results, the payments made, and the state of the peers afterwards. -/
inductive Settlement (H : Host ω) (env : Env) (id : U64) (t : Transfer) (w : World ω) :
    Call → Transfer → List TokenTransfer → ω → Prop
  /-- To an authorised agent who knows the code, until the expiry. -/
  | claimed {agent : Address} {reveal : BytesN 32} {config : EscrowConfig} {fee payout : I128}
      {peers : ω} : env.signed agent = true → w.store.config = some config →
      w.ledger.timestamp ≤ t.expiry → t.sender ≠ agent → H.sha256 reveal.bytes = t.claimHash →
      H.tryIsAuthorizedForCorridor config.agentRegistry (env.invokedBy H.self) w.ledger.timestamp
        agent t.corridorId w.peers = (.ok true, peers) →
      feeFor t.amount config.feeBps = some fee → payout.val = t.amount.val - fee.val →
      Settlement H env id t w (.claimTransfer agent id reveal)
        (t.settle .claimed w.ledger.timestamp (some agent))
        (⟨t.token, H.self, agent, payout⟩ :: feeTransfers H t.token config.treasury fee) peers
  /-- Back to the sender, who asks for it. -/
  | cancelled : env.signed t.sender = true →
      Settlement H env id t w (.cancelTransfer t.sender id)
        (t.settle .cancelled w.ledger.timestamp t.claimedBy)
        [⟨t.token, H.self, t.sender, t.amount⟩] w.peers
  /-- Back to the sender, after the expiry. -/
  | refunded : t.expiry < w.ledger.timestamp →
      Settlement H env id t w (.refundExpired id)
        (t.settle .refunded w.ledger.timestamp t.claimedBy)
        [⟨t.token, H.self, t.sender, t.amount⟩] w.peers

/-- The invocation settles the transfer `t`, which becomes `t'`. -/
structure Settles (H : Host ω) (env : Env) (c : Call) (id : U64) (t t' : Transfer)
    (w w' : World ω) : Prop where
  stored : w.store.transfers.lookup id = some t
  pending : t.status = .pending
  settlement : ∃ payments, Settlement H env id t w c t' payments w'.peers ∧
    w'.ledger = w.ledger.apply payments
  transfers : w'.store.transfers = w.store.transfers.insert t.id t'
  transferCount : w'.store.transferCount = w.store.transferCount
  config : w'.store.config = w.store.config
  admin : w'.store.admin = w.store.admin
  volumeLocked : w'.store.getStats.volumeLocked.val =
    w.store.getStats.volumeLocked.val - t.amount.val

section

variable {c : Call}

/-- What an administrative call, or a read, does: nothing, or it writes the first administrator and
configuration, or another one of them, and reports it. -/
inductive Administers (c : Call) (w : World ω) : World ω → Prop
  | reads : Administers c w w
  | first {store : Storage} : w.store.admin = none → Administers c w { w with store }
  | admin {previous a : Address} : c = .setAdmin a → Administers c w { w with
      store := w.store.putAdmin a
      events := w.events ++ [.adminChanged previous a] }
  | configured {config config' : EscrowConfig} {tag : Symbol} :
      w.store.config = some config → config'.treasury = config.treasury →
      config'.complianceHook = config.complianceHook →
      (config'.feeBps = config.feeBps ∨
        c = .setFeeBps config'.feeBps ∧ config'.feeBps ≤ maxFeeBps) →
      Administers c w { w with
        store := w.store.putConfig config'
        events := w.events ++
          [.configUpdated tag config'.feeBps config'.paused config'.maxExpirySecs] }
  | wired {config config' : EscrowConfig} {tag : Symbol} {a : Address} :
      w.store.config = some config → config'.feeBps = config.feeBps →
      (config'.treasury = config.treasury ∨ c = .setTreasury config'.treasury) →
      (config'.complianceHook = config.complianceHook ∨
        c = .setComplianceHook config'.complianceHook) →
      Administers c w { w with
        store := w.store.putConfig config'
        events := w.events ++ [.wiringUpdated tag a] }

theorem administers_of_invoke {r : Ret} (hs : c.settles = none) (hc : c.creates = false)
    (h : invoke H env c w = .ok (r, w')) : Administers c w w' := by
  cases c with
  | createTransfer => cases hc
  | cancelTransfer => cases hs
  | claimTransfer => cases hs
  | refundExpired => cases hs
  | initializeContract =>
    simp [invoke, initializeContract, bind_assoc] at h
    obtain ⟨hadmin, -, -, -, rfl⟩ := h
    exact .first hadmin
  | setAdmin =>
    simp [invoke, setAdmin, bind_assoc] at h
    obtain ⟨previous, -, -, -, rfl⟩ := h
    exact .admin rfl
  | setFeeBps =>
    simp [invoke, setFeeBps, bind_assoc] at h
    obtain ⟨-, -, -, hfee, config, hconfig, -, rfl⟩ := h
    exact .configured hconfig rfl rfl (.inr ⟨rfl, hfee⟩)
  | setTreasury =>
    simp [invoke, setTreasury, bind_assoc] at h
    obtain ⟨-, -, -, config, hconfig, -, rfl⟩ := h
    exact .wired hconfig rfl (.inr rfl) (.inl rfl)
  | setAgentRegistry =>
    simp [invoke, setAgentRegistry, bind_assoc] at h
    obtain ⟨-, -, -, config, hconfig, -, rfl⟩ := h
    exact .wired hconfig rfl (.inl rfl) (.inl rfl)
  | setComplianceHook =>
    simp [invoke, setComplianceHook, bind_assoc] at h
    obtain ⟨-, -, -, config, hconfig, -, rfl⟩ := h
    exact .wired hconfig rfl (.inl rfl) (.inr rfl)
  | setMaxExpiry =>
    simp [invoke, setMaxExpiry, bind_assoc] at h
    obtain ⟨-, -, -, -, config, hconfig, -, rfl⟩ := h
    exact .configured hconfig rfl rfl (.inl rfl)
  | setPaused =>
    simp [invoke, setPaused, bind_assoc] at h
    obtain ⟨-, -, -, config, hconfig, -, rfl⟩ := h
    exact .configured hconfig rfl rfl (.inl rfl)
  | quoteClaim =>
    simp [invoke, quoteClaim, bind_assoc] at h
    obtain ⟨-, -, -, -, -, -, -, -, -, -, rfl⟩ := h
    exact .reads

/-- With an administrator, the configuration is changed at most. -/
theorem Administers.configures (h : Administers c w w') (ha : w.store.admin.isSome)
    (hs : c.settles = none) (hc : c.creates = false) : Configures c w w' := by
  cases h with
  | reads =>
    exact ⟨rfl, rfl, rfl, rfl, rfl, ha, hs, hc, fun config h =>
      ⟨config, h, .inl rfl, .inl rfl, .inl rfl⟩⟩
  | first hnone =>
    rw [hnone] at ha
    cases ha
  | admin =>
    exact ⟨rfl, rfl, rfl, rfl, rfl, rfl, hs, hc, fun config h =>
      ⟨config, h, .inl rfl, .inl rfl, .inl rfl⟩⟩
  | @configured config config' _ hconfig htreasury hhook hfee =>
    refine ⟨rfl, rfl, rfl, rfl, rfl, ha, hs, hc, fun config₀ h₀ => ?_⟩
    obtain rfl : config = config₀ := Option.some.inj (hconfig.symm.trans h₀)
    exact ⟨config', rfl, hfee.imp_right And.right, .inl htreasury, .inl hhook⟩
  | @wired config config' _ _ hconfig hfee htreasury hhook =>
    refine ⟨rfl, rfl, rfl, rfl, rfl, ha, hs, hc, fun config₀ h₀ => ?_⟩
    obtain rfl : config = config₀ := Option.some.inj (hconfig.symm.trans h₀)
    exact ⟨config', rfl, .inl hfee, htreasury, hhook⟩

theorem locks_of_createTransfer {sender token : Address} {amount : I128} {claimHash : BytesN 32}
    {corridorId : Symbol} {expiry id : U64}
    (h : createTransfer H env sender amount token claimHash corridorId expiry w = .ok (id, w')) :
    Locks H env (.createTransfer sender amount token claimHash corridorId expiry) (.id id)
      (.lock id sender amount token claimHash corridorId expiry w.ledger.timestamp) w w' := by
  obtain ⟨hs, config, hconfig, -, hpos, -, window, -, -, total, peers, hcommit, -, -, hid, volume,
    hvolume, rfl⟩ := createTransfer_ok.1 h
  exact ⟨rfl, rfl, rfl, hs, hpos, hid, ⟨config, total, hconfig, hcommit⟩, rfl, rfl, rfl, rfl,
    hvolume, rfl⟩

theorem settles_of_cancelTransfer {sender : Address} {id : U64} {u : Unit}
    (h : cancelTransfer H env sender id w = .ok (u, w')) :
    ∃ t t', Settles H env (.cancelTransfer sender id) id t t' w w' := by
  obtain ⟨hs, t, ht, rfl, hp, -, -, volume, hvolume, rfl⟩ := cancelTransfer_ok.1 h
  exact ⟨t, _, ht, hp, ⟨_, .cancelled hs, rfl⟩, rfl, rfl, rfl, rfl, hvolume⟩

theorem settles_of_refundExpired {id : U64} {u : Unit}
    (h : refundExpired H env id w = .ok (u, w')) :
    ∃ t t', Settles H env (.refundExpired id) id t t' w w' := by
  obtain ⟨t, ht, hp, hexp, -, -, volume, hvolume, rfl⟩ := refundExpired_ok.1 h
  exact ⟨t, _, ht, hp, ⟨_, .refunded hexp, rfl⟩, rfl, rfl, rfl, rfl, hvolume⟩

theorem settles_of_claimTransfer {agent : Address} {id : U64} {reveal : BytesN 32}
    {receipt : ClaimReceipt} (h : claimTransfer H env agent id reveal w = .ok (receipt, w')) :
    ∃ t t', Settles H env (.claimTransfer agent id reveal) id t t' w w' := by
  obtain ⟨hs, config, hconfig, t, ht, hp, hexp, hne, hhash, peers, hauth, fee, hfee, payout,
    hpayout, -, -, -, volume, hvolume, settled, -, fees, -, -, rfl⟩ := claimTransfer_ok.1 h
  exact ⟨t, _, ht, hp, ⟨_, .claimed hs hconfig hexp hne hhash hauth hfee hpayout, rfl⟩, rfl, rfl,
    rfl, rfl, hvolume⟩

/-- **What an invocation can do.**  Once the escrow is initialised, a successful invocation
configures, locks or settles. -/
theorem invoke_cases {r : Ret} (ha : w.store.admin.isSome) (h : invoke H env c w = .ok (r, w')) :
    Configures c w w' ∨ (∃ t, Locks H env c r t w w') ∨
      ∃ id t t', Settles H env c id t t' w w' := by
  cases c with
  | createTransfer =>
    obtain ⟨id, h₁, rfl⟩ := bind_pure_ok.1 h
    exact .inr (.inl ⟨_, locks_of_createTransfer h₁⟩)
  | cancelTransfer =>
    obtain ⟨u, h₁, rfl⟩ := bind_pure_ok.1 h
    exact .inr (.inr ⟨_, settles_of_cancelTransfer h₁⟩)
  | claimTransfer =>
    obtain ⟨receipt, h₁, rfl⟩ := bind_pure_ok.1 h
    exact .inr (.inr ⟨_, settles_of_claimTransfer h₁⟩)
  | refundExpired =>
    obtain ⟨u, h₁, rfl⟩ := bind_pure_ok.1 h
    exact .inr (.inr ⟨_, settles_of_refundExpired h₁⟩)
  | _ => exact .inl ((administers_of_invoke rfl rfl h).configures ha rfl rfl)

end

end Escrow

end RemitBridge
