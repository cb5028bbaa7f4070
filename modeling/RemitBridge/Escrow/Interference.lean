import RemitBridge.Escrow.Solvency
import RemitBridge.Transition.Unwinding

/-!
# The administrator cannot touch locked funds

What shows of the escrow to somebody with a transfer in it is its vault: the transfers, how many
there are, the escrow's balances and the clock.  The vault moves by creations, settlements,
donations and new ledgers, and by nothing else; what the administrator does is hidden from it
(`observation`).  It follows that two continuations of one state that show the same deeds end with
the same vault, whatever the administrator did in between (`admin_noninterference`).

## Main definitions

* `Vault`, `vaultLts` : the vault and its moves.
* `Deed`, `deed` : what shows of a step.
* `SameButSplit` : two steps that differ in how a claim divides the amount at most.

## Main results

* `outcome_refundExpired`, `outcome_cancelTransfer` : what refunding or cancelling a pending
  transfer comes to, read off its record and the clock.
* `admin_noninterference` : the two-run theorem.
-/

namespace RemitBridge

namespace Escrow

open TransitionSystem Exec

variable {ω : Type} {H : Host ω} {w₀ w w' w₁ w₂ : World ω} {l : Label ω} {ls : List (Label ω)}
  {env : Env} {c : Call} {r : Ret}

/-! ### The vault -/

/-- The part of the escrow that belongs to its users. -/
@[ext] structure Vault where
  transfers : Store U64 Transfer
  transferCount : U64
  timestamp : U64
  /-- What the escrow holds of each token. -/
  balance : Address → ℤ

def vault (H : Host ω) (w : World ω) : Vault where
  transfers := w.store.transfers
  transferCount := w.store.transferCount
  timestamp := w.ledger.timestamp
  balance a := w.ledger.balance a H.self

/-- What moves the vault. -/
inductive Deed where
  /-- A successful creation or settlement. -/
  | call (c : Call)
  | tick (t : U64)
  | donate (token : Address) (amount : ℤ)
  deriving DecidableEq

/-- What shows of a step.  Administration, reads, failed calls and what others do are hidden. -/
def deed : Label ω → Option Deed
  | .call _ c (.done ..) =>
    if c.creates = true ∨ c.settles.isSome = true then some (.call c) else none
  | .call _ _ (.reverted _) => none
  | .tick t => some (.tick t)
  | .external .. => none
  | .donate token amount => some (.donate token amount)

/-- The record of the transfer `t` once the call has settled it. -/
def Call.settled (t : Transfer) (now : U64) : Call → Transfer
  | claimTransfer agent .. => t.settle .claimed now (some agent)
  | cancelTransfer .. => t.settle .cancelled now t.claimedBy
  | refundExpired _ => t.settle .refunded now t.claimedBy
  | _ => t

/-- The moves of the vault. -/
inductive Vault.Step : Vault → Deed → Vault → Prop
  | create {v : Vault} {sender token : Address} {amount : I128} {claimHash : BytesN 32}
      {corridorId : Symbol} {expiry id : U64} : id.val = v.transferCount.val + 1 →
      Step v (.call (.createTransfer sender amount token claimHash corridorId expiry))
        { v with
          transfers := v.transfers.insert id
            (.lock id sender amount token claimHash corridorId expiry v.timestamp)
          transferCount := id
          balance := fun a => v.balance a + if token = a then amount.val else 0 }
  | settle {v : Vault} {c : Call} {id : U64} {t : Transfer} : c.settles = some id →
      v.transfers.lookup id = some t →
      Step v (.call c)
        { v with
          transfers := v.transfers.insert id (c.settled t v.timestamp)
          balance := fun a => v.balance a - if t.token = a then t.amount.val else 0 }
  | tick {v : Vault} {t : U64} : Step v (.tick t) { v with timestamp := t }
  | donate {v : Vault} {token : Address} {amount : ℤ} :
      Step v (.donate token amount)
        { v with balance := fun a => v.balance a + if token = a then amount else 0 }

def vaultLts : TransitionSystem Vault Deed := ⟨Vault.Step⟩

/-- The vault has no choice: a deed leads to one vault. -/
theorem vault_deterministic : vaultLts.Deterministic := by
  intro v d v₁ v₂ h₁ h₂
  cases h₁ with
  | create hid =>
    cases h₂ with
    | create hid' =>
      obtain rfl := MachineInt.ext (hid.trans hid'.symm)
      rfl
    | settle hc => cases hc
  | settle hc ht =>
    cases h₂ with
    | create => cases hc
    | settle hc' ht' =>
      obtain rfl := Option.some.inj (hc.symm.trans hc')
      obtain rfl := Option.some.inj (ht.symm.trans ht')
      rfl
  | tick => cases h₂; rfl
  | donate => cases h₂; rfl

/-! ### What shows of a step -/

theorem deed_of_configures {o : Outcome Ret Event EscrowError} (h : Configures c w w') :
    deed (.call (ω := ω) env c o) = none := by
  cases o with
  | done => simp [deed, h.settles, h.creates]
  | reverted => rfl

theorem Settlement.settled_eq {id : U64} {t t' : Transfer} {payments : List TokenTransfer}
    {peers : ω} (h : Settlement H env id t w c t' payments peers) :
    t' = c.settled t w.ledger.timestamp := by
  cases h <;> rfl

/-- Creating a transfer moves the vault. -/
theorem Locks.vault_step {t : Transfer} (hs : env.signed H.self = false)
    (h : Locks H env c r t w w') : Vault.Step (vault H w) (.call c) (vault H w') := by
  have hne : H.self ≠ t.sender := Env.ne_of_signed hs h.signed
  have hvault : vault H w' =
      { vault H w with
        transfers := w.store.transfers.insert t.id (.lock t.id t.sender t.amount t.token
          t.claimHash t.corridorId t.expiry w.ledger.timestamp)
        transferCount := t.id
        balance := fun a => w.ledger.balance a H.self +
          if t.token = a then t.amount.val else 0 } := by
    ext1
    · exact h.transfers.trans (congrArg (w.store.transfers.insert t.id) h.record)
    · exact h.transferCount
    · change w'.ledger.timestamp = _
      rw [h.ledger]
      rfl
    · funext a
      change w'.ledger.balance a H.self = _
      rw [h.ledger, Ledger.move_balance, netFlow_cons]
      simp [hne, eq_comm]
  rw [h.call, hvault]
  exact .create h.id

/-- Settling a transfer moves the vault, unless the escrow keeps the fee. -/
theorem Settles.vault_step {id : U64} {t t' : Transfer} (hw : WellFormed H w)
    (hapart : TreasuryApart H w.store) (hs : env.signed H.self = false)
    (h : Settles H env c id t t' w w') : Vault.Step (vault H w) (.call c) (vault H w') := by
  obtain ⟨payments, hsettlement, hledger⟩ := h.settlement
  have hsound := hw.records _ _ h.stored
  have hvault : vault H w' =
      { vault H w with
        transfers := w.store.transfers.insert id (c.settled t w.ledger.timestamp)
        balance := fun a => w.ledger.balance a H.self -
          if t.token = a then t.amount.val else 0 } := by
    ext1
    · change w'.store.transfers = _
      rw [h.transfers, hsound.keyed, hsettlement.settled_eq]
    · exact h.transferCount
    · change w'.ledger.timestamp = _
      rw [hledger, Ledger.apply_timestamp]
      rfl
    · funext a
      obtain ⟨kept, -, hkept, hflow⟩ :=
        hsettlement.netFlow_eq hsound.positive hs hsound.sender a
      change w'.ledger.balance a H.self = _
      rw [hledger, Ledger.apply_balance, hflow, hkept hapart]
      dsimp only
      omega
  rw [hvault]
  exact .settle hsettlement.settles_eq h.stored

/-- **What shows of a step** is a move of the vault. -/
theorem vault_step (hw : WellFormed H w) (hapart : TreasuryApart H w.store)
    (h : (contract H).lts.step w l w') : (deed l = none ∧ vault H w' = vault H w) ∨
      ∃ d, deed l = some d ∧ vaultLts.step (vault H w) d (vault H w') := by
  cases h with
  | @done w' env c r hs h =>
    have hclear : vault H w.clear = vault H w := rfl
    rw [← hclear]
    rcases invoke_cases (w := w.clear) hw.admin h with hc | ⟨t, hc⟩ | ⟨id, t, t', hc⟩
    · refine .inl ⟨deed_of_configures hc, ?_⟩
      rw [vault, hc.transfers, hc.transferCount, hc.ledger]
      rfl
    · refine .inr ⟨.call c, ?_, hc.vault_step hs⟩
      rw [hc.call]
      rfl
    · refine .inr ⟨.call c, ?_, hc.vault_step hw.clear hapart hs⟩
      obtain ⟨payments, hsettlement, -⟩ := hc.settlement
      simp [deed, hsettlement.settles_eq]
  | reverted => exact .inl ⟨rfl, rfl⟩
  | tick => exact .inr ⟨_, rfl, .tick⟩
  | external hb =>
    refine .inl ⟨rfl, ?_⟩
    have hbalance : (fun a => _) = (vault H w).balance := funext hb
    exact Vault.ext rfl rfl rfl hbalance
  | @donate token amount =>
    refine .inr ⟨_, rfl, ?_⟩
    -- What others hold does not matter, so only a donation to the escrow shows.
    have hvault : vault H { w with ledger := { w.ledger with
        balance := fun t a => w.ledger.balance t a +
          if t = token ∧ a = H.self then amount else 0 } } =
        { vault H w with
          balance := fun a => w.ledger.balance a H.self + if token = a then amount else 0 } := by
      simp [vault, eq_comm]
    exact hvault ▸ .donate

/-- What the users of the escrow see of it, as long as it is not made its own treasury. -/
def observation (H : Host ω) :
    Observation ((contract H).lts.restrict fun _ l _ => SetsTreasuryApart H l) vaultLts where
  Inv w := WellFormed H w ∧ TreasuryApart H w.store
  state := vault H
  label := deed
  inv_step hw h := ⟨hw.1.step h.1, hw.2.step hw.1 h.2 h.1⟩
  step hw h := vault_step hw.1 hw.2 h.1

/-! ### Refunds and cancellations -/

section Outcome

variable {id : U64} {t : Transfer} {sender : Address}

theorem release_bind_trap {α : Type} {dest : Address} {status : TransferStatus}
    {f : Transfer → Exec (World ω) EscrowError α}
    (h : ¬ env.accepts ⟨t.token, H.self, dest, t.amount⟩ = true)
    (hcovered : 0 ≤ t.amount.val ∧ t.amount.val ≤ w.ledger.balance t.token H.self) :
    (release H env t dest status >>= f) w = .error .trap := by
  simp [release, transferToken, Exec.bind_assoc, hcovered, h]

theorem refundExpired_trap (ht : w.store.getTransfer id = some t) (hp : t.status = .pending)
    (hexp : t.expiry < w.ledger.timestamp)
    (hcovered : 0 ≤ t.amount.val ∧ t.amount.val ≤ w.ledger.balance t.token H.self)
    (h : ¬ env.accepts ⟨t.token, H.self, t.sender, t.amount⟩ = true) :
    refundExpired H env id w = .error .trap := by
  simp [refundExpired, loadTransfer, Exec.bind_assoc, ht, hp, hexp, release_bind_trap h hcovered]

theorem refundExpired_early (ht : w.store.getTransfer id = some t) (hp : t.status = .pending)
    (hexp : ¬ t.expiry < w.ledger.timestamp) :
    refundExpired H env id w = .error (.err .transferNotExpired) := by
  simp [refundExpired, loadTransfer, Exec.bind_assoc, ht, hp, not_lt.1 hexp]

theorem cancelTransfer_trap (ht : w.store.getTransfer id = some t) (hp : t.status = .pending)
    (hcovered : 0 ≤ t.amount.val ∧ t.amount.val ≤ w.ledger.balance t.token H.self)
    (h : ¬ env.accepts ⟨t.token, H.self, t.sender, t.amount⟩ = true) :
    cancelTransfer H env t.sender id w = .error .trap := by
  simp [cancelTransfer, loadTransfer, Exec.bind_assoc, ht, hp, release_bind_trap h hcovered]

theorem cancelTransfer_unsigned (h : ¬ env.signed sender = true) :
    cancelTransfer H env sender id w = .error .trap := by
  simp [cancelTransfer, h]

theorem cancelTransfer_unauthorized (ht : w.store.getTransfer id = some t)
    (hsigned : env.signed sender = true) (h : t.sender ≠ sender) :
    cancelTransfer H env sender id w = .error (.err .unauthorized) := by
  simp [cancelTransfer, loadTransfer, Exec.bind_assoc, ht, hsigned, h]

/-- The escrow can pay back what is pending. -/
theorem amount_covered (h₀ : Fresh H w₀) (h : (contract H).lts.Reachable w₀ w)
    (ht : w.store.getTransfer id = some t) (hp : t.status = .pending) :
    0 ≤ t.amount.val ∧ t.amount.val ≤ w.clear.ledger.balance t.token H.self :=
  ⟨((h₀.wellFormed_of_reachable h).records _ _ ht).positive.le, amount_le_balance h₀ h ht hp⟩

/-- **Refunding a pending transfer** comes to what its record and the clock say: nothing else of
the state matters. -/
theorem outcome_refundExpired (h₀ : Fresh H w₀) (h : (contract H).lts.Reachable w₀ w)
    (ht : w.store.getTransfer id = some t) (hp : t.status = .pending) (env : Env) :
    (contract H).outcome w env (.refundExpired id) =
      if t.expiry < w.ledger.timestamp then
        if env.accepts ⟨t.token, H.self, t.sender, t.amount⟩ = true then
          .done .unit [⟨t.token, H.self, t.sender, t.amount⟩]
            [.transferRefunded id t.sender t.amount t.corridorId]
        else .reverted .trap
      else .reverted (.err .transferNotExpired) := by
  have hw := h₀.wellFormed_of_reachable h
  -- The counters cannot underflow, and the escrow holds the amount: only the three guards are left.
  obtain ⟨volume, hvolume⟩ := hw.exists_volume ht hp
  have hcovered := amount_covered h₀ h ht hp
  split_ifs with hexp haccepts
  · have hok : refundExpired H env id w.clear = .ok ((), _) := refundExpired_ok.2
      ⟨t, ht, hp, hexp, hcovered, haccepts, volume, hvolume, rfl⟩
    have hinvoke : (contract H).invoke env (.refundExpired id) w.clear = .ok (.unit, _) :=
      bind_pure_ok.2 ⟨(), hok, rfl⟩
    exact Contract.outcome_of_ok hinvoke
  · exact Contract.outcome_of_error
      (bind_error.2 (.inl (refundExpired_trap (w := w.clear) ht hp hexp hcovered haccepts)))
  · exact Contract.outcome_of_error
      (bind_error.2 (.inl (refundExpired_early (w := w.clear) ht hp hexp)))

/-- **Cancelling a pending transfer** likewise. -/
theorem outcome_cancelTransfer (h₀ : Fresh H w₀) (h : (contract H).lts.Reachable w₀ w)
    (ht : w.store.getTransfer id = some t) (hp : t.status = .pending) (env : Env)
    (sender : Address) :
    (contract H).outcome w env (.cancelTransfer sender id) =
      if env.signed sender = true then
        if t.sender = sender then
          if env.accepts ⟨t.token, H.self, t.sender, t.amount⟩ = true then
            .done .unit [⟨t.token, H.self, t.sender, t.amount⟩]
              [.transferCancelled id t.sender t.amount t.corridorId]
          else .reverted .trap
        else .reverted (.err .unauthorized)
      else .reverted .trap := by
  have hw := h₀.wellFormed_of_reachable h
  obtain ⟨volume, hvolume⟩ := hw.exists_volume ht hp
  have hcovered := amount_covered h₀ h ht hp
  split_ifs with hsigned hsender haccepts
  · have hok : cancelTransfer H env sender id w.clear = .ok ((), _) := cancelTransfer_ok.2
      ⟨hsigned, t, ht, hsender, hp, hcovered, haccepts, volume, hvolume, rfl⟩
    have hinvoke : (contract H).invoke env (.cancelTransfer sender id) w.clear = .ok (.unit, _) :=
      bind_pure_ok.2 ⟨(), hok, rfl⟩
    exact Contract.outcome_of_ok hinvoke
  · subst hsender
    exact Contract.outcome_of_error
      (bind_error.2 (.inl (cancelTransfer_trap (w := w.clear) ht hp hcovered haccepts)))
  · exact Contract.outcome_of_error
      (bind_error.2 (.inl (cancelTransfer_unauthorized (w := w.clear) ht hsigned hsender)))
  · exact Contract.outcome_of_error
      (bind_error.2 (.inl (cancelTransfer_unsigned (w := w.clear) hsigned)))

end Outcome

/-! ### What a step reports -/

/-- A claim divides the amount between the agent and the treasury: the agent gets at least what the
highest fee leaves. -/
structure Splits (amount fee payout : I128) : Prop where
  fee_nonneg : 0 ≤ fee.val
  total : payout.val + fee.val = amount.val
  floor : amount.val - amount.val * 500 / 10000 ≤ payout.val

/-- What the claim of the transfer `t` reports when it is divided in this way. -/
def claimOutcome (H : Host ω) (id : U64) (t : Transfer) (agent : Address) (now : U64)
    (treasury : Address) (fee payout : I128) : Outcome Ret Event EscrowError :=
  .done (.receipt ⟨id, agent, t.amount, fee, payout, now⟩)
    (⟨t.token, H.self, agent, payout⟩ :: feeTransfers H t.token treasury fee)
    [.transferClaimed id agent t.corridorId t.amount fee payout]

/-- What a successful creation or settlement reports, as far as the vault determines it. -/
inductive Reports (H : Host ω) (v : Vault) : Call → Outcome Ret Event EscrowError → Prop
  | create {sender token : Address} {amount : I128} {claimHash : BytesN 32} {corridorId : Symbol}
      {expiry id : U64} : id.val = v.transferCount.val + 1 →
      Reports H v (.createTransfer sender amount token claimHash corridorId expiry)
        (.done (.id id) [⟨token, sender, H.self, amount⟩]
          [.transferCreated id sender amount token corridorId claimHash expiry])
  | cancel {sender : Address} {id : U64} {t : Transfer} : v.transfers.lookup id = some t →
      Reports H v (.cancelTransfer sender id)
        (.done .unit [⟨t.token, H.self, t.sender, t.amount⟩]
          [.transferCancelled id t.sender t.amount t.corridorId])
  | refund {id : U64} {t : Transfer} : v.transfers.lookup id = some t →
      Reports H v (.refundExpired id)
        (.done .unit [⟨t.token, H.self, t.sender, t.amount⟩]
          [.transferRefunded id t.sender t.amount t.corridorId])
  | claim {agent : Address} {id : U64} {reveal : BytesN 32} {t : Transfer} {treasury : Address}
      {fee payout : I128} : v.transfers.lookup id = some t → Splits t.amount fee payout →
      Reports H v (.claimTransfer agent id reveal)
        (claimOutcome H id t agent v.timestamp treasury fee payout)

theorem reports_of_invoke (hw : WellFormed H w) (hnil : w.ledger.transfers = [])
    (hevents : w.events = []) (hc : c.creates = true ∨ c.settles.isSome = true)
    (h : invoke H env c w = .ok (r, w')) :
    Reports H (vault H w) c (.done r w'.ledger.transfers w'.events) := by
  cases c with
  | createTransfer sender amount token claimHash corridorId expiry =>
    obtain ⟨id, h₁, rfl⟩ := bind_pure_ok.1 h
    obtain ⟨-, config, -, -, -, -, window, -, -, total, peers, -, -, -, hid, volume, -, rfl⟩ :=
      createTransfer_ok.1 h₁
    simp only [Ledger.move_transfers, hnil, hevents, List.nil_append]
    exact .create hid
  | cancelTransfer sender id =>
    obtain ⟨u, h₁, rfl⟩ := bind_pure_ok.1 h
    obtain ⟨-, t, ht, -, -, -, -, volume, -, rfl⟩ := cancelTransfer_ok.1 h₁
    simp only [Ledger.move_transfers, hnil, hevents, List.nil_append]
    exact .cancel ht
  | refundExpired id =>
    obtain ⟨u, h₁, rfl⟩ := bind_pure_ok.1 h
    obtain ⟨t, ht, -, -, -, -, volume, -, rfl⟩ := refundExpired_ok.1 h₁
    simp only [Ledger.move_transfers, hnil, hevents, List.nil_append]
    exact .refund ht
  | claimTransfer agent id reveal =>
    obtain ⟨receipt, h₁, rfl⟩ := bind_pure_ok.1 h
    obtain ⟨-, config, hconfig, t, ht, -, -, -, -, peers, -, fee, hfee, payout, hpayout, -, -, -,
      volume, -, settled, -, fees, -, rfl, rfl⟩ := claimTransfer_ok.1 h₁
    -- The fee is capped by the invariant on the configuration, whoever set it.
    have hpos : 0 ≤ t.amount.val := (hw.records _ _ ht).positive.le
    obtain ⟨config', hconfig', hbps⟩ := hw.config
    obtain rfl := Option.some.inj (hconfig.symm.trans hconfig')
    have hcap := feeFor_le hpos hbps hfee
    have hsplits : Splits t.amount fee payout :=
      ⟨feeFor_nonneg hpos hfee, by omega, by omega⟩
    simp only [Ledger.apply_transfers, Ledger.move_transfers, hnil, hevents, List.nil_append,
      List.singleton_append]
    exact .claim ht hsplits
  | _ => simp [Call.creates, Call.settles] at hc

/-- Two steps that report the same, up to who signed them and, in a claim, up to how the amount is
divided and who the treasury is. -/
inductive SameButSplit (H : Host ω) : Label ω → Label ω → Prop
  | tick (t : U64) : SameButSplit H (.tick t) (.tick t)
  | donate (token : Address) (amount : ℤ) :
      SameButSplit H (.donate token amount) (.donate token amount)
  | call {env₁ env₂ : Env} {c : Call} {o : Outcome Ret Event EscrowError} :
      (∀ agent id reveal, c ≠ .claimTransfer agent id reveal) →
      SameButSplit H (.call env₁ c o) (.call env₂ c o)
  | claim {env₁ env₂ : Env} {agent : Address} {id now : U64} {reveal : BytesN 32} {t : Transfer}
      {treasury₁ treasury₂ : Address} {fee₁ fee₂ payout₁ payout₂ : I128} :
      Splits t.amount fee₁ payout₁ → Splits t.amount fee₂ payout₂ →
      SameButSplit H
        (.call env₁ (.claimTransfer agent id reveal)
          (claimOutcome H id t agent now treasury₁ fee₁ payout₁))
        (.call env₂ (.claimTransfer agent id reveal)
          (claimOutcome H id t agent now treasury₂ fee₂ payout₂))

/-- The vault determines what a call reports, up to the division of a claim. -/
theorem Reports.same {v : Vault} {o₁ o₂ : Outcome Ret Event EscrowError} {env₁ env₂ : Env}
    (h₁ : Reports H v c o₁) (h₂ : Reports H v c o₂) :
    SameButSplit H (.call env₁ c o₁) (.call env₂ c o₂) := by
  cases h₁ with
  | create hid₁ =>
    cases h₂ with
    | create hid₂ =>
      obtain rfl := MachineInt.ext (hid₁.trans hid₂.symm)
      exact .call nofun
  | cancel ht₁ =>
    cases h₂ with
    | cancel ht₂ =>
      obtain rfl := Option.some.inj (ht₁.symm.trans ht₂)
      exact .call nofun
  | refund ht₁ =>
    cases h₂ with
    | refund ht₂ =>
      obtain rfl := Option.some.inj (ht₁.symm.trans ht₂)
      exact .call nofun
  | claim ht₁ hs₁ =>
    cases h₂ with
    | claim ht₂ hs₂ =>
      obtain rfl := Option.some.inj (ht₁.symm.trans ht₂)
      exact .claim hs₁ hs₂

theorem deed_eq_call (h : deed l = some (.call c)) : ∃ env r ms es,
    l = .call env c (.done r ms es) ∧ (c.creates = true ∨ c.settles.isSome = true) := by
  rcases l with ⟨env, c', ⟨r, ms, es⟩ | f⟩ | t | ⟨balance, peers⟩ | ⟨token, amount⟩
  · simp only [deed] at h
    split_ifs at h with hc
    cases h
    exact ⟨env, r, ms, es, rfl, hc⟩
  all_goals cases h

theorem deed_eq_tick {t : U64} (h : deed l = some (.tick t)) : l = .tick t := by
  rcases l with ⟨env, c, _ | _⟩ | _ | _ | _
  · simp only [deed] at h
    split_ifs at h
    cases h
  all_goals cases h
  rfl

theorem deed_eq_donate {token : Address} {amount : ℤ} (h : deed l = some (.donate token amount)) :
    l = .donate token amount := by
  rcases l with ⟨env, c, _ | _⟩ | _ | _ | _
  · simp only [deed] at h
    split_ifs at h
    cases h
  all_goals cases h
  rfl

theorem reports_of_step {ms : List TokenTransfer} {es : List Event} (hw : WellFormed H w)
    (hc : c.creates = true ∨ c.settles.isSome = true)
    (h : (contract H).lts.step w (.call env c (.done r ms es)) w') :
    Reports H (vault H w) c (.done r ms es) := by
  generalize hl : Action.call env c (.done r ms es) = l at h
  cases h with
  | done _ h =>
    cases hl
    exact reports_of_invoke (w := w.clear) hw.clear rfl rfl hc h
  | _ => cases hl

/-- Steps that look the same, from states that look the same, differ by the division of a claim at
most. -/
theorem sameButSplit_of_steps {l₁ l₂ : Label ω} {w₁' w₂' : World ω} (hw₁ : WellFormed H w₁)
    (hw₂ : WellFormed H w₂) (hvault : vault H w₁ = vault H w₂) (hdeed : deed l₁ = deed l₂)
    (hsome : (deed l₁).isSome) (h₁ : (contract H).lts.step w₁ l₁ w₁')
    (h₂ : (contract H).lts.step w₂ l₂ w₂') : SameButSplit H l₁ l₂ := by
  obtain ⟨d, hd⟩ := Option.isSome_iff_exists.1 hsome
  have hd₂ := hdeed.symm.trans hd
  cases d with
  | call c =>
    obtain ⟨env₁, r₁, ms₁, es₁, rfl, hc⟩ := deed_eq_call hd
    obtain ⟨env₂, r₂, ms₂, es₂, rfl, -⟩ := deed_eq_call hd₂
    have hreports₁ := reports_of_step hw₁ hc h₁
    rw [hvault] at hreports₁
    exact hreports₁.same (reports_of_step hw₂ hc h₂)
  | tick t =>
    obtain rfl := deed_eq_tick hd
    obtain rfl := deed_eq_tick hd₂
    exact .tick t
  | donate token amount =>
    obtain rfl := deed_eq_donate hd
    obtain rfl := deed_eq_donate hd₂
    exact .donate token amount

/-! ### The two-run theorem -/

namespace Sample

/-- An invocation by the administrator. -/
def byAdmin (c : Call) : Contract.Input Call := .call (signedBy ⟨9⟩) c

/-- The script of `final`, with an administrator who raises the fee, diverts it and pauses. -/
def meddling : List (Contract.Input Call) :=
  byAdmin (.setFeeBps 500) :: script.take 1 ++ byAdmin (.setTreasury bob) ::
    byAdmin (.setPaused true) :: script.drop 1 ++ [byAdmin (.setAdmin alice)]

/-- After that script. -/
def meddled : World Unit := (contract host).play created meddling

theorem created_run : (contract host).lts.Run start
    ((contract host).trace start [.call (signedBy alice) createAlice]) created :=
  Contract.play_run [.call (signedBy alice) createAlice] rfl

end Sample

/-- **The administrator cannot touch locked funds.**  Take two continuations of a reachable state
that show the same deeds: the same successful creations and settlements, donations and new ledgers,
in the same order, whatever the administrator did in each and wherever.  As long as the escrow is
not made its own treasury, they end with the same transfers and the same balances of the escrow;
refunding or cancelling a pending transfer, by anybody, comes to the same in both; and the deeds
themselves reported the same, except for the division of a claim between the agent, who gets at
least the amount less the highest fee, and the treasury. -/
theorem admin_noninterference {ls₁ ls₂ : List (Label ω)} (h₀ : Fresh H w₀)
    (hw : (contract H).lts.Reachable w₀ w) (hapart : TreasuryApart H w.store)
    (h₁ : (contract H).lts.Run w ls₁ w₁) (hls₁ : ∀ l ∈ ls₁, SetsTreasuryApart H l)
    (h₂ : (contract H).lts.Run w ls₂ w₂) (hls₂ : ∀ l ∈ ls₂, SetsTreasuryApart H l)
    (hdeeds : ls₁.filterMap deed = ls₂.filterMap deed) :
    w₁.store.transfers = w₂.store.transfers ∧
    (∀ a, w₁.ledger.balance a H.self = w₂.ledger.balance a H.self) ∧
    (∀ id t, w₁.store.getTransfer id = some t → t.status = .pending → ∀ env,
      (contract H).outcome w₁ env (.refundExpired id) =
        (contract H).outcome w₂ env (.refundExpired id) ∧
      ∀ sender, (contract H).outcome w₁ env (.cancelTransfer sender id) =
        (contract H).outcome w₂ env (.cancelTransfer sender id)) ∧
    List.Forall₂ (SameButSplit H) (ls₁.filter fun l => (deed l).isSome)
      (ls₂.filter fun l => (deed l).isSome) := by
  obtain ⟨ls, hls⟩ := hw
  have hinv : (observation H).Inv w := ⟨h₀.wellFormed_of_reachable ⟨ls, hls⟩, hapart⟩
  -- Both runs are runs of the vault under the same deeds, and the vault is deterministic.
  have hvault : vault H w₁ = vault H w₂ := (observation H).state_eq vault_deterministic
    (h₁.restrict_of_labels hls₁) (h₂.restrict_of_labels hls₂) hinv hinv rfl hdeeds
  have htransfers : w₁.store.transfers = w₂.store.transfers := congrArg Vault.transfers hvault
  have htime : w₁.ledger.timestamp = w₂.ledger.timestamp := congrArg Vault.timestamp hvault
  have hreach₁ : (contract H).lts.Reachable w₀ w₁ := ⟨_, hls.append h₁⟩
  have hreach₂ : (contract H).lts.Reachable w₀ w₂ := ⟨_, hls.append h₂⟩
  refine ⟨htransfers, congrFun (congrArg Vault.balance hvault), ?_, ?_⟩
  · -- What a refund comes to is read off the record and the clock, which both runs share.
    intro id t ht hp env
    have ht₂ : w₂.store.getTransfer id = some t := by
      rw [Storage.getTransfer, ← htransfers]
      exact ht
    constructor
    · rw [outcome_refundExpired h₀ hreach₁ ht hp, outcome_refundExpired h₀ hreach₂ ht₂ hp, htime]
    · intro sender
      rw [outcome_cancelTransfer h₀ hreach₁ ht hp, outcome_cancelTransfer h₀ hreach₂ ht₂ hp]
  · exact (observation H).forall₂_visible vault_deterministic
      (fun hI₁ hI₂ hstate hlabel hsome hst₁ hst₂ =>
        sameButSplit_of_steps hI₁.1 hI₂.1 hstate hlabel hsome hst₁.1 hst₂.1)
      (h₁.restrict_of_labels hls₁) (h₂.restrict_of_labels hls₂) hinv hinv rfl hdeeds

theorem admin_noninterference_sample :
    Sample.final.store.transfers = Sample.meddled.store.transfers ∧
    Sample.final.ledger.balance Sample.usd ⟨0⟩ = Sample.meddled.ledger.balance Sample.usd ⟨0⟩ ∧
    (contract Sample.host).outcome Sample.final (Sample.signedBy Sample.alice) (.refundExpired 2) =
      (contract Sample.host).outcome Sample.meddled (Sample.signedBy Sample.alice)
        (.refundExpired 2) :=
  have ht : Sample.final.store.getTransfer 2 = some (.lock 2 Sample.bob 250 Sample.usd
      Sample.zeroDigest ⟨"SN-ML"⟩ 1500 1000) := by decide
  have h := admin_noninterference Sample.fresh_start Sample.created_run.reachable
    (by rintro config ⟨⟩; decide)
    (Contract.play_run Sample.script rfl)
    (List.forall_iff_forall_mem.1 ⟨trivial, trivial, trivial⟩)
    (Contract.play_run Sample.meddling rfl)
    (List.forall_iff_forall_mem.1 ⟨trivial, trivial, (by decide : Sample.bob ≠ Sample.host.self),
      trivial, trivial, trivial, trivial⟩)
    (by decide)
  ⟨h.1, h.2.1 Sample.usd, (h.2.2.1 2 _ ht rfl (Sample.signedBy Sample.alice)).1⟩

end Escrow

end RemitBridge
