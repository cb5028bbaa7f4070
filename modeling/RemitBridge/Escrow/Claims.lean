import RemitBridge.Escrow.Lifecycle

/-!
# What a claim pays

The product of the amount and the fee rate has to fit its type.  Nothing ensures this when a
transfer is created, so an agent who may claim it is paid exactly if it does (`claimable_iff`).  A
quote is what a later claim pays, unless the rate is changed in between (`quote_holds`).  A claim
that comes to the check of its code passes it exactly if the code has the hash of the transfer
(`Attempt.accepts_iff`).
-/

namespace RemitBridge

namespace Escrow

open TransitionSystem Exec

variable {ω : Type} {H : Host ω} {env : Env} {w₀ w₁ w₂ w w' : World ω} {l : Label ω}
  {ls : List (Label ω)} {agent : Address} {id : U64} {reveal : BytesN 32} {config : EscrowConfig}
  {t : Transfer} {c : Call} {ret : Ret}

/-- The fee of an amount, rounded down. -/
def feeOf (amount : I128) (feeBps : U32) : ℤ := amount.val * feeBps.val / 10000

/-- The agent may claim the transfer: it is pending and has not expired, the agent is not the
sender, knows the code and is authorised in the corridor, the token lets the escrow pay, and the
cumulative counters have room. -/
structure MayClaim (H : Host ω) (w : World ω) (env : Env) (agent : Address) (id : U64)
    (reveal : BytesN 32) (config : EscrowConfig) (t : Transfer) : Prop where
  configured : w.store.config = some config
  stored : w.store.getTransfer id = some t
  pending : t.status = .pending
  unexpired : w.ledger.timestamp ≤ t.expiry
  sender : t.sender ≠ agent
  code : H.sha256 reveal.bytes = t.claimHash
  authorized : (H.tryIsAuthorizedForCorridor config.agentRegistry (env.invokedBy H.self)
    w.ledger.timestamp agent t.corridorId w.peers).1 = .ok true
  signed : env.signed agent = true
  unsigned : env.signed H.self = false
  accepts : ∀ dest amount, env.accepts ⟨t.token, H.self, dest, amount⟩ = true
  volumeSettled : w.store.getStats.volumeSettled.val + t.amount.val ≤ 2 ^ 127 - 1
  feesCollected : w.store.getStats.feesCollected.val + feeOf t.amount config.feeBps ≤ 2 ^ 127 - 1

/-- The claim succeeds, and pays the amount without the fee to the agent and the fee to the
treasury. -/
def Pays (H : Host ω) (w : World ω) (env : Env) (agent : Address) (id : U64) (reveal : BytesN 32)
    (config : EscrowConfig) (t : Transfer) : Prop :=
  ∃ fee payout : I128, fee.val = feeOf t.amount config.feeBps ∧
    payout.val = t.amount.val - feeOf t.amount config.feeBps ∧ 0 ≤ payout.val ∧ ∃ w',
    (contract H).lts.step w (.call env (.claimTransfer agent id reveal)
      (.done (.receipt ⟨id, agent, t.amount, fee, payout, w.ledger.timestamp⟩)
        (⟨t.token, H.self, agent, payout⟩ :: feeTransfers H t.token config.treasury fee)
        [.transferClaimed id agent t.corridorId t.amount fee payout])) w'

/-! ### Claims -/

/-- Below the maximal rate, the fee is at most the amount. -/
theorem feeOf_bounds {amount : I128} {feeBps : U32} (ha : 0 ≤ amount.val)
    (hbps : feeBps ≤ maxFeeBps) : 0 ≤ feeOf amount feeBps ∧ feeOf amount feeBps ≤ amount.val := by
  have hrate : feeBps.val ≤ 500 := hbps
  have hproduct : amount.val * feeBps.val ≤ amount.val * 10000 :=
    Int.mul_le_mul_of_nonneg_left (by omega) ha
  constructor
  · exact Int.ediv_nonneg (Int.mul_nonneg ha feeBps.val_nonneg) (by decide)
  · exact (Int.ediv_le_ediv (by decide) hproduct).trans
      (Int.mul_ediv_cancel _ (by decide)).le

theorem pays_of_fits (h₀ : Fresh H w₀) (h : (contract H).lts.Reachable w₀ w)
    (hclaim : MayClaim H w env agent id reveal config t)
    (hfits : t.amount.val * config.feeBps.val ≤ 2 ^ 127 - 1) :
    Pays H w env agent id reveal config t := by
  have hw := h₀.wellFormed_of_reachable h
  have hpos := (hw.records _ _ hclaim.stored).positive
  obtain ⟨config', hconfig', hbps⟩ := hw.config
  obtain rfl := Option.some.inj (hclaim.configured.symm.trans hconfig')
  obtain ⟨hnonneg, hle⟩ := feeOf_bounds hpos.le hbps
  have hhi := t.amount.le_hi
  obtain ⟨fee, hfee⟩ : ∃ fee : I128, fee.val = feeOf t.amount config.feeBps :=
    ⟨⟨feeOf t.amount config.feeBps, by omega, by omega⟩, rfl⟩
  obtain ⟨payout, hpayout⟩ : ∃ payout : I128, payout.val = t.amount.val - fee.val :=
    ⟨⟨_, by omega, by omega⟩, rfl⟩
  obtain ⟨volume, hvolume⟩ := hw.exists_volume hclaim.stored hclaim.pending
  have hsettled := w.store.getStats.volumeSettled.lo_le
  have hfees := w.store.getStats.feesCollected.lo_le
  have hsettledFits := hclaim.volumeSettled
  have hfeesFit := hclaim.feesCollected
  obtain ⟨settled, hsettled⟩ : ∃ settled : I128,
      settled.val = w.store.getStats.volumeSettled.val + t.amount.val :=
    ⟨⟨_, by omega, hsettledFits⟩, rfl⟩
  obtain ⟨fees, hfees⟩ : ∃ fees : I128, fees.val = w.store.getStats.feesCollected.val + fee.val :=
    ⟨⟨_, by omega, by rw [hfee]; exact hfeesFit⟩, rfl⟩
  -- The escrow holds the amount, of which the agent gets a part and the treasury the rest.
  have hbalance : t.amount.val ≤ w.clear.ledger.balance t.token H.self :=
    amount_le_balance h₀ h hclaim.stored hclaim.pending
  have hne : H.self ≠ agent := Env.ne_of_signed hclaim.unsigned hclaim.signed
  have hrest : (w.clear.ledger.move ⟨t.token, H.self, agent, payout⟩).balance t.token H.self =
      w.clear.ledger.balance t.token H.self + -payout.val := Ledger.move_balance_source _ hne
  have hok : claimTransfer H env agent id reveal w.clear =
      .ok (⟨id, agent, t.amount, fee, payout, w.ledger.timestamp⟩, _) := claimTransfer_ok.2
    ⟨hclaim.signed, config, hclaim.configured, t, hclaim.stored, hclaim.pending, hclaim.unexpired,
      hclaim.sender, hclaim.code, _, Prod.ext hclaim.authorized rfl, fee,
      (feeFor_eq_some hpos.le).2 ⟨hfits, hfee⟩, payout, hpayout, ⟨by omega, by omega⟩,
      hclaim.accepts _ _, fun _ => ⟨by rw [hrest]; omega, hclaim.accepts _ _⟩, volume, hvolume,
      settled, hsettled, fees, hfees, rfl, rfl⟩
  refine ⟨fee, payout, hfee, hfee ▸ hpayout, by omega, _, Contract.step_done hclaim.unsigned
    (bind_pure_ok.2 ⟨_, hok, rfl⟩) ?_ rfl⟩
  rw [Ledger.apply_transfers]
  rfl

/-- **Claims.**  In every reachable state, whoever may claim a transfer is paid what is due exactly
if the product of the amount and the rate fits its type. -/
theorem claimable_iff (h₀ : Fresh H w₀) (h : (contract H).lts.Reachable w₀ w)
    (hclaim : MayClaim H w env agent id reveal config t) :
    Pays H w env agent id reveal config t ↔ t.amount.val * config.feeBps.val ≤ 2 ^ 127 - 1 := by
  refine ⟨?_, pays_of_fits h₀ h hclaim⟩
  rintro ⟨fee, payout, -, -, -, w', hst⟩
  obtain ⟨receipt, hok, -⟩ := bind_pure_ok.1 (Contract.invoke_of_step_done hst)
  obtain ⟨-, config', hconfig', t', ht', -, -, -, -, -, -, fee', hfee', -⟩ := claimTransfer_ok.1 hok
  obtain rfl := Option.some.inj (hclaim.configured.symm.trans hconfig')
  obtain rfl := Option.some.inj (hclaim.stored.symm.trans ht')
  have hpos := ((h₀.wellFormed_of_reachable h).records _ _ hclaim.stored).positive
  exact ((feeFor_eq_some hpos.le).1 hfee').1

/-! ### A transfer nobody can claim -/

namespace Sample

theorem code_length : (List.replicate 32 (0 : UInt8)).length = 32 := rfl

def code : BytesN 32 := ⟨List.replicate 32 0, code_length⟩

/-- The largest amount. -/
def most : I128 := ⟨2 ^ 127 - 1, by decide, le_rfl⟩

/-- Every account but the escrow holds that much. -/
def rich : World Unit :=
  { start with ledger := ⟨1000, fun _ a => if a = host.self then 0 else most.val, []⟩ }

/-- Alice's transfer of this amount. -/
def createOf (amount : I128) : List (Contract.Input Call) :=
  [.call (signedBy alice) (.createTransfer alice amount usd zeroDigest ⟨"SN-ML"⟩ 1400)]

def locked (amount : I128) : World Unit := (contract host).play rich (createOf amount)

theorem fresh_rich : Fresh host rich where
  initialized := ⟨signedBy ⟨9⟩, ⟨9⟩, ⟨5⟩, ⟨6⟩, treasury, 100, 5000,
    { blank with ledger := rich.ledger }, rfl, rfl⟩
  balance_nonneg _ := le_rfl

theorem locked_reachable (amount : I128) :
    (contract host).lts.Reachable rich (locked amount) :=
  ⟨_, Contract.play_run (createOf amount) rfl⟩

/-- The record of the transfer. -/
def lockedTransfer (amount : I128) : Transfer :=
  .lock 1 alice amount usd zeroDigest ⟨"SN-ML"⟩ 1400 1000

def wiring : EscrowConfig := ⟨⟨5⟩, ⟨6⟩, treasury, 100, false, 5000⟩

theorem most_mayClaim :
    MayClaim host (locked most)
    (signedBy Sample.agent) Sample.agent 1 code wiring (lockedTransfer most) :=
  ⟨rfl, by decide, rfl, by decide, by decide, rfl, rfl, rfl, rfl, fun _ _ => rfl, by decide,
    by decide⟩

theorem mayClaim :
    MayClaim host (locked 1000)
    (signedBy Sample.agent) Sample.agent 1 code wiring (lockedTransfer 1000) :=
  ⟨rfl, by decide, rfl, by decide, by decide, rfl, rfl, rfl, rfl, fun _ _ => rfl, by decide,
    by decide⟩

end Sample

/-- The claim overflows. -/
theorem not_claimable_sample : Fresh Sample.host Sample.rich ∧
    (contract Sample.host).lts.Reachable Sample.rich (Sample.locked Sample.most) ∧
    MayClaim Sample.host (Sample.locked Sample.most) (Sample.signedBy Sample.agent) Sample.agent 1
      Sample.code Sample.wiring (Sample.lockedTransfer Sample.most) ∧
    (contract Sample.host).lts.step (Sample.locked Sample.most)
      (.call (Sample.signedBy Sample.agent) (.claimTransfer Sample.agent 1 Sample.code)
        (.reverted (.err .overflow))) (Sample.locked Sample.most) ∧
    ¬ Pays Sample.host (Sample.locked Sample.most) (Sample.signedBy Sample.agent) Sample.agent 1
      Sample.code Sample.wiring (Sample.lockedTransfer Sample.most) := by
  have hreverted : (contract Sample.host).lts.step (Sample.locked Sample.most)
      (.call (Sample.signedBy Sample.agent) (.claimTransfer Sample.agent 1 Sample.code)
        (.reverted (.err .overflow))) (Sample.locked Sample.most) := .reverted rfl rfl
  refine ⟨Sample.fresh_rich, Sample.locked_reachable _, Sample.most_mayClaim, hreverted, ?_⟩
  rintro ⟨fee, payout, -, -, -, w', hst⟩
  cases (Contract.outcome_of_step hreverted).symm.trans (Contract.outcome_of_step hst)

theorem claimable_iff_sample : Pays Sample.host (Sample.locked 1000) (Sample.signedBy Sample.agent)
      Sample.agent 1 Sample.code Sample.wiring (Sample.lockedTransfer 1000) ↔
    (Sample.lockedTransfer 1000).amount.val * Sample.wiring.feeBps.val ≤ 2 ^ 127 - 1 :=
  claimable_iff Sample.fresh_rich (Sample.locked_reachable 1000) Sample.mayClaim

/-! ### Quotes -/

/-- The step changes the rate. -/
def SetsFee : Label ω → Prop
  | .call _ (.setFeeBps _) (.done ..) => True
  | _ => False

theorem Administers.feeBps (h : Administers c w w') (ha : w.store.admin.isSome)
    (hc : ∀ feeBps, c ≠ .setFeeBps feeBps) (hconfig : w.store.config = some config) :
    ∃ config', w'.store.config = some config' ∧ config'.feeBps = config.feeBps := by
  cases h with
  | reads => exact ⟨config, hconfig, rfl⟩
  | first hnone =>
    rw [hnone] at ha
    cases ha
  | admin => exact ⟨config, hconfig, rfl⟩
  | @configured config₀ config' _ hconfig₀ _ _ hfee =>
    obtain rfl := Option.some.inj (hconfig.symm.trans hconfig₀)
    rcases hfee with hfee | ⟨hcall, -⟩
    · exact ⟨config', rfl, hfee⟩
    · exact absurd hcall (hc _)
  | @wired config₀ config' _ _ hconfig₀ hfee =>
    obtain rfl := Option.some.inj (hconfig.symm.trans hconfig₀)
    exact ⟨config', rfl, hfee⟩

/-- Only one entry point changes the rate. -/
theorem feeBps_of_invoke (hw : WellFormed H w) (h : invoke H env c w = .ok (ret, w'))
    (hc : ∀ feeBps, c ≠ .setFeeBps feeBps) (hconfig : w.store.config = some config) :
    ∃ config', w'.store.config = some config' ∧ config'.feeBps = config.feeBps := by
  cases c with
  | createTransfer =>
    obtain ⟨id, h₁, -⟩ := bind_pure_ok.1 h
    exact ⟨config, (locks_of_createTransfer h₁).config.trans hconfig, rfl⟩
  | cancelTransfer =>
    obtain ⟨u, h₁, -⟩ := bind_pure_ok.1 h
    obtain ⟨t, t', hsettles⟩ := settles_of_cancelTransfer h₁
    exact ⟨config, hsettles.config.trans hconfig, rfl⟩
  | claimTransfer =>
    obtain ⟨receipt, h₁, -⟩ := bind_pure_ok.1 h
    obtain ⟨t, t', hsettles⟩ := settles_of_claimTransfer h₁
    exact ⟨config, hsettles.config.trans hconfig, rfl⟩
  | refundExpired =>
    obtain ⟨u, h₁, -⟩ := bind_pure_ok.1 h
    obtain ⟨t, t', hsettles⟩ := settles_of_refundExpired h₁
    exact ⟨config, hsettles.config.trans hconfig, rfl⟩
  | _ => exact (administers_of_invoke rfl rfl h).feeBps hw.admin hc hconfig

theorem feeBps_of_run (hw : WellFormed H w₁) (h : (contract H).lts.Run w₁ ls w₂)
    (hls : ∀ l ∈ ls, ¬ SetsFee l) (hconfig : w₁.store.config = some config) :
    ∃ config', w₂.store.config = some config' ∧ config'.feeBps = config.feeBps := by
  have hI : WellFormed H w₂ ∧
      ∃ config', w₂.store.config = some config' ∧ config'.feeBps = config.feeBps := by
    refine (h.restrict_of_labels hls).invariant (I := fun w => WellFormed H w ∧
      ∃ config', w.store.config = some config' ∧ config'.feeBps = config.feeBps)
      ⟨hw, config, hconfig, rfl⟩ fun w l w' hI hst => ⟨hI.1.step hst.1, ?_⟩
    obtain ⟨hw, config', hconfig', hfee⟩ := hI
    rcases Contract.step_cases hst.1 with hq | ⟨env, c, r, rfl, -, hinvoke⟩
    · exact ⟨config', hq.store ▸ hconfig', hfee⟩
    · have hc : ∀ feeBps, c ≠ .setFeeBps feeBps := by
        rintro feeBps rfl
        exact hst.2 trivial
      obtain ⟨config'', hconfig'', hfee'⟩ := feeBps_of_invoke hw.clear hinvoke hc hconfig'
      exact ⟨config'', hconfig'', hfee'.trans hfee⟩
  exact hI.2

/-- **Reading a quote.** -/
theorem quoteClaim_ok {quote : ClaimQuote} : quoteClaim id w = .ok (quote, w') ↔
    ∃ config, w.store.config = some config ∧ ∃ t, w.store.getTransfer id = some t ∧
      t.status = .pending ∧ ∃ fee, feeFor t.amount config.feeBps = some fee ∧
      ∃ payout : I128, payout.val = t.amount.val - fee.val ∧
        quote = ⟨id, t.amount, fee, payout⟩ ∧ w' = w := by
  unfold quoteClaim
  simp [MachineInt.checkedSub_eq_some]
  exact Iff.rfl

/-- **Quotes hold.**  When a quote was given and the rate has not been changed since, a claim of the
transfer pays what was quoted, whatever else has happened, and its receipt and its event say so. -/
theorem quote_holds (h₀ : Fresh H w₀) (h : (contract H).lts.Reachable w₀ w) {quote : ClaimQuote}
    {ms : List TokenTransfer} {es : List Event}
    (hquote : (contract H).lts.step w (.call env (.quoteClaim id) (.done (.quote quote) ms es)) w₁)
    (hrun : (contract H).lts.Run w₁ ls w₂) (hls : ∀ l ∈ ls, ¬ SetsFee l) {env' : Env}
    {payments : List TokenTransfer} {events : List Event}
    (hclaim : (contract H).lts.step w₂
      (.call env' (.claimTransfer agent id reveal) (.done ret payments events)) w') :
    ∃ config t, w₂.store.config = some config ∧ w₂.store.getTransfer id = some t ∧
      ret = .receipt ⟨id, agent, quote.gross, quote.fee, quote.payout, w₂.ledger.timestamp⟩ ∧
      payments = ⟨t.token, H.self, agent, quote.payout⟩ ::
        (if 0 < quote.fee.val then [⟨t.token, H.self, config.treasury, quote.fee⟩] else []) ∧
      events = [.transferClaimed id agent t.corridorId quote.gross quote.fee quote.payout] := by
  have hw₁ := (h₀.wellFormed_of_reachable h).step hquote
  obtain ⟨quote', hok, hquote'⟩ := bind_pure_ok.1 (Contract.invoke_of_step_done hquote)
  cases hquote'
  obtain ⟨config, hconfig, t, ht, -, fee, hfee, payout, hpayout, rfl, rfl⟩ := quoteClaim_ok.1 hok
  cases hclaim with
  | done _ hinvoke =>
    obtain ⟨receipt, hok', rfl⟩ := bind_pure_ok.1 hinvoke
    obtain ⟨-, config', hconfig', t', ht', -, -, -, -, -, -, fee', hfee', payout',
      hpayout', -, -, -, -, -, -, -, -, -, rfl, rfl⟩ := claimTransfer_ok.1 hok'
    -- The rate and the terms of the transfer are what they were.
    obtain ⟨config'', hconfig'', hrate⟩ := feeBps_of_run hw₁ hrun hls hconfig
    obtain rfl := Option.some.inj (hconfig'.symm.trans hconfig'')
    obtain ⟨t'', ht'', hterms, -⟩ := transfer_stable hw₁ hrun ht
    obtain rfl := Option.some.inj (ht'.symm.trans ht'')
    have hamount : t'.amount = t.amount := congrArg Terms.amount hterms
    rw [hamount, hrate, hfee] at hfee'
    obtain rfl := Option.some.inj hfee'
    obtain rfl : payout' = payout := MachineInt.ext (by rw [hpayout', hpayout, hamount])
    refine ⟨config', t', hconfig', ht', by rw [hamount]; rfl, ?_, by rw [hamount]; rfl⟩
    rw [Ledger.apply_transfers]
    rfl

namespace Sample

/-- After a quote of Alice's transfer. -/
def quoted : World Unit := (contract host).play created [.call (signedBy bob) (.quoteClaim 1)]

/-- Then Bob makes a transfer. -/
def meanwhile : List (Contract.Input Call) :=
  [.call (signedBy bob) (.createTransfer bob 250 usd zeroDigest ⟨"SN-ML"⟩ 1500)]

def later : World Unit := (contract host).play quoted meanwhile

def claimed : World Unit :=
  (contract host).play later [.call (signedBy Sample.agent) (.claimTransfer Sample.agent 1 code)]

theorem created_reachable : (contract host).lts.Reachable start created :=
  ⟨_, Contract.play_run [.call (signedBy alice) createAlice] rfl⟩

end Sample

/-- The quote is 99 units of 100. -/
theorem quote_holds_sample : ∃ (config : EscrowConfig) (t : Transfer),
    Sample.later.store.config = some config ∧ Sample.later.store.getTransfer 1 = some t ∧
    Sample.claimed.ledger.transfers = [⟨t.token, ⟨0⟩, Sample.agent, 99⟩,
      ⟨t.token, ⟨0⟩, config.treasury, 1⟩] := by
  have hquote : (contract Sample.host).lts.step Sample.created (.call (Sample.signedBy Sample.bob)
      (.quoteClaim 1) (.done (.quote ⟨1, 100, 1, 99⟩) [] [])) Sample.quoted :=
    Contract.step_done rfl rfl rfl rfl
  have hclaim : (contract Sample.host).lts.step Sample.later
      (.call (Sample.signedBy Sample.agent) (.claimTransfer Sample.agent 1 Sample.code)
        (.done (.receipt ⟨1, Sample.agent, 100, 1, 99, 1000⟩) Sample.claimed.ledger.transfers
          Sample.claimed.events)) Sample.claimed := Contract.step_done rfl rfl rfl rfl
  obtain ⟨config, t, hconfig, ht, -, hpayments, -⟩ := quote_holds Sample.fresh_start
    Sample.created_reachable hquote (Contract.play_run Sample.meanwhile rfl)
    (List.forall_mem_singleton.2 id) hclaim
  exact ⟨config, t, hconfig, ht, hpayments⟩

/-! ### Wrong codes -/

/-- The check of an agent does not look at the code. -/
theorem invalidClaimCode_of_checkAgent_bind {α : Type} {registry : Address} {corridorId : Symbol}
    {f : Unit → Exec (World ω) EscrowError α}
    (h : (checkAgent H env registry agent corridorId >>= f) w = .error (.err .invalidClaimCode)) :
    ∃ w', f () w' = .error (.err .invalidClaimCode) := by
  simp only [checkAgent, bind_assoc, timestamp_bind, callPeers_bind] at h
  generalize H.tryIsAuthorizedForCorridor registry (env.invokedBy H.self) w.ledger.timestamp agent
    corridorId w.peers = call at h
  obtain ⟨answer, peers⟩ := call
  rcases answer with ((_ | _) | _ | _ | _)
  · simp at h
  · exact ⟨_, h⟩
  · simp at h
  · simp at h
  · simp at h

theorem invalidClaimCode_of_payFee_bind {α : Type} {token treasury : Address} {fee : I128}
    {f : Unit → Exec (World ω) EscrowError α}
    (h : (payFee H env token treasury fee >>= f) w = .error (.err .invalidClaimCode)) :
    ∃ w', f () w' = .error (.err .invalidClaimCode) := by
  unfold payFee at h
  split_ifs at h with hfee
  · rw [bind_assoc] at h
    rcases error_of_transferToken_bind h with htrap | hrest
    · cases htrap
    · exact ⟨_, hrest⟩
  · exact ⟨_, h⟩

/-- **A wrong code.**  Of the errors of a claim this one says that the reveal does not have the hash
of the transfer. -/
theorem claimTransfer_invalidClaimCode :
    claimTransfer H env agent id reveal w = .error (.err .invalidClaimCode) ↔
      env.signed agent = true ∧ (∃ config, w.store.config = some config) ∧
      ∃ t, w.store.getTransfer id = some t ∧ t.status = .pending ∧ w.ledger.timestamp ≤ t.expiry ∧
      t.sender ≠ agent ∧ H.sha256 reveal.bytes ≠ t.claimHash := by
  simp only [claimTransfer, getConfig, loadTransfer, bind_assoc, read_bind, requireAuth_bind_error,
    okOr_bind_error, refuseIf_bind_error, timestamp_bind, Fault.err.injEq, reduceCtorEq, and_false,
    false_or]
  constructor
  · rintro ⟨hsigned, config, hconfig, t, ht, hpending, hexpired, hsender, ⟨hcode, -⟩ | ⟨-, h⟩⟩
    · simp at hpending hexpired
      exact ⟨hsigned, ⟨config, hconfig⟩, t, ht, hpending, hexpired, hsender, hcode⟩
    · -- Nothing behind the check fails with its error.
      obtain ⟨w₁, h⟩ := invalidClaimCode_of_checkAgent_bind h
      simp only [okOr_bind_error, orTrap_bind_error, Fault.err.injEq, reduceCtorEq, and_false,
        false_or] at h
      obtain ⟨fee, -, payout, -, h⟩ := h
      rcases error_of_transferToken_bind h with htrap | h
      · cases htrap
      · obtain ⟨w₂, h⟩ := invalidClaimCode_of_payFee_bind h
        simp [okOr_bind_error, orTrap_bind_error, setTransfer_bind] at h
  · rintro ⟨hsigned, ⟨config, hconfig⟩, t, ht, hpending, hexpired, hsender, hcode⟩
    refine ⟨hsigned, config, hconfig, t, ht, ?_, ?_, hsender, .inl ⟨hcode, trivial⟩⟩
    · simp [hpending]
    · simpa using hexpired

/-- A claim that comes to the check of its code: the agent has signed it, and the transfer is
pending, has not expired and is somebody else's. -/
structure Attempt (ω : Type) (claimHash : BytesN 32) where
  env : Env
  agent : Address
  id : U64
  world : World ω
  transfer : Transfer
  signed : env.signed agent = true
  configured : ∃ config, world.store.config = some config
  stored : world.store.getTransfer id = some transfer
  pending : transfer.status = .pending
  unexpired : world.ledger.timestamp ≤ transfer.expiry
  sender : transfer.sender ≠ agent
  hash : transfer.claimHash = claimHash

/-- The claim does not fail because of its code. -/
def Attempt.Accepts {claimHash : BytesN 32} (H : Host ω) (a : Attempt ω claimHash)
    (reveal : BytesN 32) : Prop :=
  claimTransfer H a.env a.agent a.id reveal a.world ≠ .error (.err .invalidClaimCode)

theorem Attempt.accepts_iff {claimHash : BytesN 32} (a : Attempt ω claimHash) :
    a.Accepts H reveal ↔ H.sha256 reveal.bytes = claimHash := by
  rw [Accepts, Ne, claimTransfer_invalidClaimCode, not_iff_comm]
  constructor
  · intro hne
    rw [← a.hash] at hne
    exact ⟨a.signed, a.configured, a.transfer, a.stored, a.pending, a.unexpired, a.sender, hne⟩
  · rintro ⟨-, -, t, ht, -, -, -, hne⟩
    obtain rfl : a.transfer = t := Option.some.inj (a.stored.symm.trans ht)
    rwa [a.hash] at hne

end Escrow

end RemitBridge
