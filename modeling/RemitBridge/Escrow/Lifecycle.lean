import RemitBridge.Escrow.Solvency

/-!
# The life of a transfer

A transfer keeps its terms for ever, is settled at most once, and is paid out exactly once
(`transfer_lifecycle`).  The settled record itself says how it was settled: `SettledBy` lists what
must have been true of the call that did it.
-/

namespace RemitBridge

namespace Escrow

open TransitionSystem

variable {ω : Type} {H : Host ω} {w₀ w₁ w₂ w w' : World ω} {l : Label ω} {ls : List (Label ω)}
  {id : U64} {t : Transfer}

/-- The step, taken in the world `w`, that settled the transfer whose record is now `t`. -/
inductive SettledBy (H : Host ω) (w : World ω) (t : Transfer) : Label ω → Prop
  /-- An authorised agent other than the sender revealed the code in time and got the amount less
  the fee, which went to the treasury. -/
  | claimed {env : Env} {agent : Address} {reveal : BytesN 32} {config : EscrowConfig}
      {fee payout : I128} {ret : Ret} {events : List Event} :
      t.status = .claimed → env.signed agent = true → agent ≠ t.sender →
      w.store.config = some config →
      (H.tryIsAuthorizedForCorridor config.agentRegistry (env.invokedBy H.self) w.ledger.timestamp
        agent t.corridorId w.peers).1 = .ok true →
      H.sha256 reveal.bytes = t.claimHash → t.settledAt = w.ledger.timestamp →
      t.createdAt ≤ t.settledAt → t.settledAt ≤ t.expiry → t.claimedBy = some agent →
      0 ≤ fee.val → fee.val ≤ t.amount.val * 500 / 10000 → payout.val = t.amount.val - fee.val →
      SettledBy H w t (.call env (.claimTransfer agent t.id reveal) (.done ret
        (⟨t.token, H.self, agent, payout⟩ ::
          if 0 < fee.val then [⟨t.token, H.self, config.treasury, fee⟩] else []) events))
  /-- The sender got all of it back after the expiry. -/
  | refunded {env : Env} {ret : Ret} {events : List Event} :
      t.status = .refunded → t.settledAt = w.ledger.timestamp → t.expiry < t.settledAt →
      SettledBy H w t (.call env (.refundExpired t.id)
        (.done ret [⟨t.token, H.self, t.sender, t.amount⟩] events))
  /-- The sender asked for it and got all of it back. -/
  | cancelled {env : Env} {ret : Ret} {events : List Event} :
      t.status = .cancelled → env.signed t.sender = true →
      SettledBy H w t (.call env (.cancelTransfer t.sender t.id)
        (.done ret [⟨t.token, H.self, t.sender, t.amount⟩] events))

/-! ### Runs of the escrow as runs of its book -/

/-- A run of the escrow is a run of the book of its transfers. -/
theorem custody_run (hw : WellFormed H w₁) (h : (contract H).lts.Run w₁ ls w) :
    ∃ ms, (Custody.lts scheme).Run w₁.store.transfers ms w.store.transfers ∧
      List.Forall₂ (Performs H) ls ms :=
  h.simulate (f := fun w => w.store.transfers) (I := WellFormed H) hw
    (fun _ _ _ hs hst => hs.step hst) (fun _ _ _ hs hst => custody_step hs hst)

/-- Terms never change, and a settled transfer never changes at all. -/
theorem transfer_stable (hw : WellFormed H w₁) (h : (contract H).lts.Run w₁ ls w)
    (ht : w₁.store.getTransfer id = some t) : ∃ t', w.store.getTransfer id = some t' ∧
      terms t' = terms t ∧ (t.status ≠ .pending → t' = t) := by
  obtain ⟨ms, hms, -⟩ := custody_run hw h
  exact Custody.terms_stable hms ht

/-- What has been paid out for a transfer. -/
theorem sum_paidFor (h₀ : Fresh H w₀) (h : (contract H).lts.Run w₀ ls w)
    (ht : w.store.getTransfer id = some t) :
    (ls.map (paidFor H id)).sum = if t.status = .pending then 0 else t.amount.val := by
  obtain ⟨ms, hms, hperforms⟩ := custody_run h₀.wellFormed h
  rw [h₀.transfers] at hms
  rw [sum_eq_of_forall₂ hperforms fun _ _ hlm => hlm.paid id, Custody.paid_eq hms id, Custody.due]
  rw [Storage.getTransfer] at ht
  rw [ht]
  rfl

/-! ### The step that settles -/

/-- A transfer that is no longer pending was settled by a step of the run. -/
theorem exists_settles (h₀ : Fresh H w₀) (h : (contract H).lts.Run w₀ ls w)
    (ht : w.store.getTransfer id = some t) (hp : t.status ≠ .pending) :
    ∃ ls₁ ls₂ w₁ w₂ env c r t₁, ls = ls₁ ++
        .call env c (.done r w₂.ledger.transfers w₂.events) :: ls₂ ∧
      (contract H).lts.Run w₀ ls₁ w₁ ∧ Settles H env c id t₁ t w₁.clear w₂ := by
  obtain ⟨ls₁, l, ls₂, w₁, w₂, hls, h₁, hn, hst, ⟨t₂, ht₂, hp₂⟩, h₂⟩ :=
    h.exists_switch (P := fun w => ∃ t, w.store.getTransfer id = some t ∧ t.status ≠ .pending)
      (by rintro ⟨t, ht, -⟩; simp [Storage.getTransfer, h₀.transfers] at ht) ⟨t, ht, hp⟩
  have hw₁ := h₀.wellFormed_of_reachable ⟨_, h₁⟩
  -- A settled record is final, so the one at the end is the one that the step left.
  obtain rfl : t = t₂ := by
    obtain ⟨t', ht', -, hfinal⟩ := transfer_stable (hw₁.step hst) h₂ ht₂
    rw [ht, Option.some.injEq] at ht'
    exact ht'.trans (hfinal hp₂)
  rw [Storage.getTransfer] at ht₂
  rcases step_cases hw₁ hst with hq | ⟨env, c, r, rfl, hs, hc | ⟨t₃, hc⟩ | ⟨id', t₁, t', hc⟩⟩
  · exact absurd ⟨t, by rwa [hq.store] at ht₂, hp⟩ hn
  · exact absurd ⟨t, by rwa [hc.transfers] at ht₂, hp⟩ hn
  · -- A new record is pending.
    rw [hc.transfers, Store.lookup_insert_ite] at ht₂
    split_ifs at ht₂
    · rw [← Option.some.inj ht₂, hc.record] at hp
      exact absurd rfl hp
    · exact absurd ⟨t, ht₂, hp⟩ hn
  · have hkey := (hw₁.clear.records _ _ hc.stored).keyed
    rw [hc.transfers, hkey, Store.lookup_insert_ite] at ht₂
    split_ifs at ht₂ with hid
    · obtain rfl := Option.some.inj ht₂
      exact ⟨ls₁, ls₂, w₁, w₂, env, c, r, t₁, hls, h₁, hid ▸ hc⟩
    · exact absurd ⟨t, ht₂, hp⟩ hn

/-- What the record of a settled transfer says about the call that settled it. -/
theorem Settles.settledBy {env : Env} {c : Call} {r : Ret} {t₁ : Transfer} (hw : WellFormed H w)
    (h : Settles H env c id t₁ t w.clear w') :
    SettledBy H w t (.call env c (.done r w'.ledger.transfers w'.events)) := by
  obtain ⟨payments, hsettlement, hledger⟩ := h.settlement
  obtain ⟨config, hconfig, hfeeBps⟩ := hw.config
  have hsound := hw.records _ _ h.stored
  have hms : w'.ledger.transfers = payments := by
    rw [hledger, Ledger.apply_transfers, World.clear_transfers, List.nil_append]
  rw [hms]
  generalize w'.peers = peers at hsettlement
  obtain rfl := hsound.keyed
  cases hsettlement with
  | claimed hagent hconfig' hexp hne hhash hauth hfee hpayout =>
    obtain rfl := Option.some.inj (hconfig.symm.trans hconfig')
    exact .claimed rfl hagent (Ne.symm hne) hconfig (congrArg Prod.fst hauth) hhash rfl
      hsound.created hexp rfl (feeFor_nonneg hsound.positive.le hfee)
      (feeFor_le hsound.positive.le hfeeBps hfee) hpayout
  | cancelled hs => exact .cancelled (t := t₁.settle ..) rfl hs
  | refunded hexp => exact .refunded (t := t₁.settle ..) rfl rfl hexp

/-! ### The lifecycle -/

/-- A successful creation stores the transfer it was asked for. -/
theorem getTransfer_of_create {env : Env} {sender token : Address} {amount : I128}
    {claimHash : BytesN 32} {corridorId : Symbol} {expiry : U64} {payments : List TokenTransfer}
    {events : List Event} (h : (contract H).lts.step w (.call env
      (.createTransfer sender amount token claimHash corridorId expiry)
      (.done (.id id) payments events)) w') :
    w'.store.getTransfer id =
      some (.lock id sender amount token claimHash corridorId expiry w.ledger.timestamp) := by
  cases h with
  | done hs h =>
    obtain ⟨id', h₁, hret⟩ := Exec.bind_pure_ok.1 h
    obtain rfl := Ret.id.inj hret
    have hlocks := locks_of_createTransfer h₁
    rw [Storage.getTransfer, hlocks.transfers, Transfer.lock_id, AList.lookup_insert]
    rfl

/-- **The life of a transfer.**  Take any run in which a transfer is created and any later point of
that run.  The terms of the transfer are still those of the call that created it; it has been paid
out nothing while it is pending and exactly its amount once it is settled; a settled record never
changes again, and some step of the run settled it in the way it says. -/
theorem transfer_lifecycle {env : Env} {sender token : Address} {amount : I128}
    {claimHash : BytesN 32} {corridorId : Symbol} {expiry : U64} {payments : List TokenTransfer}
    {events : List Event} {ls₁ ls₂ : List (Label ω)} (h₀ : Fresh H w₀)
    (h₁ : (contract H).lts.Run w₀ ls₁ w₁)
    (hl : l = .call env (.createTransfer sender amount token claimHash corridorId expiry)
      (.done (.id id) payments events))
    (hc : (contract H).lts.step w₁ l w₂) (h₂ : (contract H).lts.Run w₂ ls₂ w) :
    ∃ t, w.store.getTransfer id = some t ∧
      (t.id = id ∧ t.sender = sender ∧ t.amount = amount ∧ t.token = token ∧
        t.claimHash = claimHash ∧ t.corridorId = corridorId ∧ t.expiry = expiry ∧
        t.createdAt = w₁.ledger.timestamp) ∧
      ((ls₁ ++ l :: ls₂).map (paidFor H id)).sum =
        (if t.status = .pending then 0 else amount.val) ∧
      (t.status ≠ .pending →
        (∀ ls₃ w', (contract H).lts.Run w ls₃ w' → w'.store.getTransfer id = some t) ∧
        ∃ ls₃ l' ls₄ w₃, ls₁ ++ l :: ls₂ = ls₃ ++ l' :: ls₄ ∧
          (contract H).lts.Run w₀ ls₃ w₃ ∧ SettledBy H w₃ t l') := by
  subst hl
  have hw₁ := h₀.wellFormed_of_reachable ⟨_, h₁⟩
  have hrun := h₁.append (.cons hc h₂)
  obtain ⟨t, ht, hterms, -⟩ := transfer_stable (hw₁.step hc) h₂ (getTransfer_of_create hc)
  simp only [terms, Terms.mk.injEq] at hterms
  obtain ⟨hid, hsender, hamount, htoken, hhash, hcorridor, hexpiry, hcreated⟩ := hterms
  refine ⟨t, ht, ⟨hid, hsender, hamount, htoken, hhash, hcorridor, hexpiry, hcreated⟩, ?_,
    fun hp => ⟨?_, ?_⟩⟩
  · rw [sum_paidFor h₀ hrun ht]
    exact congrArg (fun a : I128 => if t.status = .pending then 0 else a.val) hamount
  · intro ls₃ w' h₃
    obtain ⟨t', ht', -, hfinal⟩ := transfer_stable (h₀.wellFormed_of_reachable ⟨_, hrun⟩) h₃ ht
    rw [ht', hfinal hp]
  · obtain ⟨ls₃, ls₄, w₃, w₄, env', c, r, t₁, hls, h₃, hsettles⟩ := exists_settles h₀ hrun ht hp
    exact ⟨ls₃, _, ls₄, w₃, hls, h₃,
      hsettles.settledBy (h₀.wellFormed_of_reachable ⟨_, h₃⟩)⟩

theorem transfer_lifecycle_sample : ∃ t, Sample.final.store.getTransfer 1 = some t ∧
    t.status = .claimed ∧ t.sender = Sample.alice ∧ t.amount = 100 := by
  have hc : (contract Sample.host).lts.step Sample.start (.call (Sample.signedBy Sample.alice)
      Sample.createAlice (.done (.id 1) [⟨Sample.usd, Sample.alice, ⟨0⟩, 100⟩]
        Sample.created.events)) Sample.created :=
    Contract.step_done rfl rfl rfl rfl
  obtain ⟨t, ht, ⟨-, hsender, hamount, -⟩, -⟩ := transfer_lifecycle Sample.fresh_start (.nil _) rfl
    hc (Contract.play_run Sample.script rfl)
  have hstatus : (Sample.final.store.getTransfer 1).map (·.status) = some .claimed := rfl
  rw [Sample.final, ht, Option.map_some, Option.some.injEq] at hstatus
  exact ⟨t, ht, hstatus, hsender, hamount⟩

end Escrow

end RemitBridge
