import RemitBridge.Custody.Basic
import RemitBridge.Escrow.Spec

/-!
# The escrow as a custodian

The transfers in the escrow's storage are a book of conditional payments in the sense of
`Custody`, and every step of the escrow is a step of that book.

## Main definitions

* `scheme` : what of a transfer is fixed, and when it waits for its settlement.
* `WellFormed` : the invariant of the escrow's storage.
* `Performs` : the step of the book that a step of the escrow performs.

## Main results

* `WellFormed.step` : the invariant is kept by every step.
* `custody_step` : every step of the escrow is a step of the book.
* `surplus_step` : what the escrow holds beyond the pending amounts changes by what is donated,
  and by the fees that it pays to itself.
-/

namespace RemitBridge

namespace Escrow

open TransitionSystem

variable {ω : Type} {H : Host ω} {w w' : World ω} {l : Label ω}

/-- The part of a transfer that is fixed when it is created. -/
structure Terms where
  id : U64
  sender : Address
  amount : I128
  token : Address
  claimHash : BytesN 32
  corridorId : Symbol
  expiry : U64
  createdAt : U64

def terms (t : Transfer) : Terms :=
  ⟨t.id, t.sender, t.amount, t.token, t.claimHash, t.corridorId, t.expiry, t.createdAt⟩

/-- Transfers as conditional payments. -/
@[simps] def scheme : Custody.Scheme Transfer Terms Address where
  terms := terms
  pending t := t.status = .pending
  amount t := t.amount.val
  asset t := t.token

instance : DecidablePred scheme.pending := fun t => decEq t.status .pending

/-- What the pending transfers lock of the token `a`. -/
def pendingTotal (a : Address) (s : Storage) : ℤ := Custody.held scheme a s.transfers

/-! ### The invariant -/

/-- What the escrow guarantees about the record stored at `id`. -/
structure Sound (H : Host ω) (w : World ω) (id : U64) (t : Transfer) : Prop where
  keyed : t.id = id
  counted : id ≤ w.store.transferCount
  positive : 0 < t.amount.val
  created : t.createdAt ≤ w.ledger.timestamp
  sender : t.sender ≠ H.self

/-- The invariant of the escrow. -/
structure WellFormed (H : Host ω) (w : World ω) : Prop where
  admin : w.store.admin.isSome
  config : ∃ config, w.store.config = some config ∧ config.feeBps ≤ maxFeeBps
  records : Store.All (Sound H w) w.store.transfers
  volume : w.store.getStats.volumeLocked.val =
    w.store.transfers.total fun _ t => if t.status = .pending then t.amount.val else 0

/-- A world in which the escrow has just been initialised. -/
structure Fresh (H : Host ω) (w : World ω) : Prop where
  initialized : ∃ (env : Env) (admin agentRegistry complianceHook treasury : Address)
    (feeBps : U32) (maxExpirySecs : U64) (blank : World ω), blank.store = .blank ∧
    initializeContract env admin agentRegistry complianceHook treasury feeBps maxExpirySecs blank =
      .ok ((), w)
  balance_nonneg : ∀ a, 0 ≤ w.ledger.balance a H.self

theorem Fresh.store (h : Fresh H w) : ∃ admin config, config.feeBps ≤ maxFeeBps ∧
    w.store = ⟨some admin, some config, some .zero, none, ∅, ∅⟩ := by
  obtain ⟨env, admin, registry, hook, treasury, fee, secs, blank, hblank, h⟩ := h.initialized
  simp [initializeContract, hblank, Storage.blank] at h
  obtain ⟨⟨hfee, -⟩, -, rfl⟩ := h
  exact ⟨admin, ⟨registry, hook, treasury, fee, false, secs⟩, hfee, rfl⟩

theorem Fresh.transfers (h : Fresh H w) : w.store.transfers = ∅ := by
  obtain ⟨admin, config, -, hs⟩ := h.store
  rw [hs]

theorem Fresh.wellFormed (h : Fresh H w) : WellFormed H w := by
  obtain ⟨admin, config, hfee, hs⟩ := h.store
  refine ⟨by simp [hs], ⟨config, by simp [hs], hfee⟩, ?_, ?_⟩
  · simp [hs, Store.all_empty]
  · simp [hs, Storage.getStats, EscrowStats.zero]

/-! ### Settlements -/

namespace Settlement

variable {env : Env} {c : Call} {id : U64} {t t' : Transfer} {payments : List TokenTransfer}
  {peers : ω}

theorem terms_eq (h : Settlement H env id t w c t' payments peers) : terms t' = terms t := by
  cases h <;> rfl

theorem status_ne (h : Settlement H env id t w c t' payments peers) : t'.status ≠ .pending := by
  cases h <;> nofun

theorem settles_eq (h : Settlement H env id t w c t' payments peers) : c.settles = some id := by
  cases h <;> rfl

end Settlement

/-! ### The invariant is kept -/

section Invariant

variable {env : Env} {c : Call} {r : Ret}

/-- A new id is not in use. -/
theorem WellFormed.fresh_id {t : Transfer} (hw : WellFormed H w) (h : Locks H env c r t w w') :
    w.store.transfers.lookup t.id = none := by
  cases ht : w.store.transfers.lookup t.id with
  | none => rfl
  | some t' =>
    have hle := (hw.records _ _ ht).counted
    rw [MachineInt.le_def, h.id] at hle
    omega

/-- The invariant is about the storage and the clock, which only moves forward. -/
theorem WellFormed.congr (hw : WellFormed H w) (hstore : w'.store = w.store)
    (htime : w.ledger.timestamp ≤ w'.ledger.timestamp) : WellFormed H w' := by
  refine ⟨hstore ▸ hw.admin, hstore ▸ hw.config, ?_, hstore ▸ hw.volume⟩
  rw [hstore]
  exact hw.records.imp fun id t ht =>
    { ht with
      counted := hstore ▸ ht.counted
      created := ht.created.trans htime }

theorem WellFormed.clear (hw : WellFormed H w) : WellFormed H w.clear := hw.congr rfl le_rfl

theorem WellFormed.configures (hw : WellFormed H w) (h : Configures c w w') :
    WellFormed H w' where
  admin := h.admin
  config := by
    obtain ⟨config, hconfig, hfee⟩ := hw.config
    obtain ⟨config', hconfig', hfee', -⟩ := h.config config hconfig
    exact ⟨config', hconfig', hfee'.elim (fun he => he ▸ hfee) id⟩
  records := by
    rw [h.transfers]
    exact hw.records.imp fun id t ht =>
      { ht with
        counted := h.transferCount ▸ ht.counted
        created := h.ledger ▸ ht.created }
  volume := by rw [h.stats, h.transfers, hw.volume]

theorem WellFormed.locks {t : Transfer} (hw : WellFormed H w) (hs : env.signed H.self = false)
    (h : Locks H env c r t w w') : WellFormed H w' where
  admin := h.admin ▸ hw.admin
  config := h.config ▸ hw.config
  records := by
    rw [h.transfers]
    refine (hw.records.imp fun id t' ht' => ?_).insert ?_
    · refine { ht' with counted := ht'.counted.trans ?_, created := ?_ }
      · rw [h.transferCount, MachineInt.le_def, h.id]
        omega
      · rw [h.ledger]
        exact ht'.created
    · refine ⟨rfl, h.transferCount ▸ le_rfl, h.positive, ?_, ?_⟩
      · rw [h.ledger, h.record]
        exact le_rfl
      · exact (Env.ne_of_signed hs h.signed).symm
  volume := by
    have hp : t.status = .pending := by rw [h.record, Transfer.lock_status]
    rw [h.volumeLocked, h.transfers, Store.total_insert_of_none (hw.fresh_id h), hw.volume,
      if_pos hp]

theorem WellFormed.settles {id : U64} {t t' : Transfer} (hw : WellFormed H w)
    (h : Settles H env c id t t' w w') : WellFormed H w' := by
  obtain ⟨payments, hsettlement, hledger⟩ := h.settlement
  have ht := hw.records _ _ h.stored
  refine ⟨h.admin ▸ hw.admin, h.config ▸ hw.config, ?_, ?_⟩
  · rw [h.transfers]
    have hsound : ∀ id t, Sound H w id t → Sound H w' id t := fun id t ht =>
      { ht with
        counted := h.transferCount ▸ ht.counted
        created := by rw [hledger, Ledger.apply_timestamp]; exact ht.created }
    have hterms := hsettlement.terms_eq
    simp only [terms, Terms.mk.injEq] at hterms
    obtain ⟨hid, hsender, hamount, -, -, -, -, hcreated⟩ := hterms
    refine (hw.records.imp hsound).insert (hsound _ _ ?_)
    exact ⟨hid, ht.keyed ▸ ht.counted, hamount ▸ ht.positive, hcreated ▸ ht.created,
      hsender ▸ ht.sender⟩
  · rw [h.volumeLocked, h.transfers, ht.keyed, Store.total_insert_of_lookup h.stored, hw.volume,
      if_pos h.pending, if_neg hsettlement.status_ne]
    omega

/-- A step is quiet, or an invocation that configures, locks or settles. -/
theorem step_cases (hw : WellFormed H w) (h : (contract H).lts.step w l w') :
    (contract H).Quiet w l w' ∨ ∃ env c r,
      l = .call env c (.done r w'.ledger.transfers w'.events) ∧ env.signed H.self = false ∧
      (Configures c w.clear w' ∨ (∃ t, Locks H env c r t w.clear w') ∨
        ∃ id t t', Settles H env c id t t' w.clear w') := by
  rcases Contract.step_cases h with hq | ⟨env, c, r, rfl, hs, h⟩
  · exact .inl hq
  · exact .inr ⟨env, c, r, rfl, hs, invoke_cases (w := w.clear) hw.admin h⟩

/-- **The invariant is kept by every step.** -/
theorem WellFormed.step (hw : WellFormed H w) (h : (contract H).lts.step w l w') :
    WellFormed H w' := by
  rcases step_cases hw h with hq | ⟨env, c, r, -, hs, h⟩
  · exact hw.congr hq.store hq.timestamp
  · have hc := hw.clear
    rcases h with hc' | ⟨t, hl⟩ | ⟨id, t, t', hst⟩
    · exact hc.configures hc'
    · exact hc.locks hs hl
    · exact hc.settles hst

end Invariant

/-! ### Refinement -/

/-- What a call pays out on account of the transfer `id`. -/
def paidFor (H : Host ω) (id : U64) : Label ω → ℤ
  | .call _ c (.done _ payments _) =>
    if c.settles = some id then
      (payments.map fun m => if m.source = H.self then m.amount.val else 0).sum
    else 0
  | _ => 0

theorem paidFor_of_transfers {id : U64} (h : l.transfers = []) : paidFor H id l = 0 := by
  rcases l with ⟨_, c, ⟨_, payments, _⟩ | _⟩ | _ | _ | _ <;> try rfl
  obtain rfl : payments = [] := h
  simp [paidFor]

/-- The step of the book that a step of the escrow performs. -/
inductive Performs (H : Host ω) : Label ω → Custody.Label U64 Transfer → Prop
  | idle {l : Label ω} : l.transfers = [] → Performs H l .idle
  | lock {env : Env} {c : Call} {events : List Event} {t : Transfer} : c.settles = none →
      Performs H (.call env c (.done (.id t.id) [⟨t.token, t.sender, H.self, t.amount⟩] events))
        (.lock t.id t)
  | settle {env : Env} {c : Call} {id : U64} {t t' : Transfer} {w : World ω}
      {payments : List TokenTransfer} {peers : ω} {r : Ret} {events : List Event} :
      0 < t.amount.val → Settlement H env id t w c t' payments peers →
      Performs H (.call env c (.done r payments events)) (.settle id t t')

theorem Settlement.paid {env : Env} {c : Call} {id : U64} {t t' : Transfer}
    {payments : List TokenTransfer} {peers : ω}
    (h : Settlement H env id t w c t' payments peers) (hpos : 0 < t.amount.val) :
    (payments.map fun m => if m.source = H.self then m.amount.val else 0).sum = t.amount.val := by
  cases h with
  | claimed _ _ _ _ _ _ hfee hpayout =>
    have hnn := feeFor_nonneg hpos.le hfee
    simp only [List.map_cons, List.sum_cons, if_true, hpayout, feeTransfers]
    split_ifs with hf
    · simp
    · simp
      omega
  | cancelled => simp
  | refunded => simp

/-- What the escrow pays out for a transfer is what the book says. -/
theorem Performs.paid {m : Custody.Label U64 Transfer} (h : Performs H l m) (id : U64) :
    paidFor H id l = Custody.paid scheme id m := by
  cases h with
  | idle h => exact paidFor_of_transfers h
  | lock h => simp [paidFor, h, Custody.paid]
  | settle hpos h =>
    simp only [paidFor, h.settles_eq, Option.some.injEq, Custody.paid, h.paid hpos,
      scheme_amount, scheme_terms, terms]

section

variable {env : Env} {c : Call} {r : Ret}

theorem Locks.custody {t : Transfer} (h : Locks H env c r t w w') (hw : WellFormed H w) :
    Custody.Step scheme w.store.transfers (.lock t.id t) w'.store.transfers := by
  rw [h.transfers]
  exact .lock (hw.fresh_id h) (by rw [h.record]; rfl)

theorem Settles.custody {id : U64} {t t' : Transfer} (h : Settles H env c id t t' w w')
    (hw : WellFormed H w) :
    Custody.Step scheme w.store.transfers (.settle id t t') w'.store.transfers := by
  obtain ⟨payments, hsettlement, -⟩ := h.settlement
  rw [h.transfers, (hw.records _ _ h.stored).keyed]
  exact .settle h.stored h.pending hsettlement.status_ne hsettlement.terms_eq

end

/-- **The escrow is a custodian**: every step of it is a step of the book of its transfers. -/
theorem custody_step (hw : WellFormed H w) (h : (contract H).lts.step w l w') :
    ∃ m, Performs H l m ∧ (Custody.lts scheme).step w.store.transfers m w'.store.transfers := by
  rcases step_cases hw h with hq | ⟨env, c, r, rfl, hs, h⟩
  · exact ⟨.idle, .idle hq.transfers, by rw [hq.store]; exact .idle⟩
  · have hc := hw.clear
    rcases h with hc' | ⟨t, hl⟩ | ⟨id, t, t', hst⟩
    · refine ⟨.idle, .idle ?_, by rw [hc'.transfers]; exact .idle⟩
      exact congrArg Ledger.transfers hc'.ledger
    · refine ⟨_, ?_, hl.custody hc⟩
      rw [hl.ret, hl.ledger]
      exact .lock (by rw [hl.call]; rfl)
    · obtain ⟨payments, hsettlement, hledger⟩ := hst.settlement
      refine ⟨_, ?_, hst.custody hc⟩
      rw [hledger, Ledger.apply_transfers, World.clear_transfers, List.nil_append]
      exact .settle (hc.records _ _ hst.stored).positive hsettlement

/-! ### The funds beyond the pending amounts -/

/-- What the escrow holds of the token `a` beyond the pending amounts. -/
def surplus (H : Host ω) (a : Address) (w : World ω) : ℤ :=
  w.ledger.balance a H.self - pendingTotal a w.store

/-- The treasury is not the escrow itself. -/
def TreasuryApart (H : Host ω) (s : Storage) : Prop :=
  ∀ config, s.config = some config → config.treasury ≠ H.self

theorem netFlow_feeTransfers {token treasury : Address} {fee : I128} (a : Address)
    (h : 0 ≤ fee.val) : netFlow a H.self (feeTransfers H token treasury fee) =
      (if a = token ∧ H.self = treasury then fee.val else 0) -
        if a = token then fee.val else 0 := by
  unfold feeTransfers
  split_ifs <;> simp_all [netFlow_cons]
  omega

/-- A settlement takes the amount out of the escrow, except for a fee it pays to itself. -/
theorem Settlement.netFlow_eq {env : Env} {c : Call} {id : U64} {t t' : Transfer}
    {payments : List TokenTransfer} {peers : ω}
    (h : Settlement H env id t w c t' payments peers) (hpos : 0 < t.amount.val)
    (hs : env.signed H.self = false) (hsender : t.sender ≠ H.self) (a : Address) :
    ∃ kept, 0 ≤ kept ∧ (TreasuryApart H w.store → kept = 0) ∧
      netFlow a H.self payments = kept - if t.token = a then t.amount.val else 0 := by
  cases h with
  | @claimed agent _ config fee _ _ hagent hconfig _ _ _ _ hfee hpayout =>
    have hnn := feeFor_nonneg hpos.le hfee
    have hne : H.self ≠ agent := Env.ne_of_signed hs hagent
    refine ⟨if a = t.token ∧ H.self = config.treasury then fee.val else 0, ?_, ?_, ?_⟩
    · split_ifs <;> omega
    · exact fun hapart => if_neg fun h => hapart config hconfig h.2.symm
    · rw [netFlow_cons, netFlow_feeTransfers a hnn]
      simp only [hne, and_false, and_true, if_false, hpayout, eq_comm (a := t.token)]
      split_ifs <;> omega
  | cancelled => exact ⟨0, le_rfl, fun _ => rfl, by simp [netFlow_cons, hsender.symm, eq_comm]⟩
  | refunded => exact ⟨0, le_rfl, fun _ => rfl, by simp [netFlow_cons, hsender.symm, eq_comm]⟩

/-- **The surplus only grows**: by what is donated, and by the fees that the escrow pays to
itself, if it is its own treasury. -/
theorem surplus_step (hw : WellFormed H w) (h : (contract H).lts.step w l w') (a : Address) :
    ∃ kept, 0 ≤ kept ∧ (TreasuryApart H w.store → kept = 0) ∧
      surplus H a w' = surplus H a w + (l.donated a + kept) := by
  unfold surplus pendingTotal
  rcases step_cases hw h with hq | ⟨env, c, r, rfl, hs, h⟩
  · refine ⟨0, le_rfl, fun _ => rfl, ?_⟩
    have hb : w'.ledger.balance a H.self = w.ledger.balance a H.self + _ := hq.balance a
    rw [hq.store, hb]
    omega
  · have hc := hw.clear
    simp only [Action.donated, zero_add]
    rcases h with hc' | ⟨t, hl⟩ | ⟨id, t, t', hst⟩
    · refine ⟨0, le_rfl, fun _ => rfl, ?_⟩
      rw [hc'.transfers, hc'.ledger]
      simp
    · -- The sender signed and the escrow did not, so the amount comes from outside.
      have hne : H.self ≠ t.sender := Env.ne_of_signed hs hl.signed
      refine ⟨0, le_rfl, fun _ => rfl, ?_⟩
      rw [Custody.held_step (hl.custody hc) a, hl.ledger, Ledger.move_balance, netFlow_cons]
      simp [Custody.locked, Custody.released, hne, terms, eq_comm]
    · obtain ⟨payments, hsettlement, hledger⟩ := hst.settlement
      have hsound := hc.records _ _ hst.stored
      -- What is kept is the fee of an escrow that is its own treasury.
      obtain ⟨kept, hkept, hapart, hflow⟩ :=
        hsettlement.netFlow_eq hsound.positive hs hsound.sender a
      refine ⟨kept, hkept, hapart, ?_⟩
      rw [Custody.held_step (hst.custody hc) a, hledger, Ledger.apply_balance, hflow]
      simp only [Custody.locked, Custody.released, scheme_asset, scheme_amount, scheme_terms,
        terms, World.clear_balance, World.clear_store]
      omega

end Escrow

end RemitBridge
