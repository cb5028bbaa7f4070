import RemitBridge.Escrow.Custody

/-!
# Solvency of the escrow

What the escrow holds of a token is what its pending transfers lock, plus what it was given
outside its entry points (`balance_eq_pending`).  It follows that nothing the escrow depends on
can block a refund or a cancellation (`refund_enabled`).
-/

namespace RemitBridge

namespace Escrow

open TransitionSystem Exec

variable {ω : Type} {H : Host ω} {w₀ w w' : World ω} {l : Label ω} {ls : List (Label ω)}

theorem Fresh.wellFormed_of_reachable (h₀ : Fresh H w₀) (h : (contract H).lts.Reachable w₀ w) :
    WellFormed H w :=
  h.invariant h₀.wellFormed fun _ _ _ hw hst => hw.step hst

theorem Fresh.pendingTotal (h : Fresh H w) (a : Address) : pendingTotal a w.store = 0 := by
  rw [Escrow.pendingTotal, h.transfers]
  rfl

/-- The step does not make the escrow its own treasury. -/
def SetsTreasuryApart (H : Host ω) : Label ω → Prop
  | .call _ (.setTreasury treasury) _ => treasury ≠ H.self
  | _ => True

theorem TreasuryApart.step (hw : WellFormed H w) (ht : TreasuryApart H w.store)
    (hl : SetsTreasuryApart H l) (h : (contract H).lts.step w l w') :
    TreasuryApart H w'.store := by
  rcases step_cases hw h with hq | ⟨env, c, r, rfl, hs, hc | ⟨t, hc⟩ | ⟨id, t, t', hc⟩⟩
  · exact hq.store ▸ ht
  · intro config' hconfig'
    obtain ⟨config, hconfig, -⟩ := hw.config
    obtain ⟨config'', hconfig'', -, htreasury, -⟩ := hc.config config hconfig
    obtain rfl : config'' = config' := Option.some.inj (hconfig''.symm.trans hconfig')
    rcases htreasury with he | rfl
    · exact he ▸ ht config hconfig
    · exact hl
  · intro config hconfig
    exact ht config (hc.config ▸ hconfig)
  · intro config hconfig
    exact ht config (hc.config ▸ hconfig)

/-! ### A sample run -/

namespace Sample

/-- The SHA-256 digest of 32 zero bytes. -/
def zeroDigest : BytesN 32 where
  bytes :=
    [102, 104, 122, 173, 248, 98, 189, 119, 108, 143, 193, 139, 142, 159, 142, 32, 8, 151, 20,
    133, 110, 226, 51, 179, 144, 42, 89, 29, 13, 95, 41, 37]
  length_eq := rfl

/-- A host whose hook and registry agree to everything. -/
def host : Host Unit where
  self := ⟨0⟩
  sha256 _ := zeroDigest
  tryCommitTransfer _ _ _ _ amount _ u := (.ok amount, u)
  tryIsAuthorizedForCorridor _ _ _ _ _ u := (.ok true, u)

/-- An invocation signed by `a`, with tokens that refuse nothing. -/
def signedBy (a : Address) : Env := ⟨fun b => decide (b = a), fun _ => true⟩

def alice : Address := ⟨1⟩

def bob : Address := ⟨2⟩

def agent : Address := ⟨3⟩

def treasury : Address := ⟨4⟩

def usd : Address := ⟨7⟩

/-- Every account but the escrow holds a thousand units of every token. -/
def blank : World Unit where
  store := .blank
  ledger := ⟨1000, fun _ a => if a = host.self then 0 else 1000, []⟩
  events := []
  peers := ()

/-- The escrow with a fee of 1%. -/
def start : World Unit :=
  { blank with store :=
    ⟨some ⟨9⟩, some ⟨⟨5⟩, ⟨6⟩, treasury, 100, false, 5000⟩, some .zero, none, ∅, ∅⟩ }

/-- Alice's transfer of 100 units. -/
def createAlice : Call := .createTransfer alice 100 usd zeroDigest ⟨"SN-ML"⟩ 1400

/-- Then Bob makes one, the agent claims the first, and the second expires. -/
def script : List (Contract.Input Call) :=
  [.call (signedBy bob) (.createTransfer bob 250 usd zeroDigest ⟨"SN-ML"⟩ 1500),
    .call (signedBy agent) (.claimTransfer agent 1 ⟨List.replicate 32 0, rfl⟩), .wait 1600]

/-- After Alice's call. -/
def created : World Unit := (contract host).play start [.call (signedBy alice) createAlice]

/-- After the script. -/
def final : World Unit := (contract host).play created script

theorem fresh_start : Fresh host start where
  initialized := ⟨signedBy ⟨9⟩, ⟨9⟩, ⟨5⟩, ⟨6⟩, treasury, 100, 5000, blank, rfl, rfl⟩
  balance_nonneg _ := le_rfl

theorem final_run : (contract host).lts.Run start
    ((contract host).trace start (.call (signedBy alice) createAlice :: script)) final :=
  Contract.play_run (.call (signedBy alice) createAlice :: script) rfl

end Sample

/-- **Escrow solvency.**  As long as the escrow is not made its own treasury, its balance of every
token is the total amount of the pending transfers in that token, plus what it held at the start
and what it was given since. -/
theorem balance_eq_pending (h₀ : Fresh H w₀) (ht₀ : TreasuryApart H w₀.store)
    (h : (contract H).lts.Run w₀ ls w) (hls : ∀ l ∈ ls, SetsTreasuryApart H l) (a : Address) :
    w.ledger.balance a H.self =
      (w.store.transfers.total fun _ t =>
        if t.status = .pending ∧ t.token = a then t.amount.val else 0) +
      (w₀.ledger.balance a H.self + (ls.map (Action.donated a)).sum) := by
  have hsurplus := (h.restrict_of_labels hls).eq_add_sum
    (I := fun w => WellFormed H w ∧ TreasuryApart H w.store) (f := surplus H a)
    (g := Action.donated a) ⟨h₀.wellFormed, ht₀⟩
    (fun _ _ _ hw hst => ⟨hw.1.step hst.1, hw.2.step hw.1 hst.2 hst.1⟩)
    (fun _ _ _ hw hst => by
      obtain ⟨kept, -, hkept, he⟩ := surplus_step hw.1 hst.1 a
      rw [he, hkept hw.2, add_zero])
  have hstart := h₀.pendingTotal a
  have htotal : pendingTotal a w.store = w.store.transfers.total fun _ t =>
      if t.status = .pending ∧ t.token = a then t.amount.val else 0 := rfl
  unfold surplus at hsurplus
  omega

theorem balance_eq_pending_sample :
    Sample.final.ledger.balance Sample.usd ⟨0⟩ = 250 + (0 + 0) :=
  balance_eq_pending Sample.fresh_start (by rintro config ⟨⟩; decide) Sample.final_run
    (List.forall_iff_forall_mem.1 ⟨trivial, trivial, trivial, trivial⟩) Sample.usd

/-- The balance covers the pending amounts, whoever the treasury is. -/
theorem pendingTotal_le_balance (h₀ : Fresh H w₀) (h : (contract H).lts.Reachable w₀ w)
    (a : Address) : pendingTotal a w.store ≤ w.ledger.balance a H.self := by
  have hI : WellFormed H w ∧ 0 ≤ surplus H a w := by
    refine h.invariant (I := fun w => WellFormed H w ∧ 0 ≤ surplus H a w)
      ⟨h₀.wellFormed, ?_⟩ fun s l s' hs hst => ⟨hs.1.step hst, ?_⟩
    · rw [surplus, h₀.pendingTotal a, sub_zero]
      exact h₀.balance_nonneg a
    · obtain ⟨kept, hkept, -, he⟩ := surplus_step hs.1 hst a
      have hd := Contract.donated_nonneg hst a
      have := hs.2
      omega
  have := hI.2
  unfold surplus at this
  omega

/-- The counter of locked volume, which spans all tokens, covers every pending transfer. -/
theorem WellFormed.amount_le_volumeLocked (hw : WellFormed H w) {id : U64} {t : Transfer}
    (ht : w.store.transfers.lookup id = some t) (hp : t.status = .pending) :
    t.amount.val ≤ w.store.getStats.volumeLocked.val := by
  rw [hw.volume]
  refine le_of_eq_of_le ?_ (Store.le_total (fun id t ht => ?_) ht)
  · rw [if_pos hp]
  · split_ifs
    · exact (hw.records _ _ ht).positive.le
    · exact le_rfl

theorem amount_le_balance (h₀ : Fresh H w₀) (h : (contract H).lts.Reachable w₀ w) {id : U64}
    {t : Transfer} (ht : w.store.transfers.lookup id = some t) (hp : t.status = .pending) :
    t.amount.val ≤ w.ledger.balance t.token H.self :=
  (Custody.amount_le_held
    (fun _ _ ht => ((h₀.wellFormed_of_reachable h).records _ _ ht).positive.le) ht hp).trans
      (pendingTotal_le_balance h₀ h t.token)

/-- The volume left after a pending transfer is released fits its type. -/
theorem WellFormed.exists_volume (hw : WellFormed H w) {id : U64} {t : Transfer}
    (ht : w.store.transfers.lookup id = some t) (hp : t.status = .pending) :
    ∃ volume : I128, volume.val = w.store.getStats.volumeLocked.val - t.amount.val := by
  have hle := hw.amount_le_volumeLocked ht hp
  have hpos := (hw.records _ _ ht).positive
  have hhi := w.store.getStats.volumeLocked.le_hi
  exact ⟨⟨_, by omega, by omega⟩, rfl⟩

/-- **Refunds cannot be blocked.**  In every reachable state the funds of a pending transfer are
there, the counter of locked volume covers them, and as long as the token is willing to pay the
sender, anybody can have it refunded once it has expired and its sender can cancel it at any
time. -/
theorem refund_enabled (h₀ : Fresh H w₀) (h : (contract H).lts.Reachable w₀ w) {id : U64}
    {t : Transfer} (ht : w.store.getTransfer id = some t) (hp : t.status = .pending) :
    t.amount.val ≤ w.store.getStats.volumeLocked.val ∧
    t.amount.val ≤ w.ledger.balance t.token H.self ∧
    ∀ env : Env, env.signed H.self = false →
      env.accepts ⟨t.token, H.self, t.sender, t.amount⟩ = true →
      (t.expiry < w.ledger.timestamp → ∃ w',
        (contract H).lts.step w (.call env (.refundExpired id)
          (.done .unit [⟨t.token, H.self, t.sender, t.amount⟩]
            [.transferRefunded id t.sender t.amount t.corridorId])) w' ∧
        (∃ t', w'.store.getTransfer id = some t' ∧ t'.status = .refunded) ∧
        w'.ledger.balance t.token t.sender = w.ledger.balance t.token t.sender + t.amount.val) ∧
      (env.signed t.sender = true → ∃ w',
        (contract H).lts.step w (.call env (.cancelTransfer t.sender id)
          (.done .unit [⟨t.token, H.self, t.sender, t.amount⟩]
            [.transferCancelled id t.sender t.amount t.corridorId])) w' ∧
        (∃ t', w'.store.getTransfer id = some t' ∧ t'.status = .cancelled) ∧
        w'.ledger.balance t.token t.sender = w.ledger.balance t.token t.sender + t.amount.val) := by
  have hw := h₀.wellFormed_of_reachable h
  have hbalance := amount_le_balance h₀ h ht hp
  have hsound := hw.records _ _ ht
  -- What is locked covers the amount, and so does the balance: neither subtraction can fail.
  obtain ⟨volume, hvolume⟩ := hw.exists_volume ht hp
  have hcovered : 0 ≤ t.amount.val ∧ t.amount.val ≤ w.clear.ledger.balance t.token H.self :=
    ⟨hsound.positive.le, hbalance⟩
  refine ⟨hw.amount_le_volumeLocked ht hp, hbalance, fun env hs haccepts => ⟨?_, ?_⟩⟩
  · intro hexp
    have hok : refundExpired H env id w.clear = .ok ((), _) := refundExpired_ok.2
      ⟨t, ht, hp, hexp, hcovered, haccepts, volume, hvolume, rfl⟩
    refine ⟨_, Contract.step_done hs (bind_pure_ok.2 ⟨(), hok, rfl⟩) rfl rfl,
      ⟨t.settle .refunded w.ledger.timestamp t.claimedBy, ?_, rfl⟩, ?_⟩
    · exact hsound.keyed ▸ AList.lookup_insert _
    · exact Ledger.move_balance_dest _ hsound.sender
  · intro hsender
    have hok : cancelTransfer H env t.sender id w.clear = .ok ((), _) := cancelTransfer_ok.2
      ⟨hsender, t, ht, rfl, hp, hcovered, haccepts, volume, hvolume, rfl⟩
    refine ⟨_, Contract.step_done hs (bind_pure_ok.2 ⟨(), hok, rfl⟩) rfl rfl,
      ⟨t.settle .cancelled w.ledger.timestamp t.claimedBy, ?_, rfl⟩, ?_⟩
    · exact hsound.keyed ▸ AList.lookup_insert _
    · exact Ledger.move_balance_dest _ hsound.sender

theorem refund_enabled_sample : ∃ w', (contract Sample.host).lts.step Sample.final
    (.call (Sample.signedBy Sample.agent) (.refundExpired 2)
      (.done .unit [⟨Sample.usd, ⟨0⟩, Sample.bob, 250⟩]
        [.transferRefunded 2 Sample.bob 250 ⟨"SN-ML"⟩])) w' :=
  have ht : Sample.final.store.getTransfer 2 = some (.lock 2 Sample.bob 250 Sample.usd
      Sample.zeroDigest ⟨"SN-ML"⟩ 1500 1000) := by decide
  have h := refund_enabled Sample.fresh_start ⟨_, Sample.final_run⟩ ht rfl
  have ⟨w', hw', _⟩ := (h.2.2 (Sample.signedBy Sample.agent) rfl rfl).1 (by decide)
  ⟨w', hw'⟩

end Escrow

end RemitBridge
