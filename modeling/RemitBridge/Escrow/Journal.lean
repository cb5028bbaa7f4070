import RemitBridge.Escrow.Solvency
import RemitBridge.Soroban.Journal

/-!
# The journal of the escrow is complete

Every entry in the escrow's storage can be rebuilt from the events it emits and the times of their
ledgers: `Storage.replay` says how one event changes the storage, and `storage_eq_replay` that
replaying the journal of a run gives the storage the run leaves, to the last field.
-/

namespace RemitBridge

namespace Escrow

open Exec Contract

variable {ω : Type} {H : Host ω} {env : Env} {w₀ w w' : World ω} {ls : List (Label ω)}

/-- The storage after the locked amount of `transfer` has been paid back. -/
def Storage.replayReturn (s : Storage) (now id : U64) (status : TransferStatus) :
    Option (Storage × EscrowStats) := do
  let transfer ← s.getTransfer id
  let volumeLocked ← s.getStats.volumeLocked.checkedSub transfer.amount
  some (s.putTransfer (transfer.settle status now transfer.claimedBy),
    { s.getStats with volumeLocked })

/-- The storage after an event that was emitted at the time `now`. -/
def Storage.replay (s : Storage) : U64 × Event → Option Storage
  | (now, .transferCreated id sender amount token corridorId claimHash expiry) => do
    let volumeLocked ← s.getStats.volumeLocked.checkedAdd amount
    some ((((s.putNextId id).putTransfer (.lock id sender amount token claimHash corridorId expiry
      now)).putSenderTransfer sender id).putStats
        { s.getStats with created := s.getStats.created.saturatingAdd 1, volumeLocked })
  | (now, .transferClaimed id agent _ gross fee _) => do
    let transfer ← s.getTransfer id
    let volumeLocked ← s.getStats.volumeLocked.checkedSub gross
    let volumeSettled ← s.getStats.volumeSettled.checkedAdd gross
    let feesCollected ← s.getStats.feesCollected.checkedAdd fee
    some ((s.putTransfer (transfer.settle .claimed now (some agent))).putStats
      { s.getStats with
        claimed := s.getStats.claimed.saturatingAdd 1
        volumeLocked, volumeSettled, feesCollected })
  | (now, .transferRefunded id _ _ _) => do
    let (s, stats) ← s.replayReturn now id .refunded
    some (s.putStats { stats with refunded := stats.refunded.saturatingAdd 1 })
  | (now, .transferCancelled id _ _ _) => do
    let (s, stats) ← s.replayReturn now id .cancelled
    some (s.putStats { stats with cancelled := stats.cancelled.saturatingAdd 1 })
  | (_, .configUpdated _ feeBps paused maxExpirySecs) => do
    let config ← s.config
    some (s.putConfig { config with feeBps, paused, maxExpirySecs })
  | (_, .wiringUpdated tag address) => do
    let config ← s.config
    if tag = ⟨"tresry"⟩ then some (s.putConfig { config with treasury := address })
    else if tag = ⟨"registry"⟩ then some (s.putConfig { config with agentRegistry := address })
    else if tag = ⟨"hook"⟩ then some (s.putConfig { config with complianceHook := address })
    else none
  | (_, .adminChanged _ next) => some (s.putAdmin next)

/-- The reader that wants to know the whole storage. -/
@[simps] def reader : Reader Storage Event Storage := ⟨id, Storage.replay⟩

/-! ### One invocation -/

theorem told_createTransfer {sender token : Address} {amount : I128} {claimHash : BytesN 32}
    {corridorId : Symbol} {expiry id : U64}
    (h : createTransfer H env sender amount token claimHash corridorId expiry w = .ok (id, w')) :
    reader.Told w w' := by
  obtain ⟨-, config, -, -, -, -, window, -, -, total, peers, -, -, -, -, volume, hvolume, rfl⟩ :=
    createTransfer_ok.1 h
  have hadd := MachineInt.checkedAdd_eq_some.2 hvolume
  exact .single rfl rfl (by simp [Storage.replay, hadd])

theorem told_claimTransfer {agent : Address} {id : U64} {reveal : BytesN 32}
    {receipt : ClaimReceipt} (h : claimTransfer H env agent id reveal w = .ok (receipt, w')) :
    reader.Told w w' := by
  obtain ⟨-, config, -, t, ht, -, -, -, -, peers, -, fee, -, payout, -, -, -, -, volume, hvolume,
    settled, hsettled, fees, hfees, -, rfl⟩ := claimTransfer_ok.1 h
  have hsub := MachineInt.checkedSub_eq_some.2 hvolume
  have hadd := MachineInt.checkedAdd_eq_some.2 hsettled
  have hfee := MachineInt.checkedAdd_eq_some.2 hfees
  exact .single (Ledger.apply_timestamp _ _) rfl (by simp [Storage.replay, ht, hsub, hadd, hfee])

theorem replayReturn_eq {s : Storage} {now id : U64} {t : Transfer} {status : TransferStatus}
    {volumeLocked : I128} (ht : s.getTransfer id = some t)
    (hvolume : volumeLocked.val = s.getStats.volumeLocked.val - t.amount.val) :
    s.replayReturn now id status =
      some (s.putTransfer (t.settle status now t.claimedBy), { s.getStats with volumeLocked }) := by
  have hsub := MachineInt.checkedSub_eq_some.2 hvolume
  simp [Storage.replayReturn, ht, hsub]

theorem told_cancelTransfer {sender : Address} {id : U64} {u : Unit}
    (h : cancelTransfer H env sender id w = .ok (u, w')) : reader.Told w w' := by
  obtain ⟨-, t, ht, -, -, -, -, volume, hvolume, rfl⟩ := cancelTransfer_ok.1 h
  exact .single rfl rfl (by simp [Storage.replay, replayReturn_eq ht hvolume])

theorem told_refundExpired {id : U64} {u : Unit} (h : refundExpired H env id w = .ok (u, w')) :
    reader.Told w w' := by
  obtain ⟨t, ht, -, -, -, -, volume, hvolume, rfl⟩ := refundExpired_ok.1 h
  exact .single rfl rfl (by simp [Storage.replay, replayReturn_eq ht hvolume])

theorem told_administration {c : Call} {r : Ret} (hadmin : w.store.admin.isSome)
    (hs : c.settles = none) (hc : c.creates = false) (h : invoke H env c w = .ok (r, w')) :
    reader.Told w w' := by
  cases c with
  | initializeContract =>
    simp [invoke, initializeContract, bind_assoc] at h
    rw [h.1] at hadmin
    cases hadmin
  | setAdmin =>
    simp [invoke, setAdmin, bind_assoc] at h
    obtain ⟨previous, -, -, -, rfl⟩ := h
    exact .single rfl rfl rfl
  | setFeeBps =>
    simp [invoke, setFeeBps, bind_assoc] at h
    obtain ⟨-, -, -, -, config, hconfig, -, rfl⟩ := h
    exact .single rfl rfl (by simp [Storage.replay, hconfig])
  | setTreasury =>
    simp [invoke, setTreasury, bind_assoc] at h
    obtain ⟨-, -, -, config, hconfig, -, rfl⟩ := h
    exact .single rfl rfl (by simp [Storage.replay, hconfig])
  | setAgentRegistry =>
    simp [invoke, setAgentRegistry, bind_assoc] at h
    obtain ⟨-, -, -, config, hconfig, -, rfl⟩ := h
    exact .single rfl rfl (by simp [Storage.replay, hconfig])
  | setComplianceHook =>
    simp [invoke, setComplianceHook, bind_assoc] at h
    obtain ⟨-, -, -, config, hconfig, -, rfl⟩ := h
    exact .single rfl rfl (by simp [Storage.replay, hconfig])
  | setMaxExpiry =>
    simp [invoke, setMaxExpiry, bind_assoc] at h
    obtain ⟨-, -, -, -, config, hconfig, -, rfl⟩ := h
    exact .single rfl rfl (by simp [Storage.replay, hconfig])
  | setPaused =>
    simp [invoke, setPaused, bind_assoc] at h
    obtain ⟨-, -, -, config, hconfig, -, rfl⟩ := h
    exact .single rfl rfl (by simp [Storage.replay, hconfig])
  | quoteClaim =>
    simp [invoke, quoteClaim, bind_assoc] at h
    obtain ⟨-, -, -, -, -, -, -, -, -, -, rfl⟩ := h
    exact .silent rfl rfl rfl
  | createTransfer => cases hc
  | cancelTransfer => cases hs
  | claimTransfer => cases hs
  | refundExpired => cases hs

theorem told_of_invoke {c : Call} {r : Ret} (hadmin : w.store.admin.isSome)
    (h : invoke H env c w = .ok (r, w')) : reader.Told w w' := by
  cases c with
  | createTransfer =>
    obtain ⟨id, h₁, rfl⟩ := bind_pure_ok.1 h
    exact told_createTransfer h₁
  | cancelTransfer =>
    obtain ⟨u, h₁, rfl⟩ := bind_pure_ok.1 h
    exact told_cancelTransfer h₁
  | claimTransfer =>
    obtain ⟨receipt, h₁, rfl⟩ := bind_pure_ok.1 h
    exact told_claimTransfer h₁
  | refundExpired =>
    obtain ⟨u, h₁, rfl⟩ := bind_pure_ok.1 h
    exact told_refundExpired h₁
  | _ => exact told_administration hadmin rfl rfl h

/-- The escrow stays initialised. -/
theorem isSome_admin_of_invoke {c : Call} {r : Ret} (hadmin : w.store.admin.isSome)
    (h : invoke H env c w = .ok (r, w')) : w'.store.admin.isSome := by
  rcases invoke_cases hadmin h with hc | ⟨t, hc⟩ | ⟨id, t, t', hc⟩
  · exact hc.admin
  · exact hc.admin ▸ hadmin
  · exact hc.admin ▸ hadmin

theorem reader_follows : reader.Follows (contract H) fun s => s.admin.isSome :=
  fun _ _ _ _ _ hadmin h => ⟨told_of_invoke hadmin h, isSome_admin_of_invoke hadmin h⟩

/-! ### Whole runs -/

/-- **The journal of the escrow is complete.**  From the time it is initialised, replaying the
events of a run gives the storage that the run leaves: every transfer with all its fields, the
indices, the counters, the configuration and the administrator. -/
theorem storage_eq_replay (h₀ : w₀.store.admin.isSome) (h : (contract H).lts.Run w₀ ls w) :
    reader.replay w₀.store (journal w₀.ledger.timestamp ls) = some w.store :=
  Reader.replay_journal reader_follows h₀ h

theorem storage_eq_replay_sample :
    reader.replay Sample.start.store (journal Sample.start.ledger.timestamp
      ((contract Sample.host).trace Sample.start Sample.script)) =
        some ((contract Sample.host).play Sample.start Sample.script).store :=
  storage_eq_replay rfl (Contract.play_run Sample.script rfl)

end Escrow

end RemitBridge
