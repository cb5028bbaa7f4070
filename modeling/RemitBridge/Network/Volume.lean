import RemitBridge.Soroban.Link
import RemitBridge.Hook.Spec
import RemitBridge.Escrow.Solvency

/-!
# The escrow and the compliance hook

The escrow puts every transfer it creates to the compliance hook, which records its volume.  The
two keep the same fact in different shapes: the escrow a record of every transfer, the hook a
volume for every sender, corridor and day.  They agree in every reachable state
(`volume_eq_created`), because a volume changes only when the escrow commits a transfer, and the
escrow commits exactly the transfers it creates.
-/

namespace RemitBridge

namespace Network

open TransitionSystem Exec Store

variable {ρ : Type}

/-- An escrow and a compliance hook that know each other, and what else the escrow relies on: the
hash function, and the agent registry with its state in `ρ`. -/
structure Gate (ρ : Type) where
  escrow : Address
  hook : Address
  sha256 : List UInt8 → BytesN 32
  authorize : Address → Env → U64 → (agent : Address) → (corridorId : Symbol) → ρ →
    TryCall AgentRegistryError Bool × ρ

namespace Gate

/-- What the escrow relies on.  Nothing but the hook answers as a hook. -/
@[simps] def host (N : Gate ρ) : Escrow.Host (Hook.Storage × ρ) where
  self := N.escrow
  sha256 := N.sha256
  tryCommitTransfer callee env now sender amount corridorId peers :=
    if callee = N.hook then
      let answer := tryCall (Hook.commitTransfer env sender amount corridorId) now peers.1
      (answer.1, answer.2, peers.2)
    else (.failed, peers)
  tryIsAuthorizedForCorridor registry env now agent corridorId peers :=
    let answer := N.authorize registry env now agent corridorId peers.2
    (answer.1, peers.1, answer.2)

abbrev Label (ρ : Type) := Link.Label (Hook.Storage × ρ) Escrow.Call Escrow.Ret Escrow.Event
  EscrowError Hook.Call Hook.Ret Hook.Event ComplianceError

/-- The behaviour of the escrow and the hook. -/
def lts (N : Gate ρ) : TransitionSystem (Escrow.World (Hook.Storage × ρ)) (Label ρ) :=
  Link.lts (Escrow.contract N.host) (Hook.contract N.hook)

end Gate

variable {N : Gate ρ} {w₀ w w' : Escrow.World (Hook.Storage × ρ)} {l : Gate.Label ρ}
  {ls : List (Gate.Label ρ)}

/-- The step does not ask to connect either contract to another one. -/
def KeepsWiring : Gate.Label ρ → Prop
  | .client (.call _ (.setComplianceHook _) _) => False
  | .service _ (.setEscrow _) _ => False
  | _ => True

/-! ### The two views of the volume -/

/-- The sender, corridor and day of a transfer. -/
def bucket (t : Transfer) : Address × Symbol × U64 :=
  (t.sender, t.corridorId, Hook.dayOf t.createdAt)

/-- The volume of the transfers on record, by sender, corridor and day. -/
noncomputable def createdVolume (s : Escrow.Storage) : Address × Symbol × U64 →₀ ℤ :=
  s.transfers.total fun _ t => Finsupp.single (bucket t) t.amount.val

/-- The volume committed, by sender, corridor and day. -/
noncomputable def committedVolume (s : Hook.Storage) : Address × Symbol × U64 →₀ ℤ :=
  amounts (fun volume : I128 => volume.val) s.volumes

theorem contribution_volumes (s : Hook.Storage) (sender : Address) (corridorId : Symbol)
    (day : U64) : contribution (fun _ (volume : I128) => volume.val) s.volumes
      (sender, corridorId, day) = (s.dailyVolume sender corridorId day).val := by
  unfold contribution Hook.Storage.dailyVolume
  cases s.volumes.lookup (sender, corridorId, day) <;> rfl

theorem committedVolume_apply (s : Hook.Storage) (sender : Address) (corridorId : Symbol)
    (day : U64) : committedVolume s (sender, corridorId, day) =
      (s.dailyVolume sender corridorId day).val :=
  (amounts_apply _ _ _).trans (contribution_volumes s sender corridorId day)

theorem createdVolume_apply (s : Escrow.Storage) (k : Address × Symbol × U64) :
    createdVolume s k = s.transfers.total fun _ t => if bucket t = k then t.amount.val else 0 := by
  have h := map_total (Finsupp.applyAddHom k)
    (fun _ (t : Transfer) => Finsupp.single (bucket t) t.amount.val) s.transfers
  simpa only [createdVolume, Finsupp.applyAddHom_apply, Finsupp.single_apply] using h

/-! ### The invariant -/

/-- The escrow and the hook have just been connected, and nothing has been committed. -/
structure Wired (N : Gate ρ) (w : Escrow.World (Hook.Storage × ρ)) : Prop where
  fresh : Escrow.Fresh N.host w
  hook : ∀ config, w.store.config = some config → config.complianceHook = N.hook
  escrow : w.peers.1.escrow = some N.escrow
  volumes : w.peers.1.volumes = ∅

/-- The two contracts are connected and agree on the volumes. -/
structure Agree (N : Gate ρ) (w : Escrow.World (Hook.Storage × ρ)) : Prop where
  wellFormed : Escrow.WellFormed N.host w
  hook : ∀ config, w.store.config = some config → config.complianceHook = N.hook
  escrow : w.peers.1.escrow = some N.escrow
  volumes : committedVolume w.peers.1 = createdVolume w.store

theorem Wired.agree (h : Wired N w) : Agree N w where
  wellFormed := h.fresh.wellFormed
  hook := h.hook
  escrow := h.escrow
  volumes := by
    rw [committedVolume, h.volumes, createdVolume, h.fresh.transfers]
    rfl

/-! ### One step -/

section

variable {env : Env} {sender : Address} {amount total : I128} {corridorId : Symbol}

/-- A commit adds its amount to one bucket, and leaves it within the daily limit. -/
theorem committed_of_commit {v v' : Hook.World Unit}
    (h : Hook.commitTransfer env sender amount corridorId v = .ok (total, v')) :
    v'.store.escrow = v.store.escrow ∧
    committedVolume v'.store = committedVolume v.store +
      Finsupp.single (sender, corridorId, Hook.dayOf v.ledger.timestamp) amount.val ∧
    ∃ thresholds, v.store.getThresholds corridorId = some thresholds ∧
      v'.store.dailyVolume sender corridorId (Hook.dayOf v.ledger.timestamp) ≤
        thresholds.dailyLimit := by
  obtain ⟨escrow, -, -, -, -, thresholds, hthresholds, htotal, hle, -, -, -, rfl⟩ :=
    Hook.commitTransfer_ok.1 h
  refine ⟨rfl, ?_, thresholds, hthresholds, ?_⟩
  · simp only [committedVolume, Hook.Storage.putStats_volumes, Hook.Storage.putDailyVolume_volumes,
      amounts_insert, contribution_volumes, htotal, add_sub_cancel_left]
  · simpa [Hook.Storage.dailyVolume] using hle

/-- What the hook did when it answers the escrow. -/
theorem commit_of_answer {now : U64} {peers peers' : Hook.Storage × ρ}
    (h : N.host.tryCommitTransfer N.hook env now sender amount corridorId peers =
      (.ok total, peers')) :
    ∃ v : Hook.World Unit, Hook.commitTransfer env sender amount corridorId
      (.ofStorage peers.1 ⟨now, fun _ _ => 0, []⟩) = .ok (total, v) ∧ peers'.1 = v.store := by
  simp only [Gate.host_tryCommitTransfer, if_true, Prod.mk.injEq] at h
  obtain ⟨hanswer, rfl⟩ := h
  obtain ⟨v, hv, hstore⟩ := tryCall_ok.1 (Prod.ext hanswer rfl)
  exact ⟨v, hv, hstore.symm⟩

end

section

variable {env : Env} {c : Escrow.Call} {r : Escrow.Ret} {t t' : Transfer} {id : U64}

/-- Creating a transfer commits its volume. -/
theorem Agree.locks (hw : Agree N w) (h : Escrow.Locks N.host env c r t w w') :
    w'.peers.1.escrow = w.peers.1.escrow ∧
    committedVolume w'.peers.1 = createdVolume w'.store ∧
    ∃ thresholds, w.peers.1.getThresholds t.corridorId = some thresholds ∧
      w'.peers.1.dailyVolume t.sender t.corridorId (Hook.dayOf w.ledger.timestamp) ≤
        thresholds.dailyLimit := by
  obtain ⟨config, total, hconfig, hcommit⟩ := h.commit
  rw [hw.hook config hconfig] at hcommit
  obtain ⟨v, hv, hpeers⟩ := commit_of_answer hcommit
  obtain ⟨hescrow, hvolumes, hlimit⟩ := committed_of_commit hv
  have hbucket : bucket t = (t.sender, t.corridorId, Hook.dayOf w.ledger.timestamp) := by
    rw [bucket, h.record]
    rfl
  refine ⟨hpeers ▸ hescrow, ?_, hpeers ▸ hlimit⟩
  rw [hpeers, hvolumes, createdVolume, h.transfers,
    total_insert_of_none (hw.wellFormed.fresh_id h), hbucket]
  exact congrArg (· + _) hw.volumes

/-- Settling a transfer leaves its volume alone. -/
theorem Agree.settles (hw : Agree N w) (h : Escrow.Settles N.host env c id t t' w w') :
    w'.peers.1 = w.peers.1 ∧ createdVolume w'.store = createdVolume w.store := by
  obtain ⟨payments, hsettlement, -⟩ := h.settlement
  have hterms := hsettlement.terms_eq
  simp only [Escrow.terms, Escrow.Terms.mk.injEq] at hterms
  obtain ⟨-, hsender, hamount, -, -, hcorridor, -, hcreated⟩ := hterms
  have hkeyed := (hw.wellFormed.records _ _ h.stored).keyed
  constructor
  · generalize hp : w'.peers = peers at hsettlement
    cases hsettlement with
    | claimed _ _ _ _ _ hanswer =>
      rw [Gate.host_tryIsAuthorizedForCorridor, Prod.mk.injEq] at hanswer
      rw [← hanswer.2]
    | cancelled => rfl
    | refunded => rfl
  · rw [createdVolume, h.transfers, hkeyed, total_insert_of_lookup h.stored, bucket, bucket,
      hsender, hamount, hcorridor, hcreated, sub_add_cancel]
    rfl

end

/-- Nobody but the escrow commits. -/
theorem Agree.not_commit {env : Env} {sender : Address} {amount total : I128}
    {corridorId : Symbol} {v : Hook.World Unit} (hw : Agree N w)
    (hs : env.signed N.escrow = false) :
    Hook.commitTransfer env sender amount corridorId (.ofStorage w.peers.1 w.ledger) ≠
      .ok (total, v) := by
  intro h
  obtain ⟨escrow, hescrow, hsigned, -⟩ := Hook.commitTransfer_ok.1 h
  obtain rfl : escrow = N.escrow := Option.some.inj (hescrow.symm.trans hw.escrow)
  rw [hs] at hsigned
  cases hsigned

theorem Agree.clear (hw : Agree N w) : Agree N w.clear :=
  ⟨hw.wellFormed.clear, hw.hook, hw.escrow, hw.volumes⟩

/-- Configuring the escrow keeps it connected to the hook. -/
theorem Agree.hook_of_configures {c : Escrow.Call} (hw : Agree N w)
    (h : Escrow.Configures c w w') (hc : ∀ hook, c ≠ .setComplianceHook hook) :
    ∀ config, w'.store.config = some config → config.complianceHook = N.hook := by
  intro config' hconfig'
  obtain ⟨config, hconfig, -⟩ := hw.wellFormed.config
  obtain ⟨config'', hconfig'', -, -, hhook⟩ := h.config config hconfig
  obtain rfl : config'' = config' := Option.some.inj (hconfig''.symm.trans hconfig')
  rcases hhook with hhook | hhook
  · exact hhook.trans (hw.hook config hconfig)
  · exact absurd hhook (hc _)

/-- **The two contracts keep agreeing.** -/
theorem Agree.step (hw : Agree N w) (hl : KeepsWiring l) (h : N.lts.step w l w') : Agree N w' := by
  cases h with
  | client hst hexternal =>
    have hquiet := Link.service_eq hst hexternal
    have hwell := hw.wellFormed.step hst
    have hclear := hw.clear
    rcases Escrow.step_cases hw.wellFormed hst with
      hq | ⟨env, c, r, rfl, -, hc | ⟨t, hc⟩ | ⟨id, t, t', hc⟩⟩
    · refine ⟨hwell, hq.store ▸ hw.hook, ?_, ?_⟩
      · rw [hquiet hq.succeeded, hw.escrow]
      · rw [hquiet hq.succeeded, hq.store, hw.volumes]
    · refine ⟨hwell, hclear.hook_of_configures hc ?_, hc.peers ▸ hw.escrow, ?_⟩
      · rintro hook rfl
        exact hl
      · rw [hc.peers, createdVolume, hc.transfers]
        exact hw.volumes
    · -- A creation commits its amount through the hook, in the bucket of the new record.
      obtain ⟨hescrow, hvolumes, -⟩ := hclear.locks hc
      exact ⟨hwell, hc.config ▸ hw.hook, hescrow.trans hw.escrow, hvolumes⟩
    · obtain ⟨hpeers, hvolumes⟩ := hclear.settles hc
      exact ⟨hwell, hc.config ▸ hw.hook, hpeers ▸ hw.escrow,
        by rw [hpeers, hvolumes]; exact hw.volumes⟩
  | service hs hs' hinvoke =>
    rcases Hook.invoke_cases hinvoke with hk | ⟨sender, amount, corridorId, total, -, -, hcommit⟩
    · have hescrow : _ = w.peers.1.escrow := hk.escrow.resolve_right fun ⟨escrow, hc⟩ => by
        subst hc
        exact hl
      refine ⟨hw.wellFormed.congr rfl ?_, hw.hook, hescrow.trans hw.escrow, ?_⟩
      · rw [hk.ledger]
        exact le_rfl
      · rw [committedVolume, hk.volumes]
        exact hw.volumes
    · -- A commit must be signed by the escrow, which signs for nobody else's call.
      exact absurd hcommit (hw.not_commit hs)
  | refused => exact hw

/-- A transfer that is created leaves its bucket within the daily limit in force. -/
theorem Agree.within_limit {env : Env} {sender token : Address} {amount : I128}
    {claimHash : BytesN 32} {corridorId : Symbol} {expiry : U64} {ret : Escrow.Ret}
    {transfers : List TokenTransfer} {events : List Escrow.Event} (hw : Agree N w)
    (h : N.lts.step w (.client (.call env
      (.createTransfer sender amount token claimHash corridorId expiry)
      (.done ret transfers events))) w') :
    ∃ thresholds, w.peers.1.getThresholds corridorId = some thresholds ∧
      w'.peers.1.dailyVolume sender corridorId (Hook.dayOf w.ledger.timestamp) ≤
        thresholds.dailyLimit := by
  cases h with
  | client hst =>
    rcases Escrow.step_cases hw.wellFormed hst with
      hq | ⟨env', c, r, hcall, -, hc | ⟨t, hc⟩ | ⟨id, t, t', hc⟩⟩
    · cases hq.succeeded
    · obtain ⟨-, rfl, -⟩ := Action.call.inj hcall
      cases hc.creates
    · obtain ⟨-, rfl, -⟩ := Action.call.inj hcall
      have hcreate := hc.call
      simp only [Escrow.Call.createTransfer.injEq] at hcreate
      obtain ⟨rfl, -, -, -, rfl, -⟩ := hcreate
      exact (hw.clear.locks hc).2.2
    · obtain ⟨-, rfl, -⟩ := Action.call.inj hcall
      obtain ⟨payments, hsettlement, -⟩ := hc.settlement
      cases hsettlement.settles_eq

/-- **The escrow and the hook agree on the volume.**  In a run in which they stay connected, the
volume of a sender in a corridor on a day is the total amount of the transfers that the sender
created in the corridor on that day, and every commit, by whichever call, leaves its bucket within
the daily limit of the corridor. -/
theorem volume_eq_created (h₀ : Wired N w₀) (h : N.lts.Run w₀ ls w)
    (hls : ∀ l ∈ ls, KeepsWiring l) :
    (∀ sender corridorId day, (w.peers.1.dailyVolume sender corridorId day).val =
      w.store.transfers.total fun _ t =>
        if t.sender = sender ∧ t.corridorId = corridorId ∧ Hook.dayOf t.createdAt = day then
          t.amount.val else 0) ∧
    (∀ env sender amount corridorId total (v v' : Hook.World Unit), v.store = w.peers.1 →
      Hook.commitTransfer env sender amount corridorId v = .ok (total, v') →
      ∃ thresholds, w.peers.1.getThresholds corridorId = some thresholds ∧
        v'.store.dailyVolume sender corridorId (Hook.dayOf v.ledger.timestamp) ≤
          thresholds.dailyLimit) ∧
    (∀ env sender amount token claimHash corridorId expiry ret transfers events w',
      N.lts.step w (.client (.call env
        (.createTransfer sender amount token claimHash corridorId expiry)
        (.done ret transfers events))) w' →
      ∃ thresholds, w.peers.1.getThresholds corridorId = some thresholds ∧
        w'.peers.1.dailyVolume sender corridorId (Hook.dayOf w.ledger.timestamp) ≤
          thresholds.dailyLimit) := by
  have hw := (h.restrict_of_labels hls).invariant h₀.agree fun _ _ _ hw hst => hw.step hst.2 hst.1
  refine ⟨?_, ?_, fun _ _ _ _ _ _ _ _ _ _ _ hst =>
    hw.within_limit hst⟩
  · intro sender corridorId day
    rw [← committedVolume_apply, hw.volumes, createdVolume_apply]
    simp only [bucket, Prod.mk.injEq]
  · intro env sender amount corridorId total v v' hv hcommit
    rw [← hv]
    exact (committed_of_commit hcommit).2.2

/-! ### A sample run -/

namespace Sample

open Escrow.Sample

/-- The escrow at address 0 and the hook at address 6, with a registry that agrees to everything. -/
def gate : Gate Unit where
  escrow := ⟨0⟩
  hook := ⟨6⟩
  sha256 _ := zeroDigest
  authorize _ _ _ _ _ u := (.ok true, u)

def corridor : Symbol := ⟨"SN-ML"⟩

/-- The hook of the escrow, whose administrator is account 8. -/
def hookStorage : Hook.Storage :=
  { Hook.Storage.blank with
    admin := some ⟨8⟩, paused := some false, escrow := some ⟨0⟩, stats := some .zero }

/-- The two contracts, just connected. -/
def start : Escrow.World (Hook.Storage × Unit) :=
  ⟨Escrow.Sample.start.store, Escrow.Sample.start.ledger, [], hookStorage, ()⟩

/-- Alice sends 300, is refused 800, and is refunded; the limit is 1000 a day. -/
def script : List (Link.Input Escrow.Call Hook.Call) :=
  [.service (signedBy ⟨8⟩) (.setTierThresholds ⟨corridor, 900, 900, 1000⟩),
    .client (.call (signedBy alice) (.createTransfer alice 300 usd zeroDigest corridor 1400)),
    .client (.call (signedBy alice) (.createTransfer alice 800 usd zeroDigest corridor 1400)),
    .client (.wait 1500),
    .client (.call (signedBy bob) (.refundExpired 1))]

def trace : List (Gate.Label Unit) :=
  Link.trace (Escrow.contract gate.host) (Hook.contract gate.hook) start script

def final : Escrow.World (Hook.Storage × Unit) :=
  Link.play (Escrow.contract gate.host) (Hook.contract gate.hook) start script

theorem wired_start : Wired gate start where
  fresh :=
    { initialized := ⟨signedBy ⟨9⟩, ⟨9⟩, ⟨5⟩, ⟨6⟩, treasury, 100, 5000,
        ⟨.blank, start.ledger, [], start.peers⟩, rfl, rfl⟩
      balance_nonneg := fun _ => le_rfl }
  hook := by
    rintro config ⟨⟩
    rfl
  escrow := rfl
  volumes := rfl

theorem final_run : gate.lts.Run start trace final := Link.play_run script rfl

end Sample

theorem volume_eq_created_sample :
    (Sample.final.peers.1.dailyVolume Escrow.Sample.alice Sample.corridor 0).val = 300 :=
  (volume_eq_created Sample.wired_start Sample.final_run
    (List.forall_iff_forall_mem.1 ⟨trivial, trivial, trivial, trivial, trivial⟩)).1 _ _ _

end Network

end RemitBridge
