import RemitBridge.Data.Log
import RemitBridge.Pool.Spec
import RemitBridge.Transition.Basic

/-!
# What the events say of an agent's exposure

A draw and a repayment both carry the exposure that results from them.  So the last of them that is
about an agent and a region tells its exposure; a draw after which something was repaid tells more
than the exposure (`posted_of_run`).
-/

namespace RemitBridge

namespace Pool

open TransitionSystem Exec

variable {ω : Type} {H : Host ω} {env : Env} {w₀ w w' : World ω} {l : Label ω}
  {ls : List (Label ω)} {agent : Address} {regionId : Symbol} {es : List Event}

/-- What an event does to the exposure of an agent in a region, and the exposure afterwards. -/
inductive FloatMove where
  | drawn (exposure : I128)
  | repaid (exposure : I128)
  deriving DecidableEq

def Event.floatMove (agent : Address) (regionId : Symbol) : Event → Option FloatMove
  | liquidityDrawn a r _ exposure _ =>
    if a = agent ∧ r = regionId then some (.drawn exposure) else none
  | liquidityRepaid a r _ exposure =>
    if a = agent ∧ r = regionId then some (.repaid exposure) else none
  | _ => none

/-- The exposure that a draw leads to. -/
def Event.drawnTo (agent : Address) (regionId : Symbol) : Event → Option I128
  | liquidityDrawn a r _ exposure _ => if a = agent ∧ r = regionId then some exposure else none
  | _ => none

/-- The last draw or repayment. -/
def lastMove (agent : Address) (regionId : Symbol) (es : List Event) : Option FloatMove :=
  Log.last (Event.floatMove agent regionId) es

/-- The exposure that the last draw led to. -/
def lastDrawn (agent : Address) (regionId : Symbol) (es : List Event) : Option I128 :=
  Log.last (Event.drawnTo agent regionId) es

/-- The exposure, given the events. -/
inductive Posted (agent : Address) (regionId : Symbol) (es : List Event) (exposure : I128) : Prop
  | untouched : lastMove agent regionId es = none → lastDrawn agent regionId es = none →
      exposure.val = 0 → Posted agent regionId es exposure
  | drawn : lastMove agent regionId es = some (.drawn exposure) →
      lastDrawn agent regionId es = some exposure → 0 < exposure.val →
      Posted agent regionId es exposure
  | repaid {before : I128} : lastMove agent regionId es = some (.repaid exposure) →
      lastDrawn agent regionId es = some before → 0 ≤ exposure.val →
      exposure.val < before.val → Posted agent regionId es exposure

theorem Posted.nonneg {exposure : I128} (h : Posted agent regionId es exposure) :
    0 ≤ exposure.val := by
  cases h <;> omega

/-! ### One invocation -/

/-- What an invocation does to the exposures, and says in its events. -/
inductive Lends (w w' : World ω) : Prop
  | idle (es : List Event) : w'.store.exposures = w.store.exposures → w'.events = w.events ++ es →
      (∀ agent regionId, ∀ e ∈ es, e.floatMove agent regionId = none) → Lends w w'
  | draws {agent : Address} {regionId : Symbol} {amount exposure : I128} {utilizationBps : U32} :
      0 < amount.val → exposure.val = (w.store.getExposure agent regionId).val + amount.val →
      w'.store.exposures = w.store.exposures.insert (agent, regionId) exposure →
      w'.events = w.events ++ [.liquidityDrawn agent regionId amount exposure utilizationBps] →
      Lends w w'
  | repays {agent : Address} {regionId : Symbol} {amount exposure : I128} :
      0 < amount.val → amount ≤ w.store.getExposure agent regionId →
      exposure.val = (w.store.getExposure agent regionId).val - amount.val →
      w'.store.exposures = w.store.exposures.insert (agent, regionId) exposure →
      w'.events = w.events ++ [.liquidityRepaid agent regionId amount exposure] → Lends w w'

/-- An entry point that moves no float. -/
theorem Lends.of_quiet (e : Event) (hexposures : w'.store.exposures = w.store.exposures)
    (hevents : w'.events = w.events ++ [e])
    (he : ∀ agent regionId, e.floatMove agent regionId = none) : Lends w w' :=
  .idle [e] hexposures hevents fun agent regionId e' he' => by
    rw [List.mem_singleton.1 he', he]

theorem Administers.lends (h : Administers w w') : Lends w w' := by
  cases h with
  | first => exact .idle [] rfl (List.append_nil _).symm fun _ _ e he => absurd he List.not_mem_nil
  | _ => exact .of_quiet _ rfl rfl fun _ _ => rfl

/-- **What an invocation lends.** -/
theorem invoke_lends {c : Call} {r : Ret} (h : invoke H env c w = .ok (r, w')) : Lends w w' := by
  cases c with
  | depositLiquidity =>
    obtain ⟨shares, h₁, rfl⟩ := bind_pure_ok.1 h
    obtain ⟨-, -, config, -, -, state, -, -, -, -, -, -, held, -, totalDeposited, -, totalShares, -,
      rfl⟩ := depositLiquidity_ok.1 h₁
    exact .of_quiet _ rfl rfl fun _ _ => rfl
  | withdrawLiquidity =>
    obtain ⟨amount, h₁, rfl⟩ := bind_pure_ok.1 h
    obtain ⟨-, -, config, -, -, state, -, -, -, -, available, -, -, -, -, left, -,
      totalDeposited, -, totalShares, -, rfl⟩ := withdrawLiquidity_ok.1 h₁
    exact .of_quiet _ rfl rfl fun _ _ => rfl
  | drawLiquidity =>
    obtain ⟨exposure, h₁, rfl⟩ := bind_pure_ok.1 h
    obtain ⟨-, hpos, config, -, -, state, -, -, peers, -, available, -, -, drawn, -, utilization, -,
      -, hexposure, required, -, bond, peers', -, -, -, -, bps, -, rfl⟩ := drawLiquidity_ok.1 h₁
    exact .draws hpos hexposure rfl rfl
  | repayLiquidity =>
    obtain ⟨exposure, h₁, rfl⟩ := bind_pure_ok.1 h
    obtain ⟨-, hpos, config, -, state, -, hle, -, -, hexposure, drawn, -, rfl⟩ :=
      repayLiquidity_ok.1 h₁
    exact .repays hpos hle hexposure rfl rfl
  | _ => exact (administers_of_invoke rfl h).lends

/-! ### Runs -/

theorem drawnTo_eq_none {e : Event} (h : e.floatMove agent regionId = none) :
    e.drawnTo agent regionId = none := by
  cases e with
  | liquidityDrawn a r amount exposure bps =>
    rw [Event.floatMove] at h
    rw [Event.drawnTo]
    split_ifs at h ⊢
    rfl
  | _ => rfl

/-- Events about other agents and regions. -/
theorem Posted.append {es' : List Event} {exposure : I128} (h : Posted agent regionId es exposure)
    (hes : ∀ e ∈ es', e.floatMove agent regionId = none) :
    Posted agent regionId (es ++ es') exposure := by
  have hmove : lastMove agent regionId (es ++ es') = lastMove agent regionId es :=
    Log.last_append_of_none hes
  have hdrawn : lastDrawn agent regionId (es ++ es') = lastDrawn agent regionId es :=
    Log.last_append_of_none fun e he => drawnTo_eq_none (hes e he)
  cases h with
  | untouched h h' h₀ => exact .untouched (hmove.trans h) (hdrawn.trans h') h₀
  | drawn h h' h₀ => exact .drawn (hmove.trans h) (hdrawn.trans h') h₀
  | repaid h h' h₀ hlt => exact .repaid (hmove.trans h) (hdrawn.trans h') h₀ hlt

theorem Posted.draw {old amount exposure : I128} {bps : U32} (h : Posted agent regionId es old)
    (hpos : 0 < amount.val) (hexposure : exposure.val = old.val + amount.val) :
    Posted agent regionId
      (es ++ [.liquidityDrawn agent regionId amount exposure bps]) exposure := by
  have hnonneg := h.nonneg
  refine .drawn ?_ ?_ (by omega)
  · rw [lastMove, Log.last_snoc, Event.floatMove, if_pos ⟨rfl, rfl⟩]
    rfl
  · rw [lastDrawn, Log.last_snoc, Event.drawnTo, if_pos ⟨rfl, rfl⟩]
    rfl

theorem Posted.repay {old amount exposure : I128} (h : Posted agent regionId es old)
    (hpos : 0 < amount.val) (hle : amount.val ≤ old.val)
    (hexposure : exposure.val = old.val - amount.val) :
    Posted agent regionId (es ++ [.liquidityRepaid agent regionId amount exposure]) exposure := by
  have hmove : lastMove agent regionId (es ++ [.liquidityRepaid agent regionId amount exposure]) =
      some (.repaid exposure) := by
    rw [lastMove, Log.last_snoc, Event.floatMove, if_pos ⟨rfl, rfl⟩]
    rfl
  have hdrawn : lastDrawn agent regionId (es ++ [.liquidityRepaid agent regionId amount exposure]) =
      lastDrawn agent regionId es := by
    rw [lastDrawn, Log.last_snoc]
    rfl
  cases h with
  | untouched => omega
  | drawn _ h _ => exact .repaid hmove (hdrawn.trans h) (by omega) (by omega)
  | repaid _ h _ _ => exact .repaid hmove (hdrawn.trans h) (by omega) (by omega)

/-- The exposures after one of them has been written. -/
theorem getExposure_of_insert {s s' : Storage} {a : Address} {r : Symbol} {exposure : I128}
    (h : s'.exposures = s.exposures.insert (a, r) exposure) : s'.getExposure agent regionId =
      if a = agent ∧ r = regionId then exposure else s.getExposure agent regionId := by
  rw [Storage.getExposure, h, Store.lookup_insert_ite, Storage.getExposure]
  by_cases heq : a = agent ∧ r = regionId
  · rw [if_pos heq, if_pos (Prod.ext heq.1.symm heq.2.symm)]
    rfl
  · rw [if_neg heq, if_neg fun hkey => heq ⟨(Prod.mk.inj hkey).1.symm, (Prod.mk.inj hkey).2.symm⟩]

/-- An exposure about which nothing is emitted does not change. -/
theorem getExposure_of_quiet (hst : (contract H).lts.step w l w')
    (hquiet : ∀ e ∈ l.events, e.floatMove agent regionId = none) :
    w'.store.getExposure agent regionId = w.store.getExposure agent regionId := by
  rcases Contract.events_of_step hst with ⟨hstore, -⟩ | ⟨env, c, r, hevents, -, hinvoke⟩
  · rw [hstore]
  · rw [hevents] at hquiet
    have hothers : ∀ {a : Address} {r : Symbol} {exposure : I128} {e : Event}, e ∈ w'.events →
        (e.floatMove agent regionId = none → ¬ (a = agent ∧ r = regionId)) →
        w'.store.exposures = w.clear.store.exposures.insert (a, r) exposure →
        w'.store.getExposure agent regionId = w.store.getExposure agent regionId := by
      intro a r exposure e he hne hexposures
      rw [getExposure_of_insert hexposures, if_neg (hne (hquiet e he))]
      rfl
    cases invoke_lends hinvoke with
    | idle es hexposures =>
      rw [Storage.getExposure, hexposures]
      rfl
    | draws _ _ hexposures hes | repays _ _ _ hexposures hes =>
      refine hothers (hes ▸ List.mem_append_right _ (List.mem_singleton_self _)) ?_ hexposures
      intro hnone heq
      rw [Event.floatMove, if_pos heq] at hnone
      cases hnone

variable (agent regionId) in
/-- A draw, and the exposures after it. -/
theorem getExposure_of_drawn {a : Address} {r : Symbol} {amount exposure : I128} {bps : U32}
    (hst : (contract H).lts.step w l w')
    (hdrawn : l.events = [.liquidityDrawn a r amount exposure bps]) : 0 < amount.val ∧
      exposure.val = (w.store.getExposure a r).val + amount.val ∧
      w'.store.getExposure agent regionId =
        if a = agent ∧ r = regionId then exposure else w.store.getExposure agent regionId := by
  rcases Contract.events_of_step hst with ⟨-, hevents⟩ | ⟨env, c, ret, hevents, -, hinvoke⟩
  · rw [hdrawn] at hevents
    cases hevents
  · rw [hdrawn] at hevents
    cases invoke_lends hinvoke with
    | idle es _ hes hquiet =>
      have hnone := hquiet a r (.liquidityDrawn a r amount exposure bps) (by
        have hes' : w'.events = es := hes
        rw [← hes', ← hevents]
        exact List.mem_singleton_self _)
      rw [Event.floatMove, if_pos ⟨rfl, rfl⟩] at hnone
      cases hnone
    | draws hpos hexposure hexposures hes =>
      have hsame := hevents.trans hes
      cases hsame
      exact ⟨hpos, hexposure, getExposure_of_insert hexposures⟩
    | repays _ _ _ _ hes =>
      have hsame := hevents.trans hes
      cases hsame

theorem posted_step (h : Posted agent regionId es (w.store.getExposure agent regionId))
    (hst : (contract H).lts.step w l w') :
    Posted agent regionId (es ++ l.events) (w'.store.getExposure agent regionId) := by
  rcases Contract.events_of_step hst with ⟨hstore, hevents⟩ | ⟨env, c, r, hevents, -, hinvoke⟩
  · rwa [hstore, hevents, List.append_nil]
  · rw [hevents]
    cases invoke_lends hinvoke with
    | idle es' hexposures hes' hquiet =>
      rw [hes', Storage.getExposure, hexposures]
      exact h.append (hquiet agent regionId)
    | @draws a r amount exposure bps hpos hexposure hexposures hes' =>
      rw [hes', getExposure_of_insert hexposures]
      by_cases heq : a = agent ∧ r = regionId
      · obtain ⟨rfl, rfl⟩ := heq
        rw [if_pos ⟨rfl, rfl⟩]
        exact h.draw hpos hexposure
      · rw [if_neg heq]
        refine h.append fun e he => ?_
        rw [List.mem_singleton.1 he, Event.floatMove, if_neg heq]
    | @repays a r amount exposure hpos hle hexposure hexposures hes' =>
      rw [hes', getExposure_of_insert hexposures]
      by_cases heq : a = agent ∧ r = regionId
      · obtain ⟨rfl, rfl⟩ := heq
        rw [if_pos ⟨rfl, rfl⟩]
        exact h.repay hpos hle hexposure
      · rw [if_neg heq]
        refine h.append fun e he => ?_
        rw [List.mem_singleton.1 he, Event.floatMove, if_neg heq]

/-- **Exposures and events.** -/
theorem posted_of_run (h₀ : w₀.store = .blank) (h : (contract H).lts.Run w₀ ls w)
    (agent : Address) (regionId : Symbol) :
    Posted agent regionId (ls.flatMap Action.events) (w.store.getExposure agent regionId) := by
  induction h with
  | nil =>
    refine .untouched rfl rfl ?_
    rw [h₀]
    rfl
  | snoc _ hst ih =>
    rw [List.flatMap_append, List.flatMap_singleton]
    exact posted_step ih hst

end Pool

end RemitBridge
