import RemitBridge.Indexer.Poison
import RemitBridge.Liquidity.Chain
import RemitBridge.Liquidity.Submissions
import RemitBridge.Pool.Exposure

/-!
# Executing a draw that the pool accepts

An approved request whose draw would pass every check of the pool, executed while nothing else
happens and nothing fails.  It ends `EXECUTED`, with the float at the agent, exactly if the agent is
the operator and the amount can be converted (`draw_delivered_iff`).
-/

namespace RemitBridge

namespace Liquidity

open Backend Process TransitionSystem

open Indexer (AgentRow StrKey)

/-- The database and the node, when neither fails. -/
def reliable (X : Chain) :
    Environment (Records × ChainState) ServiceCall ServiceAnswer Failure :=
  (Environment.ofAnswer (obey Query.perform (.error "refused"))).sum X.network

/-- The service over them. -/
def reliableService (sdk : Sdk) (env : Settings) (X : Chain) :
    TransitionSystem (ServiceState ChainState) ServiceLabel :=
  lts (reliable X) (program sdk env)

/-- An approved request for a draw that passes every check of the pool, and which the database can
record. -/
structure Executable (X : Chain) (sdk : Sdk) (env : Settings) (id : String) (now : ℕ)
    (request : TopUpRequest) (row : AgentRow) (agent : Address) (regionId : Symbol)
    (amount : I128) (world : Records × ChainState) : Prop where
  found : Query.perform (.findTopUp id) world.1 = some (some (request, row), world.1)
  approved : request.status = .approved
  address : row.stellarAddress = X.keys.encode agent
  region : request.regionId = regionId.name
  requested : request.amountRequested = amount.val
  pool : env.contractLiquidityPool = X.poolId
  converts : Chain.Converts sdk X.keys agent regionId amount
  /-- With the authorizations it needs, the draw succeeds. -/
  accepted : ∃ exposure w', Pool.drawLiquidity X.desk.host X.recording agent regionId amount
    world.2.world.clear = .ok (exposure, w')
  recorded : ∀ txHash, ∃ r,
    Query.perform (.transaction (completion id request txHash now)) world.1 = some ((), r)

/-- The execution ended as it should: the request reads `EXECUTED`, and the pool has paid the float
to the agent. -/
structure Delivered (N : Network.Desk) (id : String) (agent : Address) (regionId : Symbol)
    (amount : I128) (world : Records × ChainState) (r : Except Failure Outcome)
    (world' : Records × ChainState) : Prop where
  returned : ∃ txHash, r = .ok (.executed txHash "EXECUTED")
  executed : world'.1.status id = some .executed
  paid : ∃ config, world.2.world.store.config = some config ∧
    world'.2.world.ledger.balance =
      (world.2.world.ledger.move ⟨config.token, N.host.self, agent, amount⟩).balance
  owed : (world'.2.world.store.getExposure agent regionId).val =
    (world.2.world.store.getExposure agent regionId).val + amount.val

variable {X : Chain} {sdk : Sdk} {env : Settings} {id : String} {now : ℕ}
  {request : TopUpRequest} {row : AgentRow} {agent : Address} {regionId : Symbol}
  {amount exposure : I128} {world world' : Records × ChainState}

theorem reliable_total (w : Records × ChainState) (q : ServiceCall) :
    ∃ o w', (reliable X).answers w q o w' :=
  Environment.sum_total (fun _ _ => ⟨_, _, rfl⟩) Chain.network_total w q

/-- A query that the database can carry out. -/
theorem Ensures.query_bind {α : Type} {G : Except Failure α → Records × ChainState → Prop}
    {q : Query} {a : QueryAnswer q} {r : Records} {f : QueryAnswer q → Service α}
    (hperform : q.perform world.1 = some (a, r)) (h : Ensures (reliable X) G (f a) (r, world.2)) :
    Ensures (reliable X) G (ask (Sum.inl q : ServiceCall) >>= f) world := by
  rintro o ⟨r', s⟩ ⟨hanswers, rfl⟩
  obtain ⟨rfl, rfl⟩ := Prod.mk.inj ((obey_of_perform hperform).symm.trans hanswers)
  exact h

/-- What the database answers does not concern the node. -/
theorem Ensures.query_unmoved {α : Type} {q : Query} {f : QueryAnswer q → Service α}
    {w : Network.Desk.World} (hw : world.2.world = w)
    (h : ∀ a world', world'.2.world = w →
      Ensures (reliable X) (fun _ world' => world'.2.world = w) (f a) world') :
    Ensures (reliable X) (fun _ world' => world'.2.world = w) (ask (Sum.inl q : ServiceCall) >>= f)
      world := by
  refine .ask_bind (fun a world' hanswers => ?_) fun e world' hanswers => ?_
  · exact h a world' (hanswers.2 ▸ hw)
  · exact hanswers.2 ▸ hw

/-- The world after a draw. -/
theorem delivered_of_draw {txHash : Option String}
    (h : Pool.drawLiquidity X.desk.host X.recording agent regionId amount world.2.world.clear =
      .ok (exposure, world'.2.world)) (hexecuted : world'.1.status id = some .executed) :
    Delivered X.desk id agent regionId amount world (.ok (.executed txHash "EXECUTED")) world' := by
  obtain ⟨-, hpos, config, hconfig, -, state, -, -, peers, -, available, -, -, drawn, -,
    utilization, -, -, hexposure, required, -, bond, peers', -, -, -, -, bps, -, hw'⟩ :=
    Pool.drawLiquidity_ok.1 h
  refine ⟨⟨txHash, rfl⟩, hexecuted, ⟨config, hconfig, ?_⟩, ?_⟩
  · rw [hw']
    rfl
  · rw [hw', Pool.getExposure_of_insert (s := world.2.world.store) rfl, if_pos ⟨rfl, rfl⟩]
    exact hexposure

/-- Nothing was drawn. -/
theorem not_delivered_of_unmoved {r : Except Failure Outcome} (hpos : 0 < amount.val)
    (h : world'.2.world = world.2.world) :
    ¬ Delivered X.desk id agent regionId amount world r world' := by
  intro hdelivered
  have howed := hdelivered.owed
  rw [h] at howed
  omega

section Executable

variable {operator : Keypair} {w' : Network.Desk.World}
  (h : Executable X sdk env id now request row agent regionId amount world)
  (hdraw : Pool.drawLiquidity X.desk.host X.recording agent regionId amount
    world.2.world.clear = .ok (exposure, w'))

include h hdraw

/-- The draw of an execution, and the database meanwhile. -/
theorem ensures_lift : Ensures (reliable X)
    (fun r world' => X.Invoked operator agent world.2.world w' r world'.2 ∧ world'.1 = world.1)
    ((drawLiquidity sdk env operator (X.keys.encode agent) regionId.name amount.val).lift :
      Service InvocationResult) world :=
  .lift ((Chain.ensures_drawLiquidity h.converts h.pool hdraw).mono fun _ _ hinvoked =>
    ⟨hinvoked, rfl⟩)

/-- If the operator is the agent, the draw is carried out and recorded. -/
theorem ensures_drawAndRecord (hkey : operator.publicKey = X.keys.encode agent)
    (hdecimal : sdk.bigIntOfDecimal amount.val = .ok amount.val) :
    Ensures (reliable X) (fun r world' => Delivered X.desk id agent regionId amount world r world')
      (drawAndRecord sdk env operator id request row now) world := by
  rw [drawAndRecord, h.requested, hdecimal, h.address, h.region]
  show Ensures _ _ ((drawLiquidity _ _ _ _ _ _).lift >>= _) world
  refine Ensures.bind (ensures_lift h hdraw) ?_ ?_
  · rintro result ⟨records, s⟩ ⟨hinvoked, rfl⟩
    obtain ⟨hworld, -, -, -⟩ := hinvoked.authorized hkey.symm
    obtain ⟨records, hrecords⟩ := h.recorded result.hash
    have hexecuted : records.status id = some .executed := by
      obtain ⟨old, -, hnew⟩ := (perform_completion hrecords).lookup_self
      exact congrArg (Option.map TopUpRequest.status) hnew
    exact Ensures.query_bind hrecords (delivered_of_draw (hworld ▸ hdraw) hexecuted)
  · rintro e world' ⟨hinvoked, -⟩
    obtain ⟨-, result, hresult, -⟩ := hinvoked.authorized hkey.symm
    cases hresult

/-- Otherwise nothing is drawn. -/
theorem ensures_drawAndRecord_unmoved (hcond : ¬ (operator.publicKey = X.keys.encode agent ∧
      sdk.bigIntOfDecimal amount.val = .ok amount.val)) :
    Ensures (reliable X) (fun _ world' => world'.2.world = world.2.world)
      (drawAndRecord sdk env operator id request row now) world := by
  rw [drawAndRecord, h.requested, h.address, h.region]
  cases hdecimal : sdk.bigIntOfDecimal amount.val with
  | error e => rfl
  | ok n =>
    obtain rfl := h.converts.decimal n hdecimal
    have hkey : X.keys.encode agent ≠ operator.publicKey := fun hkey =>
      hcond ⟨hkey.symm, hdecimal⟩
    show Ensures _ _ ((drawLiquidity _ _ _ _ _ _).lift >>= _) world
    refine Ensures.bind (ensures_lift h hdraw) ?_ ?_
    · rintro result world' ⟨hinvoked, -⟩
      exact Ensures.query_unmoved (hinvoked.unauthorized hkey) fun _ _ hworld => hworld
    · rintro e world' ⟨hinvoked, -⟩
      exact hinvoked.unauthorized hkey

/-- What an execution comes to. -/
theorem ensures_executeTopUp
    (hoperator : sdk.keypairFromSecret env.operatorSecretKey = .ok operator) :
    Ensures (reliable X) (fun r world' =>
      Delivered X.desk id agent regionId amount world r world' ↔
        operator.publicKey = X.keys.encode agent ∧
          sdk.bigIntOfDecimal amount.val = .ok amount.val)
      (executeTopUp sdk env id now) world := by
  rw [executeTopUp]
  refine Ensures.query_bind h.found ?_
  show Ensures _ _ (throwUnless _ _ >>= _) world
  rw [throwUnless_bind_pos h.approved, hoperator]
  show Ensures _ _ ((drawAndRecord sdk env operator id request row now).tryCatch _) world
  by_cases hcond : operator.publicKey = X.keys.encode agent ∧
      sdk.bigIntOfDecimal amount.val = .ok amount.val
  · refine (ensures_drawAndRecord h hdraw hcond.1 hcond.2).tryCatch ?_ ?_
    · exact fun outcome world' hdelivered => iff_of_true hdelivered hcond
    · intro e world' hdelivered
      obtain ⟨txHash, hreturned⟩ := hdelivered.returned
      cases hreturned
  · have hpos : 0 < amount.val := (Pool.drawLiquidity_ok.1 hdraw).2.1
    have hunmoved : ∀ (r : Except Failure Outcome) (world' : Records × ChainState),
        world'.2.world = world.2.world →
        (Delivered X.desk id agent regionId amount world r world' ↔
          operator.publicKey = X.keys.encode agent ∧
            sdk.bigIntOfDecimal amount.val = .ok amount.val) := fun r world' hworld =>
      iff_of_false (not_delivered_of_unmoved hpos hworld) hcond
    refine (ensures_drawAndRecord_unmoved h hdraw hcond).tryCatch ?_ ?_
    · exact fun outcome world' hworld => hunmoved _ _ hworld
    · intro e world' hworld
      refine Ensures.mono (Ensures.query_unmoved hworld fun _ _ hworld => ?_)
        fun r world' hworld => hunmoved r world' hworld
      exact hworld

end Executable

/-- **Executing a top-up.**  While nothing else happens and nothing fails, an approved request for
a draw that the pool would accept ends as it should exactly if the agent is the operator and the
amount can be converted. -/
theorem draw_delivered_iff {operator : Keypair} {s₀ : ServiceState ChainState} {pid : ℕ}
    (h₀ : s₀.running pid = none)
    (h : Executable X sdk env id now request row agent regionId amount s₀.world)
    (hoperator : sdk.keypairFromSecret env.operatorSecretKey = .ok operator) :
    (∃ r ls s, Solo pid (.executeTopUp id now) r ls ∧ (reliableService sdk env X).Run s₀ ls s) ∧
    ∀ r ls s, Solo pid (.executeTopUp id now) r ls → (reliableService sdk env X).Run s₀ ls s →
      (Delivered X.desk id agent regionId amount s₀.world r s.world ↔
        operator.publicKey = X.keys.encode agent ∧
          sdk.bigIntOfDecimal amount.val = .ok amount.val) := by
  obtain ⟨exposure, w', hdraw⟩ := h.accepted
  refine ⟨exists_solo reliable_total h₀, fun r ls s hsolo hrun => ?_⟩
  have hensures : Ensures (reliable X) _ (program sdk env (.executeTopUp id now)) s₀.world :=
    ensures_executeTopUp h hdraw hoperator
  exact hensures.of_run hsolo hrun

/-! ### An agent and the operator -/

namespace Sample

def chain : Chain :=
  ⟨Network.Sample.desk, Indexer.Sample.strKey, "pool", fun _ => true,
    fun tx => toString tx.sequence⟩

/-- The row of the agent. -/
def drawer : AgentRow :=
  ⟨"agent", chain.keys.encode Pool.Sample.agent, .authorized, none, none, none⟩

/-- The request is approved, and the agent is authorized and has a bond. -/
def ready : ServiceState ChainState where
  world := ({ (opened approved).world.1 with agents := [drawer] },
    ⟨Network.Sample.deskPlay Network.Sample.deskScript, fun _ => none⟩)
  running _ := none

/-- The library, with these keys. -/
def libraryWith (keypair : Keypair) : Sdk := { library with fromSecret _ := .ok keypair }

theorem ready_executable (keypair : Keypair) : Executable chain (libraryWith keypair) deployment
    "request" 1 approved drawer Pool.Sample.agent Pool.Sample.region 100 ready.world where
  found := rfl
  approved := rfl
  address := rfl
  region := rfl
  requested := rfl
  pool := rfl
  converts := ⟨rfl, rfl, rfl, fun _ h => (Except.ok.inj h).symm⟩
  accepted := ⟨_, _, rfl⟩
  recorded _ := ⟨_, rfl⟩

end Sample

/-- The operator is not the agent: the draw is not delivered. -/
theorem not_draw_delivered_sample : ∃ r ls s,
    Executable Sample.chain (Sample.libraryWith ⟨"operator"⟩) Sample.deployment "request" 1
      Sample.approved Sample.drawer Pool.Sample.agent Pool.Sample.region 100 Sample.ready.world ∧
    Solo 1 Sample.execute r ls ∧
    (reliableService (Sample.libraryWith ⟨"operator"⟩) Sample.deployment Sample.chain).Run
      Sample.ready ls s ∧
    ¬ Delivered Sample.chain.desk "request" Pool.Sample.agent Pool.Sample.region 100
      Sample.ready.world r s.world := by
  obtain ⟨r, ls, s, hsolo, hrun⟩ : ∃ r ls s, Solo 1 Sample.execute r ls ∧
      (reliableService (Sample.libraryWith ⟨"operator"⟩) Sample.deployment Sample.chain).Run
        Sample.ready ls s := exists_solo reliable_total rfl
  have hexecutable := Sample.ready_executable ⟨"operator"⟩
  obtain ⟨exposure, w', hdraw⟩ := hexecutable.accepted
  have hensures : Ensures (reliable Sample.chain) _
      (program (Sample.libraryWith ⟨"operator"⟩) Sample.deployment Sample.execute)
      Sample.ready.world := ensures_executeTopUp hexecutable hdraw rfl
  refine ⟨r, ls, s, hexecutable, hsolo, hrun, fun hdelivered => ?_⟩
  exact absurd ((hensures.of_run hsolo hrun).1 hdelivered).1 (by decide)

/-- The agent signs for itself: the draw is delivered. -/
theorem draw_delivered_iff_sample : ∃ r ls s, Solo 1 Sample.execute r ls ∧
    (reliableService (Sample.libraryWith ⟨Sample.drawer.stellarAddress⟩) Sample.deployment
      Sample.chain).Run Sample.ready ls s ∧
    Delivered Sample.chain.desk "request" Pool.Sample.agent Pool.Sample.region 100
      Sample.ready.world r s.world := by
  obtain ⟨⟨r, ls, s, hsolo, hrun⟩, hiff⟩ := draw_delivered_iff
    (show Sample.ready.running 1 = none from rfl)
    (Sample.ready_executable ⟨Sample.drawer.stellarAddress⟩) rfl
  exact ⟨r, ls, s, hsolo, hrun, (hiff r ls s hsolo hrun).2 ⟨rfl, rfl⟩⟩

end Liquidity

end RemitBridge
