import RemitBridge.Backend.Contracts
import RemitBridge.Data.Solo
import RemitBridge.Indexer.Emission
import RemitBridge.Network.Collateral

/-!
# Draws through the RPC node

The node in front of the pool and the agent registry, when nothing fails.  A simulation assumes
every authorization and lists those that the call needs; on the ledger a call has the authorization
of its source account, which signs the transaction, and of the addresses that have signed for
themselves.

The backend signs with one key, so a draw that it submits is authorized by its own account and by
nobody else (`ensures_drawLiquidity`).
-/

namespace RemitBridge

namespace Liquidity

open Backend Process

open Indexer (StrKey Value)

/-- What does not change: the contracts, how addresses are written, the id of the pool, the
transfers that the tokens are willing to make, and the hashes of transactions. -/
structure Chain where
  desk : Network.Desk
  keys : StrKey
  poolId : String
  accepts : TokenTransfer → Bool
  hashOf : Transaction → String

/-- The pool and the registry, and whether the transactions that have been included took effect. -/
structure ChainState where
  world : Network.Desk.World
  results : String → Option Bool

namespace Chain

variable (X : Chain)

/-- What the call of a transaction does, with these authorizations.  Other calls than draws are not
needed. -/
inductive Executes (env : Env) (tx : Transaction) (w w' : Network.Desk.World) : Prop
  | draw {agent : Address} {regionId : Symbol} {amount exposure : I128} :
      tx.contractId = X.poolId → tx.method = "draw_liquidity" →
      tx.args = [X.keys.value agent, .ofSymbol regionId, .ofI128 amount] →
      Pool.drawLiquidity X.desk.host env agent regionId amount w.clear = .ok (exposure, w') →
      Executes env tx w w'

/-- The transaction carries the authorization of the address. -/
def authorizes (tx : Transaction) (a : Address) : Bool :=
  tx.auth.any fun
    | .sourceAccount =>
      decide (X.keys.encode a = tx.source) && decide (tx.source ∈ tx.signatures)
    | .address address signed => decide (address = X.keys.encode a) && signed

def env (tx : Transaction) : Env := ⟨X.authorizes tx, X.accepts⟩

/-- In a simulation every authorization is assumed. -/
def recording : Env := ⟨fun _ => true, X.accepts⟩

/-- The call fails without the authorization of the address. -/
def Needs (tx : Transaction) (w : Network.Desk.World) (a : Address) : Prop :=
  ∀ w', ¬ X.Executes ⟨fun b => decide (b ≠ a), X.accepts⟩ tx w w'

/-- How the authorization of an address is to be given: by the signature of the transaction, if the
address is its source, and by one of its own otherwise. -/
def credentials (tx : Transaction) (a : Address) : Credentials :=
  if X.keys.encode a = tx.source then .sourceAccount else .address (X.keys.encode a) false

inductive Simulates (tx : Transaction) (w : Network.Desk.World) : Simulation → Prop
  | error {message : String} : (∀ w', ¬ X.Executes X.recording tx w w') →
      Simulates tx w (.error message)
  | success {w' : Network.Desk.World} {retval : Option Value} {auth : List Credentials} :
      X.Executes X.recording tx w w' →
      (∀ cred, cred ∈ auth ↔ ∃ a, X.Needs tx w a ∧ cred = X.credentials tx a) →
      Simulates tx w (.success retval auth)

/-- The transaction is included in a ledger. -/
inductive Includes (tx : Transaction) (s : ChainState) : ChainState → Prop
  | applied {w : Network.Desk.World} : X.Executes (X.env tx) tx s.world w →
      Includes tx s ⟨w, Function.update s.results (X.hashOf tx) (some true)⟩
  | failed : (∀ w, ¬ X.Executes (X.env tx) tx s.world w) →
      Includes tx s ⟨s.world, Function.update s.results (X.hashOf tx) (some false)⟩

/-- The answers of the node.  It may take any time to find a transaction. -/
inductive Answers : ChainState → (q : RpcCall) → Except Failure (RpcAnswer q) → ChainState → Prop
  | account {s : ChainState} {publicKey : String} {sequence : ℕ} :
      Answers s (.getAccount publicKey) (.ok sequence) s
  | simulated {s : ChainState} {tx : Transaction} {simulation : Simulation} :
      X.Simulates tx s.world simulation →
      Answers s (.simulateTransaction tx) (.ok simulation) s
  | sent {s s' : ChainState} {tx : Transaction} : X.Includes tx s s' →
      Answers s (.sendTransaction tx) (.ok ⟨.pending, X.hashOf tx, none⟩) s'
  | notFound {s : ChainState} {hash : String} :
      Answers s (.getTransaction hash) (.ok .notFound) s
  | succeeded {s : ChainState} {hash : String} {ledger : ℕ} : s.results hash = some true →
      Answers s (.getTransaction hash) (.ok (.success ledger)) s
  | failed {s : ChainState} {hash : String} : s.results hash = some false →
      Answers s (.getTransaction hash) (.ok .failed) s

def network : Environment ChainState RpcCall RpcAnswer Failure := ⟨X.Answers, fun _ _ => False⟩

variable {X} {tx : Transaction} {w w' : Network.Desk.World} {env : Env} {agent : Address}
  {regionId : Symbol} {amount exposure : I128}

/-! ### Authorizations -/

/-- Of the authorizations a draw needs only the agent's. -/
theorem drawLiquidity_authorized {N : Network.Desk} {r : I128 × Network.Desk.World} :
    Pool.drawLiquidity N.host env agent regionId amount w = .ok r ↔ env.signed agent = true ∧
      Pool.drawLiquidity N.host ⟨fun _ => true, env.accepts⟩ agent regionId amount w = .ok r := by
  obtain ⟨exposure, w'⟩ := r
  rw [Pool.drawLiquidity_ok, Pool.drawLiquidity_ok]
  simp only [Network.Desk.host_tryIsAuthorized, Network.Desk.host_tryGetBond, true_and]

theorem executes_iff (hid : tx.contractId = X.poolId) (hmethod : tx.method = "draw_liquidity")
    (hargs : tx.args = [X.keys.value agent, .ofSymbol regionId, .ofI128 amount]) :
    X.Executes env tx w w' ↔ ∃ exposure,
      Pool.drawLiquidity X.desk.host env agent regionId amount w.clear = .ok (exposure, w') := by
  refine ⟨?_, fun ⟨exposure, h⟩ => .draw hid hmethod hargs h⟩
  rintro ⟨-, -, hargs', h⟩
  rw [hargs] at hargs'
  obtain ⟨hagent, hregion, hamount⟩ : X.keys.value agent = _ ∧ Value.ofSymbol regionId = _ ∧
      Value.ofI128 amount = _ := by simpa using hargs'
  obtain rfl := X.keys.injective (Value.text.inj hagent)
  obtain rfl : regionId = _ := congrArg Symbol.mk (Value.text.inj hregion)
  obtain rfl := MachineInt.ext (Value.bigint.inj hamount)
  exact ⟨_, h⟩

/-- A draw that is possible depends on the authorization of the agent. -/
theorem executes_authorized_iff (hid : tx.contractId = X.poolId)
    (hmethod : tx.method = "draw_liquidity")
    (hargs : tx.args = [X.keys.value agent, .ofSymbol regionId, .ofI128 amount])
    (h : Pool.drawLiquidity X.desk.host X.recording agent regionId amount w.clear =
      .ok (exposure, w')) (henv : env.accepts = X.accepts) (w'' : Network.Desk.World) :
    X.Executes env tx w w'' ↔ env.signed agent = true ∧ w'' = w' := by
  rw [executes_iff hid hmethod hargs]
  constructor
  · rintro ⟨exposure', hdraw⟩
    obtain ⟨hsigned, hdraw⟩ := drawLiquidity_authorized.1 hdraw
    rw [henv] at hdraw
    exact ⟨hsigned, (Prod.mk.inj (Except.ok.inj (hdraw.symm.trans h))).2⟩
  · rintro ⟨hsigned, rfl⟩
    refine ⟨exposure, drawLiquidity_authorized.2 ⟨hsigned, ?_⟩⟩
    rw [henv]
    exact h

/-- What a simulation lists for a draw. -/
theorem needs_iff (h : ∀ env : Env, env.accepts = X.accepts →
    ∀ w'', X.Executes env tx w w'' ↔ env.signed agent = true ∧ w'' = w') {a : Address} :
    X.Needs tx w a ↔ a = agent := by
  constructor
  · intro hneeds
    by_contra hne
    exact hneeds w' ((h _ rfl w').2 ⟨decide_eq_true (Ne.symm hne), rfl⟩)
  · rintro rfl w'' hexecutes
    exact of_decide_eq_true ((h _ rfl w'').1 hexecutes).1 rfl

/-- Every call to the node is answered. -/
theorem network_total (s : ChainState) (q : RpcCall) : ∃ o s', X.network.answers s q o s' := by
  cases q with
  | getAccount => exact ⟨.ok 0, s, .account⟩
  | simulateTransaction tx =>
    by_cases h : ∃ w', X.Executes X.recording tx s.world w'
    · obtain ⟨w', h⟩ := h
      obtain ⟨agent, hagent⟩ : ∃ agent, ∀ env : Env, env.accepts = X.accepts →
          ∀ w'', X.Executes env tx s.world w'' ↔ env.signed agent = true ∧ w'' = w' := by
        obtain ⟨hid, hmethod, hargs, h⟩ := h
        exact ⟨_, fun env henv => executes_authorized_iff hid hmethod hargs h henv⟩
      refine ⟨.ok (.success none [X.credentials tx agent]), s,
        .simulated (.success h fun cred => ?_)⟩
      rw [List.mem_singleton]
      refine ⟨fun hcred => ⟨agent, (needs_iff hagent).2 rfl, hcred⟩, ?_⟩
      rintro ⟨a, hneeds, hcred⟩
      rwa [(needs_iff hagent).1 hneeds] at hcred
    · exact ⟨.ok (.error ""), s, .simulated (.error fun w' h' => h ⟨w', h'⟩)⟩
  | sendTransaction tx =>
    by_cases h : ∃ w', X.Executes (X.env tx) tx s.world w'
    · obtain ⟨w', h⟩ := h
      exact ⟨_, _, .sent (.applied h)⟩
    · exact ⟨_, _, .sent (.failed fun w' h' => h ⟨w', h'⟩)⟩
  | getTransaction => exact ⟨.ok .notFound, s, .notFound⟩

/-- With what a simulation has listed and the signature of its source, a transaction is authorized
by its source only. -/
theorem authorizes_prepared {options : InvocationOptions} {sequence : ℕ} {auth : List Credentials}
    (hauth : ∀ cred, cred ∈ auth ↔
      ∃ a, a = agent ∧ cred = X.credentials (options.transaction sequence) a) :
    X.authorizes (options.prepared sequence auth) agent = true ↔
      X.keys.encode agent = options.signer.publicKey := by
  rw [authorizes, List.any_eq_true]
  have hcredentials : X.credentials (options.transaction sequence) agent =
      if X.keys.encode agent = options.signer.publicKey then .sourceAccount
      else .address (X.keys.encode agent) false := rfl
  by_cases hkey : X.keys.encode agent = options.signer.publicKey
  · rw [if_pos hkey] at hcredentials
    refine iff_of_true ⟨.sourceAccount, (hauth _).2 ⟨agent, rfl, hcredentials.symm⟩, ?_⟩ hkey
    exact Bool.and_eq_true_iff.2 ⟨decide_eq_true hkey, decide_eq_true (List.mem_singleton_self _)⟩
  · rw [if_neg hkey] at hcredentials
    refine iff_of_false ?_ hkey
    rintro ⟨cred, hmem, hcred⟩
    obtain ⟨a, rfl, rfl⟩ := (hauth cred).1 hmem
    rw [hcredentials] at hcred
    exact absurd (Bool.and_eq_true_iff.1 hcred).2 (by decide)

/-! ### Invocations -/

/-- Polling for a transaction that took effect returns, however long it takes. -/
theorem ensures_pollForResult (hash : String) (attempts : ℕ) (s : ChainState) :
    Ensures X.network (fun r s' => s' = s ∧ (s.results hash = some true → ∃ ledger, r = .ok ledger))
      (pollForResult hash attempts) s := by
  induction attempts with
  | zero => exact ⟨rfl, fun _ => ⟨0, rfl⟩⟩
  | succ attempts ih =>
    rw [pollForResult]
    refine .ask_bind (fun response s' hanswers => ?_) fun e s' hanswers => by cases hanswers
    cases hanswers with
    | notFound => exact ih
    | succeeded => exact ⟨rfl, fun _ => ⟨_, rfl⟩⟩
    | failed hfailed =>
      refine ⟨rfl, fun hsucceeded => ?_⟩
      rw [hfailed] at hsucceeded
      cases hsucceeded

theorem executes_prepared {options : InvocationOptions} {sequence : ℕ} {auth : List Credentials} :
    X.Executes env (options.prepared sequence auth) w w' ↔
      X.Executes env (options.transaction sequence) w w' :=
  ⟨fun ⟨hid, hmethod, hargs, h⟩ => ⟨hid, hmethod, hargs, h⟩,
    fun ⟨hid, hmethod, hargs, h⟩ => ⟨hid, hmethod, hargs, h⟩⟩

variable (X) in
/-- How an invocation ends that needs the authorization of the agent, and leads from `w` to `w'`. -/
structure Invoked (signer : Keypair) (agent : Address) (w w' : Network.Desk.World)
    (r : Except Failure InvocationResult) (s : ChainState) : Prop where
  authorized : X.keys.encode agent = signer.publicKey →
    s.world = w' ∧ ∃ result, r = .ok result ∧ result.hash.isSome = true
  unauthorized : X.keys.encode agent ≠ signer.publicKey → s.world = w

theorem ensures_submit {options : InvocationOptions} {s : ChainState}
    (hoptions : options.simulateOnly = false) (h : ∀ sequence, ∀ env : Env,
      env.accepts = X.accepts → ∀ w'', X.Executes env (options.transaction sequence) s.world w'' ↔
        env.signed agent = true ∧ w'' = w') :
    Ensures X.network (X.Invoked options.signer agent s.world w') options.submit s := by
  rw [InvocationOptions.submit]
  refine .ask_bind (fun sequence s₁ hanswers => ?_) fun e s₁ hanswers => by cases hanswers
  cases hanswers
  refine .ask_bind (fun simulation s₁ hanswers => ?_) fun e s₁ hanswers => by cases hanswers
  cases hanswers with
  | simulated hsimulates =>
    cases hsimulates with
    -- The simulation takes the authorization of everybody for granted, so it succeeds.
    | error hrefused => exact absurd ((h sequence X.recording rfl w').2 ⟨rfl, rfl⟩) (hrefused w')
    | @success _ retval auth _ hauth =>
      show Ensures _ _ (if options.simulateOnly = true then _ else _) _
      rw [hoptions, if_neg (by decide)]
      -- Nobody but the signer of the transaction authorizes anything in the end.
      have hauthorizes : X.authorizes (options.prepared sequence auth) agent = true ↔
          X.keys.encode agent = options.signer.publicKey :=
        authorizes_prepared fun cred => (hauth cred).trans
          (exists_congr fun a => and_congr_left fun _ => needs_iff (h sequence))
      refine .ask_bind (fun sent s₂ hanswers => ?_) fun e s₂ hanswers => by cases hanswers
      cases hanswers with
      | sent hincludes =>
        have haccepted : (⟨.pending, X.hashOf (options.prepared sequence auth), none⟩ :
            SendResponse).status ≠ .error := by simp
        rw [throwUnless_bind_pos haccepted]
        -- What has become of the transaction is decided when it is sent; polling changes nothing.
        have hpoll := ensures_pollForResult (X := X) (X.hashOf (options.prepared sequence auth))
          pollAttempts s₂
        cases hincludes with
        | @applied w'' hexecutes =>
          rw [executes_prepared, h sequence _ rfl] at hexecutes
          obtain ⟨hsigned, rfl⟩ := hexecutes
          have hkey := hauthorizes.1 hsigned
          refine hpoll.bind ?_ ?_
          · rintro ledger s₃ ⟨rfl, -⟩
            exact ⟨fun _ => ⟨rfl, _, rfl, rfl⟩, fun hne => absurd hkey hne⟩
          · rintro e s₃ ⟨rfl, hsucceeded⟩
            obtain ⟨ledger, hledger⟩ := hsucceeded (Function.update_self ..)
            cases hledger
        | failed hrefused =>
          have hkey : X.keys.encode agent ≠ options.signer.publicKey := fun hkey =>
            hrefused w' (executes_prepared.2
              ((h sequence _ rfl w').2 ⟨hauthorizes.2 hkey, rfl⟩))
          refine hpoll.bind ?_ ?_
          · rintro ledger s₃ ⟨rfl, -⟩
            exact ⟨fun heq => absurd heq hkey, fun _ => rfl⟩
          · rintro e s₃ ⟨rfl, -⟩
            exact ⟨fun heq => absurd heq hkey, fun _ => rfl⟩

/-- Which error it is says nothing. -/
theorem ensures_invoke {options : InvocationOptions} {s : ChainState}
    (hoptions : options.simulateOnly = false) (h : ∀ sequence, ∀ env : Env,
      env.accepts = X.accepts → ∀ w'', X.Executes env (options.transaction sequence) s.world w'' ↔
        env.signed agent = true ∧ w'' = w') :
    Ensures X.network (X.Invoked options.signer agent s.world w') (invoke options) s := by
  refine (ensures_submit hoptions h).tryCatch (fun _ _ hinvoked => hinvoked) ?_
  intro e s' hinvoked
  have hany : ∀ e', X.Invoked options.signer agent s.world w' (.error e') s' := by
    refine fun e' => ⟨fun hkey => ?_, hinvoked.unauthorized⟩
    obtain ⟨-, result, hresult, -⟩ := hinvoked.authorized hkey
    cases hresult
  show Ensures _ _ (if _ then _ else _) _
  split_ifs
  · exact hany e
  · exact hany _

/-- What the library makes of the arguments of a draw.  It may not be able to convert the amount. -/
structure Converts (sdk : Sdk) (K : StrKey) (agent : Address) (regionId : Symbol) (amount : I128) :
    Prop where
  address : sdk.address (K.encode agent) = .ok (K.value agent)
  symbol : sdk.sym regionId.name = .ok (.ofSymbol regionId)
  i128 : sdk.i128 amount.val = .ok (.ofI128 amount)
  decimal : ∀ n, sdk.bigIntOfDecimal amount.val = .ok n → n = amount.val

/-- **Draws.**  A draw that the pool accepts takes effect if the agent's is the key that signs. -/
theorem ensures_drawLiquidity {sdk : Sdk} {settings : Settings} {operator : Keypair}
    {s : ChainState} (hconverts : Converts sdk X.keys agent regionId amount)
    (hpool : settings.contractLiquidityPool = X.poolId)
    (h : Pool.drawLiquidity X.desk.host X.recording agent regionId amount s.world.clear =
      .ok (exposure, w')) :
    Ensures X.network (X.Invoked operator agent s.world w')
      (drawLiquidity sdk settings operator (X.keys.encode agent) regionId.name amount.val) s := by
  have hargs : drawLiquidityArgs sdk (X.keys.encode agent) regionId.name amount.val =
      .ok [X.keys.value agent, .ofSymbol regionId, .ofI128 amount] := by
    rw [drawLiquidityArgs, hconverts.address, hconverts.symbol, hconverts.i128]
    rfl
  rw [drawLiquidity, invokeWith, hargs]
  exact ensures_invoke rfl fun sequence env henv =>
    executes_authorized_iff hpool rfl rfl h henv

end Chain

end Liquidity

end RemitBridge
