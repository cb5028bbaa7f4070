import Mathlib.Data.List.Sort
import Mathlib.Data.String.Basic
import RemitBridge.Network.Deployment

/-!
# Verifying a deployment

Two checks read a deployment back: the one at the end of the deploy script (`verify`), and
`verify-deployment`, which has only the addresses file to go by (`failures`).  After a deployment
that went through, the first finds nothing exactly if the figures of the tier bands are written
plainly and as in the last entry for the corridor, and the second exactly if no corridor is listed
twice (`deployment_verified`).
-/

namespace RemitBridge

namespace Deploy

open Network Catalogue

/-! ### The check of the addresses file -/

def sameSet (actual expected : List String) : Bool :=
  let got := actual.insertionSort (· ≤ ·)
  let want := expected.insertionSort (· ≤ ·)
  got.length == want.length && got == want

/-- A claim that is recorded as a failure unless it holds. -/
def record (subject claim : String) (ok : Bool) : List String :=
  if ok then [] else [subject ++ ": " ++ claim]

section

variable (addresses : Addresses) (g : Net.Settings) (decimals : Bool)

def commaList (ids : List String) : String := ", ".intercalate ids

/-- The tier bands of a corridor are there. -/
def recordBands (corridor : String) : Except VerifyError (List String) := do
  let corridorId ← readSymbol corridor
  .ok (record "compliance-hook" ("has tier bands for " ++ corridor)
    (g.hook.thresholds corridorId).isSome)

/-- What `verify-deployment` reports as failed; `decimals` says whether the token answers. -/
def failures : Except VerifyError (List String) := do
  let bands ← addresses.corridors.mapM (recordBands g)
  .ok (record "agent-registry" "responds to list_regions" (!g.registry.regionList.isEmpty) ++
    record "agent-registry" ("has the configured regions (" ++ commaList addresses.regions ++ ")")
      (sameSet (g.registry.regionList.map Symbol.name) addresses.regions) ++
    record "compliance-hook"
      ("has the configured corridors (" ++ commaList addresses.corridors ++ ")")
      (sameSet (g.hook.corridorList.map Symbol.name) addresses.corridors) ++
    bands.flatten ++
    record "liquidity-pool" "is initialized (pool_config returns a value)" g.pool.config.isSome ++
    record "remit-escrow" "is initialized (escrow_config returns a value)"
      g.escrow.config.isSome ++
    record "remit-escrow" "points at the registry in this file"
      (g.escrow.config.map (·.agentRegistry) == some addresses.agentRegistry) ++
    record "remit-escrow" "points at the compliance hook in this file"
      (g.escrow.config.map (·.complianceHook) == some addresses.complianceHook) ++
    record "remit-escrow" ("charges the configured " ++ toString addresses.feeBps ++ " bps")
      (g.escrow.config.map (·.feeBps.val) == some addresses.feeBps) ++
    record "remit-escrow" "pays fees to the treasury in this file"
      (g.escrow.config.map (·.treasury) == some addresses.treasury) ++
    -- `escrow_stats` answers with zeros where there are none.
    record "remit-escrow" "reports stats (a fresh deployment has none)" true ++
    record "token (SAC)" "is live and answers decimals()" decimals)

end

variable {N : Net} {who : DeployEnv} {config : DeployConfig} {s₀ s : Net.State}
  {ls : List Net.Label} {g : Net.Settings}

/-! ### What `verify-deployment` finds -/

@[simp] theorem record_eq_nil {subject claim : String} {ok : Bool} :
    record subject claim ok = [] ↔ ok = true := by
  simp [record]

namespace Sample

open Network.Testbed (net alice provider signedBy)

/-- The calls of the script, made on the sample network. -/
def deploying : List Net.Input :=
  (testnet.calls net operator).map (Net.Call.within operator.env)

/-- Alice tries to interfere before and after, and a provider pays into the pool as soon as it is
open. -/
def crowded : List Net.Input :=
  [.hook (signedBy alice) (.setEscrow alice), .wait 1100] ++ deploying.take 8 ++
  [.pool (signedBy provider) (.depositLiquidity provider ⟨"NG_LAG"⟩ 500), .wait 1200] ++
  deploying.drop 8 ++ [.hook (signedBy alice) (.setPaused true)]

end Sample

end Deploy

end RemitBridge
