import RemitBridge.Interface.AgentRegistry
import RemitBridge.Soroban.Contract

/-!
# The agent registry

Cash-out agents post a bond in the registry's token, the operator authorises, suspends, revokes
or slashes them, and other contracts ask whether an agent is authorised and how large its bond
is.  The registry calls nobody but the token.
-/

namespace RemitBridge

namespace Registry

/-- What the registry emits. -/
inductive Event where
  | agentRegistered (agent : Address) (regionId : Symbol) (bond : I128)
  | agentStatusChanged (agent : Address) (regionId : Symbol) (source dest : AgentStatus)
      (reason : Symbol)
  | bondToppedUp (agent : Address) (amount newBond : I128)
  | bondWithdrawn (agent : Address) (amount newBond : I128)
  | agentSlashed (agent : Address) (requested recovered : I128) (reason : Symbol)
  | regionConfigured (regionId : Symbol) (minBond : I128) (active : Bool)
  | corridorMapped (corridorId regionId : Symbol)
  | adminChanged (previous next : Address)
  deriving DecidableEq

/-- The registry's storage.  An absent list is empty. -/
structure Storage where
  admin : Option Address
  bondToken : Option Address
  /-- Destination for slashed bond. -/
  treasury : Option Address
  stats : Option RegistryStats
  regionList : List Symbol
  regions : Store Symbol RegionConfig
  regionAgents : Store Symbol (List Address)
  corridorRegions : Store Symbol Symbol
  agents : Store Address Agent

/-- The storage of a contract nobody has initialised. -/
def Storage.blank : Storage := ⟨none, none, none, none, [], ∅, ∅, ∅, ∅⟩

abbrev World (ω : Type) := RemitBridge.World Storage Event ω

open Exec

variable {ω : Type}

/-! ### Storage -/

namespace Storage

@[simps] def putAdmin (s : Storage) (admin : Address) : Storage := { s with admin := some admin }

@[simps] def putBondToken (s : Storage) (token : Address) : Storage :=
  { s with bondToken := some token }

@[simps] def putTreasury (s : Storage) (treasury : Address) : Storage :=
  { s with treasury := some treasury }

def getStats (s : Storage) : RegistryStats := s.stats.getD .zero

@[simps] def putStats (s : Storage) (stats : RegistryStats) : Storage :=
  { s with stats := some stats }

def getRegion (s : Storage) (regionId : Symbol) : Option RegionConfig := s.regions.lookup regionId

@[simps] def putRegion (s : Storage) (config : RegionConfig) : Storage :=
  { s with regions := s.regions.insert config.regionId config }

/-- List a region, once. -/
@[simps] def pushRegion (s : Storage) (regionId : Symbol) : Storage :=
  { s with
    regionList := if regionId ∈ s.regionList then s.regionList else s.regionList ++ [regionId] }

def getAgent (s : Storage) (agent : Address) : Option Agent := s.agents.lookup agent

@[simps] def putAgent (s : Storage) (agent : Agent) : Storage :=
  { s with agents := s.agents.insert agent.address agent }

def listRegionAgents (s : Storage) (regionId : Symbol) : List Address :=
  (s.regionAgents.lookup regionId).getD []

/-- Add an agent to a region's index, once. -/
@[simps] def pushRegionAgent (s : Storage) (regionId : Symbol) (agent : Address) : Storage :=
  { s with
    regionAgents := s.regionAgents.insert regionId
      (if agent ∈ s.listRegionAgents regionId then s.listRegionAgents regionId
        else s.listRegionAgents regionId ++ [agent]) }

def getCorridorRegion (s : Storage) (corridorId : Symbol) : Option Symbol :=
  s.corridorRegions.lookup corridorId

@[simps] def putCorridorRegion (s : Storage) (corridorId regionId : Symbol) : Storage :=
  { s with corridorRegions := s.corridorRegions.insert corridorId regionId }

section

variable (s : Storage)

@[simp] theorem getStats_putStats (stats : RegistryStats) : (s.putStats stats).getStats = stats :=
  rfl

@[simp] theorem getStats_putAgent (agent : Agent) : (s.putAgent agent).getStats = s.getStats := rfl

@[simp] theorem getStats_pushRegionAgent (regionId : Symbol) (agent : Address) :
    (s.pushRegionAgent regionId agent).getStats = s.getStats := rfl

@[simp] theorem getRegion_putAgent (agent : Agent) :
    (s.putAgent agent).getRegion = s.getRegion := rfl

end

/-- Agents currently allowed to settle in a region. -/
def countAuthorized (s : Storage) (regionId : Symbol) : U32 :=
  (s.listRegionAgents regionId).foldl
    (fun count address => match s.getAgent address with
      | some record => if record.status = .authorized then count.saturatingAdd 1 else count
      | none => count) 0

/-! ### Reads -/

/-- Total agents registered in a region: the length of its index. -/
def countRegionAgents (s : Storage) (regionId : Symbol) : ℕ := (s.listRegionAgents regionId).length

def isAuthorized (s : Storage) (agent : Address) (regionId : Symbol) : Bool :=
  match s.getAgent agent with
  | some record =>
    record.status.canSettle && (s.getRegion regionId).any RegionConfig.active &&
      decide (record.regionId = regionId)
  | none => false

def isAuthorizedForCorridor (s : Storage) (agent : Address) (corridorId : Symbol) : Bool :=
  match s.getCorridorRegion corridorId with
  | some regionId => s.isAuthorized agent regionId
  | none => false

def getBond (s : Storage) (agent : Address) : I128 := (s.getAgent agent).elim 0 Agent.bond

end Storage

/-! ### Helpers -/

def getAdmin : Exec (World ω) AgentRegistryError Address := do
  okOr (← read Storage.admin) .notInitialized

def getBondToken : Exec (World ω) AgentRegistryError Address := do
  okOr (← read Storage.bondToken) .notInitialized

def getTreasury : Exec (World ω) AgentRegistryError Address := do
  okOr (← read Storage.treasury) .notInitialized

def requireAdmin (env : Env) : Exec (World ω) AgentRegistryError Address := do
  let admin ← getAdmin
  requireAuth env admin
  pure admin

def loadAgent (agent : Address) : Exec (World ω) AgentRegistryError Agent := do
  okOr (← read fun s => s.getAgent agent) .agentNotRegistered

def loadRegion (regionId : Symbol) : Exec (World ω) AgentRegistryError RegionConfig := do
  okOr (← read fun s => s.getRegion regionId) .unknownRegion

def setAgent (record : Agent) : Exec (World ω) AgentRegistryError Unit :=
  write fun s => s.putAgent record

def setStats (stats : RegistryStats) : Exec (World ω) AgentRegistryError Unit :=
  write fun s => s.putStats stats

def setRegion (config : RegionConfig) : Exec (World ω) AgentRegistryError Unit :=
  write fun s => s.putRegion config

variable (self : Address)

def moneyOut (env : Env) (token dest : Address) (amount : I128) :
    Exec (World ω) AgentRegistryError Unit := do
  refuseIf (amount.val ≤ 0) .invalidAmount
  transferToken env self token self dest amount
  pure ()

/-- The counters after an agent goes from one status to another. -/
def countTransition (stats : RegistryStats) (source dest : AgentStatus) : RegistryStats :=
  if source = .authorized ∧ dest ≠ .authorized then
    { stats with authorizedAgents := stats.authorizedAgents.saturatingSub 1 }
  else if source ≠ .authorized ∧ dest = .authorized then
    { stats with authorizedAgents := stats.authorizedAgents.saturatingAdd 1 }
  else stats

/-- Apply a lifecycle transition, and return the record it leaves. -/
def applyTransition (record : Agent) (dest : AgentStatus) (reason : Symbol) :
    Exec (World ω) AgentRegistryError Agent := do
  let source := record.status
  let now ← timestamp
  let record := { record with status := dest, updatedAt := now }
  setAgent record
  let stats ← read Storage.getStats
  setStats (countTransition stats source dest)
  publish (.agentStatusChanged record.address record.regionId source dest reason)
  pure record

/-- The record with which a registration starts: new, or from that of a revoked agent. -/
def startRecord (existing : Option Agent) (agent : Address) (regionId : Symbol)
    (bondToken : Address) (now : U64) : Exec (World ω) AgentRegistryError Agent :=
  match existing with
  | some previous =>
    if previous.status = .revoked then
      pure ⟨agent, regionId, bondToken, 0, .pending, previous.slashCount,
        previous.registeredAt, now⟩
    else fail .agentAlreadyRegistered
  | none => pure ⟨agent, regionId, bondToken, 0, .pending, 0, now, now⟩

/-! ### Entry points: administration -/

def initializeContract (env : Env) (admin bondToken treasury : Address) :
    Exec (World ω) AgentRegistryError Unit := do
  let current ← read Storage.admin
  refuseIf (current.isSome = true) .alreadyInitialized
  requireAuth env admin
  write fun s => s.putAdmin admin
  write fun s => s.putBondToken bondToken
  write fun s => s.putTreasury treasury
  setStats .zero
  pure ()

def setAdmin (env : Env) (newAdmin : Address) : Exec (World ω) AgentRegistryError Unit := do
  let previous ← requireAdmin env
  write fun s => s.putAdmin newAdmin
  publish (.adminChanged previous newAdmin)
  pure ()

def setTreasury (env : Env) (treasury : Address) : Exec (World ω) AgentRegistryError Unit := do
  let _ ← requireAdmin env
  write fun s => s.putTreasury treasury
  pure ()

def addRegion (env : Env) (regionId : Symbol) (minBond : I128) (maxAgents : U32) :
    Exec (World ω) AgentRegistryError Unit := do
  let _ ← requireAdmin env
  refuseIf (minBond.val < 0) .invalidAmount
  let existing ← read fun s => s.getRegion regionId
  refuseIf (existing.isSome = true) .regionAlreadyExists
  setRegion ⟨regionId, minBond, maxAgents, true⟩
  write fun s => s.pushRegion regionId
  publish (.regionConfigured regionId minBond true)
  pure ()

def setMinBond (env : Env) (regionId : Symbol) (minBond : I128) :
    Exec (World ω) AgentRegistryError Unit := do
  let _ ← requireAdmin env
  refuseIf (minBond.val < 0) .invalidAmount
  let region ← loadRegion regionId
  setRegion { region with minBond := minBond }
  publish (.regionConfigured regionId minBond region.active)
  pure ()

def setRegionActive (env : Env) (regionId : Symbol) (active : Bool) :
    Exec (World ω) AgentRegistryError Unit := do
  let _ ← requireAdmin env
  let region ← loadRegion regionId
  setRegion { region with active := active }
  publish (.regionConfigured regionId region.minBond active)
  pure ()

def mapCorridor (env : Env) (corridorId regionId : Symbol) :
    Exec (World ω) AgentRegistryError Unit := do
  let _ ← requireAdmin env
  let _ ← loadRegion regionId
  write fun s => s.putCorridorRegion corridorId regionId
  publish (.corridorMapped corridorId regionId)
  pure ()

/-! ### Entry points: bonds -/

def registerAgent (env : Env) (agent : Address) (regionId : Symbol) (bondAmount : I128) :
    Exec (World ω) AgentRegistryError Agent := do
  requireAuth env agent
  refuseIf (bondAmount.val ≤ 0) .invalidAmount
  let region ← loadRegion regionId
  refuseIf (region.active = false) .regionInactive
  refuseIf (region.acceptsBond bondAmount = false) .bondBelowMinimum
  let bondToken ← getBondToken
  let now ← timestamp
  let existing ← read fun s => s.getAgent agent
  let record ← startRecord existing agent regionId bondToken now
  refuseIf (record.bondToken ≠ bondToken) .bondTokenMismatch
  transferToken env self bondToken agent self bondAmount
  let bond ← okOr (record.bond.checkedAdd bondAmount) .overflow
  let record := { record with bond, updatedAt := now }
  setAgent record
  write fun s => s.pushRegionAgent regionId agent
  let stats ← read Storage.getStats
  let totalAgents :=
    if existing.isNone = true then stats.totalAgents.saturatingAdd 1 else stats.totalAgents
  let totalBonded ← okOr (stats.totalBonded.checkedAdd bondAmount) .overflow
  setStats { stats with totalAgents, totalBonded }
  publish (.agentRegistered agent regionId record.bond)
  pure record

def topUpBond (env : Env) (agent : Address) (amount : I128) :
    Exec (World ω) AgentRegistryError I128 := do
  requireAuth env agent
  refuseIf (amount.val ≤ 0) .invalidAmount
  let record ← loadAgent agent
  let bondToken ← getBondToken
  transferToken env self bondToken agent self amount
  let bond ← okOr (record.bond.checkedAdd amount) .overflow
  let now ← timestamp
  setAgent { record with bond, updatedAt := now }
  let stats ← read Storage.getStats
  let totalBonded ← okOr (stats.totalBonded.checkedAdd amount) .overflow
  setStats { stats with totalBonded }
  publish (.bondToppedUp agent amount bond)
  pure bond

def withdrawBond (env : Env) (agent : Address) (amount : I128) :
    Exec (World ω) AgentRegistryError I128 := do
  requireAuth env agent
  refuseIf (amount.val ≤ 0) .invalidAmount
  let record ← loadAgent agent
  refuseIf (record.status.bondIsWithdrawable = false) .bondLockedWhileAuthorized
  refuseIf (record.bond < amount) .insufficientBond
  let bondToken ← getBondToken
  moneyOut self env bondToken agent amount
  let bond ← orTrap (record.bond.checkedSub amount)
  let now ← timestamp
  setAgent { record with bond, updatedAt := now }
  let stats ← read Storage.getStats
  let totalBonded ← orTrap (stats.totalBonded.checkedSub amount)
  setStats { stats with totalBonded }
  publish (.bondWithdrawn agent amount bond)
  pure bond

/-! ### Entry points: the lifecycle -/

def authorizeAgent (env : Env) (agent : Address) : Exec (World ω) AgentRegistryError Unit := do
  let _ ← requireAdmin env
  let record ← loadAgent agent
  refuseIf (record.status ≠ .pending ∧ record.status ≠ .suspended) .invalidStatusTransition
  let region ← loadRegion record.regionId
  refuseIf (region.active = false) .regionInactive
  refuseIf (region.acceptsBond record.bond = false) .bondBelowMinimum
  let authorized ← read fun s => s.countAuthorized record.regionId
  refuseIf (0 < region.maxAgents.val ∧ region.maxAgents ≤ authorized) .regionFull
  let _ ← applyTransition record .authorized ⟨"approved"⟩
  pure ()

def suspendAgent (env : Env) (agent : Address) (reason : Symbol) :
    Exec (World ω) AgentRegistryError Unit := do
  let _ ← requireAdmin env
  let record ← loadAgent agent
  refuseIf (record.status = .revoked) .invalidStatusTransition
  let _ ← applyTransition record .suspended reason
  pure ()

def revokeAgent (env : Env) (agent : Address) (reason : Symbol) :
    Exec (World ω) AgentRegistryError Unit := do
  let _ ← requireAdmin env
  let record ← loadAgent agent
  refuseIf (record.status = .revoked) .invalidStatusTransition
  let _ ← applyTransition record .revoked reason
  pure ()

/-- A slash that leaves an authorised agent below its region's minimum suspends it. -/
def suspendUnderwater (record : Agent) : Exec (World ω) AgentRegistryError Agent :=
  if record.status = .authorized then do
    let region ← loadRegion record.regionId
    if region.acceptsBond record.bond = false then
      applyTransition record .suspended ⟨"underwater"⟩
    else pure record
  else pure record

def slashAgent (env : Env) (agent : Address) (amount : I128) (reason : Symbol) :
    Exec (World ω) AgentRegistryError I128 := do
  let _ ← requireAdmin env
  refuseIf (amount.val ≤ 0) .invalidAmount
  let record ← loadAgent agent
  refuseIf (record.bond < amount) .slashExceedsBond
  let treasury ← getTreasury
  let bond ← orTrap (record.bond.checkedSub amount)
  let record ← suspendUnderwater
    { record with bond, slashCount := record.slashCount.saturatingAdd 1 }
  let now ← timestamp
  setAgent { record with updatedAt := now }
  let bondToken ← getBondToken
  moneyOut self env bondToken treasury amount
  let stats ← read Storage.getStats
  let totalBonded ← orTrap (stats.totalBonded.checkedSub amount)
  let totalSlashed ← okOr (stats.totalSlashed.checkedAdd amount) .overflow
  setStats { stats with totalBonded, totalSlashed }
  publish (.agentSlashed agent amount amount reason)
  pure amount

/-! ### The contract -/

/-- An entry point with its arguments. -/
inductive Call where
  | initializeContract (admin bondToken treasury : Address)
  | setAdmin (newAdmin : Address)
  | setTreasury (treasury : Address)
  | addRegion (regionId : Symbol) (minBond : I128) (maxAgents : U32)
  | setMinBond (regionId : Symbol) (minBond : I128)
  | setRegionActive (regionId : Symbol) (active : Bool)
  | mapCorridor (corridorId regionId : Symbol)
  | registerAgent (agent : Address) (regionId : Symbol) (bondAmount : I128)
  | topUpBond (agent : Address) (amount : I128)
  | withdrawBond (agent : Address) (amount : I128)
  | authorizeAgent (agent : Address)
  | suspendAgent (agent : Address) (reason : Symbol)
  | revokeAgent (agent : Address) (reason : Symbol)
  | slashAgent (agent : Address) (amount : I128) (reason : Symbol)
  deriving DecidableEq

/-- What an entry point returns. -/
inductive Ret where
  | unit
  | agent (record : Agent)
  | amount (amount : I128)
  deriving DecidableEq

/-- Execute an entry point. -/
def invoke (env : Env) : Call → Exec (World ω) AgentRegistryError Ret
  | .initializeContract admin bondToken treasury => do
    initializeContract env admin bondToken treasury
    pure .unit
  | .setAdmin newAdmin => do setAdmin env newAdmin; pure .unit
  | .setTreasury treasury => do setTreasury env treasury; pure .unit
  | .addRegion regionId minBond maxAgents => do
    addRegion env regionId minBond maxAgents
    pure .unit
  | .setMinBond regionId minBond => do setMinBond env regionId minBond; pure .unit
  | .setRegionActive regionId active => do setRegionActive env regionId active; pure .unit
  | .mapCorridor corridorId regionId => do mapCorridor env corridorId regionId; pure .unit
  | .registerAgent agent regionId bondAmount => do
    let record ← registerAgent self env agent regionId bondAmount
    pure (.agent record)
  | .topUpBond agent amount => do
    let bond ← topUpBond self env agent amount
    pure (.amount bond)
  | .withdrawBond agent amount => do
    let bond ← withdrawBond self env agent amount
    pure (.amount bond)
  | .authorizeAgent agent => do authorizeAgent env agent; pure .unit
  | .suspendAgent agent reason => do suspendAgent env agent reason; pure .unit
  | .revokeAgent agent reason => do revokeAgent env agent reason; pure .unit
  | .slashAgent agent amount reason => do
    let slashed ← slashAgent self env agent amount reason
    pure (.amount slashed)

/-- The registry as a contract. -/
def contract : Contract Storage Event ω Call Ret AgentRegistryError := ⟨self, invoke self⟩

abbrev Label (ω : Type) := Action ω Call Ret Event AgentRegistryError

end Registry

end RemitBridge
