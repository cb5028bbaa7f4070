import RemitBridge.Interface.Escrow
import RemitBridge.Interface.AgentRegistry
import RemitBridge.Interface.Compliance
import RemitBridge.Soroban.Contract

/-!
# The remittance escrow

The escrow locks a sender's funds against the hash of a claim code and releases them to an
authorised agent who produces the code, or back to the sender.

The contracts the escrow calls are parameters (`Host`): the compliance hook, which may change its
own state `ω`, the agent registry, and the hash function of the host.
-/

namespace RemitBridge

namespace Escrow

/-- What the escrow emits. -/
inductive Event where
  | transferCreated (id : U64) (sender : Address) (amount : I128) (token : Address)
      (corridorId : Symbol) (claimHash : BytesN 32) (expiry : U64)
  | transferClaimed (id : U64) (agent : Address) (corridorId : Symbol) (gross fee payout : I128)
  | transferRefunded (id : U64) (sender : Address) (amount : I128) (corridorId : Symbol)
  | transferCancelled (id : U64) (sender : Address) (amount : I128) (corridorId : Symbol)
  | configUpdated (tag : Symbol) (feeBps : U32) (paused : Bool) (maxExpirySecs : U64)
  | wiringUpdated (tag : Symbol) (address : Address)
  | adminChanged (previous next : Address)
  deriving DecidableEq

/-- The escrow's storage.  An absent entry is `none`. -/
structure Storage where
  admin : Option Address
  config : Option EscrowConfig
  stats : Option EscrowStats
  nextId : Option U64
  transfers : Store U64 Transfer
  senderTransfers : Store Address (List U64)

/-- The storage of a contract nobody has initialised. -/
def Storage.blank : Storage := ⟨none, none, none, none, ∅, ∅⟩

abbrev World (ω : Type) := RemitBridge.World Storage Event ω

/-- What the escrow relies on: its own address, the hash function, and the two contracts it
calls.  The first argument of a call is the address called, the second the environment of the
call, the third the time. -/
structure Host (ω : Type) where
  self : Address
  sha256 : List UInt8 → BytesN 32
  tryCommitTransfer : Address → Env → U64 → (sender : Address) → (amount : I128) →
    (corridorId : Symbol) → ω → TryCall ComplianceError I128 × ω
  tryIsAuthorizedForCorridor : Address → Env → U64 → (agent : Address) → (corridorId : Symbol) →
    ω → TryCall AgentRegistryError Bool × ω

open Exec

variable {ω : Type}

/-! ### Storage -/

@[simps] def Storage.putAdmin (s : Storage) (admin : Address) : Storage :=
  { s with admin := some admin }

@[simps] def Storage.putConfig (s : Storage) (config : EscrowConfig) : Storage :=
  { s with config := some config }

def Storage.getStats (s : Storage) : EscrowStats := s.stats.getD .zero

@[simps] def Storage.putStats (s : Storage) (stats : EscrowStats) : Storage :=
  { s with stats := some stats }

/-- The number of transfers ever created. -/
def Storage.transferCount (s : Storage) : U64 := s.nextId.getD 0

@[simps] def Storage.putNextId (s : Storage) (next : U64) : Storage :=
  { s with nextId := some next }

def Storage.getTransfer (s : Storage) (id : U64) : Option Transfer := s.transfers.lookup id

@[simps] def Storage.putTransfer (s : Storage) (transfer : Transfer) : Storage :=
  { s with transfers := s.transfers.insert transfer.id transfer }

def Storage.listSenderTransfers (s : Storage) (sender : Address) : List U64 :=
  (s.senderTransfers.lookup sender).getD []

@[simps] def Storage.putSenderTransfer (s : Storage) (sender : Address) (id : U64) : Storage :=
  { s with
    senderTransfers := s.senderTransfers.insert sender (s.listSenderTransfers sender ++ [id]) }

section

variable (s : Storage)

@[simp] theorem Storage.getStats_putTransfer (t : Transfer) :
    (s.putTransfer t).getStats = s.getStats := rfl

@[simp] theorem Storage.getStats_putNextId (n : U64) : (s.putNextId n).getStats = s.getStats := rfl

@[simp] theorem Storage.getStats_putSenderTransfer (a : Address) (id : U64) :
    (s.putSenderTransfer a id).getStats = s.getStats := rfl

@[simp] theorem Storage.getStats_putConfig (c : EscrowConfig) :
    (s.putConfig c).getStats = s.getStats := rfl

@[simp] theorem Storage.getStats_putStats (st : EscrowStats) : (s.putStats st).getStats = st := rfl

@[simp] theorem Storage.transferCount_putNextId (n : U64) :
    (s.putNextId n).transferCount = n := rfl

end

def getAdmin : Exec (World ω) EscrowError Address := do
  okOr (← read Storage.admin) .notInitialized

def setAdminEntry (admin : Address) : Exec (World ω) EscrowError Unit :=
  write fun s => s.putAdmin admin

def getConfig : Exec (World ω) EscrowError EscrowConfig := do
  okOr (← read Storage.config) .notInitialized

def setConfig (config : EscrowConfig) : Exec (World ω) EscrowError Unit :=
  write fun s => s.putConfig config

def setStats (stats : EscrowStats) : Exec (World ω) EscrowError Unit :=
  write fun s => s.putStats stats

/-- Allocate the next transfer id. -/
def nextId : Exec (World ω) EscrowError U64 := do
  let current ← read Storage.transferCount
  let next ← orTrap (current.checkedAdd 1)
  write fun s => s.putNextId next
  pure next

def setTransfer (transfer : Transfer) : Exec (World ω) EscrowError Unit :=
  write fun s => s.putTransfer transfer

/-- Append a transfer id to the sender's index. -/
def pushSenderTransfer (sender : Address) (id : U64) : Exec (World ω) EscrowError Unit :=
  write fun s => s.putSenderTransfer sender id

/-! ### Helpers -/

def requireAdmin (env : Env) : Exec (World ω) EscrowError Address := do
  let admin ← getAdmin
  requireAuth env admin
  pure admin

/-- Platform fee in the transfer's own token, rounded down. -/
def feeFor (amount : I128) (feeBps : U32) : Option I128 := do
  let product ← amount.checkedMul feeBps.toI128
  product.checkedDiv 10000

def loadTransfer (id : U64) : Exec (World ω) EscrowError Transfer := do
  okOr (← read fun s => s.getTransfer id) .transferNotFound

variable (H : Host ω)

/-- Return held funds to an address and record the outcome. -/
def release (env : Env) (transfer : Transfer) (dest : Address) (nextStatus : TransferStatus) :
    Exec (World ω) EscrowError Transfer := do
  transferToken env H.self transfer.token H.self dest transfer.amount
  let now ← timestamp
  let transfer := transfer.settle nextStatus now transfer.claimedBy
  setTransfer transfer
  pure transfer

/-- Put a transfer to the compliance gate, which both enforces and records it. -/
def commitVolume (env : Env) (hook sender : Address) (amount : I128) (corridorId : Symbol) :
    Exec (World ω) EscrowError Unit := do
  let now ← timestamp
  let outcome ← callPeers
    (H.tryCommitTransfer hook (env.invokedBy H.self) now sender amount corridorId)
  match outcome with
  | .ok _ => pure ()
  | .err _ => fail .complianceRefused
  | .badValue | .failed => fail .complianceCallFailed

/-- Confirm that the claimant may settle in this corridor. -/
def checkAgent (env : Env) (registry agent : Address) (corridorId : Symbol) :
    Exec (World ω) EscrowError Unit := do
  let now ← timestamp
  let outcome ← callPeers
    (H.tryIsAuthorizedForCorridor registry (env.invokedBy H.self) now agent corridorId)
  match outcome with
  | .ok true => pure ()
  | .ok false => fail .agentNotAuthorized
  | .badValue | .err _ | .failed => fail .registryCallFailed

/-- Pay the fee of a claim to the treasury, if there is one. -/
def payFee (env : Env) (token treasury : Address) (fee : I128) :
    Exec (World ω) EscrowError Unit :=
  if 0 < fee.val then do
    transferToken env H.self token H.self treasury fee
    pure ()
  else pure ()

/-! ### Entry points: administration -/

def initializeContract (env : Env) (admin agentRegistry complianceHook treasury : Address)
    (feeBps : U32) (maxExpirySecs : U64) : Exec (World ω) EscrowError Unit := do
  let current ← read Storage.admin
  refuseIf (current.isSome = true) .alreadyInitialized
  refuseIf (maxFeeBps < feeBps ∨ maxExpirySecs.val = 0) .invalidConfig
  requireAuth env admin
  setAdminEntry admin
  setConfig ⟨agentRegistry, complianceHook, treasury, feeBps, false, maxExpirySecs⟩
  setStats .zero
  pure ()

def setAdmin (env : Env) (newAdmin : Address) : Exec (World ω) EscrowError Unit := do
  let previous ← requireAdmin env
  setAdminEntry newAdmin
  publish (.adminChanged previous newAdmin)
  pure ()

def setFeeBps (env : Env) (feeBps : U32) : Exec (World ω) EscrowError Unit := do
  let _ ← requireAdmin env
  refuseIf (maxFeeBps < feeBps) .feeTooHigh
  let config ← getConfig
  setConfig { config with feeBps := feeBps }
  publish (.configUpdated ⟨"fee"⟩ feeBps config.paused config.maxExpirySecs)
  pure ()

def setTreasury (env : Env) (treasury : Address) : Exec (World ω) EscrowError Unit := do
  let _ ← requireAdmin env
  let config ← getConfig
  setConfig { config with treasury := treasury }
  publish (.wiringUpdated ⟨"tresry"⟩ treasury)
  pure ()

def setAgentRegistry (env : Env) (agentRegistry : Address) : Exec (World ω) EscrowError Unit := do
  let _ ← requireAdmin env
  let config ← getConfig
  setConfig { config with agentRegistry := agentRegistry }
  publish (.wiringUpdated ⟨"registry"⟩ agentRegistry)
  pure ()

def setComplianceHook (env : Env) (complianceHook : Address) :
    Exec (World ω) EscrowError Unit := do
  let _ ← requireAdmin env
  let config ← getConfig
  setConfig { config with complianceHook := complianceHook }
  publish (.wiringUpdated ⟨"hook"⟩ complianceHook)
  pure ()

def setMaxExpiry (env : Env) (maxExpirySecs : U64) : Exec (World ω) EscrowError Unit := do
  let _ ← requireAdmin env
  refuseIf (maxExpirySecs.val = 0) .invalidConfig
  let config ← getConfig
  setConfig { config with maxExpirySecs := maxExpirySecs }
  publish (.configUpdated ⟨"expiry"⟩ config.feeBps config.paused maxExpirySecs)
  pure ()

def setPaused (env : Env) (paused : Bool) : Exec (World ω) EscrowError Unit := do
  let _ ← requireAdmin env
  let config ← getConfig
  setConfig { config with paused := paused }
  publish (.configUpdated ⟨"paused"⟩ config.feeBps paused config.maxExpirySecs)
  pure ()

/-! ### Entry points: transfers -/

/-- Lock `amount` of `token` and return the new transfer id. -/
def createTransfer (env : Env) (sender : Address) (amount : I128) (token : Address)
    (claimHash : BytesN 32) (corridorId : Symbol) (expiry : U64) :
    Exec (World ω) EscrowError U64 := do
  requireAuth env sender
  let config ← getConfig
  refuseIf (config.paused = true) .paused
  refuseIf (amount.val ≤ 0) .invalidAmount
  let now ← timestamp
  refuseIf (expiry ≤ now) .invalidExpiry
  let window ← orTrap (expiry.checkedSub now)
  refuseIf (config.maxExpirySecs < window) .expiryTooFar
  -- The gate runs before any funds move.  It enforces and records in one call.
  commitVolume H env config.complianceHook sender amount corridorId
  transferToken env H.self token sender H.self amount
  let id ← nextId
  setTransfer (.lock id sender amount token claimHash corridorId expiry now)
  pushSenderTransfer sender id
  let stats ← read Storage.getStats
  let volumeLocked ← okOr (stats.volumeLocked.checkedAdd amount) .overflow
  setStats { stats with created := stats.created.saturatingAdd 1, volumeLocked }
  publish (.transferCreated id sender amount token corridorId claimHash expiry)
  pure id

/-- Withdraw a transfer that nobody has claimed. -/
def cancelTransfer (env : Env) (sender : Address) (transferId : U64) :
    Exec (World ω) EscrowError Unit := do
  requireAuth env sender
  let transfer ← loadTransfer transferId
  refuseIf (transfer.sender ≠ sender) .unauthorized
  refuseIf (transfer.isPending = false) .transferNotPending
  let transfer ← release H env transfer transfer.sender .cancelled
  let stats ← read Storage.getStats
  let volumeLocked ← orTrap (stats.volumeLocked.checkedSub transfer.amount)
  setStats { stats with cancelled := stats.cancelled.saturatingAdd 1, volumeLocked }
  publish (.transferCancelled transferId transfer.sender transfer.amount transfer.corridorId)
  pure ()

/-- Settle a transfer by revealing the claim code. -/
def claimTransfer (env : Env) (agent : Address) (transferId : U64) (reveal : BytesN 32) :
    Exec (World ω) EscrowError ClaimReceipt := do
  requireAuth env agent
  let config ← getConfig
  let transfer ← loadTransfer transferId
  refuseIf (transfer.isPending = false) .transferNotPending
  let now ← timestamp
  refuseIf (transfer.hasExpired now = true) .transferExpired
  refuseIf (transfer.sender = agent) .senderCannotClaim
  refuseIf (H.sha256 reveal.bytes ≠ transfer.claimHash) .invalidClaimCode
  checkAgent H env config.agentRegistry agent transfer.corridorId
  let fee ← okOr (feeFor transfer.amount config.feeBps) .overflow
  let payout ← orTrap (transfer.amount.checkedSub fee)
  transferToken env H.self transfer.token H.self agent payout
  payFee H env transfer.token config.treasury fee
  setTransfer (transfer.settle .claimed now (some agent))
  let stats ← read Storage.getStats
  let volumeLocked ← orTrap (stats.volumeLocked.checkedSub transfer.amount)
  let volumeSettled ← okOr (stats.volumeSettled.checkedAdd transfer.amount) .overflow
  let feesCollected ← okOr (stats.feesCollected.checkedAdd fee) .overflow
  setStats { stats with
    claimed := stats.claimed.saturatingAdd 1, volumeLocked, volumeSettled, feesCollected }
  publish (.transferClaimed transferId agent transfer.corridorId transfer.amount fee payout)
  pure ⟨transferId, agent, transfer.amount, fee, payout, now⟩

/-- Return an expired, unclaimed transfer to its sender.  Anyone may call it. -/
def refundExpired (env : Env) (transferId : U64) : Exec (World ω) EscrowError Unit := do
  let transfer ← loadTransfer transferId
  refuseIf (transfer.isPending = false) .transferNotPending
  let now ← timestamp
  refuseIf (transfer.hasExpired now = false) .transferNotExpired
  let transfer ← release H env transfer transfer.sender .refunded
  let stats ← read Storage.getStats
  let volumeLocked ← orTrap (stats.volumeLocked.checkedSub transfer.amount)
  setStats { stats with refunded := stats.refunded.saturatingAdd 1, volumeLocked }
  publish (.transferRefunded transferId transfer.sender transfer.amount transfer.corridorId)
  pure ()

/-- Fee the agent would net on a given claim. -/
def quoteClaim (transferId : U64) : Exec (World ω) EscrowError ClaimQuote := do
  let config ← getConfig
  let transfer ← loadTransfer transferId
  refuseIf (transfer.isPending = false) .transferNotPending
  let fee ← okOr (feeFor transfer.amount config.feeBps) .overflow
  let payout ← orTrap (transfer.amount.checkedSub fee)
  pure ⟨transferId, transfer.amount, fee, payout⟩

/-! ### The contract -/

/-- An entry point with its arguments. -/
inductive Call where
  | initializeContract (admin agentRegistry complianceHook treasury : Address) (feeBps : U32)
      (maxExpirySecs : U64)
  | setAdmin (newAdmin : Address)
  | setFeeBps (feeBps : U32)
  | setTreasury (treasury : Address)
  | setAgentRegistry (agentRegistry : Address)
  | setComplianceHook (complianceHook : Address)
  | setMaxExpiry (maxExpirySecs : U64)
  | setPaused (paused : Bool)
  | createTransfer (sender : Address) (amount : I128) (token : Address) (claimHash : BytesN 32)
      (corridorId : Symbol) (expiry : U64)
  | cancelTransfer (sender : Address) (transferId : U64)
  | claimTransfer (agent : Address) (transferId : U64) (reveal : BytesN 32)
  | refundExpired (transferId : U64)
  | quoteClaim (transferId : U64)
  deriving DecidableEq

namespace Call

/-- The transfer the call would settle. -/
def settles : Call → Option U64
  | cancelTransfer _ id | claimTransfer _ id _ | refundExpired id => some id
  | _ => none

/-- Whether the call would create a transfer. -/
def creates : Call → Bool
  | createTransfer .. => true
  | _ => false

end Call

/-- What an entry point returns. -/
inductive Ret where
  | unit
  | id (id : U64)
  | receipt (receipt : ClaimReceipt)
  | quote (quote : ClaimQuote)
  deriving DecidableEq

/-- Execute an entry point. -/
def invoke (env : Env) : Call → Exec (World ω) EscrowError Ret
  | .initializeContract admin agentRegistry complianceHook treasury feeBps maxExpirySecs => do
    initializeContract env admin agentRegistry complianceHook treasury feeBps maxExpirySecs
    pure .unit
  | .setAdmin newAdmin => do setAdmin env newAdmin; pure .unit
  | .setFeeBps feeBps => do setFeeBps env feeBps; pure .unit
  | .setTreasury treasury => do setTreasury env treasury; pure .unit
  | .setAgentRegistry agentRegistry => do setAgentRegistry env agentRegistry; pure .unit
  | .setComplianceHook complianceHook => do setComplianceHook env complianceHook; pure .unit
  | .setMaxExpiry maxExpirySecs => do setMaxExpiry env maxExpirySecs; pure .unit
  | .setPaused paused => do setPaused env paused; pure .unit
  | .createTransfer sender amount token claimHash corridorId expiry => do
    let id ← createTransfer H env sender amount token claimHash corridorId expiry
    pure (.id id)
  | .cancelTransfer sender transferId => do cancelTransfer H env sender transferId; pure .unit
  | .claimTransfer agent transferId reveal => do
    let receipt ← claimTransfer H env agent transferId reveal
    pure (.receipt receipt)
  | .refundExpired transferId => do refundExpired H env transferId; pure .unit
  | .quoteClaim transferId => do
    let quote ← quoteClaim transferId
    pure (.quote quote)

/-- The escrow as a contract. -/
def contract : Contract Storage Event ω Call Ret EscrowError := ⟨H.self, invoke H⟩

abbrev Label (ω : Type) := Action ω Call Ret Event EscrowError

end Escrow

end RemitBridge
