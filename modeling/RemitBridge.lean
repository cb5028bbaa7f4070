import RemitBridge.Transition.Basic
import RemitBridge.Transition.Unwinding
import RemitBridge.Data.MachineInt
import RemitBridge.Data.Process
import RemitBridge.Data.Solo
import RemitBridge.Data.Store
import RemitBridge.Data.Exec
import RemitBridge.Soroban.Host
import RemitBridge.Soroban.Contract
import RemitBridge.Interface.Escrow
import RemitBridge.Interface.AgentRegistry
import RemitBridge.Interface.Compliance
import RemitBridge.Interface.Liquidity
import RemitBridge.Escrow.Contract
import RemitBridge.Escrow.Spec
import RemitBridge.Backend.Rpc
import RemitBridge.Backend.Fate
import RemitBridge.Backend.Contracts
import RemitBridge.Liquidity.Records
import RemitBridge.Liquidity.Service
import RemitBridge.Liquidity.Desk
import RemitBridge.Liquidity.Submissions
import RemitBridge.Liquidity.Decisions
import RemitBridge.Liquidity.Outcome
import RemitBridge.Custody.Basic
import RemitBridge.Escrow.Custody
import RemitBridge.Escrow.Solvency
import RemitBridge.Escrow.Lifecycle
import RemitBridge.Registry.Contract
import RemitBridge.Registry.Spec
import RemitBridge.Registry.Solvency
import RemitBridge.Pool.Contract
import RemitBridge.Fund.Basic
import RemitBridge.Pool.Spec
import RemitBridge.Pool.Fund
import RemitBridge.Pool.Accounting
import RemitBridge.Pool.Shares
import RemitBridge.Pool.Utilization
import RemitBridge.Pool.Exit
import RemitBridge.Pool.Exposure
import RemitBridge.Fund.Vault
import RemitBridge.Pool.Price
import RemitBridge.Pool.Requirement
import RemitBridge.Pool.Health
import RemitBridge.Pool.Repayment
import RemitBridge.Soroban.Link
import RemitBridge.Hook.Contract
import RemitBridge.Hook.Spec
import RemitBridge.Network.Volume
import RemitBridge.Network.Collateral
import RemitBridge.Escrow.Effects
import RemitBridge.Escrow.Index
import RemitBridge.Escrow.Counters
import RemitBridge.Escrow.Interference
import RemitBridge.Escrow.Claims
import RemitBridge.Registry.Regions
import RemitBridge.Registry.Standing
import RemitBridge.Registry.Counters
import RemitBridge.Registry.Bonded
import RemitBridge.Registry.Payouts
import RemitBridge.Hook.Effects
import RemitBridge.Hook.Ceiling
import RemitBridge.Hook.Gate
import RemitBridge.Hook.Split
import RemitBridge.Hook.Attestation
import RemitBridge.Data.Job
import RemitBridge.Data.Log
import RemitBridge.Indexer.Decoder
import RemitBridge.Indexer.Database
import RemitBridge.Indexer.Tick
import RemitBridge.Indexer.Spec
import RemitBridge.Indexer.System
import RemitBridge.Indexer.Coverage
import RemitBridge.Indexer.Identity
import RemitBridge.Indexer.Replay
import RemitBridge.Indexer.Emission
import RemitBridge.Indexer.Execution
import RemitBridge.Indexer.Poison
import RemitBridge.Indexer.Convergence
import RemitBridge.Indexer.Agents
import RemitBridge.Indexer.Exposure
import RemitBridge.Liquidity.Chain
import RemitBridge.Liquidity.Draw
import RemitBridge.Liquidity.Exposure
import RemitBridge.Kyc.Publication
import RemitBridge.Kyc.Subject
import RemitBridge.Kyc.Finality
import RemitBridge.Url.Path
import RemitBridge.Json.Basic
import RemitBridge.Json.Syntax
import RemitBridge.Json.RoundTrip
import RemitBridge.Json.Utf8
import RemitBridge.Backend.Routes
import RemitBridge.Console.Policy
import RemitBridge.Console.Proxy
import RemitBridge.Console.Reach
import RemitBridge.Console.Attribution
import RemitBridge.Data.Window
import RemitBridge.Console.Throttle
import RemitBridge.Liquidity.Capacity
import RemitBridge.Liquidity.Alerts
import RemitBridge.Data.Decimal
import RemitBridge.Money.Amount
import RemitBridge.Money.RoundTrip
import RemitBridge.Json.Order
import RemitBridge.Kyc.Canonical
import RemitBridge.Quoting.Signer
import RemitBridge.Quoting.Service
import RemitBridge.Quoting.Consumption
import RemitBridge.Json.Script
import RemitBridge.Json.Ascii
import RemitBridge.Json.Base64
import RemitBridge.Data.Result
import RemitBridge.Transfers.Router
import RemitBridge.Transfers.Exact
import RemitBridge.Mobile.ClaimCode
import RemitBridge.Data.Grouping
import RemitBridge.Mobile.Format
import RemitBridge.Console.Format
import RemitBridge.Url.Origin
import RemitBridge.Console.Navigation
import RemitBridge.Console.Session
import RemitBridge.Escrow.Journal
import RemitBridge.Pool.Journal
import RemitBridge.Hook.Journal
import RemitBridge.Registry.Journal
import RemitBridge.Network.Settlement
import RemitBridge.Network.Verification
import RemitBridge.Console.Accountability
