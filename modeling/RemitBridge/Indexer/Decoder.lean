import Mathlib.Data.Int.Notation
import Mathlib.Data.Nat.Notation
import Mathlib.Tactic.SplitIfs

/-!
# Decoding contract events

The indexer reads the events of the contracts off the chain and refuses to guess: an unknown topic
or an unexpected payload is an error.

Event topics and values travel as base64 XDR, which the SDK writes and reads back; here they are
the JavaScript values that `decodeXdr` makes of them.
-/

namespace RemitBridge

namespace Indexer

/-- A JavaScript value that a contract value is decoded to. -/
inductive Value where
  | void
  | bool (b : Bool)
  /-- A 32-bit integer. -/
  | number (n : ℤ)
  /-- A wider integer. -/
  | bigint (n : ℤ)
  /-- A symbol, a string, or an address. -/
  | text (s : String)
  | bytes (bs : List UInt8)
  | vec (vs : List Value)
  | map (entries : List (String × Value))

namespace Value

/-- `typeof value` -/
def typeOf : Value → String
  | void | bytes _ | vec _ | map _ => "object"
  | bool _ => "boolean"
  | number _ => "number"
  | bigint _ => "bigint"
  | text _ => "string"

mutual

/-- `String(value)` -/
def toText : Value → String
  | void => "null"
  | bool b => toString b
  | number n | bigint n => toString n
  | text s => s
  -- A buffer is decoded as UTF-8; all of what is not UTF-8 is replaced at once here.
  | bytes bs => (String.fromUTF8? ⟨bs.toArray⟩).getD "\uFFFD"
  | vec vs => ",".intercalate (toTexts vs)
  | map _ => "[object Object]"

/-- The elements of an array, as `String` joins them. -/
def toTexts : List Value → List String
  | [] => []
  | void :: vs => "" :: toTexts vs
  | v :: vs => v.toText :: toTexts vs

end

mutual

/-- Convert bigints to strings so that the payload is serialisable. -/
def normalise : Value → Value
  | bigint n => text (toString n)
  | bytes bs => map (bs.zipIdx.map fun p => (toString p.2, number p.1.toNat))
  | vec vs => vec (normaliseAll vs)
  | map entries => map (normaliseEntries entries)
  | v => v

def normaliseAll : List Value → List Value
  | [] => []
  | v :: vs => v.normalise :: normaliseAll vs

def normaliseEntries : List (String × Value) → List (String × Value)
  | [] => []
  | (key, v) :: entries => (key, v.normalise) :: normaliseEntries entries

end

/-! ### Equality -/

mutual

/-- The values are the same. -/
def beq : Value → Value → Bool
  | void, void => true
  | bool a, bool b => a == b
  | number a, number b => a == b
  | bigint a, bigint b => a == b
  | text a, text b => a == b
  | bytes a, bytes b => a == b
  | vec as, vec bs => beqAll as bs
  | map as, map bs => beqEntries as bs
  | _, _ => false

def beqAll : List Value → List Value → Bool
  | [], [] => true
  | a :: as, b :: bs => beq a b && beqAll as bs
  | _, _ => false

def beqEntries : List (String × Value) → List (String × Value) → Bool
  | [], [] => true
  | (k, a) :: as, (l, b) :: bs => k == l && beq a b && beqEntries as bs
  | _, _ => false

end

mutual

theorem beq_iff : ∀ a b, beq a b = true ↔ a = b
  | void, b | bool _, b | number _, b | bigint _, b | text _, b | bytes _, b => by
    cases b <;> simp [beq]
  | vec as, b => by
    cases b <;> simp [beq, beqAll_iff as]
  | map as, b => by
    cases b <;> simp [beq, beqEntries_iff as]

theorem beqAll_iff : ∀ as bs, beqAll as bs = true ↔ as = bs
  | [], bs => by cases bs <;> simp [beqAll]
  | a :: as, bs => by cases bs <;> simp [beqAll, beq_iff a, beqAll_iff as]

theorem beqEntries_iff : ∀ as bs, beqEntries as bs = true ↔ as = bs
  | [], bs => by cases bs <;> simp [beqEntries]
  | (k, a) :: as, bs => by
    cases bs <;> simp [beqEntries, beq_iff a, beqEntries_iff as, Prod.ext_iff]

end

instance : DecidableEq Value := fun a b => decidable_of_iff _ (beq_iff a b)

end Value

/-- The number that a string of digits denotes. -/
def parseDigits (ds : List Char) : Option ℕ :=
  if ds ≠ [] ∧ ds.all Char.isDigit = true then
    some (ds.foldl (fun n d => 10 * n + (d.toNat - '0'.toNat)) 0)
  else none

/-- The integer that a decimal string denotes. -/
def parseInteger (s : String) : Option ℤ :=
  match s.toList with
  | '-' :: ds => (parseDigits ds).map fun n => -(n : ℤ)
  | ds => (parseDigits ds).map fun n => (n : ℤ)

theorem parseDigits_toDigits (n : ℕ) : parseDigits (Nat.toDigits 10 n) = some n := by
  have hdigits : (Nat.toDigits 10 n).all Char.isDigit = true :=
    List.all_eq_true.2 fun c hc => Nat.isDigit_of_mem_toDigits (by decide) (by decide) hc
  rw [parseDigits, if_pos ⟨Nat.toDigits_ne_nil, hdigits⟩]
  exact congrArg some Nat.ofDigitChars_ten_toDigits

/-- **Decimal strings**: an integer is read back from its decimal representation. -/
@[simp] theorem parseInteger_toString (n : ℤ) : parseInteger (toString n) = some n := by
  rw [Int.toString_eq_repr, Int.repr_eq_if, parseInteger]
  split_ifs with h
  · have hdigits := parseDigits_toDigits n.toNat
    rw [Nat.toList_repr]
    split
    · next ds hds =>
      -- A sign is not a digit.
      rw [hds] at hdigits
      simp [parseDigits] at hdigits
    · rw [hdigits]
      exact congrArg some (Int.toNat_of_nonneg h)
  · simp only [String.toList_append, Nat.toList_repr]
    simp [parseDigits_toDigits]
    omega

/-- `Number(value)`; what is not a number is stored as `null`. -/
def Value.toNumber : Value → Value
  | number n | bigint n => number n
  | bool b => number (if b then 1 else 0)
  | void => number 0
  | text s => (parseInteger s).elim void number
  | _ => void

/-- Two lowercase hexadecimal digits. -/
def hexByte (b : UInt8) : List Char :=
  [Nat.digitChar (b.toNat / 16), Nat.digitChar (b.toNat % 16)]

def toHex : Value → String
  | .bytes bs => String.ofList (bs.flatMap hexByte)
  | v => v.toText

/-- What an event is about. -/
inductive EventKind where
  | transferCreated
  | transferClaimed
  | transferRefunded
  | transferCancelled
  | agentRegistered
  | agentStatusChanged
  | agentBondToppedUp
  | agentBondWithdrawn
  | agentSlashed
  | regionConfigured
  | corridorMapped
  | registryAdminChanged
  | kycAttestationPublished
  | kycAttestationRevoked
  | kycThresholdsUpdated
  | kycOperatorUpdated
  | kycPauseChanged
  | kycEscrowUpdated
  | kycTransferCommitted
  | poolRegionConfigured
  | poolDeposited
  | poolWithdrawn
  | poolDrawn
  | poolRepaid
  | poolConfigUpdated
  | poolWiringUpdated
  | poolAdminChanged
  | escrowConfigUpdated
  | escrowWiringUpdated
  | escrowAdminChanged
  deriving DecidableEq

namespace EventKind

/-- The first topic of the events of this kind, as the contracts emit it. -/
def topic : EventKind → String
  | transferCreated => "tr_create"
  | transferClaimed => "tr_claim"
  | transferRefunded => "tr_refnd"
  | transferCancelled => "tr_cncl"
  | agentRegistered => "agent_reg"
  | agentStatusChanged => "agent_st"
  | agentBondToppedUp => "bond_up"
  | agentBondWithdrawn => "bond_down"
  | agentSlashed => "slash"
  | regionConfigured => "region"
  | corridorMapped => "corridor"
  | registryAdminChanged => "admin"
  | kycAttestationPublished => "kyc_pub"
  | kycAttestationRevoked => "kyc_rev"
  | kycThresholdsUpdated => "kyc_tier"
  | kycOperatorUpdated => "kyc_oper"
  | kycPauseChanged => "kyc_paus"
  | kycEscrowUpdated => "kyc_escr"
  | kycTransferCommitted => "kyc_comm"
  | poolRegionConfigured => "lp_region"
  | poolDeposited => "lp_dep"
  | poolWithdrawn => "lp_wdraw"
  | poolDrawn => "lp_draw"
  | poolRepaid => "lp_repay"
  | poolConfigUpdated => "lp_cfg"
  | poolWiringUpdated => "lp_wire"
  | poolAdminChanged => "lp_admin"
  | escrowConfigUpdated => "esc_cfg"
  | escrowWiringUpdated => "esc_wire"
  | escrowAdminChanged => "esc_adm"

def all : List EventKind :=
  [transferCreated, transferClaimed, transferRefunded, transferCancelled, agentRegistered,
    agentStatusChanged, agentBondToppedUp, agentBondWithdrawn, agentSlashed, regionConfigured,
    corridorMapped, registryAdminChanged, kycAttestationPublished, kycAttestationRevoked,
    kycThresholdsUpdated, kycOperatorUpdated, kycPauseChanged, kycEscrowUpdated,
    kycTransferCommitted, poolRegionConfigured, poolDeposited, poolWithdrawn, poolDrawn, poolRepaid,
    poolConfigUpdated, poolWiringUpdated, poolAdminChanged, escrowConfigUpdated,
    escrowWiringUpdated, escrowAdminChanged]

end EventKind

/-- The kind of the events with this first topic.  In the source this is a lookup in an object; the
names that every object inherits (`toString` and the like) are nobody's topics. -/
def topicToKind (topic : String) : Option EventKind :=
  EventKind.all.find? fun kind => decide (kind.topic = topic)

/-- The topics of different kinds differ, so every kind is recognised. -/
theorem topicToKind_topic (kind : EventKind) : topicToKind kind.topic = some kind := by
  cases kind <;> decide

/-- An event as it was fetched. -/
structure RawContractEvent where
  contractId : String
  ledger : ℕ
  eventIndex : ℕ
  txHash : String
  topicXdr : List Value
  valueXdr : Value
  /-- In milliseconds. -/
  closedAt : ℕ

/-- The fields of a decoded payload, by name. -/
abbrev Payload := List (String × Value)

structure DecodedEvent where
  kind : EventKind
  topic : String
  /-- Sender, agent, region, corridor. -/
  subjects : List String
  payload : Payload
  transferId : Option ℤ

/-- `UndecodableEventError`. -/
structure Undecodable where
  message : String
  topic : String
  deriving DecidableEq

def asBigInt (value : Value) (field : String) : Except Undecodable ℤ :=
  let expected : Except Undecodable ℤ :=
    .error ⟨"expected an integer for \"" ++ field ++ "\", got " ++ value.typeOf, field⟩
  match value with
  | .bigint n | .number n => .ok n
  | .text s => (parseInteger s).elim expected .ok
  | _ => expected

/-- The fields of a tuple, of which there must be at least `expectedLength`. -/
def asTuple (value : Value) (expectedLength : ℕ) : Except Undecodable (List Value) :=
  match value with
  | .vec vs =>
    if vs.length < expectedLength then
      .error ⟨"expected at least " ++ toString expectedLength ++
        " fields in the event payload, got " ++ toString vs.length, "payload"⟩
    else .ok vs
  | _ => .error ⟨"event payload is not a tuple", "payload"⟩

/-- An integer field of a tuple, as a decimal string. -/
def integerField (fields : List Value) (i : ℕ) (field : String) : Except Undecodable Value := do
  let n ← asBigInt (fields.getD i .void) field
  .ok (.text (toString n))

/-- The payload of an event of this kind, and the transfer it is about. -/
def decodePayload (kind : EventKind) (value : Value) :
    Except Undecodable (Payload × Option ℤ) :=
  match kind with
  | .transferCreated => do
    let fields ← asTuple value 5
    let id ← integerField fields 0 "id"
    let amount ← integerField fields 1 "amount"
    let expiry ← integerField fields 4 "expiry"
    let transferId ← asBigInt (fields.getD 0 .void) "id"
    .ok ([("id", id), ("amount", amount), ("token", .text (fields.getD 2 .void).toText),
      ("claimHash", .text (toHex (fields.getD 3 .void))), ("expiry", expiry)], some transferId)
  | .transferClaimed => do
    let fields ← asTuple value 4
    let id ← integerField fields 0 "id"
    let gross ← integerField fields 1 "gross"
    let fee ← integerField fields 2 "fee"
    let payout ← integerField fields 3 "payout"
    let transferId ← asBigInt (fields.getD 0 .void) "id"
    .ok ([("id", id), ("gross", gross), ("fee", fee), ("payout", payout)], some transferId)
  | .transferRefunded | .transferCancelled => do
    let fields ← asTuple value 2
    let id ← integerField fields 0 "id"
    let amount ← integerField fields 1 "amount"
    let transferId ← asBigInt (fields.getD 0 .void) "id"
    .ok ([("id", id), ("amount", amount)], some transferId)
  | .agentRegistered => do
    let bond ← integerField [value] 0 "bond"
    .ok ([("bond", bond)], none)
  | .agentSlashed => do
    let fields ← asTuple value 2
    let requested ← integerField fields 0 "requested"
    let recovered ← integerField fields 1 "recovered"
    .ok ([("requested", requested), ("recovered", recovered)], none)
  | .poolDrawn => do
    let fields ← asTuple value 3
    let amount ← integerField fields 0 "amount"
    let exposure ← integerField fields 1 "exposure"
    .ok ([("amount", amount), ("exposure", exposure),
      ("utilizationBps", (fields.getD 2 .void).toNumber)], none)
  -- Everything else passes through as it is.
  | _ => .ok ([("value", value.normalise)], none)

def decodeEvent (event : RawContractEvent) : Except Undecodable DecodedEvent :=
  match event.topicXdr with
  | .text topicSymbol :: subjects =>
    match topicToKind topicSymbol with
    | none => .error ⟨"unknown event topic \"" ++ topicSymbol ++ "\"", topicSymbol⟩
    | some kind => do
      let (payload, transferId) ← decodePayload kind event.valueXdr
      .ok ⟨kind, topicSymbol, subjects.map Value.toText, payload, transferId⟩
  | topics =>
    .error ⟨"first topic is not a symbol", (topics.head?.map Value.toText).getD "undefined"⟩

end Indexer

end RemitBridge
