import RemitBridge.Data.Result
import RemitBridge.Transfers.Router

/-!
# Which transfers are answered exactly

An answer is exact if it is serialised and carries the three amounts as decimals.  For each of the
routes the transfers are named for which it is (`exact_iff`).
-/

namespace RemitBridge

namespace Transfers

open Json Money Decimal Result

open Script (Leaf Value decimalToString toExpPos toJson membersToJson isSome_toJson_obj
  isSome_toJson_arr)

variable {toISOString : ℤ → Str} {tables : Tables} {query : ListQuery} {transfer : Transfer}
  {row : Members Leaf} {js : List (Str × Json Str)} {id s text : Str} {now : ℤ} {n : ℕ}

/-- The text is a plain decimal of the number. -/
structure Denotes (s : Str) (n : ℕ) : Prop where
  digits : Digits s
  ne_nil : s ≠ []
  value_eq : value s = n

/-- The amounts of the transfer are below 10^21. -/
structure Small (transfer : Transfer) : Prop where
  amount : transfer.amount < 10 ^ toExpPos
  fee : transfer.fee < 10 ^ toExpPos
  payout : transfer.payout < 10 ^ toExpPos

/-- The members of an object are texts that stand in this relation to the amounts of the
transfer. -/
structure Carries (R : Str → ℕ → Prop) (members : List (Str × Json Str)) (transfer : Transfer) :
    Prop where
  amount : ∃ s, Members.lookup members (units "amount") = some (.str s) ∧ R s transfer.amount
  fee : ∃ s, Members.lookup members (units "fee") = some (.str s) ∧ R s transfer.fee
  payout : ∃ s, Members.lookup members (units "payout") = some (.str s) ∧ R s transfer.payout

/-- The list of a page is an object with all its transfers. -/
def ListExact (toISOString : ℤ → Str) (tables : Tables) (query : ListQuery) : Prop :=
  ∃ members rows, listTransfers toISOString tables query = .ok (.obj members) ∧
    Members.lookup members (units "transfers") = some (.arr rows) ∧
    List.Forall₂ (fun t j => ∃ ms, j = .obj ms ∧ Carries Denotes ms t) (page tables query) rows

def StatusExact (toISOString : ℤ → Str) (tables : Tables) (id : Str) (now : ℤ)
    (transfer : Transfer) : Prop :=
  ∃ members, transferStatus toISOString tables id now = .ok (.obj members) ∧
    Carries Denotes members transfer

def ReceiptExact (toISOString : ℤ → Str) (tables : Tables) (id : Str) (transfer : Transfer) :
    Prop :=
  ∃ members, transferReceipt toISOString tables id = .ok (.obj members) ∧
    Carries (fun s n => s = fromStroops n) members transfer

/-! ### Amounts -/

/-- An exponent is no digit. -/
theorem not_digits (h : unit 'e' ∈ s) : ¬ Digits s :=
  fun hdigits => absurd (hdigits _ h) (by decide)

theorem denotes_decimalToString : Denotes (decimalToString n) n ↔ n < 10 ^ toExpPos := by
  constructor
  · intro h
    by_contra hlarge
    exact not_digits (Script.mem_decimalToString (not_lt.1 hlarge)) h.digits
  · intro h
    rw [Script.decimalToString_of_lt h]
    exact ⟨digits_render n, render_ne_nil n, value_render n⟩

theorem parseBigInt_decimalToString {m : ℤ} :
    parseBigInt (decimalToString n) = .ok m ↔ n < 10 ^ toExpPos ∧ m = n := by
  rw [parseBigInt]
  by_cases h : n < 10 ^ toExpPos
  · have hhead : (render n).head? ≠ some (unit '-') := by
      intro hhead
      exact absurd (digits_render n _ (List.mem_of_mem_head? hhead)) (by decide)
    rw [Script.decimalToString_of_lt h]
    simp only [if_neg hhead, value_render]
    rw [if_pos ⟨render_ne_nil n, digits_render n⟩]
    simp [h, eq_comm]
  · have hmem := Script.mem_decimalToString (not_lt.1 h)
    have hdigits : ¬ Digits (if (decimalToString n).head? = some (unit '-') then
        (decimalToString n).tail else decimalToString n) := by
      split_ifs with hhead
      · -- The exponent is behind the sign.
        obtain ⟨t, ht⟩ := List.head?_eq_some_iff.1 hhead
        rw [ht] at hmem ⊢
        exact not_digits ((List.mem_cons.1 hmem).resolve_left (by decide))
      · exact not_digits hmem
    rw [if_neg fun hcond => hdigits hcond.2]
    refine iff_of_false ?_ fun hcond => h hcond.1
    intro herror
    cases herror

/-! ### Rows -/

theorem json_eq_ok {body : Members Leaf} : json toISOString (.obj body) = .ok (.obj js) ↔
    membersToJson toISOString body = some js := by
  rw [json, mapError_eq_ok, Script.stringify_eq_ok, Script.toJson_obj]
  cases membersToJson toISOString body <;> simp

theorem lookup_serialiseTransfer (row : Members Leaf) (transfer : Transfer) :
    (serialiseTransfer row transfer).lookup (units "amount") =
      some (string (decimalToString transfer.amount)) ∧
    (serialiseTransfer row transfer).lookup (units "fee") =
      some (string (decimalToString transfer.fee)) ∧
    (serialiseTransfer row transfer).lookup (units "payout") =
      some (string (decimalToString transfer.payout)) := by
  simp only [serialiseTransfer, Members.lookup_set]
  refine ⟨?_, ?_, ?_⟩ <;> rfl

/-- The row of a transfer carries its amounts exactly if they are small. -/
theorem carries_iff (h : membersToJson toISOString row = some js)
    (hamount : row.lookup (units "amount") = some (string (decimalToString transfer.amount)))
    (hfee : row.lookup (units "fee") = some (string (decimalToString transfer.fee)))
    (hpayout : row.lookup (units "payout") = some (string (decimalToString transfer.payout))) :
    Carries Denotes js transfer ↔ Small transfer := by
  have hlookup := Script.lookup_toJson h
  have hfield : ∀ {key : Str} {n : ℕ}, row.lookup key = some (string (decimalToString n)) →
      ((∃ s, Members.lookup js key = some (.str s) ∧ Denotes s n) ↔ n < 10 ^ toExpPos) := by
    intro key n hkey
    rw [hlookup key, hkey, ← denotes_decimalToString]
    constructor
    · rintro ⟨s, hs, hdenotes⟩
      have hstr : Json.str (decimalToString n) = Json.str s := Option.some.inj hs
      rwa [Json.str.inj hstr]
    · intro hdenotes
      exact ⟨_, rfl, hdenotes⟩
  constructor
  · rintro ⟨ha, hf, hp⟩
    exact ⟨(hfield hamount).1 ha, (hfield hfee).1 hf, (hfield hpayout).1 hp⟩
  · rintro ⟨ha, hf, hp⟩
    exact ⟨(hfield hamount).2 ha, (hfield hfee).2 hf, (hfield hpayout).2 hp⟩

/-- What is spread into the answer has to be serialised, apart from the members that are set. -/
theorem isSome_serialiseTransfer
    (h : ∀ m ∈ row, m.1 ≠ units "id" → (toJson toISOString m.2).isSome = true) :
    ∀ m ∈ serialiseTransfer row transfer, (toJson toISOString m.2).isSome = true := by
  intro m hm
  simp only [serialiseTransfer, Members.mem_set] at hm
  rcases hm with rfl | ⟨rfl | ⟨rfl | ⟨rfl | ⟨hm, hid⟩, -⟩, -⟩, -⟩
  · rfl
  · rfl
  · rfl
  · rfl
  · exact h m hm hid

section Values

variable (s : Str) (o : Option Str) (n ms : ℤ) (oms : Option ℤ)

@[simp] theorem isSome_string : (toJson toISOString (string s)).isSome = true := rfl

@[simp] theorem isSome_optional : (toJson toISOString (optional o)).isSome = true := by
  cases o <;> rfl

@[simp] theorem isSome_number : (toJson toISOString (number n)).isSome = true := rfl

@[simp] theorem isSome_decimal : (toJson toISOString (decimal n)).isSome = true := rfl

@[simp] theorem isSome_date : (toJson toISOString (date ms)).isSome = true := rfl

@[simp] theorem isSome_optionalDate : (toJson toISOString (optionalDate oms)).isSome = true := by
  cases oms <;> rfl

/-- The one value that is not serialised. -/
@[simp] theorem isSome_bigint : (toJson toISOString (bigint n)).isSome = false := rfl

end Values

/-- The columns are serialised, apart from the identifier. -/
theorem isSome_columns (transfer : Transfer) : ∀ m ∈ transfer.columns, m.1 ≠ units "id" →
    (toJson toISOString m.2).isSome = true := by
  simp [Transfer.columns]

theorem isSome_listed (transfer : Transfer) : ∀ m ∈ transfer.listed, m.1 ≠ units "id" →
    (toJson toISOString m.2).isSome = true := by
  intro m hm hid
  rcases List.mem_append.1 hm with hm | hm
  · exact isSome_columns transfer m hm hid
  · have hagent : (toJson toISOString (transfer.agent.elim .null fun agent =>
        .obj [(units "id", string agent.id), (units "tradingName", optional agent.tradingName),
          (units "legalName", string agent.legalName)])).isSome = true := by
      cases transfer.agent with
      | none => rfl
      | some agent => simp [isSome_toJson_obj]
    have hcorridor : (toJson toISOString (.obj [(units "id", string transfer.corridor.id),
        (units "destCurrency", string transfer.corridor.destCurrency)])).isSome = true := by
      simp [isSome_toJson_obj]
    simp only [List.mem_cons, List.not_mem_nil, or_false] at hm
    rcases hm with rfl | rfl
    · exact hcorridor
    · exact hagent

/-- An event that is linked to a transfer has a big integer. -/
theorem events_eq_nil (h : (toJson toISOString
    (.arr (transfer.events.map fun event => .obj event.members))).isSome = true) :
    transfer.events = [] := by
  rw [isSome_toJson_arr] at h
  by_contra hne
  obtain ⟨event, rest, hcons⟩ := List.exists_cons_of_ne_nil hne
  have hmem : event ∈ transfer.events := hcons ▸ List.mem_cons_self
  have hevent := isSome_toJson_obj.1 (h _ (List.mem_map.2 ⟨event, hmem, rfl⟩))
    (units "transferId", bigint transfer.id) (by
      simp [ChainEvent.members, transfer.linked event hmem])
  cases hevent

/-- Without events the row of a status is serialised. -/
theorem isSome_detailed (hnil : transfer.events = []) : ∀ m ∈ transfer.detailed,
    m.1 ≠ units "id" → (toJson toISOString m.2).isSome = true := by
  intro m hm hid
  rcases List.mem_append.1 hm with hm | hm
  · exact isSome_columns transfer m hm hid
  · have hagent : (toJson toISOString (transfer.agent.elim .null fun agent =>
        .obj [(units "id", string agent.id), (units "tradingName", optional agent.tradingName),
          (units "legalName", string agent.legalName),
          (units "regionId", string agent.regionId)])).isSome = true := by
      cases transfer.agent with
      | none => rfl
      | some agent => simp [isSome_toJson_obj]
    have hcorridor : (toJson toISOString (.obj transfer.corridor.members)).isSome = true := by
      simp only [isSome_toJson_obj, Corridor.members]
      simp [toJson]
    simp only [hnil, List.map_nil, List.mem_cons, List.not_mem_nil, or_false] at hm
    rcases hm with rfl | rfl | rfl
    · exact hcorridor
    · exact hagent
    · rfl

/-! ### Routes -/

/-- The transfer that a route answers for. -/
def Finds (tables : Tables) (id : Str) (transfer : Transfer) : Prop :=
  id ≠ [] ∧ Digits id ∧ tables.transfers.find? (fun t => t.id = value id) = some transfer

theorem findTransfer_eq (h : Finds tables id transfer) : findTransfer tables id = .ok transfer := by
  obtain ⟨hne, hdigits, hfind⟩ := h
  rw [findTransfer, if_neg (not_not.2 ⟨hne, hdigits⟩), hfind]
  rfl

theorem exists_membersToJson {body : Members Leaf} :
    (∃ js, membersToJson toISOString body = some js) ↔
      ∀ m ∈ body, (toJson toISOString m.2).isSome = true := by
  rw [← isSome_toJson_obj, Script.toJson_obj, Option.isSome_map, Option.isSome_iff_exists]

/-- The row of a list carries the amounts exactly if they are small. -/
theorem carries_listed {j : Json Str}
    (h : toJson toISOString (.obj (serialiseTransfer transfer.listed transfer)) = some j) :
    (∃ ms, j = .obj ms ∧ Carries Denotes ms transfer) ↔ Small transfer := by
  rw [Script.toJson_obj, Option.map_eq_some_iff] at h
  obtain ⟨js, hjs, rfl⟩ := h
  obtain ⟨hamount, hfee, hpayout⟩ := lookup_serialiseTransfer transfer.listed transfer
  rw [← carries_iff hjs hamount hfee hpayout]
  constructor
  · rintro ⟨ms, heq, hcarries⟩
    rwa [Json.obj.inj heq]
  · intro hcarries
    exact ⟨js, rfl, hcarries⟩

/-- The rows of an answer are those of the page, one by one. -/
theorem carries_rows {transfers : List Transfer} {rows : List (Json Str)}
    (h : Script.itemsToJson toISOString (transfers.map fun transfer =>
      .obj (serialiseTransfer transfer.listed transfer)) = some rows) :
    List.Forall₂ (fun t j => ∃ ms, j = .obj ms ∧ Carries Denotes ms t) transfers rows ↔
      ∀ t ∈ transfers, Small t := by
  rw [Script.itemsToJson_eq_some, List.forall₂_map_left_iff] at h
  induction h with
  | nil => simp
  | cons hj _ ih => rw [List.forall₂_cons, List.forall_mem_cons, carries_listed hj, ih]

theorem isSome_listBody (toISOString : ℤ → Str) (tables : Tables) (query : ListQuery) :
    ∀ m ∈ listBody tables query, (toJson toISOString m.2).isSome = true := by
  have hrows : (toJson toISOString (.arr ((page tables query).map fun transfer =>
      .obj (serialiseTransfer transfer.listed transfer)))).isSome = true := by
    rw [isSome_toJson_arr]
    intro v hv
    obtain ⟨transfer, -, rfl⟩ := List.mem_map.1 hv
    exact isSome_toJson_obj.2 (isSome_serialiseTransfer (isSome_listed transfer))
  have hindexer : (toJson toISOString (.obj
      [(units "lastLedger", (slowest tables).elim .null fun cursor => number cursor.lastLedger),
        (units "updatedAt",
          (slowest tables).elim .null fun cursor => date cursor.updatedAt)])).isSome
      = true := by
    cases slowest tables with
    | none => rfl
    | some cursor => rfl
  intro m hm
  simp only [listBody, List.mem_cons, List.not_mem_nil, or_false] at hm
  rcases hm with rfl | rfl
  · exact hrows
  · exact hindexer

theorem listExact_iff : ListExact toISOString tables query ↔
    ∀ transfer ∈ page tables query, Small transfer := by
  simp only [ListExact, listTransfers, json_eq_ok]
  -- The first member of the answer holds the rows.
  have hrows : ∀ {js}, membersToJson toISOString (listBody tables query) = some js →
      Members.lookup js (units "transfers") = toJson toISOString (.arr ((page tables query).map
        fun transfer => .obj (serialiseTransfer transfer.listed transfer))) :=
    fun hjs => Script.lookup_toJson hjs (units "transfers")
  constructor
  · rintro ⟨js, rows, hjs, hlookup, hcarry⟩
    rw [hrows hjs, Script.toJson_arr, Option.map_eq_some_iff] at hlookup
    obtain ⟨rows', hitems, heq⟩ := hlookup
    rw [← Json.arr.inj heq] at hcarry
    exact (carries_rows hitems).1 hcarry
  · intro h
    obtain ⟨js, hjs⟩ := exists_membersToJson.2 (isSome_listBody toISOString tables query)
    have hsome := isSome_listBody toISOString tables query _ List.mem_cons_self
    rw [Script.toJson_arr, Option.isSome_map, Option.isSome_iff_exists] at hsome
    obtain ⟨rows, hitems⟩ := hsome
    refine ⟨js, rows, hjs, ?_, (carries_rows hitems).2 h⟩
    rw [hrows hjs, Script.toJson_arr, hitems, Option.map_some]

theorem isSome_statusBody (toISOString : ℤ → Str) (now : ℤ) (hnil : transfer.events = []) :
    ∀ m ∈ statusBody transfer now, (toJson toISOString m.2).isSome = true := by
  intro m hm
  simp only [statusBody, Members.mem_set] at hm
  rcases hm with rfl | ⟨rfl | ⟨rfl | ⟨hm, -⟩, -⟩, -⟩
  · rw [hnil]
    rfl
  · rfl
  · rfl
  · exact isSome_serialiseTransfer (isSome_detailed hnil) m hm

theorem lookup_statusBody {key : Str} (h₁ : key ≠ units "expired") (h₂ : key ≠ units "refundable")
    (h₃ : key ≠ units "timeline") : (statusBody transfer now).lookup key =
      (serialiseTransfer transfer.detailed transfer).lookup key := by
  rw [statusBody, Members.lookup_set, if_neg h₃, Members.lookup_set, if_neg h₂,
    Members.lookup_set, if_neg h₁]

theorem statusExact_iff (h : Finds tables id transfer) :
    StatusExact toISOString tables id now transfer ↔ Small transfer ∧ transfer.events = [] := by
  obtain ⟨hamount, hfee, hpayout⟩ := lookup_serialiseTransfer transfer.detailed transfer
  have hcarries : ∀ {js}, membersToJson toISOString (statusBody transfer now) = some js →
      (Carries Denotes js transfer ↔ Small transfer) := by
    intro js hjs
    refine carries_iff hjs ?_ ?_ ?_
    · rw [lookup_statusBody (by decide) (by decide) (by decide), hamount]
    · rw [lookup_statusBody (by decide) (by decide) (by decide), hfee]
    · rw [lookup_statusBody (by decide) (by decide) (by decide), hpayout]
  have hevents : (statusBody transfer now).lookup (units "events") =
      some (.arr (transfer.events.map fun event => .obj event.members)) := by
    rw [lookup_statusBody (by decide) (by decide) (by decide)]
    simp only [serialiseTransfer, Members.lookup_set]
    rfl
  simp only [StatusExact, transferStatus, findTransfer_eq h, ok_bind, json_eq_ok]
  constructor
  · rintro ⟨js, hjs, hcarry⟩
    exact ⟨(hcarries hjs).1 hcarry,
      events_eq_nil (exists_membersToJson.1 ⟨js, hjs⟩ _ (Members.mem_of_lookup hevents))⟩
  · rintro ⟨hsmall, hnil⟩
    obtain ⟨js, hjs⟩ := exists_membersToJson.2 (isSome_statusBody toISOString now hnil)
    exact ⟨js, hjs, (hcarries hjs).2 hsmall⟩

theorem isSome_receiptBody (toISOString : ℤ → Str) (transfer : Transfer) (amount fee payout : ℤ) :
    ∀ m ∈ receiptBody transfer amount fee payout, (toJson toISOString m.2).isSome = true := by
  have hagent : (toJson toISOString (transfer.agent.elim .null fun agent =>
      .obj [(units "id", string agent.id),
        (units "name", string (agent.tradingName.getD agent.legalName))])).isSome = true := by
    cases transfer.agent with
    | none => rfl
    | some agent => simp [isSome_toJson_obj]
  simp [receiptBody, hagent]

theorem receiptExact_iff (h : Finds tables id transfer) :
    ReceiptExact toISOString tables id transfer ↔ Small transfer := by
  simp only [ReceiptExact, transferReceipt, findTransfer_eq h, ok_bind]
  constructor
  · rintro ⟨js, hroute, -⟩
    simp only [bind_eq_ok, mapError_eq_ok, parseBigInt_decimalToString] at hroute
    obtain ⟨_, ⟨hamount, -⟩, _, ⟨hfee, -⟩, _, ⟨hpayout, -⟩, -⟩ := hroute
    exact ⟨hamount, hfee, hpayout⟩
  · intro hsmall
    obtain ⟨js, hjs⟩ := exists_membersToJson.2
      (isSome_receiptBody toISOString transfer transfer.amount transfer.fee transfer.payout)
    have hlookup := Script.lookup_toJson hjs
    refine ⟨js, ?_, ⟨_, hlookup (units "amount"), rfl⟩, ⟨_, hlookup (units "fee"), rfl⟩,
      _, hlookup (units "payout"), rfl⟩
    simp only [bind_eq_ok, mapError_eq_ok, parseBigInt_decimalToString]
    exact ⟨_, ⟨hsmall.amount, rfl⟩, _, ⟨hsmall.fee, rfl⟩, _, ⟨hsmall.payout, rfl⟩,
      json_eq_ok.2 hjs⟩

/-- Lists and receipts are exact as long as the amounts are small.  A status is so only if moreover
no event is linked to the transfer. -/
theorem exact_iff (toISOString : ℤ → Str) (tables : Tables) (query : ListQuery) :
    (ListExact toISOString tables query ↔ ∀ transfer ∈ page tables query, Small transfer) ∧
    ∀ id transfer, Finds tables id transfer →
      (∀ now, StatusExact toISOString tables id now transfer ↔
        Small transfer ∧ transfer.events = []) ∧
      (ReceiptExact toISOString tables id transfer ↔ Small transfer) := by
  refine ⟨listExact_iff, ?_⟩
  intro id transfer hfinds
  exact ⟨fun _ => statusExact_iff hfinds, receiptExact_iff hfinds⟩

/-! ### A transfer and its event -/

namespace Sample

def corridor : Corridor where
  id := units "US-MX"
  sourceCurrency := units "USD"
  destCurrency := units "MXN"
  regionId := units "MX"
  tier1Max := 1000
  tier2Max := 10000
  dailyLimit := 100000
  spreadBps := 50
  active := true
  createdAt := 0
  updatedAt := 0

/-- The creation of the transfer, as it is indexed. -/
def created : ChainEvent where
  id := units "e1"
  contractId := units "C1"
  topic := units "TransferCreated"
  ledger := 7
  eventIndex := 0
  txHash := units "t1"
  payload := .null
  rawXdr := none
  transferId := some 1
  occurredAt := 0
  ingestedAt := 0

theorem linked_created : ∀ event ∈ [created], event.transferId = some ((1 : ℕ) : ℤ) := by
  simp [created]

def pending : Transfer where
  id := 1
  senderId := units "u1"
  agentId := none
  corridorId := units "US-MX"
  amount := 1000
  fee := 0
  payout := 0
  tokenAddress := units "C2"
  claimHash := units "ab"
  expiry := 1000
  status := .pending
  createdAt := 0
  settledAt := none
  claimedBy := none
  createTxHash := some (units "t1")
  settleTxHash := none
  updatedAt := 0
  corridor := corridor
  agent := none
  events := [created]
  linked := linked_created

def indexed : Tables := ⟨[pending], []⟩

theorem finds_pending : Finds indexed (units "1") pending :=
  ⟨by decide, by decide, rfl⟩

/-- The status of a transfer that was just created is not answered. -/
theorem not_statusExact : Finds indexed (units "1") pending ∧
    transferStatus (fun _ => []) indexed (units "1") 0 =
      .error (.error (units "Do not know how to serialize a BigInt")) ∧
    ¬ StatusExact (fun _ => []) indexed (units "1") 0 pending := by
  have herror : transferStatus (fun _ => []) indexed (units "1") 0 =
      .error (.error (units "Do not know how to serialize a BigInt")) := rfl
  refine ⟨finds_pending, herror, ?_⟩
  rintro ⟨members, hok, -⟩
  rw [herror] at hok
  cases hok

theorem exact_iff_sample : ReceiptExact (fun _ => []) indexed (units "1") pending :=
  ((exact_iff (fun _ => []) indexed ⟨none, none, none, 50⟩).2 (units "1") pending
    finds_pending).2.2 ⟨by decide, by decide, by decide⟩

end Sample

end Transfers

end RemitBridge
