import RemitBridge.Data.Result
import RemitBridge.Money.RoundTrip
import RemitBridge.Quoting.Signer

/-!
# The quoting service

`createQuote` prices an amount for a corridor.  It rounds three times: when it takes the spread off
the rate, when it converts the amount, and when it takes the fee.  `sound_of_price` says that
nothing gets lost between the numbers that are signed, and `price_mono` that no less is paid out for
a larger amount or at a better rate.
-/

namespace RemitBridge

namespace Quoting

open Json Money Result

/-- The scale of rates. -/
def rateScale : ℤ := 10000000

/-- The share that the escrow keeps, in basis points. -/
def escrowFeeBps : ℤ := 200

def maxTickAgeMs : ℤ := 60000

structure RateTick where
  base : Str
  quote : Str
  /-- Mid-market rate, scaled. -/
  rate : ℤ
  source : Str
  /-- In milliseconds. -/
  observedAt : ℤ

structure Corridor where
  id : Str
  sourceCurrency : Str
  destCurrency : Str
  spreadBps : ℤ

inductive Failure where
  | notFound (what id : Str)
  | providerUnavailable (provider cause : Str)
  | error (message : Str)

/-- What the service uses of the database, the price source, the settings and the libraries. -/
structure Environment where
  corridor : Str → Option Corridor
  fetchRate : Str → Str → Except Failure RateTick
  quoteTtlSeconds : ℤ
  quoteSigningSecretKey : Str
  publicKey : Str → Str
  toISOString : ℤ → Str
  numbers : NumberFormat ℤ
  hmac : Str → List UInt8 → List UInt8

structure QuoteInput where
  corridorId : Str
  amount : Str

/-- The answer, apart from the members of the signed quote. -/
structure QuoteOutput where
  signed : SignedQuote ℤ
  feeDisplay : Str
  totalDisplay : Str

/-- The row that is created. -/
structure QuoteRow where
  id : Str
  corridorId : Str
  midRate : Str
  spreadBps : ℤ
  clientRate : Str
  amount : Str
  fee : Str
  total : Str
  oracleSource : Str
  signature : Str
  signingKey : Str
  validUntil : Str

def assertFresh (tick : RateTick) (now : ℤ) : Except Failure Unit :=
  let age := now - tick.observedAt
  if age > maxTickAgeMs then
    .error (.providerUnavailable tick.source
      (units "rate tick is " ++ bigintToJson age ++ units "ms old (max 60000ms)"))
  else .ok ()

/-- The numbers of a quote. -/
structure Prices where
  clientRate : ℤ
  converted : ℤ
  fee : ℤ
  total : ℤ
  deriving DecidableEq

/-- The part of `createQuote` that computes. -/
def price (amount rate spreadBps : ℤ) : Except Str Prices := do
  let spread ← applyBps rate spreadBps
  let clientRate := rate - spread
  let converted := (amount * clientRate).tdiv rateScale
  let fee ← applyBps converted escrowFeeBps
  pure { clientRate, converted, fee, total := converted - fee }

/-- The body that is signed. -/
def quoteBody (quoteId : Str) (corridor : Corridor) (tick : RateTick) (amount : ℤ) (prices : Prices)
    (validUntil : Str) : QuoteBody ℤ where
  quoteId := quoteId
  corridorId := corridor.id
  base := tick.base
  quote := tick.quote
  midRate := bigintToJson tick.rate
  spreadBps := corridor.spreadBps
  clientRate := bigintToJson prices.clientRate
  amount := bigintToJson amount
  fee := bigintToJson prices.fee
  total := bigintToJson prices.total
  oracleSource := tick.source
  validUntil := validUntil

/-- What a call leaves: the row it creates, and its answer. -/
def createQuote (env : Environment) (input : QuoteInput) (quoteId : Str) (now : ℤ) :
    Except Failure (QuoteRow × QuoteOutput) := do
  let some corridor := env.corridor input.corridorId
    | throw (.notFound (units "corridor") input.corridorId)
  let tick ← env.fetchRate corridor.sourceCurrency corridor.destCurrency
  assertFresh tick now
  let amount ← (toStroops input.amount).mapError .error
  let prices ← (price amount tick.rate corridor.spreadBps).mapError .error
  let validUntil := env.toISOString (now + env.quoteTtlSeconds * 1000)
  let body := quoteBody quoteId corridor tick amount prices validUntil
  let signed := signQuote env.numbers env.hmac body (env.publicKey env.quoteSigningSecretKey)
    env.quoteSigningSecretKey
  let row : QuoteRow :=
    { id := quoteId
      corridorId := corridor.id
      midRate := fromStroops tick.rate
      spreadBps := corridor.spreadBps
      clientRate := fromStroops prices.clientRate
      amount := bigintToJson amount
      fee := bigintToJson prices.fee
      total := bigintToJson prices.total
      oracleSource := tick.source
      signature := signed.signature
      signingKey := signed.signingKey
      validUntil }
  pure (row, ⟨signed, fromStroops prices.fee, fromStroops prices.total⟩)

variable {env : Environment} {input : QuoteInput} {quoteId : Str} {now : ℤ} {row : QuoteRow}
  {output : QuoteOutput} {amount amount' rate rate' spreadBps : ℤ} {prices prices' : Prices}

/-! ### The numbers -/

/-- What the numbers of a quote have to satisfy. -/
structure Prices.Sound (amount midRate : ℤ) (prices : Prices) : Prop where
  clientRate_nonneg : 0 ≤ prices.clientRate
  clientRate_le : prices.clientRate ≤ midRate
  converted_eq : prices.converted = amount * prices.clientRate / rateScale
  fee_nonneg : 0 ≤ prices.fee
  fee_le : prices.fee ≤ prices.converted
  total_nonneg : 0 ≤ prices.total
  sum_eq : prices.fee + prices.total = prices.converted
  total_le : prices.total * rateScale ≤ amount * midRate

/-- With a spread of at most 100% no number is negative, so all divisions round down. -/
theorem price_eq_ok (hamount : 0 ≤ amount) (hrate : 0 ≤ rate) (hspread : 0 ≤ spreadBps)
    (hmax : spreadBps ≤ 10000) : price amount rate spreadBps = .ok prices ↔
      prices.clientRate = rate - rate * spreadBps / 10000 ∧
      prices.converted = amount * prices.clientRate / rateScale ∧
      prices.fee = prices.converted * escrowFeeBps / 10000 ∧
      prices.total = prices.converted - prices.fee := by
  have hclient : 0 ≤ rate - rate * spreadBps / 10000 := Int.sub_nonneg.2 (share_le hrate hmax)
  have hproduct : 0 ≤ amount * (rate - rate * spreadBps / 10000) := Int.mul_nonneg hamount hclient
  have hconverted : 0 ≤ amount * (rate - rate * spreadBps / 10000) / rateScale :=
    Int.ediv_nonneg hproduct (by decide)
  rw [price, applyBps_of_nonneg hrate hspread (hmax.trans (by decide))]
  simp only [bind_eq_ok, Except.ok.injEq, exists_eq_left']
  rw [Int.tdiv_eq_ediv_of_nonneg hproduct, applyBps_of_nonneg hconverted (by decide) (by decide)]
  simp only [Except.ok.injEq, exists_eq_left']
  constructor
  · intro h
    rw [← Except.ok.inj h]
    exact ⟨rfl, rfl, rfl, rfl⟩
  · rintro ⟨h₁, h₂, h₃, h₄⟩
    obtain ⟨clientRate, converted, fee, total⟩ := prices
    simp only at h₁ h₂ h₃ h₄
    subst h₁ h₂ h₃ h₄
    rfl

theorem sound_of_price (hamount : 0 ≤ amount) (hrate : 0 ≤ rate) (hspread : 0 ≤ spreadBps)
    (hmax : spreadBps ≤ 10000) (h : price amount rate spreadBps = .ok prices) :
    prices.Sound amount rate := by
  obtain ⟨hclient, hconverted, hfee, htotal⟩ := (price_eq_ok hamount hrate hspread hmax).1 h
  have hspread' : 0 ≤ rate * spreadBps / 10000 := share_nonneg hrate hspread
  have hle : rate * spreadBps / 10000 ≤ rate := share_le hrate hmax
  have hclient' : 0 ≤ prices.clientRate := by omega
  have hnonneg : 0 ≤ prices.converted := by
    rw [hconverted]
    exact Int.ediv_nonneg (Int.mul_nonneg hamount hclient') (by decide)
  have hfee_nonneg : 0 ≤ prices.fee := hfee ▸ share_nonneg hnonneg (by decide)
  have hfee_le : prices.fee ≤ prices.converted := hfee ▸ share_le hnonneg (by decide)
  refine ⟨hclient', by omega, hconverted, hfee_nonneg, hfee_le, by omega, by omega, ?_⟩
  calc prices.total * rateScale ≤ prices.converted * rateScale :=
        Int.mul_le_mul_of_nonneg_right (by omega) (by decide)
    _ ≤ amount * prices.clientRate := by
        rw [hconverted]
        exact Int.ediv_mul_le _ (by decide)
    _ ≤ amount * rate := Int.mul_le_mul_of_nonneg_left (by omega) hamount

theorem exists_price (hamount : 0 ≤ amount) (hrate : 0 ≤ rate) (hspread : 0 ≤ spreadBps)
    (hmax : spreadBps ≤ 10000) : ∃ prices, price amount rate spreadBps = .ok prices := by
  obtain ⟨clientRate, hclient⟩ : ∃ n, n = rate - rate * spreadBps / 10000 := ⟨_, rfl⟩
  obtain ⟨converted, hconverted⟩ : ∃ n, n = amount * clientRate / rateScale := ⟨_, rfl⟩
  obtain ⟨fee, hfee⟩ : ∃ n, n = converted * escrowFeeBps / 10000 := ⟨_, rfl⟩
  exact ⟨⟨clientRate, converted, fee, converted - fee⟩,
    (price_eq_ok hamount hrate hspread hmax).2 ⟨hclient, hconverted, hfee, rfl⟩⟩

/-- Neither a larger amount nor a better rate pays out less. -/
theorem price_mono (hamount : 0 ≤ amount) (hle : amount ≤ amount') (hrate : 0 ≤ rate)
    (hrate' : rate ≤ rate') (hspread : 0 ≤ spreadBps) (hmax : spreadBps ≤ 10000)
    (h : price amount rate spreadBps = .ok prices)
    (h' : price amount' rate' spreadBps = .ok prices') :
    prices.converted ≤ prices'.converted ∧ prices.total ≤ prices'.total := by
  obtain ⟨hclient, hconverted, hfee, htotal⟩ := (price_eq_ok hamount hrate hspread hmax).1 h
  obtain ⟨hclient', hconverted', hfee', htotal'⟩ :=
    (price_eq_ok (hamount.trans hle) (hrate.trans hrate') hspread hmax).1 h'
  have hnonneg : 0 ≤ prices.clientRate := (sound_of_price hamount hrate hspread hmax h).1
  have hrates : prices.clientRate ≤ prices'.clientRate := by
    rw [hclient, hclient']
    exact rest_mono hrate' hmax
  have hmono : prices.converted ≤ prices'.converted := by
    rw [hconverted, hconverted']
    exact Int.ediv_le_ediv (by decide)
      (Int.mul_le_mul hle hrates hnonneg (hamount.trans hle))
  refine ⟨hmono, ?_⟩
  rw [htotal, htotal', hfee, hfee']
  exact rest_mono hmono (by decide)

/-! ### The quote -/

/-- What is signed are the numbers, as text. -/
theorem createQuote_eq_ok (h : createQuote env input quoteId now = .ok (row, output)) :
    ∃ corridor tick amount prices,
      env.corridor input.corridorId = some corridor ∧
      env.fetchRate corridor.sourceCurrency corridor.destCurrency = .ok tick ∧
      toStroops input.amount = .ok amount ∧
      price amount tick.rate corridor.spreadBps = .ok prices ∧
      output.signed = signQuote env.numbers env.hmac
        (quoteBody quoteId corridor tick amount prices
          (env.toISOString (now + env.quoteTtlSeconds * 1000)))
        (env.publicKey env.quoteSigningSecretKey) env.quoteSigningSecretKey := by
  rw [createQuote] at h
  cases hcorridor : env.corridor input.corridorId with
  | none =>
    rw [hcorridor] at h
    cases h
  | some corridor =>
    rw [hcorridor] at h
    simp only [bind_eq_ok, mapError_eq_ok] at h
    obtain ⟨tick, htick, -, -, amount, hamount, prices, hprices, heq⟩ := h
    obtain ⟨-, rfl⟩ := Prod.mk.inj (Except.ok.inj heq)
    exact ⟨corridor, tick, amount, prices, rfl, htick, hamount, hprices, rfl⟩

/-- **The numbers of a quote.**  For every amount, every rate and every spread of at most 100%, the
numbers are computed, and are sound; a larger amount or a better rate does not make them smaller.
They are the ones that are signed, for the amount that was read and the rate that was fetched. -/
theorem quote_sound :
    (∀ amount rate spreadBps, 0 ≤ amount → 0 < rate → 0 ≤ spreadBps → spreadBps ≤ 10000 →
      ∃ prices : Prices, price amount rate spreadBps = .ok prices ∧ prices.Sound amount rate) ∧
    (∀ amount amount' rate rate' spreadBps prices prices', 0 ≤ amount → amount ≤ amount' →
      0 < rate → rate ≤ rate' → 0 ≤ spreadBps → spreadBps ≤ 10000 →
      price amount rate spreadBps = .ok prices → price amount' rate' spreadBps = .ok prices' →
      prices.converted ≤ prices'.converted ∧ prices.total ≤ prices'.total) ∧
    ∀ env input quoteId now row output, createQuote env input quoteId now = .ok (row, output) →
      ∃ corridor tick amount prices validUntil,
        env.corridor input.corridorId = some corridor ∧
        env.fetchRate corridor.sourceCurrency corridor.destCurrency = .ok tick ∧
        toStroops input.amount = .ok amount ∧
        price amount tick.rate corridor.spreadBps = .ok prices ∧
        output.signed = signQuote env.numbers env.hmac
          (quoteBody quoteId corridor tick amount prices validUntil)
          (env.publicKey env.quoteSigningSecretKey) env.quoteSigningSecretKey ∧
        (0 < tick.rate → 0 ≤ corridor.spreadBps → corridor.spreadBps ≤ 10000 →
          prices.Sound amount tick.rate) := by
  refine ⟨?_, ?_, ?_⟩
  · intro amount rate spreadBps hamount hrate hspread hmax
    obtain ⟨prices, h⟩ := exists_price hamount hrate.le hspread hmax
    exact ⟨prices, h, sound_of_price hamount hrate.le hspread hmax h⟩
  · intro amount amount' rate rate' spreadBps prices prices' hamount hle hrate hrate' hspread hmax
    exact price_mono hamount hle hrate.le hrate' hspread hmax
  · intro env input quoteId now row output h
    obtain ⟨corridor, tick, amount, prices, hcorridor, htick, hamount, hprices, hsigned⟩ :=
      createQuote_eq_ok h
    refine ⟨corridor, tick, amount, prices, _, hcorridor, htick, hamount, hprices, hsigned, ?_⟩
    intro hrate hspread hmax
    exact sound_of_price (nonneg_of_toStroops hamount) hrate.le hspread hmax hprices

namespace Sample

/-- A corridor with a spread of 75 basis points, and a rate of 1500 naira for a dollar. -/
def service : Environment where
  corridor _ := some ⟨units "US-NG", units "USD", units "NGN", 75⟩
  fetchRate base quote := .ok ⟨base, quote, 15000000000, units "oracle", 0⟩
  quoteTtlSeconds := 60
  quoteSigningSecretKey := units "S"
  publicKey _ := units "G"
  toISOString := bigintToJson
  numbers := ⟨fun s => Decimal.value s, bigintToJson, fun _ => true, id⟩
  hmac _ message := message

def hundred : QuoteInput := ⟨units "US-NG", units "100"⟩

end Sample

/-- A hundred dollars are quoted. -/
theorem quote_sound_sample : ∃ row output prices,
    createQuote Sample.service Sample.hundred (units "quote") 0 = .ok (row, output) ∧
    price 1000000000 15000000000 75 = .ok prices ∧ prices.Sound 1000000000 15000000000 ∧
    prices = ⟨14887500000, 1488750000000, 29775000000, 1458975000000⟩ := by
  obtain ⟨row, output, h⟩ : ∃ row output,
      createQuote Sample.service Sample.hundred (units "quote") 0 = .ok (row, output) := ⟨_, _, rfl⟩
  obtain ⟨corridor, tick, amount, prices, -, hcorridor, htick, hamount, hprices, -, hsound⟩ :=
    quote_sound.2.2 _ _ _ _ _ _ h
  obtain rfl := Option.some.inj hcorridor
  obtain rfl := Except.ok.inj htick
  have hread : toStroops (units "100") = .ok 1000000000 := rfl
  obtain rfl := Except.ok.inj (hread.symm.trans hamount)
  refine ⟨row, output, prices, h, hprices, hsound (by decide) (by decide) (by decide), ?_⟩
  exact (Except.ok.inj hprices).symm

end Quoting

end RemitBridge
