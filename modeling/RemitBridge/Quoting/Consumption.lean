import RemitBridge.Data.Solo
import RemitBridge.Quoting.Service

/-!
# How often a quote is used

`consumeQuote` looks a quote up and writes the transfer that uses it.  It does not look at what the
row says: a quote that a transfer has used can be used by another one, whether the calls overlap or
not.  So a quote is used once only if all calls for it are for one transfer, namely the one that has
used it if there is one (`singleUse_iff`).
-/

namespace RemitBridge

namespace Quoting

open Json Process TransitionSystem

/-- A row of the table `Quote`. -/
structure Quote extends QuoteRow where
  consumedByTransfer : Option ℤ

/-! ### The table -/

namespace Quote

/-- The value fits a column of type `BigInt`. -/
def FitsBigInt (n : ℤ) : Prop := -9223372036854775808 ≤ n ∧ n ≤ 9223372036854775807

instance : DecidablePred FitsBigInt := fun _ => inferInstanceAs (Decidable (_ ∧ _))

/-- `prisma.quote.findUnique` -/
def findUnique (quotes : List Quote) (id : Str) : Option Quote :=
  quotes.find? fun quote => decide (quote.id = id)

/-- The row after `prisma.quote.update` of the row `id`. -/
def consume (id : Str) (transferId : ℤ) (quote : Quote) : Quote :=
  if quote.id = id then { quote with consumedByTransfer := some transferId } else quote

/-- The transfer that has consumed the quote. -/
def consumedBy (quotes : List Quote) (id : Str) : Option ℤ :=
  (findUnique quotes id).bind consumedByTransfer

/-- A quote that nothing has used yet. -/
def fresh (id : Str) : Quote where
  id
  corridorId := units "usd-ngn"
  midRate := units "1500"
  spreadBps := 50
  clientRate := units "1492.5"
  amount := units "10000000"
  fee := units "298500000"
  total := units "14626500000"
  oracleSource := units "mock"
  signature := units "sig"
  signingKey := units "key"
  validUntil := units "2025-01-01T00:00:00.000Z"
  consumedByTransfer := none

variable {quotes : List Quote} {quote : Quote} {id id' : Str} {transferId : ℤ}

@[simp] theorem consume_id : (consume id transferId quote).id = quote.id := by
  rw [consume]
  split_ifs <;> rfl

theorem findUnique_consume : findUnique (quotes.map (consume id transferId)) id' =
    (findUnique quotes id').map (consume id transferId) := by
  simp [findUnique, List.find?_map]

theorem consumedBy_consume (h : (findUnique quotes id).isSome) :
    consumedBy (quotes.map (consume id transferId)) id = some transferId := by
  obtain ⟨quote, hquote⟩ := Option.isSome_iff_exists.1 h
  have hid : quote.id = id := by simpa using List.find?_some hquote
  rw [consumedBy, findUnique_consume, hquote, Option.map_some, Option.bind_some, consume,
    if_pos hid]

theorem consumedBy_consume_of_ne (h : id' ≠ id) :
    consumedBy (quotes.map (consume id transferId)) id' = consumedBy quotes id' := by
  rw [consumedBy, findUnique_consume, consumedBy]
  cases hquote : findUnique quotes id' with
  | none => rfl
  | some quote =>
    have hid : quote.id = id' := by simpa using List.find?_some hquote
    rw [Option.map_some, Option.bind_some, Option.bind_some, consume, if_neg (hid ▸ h)]

/-- A new row has not been consumed. -/
theorem consumedBy_append (h : quote.consumedByTransfer = none) :
    consumedBy (quotes ++ [quote]) id = consumedBy quotes id := by
  rw [consumedBy, consumedBy, findUnique, List.find?_append, ← findUnique]
  cases findUnique quotes id with
  | some found => rfl
  | none =>
    rw [Option.none_or, List.find?_singleton]
    split_ifs
    · exact h
    · rfl

end Quote

/-! ### The service -/

inductive Query where
  | findUnique (id : Str)
  | update (id : Str) (transferId : ℤ)
  deriving DecidableEq

abbrev QueryAnswer : Query → Type
  | .findUnique _ => Option Quote
  | .update .. => Unit

/-- A call of `consumeQuote`. -/
structure Consumption where
  quoteId : Str
  transferId : ℤ
  deriving DecidableEq

abbrev Consumer (α : Type) := Process Query QueryAnswer Failure α

abbrev ConsumerState := State (List Quote) Query QueryAnswer Failure Unit Consumption

abbrev ConsumerLabel := Label Query QueryAnswer Failure Unit Consumption

/-- What the database does.  A row that is updated has to exist. -/
def performQuery : (q : Query) → List Quote → Option (QueryAnswer q × List Quote)
  | .findUnique id, quotes => some (Quote.findUnique quotes id, quotes)
  | .update id transferId, quotes =>
    if (Quote.findUnique quotes id).isSome ∧ Quote.FitsBigInt transferId then
      some ((), quotes.map (Quote.consume id transferId))
    else none

/-- Meanwhile `createQuote` adds rows. -/
inductive Created : List Quote → List Quote → Prop
  | row {quotes : List Quote} {row : QuoteRow} : Quote.findUnique quotes row.id = none →
      Created quotes (quotes ++ [{ row with consumedByTransfer := none }])

def quoteTable : Process.Environment (List Quote) Query QueryAnswer Failure :=
  .ofPerform performQuery Created

def findQuote (id : Str) : Consumer (Option Quote) := ask (Query.findUnique id)

def updateQuote (id : Str) (transferId : ℤ) : Consumer Unit := ask (Query.update id transferId)

def consumeQuote (quoteId : Str) (transferId : ℤ) : Consumer Unit := do
  let some _ ← findQuote quoteId
    | .fail (.notFound (units "quote") quoteId)
  updateQuote quoteId transferId

def Consumption.program (c : Consumption) : Consumer Unit := consumeQuote c.quoteId c.transferId

/-- Any number of calls run side by side. -/
def consumers : TransitionSystem ConsumerState ConsumerLabel := lts quoteTable Consumption.program

/-! ### Single use -/

/-- Nothing runs yet. -/
def atRest (quotes : List Quote) : ConsumerState := ⟨quotes, fun _ => none⟩

/-- Only calls of `C` are started. -/
def Starts {σ : Type} (C : Consumption → Prop) (_ : σ) (l : ConsumerLabel) (_ : σ) : Prop :=
  ∀ pid c, l = .start pid c → C c

/-- In the runs of `A` from the table on, the quote is used once. -/
structure SingleUse (A : TransitionSystem ConsumerState ConsumerLabel) (quotes : List Quote)
    (id : Str) : Prop where
  /-- Calls that return agree on the transfer. -/
  accepted : ∀ ls s, A.Run (atRest quotes) ls s → ∀ pid pid' t t',
    .finish pid ⟨id, t⟩ (.ok ()) ∈ ls → .finish pid' ⟨id, t'⟩ (.ok ()) ∈ ls → t = t'
  /-- What has consumed the quote stays the same. -/
  kept : ∀ ls s₁ ls₁ s t, A.Run (atRest quotes) ls s₁ → A.Run s₁ ls₁ s →
    Quote.consumedBy s₁.world id = some t → Quote.consumedBy s.world id = some t
  /-- Later calls for another transfer do not return. -/
  refused : ∀ ls s₁ ls₁ s t, A.Run (atRest quotes) ls s₁ → A.Run s₁ ls₁ s →
    Quote.consumedBy s₁.world id = some t →
    ∀ pid t', .finish pid ⟨id, t'⟩ (.ok ()) ∈ ls₁ → t' = t

/-- All calls for the quote are for the transfer `t`, but for those that the database refuses. -/
def Agreed (C : Consumption → Prop) (id : Str) (t : ℤ) : Prop :=
  ∀ c, C c → c.quoteId = id → Quote.FitsBigInt c.transferId → c.transferId = t

/-! ### Stages -/

/-- How far a call has come. -/
inductive Stage where
  | begun
  | found
  /-- The update has been acknowledged. -/
  | used
  | ended
  deriving DecidableEq

def Stage.next (c : Consumption) : Stage → (q : Query) → Except Failure (QueryAnswer q) →
    Option Stage
  | .begun, .findUnique id, o => if id = c.quoteId then
      match o with
      | .ok (some _) => some .found
      | _ => some .ended
    else none
  | .found, .update id transferId, o => if id = c.quoteId ∧ transferId = c.transferId then
      match o with
      | .ok _ => some .used
      | .error _ => some .ended
    else none
  | _, _, _ => none

def staging : Staging Query QueryAnswer Failure Unit Consumption Stage where
  start := .begun
  next := Stage.next
  ends _ φ r := r = .ok () → φ = .used

/-- A failure is an end at any stage. -/
theorem ends_error (c : Consumption) (φ : Stage) (e : Failure) : staging.ends c φ (.error e) := by
  intro h
  cases h

theorem follows_updateQuote (c : Consumption) : Follows (staging.next c) (staging.ends c) .found
    (updateQuote c.quoteId c.transferId) := by
  refine Follows.ask fun o => ?_
  cases o with
  | error e => exact ⟨.ended, if_pos ⟨rfl, rfl⟩, ends_error c .ended e⟩
  | ok a => exact ⟨.used, if_pos ⟨rfl, rfl⟩, fun _ => rfl⟩

theorem stages_program : Stages Consumption.program staging := by
  intro c
  refine Follows.ask_bind (fun found => ?_) fun e => ?_
  · cases found with
    | none => exact ⟨.ended, if_pos rfl, ends_error c .ended _⟩
    | some quote => exact ⟨.found, if_pos rfl, follows_updateQuote c⟩
  · exact ⟨.ended, if_pos rfl, ends_error c .ended e⟩

/-- What is known while all calls for the quote are for the transfer `t`. -/
structure Consistent (C : Consumption → Prop) (id : Str) (t : ℤ)
    (s : Staged (List Quote) Consumption Stage) : Prop where
  started : ∀ pid c φ, s.stage pid = some (c, φ) → C c
  consumed : ∀ t', Quote.consumedBy s.world id = some t' → t' = t
  /-- The quote has been consumed by the transfer of every call that has been told so. -/
  told : ∀ pid c, s.stage pid = some (c, .used) → c.quoteId = id →
    Quote.consumedBy s.world id = some c.transferId

/-- The stages of calls of `C`. -/
abbrev calls (C : Consumption → Prop) :
    TransitionSystem (Staged (List Quote) Consumption Stage) ConsumerLabel :=
  (staged quoteTable staging).restrict (Starts C)

section Calls

variable {C : Consumption → Prop} {id : Str} {s s' : Staged (List Quote) Consumption Stage}
  {l : ConsumerLabel} {ls : List ConsumerLabel} {quotes quotes' : List Quote} {t t' : ℤ}

/-- A call that is answered leads to the stage `used` only by an update. -/
theorem used_of_next {c : Consumption} {φ : Stage} {q : Query}
    {o : Except Failure (QueryAnswer q)} (h : Stage.next c φ q o = some .used) :
    ∃ hq : q = .update c.quoteId c.transferId, (hq ▸ o) = .ok () := by
  cases φ with
  | begun =>
    cases q with
    | findUnique id =>
      change (if id = c.quoteId then _ else none) = some Stage.used at h
      split_ifs at h
      rcases o with e | _ | quote <;> cases h
    | update id transferId => cases h
  | found =>
    cases q with
    | findUnique id => cases h
    | update id transferId =>
      change (if id = c.quoteId ∧ transferId = c.transferId then _ else none) = some Stage.used at h
      split_ifs at h with hq
      obtain ⟨rfl, rfl⟩ := hq
      cases o with
      | ok a => exact ⟨rfl, rfl⟩
      | error e => cases h
  | used => cases q <;> cases h
  | ended => cases q <;> cases h

/-- A call updates its own quote, with its own transfer. -/
theorem update_of_next {c : Consumption} {φ ψ : Stage} {transferId : ℤ}
    {o : Except Failure (QueryAnswer (.update id transferId))}
    (h : Stage.next c φ (.update id transferId) o = some ψ) :
    id = c.quoteId ∧ transferId = c.transferId := by
  cases φ with
  | found =>
    change (if id = c.quoteId ∧ transferId = c.transferId then _ else none) = some ψ at h
    split_ifs at h with hq
    exact hq
  | begun | used | ended => cases h

/-- A process that does not move to the stage `used` was there already. -/
theorem used_of_update {stage : ℕ → Option (Consumption × Stage)} {pid pid' : ℕ} {c : Consumption}
    {b : Option (Consumption × Stage)} (hb : b ≠ some (c, .used))
    (h : Function.update stage pid b pid' = some (c, .used)) : stage pid' = some (c, .used) := by
  rcases update_cases h with ⟨-, hnew⟩ | ⟨-, hold⟩
  · exact absurd hnew hb
  · exact hold

/-- A call that is answered leaves the table as it is, or is an update that is performed. -/
theorem updated_of_answers {q : Query} {o : Except Failure (QueryAnswer q)}
    (h : quoteTable.answers quotes q o quotes') : quotes' = quotes ∨
      ∃ id transferId, q = .update id transferId ∧ (Quote.findUnique quotes id).isSome ∧
        Quote.FitsBigInt transferId ∧ quotes' = quotes.map (Quote.consume id transferId) := by
  obtain hsame | ⟨a, hperform⟩ :
      quotes' = quotes ∨ ∃ a, performQuery q quotes = some (a, quotes') := by
    cases o with
    | ok a => exact .inr ⟨a, h⟩
    | error e => exact h
  · exact .inl hsame
  · cases q with
    | findUnique id =>
      rw [performQuery, Option.some.injEq, Prod.mk.injEq] at hperform
      exact .inl hperform.2.symm
    | update id transferId =>
      rw [performQuery] at hperform
      split_ifs at hperform with hexists
      obtain ⟨-, rfl⟩ := Prod.mk.inj (Option.some.inj hperform)
      exact .inr ⟨id, transferId, rfl, hexists.1, hexists.2, rfl⟩

theorem consumed_of_perform {transferId : ℤ} {a : Unit}
    (h : performQuery (.update id transferId) quotes = some (a, quotes')) :
    Quote.consumedBy quotes' id = some transferId := by
  rw [performQuery] at h
  split_ifs at h with hexists
  obtain rfl := (Prod.mk.inj (Option.some.inj h)).2
  exact Quote.consumedBy_consume hexists.1

/-- A step leaves the transfer that has consumed the quote, or writes the one that all calls are
for. -/
theorem consumedBy_of_step (hC : Agreed C id t) (h : Consistent C id t s)
    (hst : (calls C).step s l s') : Quote.consumedBy s'.world id = Quote.consumedBy s.world id ∨
      Quote.consumedBy s'.world id = some t := by
  obtain ⟨hst, -⟩ := hst
  cases hst with
  | start | finish | stop => exact .inl rfl
  | @call pid c φ ψ q o w hstage hnext hanswers =>
    -- The query may have read, or failed, or written another quote.
    rcases updated_of_answers hanswers with rfl | ⟨id', transferId, rfl, hexists, hfits, rfl⟩
    · exact .inl rfl
    · obtain ⟨hid, rfl⟩ := update_of_next hnext
      -- An update of the quote writes the transfer of its call, which is the one they are all for.
      by_cases heq : id = id'
      · subst heq
        rw [← hC c (h.started pid c φ hstage) hid.symm hfits]
        exact .inr (Quote.consumedBy_consume hexists)
      · exact .inl (Quote.consumedBy_consume_of_ne heq)
  | evolve hevolves =>
    cases hevolves with
    | row => exact .inl (Quote.consumedBy_append rfl)

/-- **Steps of calls for one transfer** keep what has consumed the quote. -/
theorem kept_of_step (hC : Agreed C id t) (h : Consistent C id t s) (hst : (calls C).step s l s')
    (ht : Quote.consumedBy s.world id = some t') : Quote.consumedBy s'.world id = some t' := by
  rcases consumedBy_of_step hC h hst with hsame | hnew
  · rwa [hsame]
  · rwa [h.consumed t' ht]

theorem Consistent.step (hC : Agreed C id t) (h : Consistent C id t s)
    (hst : (calls C).step s l s') : Consistent C id t s' where
  started pid' c' φ' hstage := by
    obtain ⟨hst, hstarts⟩ := hst
    cases hst with
    | @start pid c =>
      rcases update_cases hstage with ⟨-, hnew⟩ | ⟨-, hold⟩
      · cases hnew
        exact hstarts pid c' rfl
      · exact h.started pid' c' φ' hold
    | @call pid c φ ψ q o w hbefore =>
      rcases update_cases hstage with ⟨-, hnew⟩ | ⟨-, hold⟩
      · cases hnew
        exact h.started pid c' φ hbefore
      · exact h.started pid' c' φ' hold
    | finish | stop =>
      rcases update_cases hstage with ⟨-, hnew⟩ | ⟨-, hold⟩
      · cases hnew
      · exact h.started pid' c' φ' hold
    | evolve => exact h.started pid' c' φ' hstage
  consumed t' ht' := by
    rcases consumedBy_of_step hC h hst with hsame | hnew
    · exact h.consumed t' (hsame ▸ ht')
    · exact Option.some.inj (ht'.symm.trans hnew)
  told pid' c' hstage hid := by
    -- A call that was told so before keeps what it was told.
    have hbefore : s.stage pid' = some (c', .used) →
        Quote.consumedBy s'.world id = some c'.transferId := fun hused =>
      kept_of_step hC h hst (h.told pid' c' hused hid)
    obtain ⟨hst, -⟩ := hst
    cases hst with
    | start => exact hbefore (used_of_update (by simp [staging]) hstage)
    | @call pid c φ ψ q o w _ hnext hanswers =>
      by_cases hψ : some (c, ψ) = some (c', Stage.used)
      · obtain ⟨rfl, rfl⟩ := Prod.mk.inj (Option.some.inj hψ)
        obtain ⟨rfl, ho⟩ := used_of_next hnext
        change o = .ok () at ho
        subst ho
        subst hid
        exact consumed_of_perform hanswers
      · exact hbefore (used_of_update hψ hstage)
    | finish => exact hbefore (used_of_update (by simp) hstage)
    | stop => exact hbefore (used_of_update (by simp) hstage)
    | evolve => exact hbefore hstage

theorem Consistent.run (hC : Agreed C id t) (h : Consistent C id t s)
    (hrun : (calls C).Run s ls s') : Consistent C id t s' :=
  hrun.invariant h fun _ _ _ hs hst => hs.step hC hst

/-- A call that returns has consumed the quote. -/
theorem consumed_of_finish {pid : ℕ} (h : Consistent C id t s)
    (hst : (calls C).step s (.finish pid ⟨id, t'⟩ (.ok ())) s') :
    Quote.consumedBy s.world id = some t' := by
  obtain ⟨hst, -⟩ := hst
  cases hst with
  | finish hstage hends =>
    obtain rfl := hends rfl
    exact h.told pid _ hstage rfl

theorem kept_of_run (hC : Agreed C id t) (h : Consistent C id t s) (hrun : (calls C).Run s ls s')
    (ht : Quote.consumedBy s.world id = some t') : Quote.consumedBy s'.world id = some t' := by
  induction hrun with
  | nil => exact ht
  | snoc hrun hst ih => exact kept_of_step hC (h.run hC hrun) hst ih

/-- After a run the quote has been consumed by the transfer of every call that has returned. -/
theorem consumed_of_run {pid : ℕ} (hC : Agreed C id t) (h : Consistent C id t s)
    (hrun : (calls C).Run s ls s') (hfinish : .finish pid ⟨id, t'⟩ (.ok ()) ∈ ls) :
    Quote.consumedBy s'.world id = some t' := by
  induction hrun with
  | nil => cases hfinish
  | snoc hrun hst ih =>
    have hs := h.run hC hrun
    -- Either the call had returned before, and the quote has been kept, or it returns now.
    rcases List.mem_append.1 hfinish with hfinish | hfinish
    · exact kept_of_step hC hs hst (ih hfinish)
    · obtain rfl := List.mem_singleton.1 hfinish
      exact kept_of_step hC hs hst (consumed_of_finish hs hst)

end Calls

/-! ### When quotes are used once -/

section Schedules

variable {C : Consumption → Prop} {id : Str} {quotes : List Quote} {s₁ s : ConsumerState}
  {ls ls₁ : List ConsumerLabel} {t : ℤ} {c : Consumption}

/-- Runs of calls for one transfer, as far as their stages go. -/
theorem consistent_of_run (hC : Agreed C id t)
    (hconsumed : ∀ t', Quote.consumedBy quotes id = some t' → t' = t)
    (h : (consumers.restrict (Starts C)).Run (atRest quotes) ls s₁)
    (h₁ : (consumers.restrict (Starts C)).Run s₁ ls₁ s) :
    Consistent C id t (s₁.staged staging) ∧
      (calls C).Run (s₁.staged staging) ls₁ (s.staged staging) := by
  have hrest : (atRest quotes).Idle := fun _ => rfl
  obtain ⟨hstaged, hdisciplined⟩ :=
    staged_of_run (G := Starts C) stages_program (.of_idle hrest) h
  have hstart : Consistent C id t ((atRest quotes).staged staging) :=
    { started := fun pid c φ hstage => by cases hrest.staged pid ▸ hstage
      consumed := hconsumed
      told := fun pid c hstage => by cases hrest.staged pid ▸ hstage }
  exact ⟨hstart.run hC hstaged, (staged_of_run (G := Starts C) stages_program hdisciplined h₁).1⟩

/-- A row of the quote is there, or is created. -/
theorem run_created (C : Consumption → Prop) (id : Str) (quotes : List Quote) : ∃ ls quotes',
    (consumers.restrict (Starts C)).Run (atRest quotes) ls (atRest quotes') ∧
      (Quote.findUnique quotes' id).isSome ∧
      Quote.consumedBy quotes' id = Quote.consumedBy quotes id := by
  cases hquote : Quote.findUnique quotes id with
  | some quote => exact ⟨[], quotes, .nil _, by rw [hquote]; rfl, rfl⟩
  | none =>
    have hcreated : Created quotes (quotes ++ [Quote.fresh id]) := .row hquote
    refine ⟨[.evolve], quotes ++ [Quote.fresh id], .single ⟨.evolve hcreated, ?_⟩, ?_,
      Quote.consumedBy_append rfl⟩
    · intro pid c hl
      cases hl
    · simp [Quote.findUnique, Quote.fresh]

/-- A call that nothing comes in between of finds the row and writes its transfer. -/
theorem run_consumed (hc : C c) (hfits : Quote.FitsBigInt c.transferId)
    (hexists : (Quote.findUnique quotes c.quoteId).isSome) : ∃ ls,
    (consumers.restrict (Starts C)).Run (atRest quotes) ls
      (atRest (quotes.map (Quote.consume c.quoteId c.transferId))) ∧
    .finish 0 c (.ok ()) ∈ ls := by
  obtain ⟨quote, hquote⟩ := Option.isSome_iff_exists.1 hexists
  have hfound : quoteTable.answers quotes (.findUnique c.quoteId) (.ok (some quote)) quotes :=
    congrArg (fun found => some (found, quotes)) hquote
  have hupdated : quoteTable.answers quotes (.update c.quoteId c.transferId) (.ok ())
      (quotes.map (Quote.consume c.quoteId c.transferId)) := if_pos ⟨hexists, hfits⟩
  have hstart : consumers.step (atRest quotes) (.start 0 c)
      ⟨quotes, Function.update (atRest quotes).running 0 (some ⟨c, [], c.program⟩)⟩ := .start rfl
  have hrun : consumers.Run (atRest quotes) _ (atRest (quotes.map (Quote.consume _ _))) :=
    .snoc (.snoc (.snoc (.single hstart) (step_call hfound)) (step_call hupdated))
      (step_finish (r := .ok ()) rfl)
  refine ⟨_, hrun.restrict_of_labels fun l hl pid c' hstarted => ?_, by simp⟩
  subst hstarted
  obtain ⟨-, rfl⟩ : pid = 0 ∧ c' = c := by simpa using hl
  exact hc

end Schedules

/-- **Quotes are used once** by calls that are started at any time, and run side by side in any
order, exactly if those for the quote are for one transfer, which has used it if one has. -/
theorem singleUse_iff (C : Consumption → Prop) (quotes : List Quote) (id : Str) :
    SingleUse (consumers.restrict (Starts C)) quotes id ↔
      ∃ t, Agreed C id t ∧ ∀ t', Quote.consumedBy quotes id = some t' → t' = t := by
  constructor
  · intro h
    obtain ⟨ls, quotes₁, hcreated, hexists, hsame⟩ := run_created C id quotes
    by_cases hcall : ∃ c, C c ∧ c.quoteId = id ∧ Quote.FitsBigInt c.transferId
    · -- The call can be the first one, before any other.
      obtain ⟨c, hc, rfl, hfits⟩ := hcall
      obtain ⟨ls₁, hrun, hfinish⟩ := run_consumed hc hfits hexists
      refine ⟨c.transferId, fun c' hc' hid hfits' => ?_, fun t' ht' => ?_⟩
      · have hexists' : (Quote.findUnique (quotes₁.map (Quote.consume c.quoteId c.transferId))
            c'.quoteId).isSome := by
          rwa [Quote.findUnique_consume, Option.isSome_map, hid]
        obtain ⟨ls₂, hrun', hfinish'⟩ := run_consumed hc' hfits' hexists'
        refine h.accepted _ _ (hcreated.append (hrun.append hrun')) 0 0 _ _ ?_ ?_
        · rw [← hid]
          exact List.mem_append_right _ (List.mem_append_right _ hfinish')
        · exact List.mem_append_right _ (List.mem_append_left _ hfinish)
      · have hkept := h.kept _ _ _ _ t' hcreated hrun (hsame.trans ht')
        exact Option.some.inj (hkept.symm.trans (Quote.consumedBy_consume hexists))
    · have hnone : ∀ t, Agreed C id t := fun t c hc hid hfits => absurd ⟨c, hc, hid, hfits⟩ hcall
      cases hconsumed : Quote.consumedBy quotes id with
      | none => exact ⟨0, hnone 0, fun t' ht' => nomatch ht'⟩
      | some t => exact ⟨t, hnone t, fun t' ht' => (Option.some.inj ht').symm⟩
  · rintro ⟨t, hC, hconsumed⟩
    refine ⟨fun ls s h pid pid' t₁ t₂ h₁ h₂ => ?_, fun ls s₁ ls₁ s t' h h₁ ht' => ?_,
      fun ls s₁ ls₁ s t₁ h h₁ ht₁ pid t₂ h₂ => ?_⟩
    · obtain ⟨hconsistent, hrun⟩ := consistent_of_run hC hconsumed (.nil _) h
      have hconsumed₁ := consumed_of_run hC hconsistent hrun h₁
      exact Option.some.inj (hconsumed₁.symm.trans (consumed_of_run hC hconsistent hrun h₂))
    · obtain ⟨hconsistent, hrun⟩ := consistent_of_run hC hconsumed h h₁
      exact kept_of_run hC hconsistent hrun ht'
    · obtain ⟨hconsistent, hrun⟩ := consistent_of_run hC hconsumed h h₁
      have hkept := kept_of_run hC hconsistent hrun ht₁
      exact Option.some.inj ((consumed_of_run hC hconsistent hrun h₂).symm.trans hkept)

namespace Sample

def unused : ConsumerState := atRest [.fresh (units "q")]

def answerQuery : List Quote → (q : Query) → Except Failure (QueryAnswer q) × List Quote :=
  obey performQuery (.error (units "refused"))

/-- A call after another one that has returned. -/
def oneByOne : List (Turn Consumption) :=
  [.start 1 ⟨units "q", 7⟩, .call 1, .call 1, .finish 1,
    .start 2 ⟨units "q", 8⟩, .call 2, .call 2, .finish 2]

end Sample

/-- A transfer accepts a quote that another one has used. -/
theorem not_singleUse_sample :
    .finish 1 ⟨units "q", 7⟩ (.ok ()) ∈
      trace Consumption.program Sample.answerQuery Sample.unused Sample.oneByOne ∧
    .finish 2 ⟨units "q", 8⟩ (.ok ()) ∈
      trace Consumption.program Sample.answerQuery Sample.unused Sample.oneByOne ∧
    Quote.consumedBy (play Consumption.program Sample.answerQuery Sample.unused
      Sample.oneByOne).world (units "q") = some 8 ∧ ¬ SingleUse consumers [.fresh (units "q")]
      (units "q") := by
  have hfirst : .finish 1 ⟨units "q", 7⟩ (.ok ()) ∈
      trace Consumption.program Sample.answerQuery Sample.unused Sample.oneByOne := by
    refine List.mem_of_getElem? (i := 3) ?_
    rfl
  have hsecond : .finish 2 ⟨units "q", 8⟩ (.ok ()) ∈
      trace Consumption.program Sample.answerQuery Sample.unused Sample.oneByOne := by
    refine List.mem_of_getElem? (i := 7) ?_
    rfl
  refine ⟨hfirst, hsecond, by decide +kernel, fun h => ?_⟩
  have heq := h.accepted _ _ (play_run obey_answers Sample.oneByOne) 1 2 7 8 hfirst hsecond
  exact absurd heq (by decide)

end Quoting

end RemitBridge
