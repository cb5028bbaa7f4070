import RemitBridge.Data.Store
import RemitBridge.Transition.Basic

/-!
# Custody of conditional payments

A custodian keeps a book of records.  A record is made pending, against an amount of some asset
locked with the custodian; later it is settled, once, by paying out that amount.  This file is
the theory of such a book, for any type of records: a `Scheme` says which part of a record is its
unchangeable terms, whether it is pending, and which amount of which asset the terms are about.

## Main results

* `terms_stable` : terms never change, and a settled record never changes at all.
* `paid_eq` : what is ever paid out for a record is nothing while it is pending, and exactly its
  amount afterwards.
* `held_step` : the amount of pending records changes by what is locked minus what is paid out.
-/

namespace RemitBridge

namespace Custody

/-- How to read a record of type `R`, with terms `T` about assets `A`. -/
structure Scheme (R T A : Type) where
  /-- The part fixed when the record is made. -/
  terms : R → T
  /-- The record waits for its settlement. -/
  pending : R → Prop
  /-- What is locked. -/
  amount : T → ℤ
  /-- In which asset. -/
  asset : T → A

/-- The steps of a custodian. -/
inductive Label (Id R : Type) where
  /-- A new record is made, against funds locked. -/
  | lock (id : Id) (r : R)
  /-- A pending record `r` becomes the settled record `r'`, and is paid out. -/
  | settle (id : Id) (r r' : R)
  /-- Something else happens. -/
  | idle

variable {Id R T A : Type} [DecidableEq Id] (K : Scheme R T A)

/-- The book-keeping rules. -/
inductive Step : Store Id R → Label Id R → Store Id R → Prop
  | lock {s : Store Id R} {id : Id} {r : R} : s.lookup id = none → K.pending r →
      Step s (.lock id r) (s.insert id r)
  | settle {s : Store Id R} {id : Id} {r r' : R} : s.lookup id = some r → K.pending r →
      ¬ K.pending r' → K.terms r' = K.terms r → Step s (.settle id r r') (s.insert id r')
  | idle {s : Store Id R} : Step s .idle s

/-- The custodian. -/
def lts : TransitionSystem (Store Id R) (Label Id R) := ⟨Step K⟩

/-- What a step locks of the asset `a`. -/
def locked [DecidableEq A] (a : A) : Label Id R → ℤ
  | .lock _ r => if K.asset (K.terms r) = a then K.amount (K.terms r) else 0
  | _ => 0

/-- What a step pays out of the asset `a`. -/
def released [DecidableEq A] (a : A) : Label Id R → ℤ
  | .settle _ r _ => if K.asset (K.terms r) = a then K.amount (K.terms r) else 0
  | _ => 0

/-- What a step pays out on account of the record `id`. -/
def paid (id : Id) : Label Id R → ℤ
  | .settle id' r _ => if id' = id then K.amount (K.terms r) else 0
  | _ => 0

section Held

variable [DecidableEq A] [DecidablePred K.pending]

/-- The amount of the asset `a` in pending records. -/
def held (a : A) (s : Store Id R) : ℤ :=
  s.total fun _ r => if K.pending r ∧ K.asset (K.terms r) = a then K.amount (K.terms r) else 0

variable {K}

/-- The pending records change by what is locked minus what is paid out. -/
theorem held_step {s s' : Store Id R} {l : Label Id R} (h : Step K s l s') (a : A) :
    held K a s' = held K a s + (locked K a l - released K a l) := by
  cases h with
  | lock hid hp =>
    rw [held, Store.total_insert_of_none hid]
    simp [held, locked, released, hp]
  | settle hid hp hp' ht =>
    rw [held, Store.total_insert_of_lookup hid]
    simp only [held, locked, released, hp, hp', true_and, false_and, if_false]
    omega
  | idle => simp [locked, released]

/-- One pending record is part of what is held. -/
theorem amount_le_held {s : Store Id R} {id : Id} {r : R}
    (hpos : ∀ id r, s.lookup id = some r → 0 ≤ K.amount (K.terms r)) (hid : s.lookup id = some r)
    (hp : K.pending r) : K.amount (K.terms r) ≤ held K (K.asset (K.terms r)) s := by
  refine le_of_eq_of_le ?_ (Store.le_total (fun k v hk => ?_) hid)
  · simp [hp]
  · split_ifs
    · exact hpos k v hk
    · exact le_rfl

end Held

variable {K}

theorem step_stable {s s' : Store Id R} {l : Label Id R} (h : Step K s l s') {id : Id} {r : R}
    (hr : s.lookup id = some r) : ∃ r', s'.lookup id = some r' ∧ K.terms r' = K.terms r ∧
      (¬ K.pending r → r' = r) := by
  cases h with
  | @lock id' r' hid hp =>
    have hne : id ≠ id' := by rintro rfl; simp [hr] at hid
    exact ⟨r, by rw [AList.lookup_insert_ne hne, hr], rfl, fun _ => rfl⟩
  | @settle id' r₀ r' hid hp hp' ht =>
    by_cases hne : id = id'
    · subst hne
      obtain rfl : r₀ = r := Option.some.inj (hid.symm.trans hr)
      exact ⟨r', AList.lookup_insert _, ht, fun h => absurd hp h⟩
    · exact ⟨r, by rw [AList.lookup_insert_ne hne, hr], rfl, fun _ => rfl⟩
  | idle => exact ⟨r, hr, rfl, fun _ => rfl⟩

/-- **Terms never change**, and a settled record never changes at all. -/
theorem terms_stable {s s' : Store Id R} {ls : List (Label Id R)} (h : (lts K).Run s ls s')
    {id : Id} {r : R} (hr : s.lookup id = some r) :
    ∃ r', s'.lookup id = some r' ∧ K.terms r' = K.terms r ∧ (¬ K.pending r → r' = r) := by
  induction h with
  | nil => exact ⟨r, hr, rfl, fun _ => rfl⟩
  | snoc _ hst ih =>
    obtain ⟨r₁, h₁, ht₁, hf₁⟩ := ih
    obtain ⟨r₂, h₂, ht₂, hf₂⟩ := step_stable hst h₁
    refine ⟨r₂, h₂, ht₂.trans ht₁, ?_⟩
    intro hp
    have he := hf₁ hp
    exact (hf₂ (he ▸ hp)).trans he

/-- What must have been paid out for the record `id` so far. -/
def due [DecidablePred K.pending] (s : Store Id R) (id : Id) : ℤ :=
  (s.lookup id).elim 0 fun r => if K.pending r then 0 else K.amount (K.terms r)

theorem due_step [DecidablePred K.pending] {s s' : Store Id R} {l : Label Id R}
    (h : Step K s l s') (id : Id) :
    due (K := K) s' id = due (K := K) s id + paid K id l := by
  cases h with
  | @lock id' r hid hp =>
    by_cases hne : id = id'
    · subst hne; simp [due, paid, hid, hp]
    · simp [due, paid, AList.lookup_insert_ne hne]
  | @settle id' r r' hid hp hp' ht =>
    by_cases hne : id = id'
    · subst hne; simp [due, paid, hid, hp, hp', ht]
    · simp [due, paid, AList.lookup_insert_ne hne, Ne.symm hne]
  | idle => simp [paid]

/-- **Every record is paid once**: nothing while it is pending, exactly its amount afterwards. -/
theorem paid_eq [DecidablePred K.pending] {s : Store Id R} {ls : List (Label Id R)}
    (h : (lts K).Run ∅ ls s) (id : Id) :
    (ls.map (paid K id)).sum = due (K := K) s id := by
  have := h.eq_add_sum (I := fun _ => True) trivial (fun _ _ _ _ _ => trivial)
    (fun _ _ _ _ hst => due_step hst id)
  rw [this]
  simp [due]

end Custody

end RemitBridge
