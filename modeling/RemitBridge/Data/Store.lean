import Mathlib.Data.List.AList
import Mathlib.Algebra.Order.BigOperators.Group.List
import Mathlib.Algebra.Order.Ring.Int
import Mathlib.Data.Finsupp.Basic
import Mathlib.Tactic.Abel

/-!
# Key-value stores and their totals

A `Store K V` is a finite map.  Contracts keep one quantity twice, as an aggregate and spread
over the records of a store, so the lemmas here say how the `total` of a store changes when one
entry is written: by the new contribution minus the old one (`total_insert`).
-/

namespace RemitBridge

/-- A finite map with keys `K` and values `V`. -/
abbrev Store (K V : Type) := AList fun _ : K => V

namespace Store

variable {K V M N : Type} [AddCommGroup M] [AddCommGroup N]

/-- The sum of `f` over the entries of the store. -/
def total (f : K → V → M) (s : Store K V) : M := (s.entries.map fun e => f e.1 e.2).sum

@[simp] theorem total_empty (f : K → V → M) : total f (∅ : Store K V) = 0 := rfl

theorem map_total (φ : M →+ N) (f : K → V → M) (s : Store K V) :
    φ (total f s) = total (fun k v => φ (f k v)) s := by
  simp only [total, map_list_sum, List.map_map, Function.comp_def]

theorem total_sub (f g : K → V → M) (s : Store K V) :
    total (fun k v => f k v - g k v) s = total f s - total g s := by
  unfold total
  induction s.entries with
  | nil => simp
  | cons e l ih =>
    rw [List.map_cons, List.map_cons, List.map_cons, List.sum_cons, List.sum_cons,
      List.sum_cons, ih]
    exact sub_add_sub_comm _ _ _ _

/-- The function that `f` reads off a store: zero where there is no entry. -/
noncomputable def amounts (f : V → M) (s : Store K V) : K →₀ M :=
  total (fun k v => Finsupp.single k (f v)) s

@[simp] theorem amounts_empty (f : V → M) : amounts f (∅ : Store K V) = 0 := rfl

/-- The amounts of each group of entries add up to the total over the group. -/
theorem mapDomain_amounts {G : Type} [DecidableEq G] (g : K → G) (f : V → M) (s : Store K V)
    (x : G) : (amounts f s).mapDomain g x = total (fun k v => if g k = x then f v else 0) s := by
  have h := map_total ((Finsupp.applyAddHom x).comp (Finsupp.mapDomain.addMonoidHom g))
    (fun k v => Finsupp.single k (f v)) s
  simpa [Finsupp.mapDomain_single, Finsupp.single_apply, amounts] using h

/-- All amounts together add up to the total. -/
theorem sum_amounts (f : V → M) (s : Store K V) :
    ((amounts f s).sum fun _ x => x) = total (fun _ v => f v) s := by
  have h := map_total (Finsupp.liftAddHom fun _ : K => AddMonoidHom.id M)
    (fun k v => Finsupp.single k (f v)) s
  refine Eq.trans h ?_
  simp only [Finsupp.liftAddHom_apply_single, AddMonoidHom.id_apply]

variable [DecidableEq K]

/-- What the entry at `k` contributes to the total: nothing if there is none. -/
def contribution (f : K → V → M) (s : Store K V) (k : K) : M := (s.lookup k).elim 0 (f k)

@[simp] theorem contribution_of_lookup {f : K → V → M} {s : Store K V} {k : K} {v : V}
    (h : s.lookup k = some v) : contribution f s k = f k v := by
  simp [contribution, h]

@[simp] theorem contribution_of_none {f : K → V → M} {s : Store K V} {k : K}
    (h : s.lookup k = none) : contribution f s k = 0 := by
  simp [contribution, h]

theorem sum_kerase {f : K → V → M} {k : K} {l : List (Sigma fun _ : K => V)} (h : l.NodupKeys) :
    ((l.kerase k).map fun e => f e.1 e.2).sum =
      (l.map fun e => f e.1 e.2).sum - (l.dlookup k).elim 0 (f k) := by
  induction l with
  | nil => simp
  | cons e l ih =>
    obtain ⟨k', v⟩ := e
    obtain ⟨hk, hl⟩ := List.nodupKeys_cons.1 h
    by_cases hkk : k = k'
    · subst hkk
      simp
    · rw [List.kerase_cons_ne hkk, List.dlookup_cons_ne l ⟨k', v⟩ hkk, List.map_cons,
        List.map_cons, List.sum_cons, List.sum_cons, ih hl]
      abel

/-- **Writing one entry** changes the total by the new contribution minus the old one. -/
theorem total_insert (f : K → V → M) (s : Store K V) (k : K) (v : V) :
    total f (s.insert k v) = total f s - contribution f s k + f k v := by
  simp only [total, AList.entries_insert, List.map_cons, List.sum_cons,
    sum_kerase s.nodupKeys, contribution, AList.lookup]
  abel

theorem total_insert_of_none {f : K → V → M} {s : Store K V} {k : K} {v : V}
    (h : s.lookup k = none) : total f (s.insert k v) = total f s + f k v := by
  rw [total_insert, contribution_of_none h, sub_zero]

theorem total_insert_of_lookup {f : K → V → M} {s : Store K V} {k : K} {v v' : V}
    (h : s.lookup k = some v) : total f (s.insert k v') = total f s - f k v + f k v' := by
  rw [total_insert, contribution_of_lookup h]

theorem mem_entries {s : Store K V} {e : Sigma fun _ : K => V} :
    e ∈ s.entries ↔ s.lookup e.1 = some e.2 :=
  (List.mem_dlookup_iff s.nodupKeys).symm

/-- If only the entry at `k` contributes, the total is its contribution. -/
theorem total_eq_contribution {f : K → V → M} {s : Store K V} {k : K}
    (h : ∀ k' v, s.lookup k' = some v → k' ≠ k → f k' v = 0) :
    total f s = contribution f s k := by
  have hrest : total f (s.erase k) = 0 := by
    refine List.sum_eq_zero fun x hx => ?_
    obtain ⟨e, he, rfl⟩ := List.mem_map.1 hx
    rw [mem_entries] at he
    by_cases hk : e.1 = k
    · rw [hk, AList.lookup_erase] at he
      cases he
    · rw [AList.lookup_erase_ne hk] at he
      exact h _ _ he hk
  have herase : total f (s.erase k) = total f s - contribution f s k := sum_kerase s.nodupKeys
  exact sub_eq_zero.1 (herase.symm.trans hrest)

/-! ### Totals of integers -/

section Int

variable {f g : K → V → ℤ} {s : Store K V}

theorem total_nonneg_of_lookup (h : ∀ k v, s.lookup k = some v → 0 ≤ f k v) : 0 ≤ total f s := by
  refine List.sum_nonneg fun x hx => ?_
  obtain ⟨e, he, rfl⟩ := List.mem_map.1 hx
  exact h _ _ (mem_entries.1 he)

theorem le_total {k : K} {v : V} (h : ∀ k v, s.lookup k = some v → 0 ≤ f k v)
    (hk : s.lookup k = some v) : f k v ≤ total f s := by
  refine List.single_le_sum (fun x hx => ?_) _ (List.mem_map.2 ⟨⟨k, v⟩, mem_entries.2 hk, rfl⟩)
  obtain ⟨e, he, rfl⟩ := List.mem_map.1 hx
  exact h _ _ (mem_entries.1 he)

end Int

theorem lookup_insert_ite (s : Store K V) (k k' : K) (v : V) :
    (s.insert k v).lookup k' = if k' = k then some v else s.lookup k' := by
  split_ifs with h
  · rw [h, AList.lookup_insert]
  · exact AList.lookup_insert_ne h

/-! ### Properties of all entries -/

/-- Every entry satisfies `P`. -/
def All (P : K → V → Prop) (s : Store K V) : Prop := ∀ k v, s.lookup k = some v → P k v

theorem all_empty (P : K → V → Prop) : All P ∅ := fun k v h => by simp at h

theorem All.insert {P : K → V → Prop} {s : Store K V} {k : K} {v : V} (h : All P s)
    (hk : P k v) : All P (s.insert k v) := by
  intro k' v' h'
  rw [lookup_insert_ite] at h'
  split_ifs at h' with hkk
  · obtain rfl := Option.some.inj h'
    exact hkk ▸ hk
  · exact h k' v' h'

theorem All.imp {P Q : K → V → Prop} {s : Store K V} (h : All P s) (hPQ : ∀ k v, P k v → Q k v) :
    All Q s :=
  fun k v hk => hPQ k v (h k v hk)

/-! ### The keys of some of the entries -/

section Keys

variable {p : K → V → Prop} [∀ k v, Decidable (p k v)] {s : Store K V}

/-- The keys of the entries that satisfy `p`. -/
def keysWhere (p : K → V → Prop) [∀ k v, Decidable (p k v)] (s : Store K V) : List K :=
  (s.entries.filter fun e => p e.1 e.2).map Sigma.fst

theorem mem_keysWhere {k : K} : k ∈ keysWhere p s ↔ ∃ v, s.lookup k = some v ∧ p k v := by
  simp only [keysWhere, List.mem_map, List.mem_filter, decide_eq_true_eq, mem_entries]
  constructor
  · rintro ⟨e, ⟨he, hp⟩, rfl⟩
    exact ⟨e.2, he, hp⟩
  · rintro ⟨v, hv, hp⟩
    exact ⟨⟨k, v⟩, ⟨hv, hp⟩, rfl⟩

omit [DecidableEq K] in
theorem nodup_keysWhere : (keysWhere p s).Nodup := by
  have hsub : (keysWhere p s).Sublist s.keys := List.filter_sublist.map _
  exact hsub.nodup s.nodupKeys

omit [DecidableEq K] in
/-- Counting the entries that satisfy `p`. -/
theorem total_ite_one :
    total (fun k v => if p k v then (1 : ℤ) else 0) s = (keysWhere p s).length := by
  unfold total keysWhere
  induction s.entries with
  | nil => rfl
  | cons e l ih =>
    rw [List.map_cons, List.sum_cons, ih, List.filter_cons]
    by_cases hp : p e.1 e.2
    · simp [hp, add_comm]
    · simp [hp]

end Keys

/-! ### The amounts in a store -/

theorem contribution_single (f : V → M) (s : Store K V) (k : K) :
    contribution (fun k v => Finsupp.single k (f v)) s k =
      Finsupp.single k (contribution (fun _ v => f v) s k) := by
  unfold contribution
  cases s.lookup k <;> simp

/-- Writing one entry adds the difference to it. -/
theorem amounts_insert (f : V → M) (s : Store K V) (k : K) (v : V) :
    amounts f (s.insert k v) = amounts f s +
      Finsupp.single k (f v - contribution (fun _ v => f v) s k) := by
  rw [amounts, total_insert, contribution_single, Finsupp.single_sub, amounts]
  abel

theorem amounts_apply (f : V → M) (s : Store K V) (k : K) :
    amounts f s k = contribution (fun _ v => f v) s k := by
  induction s using AList.insertRec with
  | H0 => simp [contribution]
  | IH k' v s hk ih =>
    have hnone : s.lookup k' = none := AList.lookup_eq_none.2 hk
    rw [amounts_insert, contribution_of_none hnone, sub_zero, Finsupp.add_apply, ih,
      Finsupp.single_apply, contribution, contribution, lookup_insert_ite]
    by_cases hkk : k = k'
    · subst hkk
      simp [hnone]
    · simp [hkk, Ne.symm hkk]

/-! ### Changing every value -/

section MapValues

variable {K V W : Type}

/-- The store in which `f` is applied to every value. -/
def mapValues (f : V → W) (s : Store K V) : Store K W where
  entries := s.entries.map fun e => ⟨e.1, f e.2⟩
  nodupKeys := by
    have h : (s.entries.map Sigma.fst).Nodup := s.nodupKeys
    simpa [List.NodupKeys, List.keys, List.map_map, Function.comp_def] using h

@[simp] theorem mapValues_empty (f : V → W) : mapValues f (∅ : Store K V) = ∅ := rfl

variable [DecidableEq K]

@[simp] theorem mapValues_insert (f : V → W) (s : Store K V) (k : K) (v : V) :
    mapValues f (s.insert k v) = (mapValues f s).insert k (f v) := by
  refine AList.ext ?_
  simp [mapValues, AList.entries_insert, List.kerase, List.eraseP_map, Function.comp_def]

@[simp] theorem lookup_mapValues (f : V → W) (s : Store K V) (k : K) :
    (mapValues f s).lookup k = (s.lookup k).map f := by
  induction s using AList.insertRec with
  | H0 => rfl
  | IH k' v s hk ih =>
    rw [mapValues_insert, lookup_insert_ite, lookup_insert_ite, ih]
    split_ifs <;> rfl

end MapValues

end Store

end RemitBridge
