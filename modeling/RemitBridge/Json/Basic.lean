import Mathlib.Data.List.Nodup
import Mathlib.Tactic.Common

/-!
# JSON values

JSON values as a script sees them: strings are lists of UTF-16 code units, which need not pair up;
objects have one member for each of their keys; numbers are of any type that comes with a way to
read and write their literals (`NumberFormat`).

The members of an object are kept in the order in which their keys were first set.  Nothing here
depends on the order.
-/

namespace RemitBridge

/-- A string of code units. -/
abbrev Str := List UInt16

/-- A JSON value with numbers in `N`. -/
inductive Json (N : Type) where
  | null
  | bool (b : Bool)
  | num (x : N)
  | str (s : Str)
  | arr (items : List (Json N))
  | obj (members : List (Str × Json N))

/-- The members of an object. -/
abbrev Members (N : Type) := List (Str × Json N)

/-- How numbers are read and written. -/
structure NumberFormat (N : Type) where
  ofLiteral : Str → N
  toLiteral : N → Str
  /-- The numbers that have a literal. -/
  finite : N → Bool
  /-- The number without its sign, if it is zero. -/
  unsigned : N → N

variable {N : Type}

namespace Json

/-- To prove something of all values, prove it of arrays and objects of values that have it. -/
theorem induct {P : Json N → Prop} (null : P .null) (bool : ∀ b, P (.bool b))
    (num : ∀ x, P (.num x))
    (str : ∀ s, P (.str s)) (arr : ∀ items, (∀ v ∈ items, P v) → P (.arr items))
    (obj : ∀ members : Members N, (∀ m ∈ members, P m.2) → P (.obj members)) (v : Json N) :
    P v := by
  refine Json.rec (motive_1 := P) (motive_2 := fun items => ∀ v ∈ items, P v)
    (motive_3 := fun members => ∀ m ∈ members, P m.2) (motive_4 := fun m => P m.2) null bool num str
    arr obj ?_ ?_ ?_ ?_ (fun _ _ h => h) v
  · exact fun v hv => absurd hv List.not_mem_nil
  · exact fun v items hv hitems => List.forall_mem_cons.2 ⟨hv, hitems⟩
  · exact fun m hm => absurd hm List.not_mem_nil
  · exact fun m members hm hmembers => List.forall_mem_cons.2 ⟨hm, hmembers⟩

end Json

/-! ### Members -/

namespace Members

variable {members : Members N} {key key' : Str} {v : Json N}

/-- The value of a key. -/
def lookup (members : Members N) (key : Str) : Option (Json N) :=
  (members.find? fun m => m.1 = key).map Prod.snd

/-- Set the value of a key. -/
def set (members : Members N) (key : Str) (v : Json N) : Members N :=
  if key ∈ members.map Prod.fst then members.map fun m => if m.1 = key then (key, v) else m
  else members ++ [(key, v)]

/-- Delete a key. -/
def delete (members : Members N) (key : Str) : Members N := members.filter fun m => m.1 ≠ key

/-- The keys are different. -/
def Unique (members : Members N) : Prop := (members.map Prod.fst).Nodup

@[simp] theorem lookup_nil : lookup ([] : Members N) key = none := rfl

@[simp] theorem lookup_cons {m : Str × Json N} :
    lookup (m :: members) key = if m.1 = key then some m.2 else lookup members key := by
  rw [lookup, List.find?_cons]
  by_cases h : m.1 = key <;> simp [h, lookup]

theorem lookup_set : lookup (set members key v) key' =
    if key' = key then some v else lookup members key' := by
  have hmap : ∀ ms : Members N, key ∈ ms.map Prod.fst →
      lookup (ms.map fun m => if m.1 = key then (key, v) else m) key' =
        if key' = key then some v else lookup ms key' := by
    intro ms
    induction ms with
    | nil => exact fun h => absurd h List.not_mem_nil
    | cons m ms ih =>
      intro hmem
      rw [List.map_cons, lookup_cons, lookup_cons]
      by_cases hm : m.1 = key
      · by_cases hk : key' = key
        · simp [hm, hk]
        · have hne : ¬ key = key' := fun h => hk h.symm
          by_cases hrest : key ∈ ms.map Prod.fst
          · simp [hm, hne, ih hrest, hk]
          -- The key does not come again, so the rest stays as it is.
          · have hid : (ms.map fun m => if m.1 = key then (key, v) else m) = ms := by
              refine (List.map_congr_left fun m' hm' => ?_).trans (List.map_id _)
              exact if_neg fun h => hrest (List.mem_map.2 ⟨m', hm', h⟩)
            simp [hm, hne, hid, hk]
      -- The key comes later in the list.
      · have hrest : key ∈ ms.map Prod.fst := by
          rcases List.mem_cons.1 hmem with h | h
          · exact absurd h.symm hm
          · exact h
        rw [if_neg hm, ih hrest]
        by_cases hk : key' = key
        · rw [if_pos hk, if_pos hk, if_neg (fun h => hm (h.trans hk))]
        · rw [if_neg hk, if_neg hk]
  rw [set]
  by_cases h : key ∈ members.map Prod.fst
  · rw [if_pos h, hmap members h]
  · rw [if_neg h]
    induction members with
    | nil => simp [eq_comm]
    | cons m ms ih =>
      rw [List.map_cons, List.mem_cons, not_or] at h
      rw [List.cons_append, lookup_cons, lookup_cons, ih h.2]
      by_cases hk : key' = key
      · rw [if_pos hk, if_pos hk, if_neg (fun h' => h.1 (hk.symm.trans h'.symm))]
      · rw [if_neg hk, if_neg hk]

theorem lookup_delete : lookup (delete members key) key' =
    if key' = key then none else lookup members key' := by
  induction members with
  | nil => simp [delete]
  | cons m ms ih =>
    rw [delete, List.filter_cons, lookup_cons]
    by_cases hm : m.1 = key
    · rw [if_neg (by simpa using hm)]
      rw [← delete, ih]
      by_cases hk : key' = key
      · rw [if_pos hk, if_pos hk]
      · rw [if_neg hk, if_neg hk, if_neg fun h => hk (h.symm.trans hm)]
    · rw [if_pos (by simpa using hm), lookup_cons, ← delete, ih]
      by_cases hk : key' = key
      · rw [if_pos hk, if_pos hk, if_neg fun h => hm (h.trans hk)]
      · rw [if_neg hk, if_neg hk]

theorem mem_of_lookup (h : lookup members key = some v) : (key, v) ∈ members := by
  rw [lookup, Option.map_eq_some_iff] at h
  obtain ⟨m, hfind, rfl⟩ := h
  have hkey : m.1 = key := by simpa using List.find?_some hfind
  exact hkey ▸ List.mem_of_find?_eq_some hfind

/-! ### Unique keys -/

theorem unique_nil : Unique ([] : Members N) := List.nodup_nil

theorem lookup_of_mem (h : Unique members) (hmem : (key, v) ∈ members) :
    lookup members key = some v := by
  induction members with
  | nil => exact absurd hmem List.not_mem_nil
  | cons m ms ih =>
    obtain ⟨hnot, hms⟩ := List.nodup_cons.1 h
    rcases List.mem_cons.1 hmem with rfl | hmem
    · rw [lookup_cons, if_pos rfl]
    · have hkey : m.1 ≠ key := by
        intro heq
        exact hnot (List.mem_map.2 ⟨(key, v), hmem, heq.symm⟩)
      rw [lookup_cons, if_neg hkey, ih hms hmem]

theorem keys_set : (set members key v).map Prod.fst =
    if key ∈ members.map Prod.fst then members.map Prod.fst else members.map Prod.fst ++ [key] := by
  rw [set]
  by_cases h : key ∈ members.map Prod.fst
  · rw [if_pos h, if_pos h, List.map_map]
    refine List.map_congr_left fun m _ => ?_
    by_cases hm : m.1 = key
    · exact (congrArg Prod.fst (if_pos hm)).trans hm.symm
    · exact congrArg Prod.fst (if_neg hm)
  · rw [if_neg h, if_neg h, List.map_append]
    rfl

theorem Unique.set (h : Unique members) : Unique (members.set key v) := by
  rw [Unique, keys_set]
  by_cases hmem : key ∈ members.map Prod.fst
  · rw [if_pos hmem]
    exact h
  · rw [if_neg hmem]
    refine List.nodup_append.2 ⟨h, List.nodup_singleton _, fun a ha b hb => ?_⟩
    rw [List.mem_singleton.1 hb]
    exact fun heq => hmem (heq ▸ ha)

theorem Unique.delete (h : Unique members) : Unique (members.delete key) :=
  List.Nodup.sublist (List.Sublist.map _ List.filter_sublist) h

/-- Setting a key leaves the members with other keys, and one with this key. -/
theorem mem_set {m : Str × Json N} :
    m ∈ set members key v ↔ m = (key, v) ∨ (m ∈ members ∧ m.1 ≠ key) := by
  rw [set]
  split_ifs with hmem
  · rw [List.mem_map]
    constructor
    · rintro ⟨m', hm', rfl⟩
      by_cases hkey : m'.1 = key
      · exact .inl (if_pos hkey)
      · rw [if_neg hkey]
        exact .inr ⟨hm', hkey⟩
    · rintro (rfl | ⟨hm, hkey⟩)
      · obtain ⟨m', hm', hkey⟩ := List.mem_map.1 hmem
        exact ⟨m', hm', if_pos hkey⟩
      · exact ⟨m, hm, if_neg hkey⟩
  · rw [List.mem_append, List.mem_singleton]
    constructor
    · rintro (hm | rfl)
      · exact .inr ⟨hm, fun hkey => hmem (List.mem_map.2 ⟨m, hm, hkey⟩)⟩
      · exact .inl rfl
    · rintro (rfl | ⟨hm, -⟩)
      · exact .inr rfl
      · exact .inl hm

theorem mem_of_mem_set {m : Str × Json N} (h : m ∈ set members key v) :
    m = (key, v) ∨ m ∈ members := (mem_set.1 h).imp_right And.left

theorem mem_of_mem_delete {m : Str × Json N} (h : m ∈ delete members key) : m ∈ members :=
  List.mem_of_mem_filter h

end Members

end RemitBridge
