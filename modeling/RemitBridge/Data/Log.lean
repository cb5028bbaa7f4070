import Mathlib.Data.List.Basic
import Mathlib.Tactic.SplitIfs

/-!
# Logs and their windows

A log is a list of entries in the order of their times.  Who reads a log by asking for the entries
of a period gets a `span` of it; the place of an entry in the answer is its position in the log less
the number of entries `before` the period.

## Main results

* `lt_before_iff` : the entries before a time are the first ones.
* `getElem?_span` : which entry stands at a place of an answer.
* `before_add_length_span` : how many entries a span holds.
* `last_append` : the last value of a kind that the entries give.
-/

namespace RemitBridge

namespace Log

variable {α : Type} (time : α → ℕ)

/-- The entries stand in the order of their times. -/
def Sorted (log : List α) : Prop := log.Pairwise fun a b => time a ≤ time b

/-- The entries from `lo` on and before `hi`. -/
def span (lo hi : ℕ) (log : List α) : List α :=
  log.filter fun a => decide (lo ≤ time a ∧ time a < hi)

/-- How many entries are before `t`. -/
def before (t : ℕ) (log : List α) : ℕ := log.countP fun a => decide (time a < t)

variable {time} {log : List α} {lo hi t : ℕ} {a : α}

@[simp] theorem before_nil : before time t [] = 0 := rfl

theorem before_cons : before time t (a :: log) =
    before time t log + if time a < t then 1 else 0 := by
  simp [before, List.countP_cons]

theorem span_cons : span time lo hi (a :: log) =
    if lo ≤ time a ∧ time a < hi then a :: span time lo hi log else span time lo hi log := by
  simp [span, List.filter_cons]

theorem mem_span : a ∈ span time lo hi log ↔ a ∈ log ∧ lo ≤ time a ∧ time a < hi := by
  simp [span]

/-- The entries before a period and those in it are the ones before its end. -/
theorem before_add_length_span (h : lo ≤ hi) :
    before time lo log + (span time lo hi log).length = before time hi log := by
  induction log with
  | nil => rfl
  | cons a log ih =>
    rw [before_cons, before_cons, span_cons]
    by_cases hin : lo ≤ time a ∧ time a < hi
    · rw [if_pos hin, List.length_cons, if_neg (by omega), if_pos hin.2]
      omega
    · rw [if_neg hin]
      split_ifs <;> omega

theorem span_eq_nil_iff (h : lo ≤ hi) :
    span time lo hi log = [] ↔ before time lo log = before time hi log := by
  have hlength : before time lo log + (span time lo hi log).length = before time hi log :=
    before_add_length_span h
  rw [← List.length_eq_zero_iff]
  omega

/-- No entry lies between two times exactly if both have the same entries before them. -/
theorem span_min_max_eq_nil_iff : span time (min lo hi) (max lo hi) log = [] ↔
    before time lo log = before time hi log := by
  rcases Nat.le_total lo hi with hle | hle
  · rw [Nat.min_eq_left hle, Nat.max_eq_right hle, span_eq_nil_iff hle]
  · rw [Nat.min_eq_right hle, Nat.max_eq_left hle, span_eq_nil_iff hle, eq_comm]

theorem before_max_of_eq (h : before time lo log = before time hi log) :
    before time (max lo hi) log = before time lo log := by
  rcases Nat.le_total lo hi with hle | hle
  · rw [Nat.max_eq_right hle, h]
  · rw [Nat.max_eq_left hle]

theorem before_eq_zero (hs : Sorted time (a :: log)) (ha : ¬ time a < t) :
    before time t log = 0 := by
  rw [before, List.countP_eq_zero]
  intro b hb
  have hle := (List.pairwise_cons.1 hs).1 b hb
  simp only [decide_eq_true_eq]
  omega

/-- The entries before a time are the first ones. -/
theorem lt_before_iff (hs : Sorted time log) {p : ℕ} (hp : log[p]? = some a) :
    p < before time t log ↔ time a < t := by
  induction log generalizing p with
  | nil => simp at hp
  | cons b log ih =>
    obtain ⟨hhead, htail⟩ := List.pairwise_cons.1 hs
    rw [before_cons]
    cases p with
    | zero =>
      obtain rfl : b = a := by simpa using hp
      by_cases hb : time b < t
      · simp [hb]
      · simp [hb, before_eq_zero hs hb]
    | succ p =>
      rw [List.getElem?_cons_succ] at hp
      by_cases hb : time b < t
      · rw [if_pos hb, ← ih htail hp]
        omega
      · -- Nothing after a late entry is early.
        have hle := hhead a (List.mem_of_getElem? hp)
        rw [if_neg hb, before_eq_zero hs hb]
        omega

/-- A span is what is left of the log without what is before it and after it. -/
theorem span_eq (hs : Sorted time log) : span time lo hi log =
    (log.take (before time hi log)).drop (before time lo log) := by
  induction log with
  | nil => rfl
  | cons a log ih =>
    have ih := ih (List.pairwise_cons.1 hs).2
    rw [span_cons, ih, before_cons, before_cons]
    by_cases hhi : time a < hi
    · by_cases hlo : time a < lo
      · simp [hhi, hlo, Nat.not_le.2 hlo]
      · simp [hhi, hlo, Nat.not_lt.1 hlo, before_eq_zero hs hlo]
    · simp [hhi, before_eq_zero hs hhi]

/-- **Places in an answer**: the entry at position `p` of the log stands at the place `p` less the
number of entries before the period. -/
theorem getElem?_span (hs : Sorted time log) {i : ℕ} :
    (span time lo hi log)[i]? = some a ↔
      log[before time lo log + i]? = some a ∧ time a < hi := by
  rw [span_eq hs, List.getElem?_drop, List.getElem?_take]
  constructor
  · intro h
    split_ifs at h with hlt
    exact ⟨h, (lt_before_iff hs h).1 hlt⟩
  · rintro ⟨h, hhi⟩
    rw [if_pos ((lt_before_iff hs h).2 hhi)]
    exact h

theorem before_le_length : before time t log ≤ log.length := List.countP_le_length ..

theorem before_mono (h : lo ≤ hi) : before time lo log ≤ before time hi log := by
  rw [← before_add_length_span h]
  exact Nat.le_add_right ..

/-- When the last entry has been reached, all entries are before it. -/
theorem before_eq_length (h : ∀ a ∈ log, time a < t) : before time t log = log.length :=
  List.countP_eq_length.2 fun a ha => decide_eq_true (h a ha)

/-- What is left of the log without what is before a time. -/
theorem drop_before (hs : Sorted time log) :
    log.drop (before time t log) = log.filter fun a => decide (t ≤ time a) := by
  induction log with
  | nil => rfl
  | cons a log ih =>
    have ih := ih (List.pairwise_cons.1 hs).2
    rw [before_cons, List.filter_cons]
    by_cases ha : time a < t
    · simp [ha, Nat.not_le.2 ha, ih]
    · simp [ha, Nat.not_lt.1 ha, before_eq_zero hs ha, ← ih]

/-! ### Last values -/

section Last

variable {β : Type} {f : α → Option β} {log' : List α} {b : β}

/-- The last value that the entries give. -/
def last (f : α → Option β) (log : List α) : Option β := (log.filterMap f).getLast?

theorem last_nil : last f [] = none := rfl

theorem last_append : last f (log ++ log') = (last f log').or (last f log) := by
  rw [last, List.filterMap_append, List.getLast?_append]
  rfl

theorem last_singleton : last f [a] = f a := by
  cases h : f a with
  | none => rw [last, List.filterMap_cons_none h, List.filterMap_nil, List.getLast?_nil]
  | some b => rw [last, List.filterMap_cons_some h, List.filterMap_nil, List.getLast?_singleton]

theorem last_snoc : last f (log ++ [a]) = (f a).or (last f log) := by
  rw [last_append, last_singleton]

/-- Entries that give nothing do not change the last value. -/
theorem last_append_of_none (h : ∀ a ∈ log', f a = none) : last f (log ++ log') = last f log := by
  rw [last_append, last, List.filterMap_eq_nil_iff.2 h]
  rfl

end Last

end Log

end RemitBridge
