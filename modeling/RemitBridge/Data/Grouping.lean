import RemitBridge.Data.Decimal
import RemitBridge.Json.Ascii

/-!
# Separators between groups of three digits

`separate` puts a comma wherever the regular expression `\B(?=(\d{3})+(?!\d))` matches.  In a string
of digits these are the places that a multiple of three digits follows, apart from the start
(`separate_digits`).
-/

namespace RemitBridge

namespace Grouping

open Ascii Decimal

open Json (isDigit)

def comma : UInt16 := unit ','

/-- What `\w` matches. -/
def isWord (c : UInt16) : Bool := isDigit c || isUpper c || isLower c || c == unit '_'

/-- `(\d{3})+(?!\d)` matches here. -/
def triples : Str → Bool
  | a :: b :: c :: s =>
    isDigit a && isDigit b && isDigit c && (!(s.head?.any isDigit) || triples s)
  | _ => false

/-- `\B` matches between two characters. -/
def inside (before : Option UInt16) (after : UInt16) : Bool := before.any isWord == isWord after

/-- Put a comma before every match in what follows the character `before`. -/
def separateAfter (before : Option UInt16) : Str → Str
  | [] => []
  | c :: s =>
    let rest := c :: separateAfter (some c) s
    if inside before c && triples (c :: s) then comma :: rest else rest

def separate (s : Str) : Str := separateAfter none s

variable {s t head : Str} {c d : UInt16} {groups : List Str}

/-! ### Strings of digits -/

theorem isWord_of_isDigit (h : isDigit c = true) : isWord c = true := by
  simp [isWord, h]

/-- In a string of digits, the groups reach to the end. -/
theorem triples_iff (h : Digits s) : triples s = true ↔ s ≠ [] ∧ 3 ∣ s.length := by
  fun_induction triples s with
  | case1 a b c s ih =>
    simp only [digits_cons] at h
    obtain ⟨ha, hb, hc, hs⟩ := h
    have hlength : 3 ∣ (a :: b :: c :: s).length ↔ 3 ∣ s.length := by
      rw [List.length_cons, List.length_cons, List.length_cons]
      omega
    rw [hlength, ha, hb, hc]
    cases s with
    | nil => simp
    | cons d s =>
      have hd : isDigit d = true := (digits_cons.1 hs).1
      simp [hd, ih hs]
  | case2 s hshort =>
    refine iff_of_false Bool.false_ne_true fun hboth => ?_
    obtain ⟨hne, hdvd⟩ := hboth
    rcases s with _ | ⟨a, _ | ⟨b, _ | ⟨c, s⟩⟩⟩
    · exact hne rfl
    · simp at hdvd
    · simp at hdvd
    · exact hshort a b c s rfl

/-- Between digits, a comma stands before a multiple of three of them. -/
theorem separateAfter_cons (hd : isDigit d = true) (h : Digits (c :: s)) :
    separateAfter (some d) (c :: s) =
      if 3 ∣ (c :: s).length then comma :: c :: separateAfter (some c) s
      else c :: separateAfter (some c) s := by
  have hinside : inside (some d) c = true := by
    simp [inside, isWord_of_isDigit hd, isWord_of_isDigit (digits_cons.1 h).1]
  have htriples : triples (c :: s) = decide (3 ∣ (c :: s).length) := by
    rw [Bool.eq_iff_iff, triples_iff h, decide_eq_true_iff]
    simp
  simp only [separateAfter, hinside, htriples, Bool.true_and, decide_eq_true_eq]

theorem dvd_length_flatten (h : ∀ g ∈ groups, g.length = 3) : 3 ∣ groups.flatten.length := by
  induction groups with
  | nil => simp
  | cons g groups ih =>
    have hg : g.length = 3 := h g List.mem_cons_self
    have hrest := ih fun g hg => h g (List.mem_cons_of_mem _ hg)
    rw [List.flatten_cons, List.length_append]
    omega

/-- Whole groups are set off, each from what comes before it. -/
theorem separateAfter_groups (hd : isDigit d = true) (hgroups : ∀ g ∈ groups, g.length = 3)
    (h : Digits groups.flatten) :
    separateAfter (some d) groups.flatten = groups.flatMap fun g => comma :: g := by
  induction groups generalizing d with
  | nil => rfl
  | cons g groups ih =>
    have hlength := dvd_length_flatten fun g hg => hgroups g (List.mem_cons_of_mem _ hg)
    obtain ⟨a, b, c, rfl⟩ := List.length_eq_three.1 (hgroups g List.mem_cons_self)
    rw [List.flatten_cons, List.cons_append, List.cons_append, List.cons_append,
      List.nil_append] at h ⊢
    have hrest := h
    simp only [digits_cons] at hrest
    obtain ⟨ha, hb, hc, hflatten⟩ := hrest
    rw [separateAfter_cons hd h, if_pos (by simp only [List.length_cons]; omega),
      separateAfter_cons ha (digits_cons.1 h).2, if_neg (by simp only [List.length_cons]; omega),
      separateAfter_cons hb (by simp [hc, hflatten]),
      if_neg (by simp only [List.length_cons]; omega),
      ih hc (fun g hg => hgroups g (List.mem_cons_of_mem _ hg)) hflatten]
    rfl

theorem intercalate_comma : List.intercalate [comma] (head :: groups) =
    head ++ groups.flatMap fun g => comma :: g := by
  induction groups generalizing head with
  | nil => simp
  | cons g groups ih =>
    rw [List.intercalate_cons_cons, ih]
    simp

/-- One or two digits before the first comma. -/
theorem separateAfter_append (hd : isDigit d = true) (hshort : t.length ≤ 2)
    (hgroups : ∀ g ∈ groups, g.length = 3) (h : Digits (t ++ groups.flatten)) :
    separateAfter (some d) (t ++ groups.flatten) = t ++ groups.flatMap fun g => comma :: g := by
  have hlength := dvd_length_flatten hgroups
  induction t generalizing d with
  | nil => exact separateAfter_groups hd hgroups h
  | cons c t ih =>
    rw [List.cons_append] at h ⊢
    rw [List.length_cons] at hshort
    rw [separateAfter_cons hd h, if_neg, ih (digits_cons.1 h).1 (by omega) (digits_cons.1 h).2]
    · rfl
    · rw [List.length_cons, List.length_append]
      omega

/-- At the start there is no comma, and the first group may be short. -/
theorem separate_append (hhead : head ≠ []) (hshort : head.length ≤ 3)
    (hgroups : ∀ g ∈ groups, g.length = 3) (h : Digits (head ++ groups.flatten)) :
    separate (head ++ groups.flatten) = List.intercalate [comma] (head :: groups) := by
  cases head with
  | nil => exact absurd rfl hhead
  | cons c t =>
    rw [List.cons_append] at h ⊢
    have hc : isDigit c = true := (digits_cons.1 h).1
    have hstart : inside none c = false := by simp [inside, isWord_of_isDigit hc]
    rw [List.length_cons] at hshort
    simp only [separate, separateAfter, hstart, Bool.false_and, Bool.false_eq_true, if_false]
    rw [separateAfter_append hc (by omega) hgroups (digits_cons.1 h).2, intercalate_comma,
      List.cons_append]

/-- Every string can be cut into groups of three from the right. -/
theorem exists_groups (h : s ≠ []) :
    ∃ (head : Str) (groups : List Str), s = head ++ groups.flatten ∧
    head ≠ [] ∧ head.length ≤ 3 ∧ ∀ g ∈ groups, g.length = 3 := by
  induction hn : s.length using Nat.strong_induction_on generalizing s with
  | _ n ih =>
    by_cases hshort : n ≤ 3
    · exact ⟨s, [], by simp, h, by omega, by simp⟩
    · have hinit : (s.take (n - 3)).length = n - 3 := by
        rw [List.length_take]
        omega
      have hne : s.take (n - 3) ≠ [] := List.ne_nil_of_length_pos (by omega)
      obtain ⟨head, groups, hs, hhead, hle, hgroups⟩ := ih (n - 3) (by omega) hne hinit
      refine ⟨head, groups ++ [s.drop (n - 3)], ?_, hhead, hle, fun g hg => ?_⟩
      · rw [List.flatten_append, List.flatten_singleton, ← List.append_assoc, ← hs,
          List.take_append_drop]
      · rcases List.mem_append.1 hg with hg | hg
        · exact hgroups g hg
        · rw [List.mem_singleton.1 hg, List.length_drop]
          omega

/-- **Grouping.**  In a string of digits, commas separate groups of three from the right. -/
theorem separate_digits (hne : s ≠ []) (h : Digits s) : ∃ (head : Str) (groups : List Str),
    s = head ++ groups.flatten ∧ separate s = List.intercalate [comma] (head :: groups) ∧
    head ≠ [] ∧ head.length ≤ 3 ∧ ∀ g ∈ groups, g.length = 3 := by
  obtain ⟨head, groups, rfl, hhead, hshort, hgroups⟩ := exists_groups hne
  exact ⟨head, groups, rfl, separate_append hhead hshort hgroups h, hhead, hshort, hgroups⟩

example : separate (units "1234567") = units "1,234,567" := by decide

/-! ### Without the commas -/

/-- The text without its commas. -/
def unseparated (s : Str) : Str := s.filter fun c => c != comma

@[simp] theorem unseparated_append : unseparated (s ++ t) = unseparated s ++ unseparated t :=
  List.filter_append ..

theorem unseparated_of_not_mem (h : comma ∉ s) : unseparated s = s := by
  refine List.filter_eq_self.2 fun c hc => bne_iff_ne.2 ?_
  rintro rfl
  exact h hc

/-- Wherever the commas are put, they can be taken out again. -/
theorem unseparated_separate (h : comma ∉ s) : unseparated (separate s) = s := by
  have hafter : ∀ (before : Option UInt16) (s : Str), comma ∉ s →
      unseparated (separateAfter before s) = s := by
    intro before s h
    induction s generalizing before with
    | nil => rfl
    | cons c s ih =>
      rw [List.mem_cons, not_or] at h
      have hc : (c != comma) = true := bne_iff_ne.2 (Ne.symm h.1)
      have hs : List.filter (fun c => c != comma) (separateAfter (some c) s) = s := ih (some c) h.2
      rw [separateAfter]
      split_ifs
      · simp [unseparated, hc, hs]
      · simp [unseparated, hc, hs]
  exact hafter none s h

theorem comma_not_mem (h : Digits s) : comma ∉ s := by
  intro hmem
  have hcomma := h comma hmem
  cases hcomma

end Grouping

end RemitBridge
