import Mathlib.Data.List.Induction
import Mathlib.Tactic.Ring
import RemitBridge.Json.Syntax

/-!
# Decimal numbers as text

The digits of a natural number (`render`) and the number that a string of digits denotes (`value`).
Strings of one length denote different numbers (`eq_of_value`), and a string without a leading zero
is the digits of its number (`render_value`).
-/

namespace RemitBridge

namespace Decimal

open Json (isDigit)

/-- All characters are digits. -/
def Digits (s : Str) : Prop := ∀ c ∈ s, isDigit c = true

instance {s : Str} : Decidable (Digits s) := List.decidableBAll (fun c => isDigit c = true) s

def digitValue (c : UInt16) : ℕ := c.toNat - 48

/-- The number that a string of digits denotes; of an empty one it is zero. -/
def value (s : Str) : ℕ := s.foldl (fun n c => 10 * n + digitValue c) 0

/-- The digits of a number. -/
def render (n : ℕ) : Str := (Nat.toDigits 10 n).map unit

/-- The text of an integer. -/
def renderInt (n : ℤ) : Str := if n < 0 then unit '-' :: render n.natAbs else render n.natAbs

/-- `/^-?\d+$/` matches. -/
def isInteger (s : Str) : Bool :=
  let digits := if s.head? = some (unit '-') then s.tail else s
  !digits.isEmpty && digits.all isDigit

/-- The integer that such a text denotes. -/
def bigInt (s : Str) : ℤ :=
  if s.head? = some (unit '-') then -(value s.tail : ℤ) else value s

/-- A string of digits that does not begin with a zero, unless it is one zero. -/
structure Plain (s : Str) : Prop where
  digits : Digits s
  ne_nil : s ≠ []
  head : s.head? = some (unit '0') → s = units "0"

variable {s t : Str} {c : UInt16} {n k : ℕ}

/-! ### Digits -/

theorem isDigit_iff : isDigit c = true ↔ 48 ≤ c.toNat ∧ c.toNat ≤ 57 := by
  rw [isDigit, Bool.and_eq_true, decide_eq_true_iff, decide_eq_true_iff, UInt16.le_iff_toNat_le,
    UInt16.le_iff_toNat_le]
  rfl

theorem digitValue_lt (h : isDigit c = true) : digitValue c < 10 := by
  rw [isDigit_iff] at h
  rw [digitValue]
  omega

/-- A digit is known by its value. -/
theorem digitValue_inj {d : UInt16} (hc : isDigit c = true) (hd : isDigit d = true)
    (h : digitValue c = digitValue d) : c = d := by
  rw [isDigit_iff] at hc hd
  rw [digitValue, digitValue] at h
  exact UInt16.toNat_inj.1 (by omega)

theorem digitValue_digitChar (h : n < 10) : digitValue (unit n.digitChar) = n := by
  have hchar := Nat.toNat_digitChar_of_lt_ten h
  have hunit : (unit n.digitChar).toNat = n.digitChar.toNat := Nat.mod_eq_of_lt (by omega)
  rw [digitValue, hunit, hchar]
  omega

theorem isDigit_digitChar (h : n < 10) : isDigit (unit n.digitChar) = true := by
  have hchar := Nat.toNat_digitChar_of_lt_ten h
  have hunit : (unit n.digitChar).toNat = n.digitChar.toNat := Nat.mod_eq_of_lt (by omega)
  rw [isDigit_iff, hunit, hchar]
  omega

@[simp] theorem digits_nil : Digits [] := by simp [Digits]

@[simp] theorem digits_cons : Digits (c :: s) ↔ isDigit c = true ∧ Digits s := by simp [Digits]

@[simp] theorem digits_append : Digits (s ++ t) ↔ Digits s ∧ Digits t := by
  simp only [Digits, List.mem_append, or_imp, forall_and]

theorem digits_replicate (k : ℕ) : Digits (List.replicate k (unit '0')) := by
  intro c hc
  rw [List.eq_of_mem_replicate hc]
  rfl

/-! ### Values -/

@[simp] theorem value_nil : value [] = 0 := rfl

theorem value_concat : value (s ++ [c]) = 10 * value s + digitValue c := by
  rw [value, List.foldl_append]
  rfl

theorem value_append : value (s ++ t) = value s * 10 ^ t.length + value t := by
  induction t using List.reverseRecOn with
  | nil => simp
  | append_singleton t c ih =>
    rw [← List.append_assoc, value_concat, ih, value_concat, List.length_append,
      List.length_singleton]
    ring

theorem value_replicate (k : ℕ) : value (List.replicate k (unit '0')) = 0 := by
  induction k with
  | zero => rfl
  | succ k ih =>
    rw [List.replicate_succ', value_concat, ih]
    rfl

theorem value_leftpad : value (s.leftpad k (unit '0')) = value s := by
  rw [List.leftpad, value_append, value_replicate, zero_mul, zero_add]

theorem value_rightpad :
    value (s.rightpad k (unit '0')) = value s * 10 ^ (k - s.length) := by
  rw [List.rightpad, value_append, value_replicate, List.length_replicate, add_zero]

theorem value_lt (h : Digits s) : value s < 10 ^ s.length := by
  induction s using List.reverseRecOn with
  | nil => simp
  | append_singleton s c ih =>
    rw [digits_append, digits_cons] at h
    have hs := ih h.1
    have hc := digitValue_lt h.2.1
    rw [value_concat, List.length_append, List.length_singleton, pow_succ]
    omega

/-- Of strings of one length, each denotes its own number. -/
theorem eq_of_value (hs : Digits s) (ht : Digits t) (hlength : s.length = t.length)
    (h : value s = value t) : s = t := by
  induction s using List.reverseRecOn generalizing t with
  | nil => exact (List.length_eq_zero_iff.1 hlength.symm).symm
  | append_singleton s c ih =>
    rcases List.eq_nil_or_concat t with rfl | ⟨t, d, rfl⟩
    · simp at hlength
    · rw [List.concat_eq_append] at ht hlength h ⊢
      rw [digits_append, digits_cons] at hs ht
      rw [value_concat, value_concat] at h
      have hc := digitValue_lt hs.2.1
      have hd := digitValue_lt ht.2.1
      have hlength' : s.length = t.length := by simpa using hlength
      have hinit := ih hs.1 ht.1 hlength' (by omega)
      have hlast := digitValue_inj hs.2.1 ht.2.1 (by omega)
      rw [hinit, hlast]

/-! ### The digits of a number -/

theorem render_of_lt (h : n < 10) : render n = [unit n.digitChar] := by
  rw [render, Nat.toDigits_of_lt_base h, List.map_singleton]

theorem render_of_le (h : 10 ≤ n) : render n = render (n / 10) ++ [unit (n % 10).digitChar] := by
  rw [render, Nat.toDigits_of_base_le (by decide) h, List.map_append]
  rfl

theorem render_ne_nil (n : ℕ) : render n ≠ [] := by
  rw [render, ne_eq, List.map_eq_nil_iff]
  exact Nat.toDigits_ne_nil

theorem digits_render (n : ℕ) : Digits (render n) := by
  induction n using Nat.strong_induction_on with
  | _ n ih =>
    by_cases h : n < 10
    · rw [render_of_lt h]
      simp [isDigit_digitChar h]
    · have hmod : n % 10 < 10 := Nat.mod_lt n (by decide)
      rw [render_of_le (by omega)]
      simp [ih (n / 10) (by omega), isDigit_digitChar hmod]

@[simp] theorem value_render (n : ℕ) : value (render n) = n := by
  induction n using Nat.strong_induction_on with
  | _ n ih =>
    by_cases h : n < 10
    · rw [render_of_lt h, ← List.nil_append [_], value_concat, digitValue_digitChar h, value_nil]
      omega
    · have hmod : n % 10 < 10 := Nat.mod_lt n (by decide)
      rw [render_of_le (by omega), value_concat, ih (n / 10) (by omega), digitValue_digitChar hmod]
      omega

theorem renderInt_natCast (n : ℕ) : renderInt n = render n := by
  rw [renderInt, if_neg (Int.natCast_nonneg n).not_gt, Int.natAbs_natCast]

theorem length_render_le_iff (hk : 0 < k) : (render n).length ≤ k ↔ n < 10 ^ k := by
  rw [render, List.length_map]
  exact Nat.length_toDigits_le_iff (by decide) hk

/-- A string that begins with another digit than zero denotes a number of its length. -/
theorem le_value (hs : Digits (c :: s)) (hc : c ≠ unit '0') : 10 ^ s.length ≤ value (c :: s) := by
  have hdigit := (digits_cons.1 hs).1
  have hpos : 1 ≤ digitValue c := by
    by_contra hlt
    exact hc (digitValue_inj hdigit rfl (by
      have hzero : digitValue (unit '0') = 0 := rfl
      omega))
  have hvalue : value (c :: s) = digitValue c * 10 ^ s.length + value s := by
    rw [← List.singleton_append, value_append, ← List.nil_append [c], value_concat, value_nil]
    ring
  rw [hvalue]
  exact (Nat.le_mul_of_pos_left _ hpos).trans (Nat.le_add_right _ _)

theorem plain_render (n : ℕ) : Plain (render n) where
  digits := digits_render n
  ne_nil := render_ne_nil n
  head := by
    induction n using Nat.strong_induction_on with
    | _ n ih =>
      by_cases h : n < 10
      · rw [render_of_lt h]
        intro hhead
        have hzero : unit n.digitChar = unit '0' := Option.some.inj hhead
        rw [hzero]
        rfl
      · rw [render_of_le (by omega), List.head?_append_of_ne_nil _ (render_ne_nil _)]
        intro hhead
        -- The number without its last digit would be zero.
        have hinit := congrArg value (ih (n / 10) (by omega) hhead)
        rw [value_render] at hinit
        have hzero : value (units "0") = 0 := rfl
        omega

/-- A string without a leading zero is the digits of the number that it denotes. -/
theorem render_value (h : Plain s) : render (value s) = s := by
  have hlength : ∀ {t u : Str}, Plain t → Plain u → value t = value u → t.length ≤ u.length := by
    intro t u ht hu hvalue
    cases t with
    | nil => exact absurd rfl ht.ne_nil
    | cons c t =>
      by_cases hc : c = unit '0'
      · rw [ht.head (by rw [hc]; rfl)]
        exact List.length_pos_iff.2 hu.ne_nil
      · have hle := le_value ht.digits hc
        have hlt := value_lt hu.digits
        rw [← hvalue] at hlt
        exact (Nat.pow_lt_pow_iff_right (by decide)).1 (hle.trans_lt hlt)
  have hvalue : value (render (value s)) = value s := value_render _
  exact eq_of_value (digits_render _) h.digits
    ((hlength (plain_render _) h hvalue).antisymm (hlength h (plain_render _) hvalue.symm)) hvalue

end Decimal

end RemitBridge
