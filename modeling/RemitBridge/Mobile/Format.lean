import Mathlib.Tactic.FieldSimp
import Mathlib.Tactic.Linarith
import Mathlib.Tactic.Positivity
import RemitBridge.Data.Grouping
import RemitBridge.Money.RoundTrip

/-!
# Amounts in the app

`formatAmount` shows an amount in units, with separators and some of the decimals.  What it shows is
the amount, cut off and not rounded (`shows_formatAmount`).
-/

namespace RemitBridge

namespace Mobile

open Decimal Grouping Money

open Json (isDigit)

/-! ### The app -/

def group (digits : Str) : Str := separate digits

def formatAmount (value : Option Str) (decimals : ℕ := 2) : Str :=
  match value with
  | none => units "—"
  | some value =>
    if value = [] then units "—"
    else if isInteger value = false then value
    else
      let total := bigInt value
      let negative := total < 0
      let absolute := if negative then -total else total
      let whole := absolute.tdiv stroopsPerUnit
      let fraction := (renderInt (absolute.tmod stroopsPerUnit)).leftpad 7 (unit '0')
      (if negative then units "-" else []) ++ group (renderInt whole) ++
        (if decimals > 0 then unit '.' :: fraction.take decimals else [])

/-! ### What is shown -/

/-- The sign of an amount. -/
def sign (total : ℤ) : Str := if total < 0 then units "-" else []

/-- The whole units of an amount. -/
def wholeUnits (total : ℤ) : Str := render (total.natAbs / stroopsPerUnit)

/-- The seven digits after the point. -/
def fractionDigits (total : ℤ) : Str :=
  (render (total.natAbs % stroopsPerUnit)).leftpad 7 (unit '0')

/-- The text shows the amount, up to a number of decimals. -/
structure Shows (total : ℤ) (decimals : ℕ) (text : Str) : Prop where
  /-- Without its commas it is the first digits of the amount. -/
  digits : unseparated text =
    sign total ++ compose (wholeUnits total) ((fractionDigits total).take decimals)
  /-- What is left out is less than one of the last decimal. -/
  magnitude : ∃ shown : ℚ, number ((unseparated text).drop (sign total).length) = some shown ∧
    shown ≤ (total.natAbs : ℚ) / stroopsPerUnit ∧
    (total.natAbs : ℚ) / stroopsPerUnit - shown < 1 / 10 ^ decimals
  /-- The commas separate groups of three, from the right. -/
  grouped : ∃ (head : Str) (groups : List Str) (rest : Str),
    text = sign total ++ List.intercalate [comma] (head :: groups) ++ rest ∧
    head ++ groups.flatten = wholeUnits total ∧ head ≠ [] ∧ head.length ≤ 3 ∧
    (∀ g ∈ groups, g.length = 3) ∧ comma ∉ rest

variable {s : Str} {total : ℤ} {decimals : ℕ}

/-- The point and the decimals, if there are any. -/
def decimalPart (total : ℤ) (decimals : ℕ) : Str :=
  if decimals > 0 then unit '.' :: (fractionDigits total).take decimals else []

theorem formatAmount_eq (hs : isInteger s = true) : formatAmount (some s) decimals =
    sign (bigInt s) ++ separate (wholeUnits (bigInt s)) ++ decimalPart (bigInt s) decimals := by
  have hne : s ≠ [] := by
    rintro rfl
    cases hs
  have habsolute : (if bigInt s < 0 then -bigInt s else bigInt s) = ((bigInt s).natAbs : ℤ) := by
    split_ifs <;> omega
  simp only [formatAmount, hs, if_neg hne, Bool.true_eq_false, if_false, habsolute]
  rw [← Int.ofNat_tdiv, ← Int.ofNat_tmod, renderInt_natCast, renderInt_natCast]
  rfl

/-! ### The decimals -/

theorem length_fractionDigits (total : ℤ) : (fractionDigits total).length = 7 := length_padded _

theorem digits_fractionDigits (total : ℤ) : Digits (fractionDigits total) := by
  rw [fractionDigits, List.leftpad, digits_append]
  exact ⟨digits_replicate _, digits_render _⟩

theorem value_fractionDigits (total : ℤ) :
    value (fractionDigits total) = total.natAbs % stroopsPerUnit := by
  rw [fractionDigits, value_leftpad, value_render]

theorem digits_take {n : ℕ} (h : Digits s) : Digits (s.take n) :=
  fun c hc => h c (List.mem_of_mem_take hc)

theorem digits_drop {n : ℕ} (h : Digits s) : Digits (s.drop n) :=
  fun c hc => h c (List.mem_of_mem_drop hc)

theorem decimalPart_eq (hdecimals : decimals ≤ 7) (whole : Str) :
    whole ++ decimalPart total decimals = compose whole ((fractionDigits total).take decimals) := by
  rw [decimalPart, compose]
  by_cases hzero : decimals = 0
  · subst hzero
    simp
  · have hne : (fractionDigits total).take decimals ≠ [] := by
      refine List.ne_nil_of_length_pos ?_
      rw [List.length_take, length_fractionDigits]
      omega
    rw [if_pos (Nat.pos_of_ne_zero hzero), if_neg hne]

theorem comma_not_mem_decimalPart : comma ∉ decimalPart total decimals := by
  rw [decimalPart]
  split_ifs
  · rw [List.mem_cons, not_or]
    exact ⟨by decide, comma_not_mem (digits_take (digits_fractionDigits total))⟩
  · exact List.not_mem_nil

/-- What the first decimals leave out is less than one of the last of them. -/
theorem take_bounds (total : ℤ) (decimals : ℕ) :
    value ((fractionDigits total).take decimals) * 10 ^ (7 - decimals) ≤
      total.natAbs % stroopsPerUnit ∧
    total.natAbs % stroopsPerUnit <
      (value ((fractionDigits total).take decimals) + 1) * 10 ^ (7 - decimals) := by
  have hlength : ((fractionDigits total).drop decimals).length = 7 - decimals := by
    rw [List.length_drop, length_fractionDigits]
  have hvalue : value ((fractionDigits total).take decimals) * 10 ^ (7 - decimals) +
      value ((fractionDigits total).drop decimals) = total.natAbs % stroopsPerUnit := by
    rw [← value_fractionDigits, ← hlength, ← value_append, List.take_append_drop]
  have hrest := value_lt (digits_drop (n := decimals) (digits_fractionDigits total))
  rw [hlength] at hrest
  rw [add_mul, one_mul]
  omega

theorem magnitude_bounds (total : ℤ) (hdecimals : decimals ≤ 7) {shown : ℚ}
    (hshown : shown = (total.natAbs / stroopsPerUnit : ℕ) +
      value ((fractionDigits total).take decimals) / 10 ^ decimals) :
    shown ≤ (total.natAbs : ℚ) / stroopsPerUnit ∧
    (total.natAbs : ℚ) / stroopsPerUnit - shown < 1 / 10 ^ decimals := by
  obtain ⟨hle, hlt⟩ := take_bounds total decimals
  generalize value ((fractionDigits total).take decimals) = taken at hle hlt hshown
  have hscale : (stroopsPerUnit : ℚ) = 10 ^ decimals * 10 ^ (7 - decimals) := by
    rw [← pow_add, Nat.add_sub_cancel' hdecimals, stroopsPerUnit]
    norm_num
  have hpos : (0 : ℚ) < stroopsPerUnit := by
    rw [hscale]
    positivity
  -- Both parts over the same denominator.
  have htotal : (total.natAbs : ℚ) / stroopsPerUnit =
      (total.natAbs / stroopsPerUnit : ℕ) + (total.natAbs % stroopsPerUnit : ℕ) /
        stroopsPerUnit := by
    have hdivmod := Nat.div_add_mod total.natAbs stroopsPerUnit
    have hcast : (stroopsPerUnit : ℚ) * (total.natAbs / stroopsPerUnit : ℕ) +
        (total.natAbs % stroopsPerUnit : ℕ) = total.natAbs := by exact_mod_cast hdivmod
    rw [← hcast, add_div, mul_div_cancel_left₀ _ hpos.ne']
  have htaken : (taken : ℚ) / 10 ^ decimals = taken * 10 ^ (7 - decimals) / stroopsPerUnit := by
    rw [hscale]
    field_simp
  have hone : (1 : ℚ) / 10 ^ decimals = 10 ^ (7 - decimals) / stroopsPerUnit := by
    rw [hscale]
    field_simp
  have hle' : (taken : ℚ) * 10 ^ (7 - decimals) ≤ (total.natAbs % stroopsPerUnit : ℕ) := by
    exact_mod_cast hle
  have hlt' : ((total.natAbs % stroopsPerUnit : ℕ) : ℚ) < (taken + 1) * 10 ^ (7 - decimals) := by
    exact_mod_cast hlt
  rw [hshown, htotal, htaken, hone]
  constructor
  · exact add_le_add_right (div_le_div_of_nonneg_right hle' hpos.le) _
  · rw [add_sub_add_left_eq_sub, ← sub_div]
    exact div_lt_div_of_pos_right (by linarith) hpos

/-! ### The text -/

theorem unseparated_sign : unseparated (sign total) = sign total := by
  rw [sign]
  split_ifs <;> rfl

/-- The number that is read off the whole part and the decimals. -/
theorem number_compose {whole fraction : Str} (hwhole : Digits whole) (hne : whole ≠ [])
    (hfraction : Digits fraction) : number (compose whole fraction) =
      some ((value whole : ℚ) + value fraction / 10 ^ fraction.length) := by
  rw [number, trim_compose hwhole hne hfraction,
    matchDecimal_eq_some.2 ⟨rfl, hwhole, hne, hfraction⟩]
  rfl

/-- **Amounts are shown as they are**, up to the decimals that are left out. -/
theorem shows_formatAmount (hs : isInteger s = true) (hdecimals : decimals ≤ 7) :
    Shows (bigInt s) decimals (formatAmount (some s) decimals) := by
  rw [formatAmount_eq hs]
  generalize bigInt s = total
  have hwhole : Digits (wholeUnits total) := digits_render _
  have hne : wholeUnits total ≠ [] := render_ne_nil _
  have hdigits :
      unseparated (sign total ++ separate (wholeUnits total) ++ decimalPart total decimals) =
      sign total ++ compose (wholeUnits total) ((fractionDigits total).take decimals) := by
    have hpart : unseparated (decimalPart total decimals) = decimalPart total decimals :=
      unseparated_of_not_mem comma_not_mem_decimalPart
    rw [unseparated_append, unseparated_append, unseparated_sign,
      unseparated_separate (comma_not_mem hwhole), hpart, List.append_assoc,
      decimalPart_eq hdecimals]
  refine ⟨hdigits, ?_, ?_⟩
  · rw [hdigits, List.drop_left,
      number_compose hwhole hne (digits_take (digits_fractionDigits total))]
    refine ⟨_, rfl, magnitude_bounds total hdecimals ?_⟩
    rw [List.length_take, length_fractionDigits, min_eq_left hdecimals, wholeUnits, value_render]
  · obtain ⟨head, groups, hcut, hseparate, hhead, hshort, hgroups⟩ := separate_digits hne hwhole
    exact ⟨head, groups, _, by rw [hseparate], hcut.symm, hhead, hshort, hgroups,
      comma_not_mem_decimalPart⟩

end Mobile

end RemitBridge
