import RemitBridge.Mobile.Format

/-!
# Amounts on the console

The console has its own copy of what the app shows amounts with.  The two agree, so what both show
is the amount (`displays_agree`).
-/

namespace RemitBridge

namespace Console

open Decimal Grouping Money

/-- Group an integer string with thousands separators. -/
def group (digits : Str) : Str := separate digits

def formatStroops (value : Option Str) (decimals : ℕ := 2) : Str :=
  match value with
  | none => units "—"
  | some value =>
    if value = [] then units "—"
    else if isInteger value = false then value
    else
      let total := bigInt value
      let negative := total < 0
      let absolute := if negative then -total else total
      let whole := absolute.tdiv stroopsPerUnit
      let fraction := (renderInt (absolute.tmod stroopsPerUnit)).leftpad 7 (unit '0')
      let trimmed := fraction.take decimals
      (if negative then units "-" else []) ++ group (renderInt whole) ++
        (if decimals > 0 then units "." ++ trimmed else [])

theorem formatStroops_eq (value : Option Str) (decimals : ℕ) :
    formatStroops value decimals = Mobile.formatAmount value decimals := by
  cases value with
  | none => rfl
  | some value => rfl

/-- **The displays agree**, and show the amount. -/
theorem displays_agree (value : Str) (decimals : ℕ) (hvalue : isInteger value = true)
    (hdecimals : decimals ≤ 7) :
    Mobile.formatAmount (some value) decimals = formatStroops (some value) decimals ∧
    Mobile.Shows (bigInt value) decimals (formatStroops (some value) decimals) := by
  rw [formatStroops_eq]
  exact ⟨rfl, Mobile.shows_formatAmount hvalue hdecimals⟩

theorem displays_agree_sample :
    formatStroops (some (units "-0012345678901")) 2 = units "-1,234.56" ∧
    Mobile.formatAmount (some (units "-0012345678901")) 2 =
      formatStroops (some (units "-0012345678901")) 2 ∧
    Mobile.Shows (bigInt (units "-0012345678901")) 2
      (formatStroops (some (units "-0012345678901")) 2) :=
  ⟨by decide +kernel, displays_agree (units "-0012345678901") 2 (by decide) (by decide)⟩

end Console

end RemitBridge
