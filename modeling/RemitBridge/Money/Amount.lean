import Mathlib.Data.List.DropRight
import RemitBridge.Data.Decimal

/-!
# Amounts of money

Amounts are integers, in units of a ten-millionth.  `toStroops` and `parseStellarAmount` read them,
`fromStroops` writes them, and `applyBps` takes a share of one in basis points.
-/

namespace RemitBridge

namespace Money

open Json (isDigit)

open Decimal (value render)

/-- The units of one whole. -/
def stroopsPerUnit : ℕ := 10000000

/-- Characters that `trim` drops at both ends of a string. -/
def spaces : List UInt16 :=
  [0x09, 0x0A, 0x0B, 0x0C, 0x0D, 0x20, 0xA0, 0x1680, 0x2000, 0x2001, 0x2002, 0x2003, 0x2004, 0x2005,
    0x2006, 0x2007, 0x2008, 0x2009, 0x200A, 0x2028, 0x2029, 0x202F, 0x205F, 0x3000, 0xFEFF]

def isSpace (c : UInt16) : Bool := spaces.contains c

def trim (s : Str) : Str := (s.dropWhile isSpace).rdropWhile isSpace

/-- The groups of `^(\d+)(?:\.(\d+))?$`; the second is empty if it does not take part. -/
def matchDecimal (s : Str) : Option (Str × Str) :=
  let whole := s.takeWhile isDigit
  match s.dropWhile isDigit with
  | [] => if whole = [] then none else some (whole, [])
  | c :: fraction =>
    if whole ≠ [] ∧ c = unit '.' ∧ fraction ≠ [] ∧ fraction.all isDigit = true then
      some (whole, fraction)
    else none

/-- Parse a decimal string into stroops. -/
def toStroops (amount : Str) : Except Str ℤ :=
  let trimmed := trim amount
  if (matchDecimal trimmed).isNone then
    .error (units "Not a valid decimal amount: \"" ++ amount ++ units "\"")
  else
    let parts := trimmed.splitOn (unit '.')
    let whole := (parts[0]?).getD (units "0")
    let fraction := (parts[1]?).getD []
    if fraction.length > 7 then
      .error (units "Amount has more than 7 decimal places: \"" ++ amount ++ units "\"")
    else
      let padded := fraction.rightpad 7 (unit '0')
      .ok (value whole * stroopsPerUnit + value padded : ℕ)

/-- `\.?0+$` matches here. -/
def matchesZeros (s : Str) : Bool :=
  let zeros := if s.head? = some (unit '.') then s.tail else s
  !zeros.isEmpty && zeros.all (· == unit '0')

/-- Delete the first match of `\.?0+$`.  It reaches to the end. -/
def stripZeros : Str → Str
  | [] => []
  | c :: s => if matchesZeros (c :: s) then [] else c :: stripZeros s

/-- Render stroops as a decimal string. -/
def fromStroops (stroops : ℤ) : Str :=
  let negative := stroops < 0
  let absolute := stroops.natAbs
  let whole := absolute / stroopsPerUnit
  let fraction := absolute % stroopsPerUnit
  let rendered :=
    stripZeros (render whole ++ unit '.' :: (render fraction).leftpad 7 (unit '0'))
  if negative then unit '-' :: (if rendered = [] then units "0" else rendered)
  else if rendered = [] then units "0" else rendered

def stellarDecimals : ℕ := 7

/-- A decimal string of Horizon as a scaled integer. -/
def parseStellarAmount (text : Str) : Except Str ℤ :=
  let negative := text.head? = some (unit '-')
  match matchDecimal (if negative then text.tail else text) with
  | none => .error (units "not a Stellar decimal amount: \"" ++ text ++ units "\"")
  | some (whole, fraction) =>
    if fraction.length > stellarDecimals then
      .error (units "\"" ++ text ++ units "\" has more than 7 decimal places")
    else
      let padded := fraction.rightpad stellarDecimals (unit '0')
      let scaled : ℤ := (value whole * 10 ^ stellarDecimals + value padded : ℕ)
      .ok (if negative then -scaled else scaled)

/-- The largest share, in basis points. -/
def maxBps : ℤ := 100000

/-- An integer as text, for JSON. -/
def bigintToJson (n : ℤ) : Str := Decimal.renderInt n

def assertSafeBps (bps : ℤ) : Except Str Unit :=
  if bps < 0 ∨ bps > maxBps then
    .error (units "Basis points out of range: " ++ bigintToJson bps)
  else .ok ()

/-- A share of an amount, with the rounding of the contracts. -/
def applyBps (amount : ℤ) (bps : ℤ) : Except Str ℤ := do
  assertSafeBps bps
  pure ((amount * bps).tdiv 10000)

/-! ### Shares -/

section Shares

variable {x y bps share : ℤ}

theorem applyBps_eq_ok : applyBps x bps = .ok share ↔
    (0 ≤ bps ∧ bps ≤ maxBps) ∧ share = (x * bps).tdiv 10000 := by
  rw [applyBps, assertSafeBps]
  split_ifs with h
  · refine iff_of_false ?_ ?_
    · intro herror
      cases herror
    · rintro ⟨⟨hnonneg, hle⟩, -⟩
      omega
  · constructor
    · intro hok
      exact ⟨by omega, (Except.ok.inj hok).symm⟩
    · rintro ⟨-, rfl⟩
      rfl

/-- Of an amount that is not negative, the share is rounded down. -/
theorem applyBps_of_nonneg (hx : 0 ≤ x) (hbps : 0 ≤ bps) (hmax : bps ≤ maxBps) :
    applyBps x bps = .ok (x * bps / 10000) := by
  rw [applyBps_eq_ok, Int.tdiv_eq_ediv_of_nonneg (Int.mul_nonneg hx hbps)]
  exact ⟨⟨hbps, hmax⟩, rfl⟩

theorem share_nonneg (hx : 0 ≤ x) (hbps : 0 ≤ bps) : 0 ≤ x * bps / 10000 :=
  Int.ediv_nonneg (Int.mul_nonneg hx hbps) (by decide)

/-- A share of at most 100% is at most the amount. -/
theorem share_le (hx : 0 ≤ x) (hbps : bps ≤ 10000) : x * bps / 10000 ≤ x :=
  Int.ediv_le_of_le_mul (by decide) (Int.mul_le_mul_of_nonneg_left hbps hx)

/-- What is left of a larger amount, after a share of at most 100%, is not less. -/
theorem rest_mono (h : x ≤ y) (hbps : bps ≤ 10000) : x - x * bps / 10000 ≤ y - y * bps / 10000 := by
  -- Each unit that is added brings at most one unit to the share.
  have hadded : (y - x) * bps ≤ (y - x) * 10000 :=
    Int.mul_le_mul_of_nonneg_left hbps (Int.sub_nonneg.2 h)
  have hshare : y * bps ≤ x * bps + (y - x) * 10000 := by
    rw [Int.sub_mul] at hadded
    omega
  have hdiv : y * bps / 10000 ≤ (x * bps + (y - x) * 10000) / 10000 :=
    Int.ediv_le_ediv (by decide) hshare
  rw [Int.add_mul_ediv_right _ _ (by decide)] at hdiv
  omega

end Shares

end Money

end RemitBridge
