import Mathlib.Algebra.Order.Ring.Int

/-!
# Bounded machine integers

`MachineInt lo hi` is the type of the integers between `lo` and `hi`: the value carries the proof
that it fits.  Checked arithmetic is exact integer arithmetic followed by a range check, so the
result of a successful checked operation is *the* exact result
(`checkedAdd_eq_some`, `checkedSub_eq_some`, `checkedMul_eq_some`), and saturating arithmetic is
exact arithmetic clamped to the range.
-/

namespace RemitBridge

/-- The integers a machine type with bounds `lo` and `hi` can hold. -/
@[ext] structure MachineInt (lo hi : ℤ) where
  /-- The integer denoted. -/
  val : ℤ
  /-- It fits. -/
  inRange : lo ≤ val ∧ val ≤ hi
  deriving DecidableEq

namespace MachineInt

variable {lo hi : ℤ}

instance : CoeOut (MachineInt lo hi) ℤ := ⟨val⟩

@[simp] theorem val_inj {a b : MachineInt lo hi} : a.val = b.val ↔ a = b :=
  ⟨MachineInt.ext, congrArg val⟩

@[simp] theorem eta (a : MachineInt lo hi) (h : lo ≤ a.val ∧ a.val ≤ hi) :
    (⟨a.val, h⟩ : MachineInt lo hi) = a := rfl

theorem le_hi (a : MachineInt lo hi) : a.val ≤ hi := a.inRange.2

theorem lo_le (a : MachineInt lo hi) : lo ≤ a.val := a.inRange.1

/-- Machine integers are ordered as the integers they denote. -/
instance : LinearOrder (MachineInt lo hi) := LinearOrder.lift' val fun _ _ => MachineInt.ext

theorem le_def {a b : MachineInt lo hi} : a ≤ b ↔ a.val ≤ b.val := Iff.rfl

/-! ### Checked arithmetic -/

/-- The machine integer denoting `x`, if `x` fits. -/
def ofInt (x : ℤ) : Option (MachineInt lo hi) :=
  if h : lo ≤ x ∧ x ≤ hi then some ⟨x, h⟩ else none

theorem ofInt_eq_some {x : ℤ} {c : MachineInt lo hi} : ofInt x = some c ↔ c.val = x := by
  unfold ofInt
  split_ifs with h
  · rw [Option.some.injEq, MachineInt.ext_iff]
    exact eq_comm
  · simp only [false_iff]
    rintro rfl
    exact h c.inRange

/-- Addition that reports overflow. -/
def checkedAdd (a b : MachineInt lo hi) : Option (MachineInt lo hi) := ofInt (a.val + b.val)

/-- Subtraction that reports overflow. -/
def checkedSub (a b : MachineInt lo hi) : Option (MachineInt lo hi) := ofInt (a.val - b.val)

/-- Multiplication that reports overflow. -/
def checkedMul (a b : MachineInt lo hi) : Option (MachineInt lo hi) := ofInt (a.val * b.val)

/-- Division that reports overflow and division by zero, rounding towards zero. -/
def checkedDiv (a b : MachineInt lo hi) : Option (MachineInt lo hi) :=
  if b.val = 0 then none else ofInt (a.val.tdiv b.val)

theorem checkedAdd_eq_some {a b c : MachineInt lo hi} :
    a.checkedAdd b = some c ↔ c.val = a.val + b.val := ofInt_eq_some

theorem checkedSub_eq_some {a b c : MachineInt lo hi} :
    a.checkedSub b = some c ↔ c.val = a.val - b.val := ofInt_eq_some

theorem checkedMul_eq_some {a b c : MachineInt lo hi} :
    a.checkedMul b = some c ↔ c.val = a.val * b.val := ofInt_eq_some

theorem checkedDiv_eq_some {a b c : MachineInt lo hi} :
    a.checkedDiv b = some c ↔ b.val ≠ 0 ∧ c.val = a.val.tdiv b.val := by
  unfold checkedDiv
  split_ifs with h
  · simp [h]
  · simp [h, ofInt_eq_some]

/-- A product divided by a positive number, for non-negative factors: the result is the exact
quotient rounded down, unless the product overflows. -/
theorem mulDiv_eq_some {a b c q : MachineInt lo hi} (ha : 0 ≤ a.val) (hb : 0 ≤ b.val)
    (hc : 0 < c.val) : ((a.checkedMul b).bind fun p => p.checkedDiv c) = some q ↔
      a.val * b.val ≤ hi ∧ q.val = a.val * b.val / c.val := by
  have hp : 0 ≤ a.val * b.val := Int.mul_nonneg ha hb
  simp only [Option.bind_eq_some_iff, checkedMul_eq_some, checkedDiv_eq_some]
  constructor
  · rintro ⟨p, hprod, -, hq⟩
    rw [hprod, Int.tdiv_eq_ediv_of_nonneg hp] at hq
    exact ⟨hprod ▸ p.le_hi, hq⟩
  · rintro ⟨hle, hq⟩
    have hlo : lo ≤ a.val * b.val := by
      rcases hb.eq_or_lt with hb | hb
      · rw [← hb, mul_zero, hb]
        exact b.lo_le
      · exact a.lo_le.trans (le_mul_of_one_le_right ha hb)
    exact ⟨⟨_, hlo, hle⟩, rfl, hc.ne', by rw [hq, Int.tdiv_eq_ediv_of_nonneg hp]⟩

/-- Comparing a quotient that was rounded down misses the bound exactly if the quotient is the bound
and the division left a remainder. -/
theorem le_mul_iff_of_ediv_le {x c d : ℤ} (hd : 0 < d) (h : x / d ≤ c) :
    x ≤ c * d ↔ ¬ (x / d = c ∧ x % d ≠ 0) := by
  have hx := Int.mul_ediv_add_emod x d
  have hr := Int.emod_nonneg x hd.ne'
  rcases h.lt_or_eq with hlt | rfl
  · have hle : x ≤ c * d := ((Int.ediv_lt_iff_lt_mul hd).1 hlt).le
    exact ⟨fun _ hc => hlt.ne hc.1, fun _ => hle⟩
  · rw [mul_comm (x / d) d]
    constructor
    · intro hle hc
      omega
    · intro hc
      have hzero : x % d = 0 := by simpa using hc
      omega

/-! ### Saturating arithmetic -/

/-- The machine integer closest to `x`, given that the range is inhabited. -/
def clamp (h : lo ≤ hi) (x : ℤ) : MachineInt lo hi :=
  ⟨max lo (min x hi), le_max_left _ _, max_le h (min_le_right _ _)⟩

theorem clamp_val (h : lo ≤ hi) {x : ℤ} (hx : lo ≤ x ∧ x ≤ hi) : (clamp h x).val = x := by
  simp only [clamp, min_eq_left hx.2, max_eq_right hx.1]

/-- Addition that stops at the bounds. -/
def saturatingAdd (a b : MachineInt lo hi) : MachineInt lo hi :=
  clamp (a.lo_le.trans a.le_hi) (a.val + b.val)

/-- Subtraction that stops at the bounds. -/
def saturatingSub (a b : MachineInt lo hi) : MachineInt lo hi :=
  clamp (a.lo_le.trans a.le_hi) (a.val - b.val)

theorem saturatingAdd_val {a b : MachineInt lo hi}
    (h : lo ≤ a.val + b.val ∧ a.val + b.val ≤ hi) :
    (a.saturatingAdd b).val = a.val + b.val := clamp_val _ h

theorem saturatingSub_val {a b : MachineInt lo hi}
    (h : lo ≤ a.val - b.val ∧ a.val - b.val ≤ hi) :
    (a.saturatingSub b).val = a.val - b.val := clamp_val _ h

end MachineInt

/-! ### The widths in use -/

/-- Signed 128-bit integers. -/
abbrev I128 := MachineInt (-2 ^ 127) (2 ^ 127 - 1)

/-- Unsigned 64-bit integers. -/
abbrev U64 := MachineInt 0 (2 ^ 64 - 1)

/-- Unsigned 32-bit integers. -/
abbrev U32 := MachineInt 0 (2 ^ 32 - 1)

instance (n : ℕ) : OfNat I128 n := ⟨MachineInt.clamp (by decide) n⟩

instance (n : ℕ) : OfNat U64 n := ⟨MachineInt.clamp (by decide) n⟩

instance (n : ℕ) : OfNat U32 n := ⟨MachineInt.clamp (by decide) n⟩

/-- `i128::from` on a `u32`. -/
def U32.toI128 (a : U32) : I128 :=
  ⟨a.val, (by decide : (-2 ^ 127 : ℤ) ≤ 0).trans a.lo_le,
    a.le_hi.trans (by decide : (2 ^ 32 - 1 : ℤ) ≤ 2 ^ 127 - 1)⟩

/-- `u32::MAX` -/
def U32.max : U32 := ⟨2 ^ 32 - 1, by decide, le_rfl⟩

/-- `u32::try_from(a).unwrap_or(u32::MAX)` -/
def U32.ofI128OrMax (a : I128) : U32 := (MachineInt.ofInt a.val).getD U32.max

@[simp] theorem U32.toI128_val (a : U32) : a.toI128.val = a.val := rfl

@[simp] theorem I128.zero_val : (0 : I128).val = 0 := by decide

@[simp] theorem I128.tenThousand_val : (10000 : I128).val = 10000 := by decide

@[simp] theorem U64.zero_val : (0 : U64).val = 0 := by decide

@[simp] theorem U64.one_val : (1 : U64).val = 1 := by decide

@[simp] theorem U32.zero_val : (0 : U32).val = 0 := by decide

@[simp] theorem U32.one_val : (1 : U32).val = 1 := by decide

theorem U32.ofI128OrMax_val {a : I128} (h : 0 ≤ a.val ∧ a.val ≤ 2 ^ 32 - 1) :
    (U32.ofI128OrMax a).val = a.val := by
  rw [U32.ofI128OrMax, MachineInt.ofInt, dif_pos h, Option.getD_some]

theorem U64.val_nonneg (a : U64) : 0 ≤ a.val := a.lo_le

theorem U32.val_nonneg (a : U32) : 0 ≤ a.val := a.lo_le

theorem U32.saturatingAdd_one_val {a : U32} (h : a.val + 1 ≤ 2 ^ 32 - 1) :
    (a.saturatingAdd 1).val = a.val + 1 :=
  MachineInt.saturatingAdd_val ⟨Int.add_nonneg a.lo_le (by decide), h⟩

/-- Counting up stops at the bound. -/
theorem U32.saturatingAdd_one_eq_min (a : U32) :
    (a.saturatingAdd 1).val = min (a.val + 1) (2 ^ 32 - 1) := by
  have hpos := a.val_nonneg
  by_cases h : a.val + 1 ≤ 2 ^ 32 - 1
  · rw [saturatingAdd_one_val h, min_eq_left h]
  · have hle := a.le_hi
    have hlo : 0 ≤ min (a.val + 1) (2 ^ 32 - 1) := le_min (by omega) (by decide)
    exact max_eq_right hlo

/-- Counting the members of a list that satisfy `p`. -/
theorem U32.foldl_saturatingAdd_one {α : Type} (p : α → Bool) (l : List α) (a : U32) :
    (l.foldl (fun count x => if p x then count.saturatingAdd 1 else count) a).val =
      min (a.val + l.countP p) (2 ^ 32 - 1) := by
  induction l generalizing a with
  | nil =>
    have hle := a.le_hi
    simp only [List.foldl_nil, List.countP_nil]
    omega
  | cons x l ih =>
    rw [List.foldl_cons, ih, List.countP_cons]
    by_cases hx : p x
    · rw [if_pos hx, if_pos hx, saturatingAdd_one_eq_min]
      omega
    · rw [if_neg hx, if_neg hx]
      omega

theorem U32.saturatingSub_one_val {a : U32} (h : 0 ≤ a.val - 1) :
    (a.saturatingSub 1).val = a.val - 1 :=
  MachineInt.saturatingSub_val ⟨h, (Int.sub_le_self _ (by decide)).trans a.le_hi⟩

end RemitBridge
