import Mathlib.Data.Rat.Defs
import Mathlib.Tactic.FieldSimp
import RemitBridge.Money.Amount

/-!
# Reading back what is written

An amount is read back from its text, and a text that is accepted is written back as the canonical
decimal of the number it denotes (`amount_roundTrip`).
-/

namespace RemitBridge

namespace Money

open Json (isDigit)

open Decimal

/-- The text of a whole part and the digits after the point. -/
def compose (whole fraction : Str) : Str :=
  if fraction = [] then whole else whole ++ unit '.' :: fraction

/-- The number that an accepted text denotes. -/
def number (s : Str) : Option ℚ :=
  (matchDecimal (trim s)).map fun p => value p.1 + value p.2 / 10 ^ p.2.length

/-- A decimal without leading zeros, without zeros at its end and without a bare point. -/
def Canonical (s : Str) : Prop :=
  ∃ whole fraction, s = compose whole fraction ∧ Plain whole ∧ Digits fraction ∧
    fraction.length ≤ 7 ∧ fraction.getLast? ≠ some (unit '0')

variable {s t whole fraction : Str} {c : UInt16} {x y : ℤ}

/-! ### The groups -/

theorem ne_point (h : isDigit c = true) : c ≠ unit '.' := by
  rintro rfl
  cases h

theorem not_isSpace (h : isDigit c = true) : isSpace c = false := by
  have hspaces : spaces.all (fun d => !isDigit d) = true := by decide
  rw [isSpace, List.contains_eq_mem, decide_eq_false_iff_not]
  intro hmem
  have hnot := List.all_eq_true.1 hspaces c hmem
  rw [h] at hnot
  cases hnot

/-- The groups are what the text is composed of. -/
theorem matchDecimal_eq_some : matchDecimal s = some (whole, fraction) ↔
    s = compose whole fraction ∧ Digits whole ∧ whole ≠ [] ∧ Digits fraction := by
  constructor
  · intro h
    have hs := List.takeWhile_append_dropWhile (p := isDigit) (l := s)
    have hwhole : Digits (s.takeWhile isDigit) := fun c hc => List.mem_takeWhile_imp hc
    rw [matchDecimal] at h
    split at h
    · next hrest =>
      split_ifs at h with hnil
      obtain ⟨rfl, rfl⟩ := Prod.mk.inj (Option.some.inj h)
      rw [hrest, List.append_nil] at hs
      exact ⟨hs.symm, hwhole, hnil, digits_nil⟩
    · next c rest hrest =>
      split_ifs at h with hcond
      obtain ⟨hnil, rfl, hfraction, hall⟩ := hcond
      obtain ⟨rfl, rfl⟩ := Prod.mk.inj (Option.some.inj h)
      rw [hrest] at hs
      refine ⟨?_, hwhole, hnil, List.all_eq_true.1 hall⟩
      rw [compose, if_neg hfraction]
      exact hs.symm
  · rintro ⟨rfl, hwhole, hnil, hfraction⟩
    rw [compose]
    by_cases hempty : fraction = []
    · rw [if_pos hempty, hempty, matchDecimal]
      have htake : whole.takeWhile isDigit = whole := List.takeWhile_eq_self_iff.2 hwhole
      have hdrop : whole.dropWhile isDigit = [] := List.dropWhile_eq_nil_iff.2 hwhole
      simp [htake, hdrop, hnil]
    · have hpoint : isDigit (unit '.') = false := rfl
      rw [if_neg hempty, matchDecimal, List.takeWhile_append_of_pos hwhole,
        List.dropWhile_append_of_pos hwhole]
      have hall : fraction.all isDigit = true := List.all_eq_true.2 hfraction
      simp [hpoint, hnil, hempty, hall]

/-- Splitting at the point finds the groups. -/
theorem splitOn_compose (hwhole : Digits whole) (hfraction : Digits fraction) :
    (compose whole fraction).splitOn (unit '.') =
      if fraction = [] then [whole] else [whole, fraction] := by
  have hpoint : ∀ {u : Str}, Digits u → unit '.' ∉ u := fun hu hmem => ne_point (hu _ hmem) rfl
  rw [compose]
  split_ifs
  · exact List.splitOn_eq_singleton (hpoint hwhole)
  · rw [List.splitOn_append_cons_self_of_not_mem (hpoint hwhole),
      List.splitOn_eq_singleton (hpoint hfraction)]

/-! ### Reading -/

/-- What is accepted, and the amount it is read as. -/
theorem toStroops_eq_ok : toStroops s = .ok x ↔ ∃ whole fraction,
    matchDecimal (trim s) = some (whole, fraction) ∧ fraction.length ≤ 7 ∧
    x = (value whole * stroopsPerUnit + value (fraction.rightpad 7 (unit '0')) : ℕ) := by
  rw [toStroops]
  cases hmatch : matchDecimal (trim s) with
  | none => simp
  | some p =>
    obtain ⟨whole, fraction⟩ := p
    obtain ⟨htrim, hwhole, hnil, hfraction⟩ := matchDecimal_eq_some.1 hmatch
    have hsplit := splitOn_compose hwhole hfraction
    have hparts : ((trim s).splitOn (unit '.'))[0]? = some whole ∧
        ((trim s).splitOn (unit '.'))[1]?.getD [] = fraction := by
      rw [htrim, hsplit]
      split_ifs with hempty
      · exact ⟨rfl, hempty.symm⟩
      · exact ⟨rfl, rfl⟩
    simp only [Option.isNone_some, Bool.false_eq_true, if_false, hparts.1, hparts.2,
      Option.getD_some]
    by_cases hlength : fraction.length > 7
    · rw [if_pos hlength]
      constructor
      · intro h
        cases h
      · rintro ⟨w, f, heq, hle, -⟩
        obtain ⟨rfl, rfl⟩ := Prod.mk.inj (Option.some.inj heq)
        omega
    · rw [if_neg hlength]
      constructor
      · intro h
        exact ⟨whole, fraction, rfl, not_lt.1 hlength, (Except.ok.inj h).symm⟩
      · rintro ⟨w, f, heq, -, rfl⟩
        obtain ⟨rfl, rfl⟩ := Prod.mk.inj (Option.some.inj heq)
        rfl

/-- The number that is denoted is the amount, in units of a ten-millionth. -/
theorem number_of_toStroops (h : toStroops s = .ok x) :
    number s = some ((x : ℚ) / (stroopsPerUnit : ℚ)) := by
  obtain ⟨whole, fraction, hmatch, hlength, rfl⟩ := toStroops_eq_ok.1 h
  rw [number, hmatch, Option.map_some, value_rightpad]
  congr 1
  have hpow : (10 : ℚ) ^ (7 - fraction.length) * 10 ^ fraction.length = 10000000 := by
    rw [← pow_add, Nat.sub_add_cancel hlength]
    norm_num
  have hne : (10 : ℚ) ^ fraction.length ≠ 0 := pow_ne_zero _ (by norm_num)
  rw [stroopsPerUnit]
  push_cast
  rw [← hpow]
  have hne' : (10 : ℚ) ^ (7 - fraction.length) ≠ 0 := pow_ne_zero _ (by norm_num)
  field_simp

/-! ### Writing -/

/-- Deleting from digits what the pattern matches is deleting the zeros at their end. -/
theorem stripZeros_digits (h : Digits s) :
    stripZeros s = s.rdropWhile (· == unit '0') := by
  induction s with
  | nil => rfl
  | cons c s ih =>
    rw [digits_cons] at h
    have hhead : (c :: s).head? ≠ some (unit '.') := by
      intro hc
      exact ne_point h.1 (Option.some.inj hc)
    have hmatches : matchesZeros (c :: s) = (c :: s).all (· == unit '0') := by
      simp only [matchesZeros, if_neg hhead]
      rfl
    rw [stripZeros, hmatches, ih h.2]
    by_cases hall : (c :: s).all (· == unit '0') = true
    · rw [if_pos hall, List.rdropWhile_eq_nil_iff.2 (List.all_eq_true.1 hall)]
    · rw [if_neg hall, List.rdropWhile, List.rdropWhile, List.reverse_cons, List.dropWhile_append]
      split_ifs with hempty
      · -- The rest is zeros, so the first digit is not.
        have hrest : ∀ d ∈ s, (d == unit '0') = true := by
          intro d hd
          exact List.dropWhile_eq_nil_iff.1 (List.isEmpty_iff.1 hempty) d (List.mem_reverse.2 hd)
        have hc : ¬ (c == unit '0') = true := by
          intro hc
          exact hall (List.all_eq_true.2 (List.forall_mem_cons.2 ⟨hc, hrest⟩))
        have hsingle : [c].dropWhile (· == unit '0') = [c] := by simp [List.dropWhile, hc]
        rw [List.isEmpty_iff.1 hempty, hsingle]
        rfl
      · rw [List.reverse_append]
        rfl

/-- The pattern deletes the zeros after the point, and the point if nothing else follows it. -/
theorem stripZeros_point (hfraction : Digits fraction) (hne : fraction ≠ []) :
    stripZeros (unit '.' :: fraction) =
      if fraction.rdropWhile (· == unit '0') = [] then []
      else unit '.' :: fraction.rdropWhile (· == unit '0') := by
  have hmatches : matchesZeros (unit '.' :: fraction) = fraction.all (· == unit '0') := by
    simp [matchesZeros, hne]
  rw [stripZeros, hmatches, stripZeros_digits hfraction]
  refine if_congr ?_ rfl rfl
  rw [List.rdropWhile_eq_nil_iff, List.all_eq_true]

/-- It does not touch what stands before the point. -/
theorem stripZeros_append (hwhole : Digits whole) (t : Str) :
    stripZeros (whole ++ unit '.' :: t) = whole ++ stripZeros (unit '.' :: t) := by
  induction whole with
  | nil => rfl
  | cons c whole ih =>
    rw [digits_cons] at hwhole
    have hhead : ((c :: whole) ++ unit '.' :: t).head? ≠ some (unit '.') := by
      intro hc
      exact ne_point hwhole.1 (Option.some.inj hc)
    have hmatches : matchesZeros ((c :: whole) ++ unit '.' :: t) = false := by
      have hpoint : (unit '.' == unit '0') = false := rfl
      simp only [matchesZeros, if_neg hhead]
      simp [hpoint]
    rw [List.cons_append] at hmatches ⊢
    rw [stripZeros, hmatches, if_neg Bool.false_ne_true, ih hwhole.2, List.cons_append]

/-- The digits after the point, without the zeros at their end. -/
def fractionOf (n : ℕ) : Str :=
  ((render (n % stroopsPerUnit)).leftpad 7 (unit '0')).rdropWhile (· == unit '0')

theorem fromStroops_natCast (n : ℕ) :
    fromStroops n = compose (render (n / stroopsPerUnit)) (fractionOf n) := by
  have hdigits : Digits ((render (n % stroopsPerUnit)).leftpad 7 (unit '0')) := by
    rw [List.leftpad, digits_append]
    exact ⟨digits_replicate _, digits_render _⟩
  have hne : (render (n % stroopsPerUnit)).leftpad 7 (unit '0') ≠ [] :=
    List.append_ne_nil_of_right_ne_nil _ (render_ne_nil _)
  have hrendered : stripZeros (render (n / stroopsPerUnit) ++
      unit '.' :: (render (n % stroopsPerUnit)).leftpad 7 (unit '0')) =
      compose (render (n / stroopsPerUnit)) (fractionOf n) := by
    rw [stripZeros_append (digits_render _), stripZeros_point hdigits hne, compose, fractionOf]
    split_ifs
    · rw [List.append_nil]
    · rfl
  have hcompose : compose (render (n / stroopsPerUnit)) (fractionOf n) ≠ [] := by
    rw [compose]
    split_ifs
    · exact render_ne_nil _
    · exact List.append_ne_nil_of_left_ne_nil (render_ne_nil _) _
  simp only [fromStroops, Int.natAbs_natCast, hrendered]
  rw [if_neg (Int.natCast_nonneg n).not_gt, if_neg hcompose]

/-- Padding puts back the zeros that were deleted. -/
theorem rightpad_rdropWhile (s : Str) (a : UInt16) :
    (s.rdropWhile (· == a)).rightpad s.length a = s := by
  have hzeros : s.rtakeWhile (· == a) = List.replicate (s.rtakeWhile (· == a)).length a :=
    List.eq_replicate_of_mem fun c hc =>
      eq_of_beq (List.mem_rtakeWhile_imp (p := (· == a)) hc)
  have hs : s.rdropWhile (· == a) ++ s.rtakeWhile (· == a) = s :=
    List.rdropWhile_append_rtakeWhile
  have hlength : s.length - (s.rdropWhile (· == a)).length = (s.rtakeWhile (· == a)).length := by
    have hsum := congrArg List.length hs
    rw [List.length_append] at hsum
    omega
  rw [List.rightpad, hlength, ← hzeros, hs]

theorem rdropWhile_rightpad {a : UInt16} {k : ℕ} (h : s.getLast? ≠ some a) :
    (s.rightpad k a).rdropWhile (· == a) = s := by
  have hs : s.rdropWhile (· == a) = s := by
    rw [List.rdropWhile_eq_self_iff]
    intro hne hlast
    rw [List.getLast?_eq_getLast_of_ne_nil hne] at h
    exact h (congrArg some (eq_of_beq hlast))
  rw [List.rightpad]
  induction k - s.length with
  | zero => rw [List.replicate_zero, List.append_nil, hs]
  | succ k ih =>
    rw [List.replicate_succ', ← List.append_assoc,
      List.rdropWhile_concat_pos (· == a) _ _ (beq_self_eq_true a), ih]

theorem length_padded (n : ℕ) :
    ((render (n % stroopsPerUnit)).leftpad 7 (unit '0')).length = 7 := by
  have hlength : (render (n % stroopsPerUnit)).length ≤ 7 :=
    (length_render_le_iff (by decide)).2 (Nat.mod_lt n (by decide))
  rw [List.leftpad, List.length_append, List.length_replicate]
  omega

theorem digits_fractionOf (n : ℕ) : Digits (fractionOf n) := by
  have hdigits : Digits ((render (n % stroopsPerUnit)).leftpad 7 (unit '0')) := by
    rw [List.leftpad, digits_append]
    exact ⟨digits_replicate _, digits_render _⟩
  intro c hc
  exact hdigits c ((List.rdropWhile_prefix _ _).subset hc)

theorem length_fractionOf (n : ℕ) : (fractionOf n).length ≤ 7 :=
  (List.rdropWhile_prefix _ _).length_le.trans (length_padded n).le

theorem value_fractionOf (n : ℕ) :
    value ((fractionOf n).rightpad 7 (unit '0')) = n % stroopsPerUnit := by
  have hpad := rightpad_rdropWhile ((render (n % stroopsPerUnit)).leftpad 7 (unit '0')) (unit '0')
  rw [length_padded] at hpad
  rw [fractionOf, hpad, value_leftpad, value_render]

theorem canonical_fromStroops (n : ℕ) : Canonical (fromStroops n) := by
  refine ⟨_, _, fromStroops_natCast n, plain_render _, digits_fractionOf n, length_fractionOf n, ?_⟩
  intro hlast
  have hne : fractionOf n ≠ [] := by
    intro hnil
    rw [hnil] at hlast
    cases hlast
  have hkept := List.rdropWhile_last_not (· == unit '0') _ hne
  rw [List.getLast?_eq_getLast_of_ne_nil hne] at hlast
  exact hkept (beq_iff_eq.2 (Option.some.inj hlast))

/-! ### There and back -/

/-- A decimal has no spaces to trim. -/
theorem trim_compose (hwhole : Digits whole) (hne : whole ≠ []) (hfraction : Digits fraction) :
    trim (compose whole fraction) = compose whole fraction := by
  have hdrop : (compose whole fraction).dropWhile isSpace = compose whole fraction := by
    obtain ⟨c, rest, rfl⟩ := List.exists_cons_of_ne_nil hne
    have hc : isSpace c = false := not_isSpace (digits_cons.1 hwhole).1
    rw [compose]
    split_ifs <;> simp [List.dropWhile, hc]
  rw [trim, hdrop, List.rdropWhile_eq_self_iff]
  intro hnil
  rw [Bool.not_eq_true]
  have hlast : ∀ {u : Str} (hu : u ≠ []), Digits u → isSpace (u.getLast hu) = false :=
    fun hu hdigits => not_isSpace (hdigits _ (List.getLast_mem hu))
  by_cases hempty : fraction = []
  · simp only [compose, if_pos hempty]
    exact hlast hne hwhole
  · have heq : (compose whole fraction).getLast hnil = fraction.getLast hempty := by
      simp only [compose, if_neg hempty]
      rw [List.getLast_append_of_ne_nil _ (List.cons_ne_nil _ _), List.getLast_cons hempty]
    rw [heq]
    exact hlast hempty hfraction

/-- What is composed of groups is read as they say. -/
theorem toStroops_compose (hwhole : Digits whole) (hne : whole ≠ []) (hfraction : Digits fraction)
    (hlength : fraction.length ≤ 7) : toStroops (compose whole fraction) =
      .ok (value whole * stroopsPerUnit + value (fraction.rightpad 7 (unit '0')) : ℕ) := by
  refine toStroops_eq_ok.2 ⟨whole, fraction, ?_, hlength, rfl⟩
  rw [trim_compose hwhole hne hfraction]
  exact matchDecimal_eq_some.2 ⟨rfl, hwhole, hne, hfraction⟩

theorem toStroops_fromStroops (n : ℕ) : toStroops (fromStroops n) = .ok n := by
  rw [fromStroops_natCast,
    toStroops_compose (digits_render _) (render_ne_nil _) (digits_fractionOf n)
    (length_fractionOf n), value_render, value_fractionOf, Nat.div_add_mod']

theorem nonneg_of_toStroops (h : toStroops s = .ok x) : 0 ≤ x := by
  obtain ⟨whole, fraction, -, -, rfl⟩ := toStroops_eq_ok.1 h
  exact Int.natCast_nonneg _

/-- A canonical decimal is what its amount is written as. -/
theorem Canonical.eq (h : Canonical s) : ∃ n : ℕ, toStroops s = .ok n ∧ fromStroops n = s := by
  obtain ⟨whole, fraction, rfl, hplain, hdigits, hlength, hlast⟩ := h
  refine ⟨_, toStroops_compose hplain.digits hplain.ne_nil hdigits hlength, ?_⟩
  have hpadded : Digits (fraction.rightpad 7 (unit '0')) := by
    rw [List.rightpad, digits_append]
    exact ⟨hdigits, digits_replicate _⟩
  have hseven : (fraction.rightpad 7 (unit '0')).length = 7 := by
    rw [List.rightpad, List.length_append, List.length_replicate]
    omega
  have hlt : value (fraction.rightpad 7 (unit '0')) < stroopsPerUnit := by
    have hlt := value_lt hpadded
    rwa [hseven] at hlt
  have hdiv : (value whole * stroopsPerUnit + value (fraction.rightpad 7 (unit '0'))) /
      stroopsPerUnit = value whole := by
    rw [mul_comm, Nat.mul_add_div (by decide), Nat.div_eq_of_lt hlt, add_zero]
  have hmod : (value whole * stroopsPerUnit + value (fraction.rightpad 7 (unit '0'))) %
      stroopsPerUnit = value (fraction.rightpad 7 (unit '0')) := by
    rw [mul_comm, Nat.mul_add_mod, Nat.mod_eq_of_lt hlt]
  rw [fromStroops_natCast, hdiv, render_value hplain]
  congr 1
  -- The digits after the point are the padded ones, and padding only added zeros.
  have hpad : (render (value (fraction.rightpad 7 (unit '0')))).leftpad 7 (unit '0') =
      fraction.rightpad 7 (unit '0') := by
    have hlength' : (render (value (fraction.rightpad 7 (unit '0')))).length ≤ 7 :=
      (length_render_le_iff (by decide)).2 hlt
    refine eq_of_value ?_ hpadded ?_ ?_
    · rw [List.leftpad, digits_append]
      exact ⟨digits_replicate _, digits_render _⟩
    · rw [hseven, List.leftpad, List.length_append, List.length_replicate]
      omega
    · rw [value_leftpad, value_render]
  rw [fractionOf, hmod, hpad, rdropWhile_rightpad hlast]

/-! ### The readers and the writer -/

/-- What `toStroops` accepts has no sign. -/
theorem head_ne_minus (h : toStroops s = .ok x) : s.head? ≠ some (unit '-') := by
  obtain ⟨whole, fraction, hmatch, -, -⟩ := toStroops_eq_ok.1 h
  obtain ⟨htrim, hwhole, hne, -⟩ := matchDecimal_eq_some.1 hmatch
  obtain ⟨c, rest, rfl⟩ := List.exists_cons_of_ne_nil hne
  intro hhead
  obtain ⟨t, rfl⟩ := List.head?_eq_some_iff.1 hhead
  -- The sign is no space, so that trimming leaves it in front.
  have hspace : isSpace (unit '-') = false := rfl
  have hdrop : (unit '-' :: t).dropWhile isSpace = unit '-' :: t := by simp [List.dropWhile, hspace]
  have hprefix : (compose (c :: rest) fraction) <+: (unit '-' :: t) := by
    rw [← htrim, trim, hdrop]
    exact List.rdropWhile_prefix _ _
  have hc : c = unit '-' := by
    rw [compose] at hprefix
    split_ifs at hprefix
    · exact (List.cons_prefix_cons.1 hprefix).1
    · exact (List.cons_prefix_cons.1 hprefix).1
  rw [hc] at hwhole
  exact absurd (digits_cons.1 hwhole).1 (by decide)

/-- What both readers accept is composed of the same groups for both. -/
theorem parseStellarAmount_eq (h : toStroops s = .ok x) (h' : parseStellarAmount s = .ok y) :
    x = y := by
  rw [parseStellarAmount] at h'
  simp only [if_neg (head_ne_minus h)] at h'
  cases hmatch : matchDecimal s with
  | none =>
    rw [hmatch] at h'
    cases h'
  | some p =>
    obtain ⟨whole, fraction⟩ := p
    obtain ⟨rfl, hwhole, hne, hfraction⟩ := matchDecimal_eq_some.1 hmatch
    rw [hmatch] at h'
    by_cases hlength : fraction.length > stellarDecimals
    · simp only [if_pos hlength] at h'
      cases h'
    · simp only [if_neg hlength] at h'
      rw [toStroops_compose hwhole hne hfraction (not_lt.1 hlength)] at h
      rw [← Except.ok.inj h, ← Except.ok.inj h']
      rfl

/-- **Amounts as text.**  Every amount is read back from the text it is written as.  Of every text
that is accepted, the amount is written as the only canonical decimal that denotes the same number,
and is read back from it.  Two accepted texts are written alike exactly if they denote the same
number.  Where `parseStellarAmount` accepts the text as well, it reads the same amount. -/
theorem amount_roundTrip :
    (∀ x : ℤ, 0 ≤ x → toStroops (fromStroops x) = .ok x) ∧
    (∀ s x, toStroops s = .ok x →
      (Canonical (fromStroops x) ∧ number (fromStroops x) = number s ∧ number s ≠ none) ∧
      (∀ t, Canonical t → number t = number s → t = fromStroops x) ∧
      toStroops (fromStroops x) = .ok x) ∧
    (∀ s t x y, toStroops s = .ok x → toStroops t = .ok y →
      (fromStroops x = fromStroops y ↔ number s = number t)) ∧
    ∀ s x y, toStroops s = .ok x → parseStellarAmount s = .ok y → x = y := by
  have hback : ∀ x : ℤ, 0 ≤ x → toStroops (fromStroops x) = .ok x := by
    intro x hx
    obtain ⟨n, rfl⟩ := Int.eq_ofNat_of_zero_le hx
    exact toStroops_fromStroops n
  -- Accepted texts that denote the same number are read as the same amount.
  have hinj : ∀ {s t x y}, toStroops s = .ok x → toStroops t = .ok y → number s = number t →
      x = y := by
    intro s t x y hs ht h
    rw [number_of_toStroops hs, number_of_toStroops ht] at h
    have hq : (x : ℚ) / stroopsPerUnit = y / stroopsPerUnit := Option.some.inj h
    have hne : (stroopsPerUnit : ℚ) ≠ 0 := by norm_num [stroopsPerUnit]
    exact Int.cast_injective ((div_left_inj' hne).1 hq)
  refine ⟨hback, ?_, ?_, fun s x y => parseStellarAmount_eq⟩
  · intro s x hs
    have hx := nonneg_of_toStroops hs
    have hwritten := hback x hx
    refine ⟨⟨?_, ?_, ?_⟩, ?_, hwritten⟩
    · obtain ⟨n, rfl⟩ := Int.eq_ofNat_of_zero_le hx
      exact canonical_fromStroops n
    · rw [number_of_toStroops hwritten, number_of_toStroops hs]
    · rw [number_of_toStroops hs]
      exact Option.some_ne_none _
    · intro t ht hnumber
      obtain ⟨n, hread, rfl⟩ := ht.eq
      rw [hinj hread hs hnumber]
  · intro s t x y hs ht
    constructor
    · intro h
      have hx := hback x (nonneg_of_toStroops hs)
      rw [h, hback y (nonneg_of_toStroops ht)] at hx
      rw [number_of_toStroops hs, number_of_toStroops ht, Except.ok.inj hx]
    · intro h
      rw [hinj hs ht h]

/-- Both readers accept a zero at the end, which is not written back. -/
theorem amount_roundTrip_sample : ∃ x y, toStroops (units "12.50") = .ok x ∧
    parseStellarAmount (units "12.50") = .ok y ∧ x = y ∧ fromStroops x = units "12.5" := by
  have hread : toStroops (units "12.50") = .ok 125000000 := rfl
  have hparsed : parseStellarAmount (units "12.50") = .ok 125000000 := rfl
  exact ⟨_, _, hread, hparsed, amount_roundTrip.2.2.2 _ _ _ hread hparsed, rfl⟩

end Money

end RemitBridge
