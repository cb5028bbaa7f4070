import Mathlib.Data.List.DropRight
import RemitBridge.Json.Ascii

/-!
# Bytes in base 64

Three bytes are written as four characters, six bits each, and what is missing of the last four is
padded (`btoa`).  The reader (`atob`) forgives: it passes over white space, it does without the
padding, and it drops the bits that fill no byte.

Characters of the alphabet are read as the bits they stand for, however the text is padded
(`atob_pad`).
-/

namespace RemitBridge

namespace Base64

open Json

/-- The six bits of each character. -/
def sextets : List UInt8 → List ℕ
  | [] => []
  | [a] => [a.toNat / 4, a.toNat % 4 * 16]
  | [a, b] => [a.toNat / 4, a.toNat % 4 * 16 + b.toNat / 16, b.toNat % 16 * 4]
  | a :: b :: c :: bytes =>
    a.toNat / 4 :: (a.toNat % 4 * 16 + b.toNat / 16) :: (b.toNat % 16 * 4 + c.toNat / 64) ::
      c.toNat % 64 :: sextets bytes

/-- The bytes that characters of six bits fill. -/
def octets : List ℕ → List UInt8
  | [] => []
  | [_] => []
  | [m, n] => [(m * 4 + n / 16).toUInt8]
  | [m, n, k] => [(m * 4 + n / 16).toUInt8, (n % 16 * 16 + k / 4).toUInt8]
  | m :: n :: k :: l :: rest =>
    (m * 4 + n / 16).toUInt8 :: (n % 16 * 16 + k / 4).toUInt8 :: (k % 4 * 64 + l).toUInt8 ::
      octets rest

/-- Characters that follow each other. -/
def span (first : Char) (k : ℕ) : Str := (List.range k).map fun n => (first.toNat + n).toUInt16

def alphabet : Str := span 'A' 26 ++ span 'a' 26 ++ span '0' 10 ++ [unit '+', unit '/']

def digit (n : ℕ) : UInt16 := alphabet.getD n 0

def value (c : UInt16) : Option ℕ := alphabet.idxOf? c

def padding : UInt16 := unit '='

/-- How many characters are missing of the last four. -/
def missing (s : Str) : ℕ := (4 - s.length % 4) % 4

/-- A binary string stands for its bytes, here and in `atob`. -/
def btoa (bytes : List UInt8) : Str :=
  let digits := (sextets bytes).map digit
  digits ++ List.replicate (missing digits) padding

/-- The white space of ASCII. -/
def isSpace (c : UInt16) : Bool := c == 0x20 || c == 0x09 || c == 0x0A || c == 0x0C || c == 0x0D

/-- A text without its padding, if it has a whole number of fours. -/
def unpad (s : Str) : Str :=
  if s.length % 4 = 0 then
    if [padding, padding].isSuffixOf s then s.dropLast.dropLast
    else if [padding].isSuffixOf s then s.dropLast
    else s
  else s

/-- Nothing if it throws. -/
def atob (s : Str) : Option (List UInt8) :=
  let s := unpad (s.filter fun c => !isSpace c)
  if s.length % 4 = 1 then none else (s.mapM value).map octets

variable {bytes : List UInt8} {ns : List ℕ} {s : Str} {n : ℕ}

/-! ### The bits -/

theorem toUInt8_toNat (a : UInt8) : a.toNat.toUInt8 = a := UInt8.ofNat_toNat

theorem octets_sextets (bytes : List UInt8) : octets (sextets bytes) = bytes := by
  fun_induction sextets bytes with
  | case1 => rfl
  | case2 a =>
    rw [octets, show a.toNat / 4 * 4 + a.toNat % 4 * 16 / 16 = a.toNat by omega, toUInt8_toNat]
  | case3 a b =>
    have ha := a.toNat_lt
    have hb := b.toNat_lt
    rw [octets, show a.toNat / 4 * 4 + (a.toNat % 4 * 16 + b.toNat / 16) / 16 = a.toNat by omega,
      show (a.toNat % 4 * 16 + b.toNat / 16) % 16 * 16 + b.toNat % 16 * 4 / 4 = b.toNat by omega,
      toUInt8_toNat, toUInt8_toNat]
  | case4 a b c bytes ih =>
    have ha := a.toNat_lt
    have hb := b.toNat_lt
    have hc := c.toNat_lt
    rw [octets, ih,
      show a.toNat / 4 * 4 + (a.toNat % 4 * 16 + b.toNat / 16) / 16 = a.toNat by omega,
      show (a.toNat % 4 * 16 + b.toNat / 16) % 16 * 16 + (b.toNat % 16 * 4 + c.toNat / 64) / 4 =
        b.toNat by omega,
      show (b.toNat % 16 * 4 + c.toNat / 64) % 4 * 64 + c.toNat % 64 = c.toNat by omega,
      toUInt8_toNat, toUInt8_toNat, toUInt8_toNat]

/-- No text has a single character beside its fours. -/
theorem length_sextets (bytes : List UInt8) : (sextets bytes).length % 4 ≠ 1 := by
  fun_induction sextets bytes with
  | case1 => decide
  | case2 a => simp
  | case3 a b => simp
  | case4 a b c bytes ih =>
    simp only [List.length_cons]
    omega

theorem sextets_lt (bytes : List UInt8) : ∀ n ∈ sextets bytes, n < 64 := by
  fun_induction sextets bytes with
  | case1 => simp
  | case2 a =>
    have ha := a.toNat_lt
    simp only [List.mem_cons, List.not_mem_nil, or_false, forall_eq_or_imp, forall_eq]
    omega
  | case3 a b =>
    have ha := a.toNat_lt
    have hb := b.toNat_lt
    simp only [List.mem_cons, List.not_mem_nil, or_false, forall_eq_or_imp, forall_eq]
    omega
  | case4 a b c bytes ih =>
    have ha := a.toNat_lt
    have hb := b.toNat_lt
    have hc := c.toNat_lt
    intro n hn
    simp only [List.mem_cons] at hn
    rcases hn with rfl | rfl | rfl | rfl | hn
    · omega
    · omega
    · omega
    · omega
    · exact ih n hn

/-! ### The characters -/

theorem length_alphabet : alphabet.length = 64 := by decide +kernel

theorem nodup_alphabet : alphabet.Nodup := by decide +kernel

/-- A property is checked for one character after the other. -/
theorem forall_alphabet {P : UInt16 → Prop} [DecidablePred P]
    (h : (alphabet.all fun c => decide (P c)) = true) : ∀ c ∈ alphabet, P c := by
  intro c hc
  exact of_decide_eq_true (List.all_eq_true.1 h c hc)

/-- Neither the padding nor white space is in the alphabet. -/
theorem plain_alphabet : ∀ c ∈ alphabet, c ≠ padding ∧ isSpace c = false :=
  forall_alphabet (by decide +kernel)

theorem digit_eq (h : n < alphabet.length) : digit n = alphabet[n] := by
  rw [digit, List.getD_eq_getElem?_getD, List.getElem?_eq_getElem h, Option.getD_some]

theorem digit_mem (h : n < 64) : digit n ∈ alphabet := by
  rw [← length_alphabet] at h
  rw [digit_eq h]
  exact List.getElem_mem h

/-- The characters of bytes are in the alphabet. -/
theorem mem_digits {c : UInt16} (h : c ∈ (sextets bytes).map digit) : c ∈ alphabet := by
  obtain ⟨n, hn, rfl⟩ := List.mem_map.1 h
  exact digit_mem (sextets_lt bytes n hn)

theorem value_digit (h : n < 64) : value (digit n) = some n := by
  rw [← length_alphabet] at h
  rw [value, digit_eq h, List.idxOf?_eq_some_iff]
  refine ⟨h, rfl, fun m hm heq => ?_⟩
  have hindex : m = n := (nodup_alphabet.getElem_inj_iff).1 heq
  omega

theorem mapM_value (h : ∀ n ∈ ns, n < 64) : (ns.map digit).mapM value = some ns := by
  induction ns with
  | nil => rfl
  | cons n ns ih =>
    have hn : n < 64 := h n List.mem_cons_self
    have hns : (ns.map digit).mapM value = some ns := ih fun m hm => h m (List.mem_cons_of_mem n hm)
    simp [value_digit hn, hns]

/-! ### The padding -/

theorem not_isSuffixOf (h : ∀ c ∈ s, c ≠ padding) (t : Str) :
    (t ++ [padding]).isSuffixOf s = false := by
  refine Bool.eq_false_iff.2 fun hsuffix => ?_
  have hmem : padding ∈ s := (List.isSuffixOf_iff_suffix.1 hsuffix).subset (by simp)
  exact h padding hmem rfl

/-- The padding that is missing is taken away again. -/
theorem unpad_append (h : ∀ c ∈ s, c ≠ padding) (hlength : s.length % 4 ≠ 1) :
    unpad (s ++ List.replicate (missing s) padding) = s := by
  have hfour : (s ++ List.replicate (missing s) padding).length % 4 = 0 := by
    rw [List.length_append, List.length_replicate, missing]
    omega
  rw [unpad, if_pos hfour]
  -- No character is left alone, so three are never missing.
  have hcases : missing s = 0 ∨ missing s = 1 ∨ missing s = 2 := by
    rw [missing]
    omega
  rcases hcases with hzero | hone | htwo
  · have htwice : [padding, padding].isSuffixOf s = false := not_isSuffixOf h [padding]
    have honce : [padding].isSuffixOf s = false := not_isSuffixOf h []
    rw [hzero, List.replicate_zero, List.append_nil, htwice, honce]
    rfl
  · have htwice : [padding, padding].isSuffixOf (s ++ [padding]) = false := by
      refine Bool.eq_false_iff.2 fun hsuffix => ?_
      have hsuffix' : [padding] ++ [padding] <:+ s ++ [padding] :=
        List.isSuffixOf_iff_suffix.1 hsuffix
      have hmem : padding ∈ s := (List.suffix_append_self_iff.1 hsuffix').subset (by simp)
      exact h padding hmem rfl
    have honce : [padding].isSuffixOf (s ++ [padding]) = true :=
      List.isSuffixOf_iff_suffix.2 (List.suffix_append s [padding])
    rw [hone, List.replicate_one, htwice, honce]
    simp
  · have htwice : [padding, padding].isSuffixOf (s ++ [padding, padding]) = true :=
      List.isSuffixOf_iff_suffix.2 (List.suffix_append s [padding, padding])
    rw [htwo, show List.replicate 2 padding = [padding, padding] from rfl, htwice]
    simp

/-- **Padded characters** are read as their bits. -/
theorem atob_pad (h : ∀ n ∈ ns, n < 64) (hlength : ns.length % 4 ≠ 1) :
    atob (ns.map digit ++ List.replicate (missing (ns.map digit)) padding) = some (octets ns) := by
  have hdigit : ∀ c ∈ ns.map digit, c ≠ padding ∧ isSpace c = false := by
    intro c hc
    obtain ⟨n, hn, rfl⟩ := List.mem_map.1 hc
    exact plain_alphabet (digit n) (digit_mem (h n hn))
  have hfilter : (ns.map digit ++ List.replicate (missing (ns.map digit)) padding).filter
      (fun c => !isSpace c) = ns.map digit ++ List.replicate (missing (ns.map digit)) padding := by
    refine List.filter_eq_self.2 fun c hc => ?_
    rcases List.mem_append.1 hc with hc | hc
    · rw [(hdigit c hc).2]
      rfl
    · rw [List.eq_of_mem_replicate hc]
      rfl
  have hunpad : unpad (ns.map digit ++ List.replicate (missing (ns.map digit)) padding) =
      ns.map digit :=
    unpad_append (fun c hc => (hdigit c hc).1) (by rwa [List.length_map])
  rw [atob, hfilter, hunpad, if_neg (by rwa [List.length_map]), mapM_value h]
  rfl

end Base64

end RemitBridge
