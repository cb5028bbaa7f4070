import RemitBridge.Json.Utf8

/-!
# Texts of ASCII

The case of letters, hexadecimal digits, and the bytes of a text of ASCII.  How a script changes the
case of other texts is a parameter (`Unicode`).
-/

namespace RemitBridge

namespace Ascii

open Json

/-- Every code unit is one of ASCII. -/
def IsAscii (s : Str) : Prop := ∀ c ∈ s, c.toNat < 0x80

instance (s : Str) : Decidable (IsAscii s) :=
  List.decidableBAll (fun c : UInt16 => c.toNat < 0x80) s

def isUpper (c : UInt16) : Bool := unit 'A' ≤ c && c ≤ unit 'Z'

def isLower (c : UInt16) : Bool := unit 'a' ≤ c && c ≤ unit 'z'

def upper (c : UInt16) : UInt16 := if isLower c then c - 32 else c

def lower (c : UInt16) : UInt16 := if isUpper c then c + 32 else c

/-- How the case of a text is changed that is not of ASCII. -/
structure Unicode where
  upper : Str → Str
  lower : Str → Str

def toUpperCase (U : Unicode) (s : Str) : Str := if IsAscii s then s.map upper else U.upper s

def toLowerCase (U : Unicode) (s : Str) : Str := if IsAscii s then s.map lower else U.lower s

variable {U : Unicode} {s t : Str} {c : UInt16}

theorem isAscii_cons : IsAscii (c :: s) ↔ c.toNat < 0x80 ∧ IsAscii s := List.forall_mem_cons

theorem toUpperCase_of_isAscii (h : IsAscii s) : toUpperCase U s = s.map upper := if_pos h

theorem toLowerCase_of_isAscii (h : IsAscii s) : toLowerCase U s = s.map lower := if_pos h

/-! ### Bytes -/

theorem not_surrogate (h : c.toNat < 0x80) : isHigh c = false ∧ isLow c = false := by
  have hall : ∀ n < 0x80, isHigh n.toUInt16 = false ∧ isLow n.toUInt16 = false := by decide
  have hc := hall c.toNat h
  rwa [show c.toNat.toUInt16 = c from UInt16.ofNat_toNat] at hc

theorem points_eq (h : IsAscii s) : Utf8.points s = s.map UInt16.toNat := by
  fun_induction Utf8.points s with
  | case1 => rfl
  | case2 c =>
    obtain ⟨hhigh, hlow⟩ := not_surrogate (isAscii_cons.1 h).1
    simp [hhigh, hlow]
  | case3 c d s hpair =>
    obtain ⟨hhigh, -⟩ := not_surrogate (isAscii_cons.1 h).1
    rw [hhigh] at hpair
    cases hpair
  | case4 c d s hpair ih =>
    obtain ⟨hhigh, hlow⟩ := not_surrogate (isAscii_cons.1 h).1
    rw [ih (isAscii_cons.1 h).2]
    simp [hhigh, hlow]

/-- A text of ASCII has one byte for each of its code units. -/
theorem encode_eq (h : IsAscii s) : Utf8.encode s = s.map UInt16.toUInt8 := by
  rw [Utf8.encode, points_eq h, List.flatMap_map]
  have hunit : ∀ c ∈ s, Utf8.encodePoint c.toNat = [c.toUInt8] := by
    intro c hc
    rw [Utf8.encodePoint, if_pos (h c hc)]
    rfl
  induction s with
  | nil => rfl
  | cons c s ih =>
    rw [List.flatMap_cons, hunit c List.mem_cons_self, List.map_cons, ih (isAscii_cons.1 h).2
      fun d hd => hunit d (List.mem_cons_of_mem _ hd)]
    rfl

theorem isAscii_of_points (h : ∀ n ∈ Utf8.points s, n < 0x80) : IsAscii s := by
  -- Neither a pair nor what replaces half of a pair is of ASCII.
  have hreplacement : ¬ Utf8.replacement < 0x80 := by decide
  fun_induction Utf8.points s with
  | case1 => exact fun c hc => absurd hc List.not_mem_nil
  | case2 c =>
    have hc := h _ List.mem_cons_self
    split_ifs at hc with hsurrogate
    · exact absurd hc hreplacement
    · exact isAscii_cons.2 ⟨hc, fun d hd => absurd hd List.not_mem_nil⟩
  | case3 c d s hpair =>
    have hc := h _ List.mem_cons_self
    omega
  | case4 c d s hpair ih =>
    have hc := h _ List.mem_cons_self
    have hs := ih fun n hn => h n (List.mem_cons_of_mem _ hn)
    split_ifs at hc with hsurrogate
    · exact absurd hc hreplacement
    · exact isAscii_cons.2 ⟨hc, hs⟩

/-- No other text has the bytes of a text of ASCII. -/
theorem eq_of_encode (ht : IsAscii t) (h : Utf8.encode s = Utf8.encode t) : s = t := by
  have hpoints : Utf8.points s = t.map UInt16.toNat := by
    rw [Utf8.points_eq_of_encode h, points_eq ht]
  have hs : IsAscii s := by
    refine isAscii_of_points fun n hn => ?_
    rw [hpoints] at hn
    obtain ⟨c, hc, rfl⟩ := List.mem_map.1 hn
    exact ht c hc
  rw [points_eq hs] at hpoints
  exact List.map_injective_iff.2 (fun _ _ => UInt16.toNat_inj.1) hpoints

theorem toUInt8_inj {c d : UInt16} (hc : c.toNat < 0x80) (hd : d.toNat < 0x80) :
    c.toUInt8 = d.toUInt8 ↔ c = d := by
  constructor
  · intro h
    have hnat := congrArg UInt8.toNat h
    rw [UInt16.toNat_toUInt8, UInt16.toNat_toUInt8, Nat.mod_eq_of_lt (by omega),
      Nat.mod_eq_of_lt (by omega)] at hnat
    exact UInt16.toNat_inj.1 hnat
  · intro h
    rw [h]

end Ascii

namespace Hex

open Json Ascii

/-- Bytes in hexadecimal digits. -/
def encode (bytes : List UInt8) : Str :=
  bytes.flatMap fun b => [hexUnit (b.toNat / 16), hexUnit (b.toNat % 16)]

/-- The bytes that hexadecimal digits stand for, in either case. -/
def decode : Str → Option (List UInt8)
  | [] => some []
  | [_] => none
  | c :: d :: s => do
    let high ← hexValue c
    let low ← hexValue d
    let bytes ← decode s
    some ((high * 16 + low).toUInt8 :: bytes)

variable {U : Unicode} {s : Str} {c : UInt16} {n : ℕ} {bytes bytes' : List UInt8}

theorem hexUnit_inj {m n : ℕ} (hm : m < 16) (hn : n < 16) (h : hexUnit m = hexUnit n) : m = n := by
  have hvalue := congrArg hexValue h
  rw [Lexer.hexValue_hexUnit hm, Lexer.hexValue_hexUnit hn] at hvalue
  exact Option.some.inj hvalue

theorem encode_inj (h : encode bytes = encode bytes') : bytes = bytes' := by
  induction bytes generalizing bytes' with
  | nil => cases bytes' <;> simp [encode] at h ⊢
  | cons b bytes ih =>
    cases bytes' with
    | nil => simp [encode] at h
    | cons b' bytes' =>
      simp only [encode, List.flatMap_cons, List.cons_append, List.nil_append, List.cons.injEq] at h
      have hb := b.toNat_lt
      have hb' := b'.toNat_lt
      have hhigh := hexUnit_inj (by omega) (by omega) h.1
      have hlow := hexUnit_inj (by omega) (by omega) h.2.1
      rw [ih h.2.2, UInt8.toNat_inj.1 (by omega : b.toNat = b'.toNat)]

/-- What holds of every digit holds of a text of digits. -/
theorem forall_mem_encode {P : UInt16 → Prop} (h : ∀ n < 16, P (hexUnit n)) :
    ∀ c ∈ encode bytes, P c := by
  intro c hc
  obtain ⟨b, -, hmem⟩ := List.mem_flatMap.1 hc
  have hb := b.toNat_lt
  simp only [List.mem_cons, List.not_mem_nil, or_false] at hmem
  rcases hmem with rfl | rfl
  · exact h _ (by omega)
  · exact h _ (by omega)

theorem wellFormed_encode (bytes : List UInt8) : wellFormed (encode bytes) = true :=
  wellFormed_of_lt (forall_mem_encode fun _ => hexUnit_lt)

/-- A digit in lower case. -/
theorem lower_of_hexValue (h : hexValue c = some n) :
    c.toNat < 0x80 ∧ n < 16 ∧ lower c = hexUnit n := by
  have hall : ∀ m < 0x80, ∀ n ∈ hexValue m.toUInt16, n < 16 ∧ lower m.toUInt16 = hexUnit n := by
    decide
  have hlt : c.toNat < 0x80 := by
    by_contra hlarge
    have hnot : ∀ d : UInt16, d.toNat < 0x80 → ¬ c ≤ d := by
      intro d hd hle
      exact hlarge (Nat.lt_of_le_of_lt (UInt16.le_iff_toNat_le.1 hle) hd)
    have hnone : hexValue c = none := by
      simp [hexValue, isDigit, hnot (unit '9') (by decide), hnot (unit 'f') (by decide),
        hnot (unit 'F') (by decide)]
    rw [hnone] at h
    cases h
  have hc := hall c.toNat hlt n
  rw [show c.toNat.toUInt16 = c from UInt16.ofNat_toNat] at hc
  exact ⟨hlt, hc h⟩

/-- In lower case there is one text for some bytes. -/
theorem toLowerCase_of_decode (h : decode s = some bytes) : toLowerCase U s = encode bytes := by
  have hboth : ∀ {s bytes}, decode s = some bytes → IsAscii s ∧ s.map lower = encode bytes := by
    intro s bytes h
    fun_induction decode s generalizing bytes with
    | case1 =>
      cases h
      exact ⟨by decide, rfl⟩
    | case2 => cases h
    | case3 c d s ih =>
      simp only [Option.bind_eq_bind, Option.bind_eq_some_iff] at h
      obtain ⟨high, hhigh, low, hlow, rest, hrest, heq⟩ := h
      cases heq
      obtain ⟨hc, hhigh16, hupper⟩ := lower_of_hexValue hhigh
      obtain ⟨hd, hlow16, hlower⟩ := lower_of_hexValue hlow
      obtain ⟨hascii, hmap⟩ := ih hrest
      have hbyte : (high * 16 + low).toUInt8.toNat = high * 16 + low :=
        Nat.mod_eq_of_lt (by omega)
      refine ⟨isAscii_cons.2 ⟨hc, isAscii_cons.2 ⟨hd, hascii⟩⟩, ?_⟩
      rw [List.map_cons, List.map_cons, hupper, hlower, hmap, encode, encode,
        List.flatMap_cons, hbyte,
        show (high * 16 + low) / 16 = high by omega, show (high * 16 + low) % 16 = low by omega]
      rfl
  rw [toLowerCase_of_isAscii (hboth h).1, (hboth h).2]

theorem isAscii_encode (bytes : List UInt8) : IsAscii (encode bytes) :=
  forall_mem_encode (by decide)

theorem toLowerCase_encode (bytes : List UInt8) : toLowerCase U (encode bytes) = encode bytes := by
  rw [toLowerCase_of_isAscii (isAscii_encode bytes)]
  have hlower : ∀ c ∈ encode bytes, lower c = c := forall_mem_encode (by decide)
  rw [List.map_congr_left hlower, List.map_id']

end Hex

end RemitBridge
