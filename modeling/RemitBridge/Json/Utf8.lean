import RemitBridge.Json.RoundTrip

/-!
# Texts as bytes

How a script decodes bytes as UTF-8 and encodes a text.  The decoder never fails: it puts U+FFFD in
the place of what is not UTF-8, so what it yields is a sequence of characters whatever the bytes are
(`wellFormed_decode`), and such a sequence is decoded from its encoding (`decode_encode`).
-/

namespace RemitBridge

namespace Utf8

open Json

/-- The replacement character. -/
def replacement : ℕ := 0xFFFD

/-! ### Decoding -/

/-- The decoder: between two characters, or in one.  In one it knows how many bytes have to follow
the next one, the bits it has read, and the range of the next byte. -/
inductive Decoder where
  | idle
  | pending (more bits lower upper : ℕ)

namespace Decoder

/-- The first byte of a character. -/
def first (b : ℕ) : List ℕ × Decoder :=
  if b < 0x80 then ([b], idle)
  else if 0xC2 ≤ b ∧ b ≤ 0xDF then ([], pending 0 (b - 0xC0) 0x80 0xBF)
  else if b = 0xE0 then ([], pending 1 0x0 0xA0 0xBF)
  else if b = 0xED then ([], pending 1 0xD 0x80 0x9F)
  else if 0xE1 ≤ b ∧ b ≤ 0xEF then ([], pending 1 (b - 0xE0) 0x80 0xBF)
  else if b = 0xF0 then ([], pending 2 0 0x90 0xBF)
  else if b = 0xF4 then ([], pending 2 4 0x80 0x8F)
  else if 0xF1 ≤ b ∧ b ≤ 0xF3 then ([], pending 2 (b - 0xF0) 0x80 0xBF)
  else ([replacement], idle)

/-- The next byte of a character. -/
def next : ℕ → ℕ → List ℕ × Decoder
  | 0, bits => ([bits], idle)
  | more + 1, bits => ([], pending more bits 0x80 0xBF)

/-- The code points that a byte completes.  A byte that does not fit into the character that was
begun begins another one. -/
def step : Decoder → ℕ → List ℕ × Decoder
  | idle, b => first b
  | pending more bits lower upper, b =>
    if lower ≤ b ∧ b ≤ upper then next more (bits * 64 + (b - 0x80))
    else (replacement :: (first b).1, (first b).2)

def finish : Decoder → List ℕ
  | idle => []
  | pending .. => [replacement]

def run (d : Decoder) : List UInt8 → List ℕ
  | [] => d.finish
  | b :: bytes => (d.step b.toNat).1 ++ run (d.step b.toNat).2 bytes

end Decoder

/-- The code units of a code point. -/
def utf16 (n : ℕ) : Str :=
  if n < 0x10000 then [n.toUInt16]
  else [(0xD800 + (n - 0x10000) / 1024).toUInt16, (0xDC00 + (n - 0x10000) % 1024).toUInt16]

def decode (bytes : List UInt8) : Str := (Decoder.idle.run bytes).flatMap utf16

/-- A text without the byte order mark at its beginning. -/
def dropBom : Str → Str
  | [] => []
  | c :: s => if c = bom then s else c :: s

/-- The text of bytes that are read as UTF-8 and may begin with a byte order mark. -/
def text (bytes : List UInt8) : Str := dropBom (decode bytes)

/-! ### Encoding -/

/-- The code points of a text; what is no character is replaced. -/
def points : Str → List ℕ
  | [] => []
  | [c] => [if isHigh c || isLow c then replacement else c.toNat]
  | c :: d :: s =>
    if isHigh c && isLow d then
      (0x10000 + (c.toNat - 0xD800) * 1024 + (d.toNat - 0xDC00)) :: points s
    else (if isHigh c || isLow c then replacement else c.toNat) :: points (d :: s)

def encodePoint (n : ℕ) : List UInt8 :=
  if n < 0x80 then [n.toUInt8]
  else if n < 0x800 then [(0xC0 + n / 64).toUInt8, (0x80 + n % 64).toUInt8]
  else if n < 0x10000 then
    [(0xE0 + n / 4096).toUInt8, (0x80 + n / 64 % 64).toUInt8, (0x80 + n % 64).toUInt8]
  else
    [(0xF0 + n / 262144).toUInt8, (0x80 + n / 4096 % 64).toUInt8, (0x80 + n / 64 % 64).toUInt8,
      (0x80 + n % 64).toUInt8]

def encode (s : Str) : List UInt8 := (points s).flatMap encodePoint

/-! ### Decoding what was encoded -/

variable {n : ℕ} {bytes : List UInt8} {s t : Str} {c d : UInt16}

/-- The code point is a character. -/
def Scalar (n : ℕ) : Prop := n < 0xD800 ∨ (0xE000 ≤ n ∧ n < 0x110000)

namespace Decoder

theorem run_cons_toUInt8 (d : Decoder) {b : ℕ} (h : b < 256) :
    d.run (b.toUInt8 :: bytes) = (d.step b).1 ++ (d.step b).2.run bytes := by
  have hb : b.toUInt8.toNat = b := Nat.mod_eq_of_lt h
  rw [run, hb]

/-- A byte in its range is read. -/
theorem run_pending {more bits lower upper b : ℕ} (h : lower ≤ b ∧ b ≤ upper) (hb : b < 256) :
    (pending more bits lower upper).run (b.toUInt8 :: bytes) =
      (next more (bits * 64 + (b - 0x80))).1 ++
        (next more (bits * 64 + (b - 0x80))).2.run bytes := by
  rw [run_cons_toUInt8 _ hb, step, if_pos h]

/-- The first of two bytes. -/
theorem first_two (h : 0x80 ≤ n ∧ n < 0x800) :
    first (0xC0 + n / 64) = ([], pending 0 (n / 64) 0x80 0xBF) := by
  rw [first, if_neg (by omega), if_pos (by omega), Nat.add_sub_cancel_left]

/-- The first of three bytes, and the range of the second. -/
theorem first_three (h : 0x800 ≤ n ∧ n < 0x10000) (hn : Scalar n) :
    ∃ lower upper, first (0xE0 + n / 4096) = ([], pending 1 (n / 4096) lower upper) ∧
      lower ≤ 0x80 + n / 64 % 64 ∧ 0x80 + n / 64 % 64 ≤ upper := by
  simp only [Scalar] at hn
  by_cases hlow : n / 4096 = 0x0
  · refine ⟨0xA0, 0xBF, ?_, by omega⟩
    rw [hlow]
    rfl
  · by_cases hsurrogate : n / 4096 = 0xD
    · refine ⟨0x80, 0x9F, ?_, by omega⟩
      rw [hsurrogate]
      rfl
    · refine ⟨0x80, 0xBF, ?_, by omega⟩
      rw [first, if_neg (by omega), if_neg (by omega), if_neg (by omega), if_neg (by omega),
        if_pos (by omega), Nat.add_sub_cancel_left]

/-- The first of four bytes, and the range of the second. -/
theorem first_four (h : 0x10000 ≤ n) (hn : Scalar n) :
    ∃ lower upper, first (0xF0 + n / 262144) = ([], pending 2 (n / 262144) lower upper) ∧
      lower ≤ 0x80 + n / 4096 % 64 ∧ 0x80 + n / 4096 % 64 ≤ upper := by
  simp only [Scalar] at hn
  by_cases hlow : n / 262144 = 0
  · refine ⟨0x90, 0xBF, ?_, by omega⟩
    rw [hlow]
    rfl
  · by_cases hhigh : n / 262144 = 4
    · refine ⟨0x80, 0x8F, ?_, by omega⟩
      rw [hhigh]
      rfl
    · refine ⟨0x80, 0xBF, ?_, by omega⟩
      rw [first, if_neg (by omega), if_neg (by omega), if_neg (by omega), if_neg (by omega),
        if_neg (by omega), if_neg (by omega), if_neg (by omega), if_pos (by omega),
        Nat.add_sub_cancel_left]

/-- A character is decoded from its bytes. -/
theorem run_encodePoint (hn : Scalar n) :
    idle.run (encodePoint n ++ bytes) = n :: idle.run bytes := by
  have hlast : ∀ k, 0x80 ≤ 0x80 + k % 64 ∧ 0x80 + k % 64 ≤ 0xBF := fun k => by omega
  have hsub : ∀ k, 0x80 + k % 64 - 0x80 = k % 64 := fun k => Nat.add_sub_cancel_left 0x80 (k % 64)
  have hbyte : ∀ k, 0x80 + k % 64 < 256 := fun k => by omega
  rw [encodePoint]
  split_ifs with h₁ h₂ h₃
  · rw [List.singleton_append, run_cons_toUInt8 _ (by omega), step, first, if_pos h₁]
    rfl
  · rw [List.cons_append, List.singleton_append, run_cons_toUInt8 _ (by omega), step,
      first_two ⟨Nat.not_lt.1 h₁, h₂⟩, List.nil_append, run_pending (hlast n) (hbyte n), hsub]
    show (n / 64 * 64 + n % 64) :: idle.run bytes = _
    rw [Nat.div_add_mod']
  · obtain ⟨lower, upper, hfirst, hrange⟩ := first_three ⟨Nat.not_lt.1 h₂, h₃⟩ hn
    rw [List.cons_append, List.cons_append, List.singleton_append,
      run_cons_toUInt8 _ (by omega), step, hfirst, List.nil_append,
      run_pending hrange (hbyte _), hsub]
    show (pending 0 (n / 4096 * 64 + n / 64 % 64) 0x80 0xBF).run _ = _
    rw [run_pending (hlast n) (hbyte n), hsub]
    -- The bytes hold the digits of the character to base 64.
    have hbits : (n / 4096 * 64 + n / 64 % 64) * 64 + n % 64 = n := by omega
    show ((n / 4096 * 64 + n / 64 % 64) * 64 + n % 64) :: idle.run bytes = _
    rw [hbits]
  · have hlarge : n / 262144 < 5 := by
      simp only [Scalar] at hn
      omega
    obtain ⟨lower, upper, hfirst, hrange⟩ := first_four (Nat.not_lt.1 h₃) hn
    rw [List.cons_append, List.cons_append, List.cons_append, List.singleton_append,
      run_cons_toUInt8 _ (by omega), step, hfirst, List.nil_append,
      run_pending hrange (hbyte _), hsub]
    show (pending 1 (n / 262144 * 64 + n / 4096 % 64) 0x80 0xBF).run _ = _
    rw [run_pending (hlast _) (hbyte _), hsub]
    show (pending 0 ((n / 262144 * 64 + n / 4096 % 64) * 64 + n / 64 % 64) 0x80 0xBF).run _ = _
    rw [run_pending (hlast n) (hbyte n), hsub]
    have hbits : ((n / 262144 * 64 + n / 4096 % 64) * 64 + n / 64 % 64) * 64 + n % 64 = n := by
      omega
    show (((n / 262144 * 64 + n / 4096 % 64) * 64 + n / 64 % 64) * 64 + n % 64) ::
      idle.run bytes = _
    rw [hbits]

end Decoder

/-! ### The characters of a text -/

theorem isHigh_iff : isHigh c = true ↔ 0xD800 ≤ c.toNat ∧ c.toNat < 0xDC00 := by
  rw [isHigh, Bool.and_eq_true, decide_eq_true_iff, decide_eq_true_iff, UInt16.le_iff_toNat_le,
    UInt16.lt_iff_toNat_lt]
  rfl

theorem isLow_iff : isLow c = true ↔ 0xDC00 ≤ c.toNat ∧ c.toNat < 0xE000 := by
  rw [isLow, Bool.and_eq_true, decide_eq_true_iff, decide_eq_true_iff, UInt16.le_iff_toNat_le,
    UInt16.lt_iff_toNat_lt]
  rfl

theorem scalar_replacement : Scalar replacement := .inr (by decide)

theorem scalar_unit (c : UInt16) :
    Scalar (if isHigh c || isLow c then replacement else c.toNat) := by
  by_cases h : (isHigh c || isLow c) = true
  · rw [if_pos h]
    exact scalar_replacement
  · rw [if_neg h]
    rw [Bool.or_eq_true, isHigh_iff, isLow_iff] at h
    have hlt : c.toNat < 0x10000 := c.toNat_lt
    simp only [Scalar]
    omega

theorem scalar_points (s : Str) : ∀ n ∈ points s, Scalar n := by
  fun_induction points s with
  | case1 => exact fun n hn => absurd hn List.not_mem_nil
  | case2 c => exact List.forall_mem_singleton.2 (scalar_unit c)
  | case3 c d s hpair ih =>
    refine List.forall_mem_cons.2 ⟨?_, ih⟩
    rw [Bool.and_eq_true, isHigh_iff, isLow_iff] at hpair
    exact .inr (by omega)
  | case4 c d s _ ih => exact List.forall_mem_cons.2 ⟨scalar_unit c, ih⟩

theorem toUInt16_toNat (c : UInt16) : c.toNat.toUInt16 = c := UInt16.ofNat_toNat

theorem utf16_toNat (c : UInt16) : utf16 c.toNat = [c] := by
  rw [utf16, if_pos c.toNat_lt, toUInt16_toNat]

/-- The two halves of a pair are found in its code point. -/
theorem utf16_pair (hc : isHigh c = true) (hd : isLow d = true) :
    utf16 (0x10000 + (c.toNat - 0xD800) * 1024 + (d.toNat - 0xDC00)) = [c, d] := by
  rw [isHigh_iff] at hc
  rw [isLow_iff] at hd
  have hhigh :
      0xD800 + (0x10000 + (c.toNat - 0xD800) * 1024 + (d.toNat - 0xDC00) - 0x10000) / 1024 =
      c.toNat := by omega
  have hlow : 0xDC00 + (0x10000 + (c.toNat - 0xD800) * 1024 + (d.toNat - 0xDC00) - 0x10000) % 1024 =
      d.toNat := by omega
  rw [utf16, if_neg (by omega), hhigh, hlow, toUInt16_toNat, toUInt16_toNat]

/-- A sequence of characters is that of its code points. -/
theorem flatMap_points (h : wellFormed s = true) : (points s).flatMap utf16 = s := by
  fun_induction points s with
  | case1 => rfl
  | case2 c =>
    rw [wellFormed, Bool.and_eq_true, Bool.not_eq_true', Bool.not_eq_true'] at h
    rw [h.1, h.2, List.flatMap_singleton]
    exact utf16_toNat c
  | case3 c d s hpair ih =>
    rw [Bool.and_eq_true] at hpair
    rw [wellFormed, if_pos hpair.1, Bool.and_eq_true] at h
    rw [List.flatMap_cons, utf16_pair hpair.1 hpair.2, ih h.2]
    rfl
  | case4 c d s hpair ih =>
    have hhigh : isHigh c = false := by
      by_contra hhigh
      rw [Bool.not_eq_false] at hhigh
      rw [wellFormed, if_pos hhigh, Bool.and_eq_true] at h
      exact hpair (Bool.and_eq_true_iff.2 ⟨hhigh, h.1⟩)
    rw [wellFormed_cons hhigh, Bool.and_eq_true, Bool.not_eq_true'] at h
    rw [hhigh, h.1, List.flatMap_cons, ih h.2]
    exact congrArg (· ++ d :: s) (utf16_toNat c)

theorem run_flatMap {ns : List ℕ} (h : ∀ n ∈ ns, Scalar n) :
    Decoder.idle.run (ns.flatMap encodePoint) = ns := by
  induction ns with
  | nil => rfl
  | cons n ns ih =>
    obtain ⟨hn, hns⟩ := List.forall_mem_cons.1 h
    rw [List.flatMap_cons, Decoder.run_encodePoint hn, ih hns]

/-- **A sequence of characters** is decoded from its encoding. -/
theorem decode_encode (h : wellFormed s = true) : decode (encode s) = s := by
  rw [decode, encode, run_flatMap (scalar_points s), flatMap_points h]

/-- The bytes tell the code points. -/
theorem points_eq_of_encode (h : encode s = encode t) : points s = points t := by
  have hs : Decoder.idle.run (encode s) = points s := run_flatMap (scalar_points s)
  have ht : Decoder.idle.run (encode t) = points t := run_flatMap (scalar_points t)
  rw [← hs, h, ht]

theorem points_ne_nil (h : s ≠ []) : points s ≠ [] := by
  fun_cases points s with
  | case1 => exact absurd rfl h
  | case2 c => simp
  | case3 c d s hpair => simp
  | case4 c d s hpair => simp

theorem encode_ne_nil (h : s ≠ []) : encode s ≠ [] := by
  intro hnil
  exact points_ne_nil h (points_eq_of_encode (t := []) hnil)

/-! ### What is decoded -/

/-- Any bytes that fit complete a character. -/
def Completes : ℕ → ℕ → ℕ → ℕ → Prop
  | 0, bits, lower, upper => ∀ b, lower ≤ b → b ≤ upper → Scalar (bits * 64 + (b - 0x80))
  | more + 1, bits, lower, upper =>
    ∀ b, lower ≤ b → b ≤ upper → Completes more (bits * 64 + (b - 0x80)) 0x80 0xBF

namespace Decoder

/-- The decoder can only complete characters. -/
def Sound : Decoder → Prop
  | idle => True
  | pending more bits lower upper => Completes more bits lower upper

theorem sound_first (b : ℕ) : (∀ n ∈ (first b).1, Scalar n) ∧ (first b).2.Sound := by
  have hnil : ∀ n ∈ ([] : List ℕ), Scalar n := fun n hn => absurd hn List.not_mem_nil
  -- One case for each range of first bytes; each byte that follows is in the range it is given.
  fun_cases first b with
  | case1 => exact ⟨List.forall_mem_singleton.2 (.inl (by omega)), trivial⟩
  | case2 => exact ⟨hnil, fun b₁ hl hu => .inl (by omega)⟩
  | case3 => exact ⟨hnil, fun b₁ hl hu b₂ hl' hu' => .inl (by omega)⟩
  | case4 => exact ⟨hnil, fun b₁ hl hu b₂ hl' hu' => .inl (by omega)⟩
  | case5 =>
    refine ⟨hnil, fun b₁ hl hu b₂ hl' hu' => ?_⟩
    simp only [Scalar]
    omega
  | case6 => exact ⟨hnil, fun b₁ hl hu b₂ hl' hu' b₃ hl'' hu'' => .inr (by omega)⟩
  | case7 => exact ⟨hnil, fun b₁ hl hu b₂ hl' hu' b₃ hl'' hu'' => .inr (by omega)⟩
  | case8 => exact ⟨hnil, fun b₁ hl hu b₂ hl' hu' b₃ hl'' hu'' => .inr (by omega)⟩
  | case9 => exact ⟨List.forall_mem_singleton.2 scalar_replacement, trivial⟩

theorem sound_step {d : Decoder} (h : d.Sound) (b : ℕ) :
    (∀ n ∈ (d.step b).1, Scalar n) ∧ (d.step b).2.Sound := by
  cases d with
  | idle => exact sound_first b
  | pending more bits lower upper =>
    rw [step]
    by_cases hb : lower ≤ b ∧ b ≤ upper
    · rw [if_pos hb]
      cases more with
      | zero => exact ⟨List.forall_mem_singleton.2 (h b hb.1 hb.2), trivial⟩
      | succ more => exact ⟨fun n hn => absurd hn List.not_mem_nil, h b hb.1 hb.2⟩
    · rw [if_neg hb]
      exact ⟨List.forall_mem_cons.2 ⟨scalar_replacement, (sound_first b).1⟩, (sound_first b).2⟩

theorem scalar_run {d : Decoder} (h : d.Sound) (bytes : List UInt8) :
    ∀ n ∈ d.run bytes, Scalar n := by
  induction bytes generalizing d with
  | nil =>
    cases d with
    | idle => exact fun n hn => absurd hn List.not_mem_nil
    | pending => exact List.forall_mem_singleton.2 scalar_replacement
  | cons b bytes ih =>
    obtain ⟨hout, hnext⟩ := sound_step h b.toNat
    exact List.forall_mem_append.2 ⟨hout, ih hnext⟩

end Decoder

theorem toNat_toUInt16 (h : n < 0x10000) : n.toUInt16.toNat = n := Nat.mod_eq_of_lt h

theorem wellFormed_utf16 (h : Scalar n) : wellFormed (utf16 n) = true := by
  simp only [Scalar] at h
  rw [utf16]
  split_ifs with hsmall
  · have hhigh : isHigh n.toUInt16 = false := by
      rw [Bool.eq_false_iff, ne_eq, isHigh_iff, toNat_toUInt16 hsmall]
      omega
    have hlow : isLow n.toUInt16 = false := by
      rw [Bool.eq_false_iff, ne_eq, isLow_iff, toNat_toUInt16 hsmall]
      omega
    rw [wellFormed, hhigh, hlow]
    rfl
  · have hhigh : isHigh (0xD800 + (n - 0x10000) / 1024).toUInt16 = true := by
      rw [isHigh_iff, toNat_toUInt16 (by omega)]
      omega
    have hlow : isLow (0xDC00 + (n - 0x10000) % 1024).toUInt16 = true := by
      rw [isLow_iff, toNat_toUInt16 (by omega)]
      omega
    rw [wellFormed, if_pos hhigh, hlow]
    rfl

theorem wellFormed_flatMap_utf16 {ns : List ℕ} (h : ∀ n ∈ ns, Scalar n) :
    wellFormed (ns.flatMap utf16) = true := by
  induction ns with
  | nil => rfl
  | cons n ns ih =>
    obtain ⟨hn, hns⟩ := List.forall_mem_cons.1 h
    exact wellFormed_append (wellFormed_utf16 hn) (ih hns)

/-- **What is decoded** is a sequence of characters. -/
theorem wellFormed_decode (bytes : List UInt8) : wellFormed (decode bytes) = true :=
  wellFormed_flatMap_utf16 (Decoder.scalar_run (d := .idle) trivial bytes)

/-! ### Byte order marks -/

theorem dropBom_bom (s : Str) : dropBom (bom :: s) = s := by rw [dropBom, if_pos rfl]

theorem dropBom_of_ne (h : ∀ t, s ≠ bom :: t) : dropBom s = s := by
  cases s with
  | nil => rfl
  | cons c s => exact if_neg fun hc => h s (congrArg (· :: s) hc)

theorem wellFormed_dropBom (h : wellFormed s = true) : wellFormed (dropBom s) = true := by
  cases s with
  | nil => rfl
  | cons c s =>
    by_cases hc : c = bom
    · rw [hc, wellFormed_cons (by decide), Bool.and_eq_true] at h
      rw [hc, dropBom_bom]
      exact h.2
    · rw [dropBom, if_neg hc]
      exact h

theorem wellFormed_text (bytes : List UInt8) : wellFormed (text bytes) = true :=
  wellFormed_dropBom (wellFormed_decode bytes)

theorem text_encode (h : wellFormed s = true) : text (encode s) = dropBom s := by
  rw [text, decode_encode h]

/-! ### Objects -/

section

variable {N : Type} {F : NumberFormat N} {members : Members N}

/-- An object is not written with a byte order mark. -/
theorem dropBom_stringify (members : Members N) :
    dropBom (stringify F (.obj members)) = stringify F (.obj members) := by
  refine dropBom_of_ne fun t ht => ?_
  have hhead : (stringify F (.obj members)).head? = some (unit '{') := by
    cases members with
    | nil => rfl
    | cons m members => rfl
  rw [ht] at hhead
  exact absurd (Option.some.inj hhead) (by decide)

/-- **An object is read** from the bytes of its text. -/
theorem parse_text_encode (hF : Lawful F) (hwf : Wf (.obj members))
    (hfinite : Finite F (.obj members)) :
    Json.parse F (text (encode (stringify F (.obj members)))) =
    some (unsigned F (.obj members)) := by
  rw [text_encode (wellFormed_stringify hF _), dropBom_stringify, parse_stringify hF hfinite hwf]

end

end Utf8

end RemitBridge
