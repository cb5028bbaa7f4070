import RemitBridge.Data.Decimal
import RemitBridge.Escrow.Claims
import RemitBridge.Json.Ascii

/-!
# Claim codes

The code of a transfer is 32 symbols of an alphabet of 32.  Its bytes are what is shown to the
escrow, which keeps their hash.  A code is read aloud, written down and typed in, so every spelling
of it is normalised to the code (`Spells`), and the device accepts what the escrow accepts
(`survives_transcription`).
-/

namespace RemitBridge

namespace Mobile

open Json Ascii Decimal Escrow

/-! ### The code on the device -/

/-- Crockford's base 32, which leaves out `I`, `L`, `O` and `U`. -/
def alphabet : Str := units "0123456789ABCDEFGHJKMNPQRSTVWXYZ"

def claimCodeLength : ℕ := 32

/-- How many symbols are displayed together. -/
def groupSize : ℕ := 4

structure ClaimCode where
  code : Str
  hash : Str

/-- What comes of a code that is compared with a hash. -/
inductive ClaimVerification where
  | matched
  | malformed (reason : Str)
  | mismatch (actual expected : Str)

/-- A computation on the device: it may throw an error, and there is a list of all texts that it has
hashed. -/
abbrev Device (α : Type) : Type := ExceptT Str (StateM (List Str)) α

def isAlphanumeric (c : UInt16) : Bool := isDigit c || isUpper c

variable (U : Unicode) (sha256 : List UInt8 → BytesN 32)

/-- Write it in capitals, take away what is neither a letter nor a digit, and repair the two
slips. -/
def normaliseClaimCode (input : Str) : Str :=
  (((toUpperCase U input).filter isAlphanumeric).map fun c =>
    if c = unit 'I' ∨ c = unit 'L' then unit '1' else c).map fun c =>
      if c = unit 'O' then unit '0' else c

/-- Group for display. -/
def formatClaimCode (code : Str) : Str :=
  let canonical := normaliseClaimCode U code
  List.intercalate (units "-")
    ((List.range ((canonical.length + groupSize - 1) / groupSize)).map fun i =>
      (canonical.drop (groupSize * i)).take groupSize)

/-- A character that is two code units is not in the alphabet, and neither is one of the two. -/
def isCanonical (code : Str) : Bool := code.all fun c => decide (c ∈ alphabet)

def isWellFormedClaimCode (code : Str) : Bool :=
  let canonical := normaliseClaimCode U code
  canonical.length == claimCodeLength && isCanonical canonical

/-- Hash the bytes of a text. -/
def digestStringAsync (text : Str) : Device Str := do
  modify fun hashed => hashed ++ [text]
  pure (Hex.encode (sha256 (Utf8.encode text)).bytes)

def hashClaimCode (code : Str) : Device Str := do
  let canonical := normaliseClaimCode U code
  if canonical.length ≠ claimCodeLength then
    throw (units "a claim code is " ++ render claimCodeLength ++ units " characters; got " ++
      render canonical.length)
  if isCanonical canonical = false then
    throw (units "claim code contains a character outside the alphabet")
  digestStringAsync sha256 canonical

/-- Mint a code from random bytes. -/
def generateClaimCode (random : List UInt8) : Device ClaimCode := do
  let code := (List.range claimCodeLength).map fun index =>
    alphabet.get ⟨(random.getD index 0).toNat % alphabet.length, Nat.mod_lt _ (by decide)⟩
  let hash ← hashClaimCode U sha256 code
  pure ⟨code, hash⟩

/-- Check a code against the hash of a transfer. -/
def verifyClaimCode (code expectedHash : Str) : Device ClaimVerification := do
  if isWellFormedClaimCode U code = false then
    let canonical := normaliseClaimCode U code
    return .malformed (if canonical.length = 0 then units "no code entered"
      else units "expected " ++ render claimCodeLength ++ units " characters, got " ++
        render canonical.length)
  let actual ← hashClaimCode U sha256 code
  if toLowerCase U actual ≠ toLowerCase U expectedHash then return .mismatch actual expectedHash
  return .matched

/-! ### Spellings -/

structure Canonical (code : Str) : Prop where
  length_eq : code.length = claimCodeLength
  symbols : ∀ c ∈ code, c ∈ alphabet

/-- How a symbol may be written: in either case, a `1` also as `I` or `L`, and a `0` as `O`. -/
def Reads (a b : UInt16) : Prop :=
  b = a ∨ b = lower a ∨ (a = unit '1' ∧ b ∈ units "ILil") ∨ (a = unit '0' ∧ b ∈ units "Oo")

/-- A character of ASCII that is neither a letter nor a digit. -/
def Separator (b : UInt16) : Prop :=
  b.toNat < 0x80 ∧ isDigit b = false ∧ isUpper b = false ∧ isLower b = false

instance (b : UInt16) : Decidable (Separator b) :=
  inferInstanceAs (Decidable (b.toNat < 0x80 ∧ _ ∧ _ ∧ _))

/-- The second text is the first as somebody writes it. -/
inductive Spells : Str → Str → Prop where
  | nil : Spells [] []
  | symbol {a b : UInt16} {c s : Str} (h : Reads a b) (rest : Spells c s) : Spells (a :: c) (b :: s)
  | insert {b : UInt16} {c s : Str} (h : Separator b) (rest : Spells c s) : Spells c (b :: s)

/-- What is made of one character. -/
def repair (b : UInt16) : Str :=
  ((([upper b]).filter isAlphanumeric).map fun c =>
    if c = unit 'I' ∨ c = unit 'L' then unit '1' else c).map fun c =>
      if c = unit 'O' then unit '0' else c

variable {U sha256} {a b : UInt16} {c s t : Str}

/-- Texts of ASCII are normalised character by character. -/
theorem normaliseClaimCode_eq (h : IsAscii s) : normaliseClaimCode U s = s.flatMap repair := by
  rw [normaliseClaimCode, toUpperCase_of_isAscii h]
  clear h
  induction s with
  | nil => rfl
  | cons b s ih =>
    rw [List.flatMap_cons, ← ih, ← List.singleton_append (l := s), List.map_append,
      List.filter_append, List.map_append, List.map_append]
    rfl

theorem of_toNat_lt {P : UInt16 → Prop} (h : ∀ n < 0x80, P n.toUInt16) (hb : b.toNat < 0x80) :
    P b := by
  have hP := h b.toNat hb
  rwa [show b.toNat.toUInt16 = b from UInt16.ofNat_toNat] at hP

theorem repair_of_separator (h : Separator b) : repair b = [] :=
  of_toNat_lt (P := fun b => Separator b → repair b = []) (by decide) h.1 h

/-- What is checked of all characters of a text holds of each. -/
theorem of_mem {P : UInt16 → Prop} [DecidablePred P] (h : (s.all fun b => decide (P b)) = true)
    (hb : b ∈ s) : P b := of_decide_eq_true (List.all_eq_true.1 h b hb)

theorem isAscii_of_reads (ha : a ∈ alphabet) (h : Reads a b) : b.toNat < 0x80 := by
  rcases h with rfl | rfl | ⟨-, hb⟩ | ⟨-, hb⟩
  · exact of_mem (P := fun a => a.toNat < 0x80) (by decide) ha
  · exact of_mem (P := fun a => (lower a).toNat < 0x80) (by decide) ha
  · exact of_mem (P := fun b => b.toNat < 0x80) (by decide) hb
  · exact of_mem (P := fun b => b.toNat < 0x80) (by decide) hb

theorem repair_of_reads (ha : a ∈ alphabet) (h : Reads a b) : repair b = [a] := by
  rcases h with rfl | rfl | ⟨rfl, hb⟩ | ⟨rfl, hb⟩
  · exact of_mem (P := fun a => repair a = [a]) (by decide) ha
  · exact of_mem (P := fun a => repair (lower a) = [a]) (by decide) ha
  · exact of_mem (P := fun b => repair b = [unit '1']) (by decide) hb
  · exact of_mem (P := fun b => repair b = [unit '0']) (by decide) hb

namespace Spells

theorem isAscii (h : Spells c s) (hc : ∀ a ∈ c, a ∈ alphabet) : IsAscii s := by
  induction h with
  | nil => exact fun _ hb => absurd hb List.not_mem_nil
  | symbol hreads _ ih =>
    rw [List.forall_mem_cons] at hc
    exact isAscii_cons.2 ⟨isAscii_of_reads hc.1 hreads, ih hc.2⟩
  | insert hsep _ ih => exact isAscii_cons.2 ⟨hsep.1, ih hc⟩

/-- Every spelling of a code is normalised to it. -/
theorem normalise (h : Spells c s) (hc : ∀ a ∈ c, a ∈ alphabet) : normaliseClaimCode U s = c := by
  rw [normaliseClaimCode_eq (h.isAscii hc)]
  induction h with
  | nil => rfl
  | symbol hreads _ ih =>
    rw [List.forall_mem_cons] at hc
    rw [List.flatMap_cons, repair_of_reads hc.1 hreads, ih hc.2, List.singleton_append]
  | insert hsep _ ih => rw [List.flatMap_cons, repair_of_separator hsep, ih hc, List.nil_append]

theorem refl (c : Str) : Spells c c := by
  induction c with
  | nil => exact .nil
  | cons a c ih => exact .symbol (.inl rfl) ih

theorem append {c' s' : Str} (h : Spells c s) (h' : Spells c' s') : Spells (c ++ c') (s ++ s') := by
  induction h with
  | nil => exact h'
  | symbol hreads _ ih => exact .symbol hreads ih
  | insert hsep _ ih => exact .insert hsep ih

/-- Separators may stand between the parts of a code. -/
theorem intercalate (hb : Separator b) (parts : List Str) :
    Spells parts.flatten (List.intercalate [b] parts) := by
  induction parts with
  | nil => exact .nil
  | cons part parts ih =>
    cases parts with
    | nil =>
      rw [List.flatten_singleton, List.intercalate_singleton]
      exact refl part
    | cons part' parts =>
      rw [List.flatten_cons, List.intercalate_cons_cons, List.append_assoc]
      exact (refl part).append (.insert hb ih)

end Spells

/-- The groups of a code are the code. -/
theorem flatten_groups (n : ℕ) : ((List.range n).map fun i =>
    (c.drop (groupSize * i)).take groupSize).flatten = c.take (groupSize * n) := by
  induction n with
  | zero => rfl
  | succ n ih =>
    rw [List.range_succ, List.map_append, List.flatten_append, ih, Nat.mul_succ, List.take_add]
    simp

theorem spells_formatClaimCode (hc : ∀ a ∈ c, a ∈ alphabet) : Spells c (formatClaimCode U c) := by
  have hnormal : normaliseClaimCode U c = c := (Spells.refl c).normalise hc
  have hlength : c.length ≤ groupSize * ((c.length + groupSize - 1) / groupSize) := by
    simp only [groupSize]
    omega
  have h := Spells.intercalate (show Separator (unit '-') by decide)
    ((List.range ((c.length + groupSize - 1) / groupSize)).map fun i =>
      (c.drop (groupSize * i)).take groupSize)
  rw [flatten_groups, List.take_of_length_le hlength] at h
  rw [formatClaimCode, hnormal]
  exact h

/-! ### Bytes -/

/-- Whatever is normalised is of ASCII. -/
theorem isAscii_normaliseClaimCode : IsAscii (normaliseClaimCode U s) := by
  have hall : ∀ n ≤ 90, isAlphanumeric n.toUInt16 = true →
      (if (if n.toUInt16 = unit 'I' ∨ n.toUInt16 = unit 'L' then unit '1' else n.toUInt16) =
        unit 'O' then unit '0'
        else if n.toUInt16 = unit 'I' ∨ n.toUInt16 = unit 'L' then unit '1' else n.toUInt16).toNat
          < 0x80 := by decide
  intro c hc
  simp only [normaliseClaimCode, List.mem_map, List.mem_filter] at hc
  obtain ⟨_, ⟨b, ⟨-, hb⟩, rfl⟩, rfl⟩ := hc
  have hle : b.toNat ≤ 90 := by
    simp only [isAlphanumeric, isDigit, isUpper, Bool.or_eq_true, Bool.and_eq_true,
      decide_eq_true_eq, UInt16.le_iff_toNat_le] at hb
    rcases hb with hb | hb
    · exact hb.2.trans (by decide)
    · exact hb.2.trans (by decide)
  have h := hall b.toNat hle
  rw [show b.toNat.toUInt16 = b from UInt16.ofNat_toNat] at h
  exact h hb

theorem isAscii_alphabet : IsAscii alphabet := by decide

/-- A text of ASCII is made of the alphabet if its bytes are. -/
theorem mem_encode_alphabet (hs : IsAscii s) :
    (∀ b ∈ Utf8.encode s, b ∈ Utf8.encode alphabet) ↔ ∀ c ∈ s, c ∈ alphabet := by
  rw [encode_eq hs, encode_eq isAscii_alphabet, List.forall_mem_map]
  refine forall₂_congr fun c hc => ?_
  rw [List.mem_map]
  constructor
  · rintro ⟨d, hd, heq⟩
    rwa [← (toUInt8_inj (isAscii_alphabet d hd) (hs c hc)).1 heq]
  · intro hmem
    exact ⟨c, hmem, rfl⟩

/-- The bytes are 32 bytes of the alphabet. -/
def IsReveal (bytes : List UInt8) : Prop :=
  bytes.length = claimCodeLength ∧ ∀ b ∈ bytes, b ∈ Utf8.encode alphabet

theorem isCanonical_iff : isCanonical s = true ↔ ∀ c ∈ s, c ∈ alphabet := by
  simp [isCanonical]

theorem isWellFormedClaimCode_iff_canonical :
    isWellFormedClaimCode U s = true ↔ Canonical (normaliseClaimCode U s) := by
  rw [isWellFormedClaimCode, Bool.and_eq_true, beq_iff_eq, isCanonical_iff]
  constructor
  · rintro ⟨hlength, hsymbols⟩
    exact ⟨hlength, hsymbols⟩
  · intro h
    exact ⟨h.length_eq, h.symbols⟩

theorem isReveal_iff :
    IsReveal (Utf8.encode (normaliseClaimCode U s)) ↔ isWellFormedClaimCode U s = true := by
  have hascii : IsAscii (normaliseClaimCode U s) := isAscii_normaliseClaimCode
  rw [IsReveal, mem_encode_alphabet hascii, isWellFormedClaimCode_iff_canonical, encode_eq hascii,
    List.length_map]
  constructor
  · rintro ⟨hlength, hsymbols⟩
    exact ⟨hlength, hsymbols⟩
  · intro h
    exact ⟨h.length_eq, h.symbols⟩

theorem eq_of_bytes_eq {n : ℕ} {x y : BytesN n} (h : x.bytes = y.bytes) : x = y := by
  cases x
  cases y
  cases h
  rfl

/-! ### What the device does -/

variable {hashed : List Str} {expected : Str} {claimHash : BytesN 32}

theorem run_bind {α β : Type} {x : Device α} {f : α → Device β} {x' : α} {hashed' : List Str}
    (h : x.run.run hashed = (.ok x', hashed')) :
    (x >>= f).run.run hashed = (f x').run.run hashed' := by
  rw [ExceptT.run_bind, StateT.run_bind, h]
  rfl

theorem hashClaimCode_run (h : isWellFormedClaimCode U s = true) :
    (hashClaimCode U sha256 s).run.run hashed =
      (.ok (Hex.encode (sha256 (Utf8.encode (normaliseClaimCode U s))).bytes),
        hashed ++ [normaliseClaimCode U s]) := by
  obtain ⟨hlength, hsymbols⟩ := isWellFormedClaimCode_iff_canonical.1 h
  have hcanonical := isCanonical_iff.2 hsymbols
  simp only [hashClaimCode]
  rw [if_neg (not_not.2 hlength), if_neg (by simp [hcanonical])]
  rfl

/-- A malformed code is not hashed. -/
theorem verifyClaimCode_run_of_malformed (h : isWellFormedClaimCode U s = false) :
    ∃ reason, (verifyClaimCode U sha256 s expected).run.run hashed =
      (.ok (.malformed reason), hashed) := by
  simp only [verifyClaimCode]
  rw [if_pos h]
  exact ⟨_, rfl⟩

theorem verifyClaimCode_run (h : isWellFormedClaimCode U s = true)
    (hexpected : Hex.decode expected = some claimHash.bytes) :
    (verifyClaimCode U sha256 s expected).run.run hashed =
      (.ok (if sha256 (Utf8.encode (normaliseClaimCode U s)) = claimHash then .matched
        else .mismatch (Hex.encode (sha256 (Utf8.encode (normaliseClaimCode U s))).bytes) expected),
        hashed ++ [normaliseClaimCode U s]) := by
  have hrun := @hashClaimCode_run U sha256 s hashed h
  have hwell : ¬ isWellFormedClaimCode U s = false := by simp [h]
  have hbytes : toLowerCase U (Hex.encode (sha256 (Utf8.encode (normaliseClaimCode U s))).bytes) =
      toLowerCase U expected ↔ sha256 (Utf8.encode (normaliseClaimCode U s)) = claimHash := by
    rw [Hex.toLowerCase_encode, Hex.toLowerCase_of_decode hexpected]
    constructor
    · intro heq
      exact eq_of_bytes_eq (Hex.encode_inj heq)
    · intro heq
      rw [heq]
  simp only [verifyClaimCode]
  rw [if_neg hwell, run_bind hrun]
  by_cases hmatch : sha256 (Utf8.encode (normaliseClaimCode U s)) = claimHash
  · rw [if_pos hmatch, if_neg (not_not.2 (hbytes.2 hmatch))]
    rfl
  · rw [if_neg hmatch, if_pos fun heq => hmatch (hbytes.1 heq)]
    rfl

theorem generateClaimCode_run (random : List UInt8) : ∃ claim : ClaimCode, Canonical claim.code ∧
    (generateClaimCode U sha256 random).run.run hashed = (.ok claim, hashed ++ [claim.code]) := by
  set code : Str := (List.range claimCodeLength).map fun index =>
    alphabet.get ⟨(random.getD index 0).toNat % alphabet.length,
      Nat.mod_lt _ (by decide)⟩ with hcode
  have hcanonical : Canonical code := by
    refine ⟨by rw [hcode, List.length_map, List.length_range], ?_⟩
    intro c hc
    obtain ⟨index, -, rfl⟩ := List.mem_map.1 hc
    exact List.get_mem ..
  have hnormal : normaliseClaimCode U code = code := (Spells.refl code).normalise hcanonical.symbols
  have hwell : isWellFormedClaimCode U code = true := by
    rw [isWellFormedClaimCode_iff_canonical, hnormal]
    exact hcanonical
  have hrun := @hashClaimCode_run U sha256 code hashed hwell
  rw [hnormal] at hrun
  refine ⟨⟨code, Hex.encode (sha256 (Utf8.encode code)).bytes⟩, hcanonical, ?_⟩
  rw [generateClaimCode, run_bind hrun]
  rfl

/-- The device accepts a code exactly if its bytes can be shown to the escrow and have the hash. -/
theorem verifyClaimCode_eq_matched_iff (hexpected : Hex.decode expected = some claimHash.bytes) :
    ((verifyClaimCode U sha256 s expected).run.run hashed).1 = .ok .matched ↔
      ∃ reveal : BytesN 32, reveal.bytes = Utf8.encode (normaliseClaimCode U s) ∧
        IsReveal reveal.bytes ∧ sha256 reveal.bytes = claimHash := by
  by_cases hwell : isWellFormedClaimCode U s = true
  · rw [verifyClaimCode_run hwell hexpected]
    by_cases hmatch : sha256 (Utf8.encode (normaliseClaimCode U s)) = claimHash
    · rw [if_pos hmatch]
      have hreveal := isReveal_iff.2 hwell
      exact iff_of_true rfl ⟨⟨Utf8.encode (normaliseClaimCode U s), hreveal.1⟩, rfl,
        hreveal, hmatch⟩
    · rw [if_neg hmatch]
      refine iff_of_false ?_ ?_
      · intro heq
        cases heq
      · rintro ⟨reveal, hbytes, -, heq⟩
        rw [hbytes] at heq
        exact hmatch heq
  · obtain ⟨reason, hrun⟩ := @verifyClaimCode_run_of_malformed U sha256 s hashed expected
      (Bool.not_eq_true _ ▸ hwell)
    rw [hrun]
    refine iff_of_false ?_ ?_
    · intro heq
      cases heq
    · rintro ⟨reveal, hbytes, hreveal, -⟩
      rw [hbytes] at hreveal
      exact hwell (isReveal_iff.1 hreveal)

/-- **Claim codes survive transcription.**  A code that is minted is well-formed.  Every spelling of
a code, the displayed one among them, is normalised to it, and is hashed as it is.  And whatever is
typed in, the device accepts it for the hash of a transfer exactly if it comes to 32 bytes of the
alphabet that the escrow accepts as well when that transfer is claimed with them; what does not come
to such bytes is refused without being hashed. -/
theorem survives_transcription {ω : Type} (U : Unicode) (H : Host ω) :
    (∀ random : List UInt8, random.length = claimCodeLength → ∀ hashed, ∃ claim : ClaimCode,
      (generateClaimCode U H.sha256 random).run.run hashed = (.ok claim, hashed ++ [claim.code]) ∧
      Canonical claim.code ∧ isWellFormedClaimCode U claim.code = true) ∧
    (∀ c, Canonical c → Spells c (formatClaimCode U c) ∧ ∀ s, Spells c s →
      normaliseClaimCode U s = c ∧ hashClaimCode U H.sha256 s = hashClaimCode U H.sha256 c) ∧
    ∀ (s expected : Str) (claimHash : BytesN 32), Hex.decode expected = some claimHash.bytes →
      (∀ hashed (attempt : Attempt ω claimHash),
        ((verifyClaimCode U H.sha256 s expected).run.run hashed).1 = .ok .matched ↔
          ∃ reveal : BytesN 32, reveal.bytes = Utf8.encode (normaliseClaimCode U s) ∧
            IsReveal reveal.bytes ∧ attempt.Accepts H reveal) ∧
      (¬ IsReveal (Utf8.encode (normaliseClaimCode U s)) → ∀ hashed, ∃ reason,
        (verifyClaimCode U H.sha256 s expected).run.run hashed =
        (.ok (.malformed reason), hashed)) := by
  refine ⟨?_, ?_, ?_⟩
  · intro random _ hashed
    obtain ⟨claim, hcanonical, hrun⟩ := @generateClaimCode_run U H.sha256 hashed random
    refine ⟨claim, hrun, hcanonical, ?_⟩
    rw [isWellFormedClaimCode_iff_canonical, (Spells.refl _).normalise hcanonical.symbols]
    exact hcanonical
  · intro c hc
    refine ⟨spells_formatClaimCode hc.symbols, ?_⟩
    intro s hs
    have hnormal : normaliseClaimCode U s = c := hs.normalise hc.symbols
    have hself : normaliseClaimCode U c = c := (Spells.refl c).normalise hc.symbols
    refine ⟨hnormal, ?_⟩
    rw [hashClaimCode, hashClaimCode, hnormal, hself]
  · intro s expected claimHash hexpected
    refine ⟨?_, ?_⟩
    · intro hashed attempt
      simp only [attempt.accepts_iff]
      exact verifyClaimCode_eq_matched_iff hexpected
    · intro hreveal hashed
      exact verifyClaimCode_run_of_malformed
        (Bool.eq_false_iff.2 fun hwell => hreveal (isReveal_iff.2 hwell))

namespace Sample

def unicode : Unicode := ⟨id, id⟩

def zeros : Str := units "00000000000000000000000000000000"

/-- The code as somebody writes it who reads the zeros as letters. -/
def typed : Str := units "oooo-oooo-oooo-oooo-OOOO-OOOO-OOOO-OOOO"

theorem length_ones : (List.replicate 32 (1 : UInt8)).length = 32 := rfl

/-- An escrow whose hash tells the code from all other texts. -/
def host : Host Unit :=
  { Escrow.Sample.host with
    sha256 message := if message = Utf8.encode zeros then Escrow.Sample.zeroDigest
      else ⟨List.replicate 32 1, length_ones⟩ }

def attempt : Attempt Unit Escrow.Sample.zeroDigest where
  env := Escrow.Sample.signedBy Escrow.Sample.agent
  agent := Escrow.Sample.agent
  id := 1
  world := Escrow.Sample.locked 1000
  transfer := Escrow.Sample.lockedTransfer 1000
  signed := Escrow.Sample.mayClaim.signed
  configured := ⟨_, Escrow.Sample.mayClaim.configured⟩
  stored := Escrow.Sample.mayClaim.stored
  pending := Escrow.Sample.mayClaim.pending
  unexpired := Escrow.Sample.mayClaim.unexpired
  sender := Escrow.Sample.mayClaim.sender
  hash := rfl

end Sample

/-- What is typed in comes to the code, and is accepted by the device and by the escrow. -/
theorem survives_transcription_sample : ∃ reveal : BytesN 32,
    reveal.bytes = Utf8.encode Sample.zeros ∧ Sample.attempt.Accepts Sample.host reveal ∧
    ((verifyClaimCode Sample.unicode Sample.host.sha256 Sample.typed
      (Hex.encode Escrow.Sample.zeroDigest.bytes)).run.run []).1 = .ok .matched := by
  have hnormal : normaliseClaimCode Sample.unicode Sample.typed = Sample.zeros := rfl
  have hwell : isWellFormedClaimCode Sample.unicode Sample.typed = true := rfl
  have hreveal := isReveal_iff.2 hwell
  have hhash : Sample.host.sha256 (Utf8.encode (normaliseClaimCode Sample.unicode Sample.typed)) =
      Escrow.Sample.zeroDigest := rfl
  have haccepts : Sample.attempt.Accepts Sample.host
    ⟨Utf8.encode (normaliseClaimCode Sample.unicode Sample.typed), hreveal.1⟩ :=
      Sample.attempt.accepts_iff.2 hhash
  have hexpected : Hex.decode (Hex.encode Escrow.Sample.zeroDigest.bytes) =
    some Escrow.Sample.zeroDigest.bytes := rfl
  exact ⟨_, congrArg Utf8.encode hnormal, haccepts,
    (((survives_transcription Sample.unicode Sample.host).2.2 Sample.typed _ _ hexpected).1 []
      Sample.attempt).2 ⟨_, rfl, hreveal, haccepts⟩⟩

end Mobile

end RemitBridge
