import RemitBridge.Json.Syntax

/-!
# Reading what was written

A value that is written and read again is the same, but for the sign of zero (`parse_stringify`),
and what is written is a sequence of characters (`wellFormed_stringify`).  Objects that were read
have different keys (`wf_of_parse`).
-/

namespace RemitBridge

namespace Json

variable {N : Type} {F : NumberFormat N} {s t read : Str} {c d : UInt16} {ts ts' pre : List Token}
  {v : Json N}

/-- Numbers with a literal are read from it. -/
structure Lawful (F : NumberFormat N) : Prop where
  isNumber_toLiteral : ∀ x, F.finite x = true → isNumber (F.toLiteral x) = true
  ofLiteral_toLiteral : ∀ x, F.finite x = true → F.ofLiteral (F.toLiteral x) = F.unsigned x
  unsigned_unsigned : ∀ x, F.unsigned (F.unsigned x) = F.unsigned x

/-- Numbers that are kept as their literals. -/
def literal : NumberFormat Str where
  ofLiteral s := s
  toLiteral s := s
  finite := isNumber
  unsigned s := s

theorem lawful_literal : Lawful literal where
  isNumber_toLiteral _ h := h
  ofLiteral_toLiteral _ _ := rfl
  unsigned_unsigned _ := rfl

/-- All objects in the value have different keys. -/
inductive Wf : Json N → Prop
  | null : Wf .null
  | bool (b : Bool) : Wf (.bool b)
  | num (x : N) : Wf (.num x)
  | str (s : Str) : Wf (.str s)
  | arr {items : List (Json N)} : (∀ v ∈ items, Wf v) → Wf (.arr items)
  | obj {members : Members N} : members.Unique → (∀ m ∈ members, Wf m.2) → Wf (.obj members)

/-- All numbers in the value are finite. -/
inductive Finite (F : NumberFormat N) : Json N → Prop
  | null : Finite F .null
  | bool (b : Bool) : Finite F (.bool b)
  | num {x : N} : F.finite x = true → Finite F (.num x)
  | str (s : Str) : Finite F (.str s)
  | arr {items : List (Json N)} : (∀ v ∈ items, Finite F v) → Finite F (.arr items)
  | obj {members : Members N} : (∀ m ∈ members, Finite F m.2) → Finite F (.obj members)

section

variable (F)

mutual

/-- The value without the signs of its zeros. -/
def unsigned : Json N → Json N
  | .null => .null
  | .bool b => .bool b
  | .num x => .num (F.unsigned x)
  | .str s => .str s
  | .arr items => .arr (unsignedItems items)
  | .obj members => .obj (unsignedMembers members)

def unsignedItems : List (Json N) → List (Json N)
  | [] => []
  | v :: items => unsigned v :: unsignedItems items

def unsignedMembers : List (Str × Json N) → List (Str × Json N)
  | [] => []
  | (key, v) :: members => (key, unsigned v) :: unsignedMembers members

end

theorem unsignedItems_eq (items : List (Json N)) :
    unsignedItems F items = items.map (unsigned F) := by
  induction items with
  | nil => rw [unsignedItems, List.map_nil]
  | cons v items ih => rw [unsignedItems, ih, List.map_cons]

theorem unsignedMembers_eq (members : Members N) :
    unsignedMembers F members = members.map fun m => (m.1, unsigned F m.2) := by
  induction members with
  | nil => rw [unsignedMembers, List.map_nil]
  | cons m members ih => rw [unsignedMembers, ih, List.map_cons]

@[simp] theorem unsigned_arr (items : List (Json N)) :
    unsigned F (.arr items) = .arr (items.map (unsigned F)) := by
  rw [unsigned, unsignedItems_eq]

@[simp] theorem unsigned_obj (members : Members N) :
    unsigned F (.obj members) = .obj (members.map fun m => (m.1, unsigned F m.2)) := by
  rw [unsigned, unsignedMembers_eq]

end

theorem lookup_map_unsigned (ms : Members N) (key : Str) :
    Members.lookup (ms.map fun m => (m.1, unsigned F m.2)) key =
      (ms.lookup key).map (unsigned F) := by
  induction ms with
  | nil => rfl
  | cons m ms ih =>
    rw [List.map_cons, Members.lookup_cons, Members.lookup_cons, ih]
    by_cases hkey : m.1 = key
    · rw [if_pos hkey, if_pos hkey]
      rfl
    · rw [if_neg hkey, if_neg hkey]

theorem unsigned_unsigned (hF : Lawful F) (v : Json N) :
    unsigned F (unsigned F v) = unsigned F v := by
  induction v using induct with
  | null => simp only [unsigned]
  | bool b => simp only [unsigned]
  | num x => simp only [unsigned, hF.unsigned_unsigned]
  | str s => simp only [unsigned]
  | arr items ih =>
    rw [unsigned_arr, unsigned_arr, List.map_map]
    exact congrArg Json.arr (List.map_congr_left ih)
  | obj members ih =>
    rw [unsigned_obj, unsigned_obj, List.map_map]
    exact congrArg Json.obj (List.map_congr_left fun m hm => congrArg (Prod.mk m.1) (ih m hm))

/-! ### Strings -/

namespace Lexer

/-- The first machine after a text. -/
def run (m : Lexer) (s : Str) : Option Lexer := s.foldlM step m

theorem run_nil (m : Lexer) : m.run [] = some m := rfl

theorem run_cons (m : Lexer) (c : UInt16) (s : Str) : m.run (c :: s) = (m.step c).bind (run · s) :=
  List.foldlM_cons

theorem run_append (m : Lexer) (s t : Str) : m.run (s ++ t) = (m.run s).bind (run · t) :=
  List.foldlM_append

/-- A character of a string that stands for itself. -/
theorem run_plain (hquote : c ≠ unit '"') (hescape : c ≠ unit '\\') (hcontrol : ¬ c < 0x20) :
    run ⟨ts, .string read⟩ [c] = some ⟨ts, .string (read ++ [c])⟩ := by
  rw [run_cons, step, if_neg hquote, if_neg hescape, if_neg hcontrol]
  rfl

theorem hexValue_hexUnit {n : ℕ} (h : n < 16) : hexValue (hexUnit n) = some n := by
  have hall : ∀ n < 16, hexValue (hexUnit n) = some n := by decide
  exact hall n h

theorem step_hex {digits value n : ℕ} (hn : n < 16) (hdigits : digits ≠ 3) :
    step ⟨ts, .hex read digits value⟩ (hexUnit n) =
      some ⟨ts, .hex read (digits + 1) (value * 16 + n)⟩ := by
  rw [step, hexValue_hexUnit hn, Option.map_some, if_neg hdigits]

theorem step_hex_last {value n : ℕ} (hn : n < 16) : step ⟨ts, .hex read 3 value⟩ (hexUnit n) =
    some ⟨ts, .string (read ++ [(value * 16 + n).toUInt16])⟩ := by
  rw [step, hexValue_hexUnit hn, Option.map_some, if_pos rfl]

theorem run_hex {x₁ x₂ x₃ x₄ : ℕ} (h₁ : x₁ < 16) (h₂ : x₂ < 16) (h₃ : x₃ < 16) (h₄ : x₄ < 16) :
    run ⟨ts, .hex read 0 0⟩ [hexUnit x₁, hexUnit x₂, hexUnit x₃, hexUnit x₄] =
      some ⟨ts,
          .string (read ++ [((((0 * 16 + x₁) * 16 + x₂) * 16 + x₃) * 16 + x₄).toUInt16])⟩ := by
  rw [run_cons, step_hex h₁ (by decide), Option.bind_some, run_cons, step_hex h₂ (by decide),
    Option.bind_some, run_cons, step_hex h₃ (by decide), Option.bind_some, run_cons,
    step_hex_last h₄, Option.bind_some, run_nil]

theorem run_unicodeEscape :
    run ⟨ts, .string read⟩ (unicodeEscape c) = some ⟨ts, .string (read ++ [c])⟩ := by
  have hlt : c.toNat < 65536 := c.toNat_lt
  have hvalue : (((0 * 16 + c.toNat / 4096) * 16 + c.toNat / 256 % 16) * 16 +
      c.toNat / 16 % 16) * 16 + c.toNat % 16 = c.toNat := by omega
  have hopen : run ⟨ts, .string read⟩ [unit '\\', unit 'u'] = some ⟨ts, .hex read 0 0⟩ := rfl
  show run ⟨ts, .string read⟩ ([unit '\\', unit 'u'] ++ [hexUnit (c.toNat / 4096),
    hexUnit (c.toNat / 256 % 16), hexUnit (c.toNat / 16 % 16), hexUnit (c.toNat % 16)]) = _
  rw [run_append, hopen, Option.bind_some, run_hex (by omega) (by omega) (by omega) (by omega),
    hvalue]
  exact congrArg (fun d => some (Lexer.mk ts (.string (read ++ [d])))) UInt16.ofNat_toNat

theorem run_escapeUnit :
    run ⟨ts, .string read⟩ (escapeUnit c) = some ⟨ts, .string (read ++ [c])⟩ := by
  fun_cases escapeUnit c with
  | case1 h =>
    rw [h]
    rfl
  | case2 _ h =>
    rw [h]
    rfl
  | case3 _ _ h =>
    rw [h]
    rfl
  | case4 _ _ _ h =>
    rw [h]
    rfl
  | case5 _ _ _ _ h =>
    rw [h]
    rfl
  | case6 _ _ _ _ _ h =>
    rw [h]
    rfl
  | case7 _ _ _ _ _ _ h =>
    rw [h]
    rfl
  | case8 => exact run_unicodeEscape
  | case9 _ _ _ _ _ hquote hescape hcode =>
    simp only [Bool.or_eq_true, not_or, decide_eq_true_eq] at hcode
    exact run_plain hquote hescape hcode.1.1

/-- Both halves of a pair stand for themselves. -/
theorem run_surrogate (h : isHigh c = true ∨ isLow c = true) :
    run ⟨ts, .string read⟩ [c] = some ⟨ts, .string (read ++ [c])⟩ := by
  have hlarge : 0xD800 ≤ c.toNat := by
    simp only [isHigh, isLow, Bool.and_eq_true, decide_eq_true_eq, UInt16.le_iff_toNat_le,
      UInt16.lt_iff_toNat_lt] at h
    rcases h with h | h
    · exact h.1
    · exact Nat.le_trans (by decide) h.1
  refine run_plain ?_ ?_ ?_
  · rintro rfl
    exact absurd hlarge (by decide)
  · rintro rfl
    exact absurd hlarge (by decide)
  · intro hlt
    have hsmall : c.toNat < 0x20 := UInt16.lt_iff_toNat_lt.1 hlt
    omega

theorem run_quote (s : Str) :
    run ⟨ts, .string read⟩ (quote s) = some ⟨ts, .string (read ++ s)⟩ := by
  fun_induction quote s generalizing read with
  | case1 => rw [run_nil, List.append_nil]
  | case2 c => exact run_escapeUnit
  | case3 c d s hpair ih =>
    rw [Bool.and_eq_true] at hpair
    show run _ ([c] ++ ([d] ++ quote s)) = _
    rw [run_append, run_surrogate (.inl hpair.1), Option.bind_some, run_append,
      run_surrogate (.inr hpair.2), Option.bind_some, ih]
    simp
  | case4 c d s _ ih =>
    rw [run_append, run_escapeUnit, Option.bind_some, ih]
    simp

/-! ### Words -/

theorem not_space_of_isWord (h : isWord c = true) : isSpace c = false ∧ c ≠ unit '"' := by
  constructor
  · by_contra hspace
    simp only [isSpace, Bool.not_eq_false, Bool.or_eq_true, beq_iff_eq] at hspace
    obtain ((rfl | rfl) | rfl) | rfl := hspace <;> exact absurd h (by decide)
  · rintro rfl
    exact absurd h (by decide)

theorem run_word (h : ∀ c ∈ s, isWord c = true) :
    run ⟨ts, .word read⟩ s = some ⟨ts, .word (read ++ s)⟩ := by
  induction s generalizing read with
  | nil => rw [run_nil, List.append_nil]
  | cons c s ih =>
    obtain ⟨hc, hs⟩ := List.forall_mem_cons.1 h
    rw [run_cons, step, if_pos hc, Option.bind_some, ih hs]
    simp

/-- A word that begins a token. -/
theorem run_word_start (hne : s ≠ []) (h : ∀ c ∈ s, isWord c = true) :
    run ⟨ts, .idle⟩ s = some ⟨ts, .word s⟩ := by
  obtain ⟨c, s, rfl⟩ := List.exists_cons_of_ne_nil hne
  obtain ⟨hc, hs⟩ := List.forall_mem_cons.1 h
  obtain ⟨hspace, hquote⟩ := not_space_of_isWord hc
  rw [run_cons, step, start, hspace, if_neg Bool.false_ne_true, if_neg hquote, if_pos hc,
    Option.bind_some, run_word hs]
  rfl

end Lexer

theorem isWord_of_isDigit (h : isDigit c = true) : isWord c = true := by
  simp only [isWord, h, Bool.true_or]

theorem isWord_of_isExp (h : NumberState.isExp c = true) : isWord c = true := by
  simp only [NumberState.isExp, Bool.or_eq_true, beq_iff_eq] at h
  rcases h with rfl | rfl <;> decide

theorem isWord_of_step {m m' : NumberState} (h : m.step c = some m') : isWord c = true := by
  cases m <;> simp only [NumberState.step] at h <;> split_ifs at h <;>
    first
    | exact isWord_of_isDigit ‹_›
    | exact isWord_of_isExp ‹_›
    | (rename_i hc; subst hc; decide)
    | (rename_i hc; rcases hc with rfl | rfl <;> decide)

theorem isWord_of_run {m m' : NumberState} (h : s.foldlM NumberState.step m = some m') :
    ∀ c ∈ s, isWord c = true := by
  induction s generalizing m with
  | nil => exact fun c hc => absurd hc List.not_mem_nil
  | cons c s ih =>
    rw [List.foldlM_cons] at h
    obtain ⟨m₁, hstep, hrest⟩ := Option.bind_eq_some_iff.1 h
    exact List.forall_mem_cons.2 ⟨isWord_of_step hstep, ih hrest⟩

/-- A number consists of characters of words, and of one at least. -/
theorem isWord_of_isNumber (h : isNumber s = true) : s ≠ [] ∧ ∀ c ∈ s, isWord c = true := by
  obtain ⟨m, hrun, -⟩ := (Option.any_eq_true _ _).1 h
  refine ⟨?_, isWord_of_run hrun⟩
  rintro rfl
  cases h

/-! ### Tokens -/

namespace Token

/-- Null, a Boolean or a number. -/
def isWord : Token → Bool
  | null | bool _ | num _ => true
  | leftBrace | rightBrace | leftBracket | rightBracket | colon | comma | str _ => false

/-- The token is one of a text. -/
def Proper : Token → Prop
  | num s => isNumber s = true
  | _ => True

variable {a b : Token}

theorem classify_render (ha : a.Proper) (hword : a.isWord = true) :
    Lexer.classify a.render = some a := by
  cases a with
  | null => rfl
  | bool b => cases b <;> rfl
  | num s =>
    have hnumber : isNumber s = true := ha
    show Lexer.classify s = _
    rw [Lexer.classify, if_neg, if_neg, if_neg, if_pos hnumber]
    · rintro rfl
      exact absurd hnumber (by decide)
    · rintro rfl
      exact absurd hnumber (by decide)
    · rintro rfl
      exact absurd hnumber (by decide)
  | _ => cases hword

theorem run_render_of_isWord (ha : a.Proper) (hword : a.isWord = true) :
    Lexer.run ⟨ts, .idle⟩ a.render = some ⟨ts, .word a.render⟩ := by
  cases a with
  | null => rfl
  | bool b => cases b <;> rfl
  | num s => exact Lexer.run_word_start (isWord_of_isNumber ha).1 (isWord_of_isNumber ha).2
  | _ => cases hword

theorem run_render (hword : a.isWord = false) :
    Lexer.run ⟨ts, .idle⟩ a.render = some ⟨ts ++ [a], .idle⟩ := by
  cases a with
  | null | bool | num => cases hword
  | str s =>
    have hopen : Lexer.run ⟨ts, .idle⟩ [unit '"'] = some ⟨ts, .string []⟩ := rfl
    show Lexer.run _ ([unit '"'] ++ quote s ++ [unit '"']) = _
    rw [Lexer.run_append, Lexer.run_append, hopen, Option.bind_some, Lexer.run_quote,
      Option.bind_some]
    rfl
  | _ => rfl

/-- Between tokens or after a word, a token that is no word begins in the same way. -/
theorem run_render_after (ha : a.Proper) (hword : a.isWord = true) (hb : b.isWord = false) :
    Lexer.run ⟨ts, .word a.render⟩ b.render = Lexer.run ⟨ts ++ [a], .idle⟩ b.render := by
  have hstep : ∀ {c : UInt16} {s : Str}, Json.isWord c = false →
      Lexer.run ⟨ts, .word a.render⟩ (c :: s) = Lexer.run ⟨ts ++ [a], .idle⟩ (c :: s) := by
    intro c s hc
    have hend : Lexer.step ⟨ts, .word a.render⟩ c =
        (Lexer.classify a.render).bind fun t => Lexer.start (ts ++ [t]) c :=
      if_neg (by rw [hc]; decide)
    rw [Lexer.run_cons, hend, classify_render ha hword]
    rfl
  cases b with
  | null | bool | num => cases hb
  | _ => exact hstep (by decide)

end Token

/-! ### Texts of tokens -/

namespace Lexer

/-- The first machine after it has read tokens, of which a word is still open. -/
def after (ts : List Token) : Lexer :=
  match ts.getLast? with
  | some t => if t.isWord then ⟨ts.dropLast, .word t.render⟩ else ⟨ts, .idle⟩
  | none => ⟨[], .idle⟩

/-- No word is still open. -/
def Closed (ts : List Token) : Prop := ∀ t ∈ ts.getLast?, t.isWord = false

theorem after_concat (ts : List Token) (t : Token) :
    after (ts ++ [t]) = if t.isWord then ⟨ts, .word t.render⟩ else ⟨ts ++ [t], .idle⟩ := by
  simp [after]

theorem after_of_closed (h : Closed ts) : after ts = ⟨ts, .idle⟩ := by
  rw [after]
  cases hlast : ts.getLast? with
  | none => rw [List.getLast?_eq_none_iff.1 hlast]
  | some t => exact if_neg (by rw [h t hlast]; decide)

/-- The texts of the tokens are read, if they begin a new one. -/
def Readable (ts : List Token) : Prop :=
  ∀ pre, (∀ t ∈ pre, t.Proper) → Closed pre →
    run (after pre) (ts.flatMap Token.render) = some (after (pre ++ ts))

/-- The texts of the tokens are read after any others. -/
def Continues (ts : List Token) : Prop :=
  ∀ pre, (∀ t ∈ pre, t.Proper) →
    run (after pre) (ts.flatMap Token.render) = some (after (pre ++ ts))

theorem Continues.readable (h : Continues ts) : Readable ts := fun pre hpre _ => h pre hpre

theorem continues_nil : Continues [] := fun pre _ => by
  rw [List.append_nil]
  rfl

theorem Readable.append (h : Readable ts) (h' : Continues ts') (hts : ∀ t ∈ ts, t.Proper) :
    Readable (ts ++ ts') := by
  intro pre hpre hclosed
  have hproper : ∀ t ∈ pre ++ ts, t.Proper := List.forall_mem_append.2 ⟨hpre, hts⟩
  rw [List.flatMap_append, run_append, h pre hpre hclosed, Option.bind_some, h' _ hproper,
    List.append_assoc]

theorem Continues.append (h : Continues ts) (h' : Continues ts') (hts : ∀ t ∈ ts, t.Proper) :
    Continues (ts ++ ts') := by
  intro pre hpre
  have hproper : ∀ t ∈ pre ++ ts, t.Proper := List.forall_mem_append.2 ⟨hpre, hts⟩
  rw [List.flatMap_append, run_append, h pre hpre, Option.bind_some, h' _ hproper,
    List.append_assoc]

theorem readable_singleton {a : Token} (ha : a.Proper) : Readable [a] := by
  intro pre _ hclosed
  rw [List.flatMap_singleton, after_of_closed hclosed, after_concat]
  by_cases hword : a.isWord = true
  · rw [if_pos hword, Token.run_render_of_isWord ha hword]
  · rw [if_neg hword, Token.run_render (Bool.eq_false_iff.2 hword)]

theorem continues_singleton {a : Token} (ha : a.isWord = false) : Continues [a] := by
  intro pre hpre
  rw [List.flatMap_singleton, after_concat, if_neg (by rw [ha]; decide)]
  by_cases hclosed : Closed pre
  · rw [after_of_closed hclosed, Token.run_render ha]
  · obtain ⟨b, hb, hword⟩ : ∃ b, pre.getLast? = some b ∧ b.isWord = true := by
      simp only [Closed, not_forall, Bool.not_eq_false] at hclosed
      obtain ⟨b, hb, hword⟩ := hclosed
      exact ⟨b, hb, hword⟩
    obtain ⟨rest, rfl⟩ := List.getLast?_eq_some_iff.1 hb
    have hproper : b.Proper := hpre b (List.mem_append_right _ (List.mem_singleton_self b))
    rw [after_concat, if_pos hword, Token.run_render_after hproper hword ha, Token.run_render ha]

/-- After a token that is no word, everything may come. -/
theorem Readable.continues {a : Token} (h : Readable ts) (ha : a.isWord = false)
    (hproper : a.Proper) : Continues (a :: ts) := by
  intro pre hpre
  have hclosed : Closed (pre ++ [a]) := by
    intro t ht
    rw [List.getLast?_concat] at ht
    rwa [← Option.some.inj ht]
  have hpre' : ∀ t ∈ pre ++ [a], t.Proper :=
    List.forall_mem_append.2 ⟨hpre, List.forall_mem_singleton.2 hproper⟩
  show run (after pre) (a.render ++ ts.flatMap Token.render) = _
  have hone := continues_singleton ha pre hpre
  rw [List.flatMap_singleton] at hone
  rw [run_append, hone, Option.bind_some, h _ hpre' hclosed, List.append_assoc]
  rfl

/-- The tokens of a readable text. -/
theorem lex_of_readable (h : Readable ts) (hts : ∀ t ∈ ts, t.Proper) :
    lex (ts.flatMap Token.render) = some ts := by
  have hrun := h [] (fun t ht => absurd ht List.not_mem_nil) (fun t ht => by cases ht)
  have hstart : run ⟨[], .idle⟩ (ts.flatMap Token.render) = some (after ts) := hrun
  rw [lex, ← run, hstart, Option.bind_some]
  rw [after]
  cases hlast : ts.getLast? with
  | none =>
    rw [List.getLast?_eq_none_iff.1 hlast]
    rfl
  | some t =>
    obtain ⟨rest, rfl⟩ := List.getLast?_eq_some_iff.1 hlast
    by_cases hword : t.isWord = true
    · have hproper : t.Proper := hts t (List.mem_append_right _ (List.mem_singleton_self t))
      simp only [hword, if_true, finish, Token.classify_render hproper hword, Option.map_some,
        List.dropLast_concat]
    · simp only [if_neg hword, finish]

end Lexer

/-! ### Texts of values -/

/-- The tokens are those of texts, and their texts are read. -/
structure Legible (ts : List Token) : Prop where
  proper : ∀ t ∈ ts, t.Proper
  readable : Lexer.Readable ts

/-- The tokens of what follows a value in an array or object. -/
structure Trailing (ts : List Token) : Prop where
  proper : ∀ t ∈ ts, t.Proper
  continues : Lexer.Continues ts

theorem legible_singleton {a : Token} (ha : a.Proper) : Legible [a] :=
  ⟨List.forall_mem_singleton.2 ha, Lexer.readable_singleton ha⟩

theorem Legible.trailing {a : Token} (h : Legible ts) (ha : a.isWord = false) (hproper : a.Proper) :
    Trailing (a :: ts) :=
  ⟨List.forall_mem_cons.2 ⟨hproper, h.proper⟩, h.readable.continues ha hproper⟩

theorem Trailing.legible (h : Trailing ts) : Legible ts := ⟨h.proper, h.continues.readable⟩

theorem trailing_singleton {a : Token} (ha : a.isWord = false) (hproper : a.Proper) :
    Trailing [a] :=
  ⟨List.forall_mem_singleton.2 hproper, Lexer.continues_singleton ha⟩

theorem Trailing.append (h : Trailing ts) (h' : Trailing ts') : Trailing (ts ++ ts') :=
  ⟨List.forall_mem_append.2 ⟨h.proper, h'.proper⟩, h.continues.append h'.continues h.proper⟩

theorem trailing_itemTokens {items : List (Json N)} (h : ∀ v ∈ items, Legible (tokens F v)) :
    Trailing (itemTokens F items) := by
  induction items with
  | nil =>
    rw [itemTokens]
    exact ⟨fun t ht => absurd ht List.not_mem_nil, Lexer.continues_nil⟩
  | cons v items ih =>
    obtain ⟨hv, hitems⟩ := List.forall_mem_cons.1 h
    rw [itemTokens]
    exact (hv.trailing (a := .comma) rfl trivial).append (ih hitems)

theorem legible_member {v : Json N} (key : Str) (h : Legible (tokens F v)) :
    Legible (.str key :: .colon :: tokens F v) :=
  ((h.trailing (a := .colon) rfl trivial).legible.trailing (a := .str key) rfl trivial).legible

theorem trailing_memberTokens {members : Members N} (h : ∀ m ∈ members, Legible (tokens F m.2)) :
    Trailing (memberTokens F members) := by
  induction members with
  | nil =>
    rw [memberTokens]
    exact ⟨fun t ht => absurd ht List.not_mem_nil, Lexer.continues_nil⟩
  | cons m members ih =>
    obtain ⟨hm, hmembers⟩ := List.forall_mem_cons.1 h
    rw [memberTokens]
    exact ((legible_member m.1 hm).trailing (a := .comma) rfl trivial).append (ih hmembers)

theorem legible_tokens (hF : Lawful F) (v : Json N) : Legible (tokens F v) := by
  induction v using induct with
  | null => rw [tokens]; exact legible_singleton trivial
  | bool b => rw [tokens]; exact legible_singleton trivial
  | num x =>
    rw [tokens]
    split_ifs with hfinite
    · exact legible_singleton (hF.isNumber_toLiteral x hfinite)
    · exact legible_singleton trivial
  | str s => rw [tokens]; exact legible_singleton trivial
  | arr items ih =>
    have hclose : Trailing [.rightBracket] := trailing_singleton rfl trivial
    cases items with
    | nil => rw [tokens]; exact (hclose.legible.trailing (a := .leftBracket) rfl trivial).legible
    | cons v items =>
      obtain ⟨hv, hitems⟩ := List.forall_mem_cons.1 ih
      rw [tokens]
      exact (((hv.trailing (a := .leftBracket) rfl trivial).append
        (trailing_itemTokens hitems)).append hclose).legible
  | obj members ih =>
    have hclose : Trailing [.rightBrace] := trailing_singleton rfl trivial
    cases members with
    | nil => rw [tokens]; exact (hclose.legible.trailing (a := .leftBrace) rfl trivial).legible
    | cons m members =>
      obtain ⟨hm, hmembers⟩ := List.forall_mem_cons.1 ih
      rw [tokens]
      exact ((((legible_member m.1 hm).trailing (a := .leftBrace) rfl trivial).append
        (trailing_memberTokens hmembers)).append hclose).legible

theorem lex_stringify (hF : Lawful F) (v : Json N) : lex (stringify F v) = some (tokens F v) :=
  Lexer.lex_of_readable (legible_tokens hF v).readable (legible_tokens hF v).proper

/-! ### Values from tokens -/

namespace Reader

/-- The second machine after tokens. -/
def run (F : NumberFormat N) (m : Reader N) (ts : List Token) : Option (Reader N) :=
  ts.foldlM (step F) m

variable {stack : List (Frame N)} {m : Reader N}

theorem run_cons (t : Token) (ts : List Token) :
    run F m (t :: ts) = (m.step F t).bind fun m' => run F m' ts := List.foldlM_cons

theorem run_append (ts ts' : List Token) :
    run F m (ts ++ ts') = (run F m ts).bind fun m' => run F m' ts' := List.foldlM_append

/-- Tokens that are read as a value, on any stack. -/
def Reads (F : NumberFormat N) (ts : List Token) (v : Json N) : Prop :=
  ∀ stack, run F (.value stack) ts = some (.done v stack)

/-- The first item of an array may be any value. -/
theorem run_items (h : Reads F ts v) :
    run F (.items stack) ts = some (.done v (.arr [] :: stack)) := by
  have hread := h (.arr [] :: stack)
  cases ts with
  | nil => cases hread
  | cons t ts => cases t <;> first | exact hread | cases hread

theorem run_itemTokens {items : List (Json N)} {vs : List (Json N)} {v : Json N}
    (h : ∀ w ∈ items, Reads F (tokens F w) (unsigned F w)) :
    run F (.done v (.arr vs :: stack)) (itemTokens F items ++ [.rightBracket]) =
      some (.done (.arr (vs ++ v :: items.map (unsigned F))) stack) := by
  induction items generalizing vs v with
  | nil =>
    rw [itemTokens]
    rfl
  | cons w items ih =>
    obtain ⟨hw, hitems⟩ := List.forall_mem_cons.1 h
    have hcomma : run F (.done v (.arr vs :: stack))
        (.comma :: (tokens F w ++ (itemTokens F items ++ [.rightBracket]))) =
        run F (.value (.arr (vs ++ [v]) :: stack))
          (tokens F w ++ (itemTokens F items ++ [.rightBracket])) := rfl
    rw [itemTokens, List.cons_append, List.cons_append, List.append_assoc, hcomma, run_append, hw,
      Option.bind_some, ih hitems]
    simp

/-- A key that is new is set at the end. -/
theorem set_of_unique {ms rest : Members N} {k : Str} {w : Json N}
    (h : Members.Unique (ms ++ (k, w) :: rest)) : ms.set k v = ms ++ [(k, v)] := by
  refine if_neg fun hmem => ?_
  rw [Members.Unique, List.map_append, List.map_cons] at h
  exact (List.nodup_append.1 h).2.2 k hmem k (List.mem_cons_self ..) rfl

theorem run_memberTokens {members ms : Members N} {k : Str} {v : Json N}
    (h : ∀ m ∈ members, Reads F (tokens F m.2) (unsigned F m.2))
    (hunique : Members.Unique (ms ++ (k, v) :: members)) :
    run F (.done v (.obj ms k :: stack)) (memberTokens F members ++ [.rightBrace]) =
      some (.done (.obj (ms ++ (k, v) :: members.map fun m => (m.1, unsigned F m.2))) stack) := by
  induction members generalizing ms k v with
  | nil =>
    rw [memberTokens]
    show some (Reader.done (.obj (ms.set k v)) stack) = _
    rw [set_of_unique hunique]
    rfl
  | cons m members ih =>
    obtain ⟨hm, hmembers⟩ := List.forall_mem_cons.1 h
    have hset := set_of_unique (v := v) hunique
    have hrest : Members.Unique ((ms ++ [(k, v)]) ++ (m.1, unsigned F m.2) :: members) := by
      simpa [Members.Unique] using hunique
    have hcomma : run F (.done v (.obj ms k :: stack)) (.comma :: .str m.1 :: .colon ::
        (tokens F m.2 ++ (memberTokens F members ++ [.rightBrace]))) =
        run F (.value (.obj (ms.set k v) m.1 :: stack))
          (tokens F m.2 ++ (memberTokens F members ++ [.rightBrace])) := rfl
    rw [memberTokens]
    simp only [List.cons_append, List.append_assoc]
    rw [hcomma, run_append, hm, Option.bind_some, hset, ih hmembers hrest]
    simp

/-- **The tokens of a value** are read as the value, without the signs of its zeros. -/
theorem reads_tokens (hF : Lawful F) (hfinite : Finite F v) (hwf : Wf v) :
    Reads F (tokens F v) (unsigned F v) := by
  induction v using induct with
  | null | bool | str =>
    intro stack
    simp only [tokens, unsigned]
    rfl
  | num x =>
    cases hfinite with
    | num hx =>
      intro stack
      simp only [tokens, if_pos hx, unsigned, ← hF.ofLiteral_toLiteral x hx]
      rfl
  | arr items ih =>
    cases hfinite with
    | arr hfinite =>
      cases hwf with
      | arr hwf =>
        have hreads : ∀ w ∈ items, Reads F (tokens F w) (unsigned F w) :=
          fun w hw => ih w hw (hfinite w hw) (hwf w hw)
        intro stack
        rw [unsigned_arr]
        cases items with
        | nil =>
          rw [tokens]
          rfl
        | cons w items =>
          obtain ⟨hw, hitems⟩ := List.forall_mem_cons.1 hreads
          -- The bracket opens a list; its first item is read, and then the others are.
          have hopen : run F (.value stack)
              (.leftBracket :: (tokens F w ++ (itemTokens F items ++ [.rightBracket]))) =
              run F (.items stack) (tokens F w ++ (itemTokens F items ++ [.rightBracket])) := rfl
          rw [tokens, List.cons_append, List.cons_append, List.append_assoc, hopen, run_append,
            run_items hw, Option.bind_some, run_itemTokens hitems]
          rfl
  | obj members ih =>
    cases hfinite with
    | obj hfinite =>
      cases hwf with
      | obj hunique hwf =>
        have hreads : ∀ m ∈ members, Reads F (tokens F m.2) (unsigned F m.2) :=
          fun m hm => ih m hm (hfinite m hm) (hwf m hm)
        intro stack
        rw [unsigned_obj]
        cases members with
        | nil =>
          rw [tokens]
          rfl
        | cons m members =>
          obtain ⟨hm, hmembers⟩ := List.forall_mem_cons.1 hreads
          have hrest : Members.Unique ([] ++ (m.1, unsigned F m.2) :: members) := hunique
          -- The brace opens an object, up to the value of its first member.
          have hopen : run F (.value stack) (.leftBrace :: .str m.1 :: .colon ::
              (tokens F m.2 ++ (memberTokens F members ++ [.rightBrace]))) =
              run F (.value (.obj [] m.1 :: stack))
                (tokens F m.2 ++ (memberTokens F members ++ [.rightBrace])) := rfl
          rw [tokens]
          simp only [List.cons_append, List.append_assoc]
          rw [hopen, run_append, hm, Option.bind_some, run_memberTokens hmembers hrest]
          rfl

end Reader

/-- **Reading what was written.** -/
theorem parse_stringify (hF : Lawful F) (hfinite : Finite F v) (hwf : Wf v) :
    parse F (stringify F v) = some (unsigned F v) := by
  have hreads : (tokens F v).foldlM (Reader.step F) (.value []) = some (.done (unsigned F v) []) :=
    Reader.reads_tokens hF hfinite hwf []
  show ((lex (stringify F v)).bind fun ts => (ts.foldlM (Reader.step F) (.value [])).bind
    Reader.finish) = _
  rw [lex_stringify hF, Option.bind_some, hreads]
  rfl

/-- A text that begins with a byte order mark is not JSON. -/
theorem parse_bom (s : Str) : parse F (bom :: s) = none := rfl

/-! ### Values that were read -/

def Frame.Wf : Frame N → Prop
  | .arr items => ∀ v ∈ items, v.Wf
  | .obj members _ => members.Unique ∧ ∀ m ∈ members, m.2.Wf

namespace Reader

/-- Everything the second machine has read has different keys. -/
def Wf : Reader N → Prop
  | .value stack | .items stack | .members stack => ∀ f ∈ stack, f.Wf
  | .key ms stack | .colon ms _ stack =>
    (ms.Unique ∧ ∀ m ∈ ms, m.2.Wf) ∧ ∀ f ∈ stack, f.Wf
  | .done v stack => v.Wf ∧ ∀ f ∈ stack, f.Wf

theorem wf_begin {stack : List (Frame N)} {t : Token} {m : Reader N} (h : ∀ f ∈ stack, f.Wf)
    (hbegin : begin F stack t = some m) : m.Wf := by
  cases t with
  | null => cases hbegin; exact ⟨.null, h⟩
  | bool b => cases hbegin; exact ⟨.bool b, h⟩
  | num s => cases hbegin; exact ⟨.num _, h⟩
  | str s => cases hbegin; exact ⟨.str s, h⟩
  | leftBracket | leftBrace => cases hbegin; exact h
  | _ => cases hbegin

theorem step_items {stack : List (Frame N)} {t : Token} (ht : t ≠ .rightBracket) :
    step F (.items stack) t = begin F (.arr [] :: stack) t := by
  cases t with
  | rightBracket => exact absurd rfl ht
  | _ => rfl

theorem wf_set {ms : Members N} {k : Str} (hunique : ms.Unique) (hms : ∀ m ∈ ms, m.2.Wf)
    (hv : v.Wf) : (ms.set k v).Unique ∧ ∀ m ∈ ms.set k v, m.2.Wf := by
  refine ⟨hunique.set, fun m hm => ?_⟩
  rcases Members.mem_of_mem_set hm with rfl | hm
  · exact hv
  · exact hms m hm

theorem wf_snoc {vs : List (Json N)} (hvs : ∀ w ∈ vs, w.Wf) (hv : v.Wf) : ∀ w ∈ vs ++ [v], w.Wf :=
  List.forall_mem_append.2 ⟨hvs, List.forall_mem_singleton.2 hv⟩

theorem Wf.step {m m' : Reader N} {t : Token} (h : m.Wf) (hstep : m.step F t = some m') :
    m'.Wf := by
  cases m with
  | value stack => exact wf_begin h hstep
  | items stack =>
    have harr : ∀ f ∈ Frame.arr [] :: stack, f.Wf :=
      List.forall_mem_cons.2 ⟨fun v hv => absurd hv List.not_mem_nil, h⟩
    by_cases ht : t = .rightBracket
    · subst ht
      cases hstep
      exact ⟨.arr fun v hv => absurd hv List.not_mem_nil, h⟩
    · rw [step_items ht] at hstep
      exact wf_begin harr hstep
  | members stack =>
    cases t with
    | rightBrace =>
      cases hstep
      exact ⟨.obj Members.unique_nil fun m hm => absurd hm List.not_mem_nil, h⟩
    | str k =>
      cases hstep
      exact ⟨⟨Members.unique_nil, fun m hm => absurd hm List.not_mem_nil⟩, h⟩
    | _ => cases hstep
  | key ms stack =>
    cases t with
    | str k =>
      cases hstep
      exact h
    | _ => cases hstep
  | colon ms k stack =>
    cases t with
    | colon =>
      cases hstep
      exact List.forall_mem_cons.2 h
    | _ => cases hstep
  | done v stack =>
    obtain ⟨hv, hstack⟩ := h
    cases stack with
    | nil => cases t <;> cases hstep
    | cons f stack =>
      obtain ⟨hf, hrest⟩ := List.forall_mem_cons.1 hstack
      cases f with
      | arr vs =>
        cases t with
        | comma =>
          cases hstep
          exact List.forall_mem_cons.2 ⟨wf_snoc hf hv, hrest⟩
        | rightBracket =>
          cases hstep
          exact ⟨.arr (wf_snoc hf hv), hrest⟩
        | _ => cases hstep
      | obj ms k =>
        -- A key that comes again replaces the value, so the keys stay different.
        have hset := wf_set (k := k) hf.1 hf.2 hv
        cases t with
        | comma =>
          cases hstep
          exact ⟨hset, hrest⟩
        | rightBrace =>
          cases hstep
          exact ⟨.obj hset.1 hset.2, hrest⟩
        | _ => cases hstep

theorem Wf.run {m m' : Reader N} (h : m.Wf) (hrun : run F m ts = some m') : m'.Wf := by
  induction ts generalizing m with
  | nil =>
    cases hrun
    exact h
  | cons t ts ih =>
    rw [run_cons] at hrun
    obtain ⟨m₁, hstep, hrest⟩ := Option.bind_eq_some_iff.1 hrun
    exact ih (h.step hstep) hrest

end Reader

/-- **What was read** has different keys in all its objects. -/
theorem wf_of_parse (h : parse F s = some v) : v.Wf := by
  obtain ⟨ts, -, hparse⟩ := Option.bind_eq_some_iff.1 h
  obtain ⟨m, hrun, hfinish⟩ := Option.bind_eq_some_iff.1 hparse
  have hstart : Reader.Wf (Reader.value [] : Reader N) := fun f hf => absurd hf List.not_mem_nil
  have hm := hstart.run hrun
  cases m with
  | done w stack =>
    cases stack with
    | nil =>
      cases hfinish
      exact hm.1
    | cons => cases hfinish
  | _ => cases hfinish

/-! ### Sequences of characters -/

/-- All surrogates come in pairs, so the text is a sequence of characters. -/
def wellFormed : Str → Bool
  | [] => true
  | [c] => !isHigh c && !isLow c
  | c :: d :: s => if isHigh c then isLow d && wellFormed s else !isLow c && wellFormed (d :: s)

theorem wellFormed_cons (h : isHigh c = false) :
    wellFormed (c :: s) = (!isLow c && wellFormed s) := by
  cases s with
  | nil =>
    show (!isHigh c && !isLow c) = (!isLow c && true)
    rw [h, Bool.not_false, Bool.true_and, Bool.and_true]
  | cons d s => rw [wellFormed, h, if_neg Bool.false_ne_true]

theorem wellFormed_append (hs : wellFormed s = true) (ht : wellFormed t = true) :
    wellFormed (s ++ t) = true := by
  fun_induction wellFormed s with
  | case1 => exact ht
  | case2 c =>
    rw [Bool.and_eq_true, Bool.not_eq_true', Bool.not_eq_true'] at hs
    show wellFormed (c :: t) = true
    rw [wellFormed_cons hs.1, hs.2, ht]
    rfl
  | case3 c d s hhigh ih =>
    rw [Bool.and_eq_true] at hs
    show wellFormed (c :: d :: (s ++ t)) = true
    rw [wellFormed, if_pos hhigh, hs.1, ih hs.2]
    rfl
  | case4 c d s hhigh ih =>
    rw [Bool.and_eq_true] at hs
    show wellFormed (c :: (d :: s ++ t)) = true
    rw [wellFormed_cons (Bool.eq_false_iff.2 hhigh), hs.1, ih hs.2]
    rfl

/-- No surrogate is below the first one. -/
theorem wellFormed_of_lt (h : ∀ c ∈ s, c.toNat < 0xD800) : wellFormed s = true := by
  induction s with
  | nil => rfl
  | cons c s ih =>
    obtain ⟨hc, hs⟩ := List.forall_mem_cons.1 h
    have hhigh : isHigh c = false := by
      by_contra hhigh
      simp only [isHigh, Bool.not_eq_false, Bool.and_eq_true, decide_eq_true_eq,
        UInt16.le_iff_toNat_le] at hhigh
      exact absurd hhigh.1 (Nat.not_le.2 hc)
    have hlow : isLow c = false := by
      by_contra hlow
      simp only [isLow, Bool.not_eq_false, Bool.and_eq_true, decide_eq_true_eq,
        UInt16.le_iff_toNat_le] at hlow
      exact absurd (Nat.le_trans (by decide) hlow.1) (Nat.not_le.2 hc)
    rw [wellFormed_cons hhigh, hlow, ih hs]
    rfl

theorem hexUnit_lt {n : ℕ} (h : n < 16) : (hexUnit n).toNat < 0xD800 := by
  have hall : ∀ n < 16, (hexUnit n).toNat < 0xD800 := by decide
  exact hall n h

theorem wellFormed_escapeUnit (c : UInt16) : wellFormed (escapeUnit c) = true := by
  have hlt : c.toNat < 65536 := c.toNat_lt
  fun_cases escapeUnit c with
  | case1 => rfl
  | case2 => rfl
  | case3 => rfl
  | case4 => rfl
  | case5 => rfl
  | case6 => rfl
  | case7 => rfl
  | case8 =>
    refine wellFormed_of_lt ?_
    simp only [unicodeEscape, List.forall_mem_cons]
    exact ⟨by decide, by decide, hexUnit_lt (by omega), hexUnit_lt (by omega),
      hexUnit_lt (by omega), hexUnit_lt (by omega), fun d hd => absurd hd List.not_mem_nil⟩
  | case9 _ _ _ _ _ _ _ hcode =>
    simp only [Bool.or_eq_true, not_or, Bool.not_eq_true] at hcode
    rw [wellFormed, hcode.1.2, hcode.2]
    rfl

theorem wellFormed_quote (s : Str) : wellFormed (quote s) = true := by
  fun_induction quote s with
  | case1 => rfl
  | case2 c => exact wellFormed_escapeUnit c
  | case3 c d s hpair ih =>
    rw [Bool.and_eq_true] at hpair
    rw [wellFormed, if_pos hpair.1, hpair.2, ih]
    rfl
  | case4 c d s _ ih => exact wellFormed_append (wellFormed_escapeUnit c) ih

theorem toNat_lt_of_isWord (h : isWord c = true) : c.toNat < 0xD800 := by
  by_contra hlarge
  have hle : 0xD800 ≤ c.toNat := Nat.not_lt.1 hlarge
  simp only [isWord, isDigit, Bool.or_eq_true, Bool.and_eq_true, decide_eq_true_eq, beq_iff_eq,
    UInt16.le_iff_toNat_le] at h
  have hunits : (unit '9').toNat = 57 ∧ (unit 'z').toNat = 122 ∧ (unit 'Z').toNat = 90 := by decide
  obtain ((((h | h) | h) | rfl) | rfl) | rfl := h
  · omega
  · omega
  · omega
  · exact absurd hle (by decide)
  · exact absurd hle (by decide)
  · exact absurd hle (by decide)

theorem wellFormed_render {a : Token} (ha : a.Proper) : wellFormed a.render = true := by
  cases a with
  | num s =>
    exact wellFormed_of_lt fun c hc => toNat_lt_of_isWord ((isWord_of_isNumber ha).2 c hc)
  | str s =>
    have hquote : wellFormed [unit '"'] = true := by decide
    exact wellFormed_append (wellFormed_append hquote (wellFormed_quote s)) hquote
  | bool b => cases b <;> decide
  | _ => decide

theorem wellFormed_flatMap (h : ∀ a ∈ ts, a.Proper) :
    wellFormed (ts.flatMap Token.render) = true := by
  induction ts with
  | nil => rfl
  | cons a ts ih =>
    obtain ⟨ha, hts⟩ := List.forall_mem_cons.1 h
    exact wellFormed_append (wellFormed_render ha) (ih hts)

/-- **What is written** is a sequence of characters. -/
theorem wellFormed_stringify (hF : Lawful F) (v : Json N) : wellFormed (stringify F v) = true :=
  wellFormed_flatMap (legible_tokens hF v).proper

end Json

end RemitBridge
