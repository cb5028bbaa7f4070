import RemitBridge.Json.Basic

/-!
# The syntax of JSON

`parse` reads a text and `stringify` writes one, as the functions of these names do in a script.

A text is read by two machines, one after the other.  The first reads it character by character and
makes it a list of tokens (`lex`); the second reads the tokens and keeps the arrays and objects that
are still open on a stack (`Reader.step`).  A text is written by way of the same tokens.
-/

namespace RemitBridge

/-- The code unit of a character. -/
def unit (c : Char) : UInt16 := c.toNat.toUInt16

/-- The code units of a text of characters that are code units. -/
def units (s : String) : Str := s.toList.map unit

/-- The byte order mark. -/
def bom : UInt16 := 0xFEFF

namespace Json

inductive Token where
  | leftBrace | rightBrace | leftBracket | rightBracket | colon | comma
  | null
  | bool (b : Bool)
  | num (literal : Str)
  | str (s : Str)

/-! ### Characters -/

def isSpace (c : UInt16) : Bool := c == 0x20 || c == 0x09 || c == 0x0A || c == 0x0D

def isDigit (c : UInt16) : Bool := unit '0' ≤ c && c ≤ unit '9'

/-- Characters of numbers and of the words `true`, `false` and `null`. -/
def isWord (c : UInt16) : Bool :=
  isDigit c || (unit 'a' ≤ c && c ≤ unit 'z') || (unit 'A' ≤ c && c ≤ unit 'Z') || c == unit '+' ||
    c == unit '-' || c == unit '.'

def isHigh (c : UInt16) : Bool := 0xD800 ≤ c && c < 0xDC00

def isLow (c : UInt16) : Bool := 0xDC00 ≤ c && c < 0xE000

/-- The value of a hexadecimal digit. -/
def hexValue (c : UInt16) : Option ℕ :=
  if isDigit c then some (c.toNat - 48)
  else if unit 'a' ≤ c && c ≤ unit 'f' then some (c.toNat - 87)
  else if unit 'A' ≤ c && c ≤ unit 'F' then some (c.toNat - 55)
  else none

/-- A hexadecimal digit, in lower case. -/
def hexUnit (n : ℕ) : UInt16 := if n < 10 then (48 + n).toUInt16 else (87 + n).toUInt16

/-! ### Numbers -/

/-- How much of a number has been read. -/
inductive NumberState where
  | start | minus | zero | int | dot | frac | exp | sign | power

namespace NumberState

/-- The number may end here. -/
def final : NumberState → Bool
  | zero | int | frac | power => true
  | start | minus | dot | exp | sign => false

def isExp (c : UInt16) : Bool := c == unit 'e' || c == unit 'E'

def step : NumberState → UInt16 → Option NumberState
  | start, c =>
    if c = unit '-' then some minus else if c = unit '0' then some zero
    else if isDigit c then some int else none
  | minus, c => if c = unit '0' then some zero else if isDigit c then some int else none
  | zero, c => if c = unit '.' then some dot else if isExp c then some exp else none
  | int, c =>
    if isDigit c then some int else if c = unit '.' then some dot else if isExp c then some exp
    else none
  | dot, c => if isDigit c then some frac else none
  | frac, c => if isDigit c then some frac else if isExp c then some exp else none
  | exp, c =>
    if c = unit '+' ∨ c = unit '-' then some sign else if isDigit c then some power else none
  | sign, c => if isDigit c then some power else none
  | power, c => if isDigit c then some power else none

end NumberState

/-- The text is a number. -/
def isNumber (s : Str) : Bool := (s.foldlM NumberState.step .start).any NumberState.final

/-! ### Reading tokens -/

/-- Where the first machine stands: between tokens, or in one of which it has read the beginning. -/
inductive LexerMode where
  | idle
  | word (read : Str)
  | string (read : Str)
  | escape (read : Str)
  /-- In an escape `\u`, of whose digits some have been read, with this value. -/
  | hex (read : Str) (digits value : ℕ)

/-- The first machine: the tokens it has read, and where it stands. -/
structure Lexer where
  tokens : List Token
  mode : LexerMode

namespace Lexer

def punctuation (c : UInt16) : Option Token :=
  if c = unit '{' then some .leftBrace
  else if c = unit '}' then some .rightBrace
  else if c = unit '[' then some .leftBracket
  else if c = unit ']' then some .rightBracket
  else if c = unit ':' then some .colon
  else if c = unit ',' then some .comma
  else none

/-- A word that has been read to its end. -/
def classify (s : Str) : Option Token :=
  if s = units "null" then some .null
  else if s = units "true" then some (.bool true)
  else if s = units "false" then some (.bool false)
  else if isNumber s then some (.num s)
  else none

/-- The first character of a token, or a space. -/
def start (tokens : List Token) (c : UInt16) : Option Lexer :=
  if isSpace c then some ⟨tokens, .idle⟩
  else if c = unit '"' then some ⟨tokens, .string []⟩
  else if isWord c then some ⟨tokens, .word [c]⟩
  else (punctuation c).map fun t => ⟨tokens ++ [t], .idle⟩

/-- The character that an escape stands for, other than `\u`. -/
def unescape (c : UInt16) : Option UInt16 :=
  if c = unit '"' ∨ c = unit '\\' ∨ c = unit '/' then some c
  else if c = unit 'b' then some 0x08
  else if c = unit 'f' then some 0x0C
  else if c = unit 'n' then some 0x0A
  else if c = unit 'r' then some 0x0D
  else if c = unit 't' then some 0x09
  else none

def step : Lexer → UInt16 → Option Lexer
  | ⟨tokens, .idle⟩, c => start tokens c
  | ⟨tokens, .word read⟩, c =>
    if isWord c then some ⟨tokens, .word (read ++ [c])⟩
    else (classify read).bind fun t => start (tokens ++ [t]) c
  | ⟨tokens, .string read⟩, c =>
    if c = unit '"' then some ⟨tokens ++ [.str read], .idle⟩
    else if c = unit '\\' then some ⟨tokens, .escape read⟩
    else if c < 0x20 then none
    else some ⟨tokens, .string (read ++ [c])⟩
  | ⟨tokens, .escape read⟩, c =>
    if c = unit 'u' then some ⟨tokens, .hex read 0 0⟩
    else (unescape c).map fun d => ⟨tokens, .string (read ++ [d])⟩
  | ⟨tokens, .hex read digits value⟩, c =>
    (hexValue c).map fun d =>
      if digits = 3 then ⟨tokens, .string (read ++ [(value * 16 + d).toUInt16])⟩
      else ⟨tokens, .hex read (digits + 1) (value * 16 + d)⟩

/-- The tokens, if the text may end here. -/
def finish : Lexer → Option (List Token)
  | ⟨tokens, .idle⟩ => some tokens
  | ⟨tokens, .word read⟩ => (classify read).map fun t => tokens ++ [t]
  | ⟨_, .string _⟩ | ⟨_, .escape _⟩ | ⟨_, .hex ..⟩ => none

end Lexer

/-- The tokens of a text. -/
def lex (s : Str) : Option (List Token) := (s.foldlM Lexer.step ⟨[], .idle⟩).bind Lexer.finish

/-! ### Reading values -/

variable {N : Type}

/-- An array or object that is open, with what has been read of it. -/
inductive Frame (N : Type) where
  | arr (items : List (Json N))
  | obj (members : Members N) (key : Str)

/-- Where the second machine stands. -/
inductive Reader (N : Type) where
  /-- A value has to come. -/
  | value (stack : List (Frame N))
  /-- An array was opened. -/
  | items (stack : List (Frame N))
  /-- An object was opened. -/
  | members (stack : List (Frame N))
  /-- A key has to come. -/
  | key (members : Members N) (stack : List (Frame N))
  /-- The colon after a key has to come. -/
  | colon (members : Members N) (key : Str) (stack : List (Frame N))
  /-- A value was read. -/
  | done (v : Json N) (stack : List (Frame N))

namespace Reader

variable (F : NumberFormat N)

/-- The token begins a value. -/
def begin (stack : List (Frame N)) : Token → Option (Reader N)
  | .null => some (.done .null stack)
  | .bool b => some (.done (.bool b) stack)
  | .num s => some (.done (.num (F.ofLiteral s)) stack)
  | .str s => some (.done (.str s) stack)
  | .leftBracket => some (.items stack)
  | .leftBrace => some (.members stack)
  | .rightBrace | .rightBracket | .colon | .comma => none

def step : Reader N → Token → Option (Reader N)
  | .value stack, t => begin F stack t
  | .items stack, .rightBracket => some (.done (.arr []) stack)
  | .items stack, t => begin F (.arr [] :: stack) t
  | .members stack, .rightBrace => some (.done (.obj []) stack)
  | .members stack, .str k => some (.colon [] k stack)
  | .key ms stack, .str k => some (.colon ms k stack)
  | .colon ms k stack, .colon => some (.value (.obj ms k :: stack))
  | .done v (.arr vs :: stack), .comma => some (.value (.arr (vs ++ [v]) :: stack))
  | .done v (.arr vs :: stack), .rightBracket => some (.done (.arr (vs ++ [v])) stack)
  | .done v (.obj ms k :: stack), .comma => some (.key (ms.set k v) stack)
  | .done v (.obj ms k :: stack), .rightBrace => some (.done (.obj (ms.set k v)) stack)
  | .members _, _ | .key .., _ | .colon .., _ | .done .., _ => none

/-- The value, if the text may end here. -/
def finish : Reader N → Option (Json N)
  | .done v [] => some v
  | _ => none

end Reader

variable (F : NumberFormat N)

/-- `JSON.parse`. -/
def parse (s : Str) : Option (Json N) := do
  let tokens ← lex s
  let machine ← tokens.foldlM (Reader.step F) (.value [])
  machine.finish

/-! ### Writing -/

/-- A code unit as an escape `\u`. -/
def unicodeEscape (c : UInt16) : Str :=
  [unit '\\', unit 'u', hexUnit (c.toNat / 4096), hexUnit (c.toNat / 256 % 16),
    hexUnit (c.toNat / 16 % 16), hexUnit (c.toNat % 16)]

/-- A code unit that is no half of a pair. -/
def escapeUnit (c : UInt16) : Str :=
  if c = 0x08 then units "\\b"
  else if c = 0x09 then units "\\t"
  else if c = 0x0A then units "\\n"
  else if c = 0x0C then units "\\f"
  else if c = 0x0D then units "\\r"
  else if c = unit '"' then units "\\\""
  else if c = unit '\\' then units "\\\\"
  else if c < 0x20 || isHigh c || isLow c then unicodeEscape c
  else [c]

/-- A string, without the quotation marks. -/
def quote : Str → Str
  | [] => []
  | [c] => escapeUnit c
  | c :: d :: s => if isHigh c && isLow d then c :: d :: quote s else escapeUnit c ++ quote (d :: s)

/-- The text of a token. -/
def Token.render : Token → Str
  | leftBrace => [unit '{']
  | rightBrace => [unit '}']
  | leftBracket => [unit '[']
  | rightBracket => [unit ']']
  | colon => [unit ':']
  | comma => [unit ',']
  | null => units "null"
  | bool true => units "true"
  | bool false => units "false"
  | num s => s
  | str s => unit '"' :: quote s ++ [unit '"']

mutual

/-- The tokens of a value. -/
def tokens : Json N → List Token
  | .null => [.null]
  | .bool b => [.bool b]
  | .num x => if F.finite x then [.num (F.toLiteral x)] else [.null]
  | .str s => [.str s]
  | .arr [] => [.leftBracket, .rightBracket]
  | .arr (v :: items) => .leftBracket :: tokens v ++ itemTokens items ++ [.rightBracket]
  | .obj [] => [.leftBrace, .rightBrace]
  | .obj ((key, v) :: members) =>
    .leftBrace :: .str key :: .colon :: tokens v ++ memberTokens members ++ [.rightBrace]

/-- The tokens of all items but the first. -/
def itemTokens : List (Json N) → List Token
  | [] => []
  | v :: items => .comma :: tokens v ++ itemTokens items

/-- The tokens of all members but the first. -/
def memberTokens : List (Str × Json N) → List Token
  | [] => []
  | (key, v) :: members => .comma :: .str key :: .colon :: tokens v ++ memberTokens members

end

/-- `JSON.stringify`. -/
def stringify (v : Json N) : Str := (tokens F v).flatMap Token.render

end Json

end RemitBridge
