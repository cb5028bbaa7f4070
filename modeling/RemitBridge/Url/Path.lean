import Mathlib.Data.Nat.Notation

/-!
# The path of a URL

How the standard parser of URLs reads the path of a URL with a special scheme, such as `http`: it
drops tabs and newlines, reads a backslash as a slash, stops at the first `?` or `#`, resolves the
segments `.` and `..` in all their spellings, and percent-encodes what may not stand in a path.

The parser is a machine that reads one character after the other (`walk`).  What it computes is said
by `walk_eq` : the text up to the first `?` or `#` is split at its slashes, and the pieces are
followed from where the machine stands (`follow`).
-/

namespace RemitBridge

/-- A text, as a list of characters. -/
abbrev Text := List Char

namespace Url

/-- Characters that the parser drops wherever they stand. -/
def isDropped (c : Char) : Bool := c == '\t' || c == '\n' || c == '\r'

/-- Characters that end a segment. -/
def isSlash (c : Char) : Bool := c == '/' || c == '\\'

/-- Characters that end the path. -/
def isEnd (c : Char) : Bool := c == '?' || c == '#'

/-- A text in lower case. -/
def lower (s : Text) : Text := s.map Char.toLower

def isSingleDot (segment : Text) : Bool :=
  ["." , "%2e"].any fun s => lower segment == s.toList

def isDoubleDot (segment : Text) : Bool :=
  ["..", ".%2e", "%2e.", "%2e%2e"].any fun s => lower segment == s.toList

/-- A hexadecimal digit. -/
def hexDigit (n : ℕ) : Char := if n < 10 then Char.ofNat (48 + n) else Char.ofNat (55 + n)

/-- A byte, percent-encoded. -/
def percentByte (b : UInt8) : Text := ['%', hexDigit (b.toNat / 16), hexDigit (b.toNat % 16)]

/-- Characters that may not stand in a path. -/
def isEncoded (c : Char) : Bool :=
  c.toNat < 0x20 || 0x7E < c.toNat || " \"#<>?^`{}".toList.contains c

/-- A character of a path, percent-encoded if it has to be. -/
def encodeChar (c : Char) : Text :=
  if isEncoded c then (String.utf8EncodeChar c).flatMap percentByte else [c]

def encode (s : Text) : Text := s.flatMap encodeChar

/-! ### The machine -/

/-- The end of a segment, which is the last one or not. -/
def close (path : List Text) (segment : Text) (last : Bool) : List Text :=
  if isDoubleDot segment then path.dropLast ++ (if last then [[]] else [])
  else if isSingleDot segment then path ++ (if last then [[]] else [])
  else path ++ [segment]

/-- The machine, with the path so far and the segment it is reading. -/
def walk (path : List Text) (segment : Text) : Text → List Text
  | [] => close path segment true
  | c :: cs =>
    if isEnd c then close path segment true
    else if isSlash c then walk (close path segment false) [] cs
    else walk path (segment ++ encodeChar c) cs

/-- The segments of the path of a URL, given what follows its host: a slash and the rest. -/
def parsePath (input : Text) : List Text :=
  walk [] [] ((input.filter fun c => !isDropped c).drop 1)

/-! ### What the machine computes -/

/-- The part of a text that is in the path. -/
def cut (s : Text) : Text := s.takeWhile fun c => !isEnd c

/-- The segments of a text, encoded. -/
def segments (s : Text) : List Text := ((cut s).splitOnP isSlash).map encode

/-- The path after segments have been followed, none of which is the last. -/
def descend (path : List Text) (rest : List Text) : List Text :=
  rest.foldl (fun path segment => close path segment false) path

/-- The path after segments have been followed. -/
def follow (path : List Text) : List Text → List Text
  | [] => path
  | [segment] => close path segment true
  | segment :: rest => follow (close path segment false) rest

variable {path : List Text} {segment s t : Text} {c : Char}

theorem follow_cons {rest : List Text} (h : rest ≠ []) :
    follow path (segment :: rest) = follow (close path segment false) rest := by
  cases rest with
  | nil => exact absurd rfl h
  | cons => rfl

/-- The last segment is followed from where the others lead. -/
theorem follow_append_singleton (path rest : List Text) (segment : Text) :
    follow path (rest ++ [segment]) = close (descend path rest) segment true := by
  induction rest generalizing path with
  | nil => rfl
  | cons first rest ih =>
    rw [List.cons_append,
      follow_cons (List.append_ne_nil_of_right_ne_nil rest (List.cons_ne_nil _ _)), ih]
    rfl

@[simp] theorem cut_nil : cut [] = [] := rfl

theorem cut_cons : cut (c :: s) = if isEnd c then [] else c :: cut s := by
  rw [cut, List.takeWhile_cons]
  cases isEnd c <;> rfl

theorem cut_append_of_isEnd (h : s.any isEnd = true) : cut (s ++ t) = cut s := by
  induction s with
  | nil => cases h
  | cons c s ih =>
    rw [List.cons_append, cut_cons, cut_cons]
    by_cases hc : isEnd c = true
    · rw [if_pos hc, if_pos hc]
    · rw [if_neg hc, if_neg hc, ih (by simpa [hc] using h)]

theorem cut_append (h : s.any isEnd = false) : cut (s ++ t) = s ++ cut t := by
  induction s with
  | nil => rfl
  | cons c s ih =>
    rw [List.any_cons, Bool.or_eq_false_iff] at h
    rw [List.cons_append, cut_cons, if_neg (by rw [h.1]; decide), ih h.2]
    rfl

theorem cut_eq_self (h : s.any isEnd = false) : cut s = s := by
  have hcut := cut_append (t := []) h
  rwa [cut_nil, List.append_nil] at hcut

/-- A slash divides the segments of what is before it from those of what is after it. -/
theorem segments_append_slash (h : s.any isEnd = false) :
    segments (s ++ '/' :: t) = segments s ++ segments t := by
  have hslash : isSlash '/' = true := rfl
  have hcut : cut ('/' :: t) = '/' :: cut t := cut_cons
  rw [segments, cut_append h, hcut, List.splitOnP_append_cons _ _ hslash, List.map_append, segments,
    cut_eq_self h, segments]

theorem segments_ne_nil (s : Text) : segments s ≠ [] := by
  rw [segments, ne_eq, List.map_eq_nil_iff]
  exact List.splitOnP_ne_nil _ _

/-- **The machine** follows the segments of the text.  The first of them continues the segment that
it is reading. -/
theorem walk_eq (path : List Text) (segment s : Text) :
    walk path segment s = follow path ((segments s).modifyHead (segment ++ ·)) := by
  induction s generalizing path segment with
  | nil =>
    show close path segment true = close path (segment ++ []) true
    rw [List.append_nil]
  | cons c s ih =>
    rw [walk, segments, cut_cons]
    by_cases hend : isEnd c = true
    · rw [if_pos hend, if_pos hend]
      show close path segment true = close path (segment ++ []) true
      rw [List.append_nil]
    · rw [if_neg hend, if_neg hend, List.splitOnP_cons_eq_if_modifyHead]
      by_cases hslash : isSlash c = true
      · rw [if_pos hslash, if_pos hslash, ih, List.map_cons]
        show _ = follow path ((segment ++ []) :: segments s)
        rw [follow_cons (segments_ne_nil s), List.append_nil]
        congr 1
        cases h : segments s <;> simp
      · rw [if_neg hslash, if_neg hslash, ih]
        congr 1
        rw [segments]
        obtain ⟨first, rest, hsplit⟩ :=
          List.exists_cons_of_ne_nil (List.splitOnP_ne_nil isSlash (cut s))
        rw [hsplit]
        simp [encode]

theorem walk_nil (path : List Text) (s : Text) : walk path [] s = follow path (segments s) := by
  rw [walk_eq]
  congr 1
  cases segments s <;> simp

end Url

end RemitBridge
