import Mathlib.Data.List.DropRight
import RemitBridge.Json.Ascii
import RemitBridge.Url.Path

/-!
# The origin of a relative URL

How the standard parser of URLs finds the host of a URL that is resolved against one with the scheme
`http` or `https`.  Control characters and spaces are dropped at both ends, tabs and newlines
everywhere.  A text that begins with two slashes names an authority of its own, and a backslash is a
slash; any other text without a scheme stays with the base (`resolve_slash`).

How an authority is read, and a text that has a scheme, are parameters (`Authorities`).
-/

namespace RemitBridge

namespace Url

/-- The characters of a text of code units; what is no character is replaced. -/
def scalars (s : Str) : Text := (Utf8.points s).map Char.ofNat

/-- C0 controls and the space. -/
def isControl (c : Char) : Bool := decide (c.toNat ≤ 0x20)

/-- What the parser reads of its input. -/
def clean (input : Text) : Text :=
  ((input.dropWhile isControl).rdropWhile isControl).filter fun c => !isDropped c

inductive Scheme where
  | http
  | https
  deriving DecidableEq

/-- The port is absent if it is the one of the scheme. -/
structure Origin (H : Type) where
  scheme : Scheme
  host : H
  port : Option ℕ
  deriving DecidableEq

/-- How the rest of the parser goes on; `none` means that it refuses the URL. -/
structure Authorities (H : Type) where
  /-- The host and the port of an authority, which may begin with credentials. -/
  authority : Text → Option (H × Option ℕ)
  /-- The origin of a URL with this scheme. -/
  absolute : Text → Text → Option (Origin H)

/-! ### The states of the parser -/

/-- What may stand in a scheme after its first letter. -/
def isSchemeChar (c : Char) : Bool := c.isAlphanum || c == '+' || c == '-' || c == '.'

/-- The scheme of a text and what follows its colon. -/
def splitScheme : Text → Option (Text × Text)
  | [] => none
  | c :: s =>
    if c.isAlpha = false then none
    else match s.dropWhile isSchemeChar with
      | ':' :: rest => some (c :: s.takeWhile isSchemeChar, rest)
      | _ => none

variable {H : Type} (P : Authorities H) (base : Origin H)

/-- The authority state: the authority reaches to the next slash, or to the end of the path. -/
def readAuthority (s : Text) : Option (Origin H) :=
  (P.authority (s.takeWhile fun c => !isSlash c && !isEnd c)).map fun r => ⟨base.scheme, r.1, r.2⟩

/-- The special authority ignore slashes state. -/
def ignoreSlashes : Text → Option (Origin H)
  | [] => readAuthority P base []
  | c :: s => if isSlash c then ignoreSlashes s else readAuthority P base (c :: s)

/-- The relative slash state. -/
def relativeSlash : Text → Option (Origin H)
  | [] => some base
  | c :: s => if isSlash c then ignoreSlashes P base s else some base

/-- The relative state. -/
def relative : Text → Option (Origin H)
  | [] => some base
  | c :: s => if isSlash c then relativeSlash P base s else some base

/-- The origin of what a text refers to on a page of the base. -/
def resolve (input : Text) : Option (Origin H) :=
  match splitScheme (clean input) with
  | some (scheme, rest) => P.absolute scheme rest
  | none => relative P base (clean input)

/-- The authority that a text names if it begins with two slashes. -/
def namedAuthority (s : Text) : Text :=
  (s.dropWhile isSlash).takeWhile fun c => !isSlash c && !isEnd c

variable {P base} {s t : Text} {c : Char}

/-! ### Texts that begin with a slash -/

theorem scalars_cons {u : UInt16} {v : Str} (hu : u.toNat < 0x80) :
    scalars (u :: v) = Char.ofNat u.toNat :: scalars v := by
  obtain ⟨hhigh, hlow⟩ := Ascii.not_surrogate hu
  cases v with
  | nil => simp [scalars, Utf8.points, hhigh, hlow]
  | cons d v => simp [scalars, Utf8.points, hhigh, hlow]

/-- A character that is neither dropped at the ends nor anywhere stays in front. -/
theorem clean_cons (hcontrol : isControl c = false) (hdropped : isDropped c = false) :
    clean (c :: s) = c :: (s.rdropWhile isControl).filter fun c => !isDropped c := by
  have hfront : (c :: s).dropWhile isControl = c :: s := by
    rw [List.dropWhile_cons, if_neg (by rw [hcontrol]; decide)]
  have hback : (c :: s).rdropWhile isControl = c :: s.rdropWhile isControl := by
    induction s using List.reverseRecOn with
    | nil => exact List.rdropWhile_concat_neg isControl [] c (by rw [hcontrol]; decide)
    | append_singleton s d ih =>
      rw [← List.cons_append, List.rdropWhile_concat, List.rdropWhile_concat]
      split_ifs
      · rw [ih (by rw [List.dropWhile_cons, if_neg (by rw [hcontrol]; decide)])]
      · rfl
  rw [clean, hfront, hback, List.filter_cons_of_pos (by simp [hdropped])]

theorem ignoreSlashes_eq : ignoreSlashes P base s =
    (P.authority (namedAuthority s)).map fun r => ⟨base.scheme, r.1, r.2⟩ := by
  induction s with
  | nil => rfl
  | cons c s ih =>
    rw [ignoreSlashes, namedAuthority, List.dropWhile_cons]
    split_ifs
    · exact ih
    · rfl

/-- **Texts that begin with a slash** stay with the base, unless a second slash follows. -/
theorem resolve_slash (hs : clean s = '/' :: t) : resolve P base s =
    if t.head?.any isSlash = true then
      (P.authority (namedAuthority t)).map fun r => ⟨base.scheme, r.1, r.2⟩
    else some base := by
  have hscheme : splitScheme ('/' :: t) = none := by
    rw [splitScheme, if_pos (by decide)]
  rw [resolve, hs, hscheme]
  show relativeSlash P base t = _
  cases t with
  | nil => rfl
  | cons c t =>
    rw [relativeSlash, List.head?_cons, Option.any_some]
    by_cases hc : isSlash c = true
    · have hnamed : namedAuthority (c :: t) = namedAuthority t := by
        rw [namedAuthority, List.dropWhile_cons, if_pos hc, namedAuthority]
      rw [if_pos hc, if_pos hc, ignoreSlashes_eq, hnamed]
    · rw [if_neg hc, if_neg hc]

end Url

end RemitBridge
