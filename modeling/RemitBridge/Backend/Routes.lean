import RemitBridge.Url.Path
import Mathlib.Data.List.Basic

/-!
# The routes of the backend

The routes of the backend that take a POST, and which of them a path reaches.  The router compares
the pieces of a path with a pattern without regard to case, passes over a slash at the end of the
path and over a second one after `/api/v1`, and lets a parameter be any piece that is not empty and
can be decoded.

No path fits the patterns of two routes (`fits_unique`), so the order in which the routes are
declared does not matter (`dispatch_eq_some_iff`).
-/

namespace RemitBridge

namespace Backend

open Url

/-- A piece of a pattern. -/
inductive Piece where
  | name (s : String)
  | param
  deriving DecidableEq

inductive PostRoute where
  | kycPreflight
  | verifications
  | webhooks
  | revocations
  | transfersPreflight
  | quotes
  | quotesVerify
  | sweep
  | topUps
  | decision
  | execute
  deriving DecidableEq

namespace PostRoute

def pattern : PostRoute → List Piece
  | kycPreflight => [.name "kyc", .name "preflight"]
  | verifications => [.name "kyc", .name "verifications"]
  | webhooks => [.name "kyc", .name "webhooks", .param]
  | revocations => [.name "kyc", .name "revocations"]
  | transfersPreflight => [.name "transfers", .name "preflight"]
  | quotes => [.name "quotes"]
  | quotesVerify => [.name "quotes", .name "verify"]
  | sweep => [.name "agents", .name "liquidity", .name "sweep"]
  | topUps => [.name "agents", .name "liquidity", .name "top-ups"]
  | decision => [.name "agents", .name "liquidity", .name "top-ups", .param, .name "decision"]
  | execute => [.name "agents", .name "liquidity", .name "top-ups", .param, .name "execute"]

/-- The routes, in the order in which the routers declare them. -/
def all : List PostRoute :=
  [kycPreflight, verifications, webhooks, revocations, transfersPreflight, quotes,
    quotesVerify, sweep, topUps, decision, execute]

theorem mem_all (route : PostRoute) : route ∈ all := by cases route <;> decide

end PostRoute

/-! ### Matching -/

def Piece.fits : Piece → Text → Bool
  | name s, piece => lower piece == s.toList
  | param, piece => !piece.isEmpty

/-- The path fits the pattern. -/
def fits : List Piece → List Text → Bool
  | [], [] => true
  | [], [piece] => piece.isEmpty
  | [], _ :: _ :: _ => false
  | _ :: _, [] => false
  | p :: pattern, piece :: path => p.fits piece && fits pattern path

/-! ### Decoding -/

def hexValue (c : Char) : Option ℕ :=
  if c.isDigit then some (c.toNat - 48)
  else if 'a' ≤ c ∧ c ≤ 'f' then some (c.toNat - 87)
  else if 'A' ≤ c ∧ c ≤ 'F' then some (c.toNat - 55)
  else none

/-- The bytes of a text in which some bytes are percent-encoded. -/
def unescape : Text → Option (List UInt8)
  | '%' :: a :: b :: s => do
    let high ← hexValue a
    let low ← hexValue b
    let bytes ← unescape s
    some ((high * 16 + low).toUInt8 :: bytes)
  | ['%', _] | ['%'] => none
  | c :: s => (unescape s).map (String.utf8EncodeChar c ++ ·)
  | [] => some []

/-- `decodeURIComponent` does not throw. -/
def decodable (piece : Text) : Bool :=
  (unescape piece).any fun bytes => (ByteArray.mk bytes.toArray).validateUTF8

/-- The parameters of a path that fits the pattern can be decoded. -/
def decodes (pattern : List Piece) (path : List Text) : Bool :=
  (pattern.zip path).all fun m => m.1 ≠ .param || decodable m.2

/-! ### Routing -/

/-- A path without an empty piece before its first one. -/
def strip : List Text → List Text
  | [] :: piece :: path => piece :: path
  | path => path

/-- What follows `/api/v1` in a path. -/
def mounted : List Text → Option (List Text)
  | api :: version :: path =>
    if lower api = "api".toList ∧ lower version = "v1".toList then some (strip path) else none
  | _ => none

/-- The route that handles a POST to the path. -/
def dispatch (path : List Text) : Option PostRoute := do
  let rest ← mounted path
  let route ← PostRoute.all.find? fun route => fits route.pattern rest
  if decodes route.pattern rest then some route else none

/-- The path is one of the route. -/
def PostRoute.At (route : PostRoute) (path : List Text) : Prop :=
  ∃ rest, mounted path = some rest ∧ fits route.pattern rest = true ∧
    decodes route.pattern rest = true

/-! ### No path has two routes -/

variable {p q : List Piece} {path rest : List Text} {route route' : PostRoute} {piece : Text}

/-- The patterns have different names in one place, or one goes on where the other ends. -/
def clash : List Piece → List Piece → Bool
  | .name s :: p, .name s' :: q => s ≠ s' || clash p q
  | _ :: p, _ :: q => clash p q
  | a :: _, [] | [], a :: _ => !a.fits []
  | [], [] => false

theorem fits_nil (h : fits [] path = true) : path = [] ∨ path = [[]] := by
  cases path with
  | nil => exact .inl rfl
  | cons piece path =>
    cases path with
    | nil => exact .inr (congrArg (fun t => [t]) (List.isEmpty_iff.1 h))
    | cons => cases h

theorem not_fits_of_fits_nil {a : Piece} (h : fits [] path = true) (ha : (!a.fits []) = true) :
    fits (a :: p) path ≠ true := by
  intro hfits
  obtain rfl | rfl := fits_nil h
  · cases hfits
  · rw [fits, Bool.and_eq_true] at hfits
    rw [hfits.1] at ha
    cases ha

theorem not_fits_of_clash (hclash : clash p q = true) (hp : fits p path = true) :
    fits q path ≠ true := by
  induction p generalizing q path with
  | nil =>
    cases q with
    | nil => cases hclash
    | cons b q => exact not_fits_of_fits_nil hp hclash
  | cons a p ih =>
    cases q with
    | nil =>
      intro hq
      have ha : (!a.fits []) = true := by cases a <;> exact hclash
      exact not_fits_of_fits_nil hq ha hp
    | cons b q =>
      cases path with
      | nil => cases hp
      | cons piece path =>
        rw [fits, Bool.and_eq_true] at hp
        rw [fits, ne_eq, Bool.and_eq_true]
        rintro ⟨hb, hq⟩
        by_cases htail : clash p q = true
        · exact ih htail hp.2 hq
        · -- the first pieces have different names
          cases a with
          | param => exact htail hclash
          | name s =>
            cases b with
            | param => exact htail hclash
            | name s' =>
              rw [clash, Bool.or_eq_true] at hclash
              have hne : s ≠ s' := of_decide_eq_true (hclash.resolve_right htail)
              have hs : lower piece = s.toList := eq_of_beq hp.1
              have hs' : lower piece = s'.toList := eq_of_beq hb
              exact hne (String.toList_inj.1 (hs.symm.trans hs'))

theorem clash_pattern (h : route ≠ route') : clash route.pattern route'.pattern = true := by
  have hall : ∀ r ∈ PostRoute.all, ∀ r' ∈ PostRoute.all, r ≠ r' →
      clash r.pattern r'.pattern = true := by decide
  exact hall route route.mem_all route' route'.mem_all h

/-- **No path** fits the patterns of two routes. -/
theorem fits_unique (h : fits route.pattern path = true) (h' : fits route'.pattern path = true) :
    route = route' := by
  by_contra hne
  exact not_fits_of_clash (clash_pattern hne) h h'

theorem fits_of_find (h : PostRoute.all.find? (fun r => fits r.pattern path) = some route) :
    fits route.pattern path = true :=
  List.find?_some (p := fun r : PostRoute => fits r.pattern path) h

theorem find_eq_some_iff : PostRoute.all.find? (fun route => fits route.pattern path) = some route ↔
    fits route.pattern path = true := by
  constructor
  · exact fits_of_find
  · intro h
    have hsome : (PostRoute.all.find? fun route => fits route.pattern path).isSome = true :=
      List.find?_isSome.2 ⟨route, route.mem_all, h⟩
    obtain ⟨found, hfound⟩ := Option.isSome_iff_exists.1 hsome
    rw [hfound, fits_unique (fits_of_find hfound) h]

/-- A path is handled by the route it is one of. -/
theorem dispatch_eq_some_iff : dispatch path = some route ↔ route.At path := by
  constructor
  · intro h
    obtain ⟨rest, hrest, h⟩ := Option.bind_eq_some_iff.1 h
    obtain ⟨found, hfound, h⟩ := Option.bind_eq_some_iff.1 h
    by_cases hdecodes : decodes found.pattern rest = true
    · rw [if_pos hdecodes] at h
      cases h
      exact ⟨rest, hrest, find_eq_some_iff.1 hfound, hdecodes⟩
    · rw [if_neg hdecodes] at h
      cases h
  · rintro ⟨rest, hrest, hfits, hdecodes⟩
    show ((mounted path).bind fun rest =>
      (PostRoute.all.find? fun route => fits route.pattern rest).bind
      fun route => if decodes route.pattern rest then some route else none) = some route
    rw [hrest, Option.bind_some, find_eq_some_iff.2 hfits, Option.bind_some, if_pos hdecodes]

/-! ### Paths that end in a name -/

/-- If the last piece of a path is not empty, it fits the last piece of the pattern. -/
theorem fits_append_singleton (hpiece : piece ≠ []) (h : fits p (rest ++ [piece]) = true) :
    ∃ q a, p = q ++ [a] ∧ a.fits piece = true ∧ q.length = rest.length := by
  induction rest generalizing p with
  | nil =>
    cases p with
    | nil =>
      obtain h | h := fits_nil h
      · cases h
      · exact absurd (List.singleton_inj.1 h) hpiece
    | cons a p =>
      rw [List.nil_append, fits, Bool.and_eq_true] at h
      cases p with
      | nil => exact ⟨[], a, rfl, h.1, rfl⟩
      | cons => cases h.2
  | cons first rest ih =>
    cases p with
    | nil => cases rest <;> cases h
    | cons a p =>
      rw [List.cons_append, fits, Bool.and_eq_true] at h
      obtain ⟨q, b, rfl, hb, hlength⟩ := ih h.2
      exact ⟨a :: q, b, rfl, hb, congrArg (· + 1) hlength⟩

end Backend

end RemitBridge
