import RemitBridge.Url.Origin

/-!
# Where the console leads after signing in

`safeNextPath` accepts a text that begins with a slash and not with two.  It looks at the text as it
is, but the browser drops tabs and newlines from it and reads a backslash as a slash.  So a text
that is accepted can name another host; `staysHome_iff` says exactly which ones lead elsewhere.
-/

namespace RemitBridge

namespace Console

open Url

def safeNextPath (value : Option Str) (fallback : Str := units "/") : Str :=
  match value with
  | none => fallback
  | some value =>
    if value.length = 0 then fallback
    else if (units "/").isPrefixOf value = false ∨ (units "//").isPrefixOf value = true then
      fallback
    else value

variable {H : Type}

/-- What the page is sent to has the origin of the console. -/
def StaysHome (P : Authorities H) (console : Origin H) (value : Str) : Prop :=
  resolve P console (scalars (safeNextPath (some value))) = some console

/-- If the text begins with a slash, and not with two, but what the browser makes of it does begin
with two, then the authority that follows is that of the console. -/
def Harmless (P : Authorities H) (console : Origin H) (value : Str) : Prop :=
  (units "/").isPrefixOf value = true → (units "//").isPrefixOf value = false →
  ((clean (scalars value)).drop 1).head?.any isSlash = true →
  P.authority (namedAuthority (clean (scalars value))) = some (console.host, console.port)

variable {P : Authorities H} {console : Origin H} {value : Str}

theorem resolve_fallback : resolve P console (scalars (units "/")) = some console :=
  (resolve_slash (t := []) rfl).trans (if_neg (by decide))

/-- An accepted text begins with a slash for the browser too. -/
theorem clean_of_isPrefixOf (h : (units "/").isPrefixOf value = true) :
    ∃ t, clean (scalars value) = '/' :: t := by
  obtain ⟨rest, rfl⟩ := List.isPrefixOf_iff_prefix.1 h
  have hscalars : scalars (units "/" ++ rest) = '/' :: scalars rest := scalars_cons (by decide)
  rw [hscalars]
  exact ⟨_, clean_cons (by decide) (by decide)⟩

/-- **The redirect stays on the console** exactly if the text is harmless. -/
theorem staysHome_iff (P : Authorities H) (console : Origin H) (value : Str) :
    StaysHome P console value ↔ Harmless P console value := by
  rw [StaysHome, safeNextPath]
  by_cases hslash : (units "/").isPrefixOf value = true
  · have hne : value.length ≠ 0 := by
      intro hzero
      rw [List.length_eq_zero_iff.1 hzero] at hslash
      cases hslash
    by_cases hdouble : (units "//").isPrefixOf value = true
    · simp [hdouble, hne, resolve_fallback, Harmless]
    · obtain ⟨t, ht⟩ := clean_of_isPrefixOf hslash
      rw [Bool.not_eq_true] at hdouble
      have hnamed : namedAuthority ('/' :: t) = namedAuthority t := rfl
      simp only [if_neg hne, hslash, hdouble, Bool.true_eq_false, Bool.false_eq_true, or_self,
        if_false, Harmless, forall_const, resolve_slash ht, ht, hnamed, List.drop_one,
        List.tail_cons]
      by_cases hsecond : t.head?.any isSlash = true
      · rw [if_pos hsecond]
        constructor
        · intro hresolve _
          obtain ⟨⟨host, port⟩, hauthority, horigin⟩ := Option.map_eq_some_iff.1 hresolve
          rw [hauthority, ← horigin]
        · intro hauthority
          rw [hauthority hsecond]
          rfl
      · rw [if_neg hsecond]
        exact iff_of_true rfl fun h => absurd h hsecond
  · rw [Bool.not_eq_true] at hslash
    simp [hslash, resolve_fallback, Harmless]

namespace Sample

/-- Names of letters and dots are hosts. -/
def browser : Authorities Text where
  authority s :=
    if s ≠ [] ∧ s.all (fun c => c.isLower || c == '.') = true then some (s, none) else none
  absolute _ _ := none

def consoleOrigin : Origin Text := ⟨.https, "console.example".toList, none⟩

end Sample

/-- A backslash after the slash leads to another host. -/
theorem not_staysHome_sample :
    safeNextPath (some (units "/\\evil.example")) = units "/\\evil.example" ∧
    resolve Sample.browser Sample.consoleOrigin
      (scalars (safeNextPath (some (units "/\\evil.example")))) =
        some ⟨.https, "evil.example".toList, none⟩ ∧
    ¬ StaysHome Sample.browser Sample.consoleOrigin (units "/\\evil.example") := by
  have hresolve : resolve Sample.browser Sample.consoleOrigin
      (scalars (safeNextPath (some (units "/\\evil.example")))) =
        some ⟨.https, "evil.example".toList, none⟩ := by
    decide +kernel
  refine ⟨by decide +kernel, hresolve, ?_⟩
  rw [StaysHome, hresolve]
  decide

end Console

end RemitBridge
