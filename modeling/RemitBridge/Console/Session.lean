import Mathlib.Algebra.Order.Floor.Ring
import Mathlib.Data.List.GetD
import Mathlib.Data.Rat.Floor
import RemitBridge.Console.Policy
import RemitBridge.Data.Decimal
import RemitBridge.Json.Base64

/-!
# Session tokens

A token is the text of a payload and its tag, both in URL-safe base 64 with a dot between them
(`signSession`).  What is verified (`verifySession`) is first the tag and then the payload.

A payload that was signed is verified while its session lasts, and whatever else is verified was
tagged with the key of the secret.  Different secrets can have one key: `TextEncoder` replaces lone
surrogates, and HMAC fills a short key up with zeros and hashes a long one.  What another secret has
signed is refused exactly if its key is another one (`sessions_verified_iff`); secrets that differ
in lone surrogates only verify what the other one has signed (`foreign_verified_sample`).
-/

namespace RemitBridge

namespace Console

open Json Base64

/-! ### Payloads -/

def Role.text : Role → Str
  | viewer => units "viewer"
  | operator => units "operator"
  | admin => units "admin"

def allRoles : List Role := [.viewer, .operator, .admin]

/-- The numbers of a script, and the values of those that are integers and not negative. -/
structure Numbers (N : Type) where
  format : NumberFormat N
  natural : N → Option ℕ
  lawful : Lawful format
  finite : ∀ x n, natural x = some n → format.finite x = true
  /-- A zero is zero with either sign. -/
  natural_unsigned : ∀ x, natural (format.unsigned x) = natural x

/-- Times are in seconds. -/
structure SessionPayload where
  sub : Str
  name : Str
  roles : List Role
  iat : ℕ
  exp : ℕ
  deriving DecidableEq

section

variable {N : Type} (numbers : Numbers N)

/-- `z.string().min(1)` -/
def textSchema : Json N → Option Str
  | .str s => if s = [] then none else some s
  | _ => none

/-- `z.enum(ROLES)` -/
def roleSchema : Json N → Option Role
  | .str s => allRoles.find? fun role => decide (role.text = s)
  | _ => none

/-- `z.array(z.enum(ROLES))` -/
def rolesSchema : Json N → Option (List Role)
  | .arr items => items.mapM roleSchema
  | _ => none

/-- `z.number().int().nonnegative()` -/
def timeSchema : Json N → Option ℕ
  | .num x => numbers.natural x
  | _ => none

/-- Other members are passed over. -/
def sessionPayloadSchema : Json N → Option SessionPayload
  | .obj members => do
    let sub ← (Members.lookup members (units "sub")).bind textSchema
    let name ← (Members.lookup members (units "name")).bind textSchema
    let roles ← (Members.lookup members (units "roles")).bind rolesSchema
    let iat ← (Members.lookup members (units "iat")).bind (timeSchema numbers)
    let exp ← (Members.lookup members (units "exp")).bind (timeSchema numbers)
    return ⟨sub, name, roles, iat, exp⟩
  | _ => none

end

/-- An object of the type of a payload: it has the members of a payload, in any order. -/
def Shaped {N : Type} (members : Members N) : Prop :=
  members.Unique ∧ ∀ m ∈ members, m.1 ∈ ["sub", "name", "roles", "iat", "exp"].map units

/-! ### Signing and verifying -/

/-- A character in the place of another one. -/
def swap (c d x : UInt16) : UInt16 := if x = c then d else x

def base64UrlEncode (bytes : List UInt8) : Str :=
  (((btoa bytes).map (swap (unit '+') (unit '-'))).map (swap (unit '/') (unit '_'))).rdropWhile
    fun c => decide (c = padding)

def base64UrlDecode (value : Str) : Option (List UInt8) :=
  let normalized := (value.map (swap (unit '-') (unit '+'))).map (swap (unit '_') (unit '/'))
  atob (normalized ++ List.replicate (missing normalized) padding)

/-- HMAC with SHA-256: a key that is imported computes tags. -/
structure Hmac where
  importKey : List UInt8 → Except Str (List UInt8 → List UInt8)
  imported : ∀ key, key ≠ [] → ∃ mac, importKey key = .ok mac

/-- The key of a secret. -/
def hmacKey (crypto : Hmac) (secret : Str) : Except Str (List UInt8 → List UInt8) :=
  crypto.importKey (Utf8.encode secret)

/-- The loop goes through all indices, whatever it finds. -/
def equalsConstantTime (a b : List UInt8) : Bool :=
  if a.length ≠ b.length then false
  else
    let difference := (List.range a.length).foldl
      (fun difference index => difference ||| (a.getD index 0 ^^^ b.getD index 0)) 0
    difference = 0

def lastIndexOf (c : UInt16) : Str → Option ℕ
  | [] => none
  | d :: s =>
    match lastIndexOf c s with
    | some index => some (index + 1)
    | none => if d = c then some 0 else none

section

variable {N : Type} (numbers : Numbers N) (crypto : Hmac)

/-- What of a token is tagged. -/
def sessionBody (payload : Json N) : Str :=
  base64UrlEncode (Utf8.encode (stringify numbers.format payload))

def signSession (payload : Json N) (secret : Str) : Except Str Str := do
  let body := sessionBody numbers payload
  let mac ← hmacKey crypto secret
  return body ++ unit '.' :: base64UrlEncode (mac (Utf8.encode body))

/-- The payload of a body. -/
def payloadOf (body : Str) : Option SessionPayload := do
  let decoded ← base64UrlDecode body
  let parsedBody ← Json.parse numbers.format (Utf8.text decoded)
  sessionPayloadSchema numbers parsedBody

/-- Times that are not of payloads are in milliseconds. -/
def nowSeconds (now : ℚ) : ℤ := ⌊now / 1000⌋

/-- The payload, while its session lasts. -/
def current (now : ℚ) (payload : SessionPayload) : Option SessionPayload :=
  if (payload.exp : ℤ) ≤ nowSeconds now then none
  -- A token of the future is one that this server did not issue, up to a minute.
  else if nowSeconds now + 60 < (payload.iat : ℤ) then none
  else some payload

def verifySession (token : Option Str) (secret : Str) (now : ℚ) :
    Except Str (Option SessionPayload) := do
  let some token := token | return none
  if token = [] then return none
  let some separator := lastIndexOf (unit '.') token | return none
  if separator = 0 then return none
  let body := token.take separator
  let some providedSignature := base64UrlDecode (token.drop (separator + 1)) | return none
  let mac ← hmacKey crypto secret
  if !equalsConstantTime providedSignature (mac (Utf8.encode body)) then return none
  return (payloadOf numbers body).bind (current now)

end

/-! ### Characters of a URL -/

section

variable {bytes : List UInt8} {s t : Str} {c : UInt16}

/-- The character that stands for another one in a URL. -/
def urlUnit (c : UInt16) : UInt16 := swap (unit '/') (unit '_') (swap (unit '+') (unit '-') c)

/-- What holds of every character of the alphabet that a URL has. -/
theorem urlUnit_alphabet : ∀ c ∈ alphabet, (urlUnit c).toNat < 0x80 ∧ urlUnit c ≠ padding ∧
    urlUnit c ≠ unit '.' ∧
    swap (unit '_') (unit '/') (swap (unit '-') (unit '+') (urlUnit c)) = c :=
  forall_alphabet (by decide +kernel)

theorem rdropWhile_append_replicate {p : UInt16 → Bool} (hc : p c = true) (h : ∀ d ∈ s, p d = false)
    (k : ℕ) : (s ++ List.replicate k c).rdropWhile p = s := by
  induction k with
  | zero =>
    rw [List.replicate_zero, List.append_nil, List.rdropWhile_eq_self_iff]
    intro hs
    rw [h _ (List.getLast_mem hs)]
    exact Bool.false_ne_true
  | succ k ih =>
    rw [List.replicate_succ', ← List.append_assoc, List.rdropWhile_concat_pos _ _ _ hc, ih]

theorem base64UrlEncode_eq (bytes : List UInt8) :
    base64UrlEncode bytes = ((sextets bytes).map digit).map urlUnit := by
  have hpadding : swap (unit '/') (unit '_') (swap (unit '+') (unit '-') padding) = padding := by
    decide
  rw [base64UrlEncode, btoa, List.map_append, List.map_append, List.map_replicate,
    List.map_replicate, hpadding, List.map_map (f := swap (unit '+') (unit '-'))]
  -- No character of the alphabet is the padding, so nothing but the padding is taken away.
  refine rdropWhile_append_replicate (by decide) (fun d hd => ?_) _
  obtain ⟨c, hc, rfl⟩ := List.mem_map.1 hd
  exact decide_eq_false (urlUnit_alphabet c (mem_digits hc)).2.1

/-- **Reading what was written**, whatever the bytes are. -/
theorem base64UrlDecode_base64UrlEncode (bytes : List UInt8) :
    base64UrlDecode (base64UrlEncode bytes) = some bytes := by
  have hnormalized : ((base64UrlEncode bytes).map (swap (unit '-') (unit '+'))).map
      (swap (unit '_') (unit '/')) = (sextets bytes).map digit := by
    rw [base64UrlEncode_eq, List.map_map (g := swap (unit '-') (unit '+')), List.map_map]
    refine (List.map_congr_left fun c hc => ?_).trans (List.map_id _)
    rw [Function.comp_apply, Function.comp_apply, (urlUnit_alphabet c (mem_digits hc)).2.2.2, id]
  have hpad := atob_pad (sextets_lt bytes) (length_sextets bytes)
  rw [octets_sextets] at hpad
  simp only [base64UrlDecode, hnormalized, hpad]

/-- What holds of every character of the alphabet holds of a text. -/
theorem forall_mem_base64UrlEncode {P : UInt16 → Prop} (h : ∀ c ∈ alphabet, P (urlUnit c)) :
    ∀ c ∈ base64UrlEncode bytes, P c := by
  intro c hc
  rw [base64UrlEncode_eq] at hc
  obtain ⟨d, hd, rfl⟩ := List.mem_map.1 hc
  exact h d (mem_digits hd)

theorem dot_notMem_base64UrlEncode (bytes : List UInt8) : unit '.' ∉ base64UrlEncode bytes := by
  have hall : ∀ c ∈ base64UrlEncode bytes, c ≠ unit '.' :=
    forall_mem_base64UrlEncode fun c hc => (urlUnit_alphabet c hc).2.2.1
  intro hmem
  exact hall _ hmem rfl

theorem isAscii_base64UrlEncode (bytes : List UInt8) : Ascii.IsAscii (base64UrlEncode bytes) :=
  forall_mem_base64UrlEncode fun c hc => (urlUnit_alphabet c hc).1

theorem base64UrlEncode_ne_nil (h : bytes ≠ []) : base64UrlEncode bytes ≠ [] := by
  rw [base64UrlEncode_eq]
  fun_cases sextets bytes <;> simp_all

end

/-! ### Tokens -/

section

variable {a b : List UInt8} {body signature : Str} {c : UInt16}

/-- The bits of all indices are gathered. -/
theorem foldl_or_eq_zero (f : ℕ → UInt8) (indices : List ℕ) (difference : UInt8) :
    indices.foldl (fun difference index => difference ||| f index) difference = 0 ↔
      difference = 0 ∧ ∀ index ∈ indices, f index = 0 := by
  induction indices generalizing difference with
  | nil => simp
  | cons index indices ih => simp [ih, and_assoc]

theorem equalsConstantTime_iff : equalsConstantTime a b = true ↔ a = b := by
  rw [equalsConstantTime]
  by_cases hlength : a.length = b.length
  · rw [if_neg (not_not.2 hlength), decide_eq_true_iff, foldl_or_eq_zero]
    constructor
    · rintro ⟨-, hall⟩
      refine List.ext_getElem hlength fun index ha hb => ?_
      have hxor := hall index (List.mem_range.2 ha)
      rw [List.getD_eq_getElem _ _ ha, List.getD_eq_getElem _ _ hb] at hxor
      exact UInt8.xor_eq_zero_iff.1 hxor
    · rintro rfl
      exact ⟨rfl, fun index _ => UInt8.xor_self⟩
  · rw [if_pos hlength]
    exact ⟨fun h => absurd h Bool.false_ne_true, fun h => absurd (congrArg List.length h) hlength⟩

theorem lastIndexOf_of_notMem {s : Str} (h : c ∉ s) : lastIndexOf c s = none := by
  induction s with
  | nil => rfl
  | cons d s ih =>
    rw [List.mem_cons, not_or] at h
    rw [lastIndexOf, ih h.2]
    exact if_neg (Ne.symm h.1)

/-- The last one has no other behind it. -/
theorem lastIndexOf_append (h : c ∉ signature) :
    lastIndexOf c (body ++ c :: signature) = some body.length := by
  induction body with
  | nil =>
    rw [List.nil_append, lastIndexOf, lastIndexOf_of_notMem h]
    exact if_pos rfl
  | cons d body ih =>
    rw [List.cons_append, lastIndexOf, ih]
    rfl

end

/-! ### What the schema reads -/

section

variable {N : Type} {numbers : Numbers N} {members : Members N} {payload : SessionPayload}

theorem textSchema_unsigned (v : Json N) :
    textSchema (unsigned numbers.format v) = textSchema v := by
  cases v <;> simp [unsigned, textSchema]

theorem roleSchema_unsigned (v : Json N) :
    roleSchema (unsigned numbers.format v) = roleSchema v := by
  cases v <;> simp [unsigned, roleSchema]

theorem rolesSchema_unsigned (v : Json N) :
    rolesSchema (unsigned numbers.format v) = rolesSchema v := by
  cases v with
  | arr items =>
    rw [unsigned_arr, rolesSchema, rolesSchema, List.mapM_map]
    exact congrArg items.mapM (funext roleSchema_unsigned)
  | _ => simp [unsigned, rolesSchema]

theorem timeSchema_unsigned (v : Json N) :
    timeSchema numbers (unsigned numbers.format v) = timeSchema numbers v := by
  cases v with
  | num x => rw [unsigned, timeSchema, timeSchema, numbers.natural_unsigned]
  | _ => simp [unsigned, timeSchema]

/-- The schema does not see the sign of a zero. -/
theorem sessionPayloadSchema_unsigned (members : Members N) :
    sessionPayloadSchema numbers (unsigned numbers.format (.obj members)) =
      sessionPayloadSchema numbers (.obj members) := by
  have hfield {β : Type} {schema : Json N → Option β}
      (h : ∀ v, schema (unsigned numbers.format v) = schema v) (key : Str) :
      (Members.lookup (members.map fun m => (m.1, unsigned numbers.format m.2)) key).bind schema =
        (members.lookup key).bind schema := by
    rw [lookup_map_unsigned, Option.bind_map]
    exact congrArg (members.lookup key).bind (funext h)
  rw [unsigned_obj, sessionPayloadSchema, sessionPayloadSchema]
  simp only [hfield textSchema_unsigned, hfield rolesSchema_unsigned, hfield timeSchema_unsigned]

/-- The value is written and read again. -/
def Good (numbers : Numbers N) (v : Json N) : Prop := Wf v ∧ Finite numbers.format v

theorem good_of_textSchema {v : Json N} {s : Str} (h : textSchema v = some s) : Good numbers v := by
  cases v with
  | str t => exact ⟨.str t, .str t⟩
  | _ => cases h

theorem good_of_roleSchema {v : Json N} {role : Role} (h : roleSchema v = some role) :
    Good numbers v := by
  cases v with
  | str t => exact ⟨.str t, .str t⟩
  | _ => cases h

theorem good_of_rolesSchema {v : Json N} {roles : List Role} (h : rolesSchema v = some roles) :
    Good numbers v := by
  cases v with
  | arr items =>
    have hitems : ∀ v ∈ items, Good numbers v := by
      rw [rolesSchema] at h
      induction items generalizing roles with
      | nil => exact fun v hv => absurd hv List.not_mem_nil
      | cons v items ih =>
        rw [List.mapM_cons, Option.bind_eq_bind, Option.bind_eq_some_iff] at h
        obtain ⟨role, hrole, h⟩ := h
        rw [Option.bind_eq_bind, Option.bind_eq_some_iff] at h
        obtain ⟨rest, hrest, -⟩ := h
        exact List.forall_mem_cons.2 ⟨good_of_roleSchema hrole, ih hrest⟩
    exact ⟨.arr fun v hv => (hitems v hv).1, .arr fun v hv => (hitems v hv).2⟩
  | _ => cases h

theorem good_of_timeSchema {v : Json N} {n : ℕ} (h : timeSchema numbers v = some n) :
    Good numbers v := by
  cases v with
  | num x => exact ⟨.num x, .num (numbers.finite x n h)⟩
  | _ => cases h

theorem sessionPayloadSchema_eq_some : sessionPayloadSchema numbers (.obj members) = some payload ↔
    (members.lookup (units "sub")).bind textSchema = some payload.sub ∧
      (members.lookup (units "name")).bind textSchema = some payload.name ∧
      (members.lookup (units "roles")).bind rolesSchema = some payload.roles ∧
      (members.lookup (units "iat")).bind (timeSchema numbers) = some payload.iat ∧
      (members.lookup (units "exp")).bind (timeSchema numbers) = some payload.exp := by
  constructor
  · intro h
    rw [sessionPayloadSchema, Option.bind_eq_bind, Option.bind_eq_some_iff] at h
    obtain ⟨sub, hsub, h⟩ := h
    obtain ⟨name, hname, h⟩ := Option.bind_eq_some_iff.1 h
    obtain ⟨roles, hroles, h⟩ := Option.bind_eq_some_iff.1 h
    obtain ⟨iat, hiat, h⟩ := Option.bind_eq_some_iff.1 h
    obtain ⟨exp, hexp, h⟩ := Option.bind_eq_some_iff.1 h
    cases h
    exact ⟨hsub, hname, hroles, hiat, hexp⟩
  · rintro ⟨hsub, hname, hroles, hiat, hexp⟩
    simp [sessionPayloadSchema, hsub, hname, hroles, hiat, hexp]

/-- A payload is written and read again. -/
theorem good_of_shaped (hshaped : Shaped members)
    (h : sessionPayloadSchema numbers (.obj members) = some payload) :
    Good numbers (.obj members) := by
  obtain ⟨hsub, hname, hroles, hiat, hexp⟩ := sessionPayloadSchema_eq_some.1 h
  have hgood : ∀ m ∈ members, Good numbers m.2 := by
    intro m hm
    have hlookup : members.lookup m.1 = some m.2 := Members.lookup_of_mem hshaped.1 hm
    have hkey := hshaped.2 m hm
    simp only [List.map_cons, List.map_nil, List.mem_cons, List.not_mem_nil, or_false] at hkey
    -- The schema has read each of the five, so it is of the kind that the schema wants.
    rcases hkey with hkey | hkey | hkey | hkey | hkey <;> rw [hkey] at hlookup
    · rw [hlookup] at hsub
      exact good_of_textSchema hsub
    · rw [hlookup] at hname
      exact good_of_textSchema hname
    · rw [hlookup] at hroles
      exact good_of_rolesSchema hroles
    · rw [hlookup] at hiat
      exact good_of_timeSchema hiat
    · rw [hlookup] at hexp
      exact good_of_timeSchema hexp
  exact ⟨.obj hshaped.1 fun m hm => (hgood m hm).1, .obj fun m hm => (hgood m hm).2⟩

end

/-! ### What is verified -/

/-- The part of a token before its last dot. -/
def bodyOf (token : Str) : Str := token.take ((lastIndexOf (unit '.') token).getD 0)

/-- The part of a token after its last dot. -/
def signatureOf (token : Str) : Str := token.drop ((lastIndexOf (unit '.') token).getD 0 + 1)

section

variable {N : Type} {numbers : Numbers N} {crypto : Hmac} {members : Members N}
  {payload : SessionPayload} {token body signature secret : Str} {now : ℚ} {tag : List UInt8}
  {mac : List UInt8 → List UInt8}

/-- A secret that is not empty has a key. -/
theorem hmacKey_ok (h : secret ≠ []) : ∃ mac, hmacKey crypto secret = .ok mac :=
  crypto.imported (Utf8.encode secret) (Utf8.encode_ne_nil h)

theorem bodyOf_append (h : unit '.' ∉ signature) :
    bodyOf (body ++ unit '.' :: signature) = body := by
  rw [bodyOf, lastIndexOf_append h, Option.getD_some, List.take_left]

theorem signatureOf_append (h : unit '.' ∉ signature) :
    signatureOf (body ++ unit '.' :: signature) = signature := by
  rw [signatureOf, lastIndexOf_append h, Option.getD_some, List.drop_append, List.drop_of_length_le
    (by omega), Nat.add_sub_cancel_left]
  rfl

/-- A tag is verified first, then the payload. -/
theorem verifySession_append (hbody : body ≠ []) (hdot : unit '.' ∉ signature)
    (htag : base64UrlDecode signature = some tag) (hmac : hmacKey crypto secret = .ok mac) :
    verifySession numbers crypto (some (body ++ unit '.' :: signature)) secret now =
      .ok (if tag = mac (Utf8.encode body) then (payloadOf numbers body).bind (current now)
        else none) := by
  have hlength : body.length ≠ 0 := fun h => hbody (List.length_eq_zero_iff.1 h)
  have htake : (body ++ unit '.' :: signature).take body.length = body := List.take_left
  have hdrop : (body ++ unit '.' :: signature).drop (body.length + 1) = signature := by
    have hsignature : signatureOf (body ++ unit '.' :: signature) = signature :=
      signatureOf_append hdot
    rwa [signatureOf, lastIndexOf_append hdot, Option.getD_some] at hsignature
  have hne : body ++ unit '.' :: signature ≠ [] := by simp
  simp only [verifySession, lastIndexOf_append hdot, if_neg hne, if_neg hlength, hdrop, htake,
    htag, hmac]
  by_cases heq : tag = mac (Utf8.encode body)
  · have hequal : equalsConstantTime tag (mac (Utf8.encode body)) = true :=
      equalsConstantTime_iff.2 heq
    simp [bind, Except.bind, pure, Except.pure, hequal, if_pos heq]
  · have hequal : equalsConstantTime tag (mac (Utf8.encode body)) = false :=
      Bool.eq_false_iff.2 fun h => heq (equalsConstantTime_iff.1 h)
    simp [bind, Except.bind, pure, Except.pure, hequal, if_neg heq]

theorem current_eq (now : ℚ) (payload : SessionPayload) : current now payload =
    if ⌊now / 1000⌋ < (payload.exp : ℤ) ∧ (payload.iat : ℤ) ≤ ⌊now / 1000⌋ + 60 then some payload
    else none := by
  rw [current, nowSeconds]
  split_ifs with hexp hiat hlasts
  · omega
  · rfl
  · omega
  · rfl
  · rfl
  · omega

theorem current_eq_some {payload' : SessionPayload} : current now payload = some payload' ↔
    payload = payload' ∧ nowSeconds now < payload.exp ∧
    (payload.iat : ℤ) ≤ nowSeconds now + 60 := by
  rw [current]
  split_ifs with hexp hiat
  · simp [not_lt.2 hexp]
  · simp [not_le.2 hiat]
  · simp [not_le.1 hexp, not_lt.1 hiat]

/-- What is verified has its tag, and it is what the body says. -/
theorem tagged_of_verifySession
    (h : verifySession numbers crypto (some token) secret now = .ok (some payload)) :
    ∃ mac, hmacKey crypto secret = .ok mac ∧
      base64UrlDecode (signatureOf token) = some (mac (Utf8.encode (bodyOf token))) ∧
      payloadOf numbers (bodyOf token) = some payload := by
  -- Every branch but one answers `null`.
  rw [verifySession] at h
  split_ifs at h
  · cases h
  split at h
  · next separator hseparator =>
    split_ifs at h
    · cases h
    have hbody : bodyOf token = token.take separator := by
      rw [bodyOf, hseparator, Option.getD_some]
    have hsignature : signatureOf token = token.drop (separator + 1) := by
      rw [signatureOf, hseparator, Option.getD_some]
    rw [hbody, hsignature]
    split at h
    · next tag htag =>
      cases hkey : hmacKey crypto secret with
      | error e =>
        rw [hkey] at h
        cases h
      | ok mac =>
        rw [hkey] at h
        by_cases hequal : equalsConstantTime tag (mac (Utf8.encode (token.take separator))) = true
        · simp only [bind, Except.bind, pure, Except.pure, hequal] at h
          obtain ⟨payload', hpayload, hcurrent⟩ := Option.bind_eq_some_iff.1 (Except.ok.inj h)
          rw [(current_eq_some.1 hcurrent).1] at hpayload
          exact ⟨mac, rfl, htag.trans (congrArg some (equalsConstantTime_iff.1 hequal)), hpayload⟩
        · simp [bind, Except.bind, pure, Except.pure, hequal] at h
    · cases h
  · cases h

/-- It throws only if the key of the secret is not imported. -/
theorem verifySession_ok (token : Str) (now : ℚ) (hmac : hmacKey crypto secret = .ok mac) :
    ∃ result, verifySession numbers crypto (some token) secret now = .ok result := by
  simp only [verifySession, hmac]
  split
  · exact ⟨none, rfl⟩
  split
  · split
    · exact ⟨none, rfl⟩
    split
    · next tag htag =>
      simp only [bind, Except.bind]
      split
      · exact ⟨none, rfl⟩
      · exact ⟨_, rfl⟩
    · exact ⟨none, rfl⟩
  · exact ⟨none, rfl⟩

end

/-! ### Signing and verifying again -/

section

variable {N : Type} {numbers : Numbers N} {crypto : Hmac} {members : Members N}
  {payload : SessionPayload} {token secret : Str} {mac : List UInt8 → List UInt8}

theorem payloadOf_sessionBody (hgood : Good numbers (.obj members)) :
    payloadOf numbers (sessionBody numbers (.obj members)) =
      sessionPayloadSchema numbers (.obj members) := by
  rw [payloadOf, sessionBody, base64UrlDecode_base64UrlEncode, Option.bind_eq_bind,
    Option.bind_some, Utf8.parse_text_encode numbers.lawful hgood.1 hgood.2, Option.bind_eq_bind,
    Option.bind_some, sessionPayloadSchema_unsigned]

theorem sessionBody_ne_nil (members : Members N) : sessionBody numbers (.obj members) ≠ [] := by
  have hstringify : stringify numbers.format (.obj members) ≠ [] := by
    cases members <;> exact List.cons_ne_nil _ _
  exact base64UrlEncode_ne_nil (Utf8.encode_ne_nil hstringify)

theorem signSession_eq_ok {v : Json N} : signSession numbers crypto v secret = .ok token ↔
    ∃ mac, hmacKey crypto secret = .ok mac ∧ token = sessionBody numbers v ++ unit '.' ::
      base64UrlEncode (mac (Utf8.encode (sessionBody numbers v))) := by
  rw [signSession]
  cases hmacKey crypto secret with
  | error e => simp [bind, Except.bind]
  | ok mac => simp [bind, Except.bind, pure, Except.pure, eq_comm]

theorem signSession_of_key (hmac : hmacKey crypto secret = .ok mac) (v : Json N) :
    ∃ token, signSession numbers crypto v secret = .ok token :=
  ⟨_, signSession_eq_ok.2 ⟨mac, hmac, rfl⟩⟩

/-- Secrets with one key sign the same. -/
theorem signSession_congr {secret' : Str} (h : hmacKey crypto secret' = hmacKey crypto secret)
    (v : Json N) : signSession numbers crypto v secret' = signSession numbers crypto v secret := by
  rw [signSession, signSession, h]

/-- **A payload that was signed** is verified while its session lasts. -/
theorem verifySession_of_signSession (hgood : Good numbers (.obj members))
    (hpayload : sessionPayloadSchema numbers (.obj members) = some payload)
    (hsign : signSession numbers crypto (.obj members) secret = .ok token) (now : ℚ) :
    verifySession numbers crypto (some token) secret now = .ok (current now payload) := by
  obtain ⟨mac, hmac, htoken⟩ := signSession_eq_ok.1 hsign
  rw [htoken, verifySession_append (sessionBody_ne_nil members) (dot_notMem_base64UrlEncode _)
    (base64UrlDecode_base64UrlEncode _) hmac, if_pos rfl, payloadOf_sessionBody hgood, hpayload,
    Option.bind_some]

end

/-! ### Who has signed -/

/-- A message and a tag come with a token that somebody sends. -/
def Presented (Sent : Str → Prop) (message tag : List UInt8) : Prop :=
  ∃ token, Sent token ∧ message = Utf8.encode (bodyOf token) ∧
    base64UrlDecode (signatureOf token) = some tag

/-- Nobody presents a message with its tag that was not tagged with the key. -/
def Unforgeable (crypto : Hmac) (Tagged : (List UInt8 → List UInt8) → List UInt8 → Prop)
    (Presented : List UInt8 → List UInt8 → Prop) : Prop :=
  ∀ key mac, crypto.importKey key = .ok mac → ∀ message, Presented message (mac message) →
    Tagged mac message

/-- The same for the key of one secret. -/
def UnforgeableFor (crypto : Hmac) (secret : Str)
    (Tagged : (List UInt8 → List UInt8) → List UInt8 → Prop)
    (Presented : List UInt8 → List UInt8 → Prop) : Prop :=
  ∀ mac, hmacKey crypto secret = .ok mac → ∀ message, Presented message (mac message) →
    Tagged mac message

/-- What is verified with a secret, next to another one. -/
structure Verified {N : Type} (numbers : Numbers N) (crypto : Hmac) (secret secret' : Str) :
    Prop where
  /-- A payload is signed, and verified while its session lasts, and not before or after. -/
  returned : ∀ (members : Members N) (payload : SessionPayload), Shaped members →
    sessionPayloadSchema numbers (.obj members) = some payload →
    ∃ token, signSession numbers crypto (.obj members) secret = .ok token ∧ ∀ now : ℚ,
      verifySession numbers crypto (some token) secret now =
        .ok (if ⌊now / 1000⌋ < (payload.exp : ℤ) ∧ (payload.iat : ℤ) ≤ ⌊now / 1000⌋ + 60 then
          some payload else none)
  /-- What is verified was tagged with the key of the secret. -/
  tagged : ∀ Tagged Sent, UnforgeableFor crypto secret Tagged (Presented Sent) →
    ∀ (token : Str) (now : ℚ) (payload : SessionPayload), Sent token →
    verifySession numbers crypto (some token) secret now = .ok (some payload) →
    ∃ mac, hmacKey crypto secret = .ok mac ∧ Tagged mac (Utf8.encode (bodyOf token))
  /-- Another body with the signature of a token is not verified, unless it was tagged too. -/
  edited : ∀ Tagged Sent, UnforgeableFor crypto secret Tagged (Presented Sent) →
    ∀ (v : Json N) (body body' signature : Str) (mac : List UInt8 → List UInt8) (now : ℚ),
    signSession numbers crypto v secret = .ok (body ++ unit '.' :: signature) →
    unit '.' ∉ signature → Sent (body' ++ unit '.' :: signature) →
    hmacKey crypto secret = .ok mac → ¬ Tagged mac (Utf8.encode body') →
    verifySession numbers crypto (some (body' ++ unit '.' :: signature)) secret now = .ok none
  /-- A token that the other secret has signed, and no secret with another key, is not verified. -/
  foreign : secret' ≠ secret → ∀ Tagged Sent, UnforgeableFor crypto secret Tagged (Presented Sent) →
    ∀ (v : Json N) (token : Str) (now : ℚ), signSession numbers crypto v secret' = .ok token →
    Sent token →
    (∀ mac, Tagged mac (Utf8.encode (sessionBody numbers v)) → hmacKey crypto secret' = .ok mac) →
    verifySession numbers crypto (some token) secret now = .ok none
  decoded : ∀ bytes : List UInt8, base64UrlDecode (base64UrlEncode bytes) = some bytes

section

variable {N : Type} {numbers : Numbers N} {crypto : Hmac}
  {Tagged : (List UInt8 → List UInt8) → List UInt8 → Prop} {Sent : Str → Prop}
  {secret secret' token : Str} {members : Members N} {payload : SessionPayload} {now : ℚ}
  {mac : List UInt8 → List UInt8}

theorem tagged_of_sent (hunforgeable : UnforgeableFor crypto secret Tagged (Presented Sent))
    (hsent : Sent token)
    (h : verifySession numbers crypto (some token) secret now = .ok (some payload)) :
    ∃ mac, hmacKey crypto secret = .ok mac ∧ Tagged mac (Utf8.encode (bodyOf token)) := by
  obtain ⟨mac, hmac, htag, -⟩ := tagged_of_verifySession h
  exact ⟨mac, hmac, hunforgeable mac hmac _ ⟨token, hsent, rfl, htag⟩⟩

/-- What was not tagged with the key is not verified. -/
theorem verifySession_eq_none (hunforgeable : UnforgeableFor crypto secret Tagged (Presented Sent))
    (hsent : Sent token) (hmac : hmacKey crypto secret = .ok mac)
    (htagged : ¬ Tagged mac (Utf8.encode (bodyOf token))) :
    verifySession numbers crypto (some token) secret now = .ok none := by
  obtain ⟨result, hresult⟩ : ∃ result,
      verifySession numbers crypto (some token) secret now = .ok result :=
    verifySession_ok token now hmac
  cases result with
  | none => exact hresult
  | some payload =>
    obtain ⟨mac', hmac', htagged'⟩ := tagged_of_sent hunforgeable hsent hresult
    rw [hmac] at hmac'
    cases hmac'
    exact absurd htagged' htagged

theorem bodyOf_signSession {v : Json N} (h : signSession numbers crypto v secret = .ok token) :
    bodyOf token = sessionBody numbers v := by
  obtain ⟨mac, -, rfl⟩ := signSession_eq_ok.1 h
  exact bodyOf_append (dot_notMem_base64UrlEncode _)

/-- **Sessions are verified** for what was signed with the key of the secret, and for nothing
else. -/
theorem verified_of_key (hmac : hmacKey crypto secret = .ok mac)
    (hkey : secret' ≠ secret → hmacKey crypto secret' ≠ hmacKey crypto secret) :
    Verified numbers crypto secret secret' where
  returned members payload hshaped hpayload := by
    obtain ⟨token, hsign⟩ : ∃ token, signSession numbers crypto (.obj members) secret = .ok token :=
      signSession_of_key hmac _
    refine ⟨token, hsign, fun now => ?_⟩
    rw [verifySession_of_signSession (good_of_shaped hshaped hpayload) hpayload hsign now,
      current_eq]
  tagged Tagged Sent hunforgeable token now payload hsent h := tagged_of_sent hunforgeable hsent h
  edited Tagged Sent hunforgeable v body body' signature mac now hsign hdot hsent hmac htagged := by
    refine verifySession_eq_none hunforgeable hsent hmac ?_
    rwa [bodyOf_append hdot]
  foreign hne Tagged Sent hunforgeable v token now hsign hsent honly := by
    -- If it had been tagged with the key of the secret, the two keys would be one.
    refine verifySession_eq_none hunforgeable hsent hmac fun htagged => ?_
    rw [bodyOf_signSession hsign] at htagged
    exact hkey hne ((honly mac htagged).trans hmac.symm)
  decoded := base64UrlDecode_base64UrlEncode

/-- What a secret with the same key has signed is verified. -/
theorem not_verified_of_key (hgood : Good numbers (.obj members))
    (hpayload : sessionPayloadSchema numbers (.obj members) = some payload)
    (hcurrent : current now payload = some payload) (hmac : hmacKey crypto secret = .ok mac)
    (hne : secret' ≠ secret) (hkey : hmacKey crypto secret' = hmacKey crypto secret) :
    ¬ Verified numbers crypto secret secret' := by
  intro h
  obtain ⟨token, hsign⟩ : ∃ token, signSession numbers crypto (.obj members) secret = .ok token :=
    signSession_of_key hmac _
  -- Nothing but this token is sent, and nothing else was tagged.
  have hunforgeable : UnforgeableFor crypto secret
      (fun mac' message => hmacKey crypto secret' = .ok mac' ∧ message = Utf8.encode (bodyOf token))
      (Presented fun token' => token' = token) := by
    rintro mac' hmac' message ⟨token', rfl, rfl, -⟩
    exact ⟨hkey.trans hmac', rfl⟩
  have hnone := h.foreign hne _ _ hunforgeable (.obj members) token now
    ((signSession_congr hkey _).trans hsign) rfl fun mac' htagged => htagged.1
  rw [verifySession_of_signSession hgood hpayload hsign now, hcurrent] at hnone
  cases hnone

/-- **Sessions are verified as they should be** exactly if the secret has a key, and another secret
has another one.  A payload and a time of its session are all that is taken for granted. -/
theorem sessions_verified_iff (hshaped : Shaped members)
    (hpayload : sessionPayloadSchema numbers (.obj members) = some payload)
    (hcurrent : current now payload = some payload) (crypto : Hmac) (secret secret' : Str) :
    Verified numbers crypto secret secret' ↔ (∃ mac, hmacKey crypto secret = .ok mac) ∧
      (secret' ≠ secret → hmacKey crypto secret' ≠ hmacKey crypto secret) := by
  constructor
  · intro h
    obtain ⟨token, hsign, -⟩ := h.returned members payload hshaped hpayload
    obtain ⟨mac, hmac, -⟩ := signSession_eq_ok.1 hsign
    exact ⟨⟨mac, hmac⟩, fun hne hkey =>
      not_verified_of_key (good_of_shaped hshaped hpayload) hpayload hcurrent hmac hne hkey h⟩
  · rintro ⟨⟨mac, hmac⟩, hkey⟩
    exact verified_of_key hmac hkey

end

/-! ### Who has signed what -/

section

variable {N : Type} {numbers : Numbers N} {crypto : Hmac} {Signed : Members N → Str → Prop}
  {Sent : Str → Prop} {token secret : Str} {now : ℚ} {payload : SessionPayload}

/-- The key of a secret has signed a payload with the message as its body. -/
def Issued (numbers : Numbers N) (crypto : Hmac) (Signed : Members N → Str → Prop)
    (mac : List UInt8 → List UInt8) (message : List UInt8) : Prop :=
  ∃ members secret, Signed members secret ∧ hmacKey crypto secret = .ok mac ∧
    message = Utf8.encode (sessionBody numbers (.obj members))

/-- **What is verified was signed**, if nothing but payloads is tagged: with a secret of the same
key, and it is the payload that was signed. -/
theorem signed_of_verifySession
    (hunforgeable : Unforgeable crypto (Issued numbers crypto Signed) (Presented Sent))
    (hsigned : ∀ members secret, Signed members secret → Good numbers (.obj members))
    (hsent : Sent token)
    (h : verifySession numbers crypto (some token) secret now = .ok (some payload)) :
    ∃ members secret', Signed members secret' ∧ hmacKey crypto secret' = hmacKey crypto secret ∧
      bodyOf token = sessionBody numbers (.obj members) ∧
      sessionPayloadSchema numbers (.obj members) = some payload := by
  obtain ⟨mac, hmac, htag, hpayload⟩ := tagged_of_verifySession h
  obtain ⟨members, secret', hsign, hmac', hmessage⟩ :=
    hunforgeable _ mac hmac _ ⟨token, hsent, rfl, htag⟩
  -- No other text has the bytes of the body, which is of ASCII.
  have hbody : bodyOf token = sessionBody numbers (.obj members) :=
    Ascii.eq_of_encode (isAscii_base64UrlEncode _) hmessage
  rw [hbody, payloadOf_sessionBody (hsigned members secret' hsign)] at hpayload
  exact ⟨members, secret', hsign, hmac'.trans hmac.symm, hbody, hpayload⟩

end

/-! ### A session -/

/-- Numbers that are kept as their literals. -/
def literalNumbers : Numbers Str where
  format := literal
  natural s := if isNumber s && s.all isDigit then some (Decimal.value s) else none
  lawful := lawful_literal
  finite s n h := by
    by_cases hs : isNumber s = true
    · exact hs
    · simp [hs] at h
  natural_unsigned _ := rfl

/-- The tags of HMAC as far as one of them is known. -/
def tableHmac (key message tag : List UInt8) : Hmac where
  importKey key' :=
    if key' = [] then .error (units "DataError")
    else .ok fun message' => if key' = key ∧ message' = message then tag else []
  imported _ h := ⟨_, if_neg h⟩

section

variable {N : Type} {numbers : Numbers N} {secret body : Str} {tag : List UInt8}

theorem signSession_tableHmac (hsecret : secret ≠ []) (v : Json N) :
    signSession numbers (tableHmac (Utf8.encode secret) (Utf8.encode (sessionBody numbers v)) tag) v
      secret = .ok (sessionBody numbers v ++ unit '.' :: base64UrlEncode tag) := by
  refine signSession_eq_ok.2 ⟨_, if_neg (Utf8.encode_ne_nil hsecret), ?_⟩
  rw [if_pos ⟨rfl, rfl⟩]

theorem hmacKey_tableHmac (body : Str) (tag : List UInt8) (hsecret : secret ≠ []) :
    ∃ mac, hmacKey (tableHmac (Utf8.encode secret) (Utf8.encode body) tag) secret = .ok mac ∧
      mac (Utf8.encode body) = tag :=
  ⟨_, if_neg (Utf8.encode_ne_nil hsecret), if_pos ⟨rfl, rfl⟩⟩

/-- The key of another secret does not compute the tag. -/
theorem hmacKey_tableHmac_ne {secret' : Str} (hsecret : secret ≠ []) (htag : tag ≠ [])
    (hbytes : Utf8.encode secret' ≠ Utf8.encode secret) :
    hmacKey (tableHmac (Utf8.encode secret) (Utf8.encode body) tag) secret' ≠
      hmacKey (tableHmac (Utf8.encode secret) (Utf8.encode body) tag) secret := by
  obtain ⟨mac, hmac, hmessage⟩ := hmacKey_tableHmac body tag hsecret
  rw [hmac]
  intro hmac'
  simp only [hmacKey, tableHmac] at hmac'
  split_ifs at hmac'
  obtain rfl := Except.ok.inj hmac'
  exact htag (hmessage.symm.trans (if_neg fun h => hbytes h.1))

/-- The tag comes with its message only, and with the key that has tagged it. -/
theorem unforgeable_tableHmac (htag : tag ≠ []) :
    Unforgeable (tableHmac (Utf8.encode secret) (Utf8.encode body) tag)
      (fun mac message =>
        hmacKey (tableHmac (Utf8.encode secret) (Utf8.encode body) tag) secret = .ok mac ∧
          message = Utf8.encode body)
      (Presented fun token => token = body ++ unit '.' :: base64UrlEncode tag) := by
  rintro key mac hmac message ⟨token, rfl, hmessage, hpresented⟩
  have hdot : unit '.' ∉ base64UrlEncode tag := dot_notMem_base64UrlEncode tag
  rw [bodyOf_append hdot] at hmessage
  rw [signatureOf_append hdot, base64UrlDecode_base64UrlEncode] at hpresented
  refine ⟨?_, hmessage⟩
  by_cases hkey : key = Utf8.encode secret
  · rw [← hmac, hkey]
    rfl
  · -- Another key computes no tag.
    have hnone : mac message = [] := by
      simp only [tableHmac] at hmac
      split_ifs at hmac with hnil
      rw [← Except.ok.inj hmac]
      exact if_neg fun h => hkey h.1
    rw [hnone] at hpresented
    exact absurd (Option.some.inj hpresented) htag

end

def sampleMembers : Members Str :=
  [(units "sub", .str (units "zoe@example.com")), (units "name", .str (units "Zoë")),
    (units "roles", .arr [.str (units "viewer"), .str (units "admin")]),
    (units "iat", .num (units "1700000000")), (units "exp", .num (units "1700028800"))]

def samplePayload : SessionPayload :=
  ⟨units "zoe@example.com", units "Zoë", [.viewer, .admin], 1700000000, 1700028800⟩

theorem shaped_sampleMembers : Shaped sampleMembers := by
  refine ⟨?_, fun m hm => ?_⟩
  · show (["sub", "name", "roles", "iat", "exp"].map units).Nodup
    decide +kernel
  · exact List.mem_map_of_mem (f := Prod.fst) hm

theorem sessionPayloadSchema_sampleMembers :
    sessionPayloadSchema literalNumbers (.obj sampleMembers) = some samplePayload := by
  decide +kernel

theorem good_sampleMembers : Good literalNumbers (.obj sampleMembers) :=
  good_of_shaped shaped_sampleMembers sessionPayloadSchema_sampleMembers

def sampleSecret : Str := List.replicate 32 (unit 's')

def sampleBody : Str := sessionBody literalNumbers (.obj sampleMembers)

def sampleTag : List UInt8 :=
  [165, 90, 250, 190, 109, 70, 128, 45, 173, 102, 6, 217, 59, 209, 219, 150, 12, 71, 136,
    118, 146, 246, 209, 226, 33, 231, 209, 181, 209, 232, 241, 40]

def sampleHmac : Hmac := tableHmac (Utf8.encode sampleSecret) (Utf8.encode sampleBody) sampleTag

def sampleToken : Str := sampleBody ++ unit '.' :: base64UrlEncode sampleTag

theorem current_samplePayload : current 1700000100000 samplePayload = some samplePayload := by
  rw [current_eq, if_pos (by norm_num [samplePayload])]

theorem sessions_verified_iff_sample :
    Verified literalNumbers sampleHmac sampleSecret (List.replicate 32 (unit 't')) := by
  have hsecret : sampleSecret ≠ [] := List.cons_ne_nil _ _
  obtain ⟨mac, hmac, -⟩ : ∃ mac, hmacKey sampleHmac sampleSecret = .ok mac ∧
      mac (Utf8.encode sampleBody) = sampleTag := hmacKey_tableHmac _ _ hsecret
  refine (sessions_verified_iff shaped_sampleMembers sessionPayloadSchema_sampleMembers
    current_samplePayload _ _ _).2 ⟨⟨mac, hmac⟩, fun _ => ?_⟩
  exact hmacKey_tableHmac_ne hsecret (List.cons_ne_nil _ _) (by decide +kernel)

/-- Two secrets with lone surrogates are one key, so that one verifies what the other one signs,
whatever the tags are. -/
theorem foreign_verified_sample :
    (List.replicate 32 0xD800 : Str) ≠ List.replicate 32 0xD801 ∧ ∀ crypto : Hmac,
      (∃ token, signSession literalNumbers crypto (.obj sampleMembers) (List.replicate 32 0xD800) =
          .ok token ∧
        verifySession literalNumbers crypto (some token) (List.replicate 32 0xD801) 1700000100000 =
          .ok (some samplePayload)) ∧
      ¬ Verified literalNumbers crypto (List.replicate 32 0xD801) (List.replicate 32 0xD800) := by
  have hsame : Utf8.encode (List.replicate 32 0xD800) = Utf8.encode (List.replicate 32 0xD801) := by
    decide +kernel
  have hne : (List.replicate 32 0xD800 : Str) ≠ List.replicate 32 0xD801 := by decide
  refine ⟨hne, fun crypto => ?_⟩
  have hkey :
      hmacKey crypto (List.replicate 32 0xD800) = hmacKey crypto (List.replicate 32 0xD801) :=
    congrArg crypto.importKey hsame
  obtain ⟨mac, hmac⟩ : ∃ mac, hmacKey crypto (List.replicate 32 0xD801) = .ok mac :=
    hmacKey_ok (by decide)
  obtain ⟨token, hsign⟩ : ∃ token, signSession literalNumbers crypto (.obj sampleMembers)
      (List.replicate 32 0xD801) = .ok token := signSession_of_key hmac _
  refine ⟨⟨token, (signSession_congr hkey _).trans hsign, ?_⟩,
    not_verified_of_key good_sampleMembers sessionPayloadSchema_sampleMembers current_samplePayload
      hmac hne hkey⟩
  rw [verifySession_of_signSession good_sampleMembers sessionPayloadSchema_sampleMembers hsign,
    current_samplePayload]

end Console

end RemitBridge
