import RemitBridge.Json.Ascii
import RemitBridge.Kyc.Canonical

/-!
# Signed quotes

A quote is signed by a hash of the text of its members, in which these are sorted.  So it is
verified in whatever order they come, and not once one of them is changed (`verifyQuote_iff`).
-/

namespace RemitBridge

namespace Quoting

open Json

open Kyc (canonicalize Hashed attestationHashOf)

variable {N : Type}

structure QuoteBody (N : Type) where
  quoteId : Str
  corridorId : Str
  base : Str
  quote : Str
  midRate : Str
  spreadBps : N
  clientRate : Str
  amount : Str
  fee : Str
  total : Str
  oracleSource : Str
  validUntil : Str

def QuoteBody.members (body : QuoteBody N) : Members N :=
  [(units "quoteId", .str body.quoteId), (units "corridorId", .str body.corridorId),
    (units "base", .str body.base), (units "quote", .str body.quote),
    (units "midRate", .str body.midRate), (units "spreadBps", .num body.spreadBps),
    (units "clientRate", .str body.clientRate), (units "amount", .str body.amount),
    (units "fee", .str body.fee), (units "total", .str body.total),
    (units "oracleSource", .str body.oracleSource), (units "validUntil", .str body.validUntil)]

/-- An object with a signature, the name of its algorithm and the key that it was made with. -/
structure SignedQuote (N : Type) where
  members : Members N
  unique : members.Unique
  signature : Str
  algorithm : Str
  signingKey : Str
  hasSignature : (units "signature", .str signature) ∈ members
  hasAlgorithm : (units "algorithm", .str algorithm) ∈ members
  hasSigningKey : (units "signingKey", .str signingKey) ∈ members

/-- All members but the three. -/
def SignedQuote.body (quote : SignedQuote N) : Members N :=
  ((quote.members.delete (units "signature")).delete (units "algorithm")).delete
    (units "signingKey")

/-- What a signed quote has beside its body. -/
def signatureMembers (signature algorithm signingKey : Str) : Members N :=
  [(units "signature", .str signature), (units "algorithm", .str algorithm),
    (units "signingKey", .str signingKey)]

theorem unique_signed (body : QuoteBody N) (signature algorithm signingKey : Str) :
    (body.members ++ signatureMembers signature algorithm signingKey).Unique := by
  show [units "quoteId", units "corridorId", units "base", units "quote", units "midRate",
    units "spreadBps", units "clientRate", units "amount", units "fee", units "total",
    units "oracleSource", units "validUntil", units "signature", units "algorithm",
    units "signingKey"].Nodup
  decide

variable (F : NumberFormat N) (hmac : Str → List UInt8 → List UInt8)

/-- The hash that a body is signed by. -/
def digest (secret : Str) (body : Members N) : Str :=
  Hex.encode (hmac secret (Utf8.encode (canonicalize F (.obj body))))

/-- Sign with the key pair of this public key. -/
def signQuote (body : QuoteBody N) (publicKey secret : Str) : SignedQuote N where
  signature := digest F hmac secret body.members
  algorithm := units "hmac-sha256"
  signingKey := publicKey
  members := body.members ++
    signatureMembers (digest F hmac secret body.members) (units "hmac-sha256") publicKey
  unique := unique_signed ..
  hasSignature := List.mem_append_right _ (by simp [signatureMembers])
  hasAlgorithm := List.mem_append_right _ (by simp [signatureMembers])
  hasSigningKey := List.mem_append_right _ (by simp [signatureMembers])

def verifyQuote (quote : SignedQuote N) (secret : Str) (expectedKey : Option Str) : Bool :=
  if quote.algorithm ≠ units "hmac-sha256" then false
  else if expectedKey.any (quote.signingKey ≠ ·) then false
  else
    let expected := digest F hmac secret quote.body
    let providedBuffer := Utf8.encode quote.signature
    let expectedBuffer := Utf8.encode expected
    if providedBuffer.length ≠ expectedBuffer.length then false
    else providedBuffer == expectedBuffer

variable {F hmac} {secret publicKey : Str} {body : QuoteBody N} {quote : SignedQuote N}
  {expectedKey : Option Str}

/-! ### Verification -/

theorem verifyQuote_eq_true : verifyQuote F hmac quote secret expectedKey = true ↔
    quote.algorithm = units "hmac-sha256" ∧ (∀ key ∈ expectedKey, quote.signingKey = key) ∧
    Utf8.encode quote.signature = Utf8.encode (digest F hmac secret quote.body) := by
  rw [verifyQuote]
  by_cases halgorithm : quote.algorithm = units "hmac-sha256"
  · rw [if_neg (not_not.2 halgorithm), and_iff_right halgorithm]
    by_cases hkey : expectedKey.any (quote.signingKey ≠ ·) = true
    · rw [if_pos hkey]
      refine iff_of_false Bool.false_ne_true ?_
      rintro ⟨hall, -⟩
      obtain ⟨key, hmem, hne⟩ := (Option.any_eq_true _ _).1 hkey
      exact of_decide_eq_true hne (hall key hmem)
    · rw [if_neg hkey, and_iff_right]
      · by_cases hlength : (Utf8.encode quote.signature).length =
            (Utf8.encode (digest F hmac secret quote.body)).length
        · rw [if_neg (not_not.2 hlength), beq_iff_eq]
        · rw [if_pos hlength]
          exact iff_of_false Bool.false_ne_true fun h => hlength (congrArg List.length h)
      · intro key hmem
        by_contra hne
        exact hkey ((Option.any_eq_true _ _).2 ⟨key, hmem, decide_eq_true hne⟩)
  · rw [if_pos halgorithm]
    exact iff_of_false Bool.false_ne_true fun h => halgorithm h.1

theorem body_signQuote : (signQuote F hmac body publicKey secret).body = body.members := by
  rfl

/-- Deleting the three members that are the same in both leaves the bodies. -/
theorem same_body_iff {quote quote' : SignedQuote N}
    (hsignature : quote.signature = quote'.signature)
    (halgorithm : quote.algorithm = quote'.algorithm)
    (hsigningKey : quote.signingKey = quote'.signingKey) :
    Same F (.obj quote.body) (.obj quote'.body) ↔
      Same F (.obj quote.members) (.obj quote'.members) := by
  have hkept : ∀ {k k' : Str} {v : Json N} {ms : Members N}, (k, v) ∈ ms → k ≠ k' →
      (k, v) ∈ ms.delete k' := fun hmem hne => mem_delete.2 ⟨hmem, hne⟩
  rw [SignedQuote.body, SignedQuote.body,
    same_delete_iff (quote.unique.delete.delete) (quote'.unique.delete.delete)
      (hkept (hkept quote.hasSigningKey (by decide)) (by decide))
      (hkept (hkept quote'.hasSigningKey (by decide)) (by decide)) (same_str.2 hsigningKey),
    same_delete_iff quote.unique.delete quote'.unique.delete
      (hkept quote.hasAlgorithm (by decide)) (hkept quote'.hasAlgorithm (by decide))
      (same_str.2 halgorithm),
    same_delete_iff quote.unique quote'.unique quote.hasSignature quote'.hasSignature
      (same_str.2 hsignature)]

theorem unique_members (body : QuoteBody N) : body.members.Unique := by
  have h := unique_signed body [] [] []
  rw [Members.Unique, List.map_append] at h
  exact h.of_append_left

theorem wf_members (body : QuoteBody N) : Wf (.obj body.members) :=
  .obj (unique_members body) (by simp [QuoteBody.members, Wf.str, Wf.num])

theorem finite_members (h : F.finite body.spreadBps = true) : Finite F (.obj body.members) :=
  .obj (by simp [QuoteBody.members, Finite.str, Finite.num h])

theorem wf_delete {members : Members N} {k : Str} (h : Wf (.obj members)) :
    Wf (.obj (members.delete k)) := by
  cases h with | obj hunique hmembers =>
  exact .obj hunique.delete fun m hm => hmembers m (Members.mem_of_mem_delete hm)

theorem finite_delete {members : Members N} {k : Str} (h : Finite F (.obj members)) :
    Finite F (.obj (members.delete k)) := by
  cases h with | obj hmembers =>
  exact .obj fun m hm => hmembers m (Members.mem_of_mem_delete hm)

theorem wf_body (h : Wf (.obj quote.members)) : Wf (.obj quote.body) :=
  wf_delete (wf_delete (wf_delete h))

theorem finite_body (h : Finite F (.obj quote.members)) : Finite F (.obj quote.body) :=
  finite_delete (finite_delete (finite_delete h))

/-- Bodies have one digest exactly if they are the same up to the order of members. -/
theorem digest_eq_iff {members members' : Members N} (hF : Signless F)
    (hinj : Function.Injective (hmac secret)) (h : Wf (.obj members)) (h' : Wf (.obj members'))
    (hf : Finite F (.obj members)) (hf' : Finite F (.obj members')) :
    digest F hmac secret members = digest F hmac secret members' ↔
      Same F (.obj members) (.obj members') := by
  rw [← Kyc.encode_canonicalize_eq_iff hF h h' hf hf']
  constructor
  · intro heq
    exact hinj (Hex.encode_inj heq)
  · intro heq
    rw [digest, digest, heq]

/-- A quote with the signature, the algorithm and the key of a signed one is verified exactly if it
is the signed one, up to the order of members. -/
theorem verifyQuote_iff (hF : Signless F) (hinj : Function.Injective (hmac secret))
    (hbody : F.finite body.spreadBps = true) (hwf : Wf (.obj quote.members))
    (hfinite : Finite F (.obj quote.members))
    (hsignature : quote.signature = (signQuote F hmac body publicKey secret).signature)
    (halgorithm : quote.algorithm = (signQuote F hmac body publicKey secret).algorithm)
    (hsigningKey : quote.signingKey = (signQuote F hmac body publicKey secret).signingKey)
    (hexpected : ∀ key ∈ expectedKey, key = publicKey) :
    verifyQuote F hmac quote secret expectedKey = true ↔
      Same F (.obj quote.members) (.obj (signQuote F hmac body publicKey secret).members) := by
  have hkeys : ∀ key ∈ expectedKey, quote.signingKey = key := by
    intro key hmem
    rw [hexpected key hmem, hsigningKey]
    rfl
  have hencode : Utf8.encode quote.signature = Utf8.encode (digest F hmac secret quote.body) ↔
      digest F hmac secret quote.body = digest F hmac secret body.members := by
    rw [hsignature]
    show Utf8.encode (digest F hmac secret body.members) = _ ↔ _
    constructor
    · intro h
      have hdecode := congrArg Utf8.decode h
      rw [digest, digest, Utf8.decode_encode (Hex.wellFormed_encode _),
        Utf8.decode_encode (Hex.wellFormed_encode _)] at hdecode
      exact hdecode.symm
    · intro h
      rw [h]
  have hbodies := digest_eq_iff hF hinj (wf_body hwf) (wf_members body) (finite_body hfinite)
    (finite_members hbody)
  rw [← same_body_iff hsignature halgorithm hsigningKey, body_signQuote, ← hbodies, ← hencode]
  exact verifyQuote_eq_true.trans ((and_iff_right halgorithm).trans (and_iff_right hkeys))

/-- **One text for what is the same.**  Two JSON values are written alike exactly if they are the
same up to the order of members.  So a quote with the signature, the algorithm and the key of a
signed one is verified exactly if it is the signed one up to the order of members, and the results
of providers are hashed alike exactly if provider, reference, tier and payload are the same. -/
theorem canonical_text_iff (hF : Signless F) :
    (∀ a b : Json N, Wf a → Wf b → Finite F a → Finite F b →
      (canonicalize F a = canonicalize F b ↔ Same F a b)) ∧
    (∀ hmac : Str → List UInt8 → List UInt8, (∀ secret, Function.Injective (hmac secret)) →
      ∀ (body : QuoteBody N) (publicKey secret : Str) (quote : SignedQuote N)
      (expectedKey : Option Str),
        F.finite body.spreadBps = true → Wf (.obj quote.members) → Finite F (.obj quote.members) →
        quote.signature = (signQuote F hmac body publicKey secret).signature →
        quote.algorithm = (signQuote F hmac body publicKey secret).algorithm →
        quote.signingKey = (signQuote F hmac body publicKey secret).signingKey →
        (∀ key ∈ expectedKey, key = publicKey) →
        (verifyQuote F hmac quote secret expectedKey = true ↔
          Same F (.obj quote.members) (.obj (signQuote F hmac body publicKey secret).members))) ∧
    ∀ sha256 : List UInt8 → List UInt8, Function.Injective sha256 → ∀ r r' : Hashed N,
      Wf (.obj r.raw) → Wf (.obj r'.raw) → Finite F (.obj r.raw) → Finite F (.obj r'.raw) →
      (attestationHashOf F sha256 r = attestationHashOf F sha256 r' ↔
        r.providerId = r'.providerId ∧ r.providerRef = r'.providerRef ∧ r.tier = r'.tier ∧
        Same F (.obj r.raw) (.obj r'.raw)) := by
  refine ⟨?_, ?_, ?_⟩
  · intro a b ha hb hfa hfb
    exact Kyc.canonicalize_eq_iff hF ha hb hfa hfb
  · intro hmac hinj body publicKey secret quote expectedKey hbody hwf hfinite hsignature halgorithm
      hsigningKey hexpected
    exact verifyQuote_iff hF (hinj secret) hbody hwf hfinite hsignature halgorithm hsigningKey
      hexpected
  · intro sha256 hinj r r' h h' hf hf'
    exact Kyc.attestationHashOf_eq_iff hF hinj h h' hf hf'

/-! ### A quote, reordered and tampered with -/

namespace Sample

/-- A hash function that is known at the given texts, and keeps all others apart. -/
def known (digests : List (Str × List UInt8)) (message : List UInt8) : List UInt8 :=
  ((digests.find? fun d => Utf8.encode d.1 == message).map Prod.snd).getD
    (List.replicate 33 0 ++ message)

theorem known_injective {digests : List (Str × List UInt8)}
    (hlength : ∀ d ∈ digests, d.2.length = 32) (hnodup : (digests.map Prod.snd).Nodup) :
    Function.Injective (known digests) := by
  intro m m' h
  rw [known, known] at h
  cases hm : digests.find? fun d => Utf8.encode d.1 == m with
  | none =>
    cases hm' : digests.find? fun d => Utf8.encode d.1 == m' with
    | none =>
      rw [hm, hm'] at h
      exact List.append_cancel_left h
    | some d' =>
      rw [hm, hm'] at h
      have hlong := congrArg List.length h
      simp [hlength d' (List.mem_of_find?_eq_some hm')] at hlong
  | some d =>
    have hd : Utf8.encode d.1 = m :=
      eq_of_beq (List.find?_some (p := fun e : Str × List UInt8 => Utf8.encode e.1 == m) hm)
    cases hm' : digests.find? fun d => Utf8.encode d.1 == m' with
    | none =>
      rw [hm, hm'] at h
      have hlong := congrArg List.length h
      simp [hlength d (List.mem_of_find?_eq_some hm)] at hlong
    | some d' =>
      have hd' : Utf8.encode d'.1 = m' :=
        eq_of_beq (List.find?_some (p := fun e : Str × List UInt8 => Utf8.encode e.1 == m') hm')
      rw [hm, hm'] at h
      rw [← hd, ← hd', List.inj_on_of_nodup_map hnodup (List.mem_of_find?_eq_some hm)
        (List.mem_of_find?_eq_some hm') h]

def plainBody : QuoteBody Str where
  quoteId := units "q-1"
  corridorId := units "NGN_LAG"
  base := units "USD"
  quote := units "NGN"
  midRate := units "15000000000"
  spreadBps := units "75"
  clientRate := units "14887500000"
  amount := units "1000000000"
  fee := units "20000000"
  total := units "1488550000"
  oracleSource := units "static-config"
  validUntil := units "2030-01-01T00:00:00.000Z"

def tamperedBody : QuoteBody Str := { plainBody with amount := units "tampered" }

def testSecret : Str := units "test-quote-signing-secret"

def testKey : Str := units "GBRPYHIL2CI3FNQ4BXLFMNDLFJUNPU2HY3ZMFSHONUCEOASW7QC7OX2H"

/-- The hashes for `testSecret`. -/
def quoteDigests : List (Str × List UInt8) :=
  [(canonicalize literal (.obj plainBody.members),
    [0xc2, 0xa0, 0x72, 0x88, 0xef, 0x4e, 0x2a, 0xe9, 0x1b, 0x71, 0x3e, 0xde, 0x7c, 0xc9, 0x64, 0x02,
      0x19, 0x52, 0xfc, 0x9a, 0x06, 0xc5, 0xcd, 0x55, 0x44, 0xc6, 0x44, 0xa4, 0xf2, 0x8e,
      0x30, 0xe9]),
  (canonicalize literal (.obj tamperedBody.members),
    [0xe7, 0xe1, 0x56, 0x29, 0xb4, 0x81, 0x58, 0xa0, 0x72, 0x89, 0xb1, 0xfe, 0xc7, 0xfe, 0x29, 0xeb,
      0x45, 0x32, 0x9b, 0x91, 0x6b, 0x52, 0x68, 0xae, 0x19, 0x3f, 0xe2, 0x08, 0xfc, 0x36,
      0x72, 0x32])]

def testHmac (_ : Str) : List UInt8 → List UInt8 := known quoteDigests

theorem testHmac_injective (s : Str) : Function.Injective (testHmac s) :=
  known_injective (by simp [quoteDigests]) (by simp [quoteDigests])

def standard : Hashed Str where
  providerId := units "mock"
  providerRef := units "fixed"
  tier := .standard
  raw := [(units "decision", .str (units "approved"))]

def enhanced : Hashed Str := { standard with tier := .enhanced }

theorem wf_raw : Wf (.obj standard.raw) :=
  .obj (List.nodup_singleton _) (by simp [standard, Wf.str])

theorem finite_raw : Finite literal (.obj standard.raw) := .obj (by simp [standard, Finite.str])

def resultDigests : List (Str × List UInt8) :=
  [(canonicalize literal (.obj standard.members),
    [0x48, 0xb8, 0x39, 0xe8, 0x39, 0x9b, 0xe3, 0x7c, 0x26, 0xa5, 0x8e, 0x43, 0x4a, 0xc7, 0x60, 0x1e,
      0xd7, 0x28, 0xec, 0x46, 0x5e, 0x07, 0xa1, 0x06, 0x57, 0xb2, 0x57, 0xd9, 0x01, 0xfa,
      0x9e, 0x0d]),
  (canonicalize literal (.obj enhanced.members),
    [0x3a, 0xf5, 0xf7, 0xdb, 0x62, 0x29, 0xd1, 0x77, 0x65, 0x4f, 0x77, 0xa5, 0x85, 0xe4, 0x50, 0x43,
      0x35, 0x14, 0x74, 0x3c, 0xee, 0x30, 0xf7, 0x3f, 0x94, 0x4b, 0x5d, 0xf2, 0x92, 0x43,
      0x1b, 0x91])]

def testSha256 : List UInt8 → List UInt8 := known resultDigests

theorem testSha256_injective : Function.Injective testSha256 :=
  known_injective (by simp [resultDigests]) (by simp [resultDigests])

def signed : SignedQuote Str := signQuote literal testHmac plainBody testKey testSecret

/-- The quote with its members in reverse. -/
def reordered : SignedQuote Str where
  signature := signed.signature
  algorithm := signed.algorithm
  signingKey := signed.signingKey
  members := signed.members.reverse
  unique := by
    rw [Members.Unique, List.map_reverse, List.nodup_reverse]
    exact signed.unique
  hasSignature := List.mem_reverse.2 signed.hasSignature
  hasAlgorithm := List.mem_reverse.2 signed.hasAlgorithm
  hasSigningKey := List.mem_reverse.2 signed.hasSigningKey

/-- The quote for another amount, with the signature of the first. -/
def tampered : SignedQuote Str where
  signature := signed.signature
  algorithm := signed.algorithm
  signingKey := signed.signingKey
  members := tamperedBody.members ++
    signatureMembers signed.signature signed.algorithm signed.signingKey
  unique := unique_signed ..
  hasSignature := List.mem_append_right _ (by simp [signatureMembers])
  hasAlgorithm := List.mem_append_right _ (by simp [signatureMembers])
  hasSigningKey := List.mem_append_right _ (by simp [signatureMembers])

theorem wf_signed : Wf (.obj signed.members) := by
  refine .obj signed.unique ?_
  simp [signed, signQuote, QuoteBody.members, signatureMembers, Wf.str, Wf.num]

theorem finite_signed : Finite literal (.obj signed.members) := by
  refine .obj ?_
  simp [signed, signQuote, QuoteBody.members, signatureMembers, Finite.str,
    Finite.num (F := literal) (x := plainBody.spreadBps) rfl]

theorem wf_tampered : Wf (.obj tampered.members) := by
  refine .obj tampered.unique ?_
  simp [tampered, QuoteBody.members, signatureMembers, Wf.str, Wf.num]

theorem finite_tampered : Finite literal (.obj tampered.members) := by
  refine .obj ?_
  simp [tampered, QuoteBody.members, signatureMembers, Finite.str,
    Finite.num (F := literal) (x := tamperedBody.spreadBps) rfl]

theorem signature_reordered : reordered.signature = signed.signature ∧
    reordered.algorithm = signed.algorithm ∧ reordered.signingKey = signed.signingKey := by
  simp only [reordered, and_self]

theorem signature_tampered : tampered.signature = signed.signature ∧
    tampered.algorithm = signed.algorithm ∧ tampered.signingKey = signed.signingKey := by
  simp only [tampered, and_self]

theorem perm_reordered : reordered.members.Perm signed.members := by
  simp only [reordered]
  exact List.reverse_perm _

theorem wf_reordered : Wf (.obj reordered.members) := by
  refine .obj reordered.unique ?_
  intro m hm
  cases wf_signed with | obj _ hmembers =>
  exact hmembers m (perm_reordered.mem_iff.1 hm)

theorem finite_reordered : Finite literal (.obj reordered.members) := by
  refine .obj ?_
  intro m hm
  cases finite_signed with | obj hmembers =>
  exact hmembers m (perm_reordered.mem_iff.1 hm)

theorem not_same_tampered : ¬ Same literal (.obj tampered.members) (.obj signed.members) := by
  intro h
  have htampered : (units "amount", .str (units "tampered")) ∈ tampered.members := by
    simp [tampered, QuoteBody.members, tamperedBody]
  have hsigned : (units "amount", .str (units "1000000000")) ∈ signed.members := by
    simp [signed, signQuote, QuoteBody.members, plainBody]
  have hamount := (same_obj_iff.1 h).2 _ _ _ htampered hsigned
  exact absurd (same_str.1 hamount) (by decide)

end Sample

theorem canonical_text_iff_sample :
    verifyQuote literal Sample.testHmac Sample.reordered Sample.testSecret (some Sample.testKey) =
      true ∧
    verifyQuote literal Sample.testHmac Sample.tampered Sample.testSecret (some Sample.testKey) =
      false ∧
    attestationHashOf literal Sample.testSha256 Sample.standard ≠
      attestationHashOf literal Sample.testSha256 Sample.enhanced := by
  obtain ⟨-, hverify, hhash⟩ := canonical_text_iff signless_literal
  have hfinite : literal.finite Sample.plainBody.spreadBps = true := by decide
  have hkey : ∀ key ∈ some Sample.testKey, key = Sample.testKey := by simp
  have hreordered := hverify Sample.testHmac Sample.testHmac_injective Sample.plainBody
    Sample.testKey Sample.testSecret Sample.reordered (some Sample.testKey) hfinite
    Sample.wf_reordered Sample.finite_reordered Sample.signature_reordered.1
    Sample.signature_reordered.2.1 Sample.signature_reordered.2.2 hkey
  have htampered := hverify Sample.testHmac Sample.testHmac_injective Sample.plainBody
    Sample.testKey Sample.testSecret Sample.tampered (some Sample.testKey) hfinite
    Sample.wf_tampered Sample.finite_tampered Sample.signature_tampered.1
    Sample.signature_tampered.2.1 Sample.signature_tampered.2.2 hkey
  refine ⟨?_, ?_, ?_⟩
  · exact hreordered.2 (same_of_perm Sample.wf_signed Sample.perm_reordered)
  · rw [← Bool.not_eq_true]
    intro htrue
    exact Sample.not_same_tampered (htampered.1 htrue)
  · intro hequal
    have hraw :=
      (hhash Sample.testSha256 Sample.testSha256_injective Sample.standard Sample.enhanced
      Sample.wf_raw Sample.wf_raw Sample.finite_raw Sample.finite_raw).1 hequal
    exact absurd hraw.2.2.1 (by decide)

end Quoting

end RemitBridge
