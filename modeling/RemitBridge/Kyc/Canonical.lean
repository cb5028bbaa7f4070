import RemitBridge.Json.Order
import RemitBridge.Json.Utf8
import RemitBridge.Kyc.Records

/-!
# What is hashed

`canonicalize` writes a JSON value with all members in the order of their keys, and
`attestationHashOf` hashes what a provider answered.  The text is that of the sorted value
(`canonicalize_eq`), so it is the same exactly for values that are the same up to the order of
members (`canonicalize_eq_iff`).
-/

namespace RemitBridge

namespace Kyc

open Json

variable {N : Type} (F : NumberFormat N)

mutual

/-- Deterministic JSON serialisation for hashing.  A value of JSON has no undefined members. -/
def canonicalize : Json N → Str
  | .null => stringify F .null
  | .bool b => stringify F (.bool b)
  | .num x => stringify F (.num x)
  | .str s => stringify F (.str s)
  | .arr items => unit '[' :: List.intercalate [unit ','] (canonicalizeItems items) ++ [unit ']']
  | .obj members =>
    unit '{' :: List.intercalate [unit ','] ((sortByKey (canonicalizeMembers members)).map fun m =>
      stringify F (.str m.1) ++ unit ':' :: m.2) ++ [unit '}']

def canonicalizeItems : List (Json N) → List Str
  | [] => []
  | v :: items => canonicalize v :: canonicalizeItems items

/-- The entries of an object, with the texts of their values.  Sorting them by their keys comes to
the same before and after. -/
def canonicalizeMembers : List (Str × Json N) → List (Str × Str)
  | [] => []
  | (key, v) :: members => (key, canonicalize v) :: canonicalizeMembers members

end

/-- The part of a provider's result that is hashed. -/
structure Hashed (N : Type) where
  providerId : Str
  providerRef : Str
  tier : ProviderTier
  raw : Members N

/-- What is hashed, as the members of an object. -/
def Hashed.members (result : Hashed N) : Members N :=
  [(units "provider_id", .str result.providerId), (units "provider_ref", .str result.providerRef),
    (units "tier", .str (units result.tier.text)), (units "payload", .obj result.raw)]

/-- The value that goes on-chain. -/
def attestationHashOf (sha256 : List UInt8 → List UInt8) (result : Hashed N) : List UInt8 :=
  sha256 (Utf8.encode (canonicalize F (.obj result.members)))

variable {F} {a b : Json N}

/-! ### The text -/

theorem canonicalizeItems_eq (items : List (Json N)) :
    canonicalizeItems F items = items.map (canonicalize F) := by
  induction items with
  | nil => rw [canonicalizeItems, List.map_nil]
  | cons v items ih => rw [canonicalizeItems, ih, List.map_cons]

theorem canonicalizeMembers_eq (members : Members N) :
    canonicalizeMembers F members = members.map fun m => (m.1, canonicalize F m.2) := by
  induction members with
  | nil => rw [canonicalizeMembers, List.map_nil]
  | cons m members ih => rw [canonicalizeMembers, ih, List.map_cons]

/-- An object is written as the code does it: its entries are sorted, and then written. -/
theorem canonicalize_obj (members : Members N) : canonicalize F (.obj members) =
    unit '{' :: List.intercalate [unit ','] ((sortByKey members).map fun m =>
      stringify F (.str m.1) ++ unit ':' :: canonicalize F m.2) ++ [unit '}'] := by
  rw [canonicalize, canonicalizeMembers_eq, ← map_sortByKey, List.map_map]
  rfl

/-- The text is that of the value with its members sorted. -/
theorem canonicalize_eq (v : Json N) : canonicalize F v = stringify F (sorted v) := by
  induction v using induct with
  | null => rw [canonicalize, sorted]
  | bool b => rw [canonicalize, sorted]
  | num x => rw [canonicalize, sorted]
  | str s => rw [canonicalize, sorted]
  | arr items ih =>
    have hitems : items.map (canonicalize F) = (items.map sorted).map (stringify F) := by
      rw [List.map_map]
      exact List.map_congr_left ih
    rw [canonicalize, canonicalizeItems_eq, hitems, sorted_arr, stringify_arr]
  | obj members ih =>
    rw [canonicalize_obj, sorted_obj, stringify_obj, ← map_sortByKey, List.map_map]
    have hmembers : ∀ m ∈ sortByKey members,
        stringify F (.str m.1) ++ unit ':' :: canonicalize F m.2 =
        stringify F (.str m.1) ++ unit ':' :: stringify F (sorted m.2) := by
      intro m hm
      rw [ih m ((sortByKey_perm members).mem_iff.1 hm)]
    rw [List.map_congr_left hmembers]
    rfl

/-- Values are written alike exactly if they are the same up to the order of members. -/
theorem canonicalize_eq_iff (hF : Signless F) (ha : Wf a) (hb : Wf b) (hfa : Finite F a)
    (hfb : Finite F b) : canonicalize F a = canonicalize F b ↔ Same F a b := by
  rw [canonicalize_eq, canonicalize_eq]
  exact stringify_sorted_eq_iff hF ha hb hfa hfb

/-- The text is a sequence of characters, so its bytes determine it. -/
theorem encode_canonicalize_eq_iff (hF : Signless F) (ha : Wf a) (hb : Wf b) (hfa : Finite F a)
    (hfb : Finite F b) :
    Utf8.encode (canonicalize F a) = Utf8.encode (canonicalize F b) ↔ Same F a b := by
  rw [← canonicalize_eq_iff hF ha hb hfa hfb]
  constructor
  · intro h
    have hdecode := congrArg Utf8.decode h
    rwa [canonicalize_eq, canonicalize_eq,
      Utf8.decode_encode (wellFormed_stringify hF.toLawful _),
      Utf8.decode_encode (wellFormed_stringify hF.toLawful _), ← canonicalize_eq,
      ← canonicalize_eq] at hdecode
  · intro h
    rw [h]

/-! ### The hash -/

theorem text_inj {t t' : ProviderTier} : units t.text = units t'.text ↔ t = t' := by
  cases t <;> cases t' <;> decide

theorem Hashed.unique (result : Hashed N) : result.members.Unique := by
  show [units "provider_id", units "provider_ref", units "tier", units "payload"].Nodup
  decide

theorem Hashed.wf {result : Hashed N} (h : Wf (.obj result.raw)) : Wf (.obj result.members) := by
  refine .obj result.unique ?_
  simp only [Hashed.members, List.forall_mem_cons, List.not_mem_nil, false_imp_iff, implies_true,
    and_true]
  exact ⟨.str _, .str _, .str _, h⟩

theorem Hashed.finite {result : Hashed N} (h : Finite F (.obj result.raw)) :
    Finite F (.obj result.members) := by
  refine .obj ?_
  simp only [Hashed.members, List.forall_mem_cons, List.not_mem_nil, false_imp_iff, implies_true,
    and_true]
  exact ⟨.str _, .str _, .str _, h⟩

/-- Results are hashed alike exactly if what is hashed of them is the same. -/
theorem attestationHashOf_eq_iff {sha256 : List UInt8 → List UInt8} {r r' : Hashed N}
    (hF : Signless F) (hinj : Function.Injective sha256) (h : Wf (.obj r.raw))
    (h' : Wf (.obj r'.raw)) (hf : Finite F (.obj r.raw)) (hf' : Finite F (.obj r'.raw)) :
    attestationHashOf F sha256 r = attestationHashOf F sha256 r' ↔
      r.providerId = r'.providerId ∧ r.providerRef = r'.providerRef ∧ r.tier = r'.tier ∧
      Same F (.obj r.raw) (.obj r'.raw) := by
  rw [attestationHashOf, attestationHashOf, hinj.eq_iff,
    encode_canonicalize_eq_iff hF (Hashed.wf h) (Hashed.wf h') (Hashed.finite hf)
      (Hashed.finite hf'), same_obj_iff_zip (show r.members.map Prod.fst = r'.members.map Prod.fst
      from rfl) r.unique]
  simp [Hashed.members, text_inj]

end Kyc

end RemitBridge
