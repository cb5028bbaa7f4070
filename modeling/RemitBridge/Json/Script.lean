import Mathlib.Data.List.DropRight
import RemitBridge.Data.Decimal

/-!
# What a script serialises

The values that a script hands to `JSON.stringify` are those of JSON and, in the place of numbers,
some more (`Leaf`).  Dates and decimals become strings; a big integer makes the call throw.  So a
value is serialised exactly if no big integer is reachable in it (`isSome_toJson_obj`,
`isSome_toJson_arr`), and the members of an object are serialised one by one (`lookup_toJson`).
-/

namespace RemitBridge

namespace Script

open Json Decimal

/-- What a script has in the place of numbers: integers, big integers, dates in milliseconds,
decimals that are integers, and what was parsed from JSON. -/
inductive Leaf where
  | number (n : ℤ)
  | bigint (n : ℤ)
  | date (ms : ℤ)
  | decimal (n : ℤ)
  | parsed (v : Json Str)

abbrev Value := Json Leaf

/-- From this exponent on a decimal is written in exponent notation. -/
def toExpPos : ℕ := 21

/-- `toString` of a decimal that is an integer. -/
def decimalToString (n : ℤ) : Str :=
  let digits := render n.natAbs
  let exponent := digits.length - 1
  let significant := digits.rdropWhile (· == unit '0')
  let text :=
    if toExpPos ≤ exponent then
      significant.take 1 ++
        (if significant.length > 1 then unit '.' :: significant.drop 1 else []) ++
        units "e+" ++ render exponent
    else digits
  if n < 0 then unit '-' :: text else text

section

variable (toISOString : ℤ → Str)

/-- What a leaf is in JSON, unless it cannot be serialised. -/
def Leaf.toJson : Leaf → Option (Json Str)
  | number n => some (.num (renderInt n))
  | bigint _ => none
  | date ms => some (.str (toISOString ms))
  | decimal n => some (.str (decimalToString n))
  | parsed v => some v

mutual

/-- What a value is in JSON, unless it cannot be serialised. -/
def toJson : Value → Option (Json Str)
  | .null => some .null
  | .bool b => some (.bool b)
  | .num leaf => leaf.toJson toISOString
  | .str s => some (.str s)
  | .arr items => (itemsToJson items).map .arr
  | .obj members => (membersToJson members).map .obj

def itemsToJson : List Value → Option (List (Json Str))
  | [] => some []
  | v :: items => do
    let j ← toJson v
    let js ← itemsToJson items
    pure (j :: js)

def membersToJson : List (Str × Value) → Option (List (Str × Json Str))
  | [] => some []
  | (key, v) :: members => do
    let j ← toJson v
    let js ← membersToJson members
    pure ((key, j) :: js)

end

/-- `JSON.stringify`, up to the text: what is written is the text of the value. -/
def stringify (v : Value) : Except Str (Json Str) :=
  match toJson toISOString v with
  | none => .error (units "Do not know how to serialize a BigInt")
  | some j => .ok j

end

variable {toISOString : ℤ → Str} {v : Value} {items : List Value} {members : Members Leaf}

theorem stringify_eq_ok {j : Json Str} :
    stringify toISOString v = .ok j ↔ toJson toISOString v = some j := by
  rw [stringify]
  cases toJson toISOString v <;> simp

/-! ### What is serialised -/

theorem itemsToJson_eq_some {js : List (Json Str)} : itemsToJson toISOString items = some js ↔
    List.Forall₂ (fun v j => toJson toISOString v = some j) items js := by
  induction items generalizing js with
  | nil => simp [itemsToJson, eq_comm]
  | cons v items ih =>
    rw [itemsToJson]
    simp only [Option.bind_eq_bind, Option.bind_eq_some_iff, ih, Option.pure_def,
      Option.some.injEq, List.forall₂_cons_left_iff]
    constructor
    · rintro ⟨j, hj, js', hjs, rfl⟩
      exact ⟨j, js', hj, hjs, rfl⟩
    · rintro ⟨j, js', hj, hjs, rfl⟩
      exact ⟨j, hj, js', hjs, rfl⟩

theorem membersToJson_eq_some {js : List (Str × Json Str)} :
    membersToJson toISOString members = some js ↔
    List.Forall₂ (fun m n => m.1 = n.1 ∧ toJson toISOString m.2 = some n.2) members js := by
  induction members generalizing js with
  | nil => simp [membersToJson, eq_comm]
  | cons m members ih =>
    rw [membersToJson]
    simp only [Option.bind_eq_bind, Option.bind_eq_some_iff, ih, Option.pure_def,
      Option.some.injEq, List.forall₂_cons_left_iff]
    constructor
    · rintro ⟨j, hj, js', hjs, rfl⟩
      exact ⟨(m.1, j), js', ⟨rfl, hj⟩, hjs, rfl⟩
    · rintro ⟨⟨k, j⟩, js', ⟨rfl, hj⟩, hjs, rfl⟩
      exact ⟨j, hj, js', hjs, rfl⟩

theorem toJson_obj : toJson toISOString (.obj members) =
    (membersToJson toISOString members).map .obj := by rw [toJson]

theorem toJson_arr :
    toJson toISOString (.arr items) = (itemsToJson toISOString items).map .arr := by
  rw [toJson]

/-- An array is serialised if its items are. -/
theorem isSome_toJson_arr : (toJson toISOString (.arr items)).isSome = true ↔
    ∀ v ∈ items, (toJson toISOString v).isSome = true := by
  rw [toJson_arr, Option.isSome_map]
  induction items with
  | nil => simp [itemsToJson]
  | cons v items ih =>
    rw [List.forall_mem_cons, ← ih, itemsToJson]
    cases toJson toISOString v <;> cases itemsToJson toISOString items <;> simp

/-- An object is serialised if its members are. -/
theorem isSome_toJson_obj : (toJson toISOString (.obj members)).isSome = true ↔
    ∀ m ∈ members, (toJson toISOString m.2).isSome = true := by
  rw [toJson_obj, Option.isSome_map]
  induction members with
  | nil => simp [membersToJson]
  | cons m members ih =>
    rw [List.forall_mem_cons, ← ih, membersToJson]
    cases toJson toISOString m.2 <;> cases membersToJson toISOString members <;> simp

/-- The member of a serialised object is the serialised member. -/
theorem lookup_toJson {js : List (Str × Json Str)} (h : membersToJson toISOString members = some js)
    (key : Str) :
    Members.lookup js key = (members.lookup key).bind (toJson toISOString) := by
  rw [membersToJson_eq_some] at h
  induction h with
  | nil => rfl
  | cons hm _ ih =>
    rw [Members.lookup_cons, Members.lookup_cons, ih, hm.1]
    split_ifs
    · rw [Option.bind_some, hm.2]
    · rfl

/-! ### Decimals -/

/-- Below the limit the text of a decimal is its digits. -/
theorem decimalToString_of_lt {n : ℕ} (h : n < 10 ^ toExpPos) : decimalToString n = render n := by
  have hlength : (render n).length ≤ toExpPos := (length_render_le_iff (by decide)).2 h
  have hpos : 0 < toExpPos := by decide
  rw [decimalToString]
  simp only [Int.natAbs_natCast]
  rw [if_neg (Int.natCast_nonneg n).not_gt, if_neg (by omega)]

/-- From the limit on it has an exponent. -/
theorem mem_decimalToString {n : ℕ} (h : 10 ^ toExpPos ≤ n) : unit 'e' ∈ decimalToString n := by
  have hlength : toExpPos < (render n).length := by
    rw [← not_le, length_render_le_iff (by decide), not_lt]
    exact h
  rw [decimalToString]
  simp only [Int.natAbs_natCast]
  rw [if_neg (Int.natCast_nonneg n).not_gt, if_pos (by omega)]
  exact List.mem_append_left _ (List.mem_append_right _ (by decide))

end Script

end RemitBridge
