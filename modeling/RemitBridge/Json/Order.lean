import Mathlib.Data.List.Sort
import RemitBridge.Json.RoundTrip

/-!
# The order of members

Two values are the same up to the order of their members (`Same`) exactly if they are written alike
once all members are put in the order of their keys (`stringify_sorted_eq_iff`).
-/

namespace RemitBridge

namespace Json

variable {N : Type} {F : NumberFormat N} {a b : Json N}

/-- The literal of a number does not show the sign of a zero. -/
structure Signless (F : NumberFormat N) : Prop extends Lawful F where
  finite_unsigned : ∀ x, F.finite (F.unsigned x) = F.finite x
  toLiteral_unsigned : ∀ x, F.toLiteral (F.unsigned x) = F.toLiteral x

theorem signless_literal : Signless literal where
  toLawful := lawful_literal
  finite_unsigned _ := rfl
  toLiteral_unsigned _ := rfl

/-- Equal, up to the order of members and the signs of zeros. -/
inductive Same (F : NumberFormat N) : Json N → Json N → Prop
  | null : Same F .null .null
  | bool (b : Bool) : Same F (.bool b) (.bool b)
  | num {x y : N} : F.unsigned x = F.unsigned y → Same F (.num x) (.num y)
  | str (s : Str) : Same F (.str s) (.str s)
  | arr {items items' : List (Json N)} : items.length = items'.length →
      (∀ p ∈ items.zip items', Same F p.1 p.2) → Same F (.arr items) (.arr items')
  | obj {members members' : Members N} :
      (∀ key, key ∈ members.map Prod.fst ↔ key ∈ members'.map Prod.fst) →
      (∀ key v v', (key, v) ∈ members → (key, v') ∈ members' → Same F v v') →
      Same F (.obj members) (.obj members')

/-! ### Sorting by keys -/

section Sorting

variable {β γ : Type} {ms ms' : List (Str × β)}

/-- In the order of the keys. -/
def sortByKey (ms : List (Str × β)) : List (Str × β) := ms.insertionSort fun m m' => m.1 ≤ m'.1

theorem sortByKey_perm (ms : List (Str × β)) : (sortByKey ms).Perm ms := List.perm_insertionSort _ _

theorem sortByKey_pairwise (ms : List (Str × β)) :
    (sortByKey ms).Pairwise fun m m' => m.1 ≤ m'.1 := by
  have : Std.Total fun m m' : Str × β => m.1 ≤ m'.1 := ⟨fun m m' => List.le_total m.1 m'.1⟩
  have : IsTrans (Str × β) fun m m' => m.1 ≤ m'.1 := ⟨fun _ _ _ h h' => List.le_trans h h'⟩
  exact List.pairwise_insertionSort _ _

theorem map_sortByKey (f : β → γ) (ms : List (Str × β)) :
    (sortByKey ms).map (fun m => (m.1, f m.2)) = sortByKey (ms.map fun m => (m.1, f m.2)) :=
  List.map_insertionSort _ _ _ _ fun _ _ _ _ => Iff.rfl

theorem eq_of_mem_of_mem (h : (ms.map Prod.fst).Nodup) {key : Str} {v v' : β} (hv : (key, v) ∈ ms)
    (hv' : (key, v') ∈ ms) : v = v' :=
  congrArg Prod.snd (List.inj_on_of_nodup_map h hv hv' rfl)

/-- Where keys are different, what is sorted does not depend on the order it was in. -/
theorem sortByKey_eq_iff (h : (ms.map Prod.fst).Nodup) (h' : (ms'.map Prod.fst).Nodup) :
    sortByKey ms = sortByKey ms' ↔ ∀ m, m ∈ ms ↔ m ∈ ms' := by
  rw [← List.perm_ext_iff_of_nodup (h.of_map _) (h'.of_map _)]
  constructor
  · intro heq
    exact (sortByKey_perm ms).symm.trans (heq ▸ sortByKey_perm ms')
  · intro hperm
    refine List.Perm.eq_of_pairwise ?_ (sortByKey_pairwise ms) (sortByKey_pairwise ms')
      ((sortByKey_perm ms).trans (hperm.trans (sortByKey_perm ms').symm))
    intro m m' hm hm' hle hge
    have hkey : m.1 = m'.1 := List.le_antisymm hle hge
    have hmem : m ∈ ms := (sortByKey_perm ms).mem_iff.1 hm
    have hmem' : m' ∈ ms := hperm.mem_iff.2 ((sortByKey_perm ms').mem_iff.1 hm')
    exact List.inj_on_of_nodup_map h hmem hmem' hkey

end Sorting

mutual

/-- The value, with all members in the order of their keys. -/
def sorted : Json N → Json N
  | .null => .null
  | .bool b => .bool b
  | .num x => .num x
  | .str s => .str s
  | .arr items => .arr (sortedItems items)
  | .obj members => .obj (sortByKey (sortedMembers members))

def sortedItems : List (Json N) → List (Json N)
  | [] => []
  | v :: items => sorted v :: sortedItems items

def sortedMembers : List (Str × Json N) → List (Str × Json N)
  | [] => []
  | (key, v) :: members => (key, sorted v) :: sortedMembers members

end

/-! ### The normal form -/

@[simp] theorem sorted_arr (items : List (Json N)) :
    sorted (.arr items) = .arr (items.map sorted) := by
  have hitems : ∀ items : List (Json N), sortedItems items = items.map sorted := by
    intro items
    induction items with
    | nil => rw [sortedItems, List.map_nil]
    | cons v items ih => rw [sortedItems, ih, List.map_cons]
  rw [sorted, hitems]

@[simp] theorem sorted_obj (members : Members N) :
    sorted (.obj members) = .obj (sortByKey (members.map fun m => (m.1, sorted m.2))) := by
  have hmembers : ∀ ms : Members N, sortedMembers ms = ms.map fun m => (m.1, sorted m.2) := by
    intro ms
    induction ms with
    | nil => rw [sortedMembers, List.map_nil]
    | cons m ms ih => rw [sortedMembers, ih, List.map_cons]
  rw [sorted, hmembers]

/-- The value in the order of its keys, without the signs of its zeros. -/
def normal (F : NumberFormat N) (v : Json N) : Json N := unsigned F (sorted v)

@[simp] theorem normal_arr (items : List (Json N)) :
    normal F (.arr items) = .arr (items.map (normal F)) := by
  rw [normal, sorted_arr, unsigned_arr, List.map_map]
  rfl

@[simp] theorem normal_obj (members : Members N) :
    normal F (.obj members) = .obj (sortByKey (members.map fun m => (m.1, normal F m.2))) := by
  rw [normal, sorted_obj, unsigned_obj, map_sortByKey, List.map_map]
  rfl

theorem keys_map (f : Json N → Json N) (members : Members N) :
    (members.map fun m => (m.1, f m.2)).map Prod.fst = members.map Prod.fst := by
  rw [List.map_map]
  rfl

theorem Wf.sorted {v : Json N} (h : Wf v) : Wf (sorted v) := by
  induction v using induct with
  | null => rwa [Json.sorted]
  | bool b => rwa [Json.sorted]
  | num x => rwa [Json.sorted]
  | str s => rwa [Json.sorted]
  | arr items ih =>
    cases h with | arr hitems =>
    rw [sorted_arr]
    refine .arr fun v hv => ?_
    obtain ⟨u, hu, rfl⟩ := List.mem_map.1 hv
    exact ih u hu (hitems u hu)
  | obj members ih =>
    cases h with | obj hunique hmembers =>
    rw [sorted_obj]
    refine .obj ?_ fun m hm => ?_
    · rw [Members.Unique, ((sortByKey_perm _).map Prod.fst).nodup_iff, keys_map]
      exact hunique
    · obtain ⟨u, hu, rfl⟩ := List.mem_map.1 ((sortByKey_perm _).mem_iff.1 hm)
      exact ih u hu (hmembers u hu)

theorem Finite.sorted {v : Json N} (h : Finite F v) : Finite F (sorted v) := by
  induction v using induct with
  | null => rwa [Json.sorted]
  | bool b => rwa [Json.sorted]
  | num x => rwa [Json.sorted]
  | str s => rwa [Json.sorted]
  | arr items ih =>
    cases h with | arr hitems =>
    rw [sorted_arr]
    refine .arr fun v hv => ?_
    obtain ⟨u, hu, rfl⟩ := List.mem_map.1 hv
    exact ih u hu (hitems u hu)
  | obj members ih =>
    cases h with | obj hmembers =>
    rw [sorted_obj]
    refine .obj fun m hm => ?_
    obtain ⟨u, hu, rfl⟩ := List.mem_map.1 ((sortByKey_perm _).mem_iff.1 hm)
    exact ih u hu (hmembers u hu)

/-! ### Equality of normal forms -/

theorem normal_obj_eq_iff {ms ms' : Members N} (h : ms.Unique) (h' : ms'.Unique) :
    normal F (.obj ms) = normal F (.obj ms') ↔
      (∀ key, key ∈ ms.map Prod.fst ↔ key ∈ ms'.map Prod.fst) ∧
      ∀ key v v', (key, v) ∈ ms → (key, v') ∈ ms' → normal F v = normal F v' := by
  have hkeys : ((ms.map fun m => (m.1, normal F m.2)).map Prod.fst).Nodup := by rwa [keys_map]
  have hkeys' : ((ms'.map fun m => (m.1, normal F m.2)).map Prod.fst).Nodup := by rwa [keys_map]
  rw [normal_obj, normal_obj, Json.obj.injEq, sortByKey_eq_iff hkeys hkeys']
  constructor
  · intro hmem
    refine ⟨fun key => ?_, fun key v v' hv hv' => ?_⟩
    · rw [← keys_map (normal F) ms, ← keys_map (normal F) ms', List.mem_map, List.mem_map]
      exact exists_congr fun m => and_congr_left fun _ => hmem m
    · have hmapped := (hmem (key, normal F v)).1 (List.mem_map.2 ⟨(key, v), hv, rfl⟩)
      exact eq_of_mem_of_mem hkeys' hmapped (List.mem_map.2 ⟨(key, v'), hv', rfl⟩)
  · rintro ⟨hkey, hvalue⟩ m
    constructor
    · intro hm
      obtain ⟨⟨key, v⟩, hv, rfl⟩ := List.mem_map.1 hm
      obtain ⟨⟨_, v'⟩, hv', rfl⟩ := List.mem_map.1 ((hkey key).1 (List.mem_map.2 ⟨_, hv, rfl⟩))
      exact List.mem_map.2 ⟨_, hv', Prod.ext rfl (hvalue _ v v' hv hv').symm⟩
    · intro hm
      obtain ⟨⟨key, v'⟩, hv', rfl⟩ := List.mem_map.1 hm
      obtain ⟨⟨_, v⟩, hv, rfl⟩ := List.mem_map.1 ((hkey key).2 (List.mem_map.2 ⟨_, hv', rfl⟩))
      exact List.mem_map.2 ⟨_, hv, Prod.ext rfl (hvalue _ v v' hv hv')⟩

theorem map_eq_map_iff {f : Json N → Json N} {items items' : List (Json N)} :
    items.map f = items'.map f ↔
      items.length = items'.length ∧ ∀ p ∈ items.zip items', f p.1 = f p.2 := by
  induction items generalizing items' with
  | nil => cases items' <;> simp
  | cons v items ih =>
    cases items' with
    | nil => simp
    | cons v' items' =>
      simp only [List.map_cons, List.cons.injEq, List.length_cons, Nat.add_right_cancel_iff,
        List.zip_cons_cons, List.forall_mem_cons, ih]
      exact and_left_comm

theorem normal_eq_iff (ha : Wf a) (hb : Wf b) : normal F a = normal F b ↔ Same F a b := by
  constructor
  · intro h
    induction a using induct generalizing b with
    | null => cases b <;> simp [normal, sorted, unsigned] at h; exact .null
    | bool x => cases b <;> simp [normal, sorted, unsigned] at h; exact h ▸ .bool x
    | num x => cases b <;> simp [normal, sorted, unsigned] at h; exact .num h
    | str s => cases b <;> simp [normal, sorted, unsigned] at h; exact h ▸ .str s
    | arr items ih =>
      cases b with
      | arr items' =>
        cases ha with | arr hitems =>
        cases hb with | arr hitems' =>
        rw [normal_arr, normal_arr, Json.arr.injEq, map_eq_map_iff] at h
        refine .arr h.1 fun p hp => ?_
        obtain ⟨hmem, hmem'⟩ := List.of_mem_zip hp
        exact ih p.1 hmem (hitems p.1 hmem) (hitems' p.2 hmem') (h.2 p hp)
      | _ => simp [normal, unsigned, sorted] at h
    | obj members ih =>
      cases b with
      | obj members' =>
        cases ha with | obj hunique hmembers =>
        cases hb with | obj hunique' hmembers' =>
        -- Members are compared by their keys, whatever their order.
        rw [normal_obj_eq_iff hunique hunique'] at h
        refine .obj h.1 fun key v v' hv hv' => ?_
        exact ih _ hv (hmembers _ hv) (hmembers' _ hv') (h.2 key v v' hv hv')
      | _ => simp [normal, unsigned, sorted] at h
  · intro h
    induction h with
    | null => rfl
    | bool b => rfl
    | num hx => simp [normal, sorted, unsigned, hx]
    | str s => rfl
    | arr hlength _ ih =>
      cases ha with | arr hitems =>
      cases hb with | arr hitems' =>
      rw [normal_arr, normal_arr, Json.arr.injEq, map_eq_map_iff]
      refine ⟨hlength, fun p hp => ?_⟩
      obtain ⟨hmem, hmem'⟩ := List.of_mem_zip hp
      exact ih p hp (hitems p.1 hmem) (hitems' p.2 hmem')
    | obj hkey _ ih =>
      cases ha with | obj hunique hmembers =>
      cases hb with | obj hunique' hmembers' =>
      rw [normal_obj_eq_iff hunique hunique']
      refine ⟨hkey, fun key v v' hv hv' => ?_⟩
      exact ih key v v' hv hv' (hmembers _ hv) (hmembers' _ hv')

/-! ### Objects that are the same -/

@[simp] theorem same_str {s t : Str} : Same F (.str s) (.str t) ↔ s = t := by
  constructor
  · intro h
    cases h
    rfl
  · rintro rfl
    exact .str s

theorem Same.refl (v : Json N) (h : Wf v) : Same F v v := (normal_eq_iff h h).1 rfl

theorem same_obj_iff {ms ms' : Members N} : Same F (.obj ms) (.obj ms') ↔
    (∀ key, key ∈ ms.map Prod.fst ↔ key ∈ ms'.map Prod.fst) ∧
    ∀ key v v', (key, v) ∈ ms → (key, v') ∈ ms' → Same F v v' := by
  constructor
  · intro h
    cases h with | obj hkey hvalue =>
    exact ⟨hkey, hvalue⟩
  · rintro ⟨hkey, hvalue⟩
    exact .obj hkey hvalue

/-- Putting the members in another order does not matter. -/
theorem same_of_perm {ms ms' : Members N} (h : Wf (.obj ms)) (hperm : ms'.Perm ms) :
    Same F (.obj ms') (.obj ms) := by
  cases h with | obj hunique hmembers =>
  refine .obj (fun key => (hperm.map Prod.fst).mem_iff) fun key v v' hv hv' => ?_
  rw [eq_of_mem_of_mem hunique (hperm.mem_iff.1 hv) hv']
  exact Same.refl v' (hmembers _ hv')

/-- Objects with the same keys in the same order are compared member by member. -/
theorem same_obj_iff_zip {ms ms' : Members N} (hkeys : ms.map Prod.fst = ms'.map Prod.fst)
    (hunique : ms.Unique) :
    Same F (.obj ms) (.obj ms') ↔ ∀ p ∈ ms.zip ms', Same F p.1.2 p.2.2 := by
  have hlength : ms.length = ms'.length := by simpa using congrArg List.length hkeys
  have hkey : ∀ i (h : i < ms.length), (ms[i]).1 = (ms'[i]).1 := by
    intro i h
    have hi := List.getElem_of_eq hkeys (i := i) (by simpa using h)
    simpa using hi
  rw [same_obj_iff]
  constructor
  · rintro ⟨-, hvalue⟩ p hp
    obtain ⟨i, hi, rfl⟩ := List.mem_iff_getElem.1 hp
    have hi' : i < ms.length := by simp at hi; omega
    rw [List.getElem_zip]
    refine hvalue (ms[i]).1 _ _ (List.getElem_mem hi') ?_
    rw [hkey i hi']
    exact List.getElem_mem _
  · intro hzip
    refine ⟨fun key => by rw [hkeys], fun key v v' hv hv' => ?_⟩
    obtain ⟨i, hi, hget⟩ := List.mem_iff_getElem.1 hv
    -- The member with this key is at one place in both.
    have hother : ms'[i] = (key, v') := by
      refine List.inj_on_of_nodup_map (f := Prod.fst) ?_ (List.getElem_mem _) hv' ?_
      · rw [← hkeys]
        exact hunique
      · rw [← hkey i hi, hget]
    have hpair := hzip (ms[i], ms'[i]) (List.mem_iff_getElem.2
      ⟨i, by rw [List.length_zip]; omega, List.getElem_zip⟩)
    rwa [hget, hother] at hpair

theorem mem_keys_delete {ms : Members N} {k key : Str} :
    key ∈ (ms.delete k).map Prod.fst ↔ key ≠ k ∧ key ∈ ms.map Prod.fst := by
  simp only [Members.delete, List.mem_map, List.mem_filter, decide_eq_true_eq]
  constructor
  · rintro ⟨m, ⟨hm, hne⟩, rfl⟩
    exact ⟨hne, m, hm, rfl⟩
  · rintro ⟨hne, m, hm, rfl⟩
    exact ⟨m, ⟨hm, hne⟩, rfl⟩

theorem mem_delete {ms : Members N} {k : Str} {m : Str × Json N} :
    m ∈ ms.delete k ↔ m ∈ ms ∧ m.1 ≠ k := by
  simp only [Members.delete, List.mem_filter, decide_eq_true_eq]

/-- A member that is the same in both objects does not decide whether they are. -/
theorem same_delete_iff {ms ms' : Members N} {k : Str} {v v' : Json N} (h : ms.Unique)
    (h' : ms'.Unique) (hmem : (k, v) ∈ ms) (hmem' : (k, v') ∈ ms') (hsame : Same F v v') :
    Same F (.obj (ms.delete k)) (.obj (ms'.delete k)) ↔ Same F (.obj ms) (.obj ms') := by
  simp only [same_obj_iff, mem_keys_delete, mem_delete]
  constructor
  · rintro ⟨hkey, hvalue⟩
    refine ⟨fun key => ?_, fun key w w' hw hw' => ?_⟩
    · by_cases hk : key = k
      · subst hk
        exact iff_of_true (List.mem_map.2 ⟨_, hmem, rfl⟩) (List.mem_map.2 ⟨_, hmem', rfl⟩)
      · have hiff := hkey key
        rwa [and_iff_right hk, and_iff_right hk] at hiff
    · by_cases hk : key = k
      · subst hk
        rwa [eq_of_mem_of_mem h hw hmem, eq_of_mem_of_mem h' hw' hmem']
      · exact hvalue key w w' ⟨hw, hk⟩ ⟨hw', hk⟩
  · rintro ⟨hkey, hvalue⟩
    exact ⟨fun key => and_congr_right fun _ => hkey key,
      fun key w w' hw hw' => hvalue key w w' hw.1 hw'.1⟩

/-! ### Texts -/

theorem itemTokens_map {f : Json N → Json N} {items : List (Json N)}
    (h : ∀ v ∈ items, tokens F (f v) = tokens F v) :
    itemTokens F (items.map f) = itemTokens F items := by
  induction items with
  | nil => rfl
  | cons v items ih =>
    rw [List.forall_mem_cons] at h
    rw [List.map_cons, itemTokens, itemTokens, h.1, ih h.2]

theorem memberTokens_map {f : Json N → Json N} {members : Members N}
    (h : ∀ m ∈ members, tokens F (f m.2) = tokens F m.2) :
    memberTokens F (members.map fun m => (m.1, f m.2)) = memberTokens F members := by
  induction members with
  | nil => rfl
  | cons m members ih =>
    rw [List.forall_mem_cons] at h
    rw [List.map_cons, memberTokens, memberTokens, h.1, ih h.2]

theorem tokens_unsigned (hF : Signless F) (v : Json N) : tokens F (unsigned F v) = tokens F v := by
  induction v using induct with
  | null => rfl
  | bool b => rfl
  | num x => rw [unsigned, tokens, tokens, hF.finite_unsigned, hF.toLiteral_unsigned]
  | str s => rfl
  | arr items ih =>
    rw [unsigned_arr]
    cases items with
    | nil => rfl
    | cons v items =>
      rw [List.forall_mem_cons] at ih
      rw [List.map_cons, tokens, tokens, ih.1, itemTokens_map ih.2]
  | obj members ih =>
    rw [unsigned_obj]
    cases members with
    | nil => rfl
    | cons m members =>
      rw [List.forall_mem_cons] at ih
      rw [List.map_cons, tokens, tokens, ih.1, memberTokens_map ih.2]

theorem intercalate_cons (c : UInt16) (t : Str) (ts : List Str) :
    List.intercalate [c] (t :: ts) = t ++ ts.flatMap (c :: ·) := by
  induction ts generalizing t with
  | nil => simp [List.intercalate]
  | cons u ts ih =>
    rw [List.intercalate_cons_of_ne_nil (List.cons_ne_nil _ _), ih, List.flatMap_cons]
    simp

/-- The text of an array is that of its items, with commas between them. -/
theorem stringify_arr (items : List (Json N)) : stringify F (.arr items) =
    unit '[' :: List.intercalate [unit ','] (items.map (stringify F)) ++ [unit ']'] := by
  have hitems : ∀ items : List (Json N), (itemTokens F items).flatMap Token.render =
      (items.map (stringify F)).flatMap (unit ',' :: ·) := by
    intro items
    induction items with
    | nil => rfl
    | cons v items ih =>
      rw [itemTokens, List.map_cons, List.flatMap_cons, List.flatMap_append, ih, List.flatMap_cons]
      rfl
  cases items with
  | nil => rfl
  | cons v items =>
    rw [stringify, tokens, List.map_cons, intercalate_cons, List.flatMap_append,
      List.flatMap_append, hitems, List.flatMap_cons]
    simp [stringify, Token.render]

/-- The text of an object is that of its members, with commas between them. -/
theorem stringify_obj (members : Members N) : stringify F (.obj members) =
    unit '{' :: List.intercalate [unit ','] (members.map fun m =>
      stringify F (.str m.1) ++ unit ':' :: stringify F m.2) ++ [unit '}'] := by
  have hmembers : ∀ ms : Members N, (memberTokens F ms).flatMap Token.render =
      (ms.map fun m => stringify F (.str m.1) ++ unit ':' :: stringify F m.2).flatMap
        (unit ',' :: ·) := by
    intro ms
    induction ms with
    | nil => rfl
    | cons m ms ih =>
      rw [memberTokens, List.map_cons, List.flatMap_cons, List.flatMap_append, ih,
        List.flatMap_cons]
      simp [stringify, tokens, Token.render]
  cases members with
  | nil => rfl
  | cons m members =>
    rw [stringify, tokens, List.map_cons, intercalate_cons, List.flatMap_append,
      List.flatMap_append, hmembers, List.flatMap_cons]
    simp [stringify, tokens, Token.render]

/-- **One text for all orders.**  Values are written alike, once their members are sorted, exactly
if they are the same up to the order of members. -/
theorem stringify_sorted_eq_iff (hF : Signless F) (ha : Wf a) (hb : Wf b) (hfa : Finite F a)
    (hfb : Finite F b) : stringify F (sorted a) = stringify F (sorted b) ↔ Same F a b := by
  rw [← normal_eq_iff ha hb]
  constructor
  · intro h
    have hparse := congrArg (parse F) h
    rw [parse_stringify hF.toLawful hfa.sorted ha.sorted,
      parse_stringify hF.toLawful hfb.sorted hb.sorted] at hparse
    exact Option.some.inj hparse
  · intro h
    rw [stringify, stringify, ← tokens_unsigned hF (sorted a), ← tokens_unsigned hF (sorted b)]
    exact congrArg (fun v => (tokens F v).flatMap Token.render) h

end Json

end RemitBridge
