import RemitBridge.Console.Proxy
import RemitBridge.Json.Utf8

/-!
# Who is named as the actor

The console replaces what a browser has filled into the audit fields of a body by the email of the
operator, and forwards a body that it cannot read as a JSON object as it is.  The backend may read
it: both drop a byte order mark, so a body that begins with two of them is not JSON to the console
and is JSON to the backend (`post_attributes_iff`).
-/

namespace RemitBridge

namespace Console

open Json Utf8

variable {N : Type} {F : NumberFormat N} {members original : Members N} {fields : List String}
  {key email s : Str} {policy : MutationPolicy} {segments : List Text} {query : Option Text}
  {caller : Session} {session : Option Session} {bytes : List UInt8} {sent : Forwarded}

/-- The audit fields name the operator, where the policy wants it, and nobody else. -/
def Named (policy : MutationPolicy) (email : Str) (members : Members N) : Prop :=
  ∀ field ∈ auditFields,
    members.lookup (units field) = if field ∈ policy.auditFields then some (.str email) else none

/-- All members but the audit fields have the same values, but for the signs of zeros. -/
def SameOthers (F : NumberFormat N) (members original : Members N) : Prop :=
  ∀ key ∉ auditFields.map units,
    (members.lookup key).map (unsigned F) = (original.lookup key).map (unsigned F)

/-! ### The fields of the body -/

/-- A key is looked for in a list, one after the other. -/
theorem ite_mem_cons {α : Type} {a b : α} {k : Str} {ks : List Str} :
    (if key ∈ ks then a else if key = k then a else b) = if key ∈ k :: ks then a else b := by
  by_cases hmem : key ∈ ks
  · rw [if_pos hmem, if_pos (List.mem_cons_of_mem k hmem)]
  · by_cases hkey : key = k
    · rw [if_neg hmem, if_pos hkey, if_pos (List.mem_cons.2 (.inl hkey))]
    · rw [if_neg hmem, if_neg hkey, if_neg fun h => (List.mem_cons.1 h).elim hkey hmem]

theorem lookup_foldl_delete (fields : List String) (members : Members N) (key : Str) :
    (fields.foldl (fun body field => Members.delete body (units field)) members).lookup key =
      if key ∈ fields.map units then none else members.lookup key := by
  induction fields generalizing members with
  | nil => rfl
  | cons field fields ih =>
    rw [List.foldl_cons, ih, Members.lookup_delete, List.map_cons]
    exact ite_mem_cons

theorem lookup_foldl_set (fields : List String) (members : Members N) (key : Str) :
    (fields.foldl (fun body field => Members.set body (units field) (.str email))
      members).lookup key =
      if key ∈ fields.map units then some (.str email) else members.lookup key := by
  induction fields generalizing members with
  | nil => rfl
  | cons field fields ih =>
    rw [List.foldl_cons, ih, Members.lookup_set, List.map_cons]
    exact ite_mem_cons

/-- The members that the console writes. -/
def attributed (policy : MutationPolicy) (email : Str) (members : Members N) : Members N :=
  policy.auditFields.foldl (fun body field => Members.set body (units field) (.str email))
    (auditFields.foldl (fun body field => Members.delete body (units field)) members)

theorem units_inj {field field' : String} (h : field ∈ auditFields) (h' : field' ∈ auditFields)
    (heq : units field = units field') : field = field' := by
  have hall : ∀ f ∈ auditFields, ∀ g ∈ auditFields, units f = units g → f = g := by decide
  exact hall field h field' h' heq

theorem named_attributed (h : policy.auditFields.Sublist auditFields) :
    Named policy email (attributed policy email original) := by
  intro field hfield
  rw [attributed, lookup_foldl_set, lookup_foldl_delete]
  by_cases hmem : field ∈ policy.auditFields
  · rw [if_pos (List.mem_map_of_mem hmem), if_pos hmem]
  · have hunits : units field ∉ policy.auditFields.map units := by
      intro hin
      obtain ⟨field', hfield', heq⟩ := List.mem_map.1 hin
      exact hmem (units_inj (h.mem hfield') hfield heq ▸ hfield')
    rw [if_neg hunits, if_neg hmem, if_pos (List.mem_map_of_mem hfield)]

theorem lookup_attributed (h : policy.auditFields.Sublist auditFields)
    (hkey : key ∉ auditFields.map units) :
    (attributed policy email original).lookup key = original.lookup key := by
  have hpolicy : key ∉ policy.auditFields.map units :=
    fun hin => hkey ((h.map units).mem hin)
  rw [attributed, lookup_foldl_set, lookup_foldl_delete, if_neg hpolicy, if_neg hkey]

/-- What the console writes can be written and read again. -/
theorem good_attributed (hwf : Wf (.obj original)) (hfinite : Finite F (.obj original)) :
    Wf (.obj (attributed policy email original)) ∧
      Finite F (.obj (attributed policy email original)) := by
  have hset : ∀ (field : String) (ms : Members N), Wf (.obj ms) ∧ Finite F (.obj ms) →
      Wf (.obj (ms.set (units field) (.str email))) ∧
        Finite F (.obj (ms.set (units field) (.str email))) := by
    rintro field ms ⟨hwf, hfinite⟩
    cases hwf with
    | obj hunique hms =>
      cases hfinite with
      | obj hnumbers =>
        have hnew := Reader.wf_set (k := units field) hunique hms (.str email)
        refine ⟨.obj hnew.1 hnew.2, .obj fun m hm => ?_⟩
        obtain rfl | hm := Members.mem_of_mem_set hm
        · exact .str email
        · exact hnumbers m hm
  have hdelete : ∀ (field : String) (ms : Members N), Wf (.obj ms) ∧ Finite F (.obj ms) →
      Wf (.obj (ms.delete (units field))) ∧ Finite F (.obj (ms.delete (units field))) := by
    rintro field ms ⟨hwf, hfinite⟩
    cases hwf with
    | obj hunique hms =>
      cases hfinite with
      | obj hnumbers =>
        exact ⟨.obj hunique.delete fun m hm => hms m (Members.mem_of_mem_delete hm),
          .obj fun m hm => hnumbers m (Members.mem_of_mem_delete hm)⟩
  refine List.foldlRecOn policy.auditFields _
    (motive := fun ms => Wf (.obj ms) ∧ Finite F (.obj ms)) ?_ fun ms h field _ => hset field ms h
  exact List.foldlRecOn auditFields _ (motive := fun ms => Wf (.obj ms) ∧ Finite F (.obj ms))
    ⟨hwf, hfinite⟩ fun ms h field _ => hdelete field ms h

/-! ### What the backend reads -/

/-- What the console has written, the backend reads. -/
theorem parse_attributed (hF : Lawful F) (hparse : Json.parse F s = some (.obj original))
    (hfinite : Finite F (.obj original)) :
    Json.parse F (text (encode (stringify F (.obj (attributed policy email original))))) =
      some (unsigned F (.obj (attributed policy email original))) := by
  have hgood : Wf (.obj (attributed policy email original)) ∧
      Finite F (.obj (attributed policy email original)) :=
    good_attributed (wf_of_parse hparse) hfinite
  exact parse_text_encode hF hgood.1 hgood.2

/-! ### What is forwarded -/

theorem withOperatorAttribution_obj (haudit : policy.auditFields ≠ [])
    (hparse : Json.parse F s = some (.obj original)) :
    withOperatorAttribution F s policy email =
      stringify F (.obj (attributed policy email original)) := by
  have hempty : policy.auditFields.isEmpty ≠ true := fun h => haudit (List.isEmpty_iff.1 h)
  rw [withOperatorAttribution, if_neg hempty, hparse]
  rfl

theorem withOperatorAttribution_of_not_obj (h : ∀ original, Json.parse F s ≠ some (.obj original)) :
    withOperatorAttribution F s policy email = s := by
  rw [withOperatorAttribution]
  split_ifs with hempty
  · rfl
  · cases hparse : Json.parse F s with
    | none => rfl
    | some v =>
      cases v with
      | obj original => exact absurd hparse (h original)
      | _ => rfl

/-- The console and the backend agree on the body, or the backend reads behind a byte order mark
what the console has not read. -/
theorem withOperatorAttribution_iff (hF : Lawful F) (hwell : wellFormed s = true)
    (hsublist : policy.auditFields.Sublist auditFields) (haudit : policy.auditFields ≠ [])
    (hfinite : ∀ original, Json.parse F s = some (.obj original) → Finite F (.obj original)) :
    (∀ members, Json.parse F (text (encode (withOperatorAttribution F s policy email))) =
        some (.obj members) →
      Named policy email members ∧ ∃ original, Json.parse F (dropBom s) = some (.obj original) ∧
        SameOthers F members original) ↔
      ∀ t members, s = bom :: t → Json.parse F t = some (.obj members) →
      Named policy email members := by
  by_cases hobj : ∃ original, Json.parse F s = some (.obj original)
  · obtain ⟨original, hparse⟩ := hobj
    -- An object has been parsed, so the text begins with no mark, and the backend reads all of it.
    have hmark : ∀ t, s ≠ bom :: t := by
      rintro t rfl
      rw [Json.parse_bom] at hparse
      cases hparse
    rw [withOperatorAttribution_obj haudit hparse,
      parse_attributed hF hparse (hfinite original hparse), dropBom_of_ne hmark]
    refine iff_of_true (fun members hmembers => ?_) fun t _ ht => absurd ht (hmark t)
    rw [unsigned_obj] at hmembers
    cases hmembers
    refine ⟨fun field hfield => ?_, original, hparse, fun key hkey => ?_⟩
    · rw [lookup_map_unsigned, named_attributed hsublist field hfield]
      split_ifs
      · rw [Option.map_some, unsigned]
      · rfl
    · rw [lookup_map_unsigned, lookup_attributed hsublist hkey, Option.map_map]
      exact congrArg (fun f => (Members.lookup original key).map f)
        (funext fun v => unsigned_unsigned hF v)
  · have hnot : ∀ original, Json.parse F s ≠ some (.obj original) :=
      fun original h => hobj ⟨original, h⟩
    rw [withOperatorAttribution_of_not_obj hnot, text_encode hwell]
    constructor
    · rintro h t members rfl hparse
      rw [dropBom_bom] at h
      exact (h members hparse).1
    · intro h members hparse
      -- The text is forwarded as it is, and the backend drops the mark.
      by_cases hmark : ∃ t, s = bom :: t
      · obtain ⟨t, rfl⟩ := hmark
        rw [dropBom_bom] at hparse ⊢
        exact ⟨h t members rfl hparse, members, hparse, fun key _ => rfl⟩
      · rw [dropBom_of_ne fun t ht => hmark ⟨t, ht⟩] at hparse
        exact absurd hparse (hnot members)

/-- **Nobody else is named as the actor** in a body that the console forwards, if and only if it
does not begin with a second byte order mark behind which an object names somebody else. -/
theorem post_attributes_iff (hF : Lawful F) (hpolicy : policyForMutation segments = some policy)
    (haudit : policy.auditFields ≠ [])
    (hsent : post F (some caller) session segments query (text bytes) = .ok sent)
    (hfinite : ∀ original, Json.parse F (text bytes) = some (.obj original) →
      Finite F (.obj original)) :
    (∀ members, Json.parse F (text (encode sent.body)) = some (.obj members) →
      Named policy caller.sub members ∧
        ∃ original, Json.parse F (dropBom (text bytes)) = some (.obj original) ∧
          SameOthers F members original) ↔
      ∀ t members, text bytes = bom :: t → Json.parse F t = some (.obj members) →
        Named policy caller.sub members := by
  have hbody : sent.body = withOperatorAttribution F (text bytes) policy caller.sub := by
    obtain ⟨operator, found, roles, hcaller, hfound, -, -, rfl⟩ := post_cases hsent
    cases hcaller
    cases hpolicy.symm.trans hfound
    rfl
  rw [hbody]
  exact withOperatorAttribution_iff hF (wellFormed_text bytes) (auditFields_sublist hpolicy) haudit
    hfinite

/-! ### A decision in the name of somebody else -/

namespace Sample

/-- An operator who decides on top-ups. -/
def approver : Session := ⟨units "ops@example.com", [.operator]⟩

def topUpDecision : List Text :=
  ["agents", "liquidity", "top-ups", "7", "decision"].map String.toList

/-- The bytes of a byte order mark. -/
def mark : List UInt8 := [0xEF, 0xBB, 0xBF]

/-- A decision that names somebody else. -/
def forged : List UInt8 :=
  "\x7b\"approvedBy\":\"eve\",\"approved\":true\x7d".toList.flatMap String.utf8EncodeChar

end Sample

open Sample in
/-- Behind two byte order marks, the backend reads the name that the browser has sent.  This is the
input for a `text()` that drops one mark; where it drops two, as in Node 22, it takes three. -/
theorem post_attributes_sample : ∃ sent members,
    post Json.literal (some approver) (some approver) topUpDecision none
      (text (mark ++ mark ++ forged)) = .ok sent ∧
    Json.parse Json.literal (text (encode sent.body)) = some (.obj members) ∧
    Members.lookup members (units "approvedBy") = some (.str (units "eve")) ∧
    units "eve" ≠ approver.sub :=
  ⟨_, [(units "approvedBy", .str (units "eve")), (units "approved", .bool true)], rfl, rfl, rfl,
    by decide⟩

open Sample in
/-- Without a byte order mark, the operator is named. -/
theorem post_attributes_iff_sample : ∃ policy sent,
    policyForMutation topUpDecision = some policy ∧
    post Json.literal (some approver) (some approver) topUpDecision none (text forged) = .ok sent ∧
    ((∀ members, Json.parse Json.literal (text (encode sent.body)) = some (.obj members) →
      Named policy approver.sub members ∧
        ∃ original, Json.parse Json.literal (dropBom (text forged)) = some (.obj original) ∧
          SameOthers Json.literal members original) ↔
      ∀ t members, text forged = bom :: t → Json.parse Json.literal t = some (.obj members) →
        Named policy approver.sub members) := by
  have hpolicy : policyForMutation topUpDecision =
      some ⟨.liquidityDecide, ["approvedBy"], "decide a float top-up"⟩ := by decide
  have hpost : ∃ sent, post Json.literal (some approver) (some approver) topUpDecision none
      (text forged) = .ok sent := ⟨_, rfl⟩
  have hparse : Json.parse Json.literal (text forged) =
      some (.obj [(units "approvedBy", .str (units "eve")), (units "approved", .bool true)]) := rfl
  obtain ⟨sent, hsent⟩ := hpost
  refine ⟨_, sent, hpolicy, hsent,
    post_attributes_iff lawful_literal hpolicy (by decide) hsent fun original h => ?_⟩
  rw [hparse] at h
  cases h
  exact .obj (List.forall_mem_cons.2 ⟨.str _, List.forall_mem_singleton.2 (.bool true)⟩)

end Console

end RemitBridge
