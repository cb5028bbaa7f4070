import RemitBridge.Console.Proxy
import RemitBridge.Backend.Routes
import RemitBridge.Json.RoundTrip

/-!
# The route that an action reaches

The console decides on the segments of a path which permission an action needs; the backend decides
which route handles it, on what the URL parser has made of the segments.  Where both agree is said
by `Stays` (`post_reaches_iff`).

The paths of three actions are given in full.  The other two contain the id of a top-up, which is
any text: with `?` or `#` in it, the rest of the path is cut off, and with dot segments in it, the
path climbs.
-/

namespace RemitBridge

namespace Console

open Url Backend

/-- The route that a permission is declared for. -/
def Permission.route : Permission → PostRoute
  | liquidityPropose => .topUps
  | liquidityDecide => .decision
  | liquidityExecute => .execute
  | liquiditySweep => .sweep
  | kycRevoke => .revocations

/-- The path of the top-ups. -/
def topUpsPath : List Text := ["api", "v1", "agents", "liquidity", "top-ups"].map String.toList

/-- The paths whose pieces are routes for webhooks, whatever their name. -/
def webhooksPaths : List (List Text) :=
  [["api", "v1", "kyc", "webhooks"].map String.toList,
    ["api", "v1", "", "kyc", "webhooks"].map String.toList]

/-- The text without what the URL parser drops. -/
def retained (s : Text) : Text := s.filter fun c => !isDropped c

/-- The id of a top-up in the path of an action on it: what is between the beginning of the path and
the name of the action. -/
def topUpId (segments : List Text) : Text := (joinPath segments.dropLast).drop topUps.length

/-- The id, as the URL parser reads it, does not lead away from the top-up.  If it cuts off the name
of the action, it must not spell the path of another route; else it must not lead to where every
name is that of a webhook. -/
def Stays (segments : List Text) (permission : Permission) : Prop :=
  permission = .liquidityDecide ∨ permission = .liquidityExecute →
    let id := retained (topUpId segments)
    if id.any isEnd then
      ∀ route : PostRoute, route.At (follow topUpsPath (Url.segments id)) → route = permission.route
    else (descend topUpsPath (Url.segments id)).map lower ∉ webhooksPaths

variable {segments : List Text} {policy : MutationPolicy} {query : Option Text} {action : String}
  {path dir : List Text} {route : PostRoute} {id s : Text}

/-! ### Paths of top-ups -/

theorem count_slash_joinPath (segments : List Text) :
    segments.length ≤ (joinPath segments).count '/' + 1 := by
  induction segments with
  | nil => exact Nat.zero_le _
  | cons segment rest ih =>
    cases rest with
    | nil => exact Nat.le_add_left 1 _
    | cons next rest =>
      rw [joinPath, List.intercalate_cons_cons, List.count_append, List.count_append]
      rw [joinPath] at ih
      show (next :: rest).length + 1 ≤ segment.count '/' + 1 + _ + 1
      omega

/-- The path of an action on one top-up has its id between the beginning and the action. -/
theorem joinPath_of_isTopUp (h : isTopUp segments action = true) :
    joinPath segments = topUps ++ (topUpId segments ++ '/' :: action.toList) := by
  simp only [isTopUp, Bool.and_eq_true, beq_iff_eq] at h
  obtain ⟨⟨hlength, haction⟩, hprefix⟩ := h
  match segments, hlength with
  | [a, b, c, d, e], _ =>
    cases haction
    have hjoin : joinPath [a, b, c, d, action.toList] =
        joinPath [a, b, c, d] ++ ['/'] ++ action.toList := by
      simp [joinPath, List.intercalate_cons_cons]
    rw [List.isPrefixOf_iff_prefix, hjoin] at hprefix
    -- what is before the action has no fewer slashes than the beginning, and one follows it
    have hslashes : 4 ≤ (joinPath [a, b, c, d] ++ ['/']).count '/' := by
      have hcount := count_slash_joinPath [a, b, c, d]
      rw [List.count_append]
      exact Nat.succ_le_succ (Nat.le_of_succ_le_succ hcount)
    have hlength : topUps.length ≤ (joinPath [a, b, c, d]).length := by
      by_contra hlt
      have hle : joinPath [a, b, c, d] ++ ['/'] <+: topUps := by
        refine List.prefix_of_prefix_length_le (List.prefix_append _ _) hprefix ?_
        rw [List.length_append]
        exact Nat.lt_of_not_le hlt
      have hcount := Nat.le_trans hslashes (hle.sublist.count_le '/')
      exact absurd hcount (by decide)
    have hbefore : topUps <+: joinPath [a, b, c, d] := by
      refine List.prefix_of_prefix_length_le hprefix ?_ hlength
      rw [List.append_assoc]
      exact List.prefix_append _ _
    obtain ⟨id, hid⟩ := hbefore
    have hdrop : topUpId [a, b, c, d, action.toList] = id := by
      show (joinPath [a, b, c, d]).drop topUps.length = id
      rw [← hid, List.drop_left]
    rw [hjoin, hdrop, ← hid, List.append_assoc, List.append_assoc]
    rfl

/-! ### What the URL parser makes of them -/

theorem parsePath_topUps (s : Text) : parsePath ("/api/v1/".toList ++ (topUps ++ s)) =
    follow topUpsPath (Url.segments (retained s)) := by
  have hretained : ("/api/v1/".toList ++ (topUps ++ s)).filter (fun c => !isDropped c) =
      "/api/v1/agents/liquidity/top-ups/".toList ++ retained s := by
    rw [List.filter_append, List.filter_append]
    rfl
  have hwalk : walk [] [] (("/api/v1/agents/liquidity/top-ups/".toList ++ retained s).drop 1) =
      walk topUpsPath [] (retained s) := rfl
  rw [parsePath, hretained, hwalk, walk_nil]

/-- The path ends where the query begins. -/
theorem cut_search (query : Option Text) : cut (retained (search query)) = [] := by
  cases query <;> rfl

/-- The names of the two actions are segments that the URL parser leaves as they are. -/
theorem segments_action (haction : action = "decision" ∨ action = "execute") (query : Option Text) :
    Url.segments (retained (action.toList ++ search query)) = [action.toList] := by
  have hplain : retained action.toList = action.toList ∧ action.toList.any isEnd = false ∧
      action.toList.splitOnP isSlash = [action.toList] ∧ encode action.toList = action.toList := by
    obtain rfl | rfl := haction <;> decide
  obtain ⟨hretained, hend, hsplit, hencode⟩ := hplain
  have happend : retained (action.toList ++ search query) =
      action.toList ++ retained (search query) := by
    rw [retained, List.filter_append]
    exact congrArg (· ++ retained (search query)) hretained
  rw [Url.segments, happend, cut_append hend, cut_search, List.append_nil, hsplit,
    List.map_singleton, hencode]

/-- Where the URL of an action on one top-up leads. -/
theorem parsePath_of_isTopUp (haction : action = "decision" ∨ action = "execute")
    (h : isTopUp segments action = true) :
    parsePath ("/api/v1/".toList ++ joinPath segments ++ search query) =
      if (retained (topUpId segments)).any isEnd then
        follow topUpsPath (Url.segments (retained (topUpId segments)))
      else descend topUpsPath (Url.segments (retained (topUpId segments))) ++ [action.toList] := by
  have hinput : "/api/v1/".toList ++ joinPath segments ++ search query =
      "/api/v1/".toList ++
        (topUps ++ (topUpId segments ++ '/' :: (action.toList ++ search query))) := by
    rw [joinPath_of_isTopUp h]
    simp only [List.append_assoc, List.cons_append]
  have hretained : retained (topUpId segments ++ '/' :: (action.toList ++ search query)) =
      retained (topUpId segments) ++ '/' :: retained (action.toList ++ search query) := by
    rw [retained, List.filter_append]
    rfl
  have hlast : isDoubleDot action.toList = false ∧ isSingleDot action.toList = false := by
    obtain rfl | rfl := haction <;> decide
  rw [hinput, parsePath_topUps, hretained]
  by_cases hend : (retained (topUpId segments)).any isEnd = true
  · rw [if_pos hend, Url.segments, cut_append_of_isEnd hend, Url.segments]
  · rw [if_neg hend, segments_append_slash (Bool.eq_false_iff.2 hend), segments_action haction,
      follow_append_singleton, close, hlast.1, hlast.2]
    rfl

/-! ### Routes of paths that end in an action -/

theorem strip_nil_cons {s : Text} : strip ([] :: (path ++ [s])) = path ++ [s] := by
  cases path <;> rfl

/-- What follows `/api/v1` in a path that ends in an action. -/
theorem mounted_append_action {rest : List Text}
    (haction : action = "decision" ∨ action = "execute")
    (h : mounted (dir ++ [action.toList]) = some rest) :
    ∃ front, rest = front ++ [action.toList] ∧
      (dir.map lower = ["api", "v1"].map String.toList ++ front.map lower ∨
        dir.map lower = ["api", "v1", ""].map String.toList ++ front.map lower) := by
  match dir, h with
  | [], h => cases h
  | [api], h =>
    have hne : lower action.toList ≠ "v1".toList := by obtain rfl | rfl := haction <;> decide
    rw [List.singleton_append, mounted, if_neg fun hboth => hne hboth.2] at h
    cases h
  | api :: version :: dir, h =>
    rw [List.cons_append, List.cons_append, mounted] at h
    by_cases hmount : lower api = "api".toList ∧ lower version = "v1".toList
    · rw [if_pos hmount] at h
      cases h
      match dir with
      | [] =>
        refine ⟨[], ?_, .inl ?_⟩
        · obtain rfl | rfl := haction <;> rfl
        · rw [List.map_cons, List.map_cons, hmount.1, hmount.2]
          rfl
      | [] :: dir =>
        refine ⟨dir, strip_nil_cons, .inr ?_⟩
        rw [List.map_cons, List.map_cons, hmount.1, hmount.2]
        rfl
      | (c :: s) :: dir =>
        refine ⟨(c :: s) :: dir, rfl, .inl ?_⟩
        rw [List.map_cons, List.map_cons, hmount.1, hmount.2]
        rfl
    · rw [if_neg hmount] at h
      cases h

theorem mounted_cons_cons {api version : Text} (hapi : lower api = "api".toList)
    (hversion : lower version = "v1".toList) :
    mounted (api :: version :: path) = some (strip path) :=
  if_pos ⟨hapi, hversion⟩

theorem fits_webhooks {k w : Text} (haction : action = "decision" ∨ action = "execute")
    (hk : lower k = "kyc".toList) (hw : lower w = "webhooks".toList) :
    fits PostRoute.webhooks.pattern [k, w, action.toList] = true ∧
      decodes PostRoute.webhooks.pattern [k, w, action.toList] = true := by
  have hparam : fits [.param] [action.toList] = true ∧ decodable action.toList = true := by
    obtain rfl | rfl := haction <;> decide
  constructor
  · show (lower k == "kyc".toList && (lower w == "webhooks".toList && fits [.param] _)) = true
    rw [hk, hw, hparam.1]
    rfl
  · show (true && (true && (decodable action.toList && true))) = true
    rw [hparam.2]
    rfl

/-- Where every name is that of a webhook, an action is one. -/
theorem at_webhooks (haction : action = "decision" ∨ action = "execute")
    (h : dir.map lower ∈ webhooksPaths) : PostRoute.webhooks.At (dir ++ [action.toList]) := by
  rcases List.mem_cons.1 h with h | h
  · obtain ⟨api, dir, rfl, hapi, h⟩ := List.map_eq_cons_iff.1 h
    obtain ⟨version, dir, rfl, hversion, h⟩ := List.map_eq_cons_iff.1 h
    obtain ⟨k, dir, rfl, hk, h⟩ := List.map_eq_cons_iff.1 h
    obtain ⟨w, dir, rfl, hw, h⟩ := List.map_eq_cons_iff.1 h
    cases List.map_eq_nil_iff.1 h
    have hstrip : strip [k, w, action.toList] = [k, w, action.toList] := by
      cases k with
      | nil => cases hk
      | cons => rfl
    exact ⟨_, (mounted_cons_cons hapi hversion).trans (congrArg some hstrip),
      fits_webhooks haction hk hw⟩
  · obtain ⟨api, dir, rfl, hapi, h⟩ := List.map_eq_cons_iff.1 (List.mem_singleton.1 h)
    obtain ⟨version, dir, rfl, hversion, h⟩ := List.map_eq_cons_iff.1 h
    obtain ⟨e, dir, rfl, he, h⟩ := List.map_eq_cons_iff.1 h
    obtain ⟨k, dir, rfl, hk, h⟩ := List.map_eq_cons_iff.1 h
    obtain ⟨w, dir, rfl, hw, h⟩ := List.map_eq_cons_iff.1 h
    cases List.map_eq_nil_iff.1 h
    cases List.map_eq_nil_iff.1 he
    exact ⟨_, mounted_cons_cons hapi hversion, fits_webhooks haction hk hw⟩

theorem eq_webhooks_of_getLast (h : route.pattern.getLast? = some .param) : route = .webhooks := by
  cases route <;> first | rfl | cases h

/-- A path that ends in an action is one of the route of the action, or that of a webhook. -/
theorem at_append_action (haction : action = "decision" ∨ action = "execute")
    (h : route.At (dir ++ [action.toList])) :
    route.pattern.getLast? = some (.name action) ∨
      (route = .webhooks ∧ dir.map lower ∈ webhooksPaths) := by
  obtain ⟨rest, hmounted, hfits, -⟩ := h
  obtain ⟨front, rfl, hdir⟩ := mounted_append_action haction hmounted
  have hlower : action.toList ≠ [] ∧ lower action.toList = action.toList := by
    obtain rfl | rfl := haction <;> decide
  obtain ⟨before, last, hpattern, hlast, hlength⟩ := fits_append_singleton hlower.1 hfits
  have hgetLast : route.pattern.getLast? = some last := by
    rw [hpattern, List.getLast?_append, List.getLast?_singleton]
    rfl
  cases last with
  | name s =>
    have hs : action.toList = s.toList := hlower.2.symm.trans (eq_of_beq hlast)
    rw [hgetLast, String.toList_inj.1 hs]
    exact .inl rfl
  | param =>
    cases eq_webhooks_of_getLast hgetLast
    refine .inr ⟨rfl, ?_⟩
    -- the parameter is the action, so the names are before it
    have hbefore : before.length = 2 := by
      have htotal := congrArg List.length hpattern
      rw [List.length_append, List.length_singleton] at htotal
      exact (Nat.succ.inj htotal).symm
    match front, hlength.symm.trans hbefore with
    | [k, w], _ =>
      rw [List.cons_append, List.cons_append] at hfits
      have hnames : [k, w].map lower = ["kyc".toList, "webhooks".toList] := by
        have hall : (lower k == "kyc".toList && (lower w == "webhooks".toList &&
          fits [.param] [action.toList])) = true := hfits
        rw [Bool.and_eq_true, Bool.and_eq_true] at hall
        rw [List.map_cons, List.map_singleton, eq_of_beq hall.1, eq_of_beq hall.2.1]
      rw [hnames] at hdir
      obtain hdir | hdir := hdir
      · rw [hdir]
        exact List.mem_cons_self
      · rw [hdir]
        exact List.mem_cons_of_mem _ List.mem_cons_self

/-! ### The route that is reached -/

/-- Where an action on one top-up leads: to no other route, if its id stays. -/
theorem topUp_reaches_iff (haction : action = "decision" ∨ action = "execute")
    (h : isTopUp segments action = true)
    (hroute : ∀ r : PostRoute, r.pattern.getLast? = some (.name action) ↔ r = route) :
    (∀ r, dispatch (parsePath ("/api/v1/".toList ++ joinPath segments ++ search query)) = some r →
      r = route) ↔
    if (retained (topUpId segments)).any isEnd then
      ∀ r : PostRoute, r.At (follow topUpsPath (Url.segments (retained (topUpId segments)))) →
      r = route
    else (descend topUpsPath (Url.segments (retained (topUpId segments)))).map lower ∉
        webhooksPaths := by
  rw [parsePath_of_isTopUp haction h]
  by_cases hend : (retained (topUpId segments)).any isEnd = true
  · rw [if_pos hend, if_pos hend]
    exact forall_congr' fun r => imp_congr_left dispatch_eq_some_iff
  · rw [if_neg hend, if_neg hend]
    constructor
    · intro hreaches hmem
      have hwebhooks := hreaches .webhooks (dispatch_eq_some_iff.2 (at_webhooks haction hmem))
      have hlast := (hroute .webhooks).2 hwebhooks
      cases hlast
    · intro hmem r hr
      obtain hlast | ⟨-, hwebhooks⟩ := at_append_action haction (dispatch_eq_some_iff.1 hr)
      · exact (hroute r).1 hlast
      · exact absurd hwebhooks hmem

/-- **The route that is reached** by an action the console forwards is no other than the one its
permission is declared for, if and only if the id of a top-up in its path does not lead away. -/
theorem post_reaches_iff {N : Type} {F : NumberFormat N} {caller session : Option Session}
    {text : Str} {sent : Forwarded} (hpolicy : policyForMutation segments = some policy)
    (hsent : post F caller session segments query text = .ok sent) :
    (∀ route, dispatch (parsePath sent.target) = some route → route = policy.permission.route) ↔
      Stays segments policy.permission := by
  have htarget : sent.target = "/api/v1/".toList ++ joinPath segments ++ search query := by
    obtain ⟨operator, found, roles, -, -, -, -, rfl⟩ := post_cases hsent
    rfl
  -- a path that is given in full reaches its route, and there is no id in it
  have hfull : ∀ (full : String) (permission : Permission),
      ¬ (permission = .liquidityDecide ∨ permission = .liquidityExecute) →
      joinPath segments = full.toList →
      dispatch (parsePath ("/api/v1/".toList ++ full.toList ++ search query)) =
      some permission.route →
      ((∀ r, dispatch (parsePath sent.target) = some r → r = permission.route) ↔
        Stays segments permission) := by
    intro full permission hpermission hjoin hdispatch
    rw [htarget, hjoin, hdispatch]
    refine iff_of_true (fun r hr => (Option.some.inj hr).symm) fun h => absurd h hpermission
  obtain ⟨hjoin, rfl⟩ | ⟨htopUp, rfl⟩ | ⟨htopUp, rfl⟩ | ⟨hjoin, rfl⟩ | ⟨hjoin, rfl⟩ :=
    policyForMutation_cases hpolicy
  · exact hfull _ _ (by decide) hjoin (by cases query <;> rfl)
  · have hlast : ∀ r : PostRoute, r.pattern.getLast? = some (.name "decision") ↔ r = .decision := by
      intro r
      cases r <;> decide
    rw [htarget]
    exact (topUp_reaches_iff (.inl rfl) htopUp hlast).trans (imp_iff_right (.inl rfl)).symm
  · have hlast : ∀ r : PostRoute, r.pattern.getLast? = some (.name "execute") ↔ r = .execute := by
      intro r
      cases r <;> decide
    rw [htarget]
    exact (topUp_reaches_iff (.inr rfl) htopUp hlast).trans (imp_iff_right (.inr rfl)).symm
  · exact hfull _ _ (by decide) hjoin (by cases query <;> rfl)
  · exact hfull _ _ (by decide) hjoin (by cases query <;> rfl)

/-- An id that is one plain segment leads nowhere else. -/
theorem stays_of_plain {permission : Permission}
    (hplain : ∀ c ∈ topUpId segments, isDropped c = false ∧ isSlash c = false ∧ isEnd c = false)
    (hsingle : isSingleDot (encode (topUpId segments)) = false)
    (hdouble : isDoubleDot (encode (topUpId segments)) = false) : Stays segments permission := by
  intro _
  have hretained : retained (topUpId segments) = topUpId segments := by
    refine List.filter_eq_self.2 fun c hc => ?_
    rw [(hplain c hc).1]
    rfl
  have hend : (topUpId segments).any isEnd = false :=
    List.any_eq_false.2 fun c hc => Bool.eq_false_iff.1 (hplain c hc).2.2
  have hsegments : Url.segments (topUpId segments) = [encode (topUpId segments)] := by
    rw [Url.segments, cut_eq_self hend, List.splitOnP_eq_singleton fun c hc => (hplain c hc).2.1,
      List.map_singleton]
  have hdescend : descend topUpsPath [encode (topUpId segments)] =
      topUpsPath ++ [encode (topUpId segments)] := by
    show close topUpsPath (encode (topUpId segments)) false = _
    rw [close, hsingle, hdouble]
    rfl
  show if (retained (topUpId segments)).any isEnd then _ else _
  rw [hretained, if_neg (Bool.eq_false_iff.1 hend), hsegments, hdescend]
  intro hmem
  -- the path of the id has six pieces, and those of the webhooks have fewer
  have hlength : ∀ path ∈ webhooksPaths, path.length ≠ 6 := by decide
  exact hlength _ hmem (by rw [List.length_map, List.length_append]; rfl)

/-! ### An operator revokes an attestation -/

namespace Sample

def operator : Session := ⟨units "ops@example.com", [.operator]⟩

/-- The path as the browser sends it. -/
def pathname : Text :=
  "/api/backend/agents/liquidity/top-ups/..%2F..%2F..%2Fkyc%2Frevocations%3F/decision".toList

/-- Its segments, decoded. -/
def decoded : List Text :=
  ["agents", "liquidity", "top-ups", "../../../kyc/revocations?", "decision"].map String.toList

/-- The segments of a decision on a top-up whose id is a plain segment. -/
def plain : List Text := ["agents", "liquidity", "top-ups", "7", "decision"].map String.toList

end Sample

open Sample in
/-- An operator who may not revoke attestations passes the gate and the handler with a decision on a
top-up, and reaches the route that revokes. -/
theorem post_reaches_sample : ∃ policy sent,
    proxy (some operator) pathname = none ∧
    policyForMutation decoded = some policy ∧
    post Json.literal (some operator) (some operator) decoded none (units "{}") =
      .ok sent ∧
    dispatch (parsePath sent.target) = some .revocations ∧
    PostRoute.revocations ≠ policy.permission.route ∧
    may operator.roles .kycRevoke = false :=
  ⟨⟨.liquidityDecide, ["approvedBy"], "decide a float top-up"⟩, _, by decide, by decide,
    rfl, by decide, by decide, by decide⟩

open Sample in
theorem post_reaches_iff_sample : ∃ sent,
    post Json.literal (some operator) (some operator) plain none (units "{}") = .ok sent ∧
    ((∀ route, dispatch (parsePath sent.target) = some route → route = .decision) ↔
      Stays plain .liquidityDecide) := by
  have hpolicy : policyForMutation plain =
      some ⟨.liquidityDecide, ["approvedBy"], "decide a float top-up"⟩ := by decide
  have hpost : ∃ sent, post Json.literal (some operator) (some operator) plain none (units "{}") =
      .ok sent := ⟨_, rfl⟩
  obtain ⟨sent, hsent⟩ := hpost
  exact ⟨sent, hsent, post_reaches_iff hpolicy hsent⟩

end Console

end RemitBridge
