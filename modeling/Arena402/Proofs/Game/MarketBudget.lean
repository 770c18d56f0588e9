/-
The requests that a buyer may have out.

Three calls change the status of a request, and each of them can only resolve it or engage
one that was pending (`Marked`).  A buyer gets a new request only when none of its own is
unresolved, so that it never has two, and the sellers it has asked are the list of targets
that the budget is checked against.  The request of a live engagement stays engaged
(`Engaging`), and after a deal this is for good: the buyer sends nothing any more.
-/
import Arena402.Proofs.Game.A2aMarket

namespace Arena402.Game

/-- A request that is pending or engaged. -/
def RequestRecord.unresolved (record : RequestRecord) : Bool :=
  record.status = .pending || record.status = .engaged

namespace AgentDrivenMarket

open Py

variable {s t : AgentDrivenMarket}

/-- The recorded requests of a buyer intent, with their ids. -/
def requestsBy (s : AgentDrivenMarket) (buyerIntentId : String) : Dict String RequestRecord :=
  s.requests.filter fun e => e.2.request.buyerIntentId = buyerIntentId

/-- The request is the same, and it is not unresolved again. -/
def Marked (r r' : RequestRecord) : Prop :=
  r'.request = r.request ∧ (r'.unresolved = true → r.unresolved = true)

theorem Marked.refl (r : RequestRecord) : Marked r r :=
  ⟨rfl, id⟩

/-! ### What a call does to the requests -/

/-- A request that passed the checks of `submit_requests`. -/
structure Sent (s t : AgentDrivenMarket) (request : AgentNegotiationRequest) : Prop where
  fresh : s.requests.get request.requestId = none
  resolved : s.hasUnresolvedRfq request.buyerIntentId = false
  budget : (s.targetsOf request.buyerIntentId).length < s.maxOutbound
  new : request.sellerIntentId ∉ s.targetsOf request.buyerIntentId
  requests : t.requests = s.requests ++ [(request.requestId, { request := request })]
  targets : t.requestTargetsByBuyer = s.requestTargetsByBuyer.set request.buyerIntentId
    (request.sellerIntentId :: s.targetsOf request.buyerIntentId)

/-- A call that marks requests at most. -/
structure Marks (s t : AgentDrivenMarket) : Prop where
  requests : Dict.Related Marked s.requests t.requests
  targets : t.requestTargetsByBuyer = s.requestTargetsByBuyer

theorem Writes.maxOutbound {call : MarketCall} (h : Writes s call t) :
    t.maxOutbound = s.maxOutbound := by
  cases h with
  | publish _ _ hclaims | request _ _ _ _ _ _ hclaims => rw [hclaims.market]; rfl
  | busy => rfl
  | engage _ _ _ _ _ _ _ _ hclaims | close _ _ _ _ _ hclaims | deal _ _ _ _ _ _ _ _ hclaims => rw [hclaims.market]; rfl

/-- Every call marks requests or sends one. -/
theorem Writes.sends {call : MarketCall} (h : Writes s call t) (hs : Sound s) :
    Marks s t ∨ ∃ request, Sent s t request := by
  cases h with
  | publish _ _ hclaims =>
      rw [hclaims.market]
      exact Or.inl ⟨.refl Marked.refl _, rfl⟩
  | @request c request buyer seller _ hfresh htargets hresolved hbudget hnew hclaims =>
      have hbuyer := hs.intentIds _ _ htargets.buyerIntent
      have hseller := hs.intentIds _ _ htargets.sellerIntent
      dsimp only at hbuyer hseller
      rw [hbuyer] at hresolved hbudget hnew ⊢
      rw [hseller] at hnew
      rw [hclaims.market]
      refine Or.inr ⟨request, hfresh, hresolved, hbudget, hnew, Dict.set_of_get_none _ hfresh, ?_⟩
      show s.requestTargetsByBuyer.set _ ((s.targetsOf _).insert _) = _
      rw [List.insert_of_not_mem hnew]
  | busy hrecord =>
      refine Or.inl ⟨Dict.related_set Marked.refl _ ⟨_, hrecord, rfl, ?_⟩, rfl⟩
      simp [RequestRecord.unresolved]
  | engage _ hrecord hpending _ _ _ _ _ hclaims =>
      rw [hclaims.market]
      refine Or.inl ⟨Dict.related_set Marked.refl _ ⟨_, hrecord, rfl, ?_⟩, rfl⟩
      simp [RequestRecord.unresolved, hpending]
  | @close c _ engagement _ _ _ _ _ _ _ _ _ hclaims =>
      rw [hclaims.market]
      have hrejected : Dict.Related Marked s.requests
          (s.requests.update (fun id _ => id = engagement.requestId)
            fun record => { record with status := .rejected }) := by
        refine Dict.related_update Marked.refl _ fun e _ _ => ⟨rfl, ?_⟩
        simp [RequestRecord.unresolved]
      exact Or.inl ⟨hrejected, rfl⟩
  | deal _ _ _ _ _ _ _ _ hclaims =>
      rw [hclaims.market]
      exact Or.inl ⟨.refl Marked.refl _, rfl⟩

/-! ### The budget -/

/-- What every reachable market keeps of the requests of its buyers. -/
structure Budgeted (n : Nat) (s : AgentDrivenMarket) : Prop where
  limit : s.maxOutbound = n
  keys : s.requests.keys.Nodup
  targets : ∀ b, s.targetsOf b = ((s.requestsBy b).map (·.2.request.sellerIntentId)).reverse
  distinct : ∀ b, (s.targetsOf b).Nodup
  budget : ∀ b, (s.targetsOf b).length ≤ n
  unresolved : ∀ b, (s.requestsBy b).countP (·.2.unresolved) ≤ 1

theorem budgeted_empty (n : Nat) : Budgeted n { maxOutbound := n } :=
  ⟨rfl, List.nodup_nil, fun _ => rfl, fun _ => List.nodup_nil, fun _ => Nat.zero_le _,
    fun _ => Nat.zero_le _⟩

/-- The requests of a buyer, when some were marked. -/
theorem Marks.requestsBy (h : Marks s t) (b : String) :
    Dict.Related Marked (s.requestsBy b) (t.requestsBy b) := by
  refine h.requests.filter_rows (p := fun r => r.request.buyerIntentId = b) fun r r' hm => ?_
  rw [hm.1]

theorem Budgeted.marks {n : Nat} (h : Budgeted n s) (hm : Marks s t)
    (hlimit : t.maxOutbound = s.maxOutbound) : Budgeted n t := by
  have hrows : ∀ b, t.targetsOf b = s.targetsOf b := by
    intro b
    unfold targetsOf
    rw [hm.targets]
  refine ⟨hlimit.trans h.limit, ?_, ?_, ?_, ?_, ?_⟩
  · have hkeys : t.requests.keys = s.requests.keys := hm.requests.map_eq fun _ _ _ _ => rfl
    rw [hkeys]
    exact h.keys
  · intro b
    rw [hrows, h.targets b, (hm.requestsBy b).map_eq fun _ _ _ hmarked => by rw [hmarked.1]]
  · intro b
    rw [hrows]
    exact h.distinct b
  · intro b
    rw [hrows]
    exact h.budget b
  · intro b
    exact le_trans ((hm.requestsBy b).countP_le fun _ _ hmarked => hmarked.2) (h.unresolved b)

/-- A buyer without an unresolved request. -/
theorem countP_of_resolved {b : String} (h : s.hasUnresolvedRfq b = false) :
    (s.requestsBy b).countP (·.2.unresolved) = 0 := by
  refine List.countP_eq_zero.mpr fun e he hunresolved => ?_
  obtain ⟨hmem, hb⟩ := List.mem_filter.mp he
  have hany := List.any_eq_false.mp h e.2 (List.mem_map_of_mem hmem)
  refine hany ?_
  rw [Bool.and_eq_true]
  exact ⟨hb, hunresolved⟩

/-- The requests of a buyer after one was sent. -/
theorem Sent.requestsBy {request : AgentNegotiationRequest} (h : Sent s t request) (b : String) :
    t.requestsBy b = s.requestsBy b ++
      if request.buyerIntentId = b then [(request.requestId, { request := request })] else [] := by
  unfold AgentDrivenMarket.requestsBy
  rw [h.requests, List.filter_append, List.filter_singleton]
  simp

theorem Sent.targetsOf {request : AgentNegotiationRequest} (h : Sent s t request) (b : String) :
    t.targetsOf b = if b = request.buyerIntentId
      then request.sellerIntentId :: s.targetsOf request.buyerIntentId else s.targetsOf b := by
  show (t.requestTargetsByBuyer.get b).getD [] = _
  rw [h.targets, Dict.get_set]
  split <;> rfl

theorem Budgeted.sent {n : Nat} {request : AgentNegotiationRequest} (h : Budgeted n s)
    (hsent : Sent s t request) (hlimit : t.maxOutbound = s.maxOutbound) : Budgeted n t := by
  have hbudget := hsent.budget
  rw [h.limit] at hbudget
  refine ⟨hlimit.trans h.limit, ?_, ?_, ?_, ?_, ?_⟩
  · rw [hsent.requests, ← Dict.set_of_get_none _ hsent.fresh]
    exact Dict.nodup_keys_set h.keys _ _
  · intro b
    rw [hsent.targetsOf, hsent.requestsBy]
    by_cases hb : b = request.buyerIntentId
    · rw [if_pos hb, if_pos hb.symm, h.targets, hb]
      simp
    · rw [if_neg hb, if_neg (Ne.symm hb), List.append_nil]
      exact h.targets b
  · intro b
    rw [hsent.targetsOf]
    by_cases hb : b = request.buyerIntentId
    · rw [if_pos hb]
      exact List.nodup_cons.mpr ⟨hsent.new, h.distinct _⟩
    · rw [if_neg hb]
      exact h.distinct b
  · intro b
    rw [hsent.targetsOf]
    by_cases hb : b = request.buyerIntentId
    · rw [if_pos hb]
      exact hbudget
    · rw [if_neg hb]
      exact h.budget b
  · intro b
    rw [hsent.requestsBy]
    by_cases hb : b = request.buyerIntentId
    · rw [if_pos hb.symm, List.countP_append, hb, countP_of_resolved hsent.resolved]
      rw [Nat.zero_add]
      exact List.countP_le_length
    · rw [if_neg (Ne.symm hb), List.append_nil]
      exact h.unresolved b

/-! ### The request of a live engagement -/

/-- The request of an engagement is engaged. -/
structure EngagedRequest (s : AgentDrivenMarket) (e : AgentMarketEngagement)
    (record : RequestRecord) : Prop where
  found : s.requests.get e.requestId = some record
  engaged : record.status = .engaged
  buyer : record.request.buyerIntentId = e.buyerIntentId

/-- Every live engagement keeps its request engaged. -/
def Engaging (s : AgentDrivenMarket) : Prop :=
  ∀ id e, s.engagements.get id = some e → e.live = true → ∃ record, EngagedRequest s e record

theorem engaging_empty (n : Nat) : Engaging { maxOutbound := n } := by
  intro id e he
  cases he

/-- A pending request is not the one of a live engagement, so that it may be written. -/
theorem EngagedRequest.set_pending {e : AgentMarketEngagement} {record pending : RequestRecord}
    {requestId : String} (h : EngagedRequest s e record)
    (hrequest : s.requests.get requestId = some pending) (hpending : pending.status = .pending)
    (v : RequestRecord) (hset : t.requests = s.requests.set requestId v) :
    EngagedRequest t e record := by
  refine ⟨?_, h.engaged, h.buyer⟩
  have hne : e.requestId ≠ requestId := by
    intro heq
    have hfound := h.found
    rw [heq, hrequest] at hfound
    obtain rfl := Option.some.inj hfound
    rw [h.engaged] at hpending
    cases hpending
  rw [hset, Dict.get_set_ne _ _ hne]
  exact h.found

theorem Writes.engaging {call : MarketCall} (h : Writes s call t) (hs : Sound s)
    (hl : Engaging s) : Engaging t := by
  cases h with
  | publish _ _ hclaims =>
      rw [hclaims.market]
      intro id e he hlive
      obtain ⟨record, hrecord⟩ := hl id e he hlive
      exact ⟨record, hrecord.found, hrecord.engaged, hrecord.buyer⟩
  | request _ hfresh _ _ _ _ hclaims =>
      rw [hclaims.market]
      intro id e he hlive
      obtain ⟨record, hrecord⟩ := hl id e he hlive
      exact ⟨record, Dict.get_set_fresh _ hfresh hrecord.found, hrecord.engaged, hrecord.buyer⟩
  | busy hrequest hpending =>
      intro id e he hlive
      obtain ⟨record, hrecord⟩ := hl id e he hlive
      exact ⟨record, hrecord.set_pending hrequest hpending _ rfl⟩
  | @engage c actor requestId selectionResultId pending buyer seller _ hrequest hpending hbuyer
      hseller _ _ _ hclaims =>
      rw [hclaims.market]
      intro id e he hlive
      refine Dict.of_get_set he ?_ fun _ hold => ?_
      · rintro _ rfl
        exact ⟨_, Dict.get_set_self _ _ _, rfl, (hs.intentIds _ _ hbuyer).symm⟩
      · obtain ⟨record, hrecord⟩ := hl id e hold hlive
        exact ⟨record, hrecord.set_pending hrequest hpending _ rfl⟩
  | @close c engagementId engagement status _ _ _ hengagement _ _ _ _ hclaims =>
      rw [hclaims.market]
      intro id e he hlive
      refine Dict.of_get_set he ?_ fun hne hold => ?_
      · rintro _ rfl
        cases status <;> simp [AgentMarketEngagement.live, CloseStatus.engagement] at hlive
      · obtain ⟨record, hrecord⟩ := hl id e hold hlive
        -- two engagements of one request are one engagement
        have hother : e.requestId ≠ engagement.requestId := by
          intro heq
          rw [(hs.engagements _ _ hold).2.1, (hs.engagements _ _ hengagement).2.1, heq] at hne
          exact hne rfl
        refine ⟨record, ?_, hrecord.engaged, hrecord.buyer⟩
        show (s.requests.update (fun id _ => id = engagement.requestId)
          fun record => { record with status := .rejected }).get e.requestId = some record
        rw [Dict.get_update, hrecord.found]
        simp [hother]
  | @deal c a engagement _ _ _ hengagement hactive _ _ _ _ _ _ hclaims =>
      rw [hclaims.market]
      intro id e he hlive
      refine Dict.of_get_set he ?_ fun _ hold => ?_
      · rintro _ rfl
        obtain ⟨record, hrecord⟩ := hl _ engagement hengagement
          (by simp [AgentMarketEngagement.live, hactive])
        exact ⟨record, hrecord.found, hrecord.engaged, hrecord.buyer⟩
      · obtain ⟨record, hrecord⟩ := hl id e hold hlive
        exact ⟨record, hrecord.found, hrecord.engaged, hrecord.buyer⟩

/-! ### Runs -/

/-- What every reachable market keeps of its buyers. -/
structure Bounded (n : Nat) (s : AgentDrivenMarket) : Prop where
  sound : Sound s
  budgeted : Budgeted n s
  engaging : Engaging s

theorem Bounded.call {n : Nat} (h : Bounded n s) (c : MarketCall) : Bounded n (s.call c) := by
  rcases writes_call s c with hsame | hwrites
  · rw [hsame]
    exact h
  · refine ⟨(hwrites.sound h.sound).1, ?_, hwrites.engaging h.sound h.engaging⟩
    rcases hwrites.sends h.sound with hmarks | ⟨request, hsent⟩
    · exact h.budgeted.marks hmarks hwrites.maxOutbound
    · exact h.budgeted.sent hsent hwrites.maxOutbound

theorem Bounded.calls {n : Nat} : ∀ (l : List MarketCall) {s : AgentDrivenMarket}, Bounded n s →
    Bounded n (s.calls l) := by
  intro l
  induction l with
  | nil =>
      intro s h
      exact h
  | cons c rest ih =>
      intro s h
      exact ih (h.call c)

theorem bounded_calls (n : Nat) (l : List MarketCall) :
    Bounded n (({ maxOutbound := n } : AgentDrivenMarket).calls l) :=
  Bounded.calls l ⟨sound_empty n, budgeted_empty n, engaging_empty n⟩

/-- A buyer with a live engagement has an unresolved request. -/
theorem Engaging.unresolved (h : Engaging s) {id : String} {e : AgentMarketEngagement}
    (he : s.engagements.get id = some e) (hlive : e.live = true) :
    s.hasUnresolvedRfq e.buyerIntentId = true := by
  obtain ⟨record, hrecord⟩ := h id e he hlive
  refine List.any_eq_true.mpr ⟨record, List.mem_map_of_mem (Dict.mem_of_get hrecord.found), ?_⟩
  simp [hrecord.buyer, hrecord.engaged]

/-- What a request of a buyer is. -/
def sentBy (s : AgentDrivenMarket) (buyerIntentId : String) :
    List (String × AgentNegotiationRequest) :=
  (s.requestsBy buyerIntentId).map fun e => (e.1, e.2.request)

theorem sentBy_call {n : Nat} (h : Bounded n s) {id : String} {e : AgentMarketEngagement}
    (he : s.engagements.get id = some e) (hlive : e.live = true) (c : MarketCall) :
    (s.call c).sentBy e.buyerIntentId = s.sentBy e.buyerIntentId := by
  rcases writes_call s c with hsame | hwrites
  · rw [hsame]
  · rcases hwrites.sends h.sound with hmarks | ⟨request, hsent⟩
    · exact (hmarks.requestsBy _).map_eq fun _ _ _ hm => by rw [hm.1]
    · have hne : request.buyerIntentId ≠ e.buyerIntentId := by
        intro hbuyer
        have hresolved := hsent.resolved
        rw [hbuyer, h.engaging.unresolved he hlive] at hresolved
        cases hresolved
      unfold sentBy
      rw [hsent.requestsBy, if_neg hne, List.append_nil]

/-- After its deal a buyer has the requests that it had. -/
theorem sentBy_calls {n : Nat} : ∀ (l : List MarketCall) {s : AgentDrivenMarket} {id : String}
    {e : AgentMarketEngagement}, Bounded n s → s.engagements.get id = some e →
    e.status = .acceptedPendingSettlement →
    (s.calls l).sentBy e.buyerIntentId = s.sentBy e.buyerIntentId := by
  intro l
  induction l with
  | nil =>
      intro s id e _ _ _
      rfl
  | cons c rest ih =>
      intro s id e h he haccepted
      have hlive : e.live = true := by simp [AgentMarketEngagement.live, haccepted]
      have hg := (sound_call h.sound c).2
      obtain ⟨e', he', _, hended⟩ := hg.engagements id e he
      obtain rfl := hended (by rw [haccepted]; decide)
      exact (ih (h.call c) he' haccepted).trans (sentBy_call h he hlive c)

/-- **A buyer intent has at most as many requests as its budget, to distinct sellers and at most
    one of them unresolved; its targets are these sellers; and after a deal it gets no more.** -/
theorem outbound_budget (n : Nat) (l : List MarketCall) :
    let s := ({ maxOutbound := n } : AgentDrivenMarket).calls l
    (∀ b, (s.requestsBy b).length ≤ n ∧ (s.requestsBy b).keys.Nodup ∧
      ((s.requestsBy b).map (·.2.request.sellerIntentId)).Nodup ∧
      ((s.requestsBy b).filter (·.2.unresolved)).length ≤ 1 ∧
      ∀ seller, seller ∈ s.targetsOf b ↔
        ∃ e ∈ s.requestsBy b, e.2.request.sellerIntentId = seller) ∧
    ∀ id e, s.engagements.get id = some e → e.status = .acceptedPendingSettlement →
      ∀ later : List MarketCall,
        (s.calls later).sentBy e.buyerIntentId = s.sentBy e.buyerIntentId := by
  intro s
  have h : Bounded n s := bounded_calls n l
  refine ⟨fun b => ⟨?_, ?_, ?_, ?_, fun seller => ?_⟩, fun id e he haccepted later =>
    sentBy_calls later h he haccepted⟩
  · have hbudget := h.budgeted.budget b
    rw [h.budgeted.targets b, List.length_reverse, List.length_map] at hbudget
    exact hbudget
  · exact (List.filter_sublist.map _).nodup h.budgeted.keys
  · have hdistinct := h.budgeted.distinct b
    rw [h.budgeted.targets b] at hdistinct
    exact List.nodup_reverse.mp hdistinct
  · rw [← List.countP_eq_length_filter]
    exact h.budgeted.unresolved b
  · rw [h.budgeted.targets b, List.mem_reverse, List.mem_map]

end AgentDrivenMarket

end Arena402.Game
