/-
What one call of the agent-driven market does.

A call that returns either found its own record and gave it back, or passed every check and
wrote.  `Writes` has one case for each way to write, with the checks that were passed and
the claims that were made; the sixth is the request that a refused engagement marks busy.
Every invariant of the market is read off these cases.
-/
import Arena402.Lib.Raise
import Arena402.Game.A2aMarket

namespace Arena402.Game

namespace AgentDrivenMarket

open Py

variable {s t c : AgentDrivenMarket}

/-! ### The checks -/

/-- `_validate_counterparties` passes. -/
structure Counterparties (buyer seller : AgentMarketIntent) : Prop where
  buys : buyer.side = .buy
  sells : seller.side = .sell
  differ : buyer.participantId ≠ seller.participantId
  sameGame : buyer.gameId = seller.gameId
  sameRound : buyer.roundId = seller.roundId
  sameGood : buyer.good = seller.good

/-- The two intents and the record of a request. -/
structure Targets (s : AgentDrivenMarket) (buyer seller : AgentMarketIntent)
    (record : RequestRecord) : Prop where
  buyerIntent : s.intents.get record.request.buyerIntentId = some buyer
  sellerIntent : s.intents.get record.request.sellerIntentId = some seller
  counterparties : Counterparties buyer seller

/-- What a price has to meet to be frozen. -/
structure PriceOk (a : Acceptance) (buyer seller : AgentMarketIntent) (record : RequestRecord) :
    Prop where
  positive : 0 < a.unitPriceAtomic
  ceiling : a.unitPriceAtomic ≤ buyer.limitPriceAtomic
  floor : seller.limitPriceAtomic ≤ a.unitPriceAtomic
  distinct : a.latestProposalResultId ≠ a.acceptanceResultId
  opening : a.latestProposalResultId = record.request.sourceResultId →
    a.latestProposalActorId = buyer.participantId ∧
      a.unitPriceAtomic = record.request.openingPriceAtomic

theorem requireIntent_ok {intentId : String} {intent : AgentMarketIntent}
    (h : s.requireIntent intentId = .ok intent) : s.intents.get intentId = some intent := by
  unfold requireIntent at h
  split at h
  · rename_i found hfound
    cases h
    exact hfound
  · cases h

theorem requireRequestRecord_ok {requestId : String} {record : RequestRecord}
    (h : s.requireRequestRecord requestId = .ok record) :
    s.requests.get requestId = some record := by
  unfold requireRequestRecord at h
  split at h
  · rename_i found hfound
    cases h
    exact hfound
  · cases h

theorem requireEngagement_ok {engagementId : String} {engagement : AgentMarketEngagement}
    (h : s.requireEngagement engagementId = .ok engagement) :
    s.engagements.get engagementId = some engagement := by
  unfold requireEngagement at h
  split at h
  · rename_i found hfound
    cases h
    exact hfound
  · cases h

theorem counterparties_of_ok {buyer seller : AgentMarketIntent}
    (h : validateCounterparties buyer seller = .ok ()) : Counterparties buyer seller := by
  unfold validateCounterparties at h
  obtain ⟨hsides, h⟩ := ok_of_guard h
  obtain ⟨hself, h⟩ := ok_of_guard h
  obtain ⟨hround, h⟩ := ok_of_guard h
  obtain ⟨hgood, _⟩ := ok_of_guard h
  simp only [Bool.or_eq_true, decide_eq_true_eq, not_or, ne_eq, not_not] at hsides hround hgood
  exact ⟨hsides.1, hsides.2, hself, hround.1, hround.2, hgood.1⟩

theorem isReserved_eq_false {intent : AgentMarketIntent} (h : s.isReserved intent = false) :
    s.reservedSlots.get (slotKey intent) = none := by
  simpa [isReserved] using h

/-! ### Claims -/

/-- The market after its results were claimed: each was free or had the same claim. -/
structure Claims (s : AgentDrivenMarket) (claims : List (String × String × String))
    (c : AgentDrivenMarket) : Prop where
  market : c = { s with resultClaims := c.resultClaims }
  free : ∀ e ∈ claims, ∀ old, s.resultClaims.get e.1 = some old → old = e.2
  recorded : ∀ r v, c.resultClaims.get r = some v ↔ (r, v) ∈ claims ∨ s.resultClaims.get r = some v

theorem claimResult_ok {pending pending' : Dict String (String × String)}
    {e : String × String × String} (h : s.claimResult pending e = .ok pending') :
    pending' = pending.set e.1 e.2 ∧ (∀ old, pending.get e.1 = some old → old = e.2) ∧
      ∀ old, s.resultClaims.get e.1 = some old → old = e.2 := by
  unfold claimResult at h
  obtain ⟨hpending, h⟩ := ok_of_guard h
  obtain ⟨hold, h⟩ := ok_of_guard h
  cases h
  simp only [Option.any_eq_true, decide_eq_true_eq, not_exists, not_and, ne_eq,
      not_not] at hpending hold
  exact ⟨rfl, hpending, hold⟩

/-- The loop of `_claim_results` collects exactly the claims. -/
theorem claimResult_foldlM : ∀ (claims : List (String × String × String))
    (pending pending' : Dict String (String × String)),
    claims.foldlM s.claimResult pending = .ok pending' → pending.keys.Nodup →
    pending'.keys.Nodup ∧
      (∀ r v, pending'.get r = some v ↔ (r, v) ∈ claims ∨ pending.get r = some v) ∧
      ∀ e ∈ claims, ∀ old, s.resultClaims.get e.1 = some old → old = e.2 := by
  intro claims
  induction claims with
  | nil =>
      intro pending pending' h hnodup
      cases h
      exact ⟨hnodup, fun r v => by simp, by simp⟩
  | cons e rest ih =>
      intro pending pending' h hnodup
      rw [List.foldlM_cons] at h
      obtain ⟨next, hnext, h⟩ := ok_of_bind h
      obtain ⟨rfl, hsame, hfree⟩ := claimResult_ok hnext
      obtain ⟨hnodup', hget, hrest⟩ := ih _ _ h (Dict.nodup_keys_set hnodup _ _)
      refine ⟨hnodup', fun r v => ?_, fun e' he' => ?_⟩
      · have hset : (pending.set e.1 e.2).get r = some v ↔ (r, v) = e ∨ pending.get r = some v := by
          rw [Dict.get_set]
          by_cases hr : r = e.1
          · subst hr
            rw [if_pos rfl]
            constructor
            · intro hv
              exact Or.inl (by rw [← Option.some.inj hv])
            · rintro (hv | hv)
              · rw [← hv]
              · rw [hsame _ hv]
          · rw [if_neg hr]
            exact ⟨Or.inr, fun hv => hv.resolve_left fun he => hr (by rw [← he])⟩
        rw [hget, hset, List.mem_cons]
        tauto
      · rcases List.mem_cons.mp he' with rfl | he'
        · exact hfree
        · exact hrest e' he'

theorem claims_of_ok {claims : List (String × String × String)}
    (h : s.claimResults claims = .ok c) : Claims s claims c := by
  obtain ⟨pending, hloop, h⟩ := ok_of_bind h
  cases h
  obtain ⟨hnodup, hget, hfree⟩ := claimResult_foldlM _ _ _ hloop List.nodup_nil
  refine ⟨rfl, hfree, fun r v => ?_⟩
  show (pending.foldl (fun d e => d.set e.1 e.2) s.resultClaims).get r = some v ↔ _
  have hmem : pending.get r = some v ↔ (r, v) ∈ claims := (hget r v).trans (by simp)
  rw [Dict.get_foldl_set _ _ hnodup, ← hmem]
  cases hp : pending.get r with
  | none => simp
  | some w =>
      have hw : (r, w) ∈ claims := by simpa using (hget r w).mp hp
      constructor
      · intro hv
        exact Or.inl hv
      · rintro (hv | hv)
        · exact hv
        · rw [hfree _ hw v hv]
          rfl

/-- A call that claims nothing. -/
theorem Claims.nil (s : AgentDrivenMarket) : Claims s [] s :=
  ⟨rfl, by simp, by simp⟩

/-! ### What a call writes -/

/-- The writes of `publish_intent`. -/
def addIntent (s : AgentDrivenMarket) (intent : AgentMarketIntent) : AgentDrivenMarket :=
  { s with
    intents := s.intents.set intent.intentId intent
    intentByResult := s.intentByResult.set intent.sourceResultId intent.intentId
    intentByParticipantRound :=
      s.intentByParticipantRound.set (slotKey intent) intent.intentId }

/-- The writes of `close_engagement`. -/
def closeWith (s : AgentDrivenMarket) (engagementId : String) (engagement : AgentMarketEngagement)
    (status : CloseStatus) (sourceResultId : Option String) (buyer seller : AgentMarketIntent) :
    AgentDrivenMarket :=
  { s with
    engagements := s.engagements.set engagementId { engagement with
      status := status.engagement
      terminalSourceResultId := sourceResultId }
    requests := (s.rejectRequest engagement.requestId).requests
    reservedSlots := [slotKey buyer, slotKey seller].foldl
      (releaseSlot engagement.engagementId) s.reservedSlots }

/-- The sellers that a buyer intent has asked. -/
def targetsOf (s : AgentDrivenMarket) (buyerIntentId : String) : List String :=
  (s.requestTargetsByBuyer.get buyerIntentId).getD []

/-- The claims of `close_engagement`. -/
def closeClaims (engagementId : String) (sourceResultId : Option String) :
    List (String × String × String) :=
  (sourceResultId.map fun resultId => (resultId, "reject", engagementId)).toList

/-- What a call that writes has found, claimed and written. -/
inductive Writes (s : AgentDrivenMarket) : MarketCall → AgentDrivenMarket → Prop
  | publish {c : AgentDrivenMarket} {intent : AgentMarketIntent}
      (hresult : (s.intentByResult.get intent.sourceResultId).bind s.intents.get = none)
      (hfresh : s.intents.get intent.intentId = none)
      (hclaims : Claims s [(intent.sourceResultId, "intent", intent.intentId)] c) :
      Writes s (.publishIntent intent) (c.addIntent intent)
  | request {c : AgentDrivenMarket} {request : AgentNegotiationRequest}
      {buyer seller : AgentMarketIntent}
      (hresult : s.requestIdsByResult.get request.sourceResultId = none)
      (hfresh : s.requests.get request.requestId = none)
      (htargets : Targets s buyer seller { request := request })
      (hresolved : s.hasUnresolvedRfq buyer.intentId = false)
      (hbudget : (s.targetsOf buyer.intentId).length < s.maxOutbound)
      (hnew : seller.intentId ∉ s.targetsOf buyer.intentId)
      (hclaims : Claims s [(request.sourceResultId, "rfq", s!"rfq-batch:{request.sourceResultId}")] c) :
      Writes s (.submitRequests [request]) (c.addRequest (s.targetsOf buyer.intentId) request)
  | busy {actor requestId selectionResultId : String} {record : RequestRecord}
      {buyer seller : AgentMarketIntent} (hrecord : s.requests.get requestId = some record)
      (hpending : record.status = .pending)
      (hbuyer : s.intents.get record.request.buyerIntentId = some buyer)
      (hseller : s.intents.get record.request.sellerIntentId = some seller)
      (htaken : (s.isReserved buyer || s.isReserved seller) = true) :
      Writes s (.engageRequest actor requestId selectionResultId) (s.markBusy requestId record)
  | engage {c : AgentDrivenMarket} {actor requestId selectionResultId : String}
      {record : RequestRecord} {buyer seller : AgentMarketIntent}
      (hselection :
        (s.engagementBySelectionResult.get selectionResultId).bind s.engagements.get = none)
      (hrecord : s.requests.get requestId = some record) (hpending : record.status = .pending)
      (hbuyer : s.intents.get record.request.buyerIntentId = some buyer)
      (hseller : s.intents.get record.request.sellerIntentId = some seller)
      (hactor : seller.participantId = actor)
      (hfreeb : s.reservedSlots.get (slotKey buyer) = none)
      (hfrees : s.reservedSlots.get (slotKey seller) = none)
      (hclaims : Claims s [(selectionResultId, "engage", s!"engagement:{requestId}")] c) :
      Writes s (.engageRequest actor requestId selectionResultId) (c.addEngagement buyer seller
        record (engagementOf buyer seller requestId selectionResultId))
  | close {c : AgentDrivenMarket} {engagementId : String} {engagement : AgentMarketEngagement}
      {status : CloseStatus} {sourceResultId : Option String} {buyer seller : AgentMarketIntent}
      (hengagement : s.engagements.get engagementId = some engagement)
      (hactive : engagement.status = .active)
      (hsource : status = .rejected ↔ sourceResultId.isSome)
      (hbuyer : s.intents.get engagement.buyerIntentId = some buyer)
      (hseller : s.intents.get engagement.sellerIntentId = some seller)
      (hclaims : Claims s (closeClaims engagementId sourceResultId) c) :
      Writes s (.closeEngagement engagementId status sourceResultId)
        (c.closeWith engagementId engagement status sourceResultId buyer seller)
  | deal {c : AgentDrivenMarket} {a : Acceptance} {engagement : AgentMarketEngagement}
      {buyer seller : AgentMarketIntent} {record : RequestRecord}
      (hengagement : s.engagements.get a.engagementId = some engagement)
      (hactive : engagement.status = .active)
      (hopposite : oppositeCounterparties a engagement = true)
      (hbuyer : s.intents.get engagement.buyerIntentId = some buyer)
      (hseller : s.intents.get engagement.sellerIntentId = some seller)
      (hrecord : s.requests.get engagement.requestId = some record)
      (hnone : s.deals.get (dealOf a engagement).dealId = none)
      (hprice : PriceOk a buyer seller record)
      (hclaims : Claims s
        (acceptanceClaims a (a.latestProposalResultId = record.request.sourceResultId)) c) :
      Writes s (.freezeDeal a) (c.addDeal a engagement)

/-- What a call gave back: a record of the market that is the one the call asks for. -/
inductive Recorded (s : AgentDrivenMarket) : MarketCall → Subject → Prop
  | intent {id : String} {intent : AgentMarketIntent} (hintent : s.intents.get id = some intent) :
      Recorded s (.publishIntent intent) (.intent intent)
  | requests {id : String} {record : RequestRecord} (hrecord : s.requests.get id = some record) :
      Recorded s (.submitRequests [record.request]) (.requests [record.request])
  | selected {id selectionResultId : String} {e : AgentMarketEngagement}
      (hidentifier : isIdentifier selectionResultId = true)
      (hselection : s.engagementBySelectionResult.get selectionResultId = some id)
      (hengagement : s.engagements.get id = some e) :
      Recorded s (.engageRequest e.sellerParticipantId e.requestId selectionResultId)
        (.engagement e)
  | closed {id : String} {e : AgentMarketEngagement} {status : CloseStatus}
      (hengagement : s.engagements.get id = some e) (hstatus : e.status = status.engagement) :
      Recorded s (.closeEngagement id status e.terminalSourceResultId) (.engagement e)
  | frozen {a : Acceptance} {d : AgentMarketDeal} (hidentifiers : checkIdentifiers a = .ok ())
      (hdistinct : a.latestProposalResultId ≠ a.acceptanceResultId)
      (hdeal : s.deals.get s!"deal:{a.engagementId}" = some d)
      (hproposal : d.latestProposalResultId = a.latestProposalResultId)
      (hacceptance : d.acceptanceResultId = a.acceptanceResultId)
      (hprice : d.unitPriceAtomic = a.unitPriceAtomic)
      (haccepter : d.acceptedByParticipantId = a.acceptedByParticipantId) :
      Recorded s (.freezeDeal a) (.deal d)

/-- A call that returned: it found its record, or it wrote one. -/
def Returns (s : AgentDrivenMarket) (call : MarketCall) (t : AgentDrivenMarket) (subject : Subject) :
    Prop :=
  (t = s ∨ Writes s call t) ∧ Recorded t call subject

theorem publishIntent_returns {intent intent' : AgentMarketIntent}
    (h : s.publishIntent intent = .ok (t, intent')) :
    Returns s (.publishIntent intent) t (.intent intent') := by
  unfold publishIntent at h
  split at h
  · rename_i existing hexisting
    obtain ⟨hsame, h⟩ := ok_of_guard h
    cases h
    obtain ⟨id, _, hid⟩ := Option.bind_eq_some_iff.mp hexisting
    rw [not_not.mp hsame] at hid ⊢
    exact ⟨Or.inl rfl, .intent hid⟩
  · rename_i hresult
    split at h
    · rename_i existing hexisting
      obtain ⟨hsame, h⟩ := ok_of_guard h
      cases h
      rw [not_not.mp hsame] at hexisting ⊢
      exact ⟨Or.inl rfl, .intent hexisting⟩
    · rename_i hfresh
      obtain ⟨_, h⟩ := ok_of_guard h
      obtain ⟨claimed, hclaim, h⟩ := ok_of_bind h
      cases h
      exact ⟨Or.inr (.publish hresult hfresh (claims_of_ok hclaim)),
        .intent (Dict.get_set_self _ _ _)⟩

/-- What the loop of `submit_requests` has checked of the request. -/
theorem checkRequest_ok {buyer : AgentMarketIntent} {targets : List String}
    {request : AgentNegotiationRequest}
    (hbuyer : s.intents.get request.buyerIntentId = some buyer)
    (h : s.checkRequest buyer targets request = .ok ()) :
    s.requests.get request.requestId = none ∧
      ∃ seller, Targets s buyer seller { request := request } ∧ seller.intentId ∉ targets := by
  unfold checkRequest at h
  split at h
  · split at h
    · cases h
    · cases h
  · rename_i hfresh
    obtain ⟨seller, hseller, h⟩ := ok_of_bind h
    obtain ⟨_, hvalid, h⟩ := ok_of_bind h
    obtain ⟨_, h⟩ := ok_of_guard h
    obtain ⟨_, h⟩ := ok_of_guard h
    obtain ⟨_, h⟩ := ok_of_guard h
    obtain ⟨hnew, _⟩ := ok_of_guard h
    exact ⟨hfresh, seller, ⟨hbuyer, requireIntent_ok hseller, counterparties_of_ok hvalid⟩,
      by simpa using hnew⟩

theorem submitRequests_returns {requests requests' : List AgentNegotiationRequest}
    (h : s.submitRequests requests = .ok (t, requests')) :
    Returns s (.submitRequests requests) t (.requests requests') := by
  unfold submitRequests at h
  split at h
  · rename_i request
    split at h
    · rename_i ids _
      dsimp only at h
      obtain ⟨hsame, h⟩ := ok_of_guard h
      cases h
      have hone : ids.filterMap (fun id => (s.requests.get id).map (·.request)) = [request] :=
        not_not.mp hsame
      have hmem : request ∈ ids.filterMap fun id => (s.requests.get id).map (·.request) := by
        rw [hone]
        exact List.mem_singleton_self _
      obtain ⟨id, _, hid⟩ := List.mem_filterMap.mp hmem
      obtain ⟨record, hrecord, rfl⟩ := Option.map_eq_some_iff.mp hid
      rw [hone]
      exact ⟨Or.inl rfl, .requests hrecord⟩
    · rename_i hresult
      obtain ⟨buyer, hbuyer, h⟩ := ok_of_bind h
      dsimp only at h
      obtain ⟨hresolved, h⟩ := ok_of_guard h
      obtain ⟨hbudget, h⟩ := ok_of_guard h
      obtain ⟨_, hcheck, h⟩ := ok_of_bind h
      obtain ⟨claimed, hclaim, h⟩ := ok_of_bind h
      cases h
      obtain ⟨hfresh, seller, htargets, hnew⟩ := checkRequest_ok (requireIntent_ok hbuyer) hcheck
      have hwritten : (claimed.addRequest ((s.requestTargetsByBuyer.get buyer.intentId).getD [])
          request).requests.get request.requestId = some { request := request } :=
        Dict.get_set_self _ _ _
      exact ⟨Or.inr (.request hresult hfresh htargets (by simpa using hresolved)
        (Nat.not_lt.mp hbudget) hnew (claims_of_ok hclaim)), .requests hwritten⟩
  · cases h

theorem raised_ok {α : Type} {x : Except String α} {a : α} (h : s.raised x = .ok a) :
    x = .ok a := by
  cases x with
  | error e => cases h
  | ok b => exact congrArg _ (Except.ok.inj h)

theorem raised_error {α : Type} {x : Except String α} {e : String × AgentDrivenMarket}
    (h : s.raised x = .error e) : e.2 = s ∧ x = .error e.1 := by
  cases x with
  | error m =>
      cases h
      exact ⟨rfl, rfl⟩
  | ok b => cases h

theorem isIdentifier_of_ok {value field : String} (h : requireIdentifier value field = .ok ()) :
    isIdentifier value = true := by
  unfold requireIdentifier at h
  split at h
  · assumption
  · cases h

theorem engageRequest_returns {actor requestId selectionResultId : String}
    {engagement : AgentMarketEngagement}
    (h : s.engageRequest actor requestId selectionResultId = .ok (t, engagement)) :
    Returns s (.engageRequest actor requestId selectionResultId) t (.engagement engagement) := by
  unfold engageRequest at h
  obtain ⟨_, hidentifier, h⟩ := ok_of_bind h
  have hidentifier := isIdentifier_of_ok (raised_ok hidentifier)
  split at h
  · rename_i existing hexisting
    obtain ⟨hsame, h⟩ := ok_of_guard h
    cases h
    obtain ⟨id, hid, hengagement⟩ := Option.bind_eq_some_iff.mp hexisting
    simp only [Bool.or_eq_true, decide_eq_true_eq, not_or, ne_eq, not_not] at hsame
    obtain ⟨rfl, rfl⟩ := hsame
    exact ⟨Or.inl rfl, .selected hidentifier hid hengagement⟩
  · rename_i hselection
    obtain ⟨record, hrecord, h⟩ := ok_of_bind h
    obtain ⟨hpending, h⟩ := ok_of_guard h
    obtain ⟨buyer, hbuyer, h⟩ := ok_of_bind h
    obtain ⟨seller, hseller, h⟩ := ok_of_bind h
    obtain ⟨hactor, h⟩ := ok_of_guard h
    obtain ⟨hfree, h⟩ := ok_of_guard h
    obtain ⟨claimed, hclaim, h⟩ := ok_of_bind h
    cases h
    simp only [Bool.or_eq_true, not_or, Bool.not_eq_true] at hfree
    refine ⟨Or.inr (.engage hselection (requireRequestRecord_ok (raised_ok hrecord))
      (not_not.mp hpending) (requireIntent_ok (raised_ok hbuyer))
      (requireIntent_ok (raised_ok hseller)) (not_not.mp hactor) (isReserved_eq_false hfree.1)
      (isReserved_eq_false hfree.2) (claims_of_ok (raised_ok hclaim))), ?_⟩
    obtain rfl := not_not.mp hactor
    exact .selected (e := engagementOf buyer seller requestId selectionResultId) hidentifier
      (Dict.get_set_self _ _ _) (Dict.get_set_self _ _ _)

/-- The errors of `_claim_results`. -/
theorem claimResults_error {claims : List (String × String × String)} {e : String}
    (h : s.claimResults claims = .error e) : e ≠ "counterparty_busy" := by
  rcases error_of_bind h with h | ⟨_, _, h⟩
  · obtain ⟨pending, claim, _, h⟩ := error_of_foldlM _ h
    unfold claimResult at h
    split at h
    · cases h
      decide
    · split at h
      · cases h
        decide
      · cases h
  · cases h

theorem requireIntent_error {intentId e : String} (h : s.requireIntent intentId = .error e) :
    e ≠ "counterparty_busy" := by
  unfold requireIntent at h
  split at h
  · cases h
  · cases h
    decide

theorem requireRequestRecord_error {requestId e : String}
    (h : s.requireRequestRecord requestId = .error e) : e ≠ "counterparty_busy" := by
  unfold requireRequestRecord at h
  split at h
  · cases h
  · cases h
    decide

theorem requireIdentifier_error {value e : String}
    (h : requireIdentifier value "selection_result_id" = .error e) : e ≠ "counterparty_busy" := by
  unfold requireIdentifier at h
  split at h
  · cases h
  · cases h
    decide

/-- An error, not the refusal of an engagement, that left the market as it was. -/
def Unchanged (s : AgentDrivenMarket) (e : String × AgentDrivenMarket) : Prop :=
  e.2 = s ∧ e.1 ≠ "counterparty_busy"

section Unchanged

variable {α β : Type} {e : String × AgentDrivenMarket} {P : Prop}

theorem unchanged_bind {x : Except String α} {f : α → Except (String × AgentDrivenMarket) β}
    (h : (s.raised x >>= f) = .error e) (hx : ∀ m, x = .error m → m ≠ "counterparty_busy")
    (hf : ∀ a, x = .ok a → f a = .error e → Unchanged s e ∨ P) : Unchanged s e ∨ P := by
  rcases error_of_bind h with h | ⟨a, ha, h⟩
  · obtain ⟨hsame, h⟩ := raised_error h
    exact Or.inl ⟨hsame, hx _ h⟩
  · exact hf a (raised_ok ha) h

theorem unchanged_guard {c : Prop} [Decidable c] {m : String}
    {x : Except (String × AgentDrivenMarket) β} (h : (if c then .error (m, s) else x) = .error e)
    (hm : m ≠ "counterparty_busy") (hx : ¬ c → x = .error e → Unchanged s e ∨ P) :
    Unchanged s e ∨ P := by
  by_cases hc : c
  · rw [if_pos hc] at h
    cases h
    exact Or.inl ⟨rfl, hm⟩
  · rw [if_neg hc] at h
    exact hx hc h

end Unchanged

/-- A request that `engage_request` marked busy. -/
structure Refused (s : AgentDrivenMarket) (requestId : String) (t : AgentDrivenMarket)
    (record : RequestRecord) : Prop where
  found : s.requests.get requestId = some record
  pending : record.status = .pending
  marked : t = s.markBusy requestId record

/-- An engagement that was refused leaves the market as it was, or its request busy. -/
theorem engageRequest_raises {actor requestId selectionResultId : String}
    {e : String × AgentDrivenMarket}
    (h : s.engageRequest actor requestId selectionResultId = .error e) :
    Unchanged s e ∨ (e.1 = "counterparty_busy" ∧
      Writes s (.engageRequest actor requestId selectionResultId) e.2 ∧
      ∃ record, Refused s requestId e.2 record) := by
  unfold engageRequest at h
  refine unchanged_bind h (fun _ => requireIdentifier_error) fun _ _ h => ?_
  split at h
  · refine unchanged_guard h (by decide) fun _ h => ?_
    cases h
  · refine unchanged_bind h (fun _ => requireRequestRecord_error) fun record hrecord h => ?_
    refine unchanged_guard h (by decide) fun hpending h => ?_
    refine unchanged_bind h (fun _ => requireIntent_error) fun buyer hbuyer h => ?_
    refine unchanged_bind h (fun _ => requireIntent_error) fun seller hseller h => ?_
    refine unchanged_guard h (by decide) fun _ h => ?_
    have hrecord := requireRequestRecord_ok hrecord
    split at h
    · rename_i htaken
      cases h
      exact Or.inr ⟨rfl, .busy hrecord (not_not.mp hpending) (requireIntent_ok hbuyer)
        (requireIntent_ok hseller) htaken, record, hrecord, not_not.mp hpending, rfl⟩
    · refine unchanged_bind h (fun _ => claimResults_error) fun _ _ h => ?_
      cases h

theorem closeEngagement_returns {engagementId : String} {status : CloseStatus}
    {sourceResultId : Option String} {engagement' : AgentMarketEngagement}
    (h : s.closeEngagement engagementId status sourceResultId = .ok (t, engagement')) :
    Returns s (.closeEngagement engagementId status sourceResultId) t
      (.engagement engagement') := by
  unfold closeEngagement at h
  obtain ⟨engagement, hengagement, h⟩ := ok_of_bind h
  have hengagement := requireEngagement_ok hengagement
  split at h
  · split at h
    · rename_i hsame
      cases h
      simp only [Bool.and_eq_true, decide_eq_true_eq] at hsame
      obtain ⟨hstatus, rfl⟩ := hsame
      exact ⟨Or.inl rfl, .closed hengagement hstatus⟩
    · cases h
  · rename_i hactive
    obtain ⟨hrejected, h⟩ := ok_of_guard h
    obtain ⟨htimedOut, h⟩ := ok_of_guard h
    obtain ⟨claimed, hclaim, h⟩ := ok_of_bind h
    have hclaims : Claims s (closeClaims engagementId sourceResultId) claimed := by
      split at hclaim
      · cases hclaim
        exact .nil s
      · obtain ⟨_, _, hclaim⟩ := ok_of_bind hclaim
        exact claims_of_ok hclaim
    have hsource : status = .rejected ↔ sourceResultId.isSome := by
      cases status <;> cases sourceResultId <;> simp_all
    dsimp only at h
    obtain ⟨released, hrelease, h⟩ := ok_of_bind h
    obtain ⟨buyer, hbuyer, hrelease⟩ := ok_of_bind hrelease
    obtain ⟨seller, hseller, hrelease⟩ := ok_of_bind hrelease
    cases hrelease
    cases h
    have hintents : claimed.intents = s.intents := by rw [hclaims.market]
    have hbuyer : claimed.intents.get engagement.buyerIntentId = some buyer :=
      requireIntent_ok (s := claimed) hbuyer
    have hseller : claimed.intents.get engagement.sellerIntentId = some seller :=
      requireIntent_ok (s := claimed) hseller
    refine ⟨Or.inr (.close hengagement (not_not.mp hactive) hsource (hintents ▸ hbuyer)
      (hintents ▸ hseller) hclaims), ?_⟩
    exact .closed (e := { engagement with
      status := status.engagement
      terminalSourceResultId := sourceResultId }) (Dict.get_set_self _ _ _) rfl

theorem freezeDeal_returns {a : Acceptance} {deal : AgentMarketDeal}
    (h : s.freezeDeal a = .ok (t, deal)) : Returns s (.freezeDeal a) t (.deal deal) := by
  unfold freezeDeal at h
  obtain ⟨_, hidentifiers, h⟩ := ok_of_bind h
  obtain ⟨hdistinct, h⟩ := ok_of_guard h
  obtain ⟨engagement, hengagement, h⟩ := ok_of_bind h
  split at h
  · rename_i existing hexisting
    obtain ⟨hsame, h⟩ := ok_of_guard h
    cases h
    simp only [Bool.or_eq_true, decide_eq_true_eq, not_or, ne_eq, not_not] at hsame
    exact ⟨Or.inl rfl, .frozen hidentifiers hdistinct hexisting hsame.1.1.1 hsame.1.1.2 hsame.1.2
      hsame.2⟩
  · rename_i hnone
    obtain ⟨hactive, h⟩ := ok_of_guard h
    obtain ⟨hopposite, h⟩ := ok_of_guard h
    obtain ⟨buyer, hbuyer, h⟩ := ok_of_bind h
    obtain ⟨seller, hseller, h⟩ := ok_of_bind h
    obtain ⟨record, hrecord, h⟩ := ok_of_bind h
    dsimp only at h
    obtain ⟨hopening, h⟩ := ok_of_guard h
    obtain ⟨hlimits, h⟩ := ok_of_guard h
    obtain ⟨claimed, hclaim, h⟩ := ok_of_bind h
    cases h
    simp only [Bool.and_eq_true, Bool.or_eq_true, decide_eq_true_eq, not_and, not_or, ne_eq,
      not_not, not_le, not_lt] at hopening hlimits
    have hprice : PriceOk a buyer seller record :=
      ⟨hlimits.1.1, hlimits.1.2, hlimits.2, hdistinct, hopening⟩
    refine ⟨Or.inr (.deal (requireEngagement_ok hengagement) (not_not.mp hactive)
      (by simpa using hopposite) (requireIntent_ok hbuyer) (requireIntent_ok hseller)
      (requireRequestRecord_ok hrecord) hnone hprice (claims_of_ok hclaim)), ?_⟩
    exact .frozen hidentifiers hdistinct (Dict.get_set_self _ _ _) rfl rfl rfl rfl

/-- **A call that returns gives back its record, which it found or wrote.** -/
theorem perform_returns {call : MarketCall} {subject : Subject}
    (h : s.perform call = .ok (t, subject)) : Returns s call t subject := by
  cases call with
  | publishIntent intent =>
      obtain ⟨_, hraised, h⟩ := ok_of_bind h
      cases h
      exact publishIntent_returns (raised_ok hraised)
  | submitRequests requests =>
      obtain ⟨_, hraised, h⟩ := ok_of_bind h
      cases h
      exact submitRequests_returns (raised_ok hraised)
  | engageRequest actor requestId selectionResultId =>
      obtain ⟨_, hengage, h⟩ := ok_of_bind h
      cases h
      exact engageRequest_returns hengage
  | closeEngagement engagementId status sourceResultId =>
      obtain ⟨_, hraised, h⟩ := ok_of_bind h
      cases h
      exact closeEngagement_returns (raised_ok hraised)
  | freezeDeal a =>
      obtain ⟨_, hraised, h⟩ := ok_of_bind h
      cases h
      exact freezeDeal_returns (raised_ok hraised)

/-- **A call that raises leaves the market as it was, or marks a request busy.** -/
theorem perform_raises {call : MarketCall} {e : String × AgentDrivenMarket}
    (h : s.perform call = .error e) : e.2 = s ∨ Writes s call e.2 := by
  cases call with
  | engageRequest actor requestId selectionResultId =>
      rcases error_of_bind h with h | ⟨_, _, h⟩
      · rcases engageRequest_raises h with hsame | ⟨_, hwrites, _⟩
        · exact Or.inl hsame.1
        · exact Or.inr hwrites
      · cases h
  | publishIntent _ | submitRequests _ | closeEngagement _ _ _ | freezeDeal _ =>
      rcases error_of_bind h with h | ⟨_, _, h⟩
      · exact Or.inl (raised_error h).1
      · cases h

/-- The market after a call is the one that the call returned or left behind. -/
theorem call_of_perform (s : AgentDrivenMarket) (call : MarketCall) :
    s.call call = match s.perform call with
      | .ok (t, _) => t
      | .error (_, t) => t := by
  cases call with
  | publishIntent intent =>
      simp only [call, perform]
      cases s.publishIntent intent with
      | ok r => rfl
      | error e => rfl
  | submitRequests requests =>
      simp only [call, perform]
      cases s.submitRequests requests with
      | ok r => rfl
      | error e => rfl
  | engageRequest actor requestId selectionResultId =>
      simp only [call, perform]
      cases s.engageRequest actor requestId selectionResultId with
      | ok r => rfl
      | error e => rfl
  | closeEngagement engagementId status sourceResultId =>
      simp only [call, perform]
      cases s.closeEngagement engagementId status sourceResultId with
      | ok r => rfl
      | error e => rfl
  | freezeDeal a =>
      simp only [call, perform]
      cases s.freezeDeal a with
      | ok r => rfl
      | error e => rfl

/-- Every call leaves the market as it was or writes. -/
theorem writes_call (s : AgentDrivenMarket) (call : MarketCall) :
    s.call call = s ∨ Writes s call (s.call call) := by
  rw [call_of_perform]
  cases h : s.perform call with
  | ok r => exact (perform_returns h).1
  | error e =>
      rcases perform_raises h with hsame | hwrites
      · exact Or.inl hsame
      · exact Or.inr hwrites

end AgentDrivenMarket

end Arena402.Game
