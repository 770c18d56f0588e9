/-
The protocol oracle of the agent-driven market.

`AgentDrivenMarket` holds one market in memory and is fed with the actions of Agents.  It
keeps a second copy of who is engaged, the map of reserved slots, and freezes each accepted
price as a deal.  A call that raises leaves the market as it was, except that a refused
engagement marks its request as busy.

The public directory is read in `MarketDirectory`; the inbox of a seller is left out.
-/
import Arena402.Lib.Dict
import Arena402.Game.Tables

namespace Arena402.Game

open Py

/-- `MAX_OUTBOUND_RFQ` -/
def maxOutboundRfq : Nat := 3

/-- `_require_identifier` passes. -/
def isIdentifier (value : String) : Bool :=
  !value.isEmpty && value.length ≤ 512

/-- `_require_identifier`. -/
def requireIdentifier (value field : String) : Except String Unit :=
  if isIdentifier value then .ok () else .error s!"{field} must be a non-empty bounded identifier"

/-- A text of 1 to 100 characters, not all of them white space. -/
def isVisibleText (value : String) : Bool :=
  !(strip value.toList).isEmpty && value.length ≤ 100

/-- `AgentMarketIntent`: its fields, and what `__post_init__` checks of them. -/
structure AgentMarketIntent where
  intentId : String
  sourceResultId : String
  gameId : String
  roundId : String
  participantId : String
  agentId : String
  displayName : String
  side : MarketSide
  good : String
  publicPriceAtomic : Int
  limitPriceAtomic : Int
  expiresAt : UtcDateTime
  publicMessage : Option String := none
  failedNegotiations : Int := 0
  quantity : Int := 1
  identifiers : ∀ value ∈ [intentId, sourceResultId, gameId, roundId, participantId, agentId],
    isIdentifier value = true
  nameVisible : isVisibleText displayName = true
  quantityOne : quantity = 1
  publicPositive : 0 < publicPriceAtomic
  limitPositive : 0 < limitPriceAtomic
  ceiling : side = .buy → publicPriceAtomic ≤ limitPriceAtomic
  floor : side = .sell → limitPriceAtomic ≤ publicPriceAtomic
  failedNonneg : 0 ≤ failedNegotiations
  messageVisible : ∀ m ∈ publicMessage, isVisibleText m = true
deriving DecidableEq

/-- `AgentNegotiationRequest`: its fields, and what `__post_init__` checks of them. -/
structure AgentNegotiationRequest where
  requestId : String
  sourceResultId : String
  buyerIntentId : String
  sellerIntentId : String
  openingPriceAtomic : Int
  publicMessage : String
  createdAt : UtcDateTime
  identifiers : ∀ value ∈ [requestId, sourceResultId, buyerIntentId, sellerIntentId],
    isIdentifier value = true
  openingPositive : 0 < openingPriceAtomic
  messageVisible : isVisibleText publicMessage = true
deriving DecidableEq

namespace AgentDrivenMarket

/-- Where a request is. -/
inductive RequestStatus
  | pending
  | engaged
  | rejected
  | counterpartyBusy
deriving DecidableEq, Repr

/-- Where an engagement is. -/
inductive EngagementStatus
  | active
  | acceptedPendingSettlement
  | rejected
  | timedOut
deriving DecidableEq, Repr

/-- The statuses `close_engagement` is called with. -/
inductive CloseStatus
  | rejected
  | timedOut
deriving DecidableEq, Repr

/-- The status that a close gives to the engagement. -/
def CloseStatus.engagement : CloseStatus → EngagementStatus
  | .rejected => .rejected
  | .timedOut => .timedOut

end AgentDrivenMarket

/-- A request that was taken up. -/
structure AgentMarketEngagement where
  engagementId : String
  negotiationId : String
  requestId : String
  buyerIntentId : String
  sellerIntentId : String
  buyerParticipantId : String
  sellerParticipantId : String
  good : String
  selectionResultId : String
  status : AgentDrivenMarket.EngagementStatus := .active
  terminalSourceResultId : Option String := none
deriving DecidableEq

/-- A deal, frozen with its terms. -/
structure AgentMarketDeal where
  dealId : String
  engagementId : String
  requestId : String
  buyerParticipantId : String
  sellerParticipantId : String
  good : String
  quantity : Int
  unitPriceAtomic : Int
  latestProposalResultId : String
  acceptanceResultId : String
  acceptedByParticipantId : String
deriving DecidableEq

/-- `_RequestRecord`. -/
structure RequestRecord where
  request : AgentNegotiationRequest
  status : AgentDrivenMarket.RequestStatus := .pending
  engagementId : Option String := none

/-- `(game_id, round_id, participant_id)`. -/
abbrev SlotKey := String × String × String

/-- The fields of `AgentDrivenMarket`, empty at first. -/
structure AgentDrivenMarket where
  maxOutbound : Nat := maxOutboundRfq
  resultClaims : Dict String (String × String) := []
  intents : Dict String AgentMarketIntent := []
  intentByParticipantRound : Dict SlotKey String := []
  intentByResult : Dict String String := []
  requests : Dict String RequestRecord := []
  requestIdsByResult : Dict String (List String) := []
  requestTargetsByBuyer : Dict String (List String) := []
  engagements : Dict String AgentMarketEngagement := []
  engagementBySelectionResult : Dict String String := []
  reservedSlots : Dict SlotKey String := []
  deals : Dict String AgentMarketDeal := []

namespace AgentDrivenMarket

/-- `_require_intent`. -/
def requireIntent (s : AgentDrivenMarket) (intentId : String) : Except String AgentMarketIntent :=
  match s.intents.get intentId with
  | some intent => .ok intent
  | none => .error "market intent not found"

/-- `_require_request_record`. -/
def requireRequestRecord (s : AgentDrivenMarket) (requestId : String) :
    Except String RequestRecord :=
  match s.requests.get requestId with
  | some record => .ok record
  | none => .error "negotiation request not found"

/-- `_require_engagement`. -/
def requireEngagement (s : AgentDrivenMarket) (engagementId : String) :
    Except String AgentMarketEngagement :=
  match s.engagements.get engagementId with
  | some engagement => .ok engagement
  | none => .error "engagement not found"

/-- `_slot_key`. -/
def slotKey (intent : AgentMarketIntent) : SlotKey :=
  (intent.gameId, intent.roundId, intent.participantId)

/-- `_is_reserved`. -/
def isReserved (s : AgentDrivenMarket) (intent : AgentMarketIntent) : Bool :=
  (s.reservedSlots.get (slotKey intent)).isSome

/-- `_validate_counterparties`. -/
def validateCounterparties (buyer seller : AgentMarketIntent) : Except String Unit :=
  if buyer.side ≠ .buy || seller.side ≠ .sell then
    .error "RFQ must target buy and sell intents"
  else if buyer.participantId = seller.participantId then
    .error "a Participant cannot negotiate with itself"
  else if buyer.gameId ≠ seller.gameId || buyer.roundId ≠ seller.roundId then
    .error "counterparty intents must share one Game round"
  else if buyer.good ≠ seller.good || buyer.quantity ≠ seller.quantity then
    .error "counterparty intents must share good and quantity"
  else if buyer.limitPriceAtomic < seller.limitPriceAtomic then
    .error "counterparty private limits do not overlap"
  else .ok ()

/-- One claim of `_claim_results`, after the claims in `pending`. -/
def claimResult (s : AgentDrivenMarket) (pending : Dict String (String × String))
    (c : String × String × String) : Except String (Dict String (String × String)) :=
  if (pending.get c.1).any (· ≠ c.2) then
    .error "one source Result cannot author multiple market actions"
  else if (s.resultClaims.get c.1).any (· ≠ c.2) then
    .error "source Result already authored another market action"
  else .ok (pending.set c.1 c.2)

/-- `_claim_results`. -/
def claimResults (s : AgentDrivenMarket) (claims : List (String × String × String)) :
    Except String AgentDrivenMarket := do
  let pending ← claims.foldlM s.claimResult []
  return { s with resultClaims := pending.foldl (fun d e => d.set e.1 e.2) s.resultClaims }

/-! ### Intents and requests -/

/-- `publish_intent`. -/
def publishIntent (s : AgentDrivenMarket) (intent : AgentMarketIntent) :
    Except String (AgentDrivenMarket × AgentMarketIntent) :=
  match (s.intentByResult.get intent.sourceResultId).bind s.intents.get with
  | some existing =>
    if existing ≠ intent then .error "source Result already published another intent"
    else .ok (s, existing)
  | none =>
    match s.intents.get intent.intentId with
    | some existing =>
      if existing ≠ intent then .error "intent ID already exists with another payload"
      else .ok (s, existing)
    | none =>
      if (s.intentByParticipantRound.get (slotKey intent)).isSome then
        .error "Participant already published a round intent"
      else do
        let s ← s.claimResults [(intent.sourceResultId, "intent", intent.intentId)]
        return ({ s with
          intents := s.intents.set intent.intentId intent
          intentByResult := s.intentByResult.set intent.sourceResultId intent.intentId
          intentByParticipantRound :=
            s.intentByParticipantRound.set (slotKey intent) intent.intentId }, intent)

/-- A buyer with a request that is pending or engaged. -/
def hasUnresolvedRfq (s : AgentDrivenMarket) (buyerIntentId : String) : Bool :=
  s.requests.values.any fun record => record.request.buyerIntentId = buyerIntentId &&
    (record.status = .pending || record.status = .engaged)

/-- The checks of the loop of `submit_requests`. -/
def checkRequest (s : AgentDrivenMarket) (buyer : AgentMarketIntent) (targets : List String)
    (request : AgentNegotiationRequest) : Except String Unit :=
  match s.requests.get request.requestId with
  | some existing =>
    if existing.request ≠ request then .error "request ID already exists with another payload"
    else .error "request ID belongs to another source Result"
  | none => do
    let seller ← s.requireIntent request.sellerIntentId
    validateCounterparties buyer seller
    if buyer.expiresAt ≤ request.createdAt || seller.expiresAt ≤ request.createdAt then
      .error "RFQ targets an expired intent"
    else if buyer.limitPriceAtomic < request.openingPriceAtomic then
      .error "opening price exceeds the buyer private ceiling"
    else if s.isReserved buyer || s.isReserved seller then .error "counterparty_busy"
    else if targets.contains seller.intentId then
      .error "buyer already requested this seller intent"
    else .ok ()

/-- The writes of `submit_requests`. -/
def addRequest (s : AgentDrivenMarket) (targets : List String)
    (request : AgentNegotiationRequest) : AgentDrivenMarket :=
  { s with
    requests := s.requests.set request.requestId { request := request }
    requestTargetsByBuyer :=
      s.requestTargetsByBuyer.set request.buyerIntentId (targets.insert request.sellerIntentId)
    requestIdsByResult := s.requestIdsByResult.set request.sourceResultId [request.requestId] }

/-- `submit_requests`.  A batch has one request, so its other checks on the batch hold. -/
def submitRequests (s : AgentDrivenMarket) (requests : List AgentNegotiationRequest) :
    Except String (AgentDrivenMarket × List AgentNegotiationRequest) :=
  match requests with
  | [request] =>
    match s.requestIdsByResult.get request.sourceResultId with
    | some existingIds =>
      let existing := existingIds.filterMap fun id => (s.requests.get id).map (·.request)
      if existing ≠ [request] then .error "source Result already submitted another RFQ batch"
      else .ok (s, existing)
    | none => do
      let buyer ← s.requireIntent request.buyerIntentId
      let targets := (s.requestTargetsByBuyer.get buyer.intentId).getD []
      if s.hasUnresolvedRfq buyer.intentId then .error "buyer has an unresolved RFQ"
      else if s.maxOutbound < targets.length + 1 then
        .error "buyer exhausted the outbound RFQ budget"
      else do
        s.checkRequest buyer targets request
        let s ← s.claimResults [(request.sourceResultId, "rfq",
          s!"rfq-batch:{request.sourceResultId}")]
        return (s.addRequest targets request, [request])
  | _ => .error "one RFQ Task must target exactly one seller"

/-! ### Engagements -/

/-- The engagement of a request. -/
def engagementOf (buyer seller : AgentMarketIntent) (requestId selectionResultId : String) :
    AgentMarketEngagement where
  engagementId := s!"engagement:{requestId}"
  negotiationId := s!"negotiation:{requestId}"
  requestId := requestId
  buyerIntentId := buyer.intentId
  sellerIntentId := seller.intentId
  buyerParticipantId := buyer.participantId
  sellerParticipantId := seller.participantId
  good := buyer.good
  selectionResultId := selectionResultId

/-- A request whose buyer or seller is taken. -/
def markBusy (s : AgentDrivenMarket) (requestId : String) (record : RequestRecord) :
    AgentDrivenMarket :=
  { s with requests := s.requests.set requestId { record with status := .counterpartyBusy } }

/-- The writes of `engage_request`. -/
def addEngagement (s : AgentDrivenMarket) (buyer seller : AgentMarketIntent)
    (record : RequestRecord) (engagement : AgentMarketEngagement) : AgentDrivenMarket :=
  { s with
    engagements := s.engagements.set engagement.engagementId engagement
    engagementBySelectionResult :=
      s.engagementBySelectionResult.set engagement.selectionResultId engagement.engagementId
    reservedSlots := (s.reservedSlots.set (slotKey buyer) engagement.engagementId).set
      (slotKey seller) engagement.engagementId
    requests := s.requests.set engagement.requestId { record with
      status := .engaged
      engagementId := some engagement.engagementId } }

/-- A raised error that left the market as it was. -/
def raised {α : Type} (s : AgentDrivenMarket) (x : Except String α) :
    Except (String × AgentDrivenMarket) α :=
  x.mapError fun e => (e, s)

/-- `engage_request`.  An error comes with the market it leaves behind. -/
def engageRequest (s : AgentDrivenMarket) (actorParticipantId requestId selectionResultId : String) :
    Except (String × AgentDrivenMarket) (AgentDrivenMarket × AgentMarketEngagement) := do
  s.raised (requireIdentifier selectionResultId "selection_result_id")
  match (s.engagementBySelectionResult.get selectionResultId).bind s.engagements.get with
  | some engagement =>
    if engagement.requestId ≠ requestId || engagement.sellerParticipantId ≠ actorParticipantId then
      .error ("selection Result already engaged another request", s)
    else .ok (s, engagement)
  | none => do
    let record ← s.raised (s.requireRequestRecord requestId)
    if record.status ≠ .pending then .error ("request is no longer pending", s)
    else do
      let buyer ← s.raised (s.requireIntent record.request.buyerIntentId)
      let seller ← s.raised (s.requireIntent record.request.sellerIntentId)
      if seller.participantId ≠ actorParticipantId then
        .error ("only the target seller Agent can engage an RFQ", s)
      else if s.isReserved buyer || s.isReserved seller then
        .error ("counterparty_busy", s.markBusy requestId record)
      else do
        let engagement := engagementOf buyer seller requestId selectionResultId
        let s ← s.raised (s.claimResults [(selectionResultId, "engage", engagement.engagementId)])
        return (s.addEngagement buyer seller record engagement, engagement)

/-- One slot of `_release_slots`. -/
def releaseSlot (engagementId : String) (slots : Dict SlotKey String) (slot : SlotKey) :
    Dict SlotKey String :=
  if slots.get slot = some engagementId then slots.erase slot else slots

/-- `_release_slots`. -/
def releaseSlots (s : AgentDrivenMarket) (engagement : AgentMarketEngagement) :
    Except String AgentDrivenMarket := do
  let buyer ← s.requireIntent engagement.buyerIntentId
  let seller ← s.requireIntent engagement.sellerIntentId
  return { s with
    reservedSlots := [slotKey buyer, slotKey seller].foldl
      (releaseSlot engagement.engagementId) s.reservedSlots }

/-- The status of the request of an engagement that ends without a deal. -/
def rejectRequest (s : AgentDrivenMarket) (requestId : String) : AgentDrivenMarket :=
  { s with
    requests := s.requests.update (fun id _ => id = requestId)
      fun record => { record with status := .rejected } }

/-- `close_engagement`. -/
def closeEngagement (s : AgentDrivenMarket) (engagementId : String) (status : CloseStatus)
    (sourceResultId : Option String) : Except String (AgentDrivenMarket × AgentMarketEngagement) := do
  let engagement ← s.requireEngagement engagementId
  if engagement.status ≠ .active then
    if engagement.status = status.engagement && engagement.terminalSourceResultId = sourceResultId
    then .ok (s, engagement)
    else .error "engagement is already terminal"
  else if status = .rejected && sourceResultId.isNone then
    .error "Agent rejection requires a source Result"
  else if status = .timedOut && sourceResultId.isSome then
    .error "timeout must come from the Arena Finalizer"
  else do
    let s ← (match sourceResultId with
      | none => .ok s
      | some resultId => do
        requireIdentifier resultId "source_result_id"
        s.claimResults [(resultId, "reject", engagementId)])
    let closed : AgentMarketEngagement := { engagement with
      status := status.engagement
      terminalSourceResultId := sourceResultId }
    let s : AgentDrivenMarket := { s with engagements := s.engagements.set engagementId closed }
    let s ← (s.rejectRequest engagement.requestId).releaseSlots engagement
    return (s, closed)

/-! ### Deals -/

/-- The arguments of `freeze_deal`. -/
structure Acceptance where
  engagementId : String
  latestProposalResultId : String
  latestProposalActorId : String
  acceptanceResultId : String
  acceptedByParticipantId : String
  unitPriceAtomic : Int

/-- The identifiers of an acceptance, in the order in which they are checked. -/
def checkIdentifiers (a : Acceptance) : Except String Unit := do
  requireIdentifier a.latestProposalResultId "latest_proposal_result_id"
  requireIdentifier a.latestProposalActorId "latest_proposal_actor_id"
  requireIdentifier a.acceptanceResultId "acceptance_result_id"
  requireIdentifier a.acceptedByParticipantId "accepted_by_participant_id"

/-- `{actor, accepter} == {buyer, seller}`. -/
def oppositeCounterparties (a : Acceptance) (engagement : AgentMarketEngagement) : Bool :=
  (({a.latestProposalActorId, a.acceptedByParticipantId} : Finset String) =
    {engagement.buyerParticipantId, engagement.sellerParticipantId})

/-- The result claims of an acceptance; a binding opening was claimed by its RFQ. -/
def acceptanceClaims (a : Acceptance) (bindingOpening : Bool) : List (String × String × String) :=
  (if bindingOpening then [] else [(a.latestProposalResultId, "proposal", a.engagementId)]) ++
    [(a.acceptanceResultId, "acceptance", a.engagementId)]

/-- The deal of an acceptance. -/
def dealOf (a : Acceptance) (engagement : AgentMarketEngagement) : AgentMarketDeal where
  dealId := s!"deal:{a.engagementId}"
  engagementId := a.engagementId
  requestId := engagement.requestId
  buyerParticipantId := engagement.buyerParticipantId
  sellerParticipantId := engagement.sellerParticipantId
  good := engagement.good
  quantity := 1
  unitPriceAtomic := a.unitPriceAtomic
  latestProposalResultId := a.latestProposalResultId
  acceptanceResultId := a.acceptanceResultId
  acceptedByParticipantId := a.acceptedByParticipantId

/-- The writes of `freeze_deal`. -/
def addDeal (s : AgentDrivenMarket) (a : Acceptance) (engagement : AgentMarketEngagement) :
    AgentDrivenMarket :=
  { s with
    deals := s.deals.set (dealOf a engagement).dealId (dealOf a engagement)
    engagements := s.engagements.set a.engagementId { engagement with
      status := .acceptedPendingSettlement
      terminalSourceResultId := some a.acceptanceResultId } }

/-- `freeze_deal`. -/
def freezeDeal (s : AgentDrivenMarket) (a : Acceptance) :
    Except String (AgentDrivenMarket × AgentMarketDeal) := do
  checkIdentifiers a
  if a.latestProposalResultId = a.acceptanceResultId then
    .error "proposal and acceptance require distinct Results"
  else do
    let engagement ← s.requireEngagement a.engagementId
    match s.deals.get s!"deal:{a.engagementId}" with
    | some existing =>
      if existing.latestProposalResultId ≠ a.latestProposalResultId ||
          existing.acceptanceResultId ≠ a.acceptanceResultId ||
          existing.unitPriceAtomic ≠ a.unitPriceAtomic ||
          existing.acceptedByParticipantId ≠ a.acceptedByParticipantId then
        .error "Deal is immutable"
      else .ok (s, existing)
    | none =>
      if engagement.status ≠ .active then .error "only an active engagement can freeze a Deal"
      else if !oppositeCounterparties a engagement then
        .error "proposal and acceptance must come from opposite counterparties"
      else do
        let buyer ← s.requireIntent engagement.buyerIntentId
        let seller ← s.requireIntent engagement.sellerIntentId
        let record ← s.requireRequestRecord engagement.requestId
        let bindingOpening : Bool := a.latestProposalResultId = record.request.sourceResultId
        if bindingOpening && (a.latestProposalActorId ≠ buyer.participantId ||
            a.unitPriceAtomic ≠ record.request.openingPriceAtomic) then
          .error "binding RFQ proposal must preserve its buyer and opening price"
        else if a.unitPriceAtomic ≤ 0 || buyer.limitPriceAtomic < a.unitPriceAtomic ||
            a.unitPriceAtomic < seller.limitPriceAtomic then
          .error "accepted price violates a private hard limit"
        else do
          let s ← s.claimResults (acceptanceClaims a bindingOpening)
          return (s.addDeal a engagement, dealOf a engagement)

/-! ### Sequences of calls -/

/-- A call of one of the operations. -/
inductive MarketCall
  | publishIntent (intent : AgentMarketIntent)
  | submitRequests (requests : List AgentNegotiationRequest)
  | engageRequest (actorParticipantId requestId selectionResultId : String)
  | closeEngagement (engagementId : String) (status : CloseStatus) (sourceResultId : Option String)
  | freezeDeal (a : Acceptance)

/-- The market after a call that leaves it as it was when it raises. -/
def settled {α : Type} (s : AgentDrivenMarket) (x : Except String (AgentDrivenMarket × α)) :
    AgentDrivenMarket :=
  match x with
  | .ok (s', _) => s'
  | .error _ => s

/-- The market after a call, whether it raised or not. -/
def call (s : AgentDrivenMarket) : MarketCall → AgentDrivenMarket
  | .publishIntent intent => s.settled (s.publishIntent intent)
  | .submitRequests requests => s.settled (s.submitRequests requests)
  | .engageRequest actorParticipantId requestId selectionResultId =>
    match s.engageRequest actorParticipantId requestId selectionResultId with
    | .ok (s', _) => s'
    | .error (_, s') => s'
  | .closeEngagement engagementId status sourceResultId =>
    s.settled (s.closeEngagement engagementId status sourceResultId)
  | .freezeDeal a => s.settled (s.freezeDeal a)

/-- The market after a sequence of calls. -/
def calls (s : AgentDrivenMarket) (l : List MarketCall) : AgentDrivenMarket :=
  l.foldl call s

/-- What a call returns. -/
inductive Subject
  | intent (intent : AgentMarketIntent)
  | requests (requests : List AgentNegotiationRequest)
  | engagement (engagement : AgentMarketEngagement)
  | deal (deal : AgentMarketDeal)
deriving DecidableEq

/-- A call with what it returns; an error comes with the market it leaves behind. -/
def perform (s : AgentDrivenMarket) :
    MarketCall → Except (String × AgentDrivenMarket) (AgentDrivenMarket × Subject)
  | .publishIntent intent => do
    let (t, intent) ← s.raised (s.publishIntent intent)
    return (t, .intent intent)
  | .submitRequests requests => do
    let (t, requests) ← s.raised (s.submitRequests requests)
    return (t, .requests requests)
  | .engageRequest actorParticipantId requestId selectionResultId => do
    let (t, engagement) ← s.engageRequest actorParticipantId requestId selectionResultId
    return (t, .engagement engagement)
  | .closeEngagement engagementId status sourceResultId => do
    let (t, engagement) ← s.raised (s.closeEngagement engagementId status sourceResultId)
    return (t, .engagement engagement)
  | .freezeDeal a => do
    let (t, deal) ← s.raised (s.freezeDeal a)
    return (t, .deal deal)

end AgentDrivenMarket

end Arena402.Game
