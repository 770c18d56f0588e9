/-
The agent-driven market as the object that its methods write.

`Game/A2aMarket.lean` says what a call makes of the market as a whole.  Here the five
operations are translated statement by statement, so that a call which raises shows what it
has written until then: the reads of a dictionary that may raise, the claims before the rows
that rest on them, and the slots that are released last.
-/
import Arena402.Lib.Method
import Arena402.Game.A2aMarket

namespace Arena402.Game

namespace AgentDrivenMarket

open Py

/-- `d[key]`. -/
def item {κ α : Type} [DecidableEq κ] (d : Dict κ α) (key : κ) : Except String α :=
  match d.get key with
  | some value => .ok value
  | none => .error "KeyError"

namespace InPlace

/-- `_claim_results`. -/
def claimResults (claims : List (String × String × String)) : Method AgentDrivenMarket Unit := do
  let self ← get
  let pending ← Method.check (claims.foldlM self.claimResult [])
  modify fun s => { s with
    resultClaims := pending.foldl (fun d e => d.set e.1 e.2) s.resultClaims }

/-- `publish_intent`. -/
def publishIntent (intent : AgentMarketIntent) : Method AgentDrivenMarket AgentMarketIntent := do
  let self ← get
  match self.intentByResult.get intent.sourceResultId with
  | some existingId => do
    let existing ← Method.check (item self.intents existingId)
    if existing ≠ intent then throw "source Result already published another intent"
    else pure existing
  | none =>
    match self.intents.get intent.intentId with
    | some existing =>
      if existing ≠ intent then throw "intent ID already exists with another payload"
      else pure existing
    | none =>
      if (self.intentByParticipantRound.get (slotKey intent)).isSome then
        throw "Participant already published a round intent"
      else do
        claimResults [(intent.sourceResultId, "intent", intent.intentId)]
        modify fun s => { s with intents := s.intents.set intent.intentId intent }
        modify fun s => { s with
          intentByResult := s.intentByResult.set intent.sourceResultId intent.intentId }
        modify fun s => { s with
          intentByParticipantRound :=
            s.intentByParticipantRound.set (slotKey intent) intent.intentId }
        pure intent

/-- `submit_requests`. -/
def submitRequests (requests : List AgentNegotiationRequest) :
    Method AgentDrivenMarket (List AgentNegotiationRequest) := do
  match requests with
  | [request] => do
    let self ← get
    match self.requestIdsByResult.get request.sourceResultId with
    | some existingIds => do
      let existing ← Method.check (existingIds.mapM fun id => item self.requests id)
      if existing.map (·.request) ≠ [request] then
        throw "source Result already submitted another RFQ batch"
      else pure (existing.map (·.request))
    | none => do
      let buyer ← Method.check (self.requireIntent request.buyerIntentId)
      if self.hasUnresolvedRfq buyer.intentId then throw "buyer has an unresolved RFQ"
      else
        let targets := (self.requestTargetsByBuyer.get buyer.intentId).getD []
        if self.maxOutbound < targets.length + 1 then
          throw "buyer exhausted the outbound RFQ budget"
        else do
          let _ ← Method.check (self.checkRequest buyer targets request)
          claimResults [(request.sourceResultId, "rfq", s!"rfq-batch:{request.sourceResultId}")]
          modify fun s => { s with
            requests := s.requests.set request.requestId { request := request } }
          modify fun s => { s with
            requestTargetsByBuyer := s.requestTargetsByBuyer.set buyer.intentId
              (targets.insert request.sellerIntentId) }
          modify fun s => { s with
            requestIdsByResult := s.requestIdsByResult.set request.sourceResultId
              [request.requestId] }
          pure [request]
  | _ => throw "one RFQ Task must target exactly one seller"

/-- `engage_request`. -/
def engageRequest (actorParticipantId requestId selectionResultId : String) :
    Method AgentDrivenMarket AgentMarketEngagement := do
  let _ ← Method.check (requireIdentifier selectionResultId "selection_result_id")
  let self ← get
  match self.engagementBySelectionResult.get selectionResultId with
  | some selectedEngagementId => do
    let engagement ← Method.check (item self.engagements selectedEngagementId)
    if engagement.requestId ≠ requestId || engagement.sellerParticipantId ≠ actorParticipantId then
      throw "selection Result already engaged another request"
    else pure engagement
  | none => do
    let record ← Method.check (self.requireRequestRecord requestId)
    if record.status ≠ .pending then throw "request is no longer pending"
    else do
      let buyer ← Method.check (self.requireIntent record.request.buyerIntentId)
      let seller ← Method.check (self.requireIntent record.request.sellerIntentId)
      if seller.participantId ≠ actorParticipantId then
        throw "only the target seller Agent can engage an RFQ"
      else if self.isReserved buyer || self.isReserved seller then do
        modify fun s => { s with
          requests := s.requests.set requestId { record with status := .counterpartyBusy } }
        throw "counterparty_busy"
      else do
        let engagement := engagementOf buyer seller requestId selectionResultId
        claimResults [(selectionResultId, "engage", engagement.engagementId)]
        modify fun s => { s with
          engagements := s.engagements.set engagement.engagementId engagement }
        modify fun s => { s with
          engagementBySelectionResult :=
            s.engagementBySelectionResult.set selectionResultId engagement.engagementId }
        modify fun s => { s with
          reservedSlots := s.reservedSlots.set (slotKey buyer) engagement.engagementId }
        modify fun s => { s with
          reservedSlots := s.reservedSlots.set (slotKey seller) engagement.engagementId }
        modify fun s => { s with
          requests := s.requests.set requestId { record with status := .engaged } }
        modify fun s => { s with
          requests := s.requests.set requestId { record with
            status := .engaged
            engagementId := some engagement.engagementId } }
        pure engagement

/-- `_release_slots`. -/
def releaseSlots (engagement : AgentMarketEngagement) : Method AgentDrivenMarket Unit := do
  let self ← get
  let buyer ← Method.check (self.requireIntent engagement.buyerIntentId)
  let seller ← Method.check (self.requireIntent engagement.sellerIntentId)
  modify fun s => { s with
    reservedSlots := releaseSlot engagement.engagementId s.reservedSlots (slotKey buyer) }
  modify fun s => { s with
    reservedSlots := releaseSlot engagement.engagementId s.reservedSlots (slotKey seller) }

/-- The result of a rejection is claimed; a timeout has none. -/
def claimRejection (engagementId : String) : Option String → Method AgentDrivenMarket Unit
  | none => pure ()
  | some resultId => do
    let _ ← Method.check (requireIdentifier resultId "source_result_id")
    claimResults [(resultId, "reject", engagementId)]

/-- The writes of `close_engagement`, with the read of the request between them. -/
def writeClosed (engagementId : String) (engagement closed : AgentMarketEngagement) :
    Method AgentDrivenMarket Unit := do
  modify fun s => { s with engagements := s.engagements.set engagementId closed }
  let self ← get
  let record ← Method.check (item self.requests engagement.requestId)
  modify fun s => { s with
    requests := s.requests.set engagement.requestId { record with status := .rejected } }
  releaseSlots engagement

/-- `close_engagement`. -/
def closeEngagement (engagementId : String) (status : CloseStatus)
    (sourceResultId : Option String) : Method AgentDrivenMarket AgentMarketEngagement := do
  let self ← get
  let engagement ← Method.check (self.requireEngagement engagementId)
  if engagement.status ≠ .active then
    if engagement.status = status.engagement && engagement.terminalSourceResultId = sourceResultId
    then pure engagement
    else throw "engagement is already terminal"
  else if status = .rejected && sourceResultId.isNone then
    throw "Agent rejection requires a source Result"
  else if status = .timedOut && sourceResultId.isSome then
    throw "timeout must come from the Arena Finalizer"
  else do
    claimRejection engagementId sourceResultId
    let closed : AgentMarketEngagement := { engagement with
      status := status.engagement
      terminalSourceResultId := sourceResultId }
    writeClosed engagementId engagement closed
    pure closed

/-- `freeze_deal`. -/
def freezeDeal (a : Acceptance) : Method AgentDrivenMarket AgentMarketDeal := do
  let _ ← Method.check (checkIdentifiers a)
  if a.latestProposalResultId = a.acceptanceResultId then
    throw "proposal and acceptance require distinct Results"
  else do
    let self ← get
    let engagement ← Method.check (self.requireEngagement a.engagementId)
    match self.deals.get s!"deal:{a.engagementId}" with
    | some existing =>
      if existing.latestProposalResultId ≠ a.latestProposalResultId ||
          existing.acceptanceResultId ≠ a.acceptanceResultId ||
          existing.unitPriceAtomic ≠ a.unitPriceAtomic ||
          existing.acceptedByParticipantId ≠ a.acceptedByParticipantId then
        throw "Deal is immutable"
      else pure existing
    | none =>
      if engagement.status ≠ .active then throw "only an active engagement can freeze a Deal"
      else if !oppositeCounterparties a engagement then
        throw "proposal and acceptance must come from opposite counterparties"
      else do
        let buyer ← Method.check (self.requireIntent engagement.buyerIntentId)
        let seller ← Method.check (self.requireIntent engagement.sellerIntentId)
        let record ← Method.check (self.requireRequestRecord engagement.requestId)
        let bindingOpening : Bool := a.latestProposalResultId = record.request.sourceResultId
        if bindingOpening && (a.latestProposalActorId ≠ buyer.participantId ||
            a.unitPriceAtomic ≠ record.request.openingPriceAtomic) then
          throw "binding RFQ proposal must preserve its buyer and opening price"
        else if a.unitPriceAtomic ≤ 0 || buyer.limitPriceAtomic < a.unitPriceAtomic ||
            a.unitPriceAtomic < seller.limitPriceAtomic then
          throw "accepted price violates a private hard limit"
        else do
          claimResults (acceptanceClaims a bindingOpening)
          let deal := dealOf a engagement
          modify fun s => { s with deals := s.deals.set deal.dealId deal }
          modify fun s => { s with
            engagements := s.engagements.set a.engagementId { engagement with
              status := .acceptedPendingSettlement
              terminalSourceResultId := some a.acceptanceResultId } }
          pure deal

end InPlace

/-- A call as a method. -/
def MarketCall.method : MarketCall → Method AgentDrivenMarket Subject
  | .publishIntent intent => do
    let intent ← InPlace.publishIntent intent
    pure (.intent intent)
  | .submitRequests requests => do
    let requests ← InPlace.submitRequests requests
    pure (.requests requests)
  | .engageRequest actorParticipantId requestId selectionResultId => do
    let engagement ← InPlace.engageRequest actorParticipantId requestId selectionResultId
    pure (.engagement engagement)
  | .closeEngagement engagementId status sourceResultId => do
    let engagement ← InPlace.closeEngagement engagementId status sourceResultId
    pure (.engagement engagement)
  | .freezeDeal a => do
    let deal ← InPlace.freezeDeal a
    pure (.deal deal)

/-- The market after a sequence of calls that write in place, whether they raised or not. -/
def callsInPlace (s : AgentDrivenMarket) (l : List MarketCall) : AgentDrivenMarket :=
  l.foldl (fun s call => call.method.after s) s

end AgentDrivenMarket

end Arena402.Game
