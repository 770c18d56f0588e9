/-
The turns of a negotiation, and what its end does to the market and to the settlement.

`applyHostedNegotiationAction` is one transaction: the machine is rebuilt from the stored
messages, takes the turn, and a terminal status is carried on to the pairing, the
engagement, the slots and the intents.  An accepted price is frozen into a settlement
intent in the same transaction.
-/
import Arena402.Game.Contexts

namespace Arena402.Game

open Py

/-- The text of a rejection that Arena makes for an agent. -/
def outsideLimitMessage : PublicMessage where
  text := "The proposed price is outside my limit."
  minLength := by decide
  maxLength := by decide
  visible := by decide

namespace Pawnhouse

/-- `gold(str(price))`. -/
def goldOf (price : PositiveFixedDecimal) : Except String Nat :=
  match gold (.text (Decimal.str price.value)) with
  | .ok n => .ok n
  | .error e => .error e.message

/-! ### The end of a negotiation on the market -/

/-- `_claim_market_negotiation_result_locked`. -/
def claimNegotiationResult (s : Pawnhouse) (core : ArenaCore) (resultId : String)
    (row : ResultApplication) : Except String Pawnhouse :=
  if (core.results.get resultId).isNone then .error "agent_market_negotiation_result_invalid"
  else
    match s.resultApplications.get resultId with
    | some existing =>
      if existing = row then .ok s else .error "agent_market_negotiation_result_invalid"
    | none =>
      if s.resultApplications.values.any fun r =>
          r.actionKind = row.actionKind && r.actionId = row.actionId then
        .error "unique_violation"
      else .ok { s with resultApplications := s.resultApplications.set resultId row }

/-- The participant of a negotiation in a role. -/
def Engagement.participantIn (e : Engagement) : Role → String
  | .buyer => e.buyerParticipantId
  | .seller => e.sellerParticipantId

/-- `UPDATE market_engagements SET status = .. WHERE negotiation_id = .. AND status = ..`. -/
def moveEngagement (s : Pawnhouse) (negotiationId : String) (old new : DealStatus) : Pawnhouse :=
  { s with
    engagements := s.engagements.update
      (fun _ e => e.negotiationId = negotiationId && e.status = old)
      fun e => { e with status := new } }

/-- The slots that an engagement has reserved. -/
def moveSlots (s : Pawnhouse) (engagementId : String) (slot : Slot) : Pawnhouse :=
  { s with
    slots := s.slots.update
      (fun _ x => x.engagementId = some engagementId && x.status = .reserved) fun _ => slot }

/-- `UPDATE market_rfq_sessions SET status = .. WHERE .. AND status = 'active'`. -/
def closeSession (s : Pawnhouse) (buyerIntentId : String) (status : SessionStatus) : Pawnhouse :=
  { s with
    sessions := s.sessions.update (fun id row => id = buyerIntentId && row.status = .active)
      fun row => { row with status := status } }

/-- The deal of an accepted negotiation. -/
def dealRow (engagementId : String) (e : Engagement) (price : Nat)
    (proposal acceptance : NegotiationMessage) (isRfq : Bool) : MarketDeal where
  engagementId := engagementId
  requestId := e.requestId
  roundId := e.roundId
  buyerParticipantId := e.buyerParticipantId
  sellerParticipantId := e.sellerParticipantId
  goodId := e.goodId
  unitPriceAtomic := price
  latestProposalResultId := proposal.sourceResultId
  latestProposalIsRfq := isRfq
  acceptanceResultId := acceptance.sourceResultId
  acceptedByParticipantId := Engagement.participantIn e acceptance.actorRole

/-- `INSERT .. ON CONFLICT (engagement_id) DO NOTHING`. -/
def insertDeal (s : Pawnhouse) (engagementId : String) (deal : MarketDeal) : Pawnhouse :=
  match s.deals.get engagementId with
  | some _ => s
  | none => { s with deals := s.deals.set engagementId deal }

/-- The deal is frozen, the slots are used up and the buyer's session is over. -/
def freezeDeal (s : Pawnhouse) (core : ArenaCore) (engagementId : String) (e : Engagement)
    (r : RequestRow) (resultId : String) (accepted : Option Nat) : Except String Pawnhouse :=
  let history := s.messagesOf e.negotiationId
  let proposal := history.reverse.find? fun m => m.action = .propose
  let acceptance := history.find? fun m => m.sourceResultId = resultId && m.action = .accept
  match proposal, acceptance, accepted with
  | some proposal, some acceptance, some price => do
    let isRfq : Bool := proposal.sourceResultId = r.sourceResultId && proposal.turnSequence = 1
    let s ← (if isRfq then .ok s
      else s.claimNegotiationResult core proposal.sourceResultId
        ⟨e.roundId, Engagement.participantIn e proposal.actorRole, "proposal",
          s!"proposal:{engagementId}:{proposal.turnSequence}"⟩)
    let s ← s.claimNegotiationResult core acceptance.sourceResultId
      ⟨e.roundId, Engagement.participantIn e acceptance.actorRole, "acceptance",
        "acceptance:" ++ engagementId⟩
    let s := s.insertDeal engagementId (dealRow engagementId e price proposal acceptance isRfq)
    let s := s.moveEngagement e.negotiationId .negotiating .acceptedPendingSettlement
    let s := s.moveSlots engagementId ⟨.consumed, some engagementId⟩
    return s.closeSession e.buyerIntentId .completed
  | _, _, _ => .error "agent_market_deal_provenance_missing"

/-- The parties of an engagement are free again. -/
def releaseEngagement (s : Pawnhouse) (engagementId : String) (e : Engagement)
    (status : DealStatus) (now : UtcDateTime) : Pawnhouse :=
  let s := s.moveEngagement e.negotiationId .negotiating status
  let s := s.moveSlots engagementId ⟨.available, none⟩
  { s with
    requests := s.requests.update (fun id r => id = e.requestId && r.status = .engaged)
      fun r => { r with status := if status = .timeout then .expired else .rejected }
    marketIntents := s.marketIntents.update
      (fun id i => (id = e.buyerIntentId || id = e.sellerIntentId) && i.status = .reserved &&
        now < i.expiresAt)
      fun i => { i with status := .open } }

/-- The role in which a result was spoken, the seller's when it is not stored. -/
def roleOfResult (s : Pawnhouse) (resultId : String) : Role :=
  ((s.messages.find? fun m => m.sourceResultId = resultId).map (·.actorRole)).getD .seller

/-- `_sync_agent_market_negotiation_locked`. -/
def syncAgentMarketNegotiation (s : Pawnhouse) (core : ArenaCore) (negotiationId resultId : String)
    (agentAuthored : Bool) (now : UtcDateTime) : Except String Pawnhouse :=
  match s.engagements.find? fun e => e.2.negotiationId = negotiationId with
  | none => .ok s
  | some (engagementId, e) =>
    match s.negotiations.get negotiationId, s.requests.get e.requestId with
    | some n, some r =>
      match n.status with
      | .acceptedPendingSettlement =>
        s.freezeDeal core engagementId e r resultId n.acceptedPriceAtomic
      | .rejected => do
        let s ← (if !agentAuthored then .ok s
          else s.claimNegotiationResult core resultId
            ⟨e.roundId, Engagement.participantIn e (s.roleOfResult resultId), "reject",
              "reject:" ++ engagementId⟩)
        return s.releaseEngagement engagementId e .rejected now
      | .timeout => .ok (s.releaseEngagement engagementId e .timeout now)
      | _ => .ok s
    | _, _ => .ok s

/-! ### Freezing the settlement -/

section Freeze

-- The hash of the frozen snapshot of an intent.
variable (intentHash : String → Nat → String)

/-- The intent of an accepted negotiation; `__post_init__` refuses some. -/
def settlementIntent (s : Pawnhouse) (negotiationId : String) (n : NegotiationRow) (p : PairingRow)
    (price : Nat) (chainId : Nat) (tokenAddress : String) (requiredConfirmations : Nat)
    (buyer seller : SettlementAccount) : Except String SettlementIntent :=
  if h : 0 < p.quantity ∧ 0 < price ∧ n.buyerParticipantId ≠ n.sellerParticipantId ∧
      buyer.accountAddress ≠ seller.accountAddress ∧
      1 ≤ requiredConfirmations ∧ requiredConfirmations ≤ 100 then
    .ok
      { gameId := s.game.gameId
        roundId := n.roundId
        pairingId := n.pairingId
        negotiationId := negotiationId
        buyerParticipantId := n.buyerParticipantId
        sellerParticipantId := n.sellerParticipantId
        buyerAccount := buyer.accountAddress
        sellerAccount := seller.accountAddress
        goodId := p.goodId
        quantity := p.quantity
        unitPriceAtomic := price
        amountAtomic := price * p.quantity
        chainId := chainId
        tokenAddress := tokenAddress
        requiredConfirmations := requiredConfirmations
        intentHash := intentHash negotiationId (price * p.quantity)
        quantityPositive := h.1
        pricePositive := h.2.1
        amountIsProduct := rfl
        participantsDiffer := h.2.2.1
        accountsDiffer := h.2.2.2.1
        confirmationsInRange := h.2.2.2.2 }
  else .error "ValueError"

/-- A new intent: both participants and the pairing start to settle, and so does the round. -/
def startSettlement (s : Pawnhouse) (intentId : String) (intent : SettlementIntent) : Pawnhouse :=
  { s with
    intents := s.intents.set intentId ⟨intent, .authorizationRequested, none⟩
    participants := s.participants.update
      (fun id p => (id = intent.buyerParticipantId || id = intent.sellerParticipantId) &&
        p.status = .active)
      fun p => { p with status := .settling }
    pairings := s.pairings.update
      (fun id p => id = intent.pairingId && p.status = .acceptedPendingSettlement)
      fun p => { p with status := .settling }
    rounds := s.rounds.update (fun id r => id = intent.roundId && r.phase = .negotiate)
      fun r => { r with
        phase := .settle
        phaseDeadlineAt := none } }

/-- Settlement is switched off: the deal fails. -/
def failUnsettled (s : Pawnhouse) (negotiationId pairingId : String) : Pawnhouse :=
  let s : Pawnhouse := { s with
    pairings := s.pairings.update
      (fun id p => id = pairingId && p.status = .acceptedPendingSettlement)
      fun p => { p with status := .settlementFailed }
    negotiations := s.negotiations.update
      (fun id n => id = negotiationId && n.status = .acceptedPendingSettlement)
      fun n => { n with
        status := .settlementFailed
        nextRole := none } }
  s.moveEngagement negotiationId .acceptedPendingSettlement .settlementFailed

/-- `_freeze_settlement_intent`, with the status that the engagement gets afterwards. -/
def freezeSettlementIntent (s : Pawnhouse) (negotiationId : String) : Except String Pawnhouse :=
  match s.negotiations.get negotiationId with
  | none => .error "negotiation_not_found"
  | some n =>
    match s.pairings.get n.pairingId, s.participants.get n.buyerParticipantId,
        s.participants.get n.sellerParticipantId, s.balances.get n.buyerParticipantId with
    | some p, some _, some _, some cash =>
      match s.holdings.get (n.sellerParticipantId, p.goodId), s.game.authorizationMode with
      | none, _ => .error "negotiation_not_found"
      | some _, .none => .ok (s.failUnsettled negotiationId n.pairingId)
      | some held, .singleEip3009 chainId tokenAddress requiredConfirmations =>
        match n.acceptedPriceAtomic with
        | none => .error "accepted_negotiation_has_no_price"
        | some price =>
          match s.accounts.get n.buyerParticipantId, s.accounts.get n.sellerParticipantId with
          | some buyer, some seller =>
            if buyer.chainId ≠ chainId || seller.chainId ≠ chainId then
              .error "settlement_account_chain_mismatch"
            else if cash < price * p.quantity then
              .error "buyer_has_insufficient_cash_for_settlement"
            else if held < p.quantity then .error "seller_has_no_inventory_for_settlement"
            else do
              let intent ← s.settlementIntent intentHash negotiationId n p price chainId
                tokenAddress requiredConfirmations buyer seller
              let s' ← match s.intents.find? fun e => e.2.intent.negotiationId = negotiationId with
                | some (_, existing) =>
                  if existing.intent.intentHash ≠ intent.intentHash then
                    .error "settlement_intent_conflict"
                  else .ok s
                | none => .ok (s.startSettlement ("settlement:" ++ negotiationId) intent)
              return s'.moveEngagement negotiationId .acceptedPendingSettlement .settling
          | _, _ => .error "settlement_account_missing"
    | _, _, _, _ => .error "negotiation_not_found"

/-! ### One turn -/

/-- The columns of `negotiations` after a turn. -/
def turnRow (s : Pawnhouse) (row : NegotiationRow) (n : Negotiation) (now : UtcDateTime) :
    NegotiationRow :=
  { row with
    turnCount := n.turns.length
    nextRole := if n.status = .negotiating then some n.nextRole else none
    status := n.status
    acceptedPriceAtomic := n.acceptedPriceAtomic
    actionDeadlineAt := if n.status = .negotiating then s.actionDeadline now
      else row.actionDeadlineAt }

/-- The tables after a turn: a negotiation that ended takes its pairing, its engagement and,
    if it was accepted, its settlement along. -/
def finishTurn (s : Pawnhouse) (core : ArenaCore) (negotiationId resultId : String)
    (row : NegotiationRow) (n : Negotiation) (agentAuthored : Bool) (now : UtcDateTime) :
    Except String Pawnhouse :=
  let s : Pawnhouse := { s with
    negotiations := s.negotiations.set negotiationId (s.turnRow row n now) }
  if n.status = .negotiating then .ok s
  else do
    let s : Pawnhouse := { s with
      pairings := s.pairings.update (fun id _ => id = row.pairingId)
        fun p => { p with status := n.status } }
    let s ← s.syncAgentMarketNegotiation core negotiationId resultId agentAuthored now
    if n.status = .acceptedPendingSettlement then s.freezeSettlementIntent intentHash negotiationId
    else return s

/-- The action of a turn as the machine takes it. -/
def negotiationActionOf : Action → Except String NegotiationAction
  | .propose price message => do
    let atomic ← goldOf price
    NegotiationAction.make .propose (some atomic) (some message)
  | .accept => NegotiationAction.make .accept none none
  | .reject message => NegotiationAction.make .reject none message
  | _ => .error "ValueError"

/-- The price that an action commits its author to. -/
def quotePrice (n : Negotiation) (a : NegotiationAction) : Option Nat :=
  if a.action = .accept then (n.turns.getLast?.bind fun t => t.action.priceAtomic)
  else a.priceAtomic

/-- A price that the author's own limit forbids. -/
def outsideLimit (role : Role) (limit price : Option Nat) : Bool :=
  match limit, price with
  | some limit, some price =>
    match role with
    | .buyer => limit < price
    | .seller => price < limit
  | _, _ => false

/-- The action that is applied: a rejection stands in for one outside the author's limit. -/
def boundedAction (p : PairingRow) (role : Role) (n : Negotiation) (a : NegotiationAction) :
    NegotiationAction :=
  if outsideLimit role (ownLimit p role) (quotePrice n a) then
    { action := .reject, message := some outsideLimitMessage }
  else a

/-- The stored message of a turn. -/
def turnMessage (negotiationId resultId : String) (role : Role) (n : Negotiation)
    (a : NegotiationAction) : NegotiationMessage where
  negotiationId := negotiationId
  sourceResultId := resultId
  turnSequence := n.turns.length
  actorRole := role
  action := a.action
  priceAtomic := a.priceAtomic
  publicMessage := a.message

/-- The machine of a negotiation, rebuilt from its messages. -/
def rebuild (s : Pawnhouse) (negotiationId : String) (row : NegotiationRow) :
    Except String Negotiation :=
  let n : Negotiation :=
    { buyerParticipantId := row.buyerParticipantId
      sellerParticipantId := row.sellerParticipantId
      maxTurns := row.maxTurns }
  match n.postInit with
  | some e => .error e
  | none => n.replay (s.messagesOf negotiationId)

/-- `apply_hosted_negotiation_action`. -/
def applyHostedNegotiationAction (s : Pawnhouse) (core : ArenaCore)
    (negotiationId resultId : String) (action : Option Action) (now : UtcDateTime) :
    Except String Pawnhouse :=
  match s.negotiations.get negotiationId with
  | none => .error "negotiation_not_found"
  | some row =>
    if s.messages.any fun m => m.sourceResultId = resultId then .ok s
    else if row.status ≠ .negotiating then .ok s
    else do
      let n ← s.rebuild negotiationId row
      match action with
      | none => s.finishTurn intentHash core negotiationId resultId row n.expire false now
      | some action =>
        match row.nextRole, s.pairings.get row.pairingId with
        | some role, some p => do
          let a ← negotiationActionOf action
          let a := boundedAction p role n a
          let n ← n.apply role a
          let s : Pawnhouse :=
            { s with messages := s.messages ++ [turnMessage negotiationId resultId role n a] }
          s.finishTurn intentHash core negotiationId resultId row n true now
        | none, _ => .error "action was submitted out of turn"
        | _, none => .error "TypeError"

end Freeze

end Pawnhouse

end Arena402.Game
