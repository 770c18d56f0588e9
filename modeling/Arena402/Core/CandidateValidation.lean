/-
The checks a candidate action has to pass before Arena applies it.

Each function returns the first violation it finds, in the order the source checks
them.  Products are taken in the default decimal context, comparisons are exact.
-/
import Arena402.Game.Money

namespace Arena402

open Py

/-- Why a candidate is refused. -/
inductive CandidateViolation
  | actionNotAllowed
  | goodNotAllowed
  | insufficientInventory
  | insufficientCash
  | pricePrecisionExceeded
  | publicPriceNotAllowed
  | marketPriceRequired
  | marketPriceBoundaryViolation
  | rfqBudgetExceeded
  | rfqTargetNotVisible
  | limitPriceViolation
  | requestNotVisible
  | buyerOpeningProposalRequired
  | counterpartyProposalRequired
  | finalTurnMustClose
deriving DecidableEq, Repr

/-- The text of a violation. -/
def CandidateViolation.wire : CandidateViolation → String
  | .actionNotAllowed => "action_not_allowed"
  | .goodNotAllowed => "good_not_allowed"
  | .insufficientInventory => "insufficient_inventory"
  | .insufficientCash => "insufficient_cash"
  | .pricePrecisionExceeded => "price_precision_exceeded"
  | .publicPriceNotAllowed => "public_price_not_allowed"
  | .marketPriceRequired => "market_price_required"
  | .marketPriceBoundaryViolation => "market_price_boundary_violation"
  | .rfqBudgetExceeded => "rfq_budget_exceeded"
  | .rfqTargetNotVisible => "rfq_target_not_visible"
  | .limitPriceViolation => "limit_price_violation"
  | .requestNotVisible => "request_not_visible"
  | .buyerOpeningProposalRequired => "buyer_opening_proposal_required"
  | .counterpartyProposalRequired => "counterparty_proposal_required"
  | .finalTurnMustClose => "final_turn_must_close"

/-- `_has_arena_money_precision`. -/
def hasArenaMoneyPrecision (value : Decimal) : Bool :=
  let atomic := Decimal.mul defaultPrecision value (Decimal.ofNat goldScale)
  atomic.eq atomic.toIntegralValue

/-- `price * quantity`, in the default context. -/
def orderCost (o : Order) (price : PositiveFixedDecimal) : Decimal :=
  Decimal.mul defaultPrecision price.value (Decimal.ofNat o.quantity)

/-- A decide task's action, by its side. -/
inductive Side
  | buy
  | sell
deriving DecidableEq, Repr

def Side.allowed : Side → AllowedDecideAction
  | .buy => .buy
  | .sell => .sell

/-- `decide_candidate_violation` for an order. -/
def decideOrderViolation (v : ArenaDecideInputV1) (side : Side) (o : Order) :
    Option CandidateViolation :=
  if !v.limits.allowedActions.contains side.allowed then some .actionNotAllowed
  else if o.publicPrice.isSome || o.message.isSome then some .publicPriceNotAllowed
  else if o.limitPrice.any fun p => !hasArenaMoneyPrecision p.value then
    some .pricePrecisionExceeded
  else if !v.limits.allowedGoods.isEmpty && !v.limits.allowedGoods.contains o.good then
    some .goodNotAllowed
  else if side = .sell && v.held o.good < o.quantity then some .insufficientInventory
  else if side = .buy && o.limitPrice.any fun p => v.cash.value.lt (orderCost o p) then
    some .insufficientCash
  else none

/-- `market_intent_candidate_violation` for an order. -/
def marketIntentOrderViolation (v : ArenaMarketIntentInputV1) (side : Side) (o : Order) :
    Option CandidateViolation :=
  if !v.limits.allowedActions.contains side.allowed then some .actionNotAllowed
  else if !v.limits.allowedGoods.isEmpty && !v.limits.allowedGoods.contains o.good then
    some .goodNotAllowed
  else
    match o.publicPrice, o.limitPrice with
    | some publicPrice, some limitPrice =>
      if !hasArenaMoneyPrecision publicPrice.value ||
          !hasArenaMoneyPrecision limitPrice.value then
        some .pricePrecisionExceeded
      else
        match side with
        | .buy =>
          if limitPrice.value.lt publicPrice.value then some .marketPriceBoundaryViolation
          else if v.cash.value.lt (orderCost o limitPrice) then some .insufficientCash
          else none
        | .sell =>
          if publicPrice.value.lt limitPrice.value then some .marketPriceBoundaryViolation
          else if v.held o.good < o.quantity then some .insufficientInventory
          else none
    | _, _ => some .marketPriceRequired

/-- A pass is a candidate exactly when it is allowed. -/
def passViolation (l : ArenaDecideLimitsV1) : Option CandidateViolation :=
  if !l.allowedActions.contains .pass then some .actionNotAllowed else none

/-- The loop over the requests of `market_rfq_candidate_violation`. -/
def rfqRequestsViolation (v : ArenaMarketRfqInputV1) :
    List NegotiationRequestCandidateV1 → Option CandidateViolation
  | [] => none
  | request :: rest =>
    if !(v.directory.map (·.intentId)).contains request.targetIntentId then
      some .rfqTargetNotVisible
    else if !hasArenaMoneyPrecision request.openingPrice.value then
      some .pricePrecisionExceeded
    else if v.limitPrice.value.lt request.openingPrice.value then some .limitPriceViolation
    else rfqRequestsViolation v rest

/-- `market_rfq_candidate_violation` for a request action. -/
def marketRfqViolation (v : ArenaMarketRfqInputV1) (l : RequestList) :
    Option CandidateViolation :=
  if v.maxOutboundRfq < l.requests.length then some .rfqBudgetExceeded
  else rfqRequestsViolation v l.requests

/-- `market_select_candidate_violation` for an engagement. -/
def marketSelectViolation (v : ArenaMarketSelectInputV1) (requestId : String) :
    Option CandidateViolation :=
  if !(v.requests.map (·.requestId)).contains requestId then some .requestNotVisible
  else if v.inventoryAvailable < v.quantity then some .insufficientInventory
  else none

/-- A price outside the side's private limit. -/
def crossesLimit (role : Role) (price limit : Decimal) : Bool :=
  match role with
  | .buyer => limit.lt price
  | .seller => price.lt limit

/-- `negotiation_candidate_violation`. -/
def negotiationViolation (v : ArenaNegotiateInputV1) : Action → Option CandidateViolation
  | .propose price _ =>
    if v.remainingTurns ≤ 1 then some .finalTurnMustClose
    else if !hasArenaMoneyPrecision price.value then some .pricePrecisionExceeded
    else if v.limitPrice.any fun limit => crossesLimit v.role price.value limit.value then
      some .limitPriceViolation
    else none
  | .accept =>
    if v.turnSequence = 1 then some .buyerOpeningProposalRequired
    else
      match v.latestCounterpartyQuote with
      | none => some .counterpartyProposalRequired
      | some quote =>
        if v.limitPrice.any fun limit => crossesLimit v.role quote.price.value limit.value then
          some .limitPriceViolation
        else none
  | _ => if v.turnSequence = 1 then some .buyerOpeningProposalRequired else none

end Arena402
