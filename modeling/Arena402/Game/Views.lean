/-
The participant views that the coordinator builds of its contexts.

Amounts are formatted with six decimals and parsed again by the wire types, and the
validators of a view run when it is built; whatever they refuse raises.
-/
import Arena402.Core.TaskFactory
import Arena402.Game.Contexts

namespace Arena402.Game

open Py

/-- The error of a model that refuses its fields. -/
def validationError : String := "ValidationError"

/-- The text of `_gold_decimal`. -/
def goldText (atomic : Nat) : String :=
  toString (atomic / goldScale) ++ "." ++ padded 6 (atomic % goldScale)

/-- `_gold_decimal`, as a wire amount. -/
def goldDecimal (atomic : Int) : Except String NonNegativeFixedDecimal :=
  if atomic < 0 then .error "gold amount must be non-negative"
  else
    match h : parseFixedDecimal (goldText atomic.toNat) with
    | .ok d => .ok ⟨d, _, h⟩
    | .error _ => .error validationError

/-- `_gold_decimal`, as a wire price. -/
def goldPrice (atomic : Nat) : Except String PositiveFixedDecimal :=
  match h : parseFixedDecimal (goldText atomic) with
  | .ok d => if hpos : 0 < d.coeff then .ok ⟨d, ⟨_, h⟩, hpos⟩ else .error validationError
  | .error _ => .error validationError

/-- A price of the view, if there is one. -/
def goldPrice? : Option Nat → Except String (Option PositiveFixedDecimal)
  | none => .ok none
  | some atomic => (goldPrice atomic).map some

/-- A count that must not be negative. -/
def natural (n : Int) : Except String Nat :=
  if n < 0 then .error validationError else .ok n.toNat

/-- A column that must not be missing. -/
def present {α : Type} : Option α → Except String α
  | none => .error validationError
  | some a => .ok a

/-- `payload.get(key) or ..`, of a text. -/
def payloadText (payload : List (String × Value)) (key : String) : String :=
  match payload.lookup key with
  | some (.str s) => s
  | _ => ""

/-- `_public_events`. -/
def publicEvents (events : List EventOccurrence) : List ArenaPublicEventV1 :=
  events.map fun e =>
    let narrative := payloadText e.publicSnapshot "narrative"
    let text := if narrative.isEmpty then payloadText e.publicSnapshot "displayName" else narrative
    { eventId := e.eventId
      eventType := "world.event_revealed"
      occurredAt := e.revealedAt
      summary := String.ofList (text.toList.take 500)
      payload := e.publicSnapshot }

/-! ### Decisions -/

/-- What a participant may do in a decision. -/
def decideLimits (cashAtomic : Int) (holdings : List (String × Int)) : ArenaDecideLimitsV1 :=
  let canBuy : Bool := 0 < cashAtomic
  let sellable := goodIds.filter fun good => 0 < (holdings.lookup good).getD 0
  { allowedActions := (if canBuy then [.buy] else []) ++
      (if sellable.isEmpty then [] else [.sell]) ++ [.pass]
    allowedGoods := if canBuy then goodIds else sellable }

/-- What is shown of a good. -/
def activityView (row : ActivityRow) : Except String ArenaMarketActivityV1 := do
  let last ← match row.lastClearingPriceAtomic with
    | none => .ok none
    | some atomic => (goldDecimal atomic).map some
  return { good := row.good
           lastClearingPrice := last
           volume := row.volume
           buyPressureBps := row.buyPressureBps }

/-- What is shown of a trade. -/
def tradeView (row : TradeRow) : Except String ArenaTradeSummaryV1 := do
  let price ← goldPrice row.priceAtomic
  return ⟨row.roundId, row.negotiationId, row.role, row.good, row.quantity, price⟩

/-- `_decide_view`, before its validators. -/
def decideFields (c : DecideContext) : Except String ArenaDecideInputV1 := do
  let cash ← goldDecimal c.cashAtomic
  let holdings ← c.holdings.mapM fun e => (natural e.2).map fun n => (e.1, n)
  let market ← c.market.mapM fun e => (goldDecimal e.2).map fun d => (e.1, d)
  let final ← c.eventImpliedFinal.mapM fun e => (goldDecimal e.2).map fun d => (e.1, d)
  let trades ← c.completedTrades.mapM tradeView
  let activity ← c.marketActivity.mapM activityView
  let deadlineAt ← present c.deadlineAt
  return { gameId := c.round.gameId
           roundId := c.round.roundId
           roundIndex := c.round.roundIndex
           roundCount := some c.round.roundCount
           roundsRemaining := some (c.round.roundCount - c.round.roundIndex)
           cash := cash
           holdings := holdings
           market := market
           eventImpliedFinal := final
           events := publicEvents c.round.events
           failedNegotiations := c.failedNegotiations
           limits := decideLimits c.cashAtomic c.holdings
           completedActions := c.completedActions
           completedTrades := trades
           goods := goodIds.map fun good => { good := good }
           marketActivity := activity
           previousRoundLiquidity := c.previousRoundLiquidity
           deadlineAt := deadlineAt }

/-- A view that its validators let pass. -/
def validated (view : TaskInput) : Except String TaskInput :=
  if view.validate then .ok view else .error validationError

/-- `_decide_view`. -/
def decideView (c : DecideContext) : Except String TaskInput := do
  let v ← decideFields c
  validated (.decide v)

/-! ### The market -/

/-! ### Negotiations -/

/-- What is shown of a message. -/
def historyView (m : NegotiationMessage) : Except String ArenaNegotiationMessageV1 := do
  let price ← goldPrice? m.priceAtomic
  return ⟨m.turnSequence, m.actorRole, m.action, price, m.publicMessage⟩

/-- A quote without a price is a `TypeError`. -/
def quoteView : Option NegotiationMessage → Except String (Option ArenaCounterpartyQuoteV1)
  | none => .ok none
  | some m => do
    let atomic ← present m.priceAtomic
    let price ← goldPrice atomic
    return some ⟨m.turnSequence, m.actorRole, price⟩

/-- `_negotiate_view`. -/
def negotiateView (c : NegotiationContext) : Except String TaskInput := do
  let history ← c.history.mapM historyView
  let quote ← quoteView c.latestQuote
  let limitPrice ← goldPrice? c.limitPriceAtomic
  let cash ← goldDecimal c.cashAtomic
  let inventory ← natural c.inventoryAvailable
  validated (.negotiate
    { gameId := c.round.gameId
      roundId := c.round.roundId
      roundIndex := c.round.roundIndex
      roundCount := some c.round.roundCount
      roundsRemaining := some (c.round.roundCount - c.round.roundIndex)
      negotiationId := c.negotiationId
      role := c.role
      good := c.good
      quantity := c.quantity
      limitPrice := limitPrice
      cash := cash
      inventoryAvailable := inventory
      counterparty :=
        { agentId := some c.counterpartyAgentId
          displayName := some c.counterpartyName
          failedNegotiations := c.counterpartyFailedNegotiations }
      events := publicEvents c.round.events
      history := history
      latestCounterpartyQuote := quote
      turnSequence := c.turnSequence
      remainingTurns := c.remainingTurns
      deadlineAt := c.deadlineAt })

end Arena402.Game
