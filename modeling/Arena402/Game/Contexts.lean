/-
What the coordinator reads before it creates tasks.

A context is the record of one query, built from the tables at one instant; a view is the wire model
that the coordinator builds of it.
-/
import Arena402.Core.Repository
import Arena402.Game.Pawnhouse

namespace Arena402.Game

open Py

/-! ### Contexts -/

/-- A traded good in the context of a decision. -/
structure ActivityRow where
  good : String
  lastClearingPriceAtomic : Option Nat
  volume : Nat
  buyPressureBps : Int

/-- A settled trade of a participant. -/
structure TradeRow where
  roundId : String
  negotiationId : String
  role : Role
  good : String
  quantity : Nat
  priceAtomic : Nat

/-- What every context says about its round. -/
structure RoundContext where
  gameId : String
  roundId : String
  roundIndex : Nat
  roundCount : Nat
  events : List EventOccurrence

/-- What an Agent is shown before a decision. -/
structure DecideContext where
  round : RoundContext
  deadlineAt : Option UtcDateTime
  actionTimeoutMs : Nat
  participantId : String
  cashAtomic : Int
  holdings : List (String × Int)
  market : List (String × Nat)
  eventImpliedFinal : List (String × Nat)
  marketActivity : List ActivityRow
  previousRoundLiquidity : Option ArenaRoundLiquidityV1
  completedActions : List ArenaCompletedActionV1
  completedTrades : List TradeRow
  failedNegotiations : Nat
  configSnapshot : Config

/-- What an Agent is shown before a turn. -/
structure NegotiationContext where
  round : RoundContext
  deadlineAt : UtcDateTime
  participantId : String
  negotiationId : String
  role : Role
  good : String
  quantity : Nat
  limitPriceAtomic : Option Nat
  cashAtomic : Int
  inventoryAvailable : Int
  counterpartyAgentId : String
  counterpartyName : String
  counterpartyFailedNegotiations : Nat
  history : List NegotiationMessage
  latestQuote : Option NegotiationMessage
  turnSequence : Nat
  remainingTurns : Nat
  configSnapshot : Config

namespace Pawnhouse

/-- The part of the round. -/
def roundContext (s : Pawnhouse) (roundId : String) (row : RoundRow) : RoundContext where
  gameId := s.game.gameId
  roundId := roundId
  roundIndex := row.roundIndex
  roundCount := s.game.roundCount
  events := s.eventsUpTo row.roundIndex

/-! ### Decide contexts -/

/-- The committed intents of earlier rounds, with the index of their round, in the order
    their inventory was committed. -/
def committedIntents (s : Pawnhouse) (index : Nat) : List (Nat × SettlementIntent) :=
  (s.commits.filterMap fun e =>
    (s.intents.get e.1).bind fun row =>
      (s.roundIndexOf row.intent.roundId).bind fun i =>
        if row.status = .inventoryCommitted && i < index then some (i, row.intent)
        else none).insertionSort fun a b => a.1 ≤ b.1

/-- The trades of a participant, as the buyer and as the seller. -/
def completedTrades (s : Pawnhouse) (index : Nat) (participantId : String) : List TradeRow :=
  (s.committedIntents index).flatMap fun (_, i) =>
    let row (role : Role) : TradeRow :=
      ⟨i.roundId, i.negotiationId, role, i.goodId, i.quantity, i.unitPriceAtomic⟩
    (if i.buyerParticipantId = participantId then [row .buyer] else []) ++
      (if i.sellerParticipantId = participantId then [row .seller] else [])

/-- The order of `completed_action_rows`. -/
def completedBefore (a b : Nat × AppliedArenaAction × ArenaCompletedActionV1) : Bool :=
  a.1 < b.1 || (a.1 = b.1 && (a.2.1.enteredAt < b.2.1.enteredAt ||
    (a.2.1.enteredAt = b.2.1.enteredAt && a.2.1.taskId ≤ b.2.1.taskId)))

/-- The applied decisions of a participant in earlier rounds. -/
def completedActions (s : Pawnhouse) (core : ArenaCore) (index : Nat) (participantId : String) :
    List ArenaCompletedActionV1 :=
  ((core.appliedByTask.values.filterMap fun a =>
    (core.tasks.get a.taskId).bind fun record =>
      a.action.bind fun action =>
        (s.roundIndexOf record.task.roundId).bind fun i =>
          if (a.kind = .decide || a.kind = .marketIntent) &&
              (a.outcome = .candidate || a.outcome = .defaultPass) && i < index &&
              record.task.gameAgentId = participantId then
            some (i, a, ⟨record.task.roundId, action⟩)
          else none).insertionSort fun a b => completedBefore a b).map (·.2.2)

/-- How many decisions of the previous round were to buy or to sell a good. -/
def decisionCount (s : Pawnhouse) (index : Nat) (action : AllowedDecideAction) (good : String) :
    Nat :=
  (s.decisionEvents.values.filter fun e => e.action = action && e.goodId = some good &&
    (s.roundIndexOf e.roundId).any fun i => i + 1 = index).length

/-- `buy_pressure_bps`. -/
def buyPressureBps (buyCount sellCount : Nat) : Int :=
  if buyCount + sellCount = 0 then 0
  else max (-10000) (min 10000 ((((buyCount : Int) - sellCount) * 10000).fdiv (buyCount + sellCount)))

/-- What happened to a good in a round. -/
def activityRow (s : Pawnhouse) (index : Nat) (good : String) : ActivityRow :=
  let trades := s.committedIntents index
  { good := good
    lastClearingPriceAtomic :=
      ((trades.filter fun t => t.2.goodId = good).getLast?).map fun t => t.2.unitPriceAtomic
    volume := (trades.filter fun t => t.2.goodId = good && t.1 + 1 = index).length
    buyPressureBps :=
      buyPressureBps (s.decisionCount index .buy good) (s.decisionCount index .sell good) }

/-- The liquidity summary of the round before. -/
def previousRoundLiquidity (s : Pawnhouse) (index : Nat) : Option ArenaRoundLiquidityV1 :=
  (s.liquidityEvents.find? fun e => (s.roundIndexOf e.1).any fun i => i + 1 = index).map (·.2)

/-- The holdings of a participant, by good. -/
def holdingsOf (s : Pawnhouse) (participantId : String) : List (String × Int) :=
  ((s.holdings.filter fun e => e.1.1 = participantId).map fun e => (e.1.2, e.2)).insertionSort
    fun a b => a.1 ≤ b.1

/-- The context of a participant in a decision. -/
def decideContext (s : Pawnhouse) (core : ArenaCore) (roundId : String) (row : RoundRow)
    (participantId : String) (p : Participant) (cashAtomic : Int) : DecideContext :=
  let prices := (s.prices.get row.roundIndex).getD []
  { round := s.roundContext roundId row
    deadlineAt := row.phaseDeadlineAt
    actionTimeoutMs := s.game.actionTimeoutMs
    participantId := participantId
    cashAtomic := cashAtomic
    holdings := s.holdingsOf participantId
    market := prices.map fun r => (r.goodId, r.marketPriceAtomic)
    eventImpliedFinal := prices.map fun r => (r.goodId, r.finalPriceAtomic)
    marketActivity := (goodIds.insertionSort (· ≤ ·)).map (s.activityRow row.roundIndex)
    previousRoundLiquidity := s.previousRoundLiquidity row.roundIndex
    completedActions := s.completedActions core row.roundIndex participantId
    completedTrades := s.completedTrades row.roundIndex participantId
    failedNegotiations := s.failedNegotiations participantId
    configSnapshot := p.configSnapshot }

/-- `hosted_decide_contexts`. -/
def hostedDecideContexts (s : Pawnhouse) (core : ArenaCore) : Except String (List DecideContext) :=
  match s.currentRound with
  | none => .error "round_not_in_decide"
  | some (roundId, row) =>
    if row.phase ≠ .decide then .error "round_not_in_decide"
    else
      .ok (s.participants.filterMap fun e =>
        if (e.2.runtimeKind = .hosted || e.2.runtimeKind = .connector) && e.2.status = .active then
          (s.balances.get e.1).map (s.decideContext core roundId row e.1 e.2)
        else none)

/-! ### Negotiation contexts -/

/-- The participant whose turn it is, and the other one. -/
def turnOf (n : NegotiationRow) (role : Role) : String × String :=
  match role with
  | .buyer => (n.buyerParticipantId, n.sellerParticipantId)
  | .seller => (n.sellerParticipantId, n.buyerParticipantId)

/-- The limit of the side whose turn it is. -/
def ownLimit (p : PairingRow) : Role → Option Nat
  | .buyer => p.buyerLimitPriceAtomic
  | .seller => p.sellerLimitPriceAtomic

/-- The latest proposal of the other side. -/
def latestQuote (history : List NegotiationMessage) (role : Role) : Option NegotiationMessage :=
  history.reverse.find? fun m => m.action = .propose && m.actorRole ≠ role

/-- `hosted_negotiation_context`.  A row that the source joins without a check raises
    `TypeError` when it is missing. -/
def hostedNegotiationContext (s : Pawnhouse) (negotiationId : String) :
    Except String (Option NegotiationContext) :=
  match s.negotiations.get negotiationId with
  | none => .ok none
  | some n =>
    if n.status ≠ .negotiating then .ok none
    else
      match n.nextRole, s.pairings.get n.pairingId, s.rounds.get n.roundId with
      | some role, some pairing, some row =>
        let (participantId, counterpartyId) := turnOf n role
        match s.participants.get participantId, s.participants.get counterpartyId,
            s.balances.get participantId, s.holdings.get (participantId, pairing.goodId) with
        | some p, some counterparty, some cash, some inventory =>
          let history := s.messagesOf negotiationId
          .ok (some
            { round := s.roundContext n.roundId row
              deadlineAt := n.actionDeadlineAt
              participantId := participantId
              negotiationId := negotiationId
              role := role
              good := pairing.goodId
              quantity := pairing.quantity
              limitPriceAtomic := ownLimit pairing role
              cashAtomic := cash
              inventoryAvailable := inventory
              counterpartyAgentId := counterparty.agentId
              counterpartyName := (counterparty.name.filter (· ≠ "")).getD "Arena Agent"
              counterpartyFailedNegotiations := s.failedNegotiations counterpartyId
              history := history
              latestQuote := latestQuote history role
              turnSequence := n.turnCount + 1
              remainingTurns := n.maxTurns - n.turnCount
              configSnapshot := p.configSnapshot })
        | _, _, _, _ => .error "TypeError"
      | _, _, none => .error "negotiation_round_missing"
      | _, _, _ => .error "TypeError"

end Pawnhouse

end Arena402.Game
