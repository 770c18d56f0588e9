/-
Arena-owned task envelopes and the participant views they freeze.

Each view is a structure with the fields of its wire model; the model validators are
Boolean functions, and `ArenaAgentTaskV1.wireValid` is what construction of a task
checks.  SHA-256 is a parameter wherever a key or a hash is derived.
-/
import Arena402.Contracts.Actions
import Arena402.Contracts.Value

namespace Arena402

/-- The kinds of tasks. -/
inductive TaskKind
  | decide
  | negotiate
  | marketIntent
  | marketRfq
  | marketSelect
deriving DecidableEq, Repr

/-- The kind on the wire. -/
def TaskKind.wire : TaskKind → String
  | .decide => "arena.decide"
  | .negotiate => "arena.negotiate"
  | .marketIntent => "arena.market.intent"
  | .marketRfq => "arena.market.rfq"
  | .marketSelect => "arena.market.select"

/-- The sides of a negotiation. -/
inductive Role
  | buyer
  | seller
deriving DecidableEq, Repr

/-- The side on the wire. -/
def Role.wire : Role → String
  | .buyer => "buyer"
  | .seller => "seller"

/-- What a decision can be. -/
inductive AllowedDecideAction
  | buy
  | sell
  | pass
deriving DecidableEq, Repr

/-- The decision on the wire. -/
def AllowedDecideAction.wire : AllowedDecideAction → String
  | .buy => "buy"
  | .sell => "sell"
  | .pass => "pass"

/-- A revealed world event. -/
structure ArenaPublicEventV1 where
  eventId : String
  eventType : String
  occurredAt : UtcDateTime
  summary : String := ""
  payload : List (String × Value) := []

/-- What is public about a good. -/
structure ArenaGoodRuleV1 where
  good : String
  fixedQuantity : Nat := 1
  priceDecimalPlaces : Nat := 6

/-- The demand and supply of a good in the round. -/
structure ArenaMarketActivityV1 where
  good : String
  lastClearingPrice : Option NonNegativeFixedDecimal := none
  volume : Nat := 0
  buyPressureBps : Int
  spreadBps : Option Nat := none

/-- The liquidity of a good in a past round. -/
structure ArenaGoodLiquiditySummaryV1 where
  buyIntentCount : Nat
  sellIntentCount : Nat
  oppositeSideCapacity : Nat
  priceCompatibleCapacity : Nat

/-- The liquidity of a past round. -/
structure ArenaRoundLiquidityV1 where
  roundId : String
  roundIndex : Nat
  participantCount : Nat
  intentCount : Nat
  passCount : Nat
  oppositeSideCapacity : Nat
  priceCompatibleCapacity : Nat
  priceCompatibilityGap : Nat
  minimumUnmatchedIntentCount : Nat
  byGood : List (String × ArenaGoodLiquiditySummaryV1)

/-- What the agent can afford. -/
structure ArenaDecideLimitsV1 where
  allowedActions : List AllowedDecideAction := [.buy, .sell, .pass]
  allowedGoods : List String := []

/-- An action of an earlier round. -/
structure ArenaCompletedActionV1 where
  roundId : String
  action : Action

/-- A trade of an earlier round. -/
structure ArenaTradeSummaryV1 where
  roundId : String
  negotiationId : String
  role : Role
  good : String
  quantity : Nat
  price : PositiveFixedDecimal

/-- Frozen participant view for one `arena.decide` task. -/
structure ArenaDecideInputV1 where
  gameId : String
  roundId : String
  roundIndex : Nat
  roundCount : Option Nat := none
  roundsRemaining : Option Nat := none
  cash : NonNegativeFixedDecimal
  holdings : List (String × Nat)
  market : List (String × NonNegativeFixedDecimal)
  eventImpliedFinal : List (String × NonNegativeFixedDecimal) := []
  events : List ArenaPublicEventV1 := []
  failedNegotiations : Nat
  limits : ArenaDecideLimitsV1 := {}
  completedActions : List ArenaCompletedActionV1 := []
  completedTrades : List ArenaTradeSummaryV1 := []
  goods : List ArenaGoodRuleV1 := []
  marketActivity : List ArenaMarketActivityV1 := []
  previousRoundLiquidity : Option ArenaRoundLiquidityV1 := none
  deadlineAt : UtcDateTime

/-- `holdings.get(good, 0)`. -/
def ArenaDecideInputV1.held (v : ArenaDecideInputV1) (good : String) : Nat :=
  (v.holdings.lookup good).getD 0

/-- What is public about the counterparty. -/
structure ArenaPublicCounterpartyV1 where
  agentId : Option String := none
  displayName : Option String := none
  failedNegotiations : Nat

/-- What a turn can be. -/
inductive NegotiationVerb
  | propose
  | accept
  | reject
deriving DecidableEq, Repr

/-- The turn on the wire. -/
def NegotiationVerb.wire : NegotiationVerb → String
  | .propose => "propose"
  | .accept => "accept"
  | .reject => "reject"

/-- A turn of the negotiation. -/
structure ArenaNegotiationMessageV1 where
  turnSequence : Nat
  fromRole : Role
  action : NegotiationVerb
  price : Option PositiveFixedDecimal := none
  message : Option PublicMessage := none

/-- The price the counterparty has named last. -/
structure ArenaCounterpartyQuoteV1 where
  turnSequence : Nat
  fromRole : Role
  price : PositiveFixedDecimal

/-- Frozen participant view for one `arena.negotiate` turn. -/
structure ArenaNegotiateInputV1 where
  gameId : String
  roundId : String
  roundIndex : Nat
  roundCount : Option Nat := none
  roundsRemaining : Option Nat := none
  negotiationId : String
  role : Role
  good : String
  quantity : Nat
  limitPrice : Option PositiveFixedDecimal := none
  cash : NonNegativeFixedDecimal
  inventoryAvailable : Nat
  counterparty : ArenaPublicCounterpartyV1
  events : List ArenaPublicEventV1 := []
  history : List ArenaNegotiationMessageV1 := []
  latestCounterpartyQuote : Option ArenaCounterpartyQuoteV1 := none
  turnSequence : Nat
  remainingTurns : Nat
  deadlineAt : UtcDateTime

/-- Frozen participant view for one real-Agent market intent task. -/
structure ArenaMarketIntentInputV1 extends ArenaDecideInputV1 where
  marketExpiresAt : UtcDateTime

/-- A seller of the directory. -/
structure ArenaMarketDirectoryEntryV1 where
  intentId : String
  agentId : String
  displayName : String
  good : String
  publicPrice : PositiveFixedDecimal
  failedNegotiations : Nat := 0
  expiresAt : UtcDateTime

/-- How a request ended. -/
inductive PriorAttemptStatus
  | rejected
  | counterpartyBusy
  | expired
  | cancelled
  | timedOut
deriving DecidableEq, Repr

/-- The end on the wire. -/
def PriorAttemptStatus.wire : PriorAttemptStatus → String
  | .rejected => "rejected"
  | .counterpartyBusy => "counterparty_busy"
  | .expired => "expired"
  | .cancelled => "cancelled"
  | .timedOut => "timed_out"

/-- An earlier request of the session. -/
structure ArenaPriorRfqAttemptV1 where
  attemptSequence : Nat
  targetIntentId : String
  status : PriorAttemptStatus

/-- Frozen public directory plus the buyer's private hard boundary. -/
structure ArenaMarketRfqInputV1 where
  gameId : String
  roundId : String
  roundIndex : Nat
  roundCount : Option Nat := none
  roundsRemaining : Option Nat := none
  buyerIntentId : String
  good : String
  publicPrice : PositiveFixedDecimal
  limitPrice : PositiveFixedDecimal
  cash : NonNegativeFixedDecimal
  directory : List ArenaMarketDirectoryEntryV1 := []
  maxOutboundRfq : Nat := 3
  attemptSequence : Nat := 1
  remainingRfqAttempts : Nat := 3
  priorAttempts : List ArenaPriorRfqAttemptV1 := []
  events : List ArenaPublicEventV1 := []
  deadlineAt : UtcDateTime

/-- A request that waits for the seller. -/
structure ArenaInboundRfqV1 where
  requestId : String
  buyerAgentId : String
  buyerDisplayName : String
  openingPrice : PositiveFixedDecimal
  message : PublicMessage
  receivedAt : UtcDateTime

/-- Frozen inbound RFQs plus the seller's private hard boundary. -/
structure ArenaMarketSelectInputV1 where
  gameId : String
  roundId : String
  roundIndex : Nat
  roundCount : Option Nat := none
  roundsRemaining : Option Nat := none
  sellerIntentId : String
  good : String
  publicPrice : PositiveFixedDecimal
  limitPrice : PositiveFixedDecimal
  inventoryAvailable : Nat
  requests : List ArenaInboundRfqV1 := []
  events : List ArenaPublicEventV1 := []
  deadlineAt : UtcDateTime

/-- `ArenaMarketSelectInputV1.quantity`, a literal. -/
def ArenaMarketSelectInputV1.quantity (_ : ArenaMarketSelectInputV1) : Nat :=
  orderQuantity

/-- The view of a task, one constructor per input model. -/
inductive TaskInput
  | decide (v : ArenaDecideInputV1)
  | negotiate (v : ArenaNegotiateInputV1)
  | marketIntent (v : ArenaMarketIntentInputV1)
  | marketRfq (v : ArenaMarketRfqInputV1)
  | marketSelect (v : ArenaMarketSelectInputV1)

namespace TaskInput

/-- The game of a task. -/
def gameId : TaskInput → String
  | .decide v => v.gameId
  | .negotiate v => v.gameId
  | .marketIntent v => v.gameId
  | .marketRfq v => v.gameId
  | .marketSelect v => v.gameId

/-- The round of a task. -/
def roundId : TaskInput → String
  | .decide v => v.roundId
  | .negotiate v => v.roundId
  | .marketIntent v => v.roundId
  | .marketRfq v => v.roundId
  | .marketSelect v => v.roundId

/-- When a task has to be done. -/
def deadlineAt : TaskInput → UtcDateTime
  | .decide v => v.deadlineAt
  | .negotiate v => v.deadlineAt
  | .marketIntent v => v.deadlineAt
  | .marketRfq v => v.deadlineAt
  | .marketSelect v => v.deadlineAt

/-- The kind whose input model this is. -/
def kind : TaskInput → TaskKind
  | .decide _ => .decide
  | .negotiate _ => .negotiate
  | .marketIntent _ => .marketIntent
  | .marketRfq _ => .marketRfq
  | .marketSelect _ => .marketSelect

end TaskInput

/-- One immutable Arena-owned logical action. -/
structure ArenaAgentTaskV1 where
  taskId : String
  kind : TaskKind
  gameId : String
  roundId : String
  gameAgentId : String
  negotiationId : Option String := none
  deadlineAt : UtcDateTime
  idempotencyKey : String
  inputHash : String
  input : TaskInput

/-- How a task ended. -/
inductive ResultStatus
  | succeeded
  | failed
  | timedOut
  | cancelled
deriving DecidableEq, Repr

/-- The end on the wire. -/
def ResultStatus.wire : ResultStatus → String
  | .succeeded => "succeeded"
  | .failed => "failed"
  | .timedOut => "timed_out"
  | .cancelled => "cancelled"

/-- The one terminal candidate result a Runtime may submit.  A succeeded result has an
    action and no other result has one. -/
structure AgentTaskResultV1 where
  resultId : String
  taskId : String
  status : ResultStatus
  action : Option Action
  shape : status = .succeeded ↔ action.isSome = true

/-! ### Model validators -/

/-- `roundCount` and `roundsRemaining` come together and agree with `roundIndex`. -/
def roundCountsValid (index : Nat) (count remaining : Option Nat) : Bool :=
  match count, remaining with
  | none, none => true
  | some c, some r => index ≤ c && r = c - index
  | _, _ => false

/-- `ArenaRoundLiquidityV1.validate_totals`. -/
def ArenaRoundLiquidityV1.validateTotals (l : ArenaRoundLiquidityV1) : Bool :=
  l.intentCount + l.passCount = l.participantCount &&
    l.priceCompatibleCapacity ≤ l.oppositeSideCapacity &&
    l.priceCompatibilityGap = l.oppositeSideCapacity - l.priceCompatibleCapacity &&
    l.minimumUnmatchedIntentCount + 2 * l.priceCompatibleCapacity = l.intentCount

/-- `ArenaDecideLimitsV1.reject_duplicate_values`. -/
def ArenaDecideLimitsV1.noDuplicates (l : ArenaDecideLimitsV1) : Bool :=
  l.allowedActions.Nodup && l.allowedGoods.Nodup

/-- `ArenaDecideInputV1.reject_duplicate_good_rules`, with the nested validators. -/
def ArenaDecideInputV1.validate (v : ArenaDecideInputV1) : Bool :=
  (v.goods.map (·.good)).Nodup &&
    (v.eventImpliedFinal.isEmpty ||
      (v.eventImpliedFinal.all fun e => (v.market.map (·.1)).contains e.1) &&
        v.market.all fun e => (v.eventImpliedFinal.map (·.1)).contains e.1) &&
    roundCountsValid v.roundIndex v.roundCount v.roundsRemaining &&
    (match v.previousRoundLiquidity with
      | none => true
      | some l => l.roundIndex + 1 = v.roundIndex && l.validateTotals) &&
    v.limits.noDuplicates && 0 < v.roundIndex &&
    v.completedActions.all fun a => match a.action with
      | .buy _ | .sell _ | .pass => true
      | _ => false

/-- `ArenaMarketIntentInputV1.validate_market_lifetime`. -/
def ArenaMarketIntentInputV1.validateMarketLifetime (v : ArenaMarketIntentInputV1) : Bool :=
  v.toArenaDecideInputV1.validate && v.deadlineAt < v.marketExpiresAt

/-- `ArenaNegotiationMessageV1.enforce_action_shape`. -/
def ArenaNegotiationMessageV1.enforceActionShape (m : ArenaNegotiationMessageV1) : Bool :=
  match m.action with
  | .propose => m.price.isSome
  | .accept => m.price.isNone && m.message.isNone
  | .reject => m.price.isNone

/-- `ArenaNegotiateInputV1.validate_turn_context`. -/
def ArenaNegotiateInputV1.validateTurnContext (v : ArenaNegotiateInputV1) : Bool :=
  roundCountsValid v.roundIndex v.roundCount v.roundsRemaining &&
    (match v.latestCounterpartyQuote with
      | none => true
      | some q => q.fromRole ≠ v.role && q.turnSequence < v.turnSequence) &&
    v.history.all (·.enforceActionShape) && 0 < v.turnSequence && 0 < v.quantity &&
    0 < v.roundIndex

/-- `ArenaMarketRfqInputV1.validate_directory`. -/
def ArenaMarketRfqInputV1.validateDirectory (v : ArenaMarketRfqInputV1) : Bool :=
  roundCountsValid v.roundIndex v.roundCount v.roundsRemaining &&
    (v.directory.map (·.intentId)).Nodup &&
    (v.directory.all fun e => e.good = v.good) &&
    v.remainingRfqAttempts + v.attemptSequence = 4 &&
    (v.priorAttempts.map (·.attemptSequence)) = (List.range' 1 (v.attemptSequence - 1)) &&
    (v.priorAttempts.all fun a => !(v.directory.map (·.intentId)).contains a.targetIntentId) &&
    1 ≤ v.attemptSequence && v.attemptSequence ≤ 3 &&
    1 ≤ v.maxOutboundRfq && v.maxOutboundRfq ≤ 3 && 0 < v.roundIndex

/-- `ArenaMarketSelectInputV1.validate_requests`. -/
def ArenaMarketSelectInputV1.validateRequests (v : ArenaMarketSelectInputV1) : Bool :=
  roundCountsValid v.roundIndex v.roundCount v.roundsRemaining &&
    (v.requests.map (·.requestId)).Nodup && 0 < v.roundIndex

/-- The validators of the models. -/
def TaskInput.validate : TaskInput → Bool
  | .decide v => v.validate
  | .negotiate v => v.validateTurnContext
  | .marketIntent v => v.validateMarketLifetime
  | .marketRfq v => v.validateDirectory
  | .marketSelect v => v.validateRequests

section Keys

variable (sha256 : String → String)

/-- `market_select_request_set_token`. -/
def marketSelectRequestSetToken (requestIds : List String) : String :=
  sha256 (String.intercalate "\x00" (requestIds.mergeSort (· ≤ ·)))

/-- The key the task factory derives for a view. -/
def deriveIdempotencyKey (gameAgentId : String) : TaskInput → String
  | .decide v => s!"{v.gameId}:{v.roundId}:{gameAgentId}:decide"
  | .negotiate v =>
    s!"{v.gameId}:{v.roundId}:{v.negotiationId}:{v.turnSequence}:{gameAgentId}:negotiate"
  | .marketIntent v => s!"{v.gameId}:{v.roundId}:{gameAgentId}:market-intent"
  | .marketRfq v => s!"{v.gameId}:{v.roundId}:{gameAgentId}:market-rfq:{v.attemptSequence}"
  | .marketSelect v =>
    let token := marketSelectRequestSetToken sha256 (v.requests.map (·.requestId))
    s!"{v.gameId}:{v.roundId}:{gameAgentId}:market-select:{token}"

/-- The keys without the RFQ attempt or the request set, which older tasks carry. -/
def legacyIdempotencyKey (gameAgentId : String) : TaskInput → Option String
  | .marketRfq v =>
    if v.attemptSequence = 1 then some s!"{v.gameId}:{v.roundId}:{gameAgentId}:market-rfq"
    else none
  | .marketSelect v => some s!"{v.gameId}:{v.roundId}:{gameAgentId}:market-select"
  | _ => none

/-- `ArenaAgentTaskV1.enforce_envelope_consistency`, with the validators of the view. -/
def ArenaAgentTaskV1.wireValid (t : ArenaAgentTaskV1) : Bool :=
  t.input.validate && t.input.kind = t.kind &&
    t.input.gameId = t.gameId && t.input.roundId = t.roundId &&
    t.input.deadlineAt = t.deadlineAt &&
    (match t.input with
      | .negotiate v => t.negotiationId = some v.negotiationId
      | _ => t.negotiationId = none) &&
    (t.idempotencyKey = deriveIdempotencyKey sha256 t.gameAgentId t.input ||
      legacyIdempotencyKey t.gameAgentId t.input = some t.idempotencyKey)

end Keys

end Arena402
