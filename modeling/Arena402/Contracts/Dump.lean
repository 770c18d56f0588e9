/-
The snapshots that are scanned and hashed: the dumps of actions and participant views.

Field names are the wire aliases.  Decimals and timestamps are dumped as text, in the
Python mode of the scan as well as in the JSON mode of the hash, so one dump serves both.
-/
import Arena402.Contracts.Tasks

namespace Arena402

/-! ### Timestamps -/

/-- Year, month and day of a day number counted from 1970-01-01. -/
def civilFromDays (days : Int) : Int × Nat × Nat :=
  let z := days + 719468
  let era := z.fdiv 146097
  let doe := (z.fmod 146097).toNat
  let yoe := (doe - doe / 1460 + doe / 36524 - doe / 146096) / 365
  let doy := doe - (365 * yoe + yoe / 4 - yoe / 100)
  let mp := (5 * doy + 2) / 153
  let day := doy - (153 * mp + 2) / 5 + 1
  let month := if mp < 10 then mp + 3 else mp - 9
  (yoe + era * 400 + (if month ≤ 2 then 1 else 0), month, day)

/-- A number with leading zeros. -/
def padded (width n : Nat) : String :=
  let digits := toString n
  String.ofList (List.replicate (width - digits.length) '0') ++ digits

/-- `_serialize_utc_datetime`. -/
def serializeUtcDatetime (t : UtcDateTime) : String :=
  let seconds := t.fdiv 1000000
  let micros := (t.fmod 1000000).toNat
  let (year, month, day) := civilFromDays (seconds.fdiv 86400)
  let inDay := (seconds.fmod 86400).toNat
  let fraction := if micros = 0 then "" else "." ++ padded 6 micros
  padded 4 year.toNat ++ "-" ++ padded 2 month ++ "-" ++ padded 2 day ++ "T" ++
    padded 2 (inDay / 3600) ++ ":" ++ padded 2 (inDay / 60 % 60) ++ ":" ++
    padded 2 (inDay % 60) ++ fraction ++ "Z"

example : serializeUtcDatetime 951827696000123 = "2000-02-29T12:34:56.000123Z" := by
  decide

namespace Value

def ofTime (t : UtcDateTime) : Value :=
  .str (serializeUtcDatetime t)

def ofDecimal (d : Py.Decimal) : Value :=
  .str (serializeFixedDecimal d)

def ofPrice (p : PositiveFixedDecimal) : Value :=
  .ofDecimal p.value

def ofAmount (p : NonNegativeFixedDecimal) : Value :=
  .ofDecimal p.value

def ofText (m : PublicMessage) : Value :=
  .str m.text

/-- The entry of a field that is left out when it is `None`. -/
def optEntry {α : Type} (key : String) (f : α → Value) : Option α → List (String × Value)
  | Option.none => []
  | some a => [(key, f a)]

def listOf {α : Type} (f : α → Value) (items : List α) : Value :=
  .list (items.map f)

/-- A mapping from goods. -/
def ofGoods {α : Type} (f : α → Value) (entries : List (String × α)) : Value :=
  .obj (entries.map fun e => (e.1, f e.2))

end Value

open Value

/-! ### Actions -/

/-- An order's quantity is the default and is left out. -/
def Order.dump (name : String) (o : Order) : Value :=
  .obj ([("action", .str name), ("good", .str o.good)] ++
    optEntry "limitPrice" ofPrice o.limitPrice ++ optEntry "publicPrice" ofPrice o.publicPrice ++
    optEntry "message" ofText o.message)

def NegotiationRequestCandidateV1.dump (c : NegotiationRequestCandidateV1) : Value :=
  .obj [("targetIntentId", .str c.targetIntentId), ("openingPrice", ofPrice c.openingPrice),
    ("message", ofText c.message)]

def Action.dump : Action → Value
  | .buy o => o.dump "buy"
  | .sell o => o.dump "sell"
  | .pass => .obj [("action", .str "pass")]
  | .propose p m => .obj [("action", .str "propose"), ("price", ofPrice p), ("message", ofText m)]
  | .accept => .obj [("action", .str "accept")]
  | .reject m => .obj [("action", .str "reject"), ("message", opt ofText m)]
  | .requestNegotiations l =>
    .obj [("action", .str "request_negotiations"),
      ("requests", listOf NegotiationRequestCandidateV1.dump l.requests)]
  | .engage requestId => .obj [("action", .str "engage"), ("requestId", .str requestId)]
  | .rejectAll m => .obj [("action", .str "reject_all"), ("message", opt ofText m)]

/-! ### Parts of views -/

def ArenaPublicEventV1.dump (e : ArenaPublicEventV1) : Value :=
  .obj [("eventId", .str e.eventId), ("eventType", .str e.eventType),
    ("occurredAt", ofTime e.occurredAt), ("summary", .str e.summary), ("payload", .obj e.payload)]

def ArenaGoodRuleV1.dump (g : ArenaGoodRuleV1) : Value :=
  .obj [("good", .str g.good), ("fixedQuantity", nat g.fixedQuantity),
    ("priceDecimalPlaces", nat g.priceDecimalPlaces)]

def ArenaMarketActivityV1.dump (a : ArenaMarketActivityV1) : Value :=
  .obj [("good", .str a.good), ("lastClearingPrice", opt ofAmount a.lastClearingPrice),
    ("volume", nat a.volume), ("buyPressureBps", .int a.buyPressureBps),
    ("spreadBps", opt nat a.spreadBps)]

def ArenaGoodLiquiditySummaryV1.dump (g : ArenaGoodLiquiditySummaryV1) : Value :=
  .obj [("buyIntentCount", nat g.buyIntentCount), ("sellIntentCount", nat g.sellIntentCount),
    ("oppositeSideCapacity", nat g.oppositeSideCapacity),
    ("priceCompatibleCapacity", nat g.priceCompatibleCapacity)]

def ArenaRoundLiquidityV1.dump (l : ArenaRoundLiquidityV1) : Value :=
  .obj [("schemaVersion", .str "arena.market-liquidity.v1"), ("roundId", .str l.roundId),
    ("roundIndex", nat l.roundIndex), ("participantCount", nat l.participantCount),
    ("intentCount", nat l.intentCount), ("passCount", nat l.passCount),
    ("oppositeSideCapacity", nat l.oppositeSideCapacity),
    ("priceCompatibleCapacity", nat l.priceCompatibleCapacity),
    ("priceCompatibilityGap", nat l.priceCompatibilityGap),
    ("minimumUnmatchedIntentCount", nat l.minimumUnmatchedIntentCount),
    ("byGood", ofGoods ArenaGoodLiquiditySummaryV1.dump l.byGood)]

def ArenaDecideLimitsV1.dump (l : ArenaDecideLimitsV1) : Value :=
  .obj [("allowedActions", listOf (fun a => .str a.wire) l.allowedActions),
    ("allowedGoods", listOf .str l.allowedGoods)]

def ArenaCompletedActionV1.dump (a : ArenaCompletedActionV1) : Value :=
  .obj [("roundId", .str a.roundId), ("action", a.action.dump)]

def ArenaTradeSummaryV1.dump (t : ArenaTradeSummaryV1) : Value :=
  .obj [("roundId", .str t.roundId), ("negotiationId", .str t.negotiationId),
    ("role", .str t.role.wire), ("good", .str t.good), ("quantity", nat t.quantity),
    ("price", ofPrice t.price)]

def ArenaPublicCounterpartyV1.dump (c : ArenaPublicCounterpartyV1) : Value :=
  .obj [("agentId", opt .str c.agentId), ("displayName", opt .str c.displayName),
    ("failedNegotiations", nat c.failedNegotiations)]

def ArenaNegotiationMessageV1.dump (m : ArenaNegotiationMessageV1) : Value :=
  .obj [("turnSequence", nat m.turnSequence), ("from", .str m.fromRole.wire),
    ("action", .str m.action.wire), ("price", opt ofPrice m.price),
    ("message", opt ofText m.message)]

def ArenaCounterpartyQuoteV1.dump (q : ArenaCounterpartyQuoteV1) : Value :=
  .obj [("turnSequence", nat q.turnSequence), ("from", .str q.fromRole.wire),
    ("price", ofPrice q.price)]

def ArenaMarketDirectoryEntryV1.dump (e : ArenaMarketDirectoryEntryV1) : Value :=
  .obj [("intentId", .str e.intentId), ("agentId", .str e.agentId),
    ("displayName", .str e.displayName), ("good", .str e.good), ("quantity", nat orderQuantity),
    ("publicPrice", ofPrice e.publicPrice), ("failedNegotiations", nat e.failedNegotiations),
    ("expiresAt", ofTime e.expiresAt)]

def ArenaPriorRfqAttemptV1.dump (a : ArenaPriorRfqAttemptV1) : Value :=
  .obj [("attemptSequence", nat a.attemptSequence), ("targetIntentId", .str a.targetIntentId),
    ("status", .str a.status.wire)]

def ArenaInboundRfqV1.dump (r : ArenaInboundRfqV1) : Value :=
  .obj [("requestId", .str r.requestId), ("buyerAgentId", .str r.buyerAgentId),
    ("buyerDisplayName", .str r.buyerDisplayName), ("openingPrice", ofPrice r.openingPrice),
    ("message", ofText r.message), ("receivedAt", ofTime r.receivedAt)]

/-! ### Views -/

/-- The fields every view begins with. -/
def roundEntries (phase gameId roundId : String) (index : Nat) (count remaining : Option Nat) :
    List (String × Value) :=
  [("phase", .str phase), ("gameId", .str gameId), ("roundId", .str roundId),
    ("roundIndex", nat index), ("roundCount", opt nat count), ("roundsRemaining", opt nat remaining)]

def ArenaDecideInputV1.entries (phase : String) (v : ArenaDecideInputV1) : List (String × Value) :=
  roundEntries phase v.gameId v.roundId v.roundIndex v.roundCount v.roundsRemaining ++
    [("cash", ofAmount v.cash), ("holdings", ofGoods nat v.holdings),
      ("market", ofGoods ofAmount v.market), ("eventImpliedFinal", ofGoods ofAmount v.eventImpliedFinal),
      ("events", listOf ArenaPublicEventV1.dump v.events),
      ("reputation", .obj [("failedNegotiations", nat v.failedNegotiations)]),
      ("limits", v.limits.dump),
      ("completedActions", listOf ArenaCompletedActionV1.dump v.completedActions),
      ("completedTrades", listOf ArenaTradeSummaryV1.dump v.completedTrades),
      ("goods", listOf ArenaGoodRuleV1.dump v.goods),
      ("marketActivity", listOf ArenaMarketActivityV1.dump v.marketActivity),
      ("previousRoundLiquidity", opt ArenaRoundLiquidityV1.dump v.previousRoundLiquidity),
      ("deadlineAt", ofTime v.deadlineAt)]

def ArenaDecideInputV1.dump (v : ArenaDecideInputV1) : Value :=
  .obj (v.entries "decide")

def ArenaMarketIntentInputV1.dump (v : ArenaMarketIntentInputV1) : Value :=
  .obj (v.toArenaDecideInputV1.entries "market_intent" ++
    [("marketProtocol", .str "agent_a2a.v1"), ("marketExpiresAt", ofTime v.marketExpiresAt)])

def ArenaNegotiateInputV1.dump (v : ArenaNegotiateInputV1) : Value :=
  .obj (roundEntries "negotiate" v.gameId v.roundId v.roundIndex v.roundCount v.roundsRemaining ++
    [("negotiationId", .str v.negotiationId), ("role", .str v.role.wire), ("good", .str v.good),
      ("quantity", nat v.quantity), ("limitPrice", opt ofPrice v.limitPrice),
      ("cash", ofAmount v.cash), ("inventoryAvailable", nat v.inventoryAvailable),
      ("counterparty", v.counterparty.dump),
      ("events", listOf ArenaPublicEventV1.dump v.events),
      ("history", listOf ArenaNegotiationMessageV1.dump v.history),
      ("latestCounterpartyQuote", opt ArenaCounterpartyQuoteV1.dump v.latestCounterpartyQuote),
      ("turnSequence", nat v.turnSequence), ("remainingTurns", nat v.remainingTurns),
      ("deadlineAt", ofTime v.deadlineAt)])

def ArenaMarketRfqInputV1.dump (v : ArenaMarketRfqInputV1) : Value :=
  .obj (roundEntries "market_rfq" v.gameId v.roundId v.roundIndex v.roundCount v.roundsRemaining ++
    [("marketProtocol", .str "agent_a2a.v1"), ("buyerIntentId", .str v.buyerIntentId),
      ("good", .str v.good), ("quantity", nat orderQuantity), ("publicPrice", ofPrice v.publicPrice),
      ("limitPrice", ofPrice v.limitPrice), ("cash", ofAmount v.cash),
      ("directory", listOf ArenaMarketDirectoryEntryV1.dump v.directory),
      ("maxOutboundRfq", nat v.maxOutboundRfq), ("attemptSequence", nat v.attemptSequence),
      ("remainingRfqAttempts", nat v.remainingRfqAttempts),
      ("priorAttempts", listOf ArenaPriorRfqAttemptV1.dump v.priorAttempts),
      ("events", listOf ArenaPublicEventV1.dump v.events), ("deadlineAt", ofTime v.deadlineAt)])

def ArenaMarketSelectInputV1.dump (v : ArenaMarketSelectInputV1) : Value :=
  .obj (roundEntries "market_select" v.gameId v.roundId v.roundIndex v.roundCount
      v.roundsRemaining ++
    [("marketProtocol", .str "agent_a2a.v1"), ("sellerIntentId", .str v.sellerIntentId),
      ("good", .str v.good), ("quantity", nat v.quantity), ("publicPrice", ofPrice v.publicPrice),
      ("limitPrice", ofPrice v.limitPrice), ("inventoryAvailable", nat v.inventoryAvailable),
      ("requests", listOf ArenaInboundRfqV1.dump v.requests), ("maxEngagements", nat 1),
      ("events", listOf ArenaPublicEventV1.dump v.events), ("deadlineAt", ofTime v.deadlineAt)])

/-- `participant_view.model_dump(by_alias=True, exclude_none=False)`. -/
def TaskInput.dump : TaskInput → Value
  | .decide v => v.dump
  | .negotiate v => v.dump
  | .marketIntent v => v.dump
  | .marketRfq v => v.dump
  | .marketSelect v => v.dump

end Arena402
