/-
What the automation does next with a running game, decided three times.

`actionable_game_actions` is one query over all running games, `automation_state` reads the tables
of one game, and `advance_round_or_game` checks again before it closes a round.  The tables have
the columns that the three read and the keys that a row they insert may violate; the values that
they write besides are not needed to tell their answers.
-/
import Arena402.Game.EventDeck
import Arena402.Game.EventSchedule
import Arena402.Game.Liquidity
import Arena402.Game.MarketFeedback
import Arena402.Game.Pawnhouse
import Arena402.Lib.Sql

namespace Arena402.Game.Automation

open Py

/-! ### Tables -/

/-- The kinds of `runtime_runs`, in the order of their texts. -/
inductive RunKind
  | hosted
  | mixed
deriving DecidableEq

/-- Where the run of a runtime is. -/
inductive RunStage
  | decide
  | matching
  | negotiate
  | completed
deriving DecidableEq

/-- The columns of a game that are read. -/
structure GameRow where
  phase : Aggregate.GamePhase
  currentRound : Nat
  roundCount : Nat
  marketProtocol : MarketProtocol
  actionTimeoutMs : Nat
  configSnapshot : List (String × Json)
  startedAt : Option UtcDateTime

/-- The columns of a round that are read. -/
structure RoundRow where
  roundId : String
  phase : RoundPhase

/-- The columns of a participant that are read. -/
structure ParticipantRow where
  gameId : String
  agentId : String
  runtimeKind : RuntimeKind
  status : ParticipantStatus
  /-- `readiness = 'ready'` -/
  ready : Bool

/-- The columns of a run that are read. -/
structure RunRow where
  status : RunStatus
  stage : RunStage
  safeErrorCode : Option String

/-- A row of `negotiations` or of `pairings`. -/
structure DealRow where
  roundId : String
  status : DealStatus

/-- The columns of a task that are read. -/
structure TaskRow where
  gameId : String
  roundId : String
  taskKind : String

/-- The columns of an intent that are read. -/
structure MarketIntentRow where
  gameId : String
  roundId : String
  intent : Liquidity.LiquidityIntent

/-- The columns of `royal_orders` that are `UNIQUE` together. -/
structure RoyalOrderRow where
  gameId : String
  roundId : String
  sourceEventId : String
  good : Good
deriving DecidableEq

/-- The tables, each by its primary key or by a key that is `UNIQUE`. -/
structure Database where
  games : Dict String GameRow
  rounds : Dict (String × Nat) RoundRow
  participants : Dict String ParticipantRow
  runs : Dict (String × RunKind) RunRow
  negotiations : List DealRow
  pairings : List DealRow
  tasks : List TaskRow
  marketIntents : List MarketIntentRow
  /-- `public.rounds`: the id of a round. -/
  publicRounds : Dict (String × Nat) String
  eventSchedule : List (String × EventRow)
  eventOccurrences : List (String × String)
  priceSnapshots : Dict (String × Nat × Good) Int
  royalOrders : Dict String RoyalOrderRow
  finalSettlementPrices : Dict (String × Good) Int
  /-- The rank of a participant of a game. -/
  rankings : Dict (String × String) Nat
  balances : Dict String Int
  holdings : Dict (String × Good) Int
  /-- What `_market_feedback` reads before a round: the last clearing prices, the buy pressure. -/
  marketFeedback : String → Nat → (Good → Option Int) × (Good → Option Int)
  gamesKey : games.keys.Nodup
  participantsKey : participants.keys.Nodup
  /-- `PRIMARY KEY (game_id, round_index)` -/
  scheduleKey : (eventSchedule.map fun e => (e.1, e.2.roundIndex)).Nodup
  /-- `UNIQUE (game_id, event_id)` -/
  scheduleEventIds : (eventSchedule.map fun e => (e.1, e.2.eventId)).Nodup

namespace Database

/-- The runtime kinds of the participants that still play. -/
def playingKinds (db : Database) (gameId : String) : List RuntimeKind :=
  (db.participants.values.filter fun p =>
    p.gameId = gameId && (p.status = .active || p.status = .settling)).map (·.runtimeKind)

/-- The run of a round: `ORDER BY runtime_kind LIMIT 1`. -/
def runOf (db : Database) (roundId : String) : Option RunRow :=
  (db.runs.get (roundId, .hosted)).or (db.runs.get (roundId, .mixed))

/-- The negotiations of the round that go on. -/
def activeNegotiations (db : Database) (roundId : String) : List DealRow :=
  db.negotiations.filter fun n => n.roundId = roundId && n.status = .negotiating

/-- The settlements of the round that are not at their end. -/
def pendingSettlements (db : Database) (roundId : String) : List DealRow :=
  db.pairings.filter fun p => p.roundId = roundId &&
    (p.status = .acceptedPendingSettlement || p.status = .settling)

/-- The rows of the schedule of a game. -/
def schedule (db : Database) (gameId : String) : List EventRow :=
  (db.eventSchedule.filter fun e => e.1 = gameId).map Prod.snd

/-- The tasks that asked the participants of a round for an intent. -/
def intentTasks (db : Database) (gameId roundId : String) : List TaskRow :=
  db.tasks.filter fun t =>
    t.gameId = gameId && t.roundId = roundId && t.taskKind = "arena.market.intent"

/-- The intents of a round. -/
def intentsOf (db : Database) (gameId roundId : String) : List Liquidity.LiquidityIntent :=
  (db.marketIntents.filter fun i => i.gameId = gameId && i.roundId = roundId).map (·.intent)

end Database

/-! ### The query over all games -/

/-- The `action` of a listed game. -/
inductive Action
  | runRule
  | enqueueAgentRuntime
  | advanceRound
deriving DecidableEq, Repr

/-- A row of the common table expression `game_state`. -/
structure GameState where
  gameId : String
  startedAt : Option UtcDateTime
  marketProtocol : MarketProtocol
  roundPhase : RoundPhase
  participantCount : Nat
  allRule : Sql.Truth
  allTaskRuntime : Sql.Truth
  runtimeRunStatus : Option RunStatus
  activeNegotiation : Sql.Truth
  pendingSettlement : Sql.Truth

/-- `bool_and`, which is `NULL` over no rows. -/
def boolAnd (l : List Bool) : Sql.Truth :=
  if l.isEmpty then none else some (l.all id)

/-- The `TRUE AS present` of a lateral join, `NULL` where no row joins. -/
def present {α : Type} (l : List α) : Sql.Truth :=
  if l.isEmpty then none else some true

/-- A running game joined with its current round. -/
def gameState (db : Database) (gameId : String) (game : GameRow) : Option GameState :=
  (db.rounds.get (gameId, game.currentRound)).map fun round =>
    let kinds := db.playingKinds gameId
    { gameId := gameId
      startedAt := game.startedAt
      marketProtocol := game.marketProtocol
      roundPhase := round.phase
      participantCount := kinds.length
      allRule := boolAnd (kinds.map fun kind => kind = .rule)
      allTaskRuntime := boolAnd (kinds.map (·.isTask))
      runtimeRunStatus := (db.runOf round.roundId).map (·.status)
      activeNegotiation := present (db.activeNegotiations round.roundId)
      pendingSettlement := present (db.pendingSettlements round.roundId) }

namespace GameState

/-- The phase is one of these. -/
def inPhase (s : GameState) (phases : List RoundPhase) : Sql.Truth :=
  some (phases.contains s.roundPhase)

/-- `participant_count > 0` -/
def hasParticipants (s : GameState) : Sql.Truth :=
  some (decide (0 < s.participantCount))

/-- `a IS NOT TRUE` -/
def isNotTrue (a : Sql.Truth) : Sql.Truth :=
  some (a ≠ some true)

/-- The first `WHEN` of the `CASE`. -/
def runsRule (s : GameState) : Sql.Truth :=
  (((s.inPhase [.decide]).and (Sql.equals (some s.marketProtocol) (some .fcfsV1))).and
    s.hasParticipants).and s.allRule

/-- The second `WHEN`. -/
def enqueuesAgentRuntime (s : GameState) : Sql.Truth :=
  (((s.inPhase [.decide]).and s.hasParticipants).and s.allTaskRuntime).and
    (Sql.isNull s.runtimeRunStatus)

/-- The third `WHEN`. -/
def advancesRound (s : GameState) : Sql.Truth :=
  let waitsForRuntime := (s.hasParticipants.and s.allTaskRuntime).and
    ((Sql.isNull s.runtimeRunStatus).or (Sql.differs s.runtimeRunStatus (some .completed)))
  (((s.inPhase [.negotiate, .settle, .roundClose]).and waitsForRuntime.not).and
    (isNotTrue s.activeNegotiation)).and (isNotTrue s.pendingSettlement)

/-- The action that the query selects. -/
def action (s : GameState) : Option Action :=
  if s.runsRule = some true then some .runRule
  else if s.enqueuesAgentRuntime = some true then some .enqueueAgentRuntime
  else if s.advancesRound = some true then some .advanceRound
  else none

/-- `ORDER BY started_at NULLS LAST, game_id` -/
def listedBefore (a b : GameState) : Bool :=
  match a.startedAt, b.startedAt with
  | some t, some u => t < u || (t = u && a.gameId ≤ b.gameId)
  | some _, none => true
  | none, some _ => false
  | none, none => a.gameId ≤ b.gameId

end GameState

/-- What `automation_state` says is to be done. -/
inductive StateAction
  | idle
  | runRule
  | enqueueAgentRuntime
  | blockedRuntimeFailure
  | waitRuntime
  | waitRuntimeAdapter
  | waitNegotiation
  | waitSettlement
  | advanceRound
deriving DecidableEq, Repr

/-- The action of the query, as `automation_state` names it. -/
def Action.state : Action → StateAction
  | runRule => .runRule
  | enqueueAgentRuntime => .enqueueAgentRuntime
  | advanceRound => .advanceRound

/-- `_record_agent_market_liquidity_summary` -/
def recordLiquiditySummary (db : Database) (gameId roundId : String) :
    Except String Liquidity.RoundLiquiditySummary :=
  Liquidity.summarizeRoundLiquidity (db.intentTasks gameId roundId).length
    (db.intentsOf gameId roundId)

/-- One of the prices of `price_catalog_from_snapshot`. -/
def frozenPrice (prices : List (String × Json)) (good : Good) : Except String Int :=
  match prices.lookup good.id with
  | some (.int n) => .ok n
  | some (.str s) =>
    match wireInt (.str s) with
    | .ok n => .ok n
    | .error _ => .error "frozen initial price is invalid"
  | _ => .error "frozen initial price is invalid"

/-- The lookup of `dict.get`, where `null` is `None`. -/
def member (snapshot : List (String × Json)) (key : String) : Option Json :=
  match snapshot.lookup key with
  | some .null => none
  | value => value

/-- `price_catalog_from_snapshot`, with the checks of the constructor. -/
def priceCatalogFromSnapshot (snapshot : List (String × Json)) : Except String PriceCatalog :=
  match member snapshot "priceCatalogId", member snapshot "initialPricesAtomic" with
  | none, none => resolvePriceCatalog standardPriceCatalog.catalogId
  | some (.str catalogId), some (.object raw) =>
    if catalogId = "" then .error "frozen price catalog id is invalid"
    else if !(raw.map Prod.fst).all (goods.map Good.id).contains ||
        !(goods.map Good.id).all (raw.map Prod.fst).contains then
      .error "frozen initial prices require exactly the canonical goods"
    else do
      let prices ← goods.mapM (frozenPrice raw)
      if prices.any fun n => n ≤ 0 then .error "price catalog values must be positive integers"
      else .ok { catalogId, prices := fun good => ((goods.zip prices).lookup good).getD 0 }
  | some (.str catalogId), _ =>
    if catalogId = "" then .error "frozen price catalog id is invalid"
    else .error "frozen initial prices are invalid"
  | _, _ => .error "frozen price catalog id is invalid"

/-- How a round was closed. -/
inductive Closed
  | nextRound (roundId : String) (roundIndex : Nat) (deadlineAt : UtcDateTime) (eventId : String)
  | gameCompleted (roundId : String) (rankings : List (RankingEntry × String))

/-- The range of a `NUMERIC(78, 0)` column. -/
def fitsNumeric (n : Int) : Bool :=
  n.natAbs < 10 ^ 78

/-- The range of a `BIGINT` column. -/
def fitsBigint (n : Int) : Bool :=
  -9223372036854775808 ≤ n && n ≤ 9223372036854775807

/-- The columns of `price_snapshots` take the values of a snapshot. -/
def fitsSnapshot (snapshot : WorldSnapshot) : Bool :=
  goods.all fun good =>
    fitsNumeric (snapshot.marketPrices good) && fitsNumeric (snapshot.finalPrices good) &&
      fitsInteger (snapshot.supplyIndexBps good) && fitsInteger (snapshot.bubblePremiumBps good)

/-- The `CHECK`s of `price_snapshots`. -/
def passesChecks (snapshot : WorldSnapshot) : Bool :=
  goods.all fun good =>
    0 ≤ snapshot.marketPrices good && 0 ≤ snapshot.finalPrices good &&
      0 ≤ snapshot.supplyIndexBps good && 0 ≤ snapshot.bubblePremiumBps good

/-- The id of an order: its game, its event and its good. -/
def royalOrderId (gameId eventId : String) (good : Good) : String :=
  s!"royal:{gameId}:{eventId}:{good.id}"

/-- The `INSERT` of an order into `royal_orders`; the names of the exceptions stand for what the
    row violates. -/
def insertRoyalOrder (gameId roundId : String) (rows : Dict String RoyalOrderRow)
    (order : RoyalOrder) : Except String (Dict String RoyalOrderRow) :=
  let row : RoyalOrderRow := ⟨gameId, roundId, order.eventId, order.good⟩
  let orderId := royalOrderId gameId order.eventId order.good
  if !fitsNumeric order.priceAtomic || !fitsBigint order.quantityLimit then .error "DataError"
  else if order.priceAtomic ≤ 0 || order.quantityLimit ≤ 0 then .error "CheckViolationError"
  else if (rows.get orderId).isSome || rows.values.contains row then .error "UniqueViolationError"
  else .ok (rows ++ [(orderId, row)])

/-- `_persist_world_snapshot`, up to the event that it publishes. -/
def persistWorldSnapshot (db : Database) (gameId roundId : String) (event : WorldEvent)
    (roundIndex : Nat) (snapshot : WorldSnapshot) : Except String (Dict String RoyalOrderRow) :=
  if db.eventOccurrences.contains (gameId, event.eventId) ||
      goods.any (fun good => (db.priceSnapshots.get (gameId, roundIndex, good)).isSome) then
    .error "UniqueViolationError"
  else if !fitsSnapshot snapshot then .error "DataError"
  else if !passesChecks snapshot then .error "CheckViolationError"
  else
    (snapshot.royalOrders.filter fun order => order.eventId = event.eventId).foldlM
      (insertRoyalOrder gameId roundId) db.royalOrders

/-- The rows with the id of the next round.  An `INSERT` that finds the game's row of that index
    does nothing, and the event that starts the round refers to its id. -/
def insertRound (db : Database) (gameId roundId : String) (roundIndex : Nat) :
    Except String Unit :=
  if (db.rounds.get (gameId, roundIndex)).isSome then
    if db.rounds.any fun e => e.1.1 = gameId && e.2.roundId = roundId then .ok ()
    else .error "ForeignKeyViolationError"
  else if db.rounds.any fun e => e.2.roundId = roundId then .error "UniqueViolationError"
  else .ok ()

/-- The round is opened for decisions: in `rounds` a closed one has a time of its end, and
    `public.rounds` is given a row where it has none of that index. -/
def startDecisions (db : Database) (gameId roundId : String) (roundIndex : Nat) :
    Except String Unit :=
  if db.rounds.any fun e =>
      e.2.roundId = roundId && (e.2.phase = .completed || e.2.phase = .cancelled) then
    .error "CheckViolationError"
  else if (db.publicRounds.get (gameId, roundIndex)).isNone &&
      db.publicRounds.values.contains roundId then
    .error "UniqueViolationError"
  else .ok ()

/-- `_open_next_round` -/
def openNextRound (db : Database) (now : UtcDateTime) (gameId : String) (game : GameRow)
    (roundIndex : Nat) (basePrices : PerGood) : Except String Closed := do
  let events ← scheduledEvents (db.schedule gameId)
  match events.find? fun event => event.revealRound = (roundIndex : Int) with
  | none => .error "round_event_not_found"
  | some event => do
    let opening ← openingSnapshot (db.schedule gameId) basePrices roundIndex
    let feedback := db.marketFeedback gameId roundIndex
    let snapshot ← applyMarketFeedback opening feedback.1 feedback.2
    let roundId := s!"round:{gameId}:{roundIndex}"
    insertRound db gameId roundId roundIndex
    let _ ← persistWorldSnapshot db gameId roundId event roundIndex snapshot
    startDecisions db gameId roundId roundIndex
    return .nextRound roundId roundIndex
      (now + Pawnhouse.milliseconds game.actionTimeoutMs) event.eventId

/-- The prices of `final_settlement_prices` after the `INSERT` of those of the last round. -/
def finalPrice (db : Database) (gameId : String) (roundIndex : Nat) (good : Good) : Option Int :=
  (db.finalSettlementPrices.get (gameId, good)).or
    (db.priceSnapshots.get (gameId, roundIndex, good))

/-- The portfolios of the participants with a balance and a holding. -/
def portfolios (db : Database) (gameId : String) : Dict String Portfolio :=
  (db.participants.filter fun e =>
    e.2.gameId = gameId && e.2.ready && e.2.status = .active).filterMap fun e =>
      let holdings := goods.filterMap fun good =>
        (db.holdings.get (e.1, good)).map fun quantity => (good.id, quantity)
      if holdings.isEmpty then none
      else (db.balances.get e.1).map fun cash => (e.1, ⟨cash, holdings⟩)

/-- The `INSERT` of an entry into `rankings`: a participant that has a row keeps it, and no two
    have one rank. -/
def insertRanking (gameId : String) (rows : Dict (String × String) Nat) (entry : RankingEntry) :
    Except String (Dict (String × String) Nat) :=
  if !fitsNumeric entry.netWorthAtomic then .error "DataError"
  else if entry.netWorthAtomic < 0 then .error "CheckViolationError"
  else if (rows.get (gameId, entry.agentId)).isSome then .ok rows
  else if rows.any fun row => row.1.1 = gameId && row.2 = entry.rank then
    .error "UniqueViolationError"
  else .ok (rows ++ [((gameId, entry.agentId), entry.rank)])

/-- `_finalize_game` -/
def finalizeGame (db : Database) (gameId roundId : String) (roundIndex : Nat) :
    Except String Closed :=
  if goods.any fun good => (finalPrice db gameId roundIndex good).isNone then
    .error "final_settlement_prices_incomplete"
  else do
    let entries ← calculateRankings (portfolios db gameId)
      fun good => (finalPrice db gameId roundIndex good).getD 0
    let _ ← entries.foldlM (insertRanking gameId) db.rankings
    return (.gameCompleted roundId (entries.map fun entry =>
      (entry, ((db.participants.get entry.agentId).map (·.agentId)).getD "")))

/-- What `advance_round_or_game` does once the round may be closed. -/
def closeRound (db : Database) (now : UtcDateTime) (gameId : String) (game : GameRow)
    (roundId : String) : Except String Closed := do
  if game.marketProtocol = .agentA2aV1 then
    let _ ← recordLiquiditySummary db gameId roundId
  if game.currentRound < game.roundCount then
    match priceCatalogFromSnapshot game.configSnapshot with
    | .error _ => .error "invalid_frozen_price_catalog"
    | .ok catalog => openNextRound db now gameId game (game.currentRound + 1) catalog.prices
  else finalizeGame db gameId roundId game.currentRound

/-- What `advance_round_or_game` answers. -/
inductive Answer
  | alreadyCompleted
  | waitingRuntime (roundId : String)
  | waitingNegotiation (roundId : String)
  | waitingSettlement (roundId : String) (pendingSettlements : Nat)
  | closed (how : Closed)

/-- What it raises: a refusal of its own, or something on the way of the close. -/
inductive Raised
  | refused (code : String)
  | inClose (message : String)

/-- `advance_round_or_game` -/
def advanceRoundOrGame (db : Database) (now : UtcDateTime) (gameId : String) :
    Except Raised Answer :=
  match db.games.get gameId with
  | none => .error (.refused "game_not_found")
  | some game =>
    if game.phase = .completed then .ok .alreadyCompleted
    else if game.phase ≠ .running then .error (.refused "game_not_running")
    else
      match db.rounds.get (gameId, game.currentRound) with
      | none => .error (.refused "current_round_not_found")
      | some round =>
        let kinds := (db.playingKinds gameId).dedup
        let pending := (db.pendingSettlements round.roundId).length
        if (!kinds.isEmpty && kinds.all (·.isTask)) &&
            (db.runOf round.roundId).map (·.status) ≠ some .completed then
          .ok (.waitingRuntime round.roundId)
        else if 0 < (db.activeNegotiations round.roundId).length then
          .ok (.waitingNegotiation round.roundId)
        else if 0 < pending then .ok (.waitingSettlement round.roundId pending)
        else
          let phase := if round.phase = .negotiate || round.phase = .settle then .roundClose
            else round.phase
          if phase ≠ .roundClose then .error (.refused "round_not_ready_to_close")
          else
            match closeRound db now gameId game round.roundId with
            | .ok how => .ok (.closed how)
            | .error message => .error (.inClose message)

end Arena402.Game.Automation
