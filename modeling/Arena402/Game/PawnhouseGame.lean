/-
The game aggregate of the King's Pawnhouse.

Two state machines share one counter: the game's phase and, while it runs, the phase of the
round.  A method checks before it writes, but `start` and `next_round` write the phase and
the counter before they reveal the event of the round, and the reveal may raise; so the calls
are methods, and what they wrote before they raised stays.  `hexdigest` and `digest` stand for
the two readings of `hashlib.sha256(..)`.
-/
import Arena402.Game.Portfolio
import Arena402.Lib.Raise

namespace Arena402.Game.Aggregate

open Py

/-! ### Phases and configuration -/

/-- Where a game is. -/
inductive GamePhase
  | registration
  | portfolioSetup
  | portfolioLocked
  | running
  | finalValuation
  | completed
  | cancelled
deriving DecidableEq, Repr

/-- Where a round is. -/
inductive RoundPhase
  | eventReveal
  | decide
  | match
  | negotiate
  | settle
  | roundClose
  | completed
deriving DecidableEq, Repr

/-- How the first portfolios are drawn. -/
inductive PortfolioMode
  | manual
  | balancedAuto
deriving DecidableEq, Repr

/-- What a game is made with. -/
structure GameConfig where
  roundCount : Int := 5
  actionTimeoutMs : Int := 90000
  maxNegotiationTurns : Int := 3
  minParticipants : Int := 2
  maxParticipants : Int := 16
  portfolioMode : PortfolioMode := .manual
deriving DecidableEq, Repr

/-- `__post_init__`; the type leaves only the two portfolio modes. -/
def GameConfig.postInit (c : GameConfig) : Except String GameConfig :=
  if c.roundCount < 1 || 20 < c.roundCount then .error "round_count must be between 1 and 20"
  else if c.actionTimeoutMs < 100 || 900000 < c.actionTimeoutMs then
    .error "action_timeout_ms is outside the Arena bound"
  else if c.maxNegotiationTurns < 2 || 6 < c.maxNegotiationTurns then
    .error "max_negotiation_turns must be between 2 and 6"
  else if c.minParticipants < 2 || c.maxParticipants < c.minParticipants then
    .error "invalid participant bounds"
  else .ok c

/-! ### The aggregate -/

/-- An Agent of the game, and its portfolio once it has one. -/
structure GameParticipant where
  userId : String
  agentId : String
  portfolio : Option Portfolio := none
deriving DecidableEq, Repr

/-- A game in memory. -/
structure PawnhouseGame where
  gameId : String
  config : GameConfig
  events : List WorldEvent
  eventSeed : String
  phase : GamePhase := .registration
  currentRound : Int := 0
  roundPhase : Option RoundPhase := none
  participants : Dict String GameParticipant := []
  users : List String := []
  world : WorldState
  eventCommitment : String
  rankings : List RankingEntry := []

namespace PawnhouseGame

/-- `{event.event_id: event for event in events}`. -/
def catalog (events : List WorldEvent) : Dict String WorldEvent :=
  events.foldl (fun d e => d.set e.eventId e) []

/-- `__post_init__`: the game that the constructor gives. -/
def new (hexdigest : ByteArray → String) (gameId : String) (config : GameConfig)
    (events : List WorldEvent) (eventSeed : String) : Except String PawnhouseGame :=
  if gameId.isEmpty then .error "game_id is required"
  else if eventSeed.isEmpty then .error "event seed is required"
  else if (events.length : Int) ≠ config.roundCount then
    .error "one scheduled event is required for every round"
  else if events.map (·.revealRound)
      ≠ (List.range config.roundCount.toNat).map (fun k : Nat => (k : Int) + 1) then
    .error "event schedule must cover each round exactly once"
  else if (catalog events).length ≠ events.length then
    .error "event schedule cannot contain duplicate event ids"
  else do
    let world ← WorldState.postInit { eventCatalog := catalog events }
    let eventCommitment ← scheduleCommitment hexdigest events eventSeed
    return { gameId, config, events, eventSeed, world, eventCommitment }

/-! ### Before the game -/

/-- `join`. -/
def join (userId agentId : String) : Method PawnhouseGame Unit := do
  let self ← get
  if self.phase ≠ .registration ∧ self.phase ≠ .portfolioSetup then
    throw "game no longer accepts participants"
  else if userId.isEmpty ∨ agentId.isEmpty then throw "user_id and agent_id are required"
  else if userId ∈ self.users then throw "one user may join a game only once"
  else if (self.participants.get agentId).isSome then throw "an agent may join a game only once"
  else if self.config.maxParticipants ≤ self.participants.length then
    throw "game participant limit reached"
  else do
    modify fun g => { g with users := g.users ++ [userId] }
    modify fun g => { g with participants := g.participants.set agentId { userId, agentId } }
    modify fun g => { g with phase := .portfolioSetup }

/-- `configure_portfolio`. -/
def configurePortfolio (agentId : String) (portfolio : Portfolio) : Method PawnhouseGame Unit := do
  let self ← get
  if self.phase ≠ .portfolioSetup then throw "portfolios can only change during setup"
  else
    match self.participants.get agentId with
    | none => throw "agent is not a game participant"
    | some participant =>
      modify fun g =>
        { g with
          participants := g.participants.set agentId { participant with portfolio := portfolio } }

/-- `self.participants[agent_id].portfolio = portfolio`. -/
def assignPortfolio (participants : Dict String GameParticipant) (entry : String × Portfolio) :
    Except String (Dict String GameParticipant) :=
  match participants.get entry.1 with
  | none => .error "KeyError"
  | some participant =>
    .ok (participants.set entry.1 { participant with portfolio := some entry.2 })

/-- The loop that writes the distributed portfolios. -/
def assignPortfolios : List (String × Portfolio) → Method PawnhouseGame Unit
  | [] => pure ()
  | entry :: rest => do
    let self ← get
    let participants ← Method.check (assignPortfolio self.participants entry)
    modify fun g => { g with participants := participants }
    assignPortfolios rest

/-- The balanced mode gives every participant a portfolio. -/
def balance (digest : ByteArray → ByteArray) : Method PawnhouseGame Unit := do
  let self ← get
  if self.config.portfolioMode = .balancedAuto then do
    let portfolios ← Method.check
      (distributeBalancedPortfolios digest self.participants.keys self.eventSeed)
    assignPortfolios portfolios
  else pure ()

/-- The end of `lock_portfolios`. -/
def lockConfigured : Method PawnhouseGame Unit := do
  let self ← get
  if self.participants.values.any (·.portfolio.isNone) then
    throw "every participant must configure a portfolio"
  else modify fun g => { g with phase := .portfolioLocked }

/-- `lock_portfolios`. -/
def lockPortfolios (digest : ByteArray → ByteArray) : Method PawnhouseGame Unit := do
  let self ← get
  if self.phase ≠ .portfolioSetup then throw "game is not in portfolio setup"
  else if (self.participants.length : Int) < self.config.minParticipants then
    throw "not enough participants"
  else do
    balance digest
    lockConfigured

/-! ### Rounds -/

/-- `reveal_current_event`. -/
def revealCurrentEvent : Method PawnhouseGame WorldSnapshot := do
  let self ← get
  if self.phase ≠ .running ∨ self.roundPhase ≠ some .eventReveal then
    throw "game is not ready to reveal an event"
  else do
    let event ← Method.check (index self.events (self.currentRound - 1))
    let snapshot ← Method.onField (·.world) (fun g w => { g with world := w })
      (WorldState.reveal event.eventId self.currentRound)
    modify fun g => { g with roundPhase := some .decide }
    return snapshot

/-- `start`. -/
def start : Method PawnhouseGame WorldSnapshot := do
  let self ← get
  if self.phase ≠ .portfolioLocked then throw "portfolios must be locked before start"
  else do
    modify fun g => { g with phase := .running }
    modify fun g => { g with currentRound := 1 }
    modify fun g => { g with roundPhase := some .eventReveal }
    revealCurrentEvent

/-- The table `allowed` of `move_round_phase`. -/
def allowed : RoundPhase → Option RoundPhase
  | .decide => some .match
  | .match => some .negotiate
  | .negotiate => some .settle
  | .settle => some .roundClose
  | .roundClose => some .completed
  | _ => none

/-- `move_round_phase`. -/
def moveRoundPhase (expected target : RoundPhase) : Method PawnhouseGame Unit := do
  let self ← get
  if self.phase ≠ .running ∨ self.roundPhase ≠ some expected then
    throw "invalid round phase transition"
  else if allowed expected ≠ some target then throw "invalid round phase transition"
  else modify fun g => { g with roundPhase := some target }

/-- `next_round`. -/
def nextRound : Method PawnhouseGame (Option WorldSnapshot) := do
  let self ← get
  if self.phase ≠ .running ∨ self.roundPhase ≠ some .completed then
    throw "current round is not complete"
  else if self.config.roundCount ≤ self.currentRound then do
    modify fun g => { g with phase := .finalValuation }
    modify fun g => { g with roundPhase := none }
    return none
  else do
    modify fun g => { g with currentRound := g.currentRound + 1 }
    modify fun g => { g with roundPhase := some .eventReveal }
    let snapshot ← revealCurrentEvent
    return some snapshot

/-! ### After the game -/

/-- The portfolios that `complete` ranks. -/
def finalPortfolios (participants : Dict String GameParticipant) :
    Except String (Dict String Portfolio) :=
  participants.foldlM (fun portfolios e =>
    match e.2.portfolio with
    | none => .error "participant portfolio is missing"
    | some portfolio => .ok (Dict.set portfolios e.1 portfolio)) []

/-- `complete`. -/
def complete : Method PawnhouseGame (List RankingEntry) := do
  let self ← get
  if self.phase ≠ .finalValuation then throw "game is not ready for final valuation"
  else do
    let snapshot ← Method.check (self.world.snapshot self.config.roundCount)
    let portfolios ← Method.check (finalPortfolios self.participants)
    let rankings ← Method.check (calculateRankings portfolios snapshot.finalPrices)
    modify fun g => { g with rankings := rankings }
    modify fun g => { g with phase := .completed }
    return rankings

/-! ### Runs -/

/-- A call of one of the eight methods. -/
inductive Call
  | join (userId agentId : String)
  | configurePortfolio (agentId : String) (portfolio : Portfolio)
  | lockPortfolios
  | start
  | revealCurrentEvent
  | moveRoundPhase (expected target : RoundPhase)
  | nextRound
  | complete
deriving DecidableEq

/-- The method that is called, without what it returns. -/
def perform (digest : ByteArray → ByteArray) : Call → Method PawnhouseGame Unit
  | .join userId agentId => join userId agentId
  | .configurePortfolio agentId portfolio => configurePortfolio agentId portfolio
  | .lockPortfolios => lockPortfolios digest
  | .start => do let _ ← start; return
  | .revealCurrentEvent => do let _ ← revealCurrentEvent; return
  | .moveRoundPhase expected target => moveRoundPhase expected target
  | .nextRound => do let _ ← nextRound; return
  | .complete => do let _ ← complete; return

/-- The game after some calls, each of which may have raised. -/
def run (digest : ByteArray → ByteArray) (g : PawnhouseGame) (calls : List Call) : PawnhouseGame :=
  calls.foldl (fun g c => (perform digest c).after g) g

end PawnhouseGame

end Arena402.Game.Aggregate
