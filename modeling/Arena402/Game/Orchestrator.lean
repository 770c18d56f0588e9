/-
The orchestrator of the running games.

Each cycle reads the games that can make a transition, oldest first, and performs one
transition on each.  A transition is one transaction on the rows of its game: it commits, or it
raises and leaves them as they were.  The first one that raises ends the cycle, and
`run_forever` starts the next one.

The transitions are parameters, so that what is said here holds whatever they do.
-/
import Arena402.Game.Automation
import Arena402.Game.Rounds

namespace Arena402.Game.Orchestrator

open Py

/-- A game with the time it was started at. -/
structure GameEntry where
  startedAt : Option UtcDateTime
  house : Pawnhouse

/-- The repository: its games by id. -/
abbrev Games := Dict String GameEntry

/-! ### The query -/

/-- The row of `game_state` for a game, joined with its current round. -/
def gameState (entry : GameEntry) : Option Automation.GameState :=
  let house := entry.house
  if house.game.phase ≠ .running then none
  else house.currentRound.map fun (roundId, round) =>
    let kinds := (house.participants.values.filter fun p =>
      p.status = .active || p.status = .settling).map (·.runtimeKind)
    { gameId := house.game.gameId
      startedAt := entry.startedAt
      marketProtocol := house.game.marketProtocol
      roundPhase := round.phase
      participantCount := kinds.length
      allRule := Automation.boolAnd (kinds.map fun kind => kind = .rule)
      allTaskRuntime := Automation.boolAnd (kinds.map (·.isTask))
      runtimeRunStatus := (house.runs.get roundId).map (·.status)
      activeNegotiation := Automation.present (house.negotiations.values.filter fun n =>
        n.roundId = roundId && n.status = .negotiating)
      pendingSettlement := Automation.present (house.pairings.values.filter fun p =>
        p.roundId = roundId && (p.status = .acceptedPendingSettlement || p.status = .settling)) }

/-- The `CASE` of the query. -/
def actionOf (entry : GameEntry) : Option Automation.Action :=
  (gameState entry).bind (·.action)

/-- `ORDER BY started_at NULLS LAST, game_id`. -/
def listedBefore (a b : String × GameEntry) : Prop :=
  match a.2.startedAt, b.2.startedAt with
  | some t, some u => t < u ∨ t = u ∧ a.1 ≤ b.1
  | some _, none => True
  | none, some _ => False
  | none, none => a.1 ≤ b.1

instance (a b : String × GameEntry) : Decidable (listedBefore a b) := by
  unfold listedBefore
  split <;> infer_instance

/-- The games that can make a transition, in the order of the query and without its limit. -/
def executable (games : Games) : List (String × Automation.Action) :=
  (games.insertionSort listedBefore).filterMap fun e => (actionOf e.2).map fun a => (e.1, a)

/-- `actionable_game_actions` -/
def actionableActions (games : Games) (limit : Nat) :
    Except String (List (String × Automation.Action)) :=
  if limit < 1 || 500 < limit then .error "automation game limit must be between 1 and 500"
  else .ok ((executable games).take limit)

/-! ### A cycle -/

/-- `enqueue_agent_runtime_run`, `run_rule_market` and `advance_round_or_game`, on the rows of their
    game. -/
structure Transitions where
  enqueueAgentRuntimeRun : Pawnhouse → Except String Pawnhouse
  runRuleMarket : Pawnhouse → Except String Pawnhouse
  advanceRoundOrGame : Pawnhouse → Except String Pawnhouse

/-- The transition of an action. -/
def Transitions.perform (t : Transitions) : Automation.Action → Pawnhouse → Except String Pawnhouse
  | .enqueueAgentRuntime => t.enqueueAgentRuntimeRun
  | .runRule => t.runRuleMarket
  | .advanceRound => t.advanceRoundOrGame

/-- What a cycle leaves: the games, the transitions it performed and what it raised. -/
structure Cycle where
  games : Games
  performed : List (String × Automation.Action) := []
  error : Option String := none

/-- The loop of `run_once`. -/
def runActions (t : Transitions) : List (String × Automation.Action) → Games → Cycle
  | [], games => { games }
  | (gameId, action) :: rest, games =>
    match games.get gameId with
    | none => { games, error := some "game_not_found" }
    | some entry =>
      match t.perform action entry.house with
      | .error e => { games, error := some e }
      | .ok house =>
        let cycle := runActions t rest (games.set gameId { entry with house })
        { cycle with performed := (gameId, action) :: cycle.performed }

/-- `run_once` -/
def runOnce (t : Transitions) (limit : Nat) (games : Games) : Cycle :=
  match actionableActions games limit with
  | .error e => { games, error := some e }
  | .ok actions => runActions t actions games

/-! ### Cycle after cycle -/

/-- What happens between the cycles: Agents and settlements change each game on its own, and games
    are started. -/
structure Environment where
  change : Nat → String → GameEntry → GameEntry
  started : Nat → Games

/-- What the outside does before a cycle. -/
def Environment.step (env : Environment) (k : Nat) (games : Games) : Games :=
  (env.started k).foldl (fun d e => d.set e.1 e.2) (games.map fun e => (e.1, env.change k e.1 e.2))

/-- The games before each cycle of `run_forever`. -/
def beforeCycle (t : Nat → Transitions) (env : Environment) (limit : Nat) (games : Games) : Nat → Games
  | 0 => games
  | k + 1 => env.step k (runOnce (t k) limit (beforeCycle t env limit games k)).games

end Arena402.Game.Orchestrator
