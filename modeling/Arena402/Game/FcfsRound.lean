/-
One round of the first-come protocol, as the coordinator drives it.

The decisions are applied in any order, the pool is paired, and then every negotiation runs
on its own: its context is read, a task is created for the turn, and when the result is
there its derived action is applied.  Turns of different negotiations interleave, so a task
may be answered long after its view was built.
-/
import Arena402.Lib.Run
import Arena402.Game.Rounds

namespace Arena402.Game

open Py

variable (intentHash : String → Nat → String) (H : Hashes) (roundId : String)

/-- The tables, and the turn that each negotiation waits for. -/
structure FcfsRound where
  house : Pawnhouse
  asked : Dict String ArenaAgentTaskV1 := []

inductive FcfsEvent
  | decide (core : ArenaCore) (participantId taskId : String) (r : AgentTaskResultV1)
      (receivedAt : UtcDateTime)
  | pair (now : UtcDateTime)
  | ask (negotiationId taskId : String)
  | answer (core : ArenaCore) (negotiationId : String) (r : AgentTaskResultV1)
      (now : UtcDateTime)

namespace FcfsRound

/-- The action that a result is applied with. -/
def derivedAction (task : ArenaAgentTaskV1) (r : AgentTaskResultV1) : Option Action :=
  (deriveApplication task r).action

/-- `_decide_view` and the task of a participant that may decide in this round. -/
def decideTask (s : Pawnhouse) (core : ArenaCore) (participantId taskId : String) :
    Option ArenaAgentTaskV1 := do
  let contexts ← (s.hostedDecideContexts core).toOption
  let c ← contexts.find? fun c => c.participantId = participantId && c.round.roundId = roundId
  let view ← (decideView c).toOption
  return ArenaCore.taskOf H taskId participantId view

/-- `_negotiate_view` and the task of the next turn. -/
def turnTask (s : Pawnhouse) (negotiationId taskId : String) : Option ArenaAgentTaskV1 := do
  let context ← (s.hostedNegotiationContext negotiationId).toOption
  let c ← context
  let view ← (negotiateView c).toOption
  return ArenaCore.taskOf H taskId c.participantId view

/-- One call of the coordinator that returns. -/
def step (t : FcfsRound) : FcfsEvent → Option FcfsRound
  | .decide core participantId taskId r receivedAt => do
    let task ← decideTask H roundId t.house core participantId taskId
    let action ← derivedAction task r
    let house ← (t.house.applyHostedDecision roundId participantId r.resultId receivedAt
      action).toOption
    return { t with house := house }
  | .pair now => do
    let house ← (t.house.pairHostedRound roundId now).toOption
    return { t with house := house }
  | .ask negotiationId taskId => do
    let task ← turnTask H t.house negotiationId taskId
    return { t with asked := t.asked.set negotiationId task }
  | .answer core negotiationId r now => do
    let task ← t.asked.get negotiationId
    let house ← (t.house.applyHostedNegotiationAction intentHash core negotiationId r.resultId
      (derivedAction task r) now).toOption
    return { house := house, asked := t.asked.erase negotiationId }

end FcfsRound

end Arena402.Game
