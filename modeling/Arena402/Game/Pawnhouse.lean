/-
The repository of one game: the ledger of its deals together with its rounds, the FCFS
pool, the agent market and the negotiations.

The queries that several operations share are here.  A query with an `ORDER BY` sorts by
the same columns; where the first column is the time of insertion, the order of the
dictionary is that order already.
-/
import Mathlib.Data.List.Sort
import Arena402.Game.SettlementLedger
import Arena402.Game.Negotiation

namespace Arena402.Game

open Py

/-- `GOOD_IDS`. -/
def goodIds : List String := ["grain", "iron", "warhorse", "gems"]

/-- The payload of a `decision.applied` event, which the next round reads back. -/
structure DecisionEvent where
  roundId : String
  participantId : String
  action : AllowedDecideAction
  goodId : Option String
  quantity : Nat
  limitPriceAtomic : Option Nat

/-- The tables of `PostgresPawnhouseRepository` for one game. -/
structure Pawnhouse extends Ledger where
  game : GameRow
  rounds : Dict String RoundRow
  accounts : Dict String SettlementAccount := []
  prices : Dict Nat (List PriceRow) := []
  eventOccurrences : List EventOccurrence := []
  decisionEvents : Dict String DecisionEvent := []
  liquidityEvents : Dict String ArenaRoundLiquidityV1 := []
  poolEntries : Dict String PoolEntry := []
  messages : List NegotiationMessage := []
  marketIntents : Dict String MarketIntentRow := []
  sessions : Dict String RfqSession := []
  requests : Dict String RequestRow := []
  slots : Dict (String × String) Slot := []
  deals : Dict String MarketDeal := []
  resultApplications : Dict String ResultApplication := []
  /-- The run of each round. -/
  runs : Dict String RuntimeRun := []

namespace Pawnhouse

/-- The round that `current_round` names. -/
def currentRound (s : Pawnhouse) : Option (String × RoundRow) :=
  s.rounds.find? fun r => r.2.roundIndex = s.game.currentRound

/-- The index of a round of this id. -/
def roundIndexOf (s : Pawnhouse) (roundId : String) : Option Nat :=
  (s.rounds.get roundId).map (·.roundIndex)

/-- A pairing that ended without a deal. -/
def failedPairing (p : PairingRow) : Bool :=
  p.status = .rejected || p.status = .timeout

/-- How many pairings of a participant ended without a deal. -/
def failedNegotiations (s : Pawnhouse) (participantId : String) : Nat :=
  (s.pairings.values.filter fun p => failedPairing p &&
    (p.buyerParticipantId = participantId || p.sellerParticipantId = participantId)).length

/-- The world events revealed up to a round. -/
def eventsUpTo (s : Pawnhouse) (roundIndex : Nat) : List EventOccurrence :=
  s.eventOccurrences.filter fun e => e.roundIndex ≤ roundIndex

/-- The messages of a negotiation, by turn. -/
def messagesOf (s : Pawnhouse) (negotiationId : String) : List NegotiationMessage :=
  (s.messages.filter fun m => m.negotiationId = negotiationId).insertionSort
    fun a b => a.turnSequence ≤ b.turnSequence

/-- So many milliseconds, in microseconds. -/
def milliseconds (n : Nat) : Int :=
  n * 1000

/-- `now + action_timeout_ms`. -/
def actionDeadline (s : Pawnhouse) (now : UtcDateTime) : UtcDateTime :=
  now + milliseconds s.game.actionTimeoutMs

end Pawnhouse

end Arena402.Game
