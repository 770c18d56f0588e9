/-
The rows of one game: its rounds, its participants, the FCFS pool, the agent market and
the negotiations.

Each structure is one table with the columns that the modelled operations read or write.
A public message is stored as the wire type, so a row cannot hold one that is too long or
blank.  Atomic amounts are natural numbers and timestamps are UTC instants.
-/
import Arena402.Contracts.Tasks

namespace Arena402.Game

/-! ### Statuses -/

/-- `arena402.game_participants.status` -/
inductive ParticipantStatus
  | joined
  | active
  | settling
  | completed
  | cancelled
deriving DecidableEq, Repr

/-- The statuses of pairings, negotiations and market engagements.  `negotiating` is the one
    that negotiations and engagements call `active`. -/
inductive DealStatus
  | negotiating
  | acceptedPendingSettlement
  | settling
  | settled
  | settlementFailed
  | rejected
  | timeout
deriving DecidableEq, Repr

/-- `arena402.games.market_protocol` -/
inductive MarketProtocol
  | fcfsV1
  | agentA2aV1
deriving DecidableEq, Repr

/-- `arena402.games.phase` -/
inductive GamePhase
  | running
  | completed
deriving DecidableEq, Repr

/-- `arena402.rounds.phase` -/
inductive RoundPhase
  | eventReveal
  | decide
  | matching
  | negotiate
  | settle
  | roundClose
  | completed
  | cancelled
deriving DecidableEq, Repr

/-- A side of the market. -/
inductive MarketSide
  | buy
  | sell
deriving DecidableEq, Repr

/-- `arena402.pool_entries.status` -/
inductive PoolStatus
  | unmatched
  | paired
deriving DecidableEq, Repr

/-- The statuses of a market intent that the operations set. -/
inductive MarketIntentStatus
  | «open»
  | reserved
  | expired
deriving DecidableEq, Repr

/-- `arena402.market_rfq_sessions.status` -/
inductive SessionStatus
  | active
  | stopped
  | completed
  | expired
deriving DecidableEq, Repr

/-- `arena402.market_negotiation_requests.status` -/
inductive RequestStatus
  | pending
  | engaged
  | rejected
  | counterpartyBusy
  | expired
deriving DecidableEq, Repr

/-- `arena402.participant_round_slots.status` -/
inductive SlotStatus
  | available
  | reserved
  | consumed
deriving DecidableEq, Repr

inductive RuntimeKind
  | connector
  | hosted
  | nativeA2a
  | rule
deriving DecidableEq, Repr

/-- `IN ('hosted', 'connector')` -/
def RuntimeKind.isTask (kind : RuntimeKind) : Bool :=
  kind = .hosted || kind = .connector

/-- `arena402.runtime_runs.status` -/
inductive RunStatus
  | queued
  | leased
  | running
  | completed
  | failed
deriving DecidableEq, Repr

/-- Whether the settlement of deals is switched off, or on for one chain. -/
inductive AuthorizationMode
  | none
  | singleEip3009 (chainId : Nat) (tokenAddress : String) (requiredConfirmations : Nat)
deriving DecidableEq, Repr

/-! ### Rows -/

/-- A row of `arena402.games`. -/
structure GameRow where
  gameId : String
  marketProtocol : MarketProtocol
  phase : GamePhase := .running
  roundCount : Nat
  currentRound : Nat
  actionTimeoutMs : Nat
  maxNegotiationTurns : Nat
  authorizationMode : AuthorizationMode

/-- A row of `arena402.rounds`. -/
structure RoundRow where
  roundIndex : Nat
  phase : RoundPhase
  phaseDeadlineAt : Option UtcDateTime

/-- A participant of a game, with the Agent's name and its frozen configuration. -/
structure Participant where
  gameId : String
  status : ParticipantStatus
  agentId : String
  name : Option String := none
  runtimeKind : RuntimeKind := .hosted
  configSnapshot : List (Key × Value) := []

/-- The account a participant settles with. -/
structure SettlementAccount where
  chainId : Nat
  accountAddress : String

/-- The prices of a good in a round. -/
structure PriceRow where
  goodId : String
  marketPriceAtomic : Nat
  finalPriceAtomic : Nat

/-- A row of `arena402.event_occurrences`. -/
structure EventOccurrence where
  eventId : String
  roundIndex : Nat
  publicSnapshot : List (String × Value)
  revealedAt : UtcDateTime

/-- A row of `arena402.pool_entries`. -/
structure PoolEntry where
  roundId : String
  participantId : String
  sourceResultId : String
  side : MarketSide
  goodId : String
  quantity : Nat
  limitPriceAtomic : Option Nat
  resultReceivedAt : UtcDateTime
  marketEngagementId : Option String := none
  status : PoolStatus := .unmatched

/-- A row of `arena402.pairings`. -/
structure PairingRow where
  roundId : String
  goodId : String
  buyerEntryId : String
  sellerEntryId : String
  buyerParticipantId : String
  sellerParticipantId : String
  pairingSequence : Nat
  quantity : Nat
  buyerLimitPriceAtomic : Option Nat
  sellerLimitPriceAtomic : Option Nat
  status : DealStatus := .negotiating

/-- `nextRole` is `none` once the negotiation has ended. -/
structure NegotiationRow where
  pairingId : String
  roundId : String
  buyerParticipantId : String
  sellerParticipantId : String
  maxTurns : Nat
  turnCount : Nat := 0
  nextRole : Option Role := some .buyer
  acceptedPriceAtomic : Option Nat := none
  actionDeadlineAt : UtcDateTime
  status : DealStatus := .negotiating
deriving DecidableEq

/-- A row of `arena402.negotiation_messages`. -/
structure NegotiationMessage where
  negotiationId : String
  sourceResultId : String
  turnSequence : Nat
  actorRole : Role
  action : NegotiationVerb
  priceAtomic : Option Nat
  publicMessage : Option PublicMessage

/-- A row of `arena402.market_intents`. -/
structure MarketIntentRow where
  roundId : String
  participantId : String
  sourceResultId : String
  side : MarketSide
  goodId : String
  publicPriceAtomic : Nat
  limitPriceAtomic : Nat
  publicMessage : Option PublicMessage
  status : MarketIntentStatus := .open
  expiresAt : UtcDateTime

/-- A row of `arena402.market_rfq_sessions`. -/
structure RfqSession where
  roundId : String
  buyerParticipantId : String
  status : SessionStatus := .active
  deadlineAt : UtcDateTime

/-- A row of `arena402.market_negotiation_requests`. -/
structure RequestRow where
  roundId : String
  buyerIntentId : String
  sellerIntentId : String
  buyerParticipantId : String
  sellerParticipantId : String
  goodId : String
  sourceResultId : String
  openingPriceAtomic : Nat
  publicMessage : PublicMessage
  attemptSequence : Nat
  status : RequestStatus := .pending
  createdAt : UtcDateTime

/-- A row of `arena402.market_engagements`. -/
structure Engagement where
  negotiationId : String
  requestId : String
  roundId : String
  buyerIntentId : String
  sellerIntentId : String
  buyerParticipantId : String
  sellerParticipantId : String
  goodId : String
  selectionResultId : String
  status : DealStatus := .negotiating

/-- A slot that is not available names its engagement. -/
structure Slot where
  status : SlotStatus
  engagementId : Option String

/-- A row of `arena402.market_deals`. -/
structure MarketDeal where
  engagementId : String
  requestId : String
  roundId : String
  buyerParticipantId : String
  sellerParticipantId : String
  goodId : String
  unitPriceAtomic : Nat
  latestProposalResultId : String
  latestProposalIsRfq : Bool
  acceptanceResultId : String
  acceptedByParticipantId : String

/-- The runtime run of a round. -/
structure RuntimeRun where
  status : RunStatus := .queued
  leasedBy : String := ""
  leaseEpoch : Nat := 0
  leaseExpiresAt : Option UtcDateTime := none
  safeErrorCode : Option String := none

/-- One use of a result by the market. -/
structure ResultApplication where
  roundId : String
  participantId : String
  actionKind : String
  actionId : String
deriving DecidableEq

end Arena402.Game
