/-
The decisions of a round and the first-come pairing that follows them, for Agents and for rules.
-/
import Arena402.Game.HostedNegotiation
import Arena402.Game.RuleRuntime
import Arena402.Game.Views

namespace Arena402.Game

open Py

namespace Pawnhouse

/-! ### Decisions -/

/-- The limit of a decision; one that does not convert counts as none. -/
def decisionLimit (o : Order) : Option Nat :=
  o.limitPrice.bind fun p =>
    match gold (.text p.value.formatF) with
    | .ok n => some n
    | .error _ => none

/-- `INSERT .. ON CONFLICT (source_result_id) DO NOTHING`. -/
def insertPoolEntry (s : Pawnhouse) (entryId : String) (entry : PoolEntry) : Pawnhouse :=
  if s.poolEntries.values.any fun x => x.sourceResultId = entry.sourceResultId then s
  else { s with poolEntries := s.poolEntries.set entryId entry }

/-- What a decision asks for; a sale without the goods is a pass. -/
def decisionOf (s : Pawnhouse) (participantId : String) (action : Action) :
    Option (MarketSide × Order) :=
  match action with
  | .buy o => if goodIds.contains o.good then some (.buy, o) else none
  | .sell o =>
    if goodIds.contains o.good &&
        (s.holdings.get (participantId, o.good)).any fun n => (o.quantity : Int) ≤ n then
      some (.sell, o)
    else none
  | _ => none

/-- The action that an entry of this side was. -/
def sideAction : MarketSide → AllowedDecideAction
  | .buy => .buy
  | .sell => .sell

/-- `apply_hosted_decision`. -/
def applyHostedDecision (s : Pawnhouse) (roundId participantId resultId : String)
    (resultReceivedAt : UtcDateTime) (action : Action) : Except String Pawnhouse :=
  match s.decisionEvents.get resultId with
  | some _ => .ok s
  | none =>
    match s.decisionOf participantId action with
    | none =>
      let pass : DecisionEvent := ⟨roundId, participantId, .pass, none, 1, none⟩
      .ok { s with decisionEvents := s.decisionEvents.set resultId pass }
    | some (side, o) =>
      let entryId := s!"pool:{roundId}:{participantId}"
      let entry : PoolEntry :=
        { roundId := roundId
          participantId := participantId
          sourceResultId := resultId
          side := side
          goodId := o.good
          quantity := o.quantity
          limitPriceAtomic := decisionLimit o
          resultReceivedAt := resultReceivedAt }
      let event : DecisionEvent :=
        ⟨roundId, participantId, sideAction side, some o.good, o.quantity, decisionLimit o⟩
      if (s.poolEntries.get entryId).isSome then .error "unique_violation"
      else
        .ok { s.insertPoolEntry entryId entry with
          decisionEvents := s.decisionEvents.set resultId event }

/-! ### First-come pairing -/

/-- `_limits_overlap`. -/
def limitsOverlap (buyer seller : PoolEntry) : Bool :=
  match buyer.limitPriceAtomic, seller.limitPriceAtomic with
  | some b, some s => s ≤ b
  | _, _ => true

/-- By receive time, then by id. -/
def enteredBefore (a b : String × PoolEntry) : Bool :=
  a.2.resultReceivedAt < b.2.resultReceivedAt ||
    (a.2.resultReceivedAt = b.2.resultReceivedAt && a.1 ≤ b.1)

/-- The pairing of a buyer with a seller. -/
def pairingOf (buyer seller : String × PoolEntry) (sequence : Nat) : PairingRow where
  roundId := buyer.2.roundId
  goodId := buyer.2.goodId
  buyerEntryId := buyer.1
  sellerEntryId := seller.1
  buyerParticipantId := buyer.2.participantId
  sellerParticipantId := seller.2.participantId
  pairingSequence := sequence
  quantity := min buyer.2.quantity seller.2.quantity
  buyerLimitPriceAtomic := buyer.2.limitPriceAtomic
  sellerLimitPriceAtomic := seller.2.limitPriceAtomic

/-- The loop of `fcfs_pair` over the buyers of one good: each takes the first seller left
    whose limit overlaps. -/
def pairGood (gameId good : String) : List (String × PoolEntry) → List (String × PoolEntry) →
    Nat → Except String (List (String × PairingRow))
  | [], _, _ => .ok []
  | buyer :: buyers, sellers, sequence =>
    match sellers.find? fun seller => limitsOverlap buyer.2 seller.2 with
    | none => pairGood gameId good buyers sellers sequence
    | some seller =>
      if buyer.2.participantId = seller.2.participantId then
        .error "a participant cannot trade with itself"
      else do
        let rest ← pairGood gameId good buyers
          (sellers.eraseP fun seller => limitsOverlap buyer.2 seller.2) (sequence + 1)
        return (s!"pair:{gameId}:{buyer.2.roundId}:{good}:{sequence + 1}",
          pairingOf buyer seller (sequence + 1)) :: rest

/-- `fcfs_pair`. -/
def fcfsPair (gameId : String) (entries : List (String × PoolEntry)) :
    Except String (List (String × PairingRow)) := do
  let pairs ← goodIds.mapM fun good =>
    let side (x : MarketSide) := (entries.filter fun e => e.2.goodId = good && e.2.side = x).insertionSort
      fun a b => enteredBefore a b
    pairGood gameId good (side .buy) (side .sell) 0
  return pairs.flatten

/-- A pairing and its negotiation. -/
def insertPairing (now : UtcDateTime) (s : Pawnhouse) (x : String × PairingRow) :
    Except String Pawnhouse :=
  if (s.pairings.get x.1).isSome || (s.negotiations.get ("neg:" ++ x.1)).isSome then
    .error "unique_violation"
  else
    .ok { s with
      pairings := s.pairings.set x.1 x.2
      poolEntries := s.poolEntries.update
        (fun id _ => id = x.2.buyerEntryId || id = x.2.sellerEntryId)
        fun e => { e with status := .paired }
      negotiations := s.negotiations.set ("neg:" ++ x.1)
        { pairingId := x.1
          roundId := x.2.roundId
          buyerParticipantId := x.2.buyerParticipantId
          sellerParticipantId := x.2.sellerParticipantId
          maxTurns := s.game.maxNegotiationTurns
          actionDeadlineAt := s.actionDeadline now } }

/-- `UPDATE rounds SET phase = .., phase_deadline_at = .. WHERE round_id = .. AND phase = ..`. -/
def movePhase (s : Pawnhouse) (roundId : String) (old new : RoundPhase)
    (deadline : Option UtcDateTime → Option UtcDateTime) : Pawnhouse :=
  { s with
    rounds := s.rounds.update (fun id r => id = roundId && r.phase = old)
      fun r => { r with
        phase := new
        phaseDeadlineAt := deadline r.phaseDeadlineAt } }

/-- The entries that `_pair_locked_round` reads. -/
def unmatchedEntries (s : Pawnhouse) (roundId : String) : List (String × PoolEntry) :=
  (s.poolEntries.filter fun e => e.2.roundId = roundId && e.2.status = .unmatched).insertionSort
    fun a b => enteredBefore a b

/-- `pair_hosted_round`. -/
def pairHostedRound (s : Pawnhouse) (roundId : String) (now : UtcDateTime) :
    Except String Pawnhouse := do
  let s := s.movePhase roundId .decide .matching fun _ => none
  let pairs ← fcfsPair s.game.gameId (s.unmatchedEntries roundId)
  let s ← pairs.foldlM (insertPairing now) s
  return s.movePhase roundId .matching .negotiate id

/-! ### The rule market -/

/-- The side that a rule takes, and what its decision counts as. -/
def ruleSide : RuleIntent → Option MarketSide
  | .buy => some .buy
  | .sell => some .sell
  | .pass => none

/-- `INSERT .. ON CONFLICT (game_id, source_idempotency_key) DO NOTHING` of a decision. -/
def recordDecision (s : Pawnhouse) (resultId : String) (event : DecisionEvent) : Pawnhouse :=
  match s.decisionEvents.get resultId with
  | some _ => s
  | none => { s with decisionEvents := s.decisionEvents.set resultId event }

/-- One turn of the loop in `run_rule_market`, for a participant and its rule. -/
def applyRuleDecision (roundId : String) (receivedAt : String → UtcDateTime) (s : Pawnhouse)
    (config : String × RuleStrategy) : Except String Pawnhouse :=
  let decision := config.2.decide
  let resultId := s!"rule-result:{roundId}:{config.1}"
  match ruleSide decision.action, decision.good with
  | some side, some good =>
    let entryId := s!"pool:{roundId}:{config.1}"
    let entry : PoolEntry :=
      { roundId := roundId
        participantId := config.1
        sourceResultId := resultId
        side := side
        goodId := good.id
        quantity := 1
        limitPriceAtomic := some config.2.targetPriceAtomic.toNat
        resultReceivedAt := receivedAt config.1 }
    if side = .sell && !(s.holdings.get (config.1, good.id)).any fun n => 1 ≤ n then
      .error "seller_has_no_inventory"
    else if (s.poolEntries.get entryId).isSome ||
        s.poolEntries.values.any fun x => x.sourceResultId = resultId then
      .error "unique_violation"
    else
      .ok ({ s with poolEntries := s.poolEntries.set entryId entry }.recordDecision resultId
        ⟨roundId, config.1, sideAction side, some good.id, 1, none⟩)
  | _, _ => .ok (s.recordDecision resultId ⟨roundId, config.1, .pass, none, 1, none⟩)

/-- `run_rule_market`, with the rows of `rule_runtime_configs` in the order of the query, the times
    at which the entries are received, and the loop of `_run_rule_negotiations` over the
    negotiations that are active. -/
def runRuleMarket (s : Pawnhouse) (configs : List (String × RuleStrategy))
    (receivedAt : String → UtcDateTime) (now : UtcDateTime)
    (runRuleNegotiations : Pawnhouse → List String → Except String Pawnhouse) :
    Except String Pawnhouse :=
  match s.currentRound with
  | none => .error "round_not_in_decide"
  | some (roundId, row) =>
    if row.phase ≠ .decide then .error "round_not_in_decide"
    else if s.game.marketProtocol ≠ .fcfsV1 then .error "rule_market_requires_fcfs_protocol"
    else do
      let active := configs.filter fun c => (s.participants.get c.1).any fun p => p.status = .active
      let s ← active.foldlM (applyRuleDecision roundId receivedAt) s
      let s ← s.pairHostedRound roundId now
      let negotiations := Dict.keys (s.negotiations.filter fun n =>
        n.2.roundId = roundId && n.2.status = .negotiating)
      if negotiations.isEmpty then return s else runRuleNegotiations s negotiations

end Pawnhouse

end Arena402.Game
