/-
`summarize_round_liquidity`: how many pairs the published limits of a round allow.
-/
import Arena402.Game.Events
import Arena402.Game.Tables

namespace Arena402.Game.Liquidity

/-- `LiquidityIntent`: what its constructor checks are fields. -/
structure LiquidityIntent where
  participantId : String
  side : MarketSide
  good : Good
  limitPriceAtomic : Nat
  participantIdGiven : participantId ≠ "" := by decide
  limitPositive : 0 < limitPriceAtomic := by decide

/-- The intents of a good, and how many trades they allow. -/
structure GoodLiquiditySummary where
  buyIntentCount : Nat
  sellIntentCount : Nat
  oppositeSideCapacity : Nat
  priceCompatibleCapacity : Nat
deriving DecidableEq

/-- The summary of a round. -/
structure RoundLiquiditySummary where
  participantCount : Int
  intentCount : Nat
  passCount : Int
  oppositeSideCapacity : Nat
  priceCompatibleCapacity : Nat
  byGood : Good → GoodLiquiditySummary

/-- The loop of `_compatible_capacity`, over sorted limits. -/
def capacityLoop : List Nat → List Nat → Nat
  | [], _ => 0
  | _, [] => 0
  | buyer :: buyers, seller :: sellers =>
    if seller ≤ buyer then capacityLoop buyers sellers + 1
    else capacityLoop buyers (seller :: sellers)

/-- `_compatible_capacity` -/
def compatibleCapacity (buyerLimits sellerLimits : List Nat) : Nat :=
  capacityLoop (buyerLimits.insertionSort (· ≤ ·))
    (sellerLimits.insertionSort (· ≤ ·))

/-- The intents of one side of a good. -/
def intentsOf (intents : List LiquidityIntent) (good : Good) (side : MarketSide) :
    List LiquidityIntent :=
  intents.filter fun i => i.good = good && i.side = side

/-- The summary of one good. -/
def goodSummary (intents : List LiquidityIntent) (good : Good) : GoodLiquiditySummary :=
  let limits (side : MarketSide) : List Nat := (intentsOf intents good side).map (·.limitPriceAtomic)
  { buyIntentCount := (limits .buy).length
    sellIntentCount := (limits .sell).length
    oppositeSideCapacity := min (limits .buy).length (limits .sell).length
    priceCompatibleCapacity := compatibleCapacity (limits .buy) (limits .sell) }

/-- `summarize_round_liquidity` -/
def summarizeRoundLiquidity (participantCount : Int) (intents : List LiquidityIntent) :
    Except String RoundLiquiditySummary :=
  if participantCount < 0 then .error "participant_count must be a non-negative integer"
  else if ¬ (intents.map (·.participantId)).Nodup then
    .error "a participant may publish at most one intent"
  else if participantCount < intents.length then
    .error "intent count cannot exceed participant count"
  else
    let byGood := goodSummary intents
    .ok
      { participantCount := participantCount
        intentCount := intents.length
        passCount := participantCount - intents.length
        oppositeSideCapacity := (goods.map fun good => (byGood good).oppositeSideCapacity).sum
        priceCompatibleCapacity := (goods.map fun good => (byGood good).priceCompatibleCapacity).sum
        byGood := byGood }

end Arena402.Game.Liquidity
