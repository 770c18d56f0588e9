/-
`fcfs_pair`: the pairing of the entries of one game round.

For each good the buyers are taken by receive time, and each takes the first seller left whose limit
overlaps.  The entries come in any order, with any ids; the checks of `fcfs_pair` are part of it.
-/
import Arena402.Game.Events
import Arena402.Game.Tables

namespace Arena402.Game.Market

/-- `PoolEntry`: what its constructor checks are fields. -/
structure PoolEntry where
  poolEntryId : String
  gameId : String
  roundId : String
  participantId : String
  side : MarketSide
  good : Good
  enteredAt : UtcDateTime
  quantity : Nat := 1
  limitPriceAtomic : Option Nat := none
  quantityPositive : 0 < quantity := by decide
  limitPositive : limitPriceAtomic.all (0 < ·) = true := by decide
deriving DecidableEq

/-- A buyer and a seller of one good. -/
structure Pairing where
  pairingId : String
  gameId : String
  roundId : String
  good : Good
  buyerEntryId : String
  sellerEntryId : String
  buyerParticipantId : String
  sellerParticipantId : String
  sequence : Nat
  quantity : Nat
  buyerLimitPriceAtomic : Option Nat
  sellerLimitPriceAtomic : Option Nat
  quantityPositive : 0 < quantity
deriving DecidableEq

/-- `_limits_overlap` -/
def limitsOverlap (buyer seller : PoolEntry) : Bool :=
  match buyer.limitPriceAtomic, seller.limitPriceAtomic with
  | some b, some s => s ≤ b
  | _, _ => true

/-- The order of the sort keys `(entered_at, pool_entry_id)`. -/
def SortsBefore (a b : PoolEntry) : Prop :=
  a.enteredAt < b.enteredAt ∨ (a.enteredAt = b.enteredAt ∧ a.poolEntryId ≤ b.poolEntryId)

instance (a b : PoolEntry) : Decidable (SortsBefore a b) :=
  inferInstanceAs (Decidable (_ ∨ _))

/-- The entries of one side of a good, sorted. -/
def sideOf (entries : List PoolEntry) (good : Good) (side : MarketSide) : List PoolEntry :=
  (entries.filter fun e => e.good = good && e.side = side).insertionSort SortsBefore

/-- The pairing of these two, with their overlap. -/
def pairingOf (good : Good) (buyer seller : PoolEntry) (sequence : Nat) : Pairing where
  pairingId := s!"pair:{buyer.gameId}:{buyer.roundId}:{good.id}:{sequence}"
  gameId := buyer.gameId
  roundId := buyer.roundId
  good := good
  buyerEntryId := buyer.poolEntryId
  sellerEntryId := seller.poolEntryId
  buyerParticipantId := buyer.participantId
  sellerParticipantId := seller.participantId
  sequence := sequence
  quantity := min buyer.quantity seller.quantity
  buyerLimitPriceAtomic := buyer.limitPriceAtomic
  sellerLimitPriceAtomic := seller.limitPriceAtomic
  quantityPositive := lt_min buyer.quantityPositive seller.quantityPositive

/-- The loop over the buyers of a good, with the sellers that are left and the last sequence number. -/
def pairGood (good : Good) : List PoolEntry → List PoolEntry → Nat → Except String (List Pairing)
  | [], _, _ => .ok []
  | buyer :: buyers, unmatchedSellers, sequence =>
    match unmatchedSellers.find? (limitsOverlap buyer) with
    | none => pairGood good buyers unmatchedSellers sequence
    | some seller =>
      if buyer.participantId = seller.participantId then
        .error "a participant cannot trade with itself"
      else do
        let rest ← pairGood good buyers (unmatchedSellers.eraseP (limitsOverlap buyer)) (sequence + 1)
        return pairingOf good buyer seller (sequence + 1) :: rest

/-- `fcfs_pair` -/
def fcfsPair (entries : List PoolEntry) : Except String (List Pairing) :=
  if ¬ (entries.map (·.poolEntryId)).Nodup then .error "pool entry ids must be unique"
  else if entries.isEmpty then .ok []
  else if (entries.map (·.gameId)).dedup.length ≠ 1 ∨ (entries.map (·.roundId)).dedup.length ≠ 1 then
    .error "FCFS pairing accepts one game round at a time"
  else do
    let output ← goods.mapM fun good =>
      pairGood good (sideOf entries good .buy) (sideOf entries good .sell) 0
    return output.flatten

end Arena402.Game.Market
