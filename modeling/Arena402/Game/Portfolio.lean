/-
Portfolios: what a participant starts with, what it is worth, and the final ranking.

An initial portfolio is worth exactly 20 gold at the initial prices.  In the balanced mode
each agent gets one unit of a good drawn from a hash of its id and the rest in cash.
`digest` stands for `hashlib.sha256(..).digest()`.
-/
import Arena402.Game.Events

namespace Arena402.Game

open Py

/-- `INITIAL_NET_WORTH_ATOMIC`: `gold("20")`. -/
def initialNetWorthAtomic : Int := 20000000

/-- `normalize_holdings`. -/
def normalizeHoldings (values : Dict String Int) : Except String (Dict String Int) :=
  let unknown := values.keys.filter fun good => good ∉ goods.map Good.id
  if !unknown.isEmpty then
    .error ("unknown goods: " ++ ", ".intercalate (unknown.insertionSort (· ≤ ·)))
  else
    goods.mapM fun good =>
      let quantity := (values.get good.id).getD 0
      if quantity < 0 || 1000000 < quantity then
        .error "holding quantity is outside the Arena bound"
      else .ok (good.id, quantity)

/-- `portfolio_value`; the type leaves only prices of the canonical goods. -/
def portfolioValue (cashAtomic : Int) (holdings : Dict String Int) (prices : PerGood) :
    Except String Int :=
  if cashAtomic < 0 then .error "cash cannot be negative"
  else do
    let normalized ← normalizeHoldings holdings
    return cashAtomic + (goods.map fun good => (normalized.get good.id).getD 0 * prices good).sum

/-- Gold and goods. -/
structure Portfolio where
  cashAtomic : Int
  holdings : Dict String Int
deriving DecidableEq, Repr

namespace Portfolio

/-- `initial`. -/
def initial (cashAtomic : Int) (holdings : Dict String Int) (prices : PerGood := initialPrices) :
    Except String Portfolio := do
  let normalized ← normalizeHoldings holdings
  let value ← portfolioValue cashAtomic normalized prices
  if value ≠ initialNetWorthAtomic then
    .error "initial cash plus holdings must equal exactly 20 gold"
  else .ok ⟨cashAtomic, normalized⟩

/-- `net_worth`. -/
def netWorth (p : Portfolio) (prices : PerGood) : Except String Int :=
  portfolioValue p.cashAtomic p.holdings prices

end Portfolio

/-! ### Balanced portfolios -/

section

variable (digest : ByteArray → ByteArray)

/-- The good that an agent draws: the first four bytes of the hash, big endian, modulo the
    number of goods. -/
def drawnGood (seed agentId : String) (index : Nat) : Good :=
  let hash := digest s!"{seed}:{agentId}:{index}".toUTF8
  let value := (hash.toList.take 4).foldl (fun n byte => n * 256 + byte.toNat) 0
  goods.get ⟨value % goods.length, Nat.mod_lt _ (by decide)⟩

/-- The holdings of one unit of a good. -/
def oneUnit (good : Good) : Dict String Int :=
  goods.map fun other => (other.id, if other = good then 1 else 0)

/-- The portfolio of one agent. -/
def balancedPortfolio (seed : String) (prices : PerGood) (entry : String × Nat) :
    Except String Portfolio :=
  let good := drawnGood digest seed entry.1 entry.2
  Portfolio.initial (initialNetWorthAtomic - prices good) (oneUnit good) prices

/-- `distribute_balanced_portfolios`. -/
def distributeBalancedPortfolios (agentIds : List String) (seed : String)
    (prices : PerGood := initialPrices) : Except String (Dict String Portfolio) :=
  if agentIds.dedup.length ≠ agentIds.length then .error "agent ids must be unique"
  else
    agentIds.zipIdx.foldlM (fun portfolios entry => do
      let portfolio ← balancedPortfolio digest seed prices entry
      return portfolios.set entry.1 portfolio) []

end

/-! ### Ranking -/

/-- A place in the ranking. -/
structure RankingEntry where
  rank : Nat
  agentId : String
  netWorthAtomic : Int
  tier : String
deriving DecidableEq, Repr

/-- `promotion_tier`; the float quotient `rank / participant_count` lies on the same side of
    0.25 and 0.6 as the exact one. -/
def promotionTier (rank participantCount : Nat) : String :=
  if rank = 1 then "公爵"
  else if rank * 4 ≤ participantCount then "御用商人"
  else if rank * 5 ≤ participantCount * 3 then "王城行商"
  else "流浪商贩"

/-- `key=lambda item: (-item[1], item[0])`. -/
def rankedBefore (a b : String × Int) : Bool :=
  b.2 < a.2 || (b.2 = a.2 && a.1 ≤ b.1)

/-- `calculate_rankings`. -/
def calculateRankings (portfolios : Dict String Portfolio) (finalPrices : PerGood) :
    Except String (List RankingEntry) :=
  if portfolios.isEmpty then .ok []
  else do
    let worths ← portfolios.mapM fun e => do
      let worth ← e.2.netWorth finalPrices
      return (e.1, worth)
    let ordered := worths.insertionSort fun a b => rankedBefore a b
    return (ordered.zipIdx 1).map fun (entry, index) =>
      ⟨index, entry.1, entry.2, promotionTier index ordered.length⟩

end Arena402.Game
