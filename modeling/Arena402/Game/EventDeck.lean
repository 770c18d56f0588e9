/-
The built-in event decks, price catalogs and schedules.

A schedule takes one event per round: the five demo events in their fixed order, or the
deck's events in the order of their digests under the seed.  The digest is a parameter.
-/
import Arena402.Game.Events

namespace Arena402.Game

open Py

/-! ### Presets -/

namespace Presets

def palaceRequisition : WorldEvent where
  eventId := "palace-requisition"
  displayName := "王宫征召"
  narrative := "北境战事再起。王宫征召推高精铁现货需求，终场估值温和上升。"
  revealRound := 1
  durationRounds := some 1
  effects :=
    [{ kind := .priceMultiplyBps, good := .iron, basisPoints := some 10000 },
      { kind := .priceMultiplyBps, good := .iron, target := .final, basisPoints := some 1000 }]

def newIronMine : WorldEvent where
  eventId := "new-iron-mine"
  displayName := "新矿开采"
  narrative := "王城外发现新铁矿，精铁流通骤增，旧库存价格承压。"
  revealRound := 2
  durationRounds := none
  effects :=
    [{ kind := .supplyIndexAddBps, good := .iron, basisPoints := some 3000 },
      { kind := .priceMultiplyBps, good := .iron, basisPoints := some (-2000) },
      { kind := .priceMultiplyBps, good := .iron, target := .final, basisPoints := some (-1000) }]

def granaryFire : WorldEvent where
  eventId := "granary-fire"
  displayName := "粮仓失火"
  narrative := "王城粮仓化为灰烬，粮草流通收缩，饥饿推高了每袋粮的价格。"
  revealRound := 3
  durationRounds := none
  effects :=
    [{ kind := .supplyIndexAddBps, good := .grain, basisPoints := some (-2500) },
      { kind := .priceMultiplyBps, good := .grain, basisPoints := some 3000 },
      { kind := .priceMultiplyBps, good := .grain, target := .final, basisPoints := some 1500 }]

def nobleGemFever : WorldEvent where
  eventId := "noble-gem-fever"
  displayName := "贵族狂热"
  narrative := "传言新王将以宝石铺满王座，贵族争相囤积，泡沫开始膨胀。"
  revealRound := 2
  durationRounds := none
  effects :=
    [{ kind := .bubbleAddBps, good := .gems, basisPoints := some 2500 },
      { kind := .priceMultiplyBps, good := .gems, target := .both, basisPoints := some 2500 }]

def coronationCancelled : WorldEvent where
  eventId := "coronation-cancelled"
  displayName := "加冕取消"
  narrative := "新王死于宫变。宝石王座无人问津，泡沫顷刻回归基本面。"
  revealRound := 5
  durationRounds := none
  effects :=
    [{ kind := .bubbleClear, good := .gems },
      { kind := .priceResetToBase, good := .gems, target := .both }]

def barbarianSiege : WorldEvent where
  eventId := "barbarian-siege"
  displayName := "蛮族围城"
  narrative := "补给线被切断，粮草成为活命之物，宝石却再也换不来一块面包。"
  revealRound := 4
  durationRounds := none
  effects :=
    [{ kind := .priceMultiplyBps, good := .grain, basisPoints := some 5000 },
      { kind := .priceMultiplyBps, good := .grain, target := .final, basisPoints := some 3000 },
      { kind := .priceMultiplyBps, good := .gems, basisPoints := some (-4000) },
      { kind := .priceMultiplyBps, good := .gems, target := .final, basisPoints := some (-2500) }]

def peaceRumor : WorldEvent where
  eventId := "peace-rumor"
  displayName := "议和传闻"
  narrative := "三位王子或将停战。军需价格回落，贵族重新谈起奢侈和体面。"
  revealRound := 4
  durationRounds := none
  effects :=
    [{ kind := .priceMultiplyBps, good := .iron, basisPoints := some (-2000) },
      { kind := .priceMultiplyBps, good := .iron, target := .final, basisPoints := some (-1000) },
      { kind := .priceMultiplyBps, good := .warhorse, basisPoints := some (-2000) },
      { kind := .priceMultiplyBps, good := .warhorse,
        target := .final, basisPoints := some (-1000) },
      { kind := .priceMultiplyBps, good := .gems, basisPoints := some 2500 },
      { kind := .priceMultiplyBps, good := .gems, target := .final, basisPoints := some 1000 }]

def merchantCaravan : WorldEvent where
  eventId := "merchant-caravan"
  displayName := "商队入城"
  narrative := "南方商队穿过封锁抵达王城，粮草与宝石的短期供给同时增加。"
  revealRound := 1
  durationRounds := some 1
  effects :=
    [{ kind := .supplyIndexAddBps, good := .grain, basisPoints := some 2000 },
      { kind := .priceMultiplyBps, good := .grain, basisPoints := some (-1000) },
      { kind := .priceMultiplyBps, good := .gems, basisPoints := some (-1000) }]

def royalWedding : WorldEvent where
  eventId := "royal-wedding"
  displayName := "王室婚礼"
  narrative := "王室突然宣布联姻，贵族争购宝石与战马以赶赴盛典。"
  revealRound := 1
  durationRounds := none
  effects :=
    [{ kind := .priceMultiplyBps, good := .gems, target := .both, basisPoints := some 2000 },
      { kind := .priceMultiplyBps, good := .warhorse, target := .both, basisPoints := some 1500 }]

def stablePlague : WorldEvent where
  eventId := "stable-plague"
  displayName := "马厩疫病"
  narrative := "王城马厩爆发疫病，战马交易骤冷，幸存马匹的终场估值承压。"
  revealRound := 1
  durationRounds := none
  effects :=
    [{ kind := .supplyIndexAddBps, good := .warhorse, basisPoints := some (-2000) },
      { kind := .priceMultiplyBps, good := .warhorse,
        target := .both, basisPoints := some (-2000) }]

def grainShortageRumorV2 : WorldEvent where
  eventId := "grain-shortage-rumor-v2"
  displayName := "粮荒传闻"
  narrative := "粮仓盘点传出缺口，但终场基本面只受到温和影响。"
  revealRound := 1
  durationRounds := some 1
  effects :=
    [{ kind := .priceMultiplyBps, good := .grain, basisPoints := some 900 },
      { kind := .priceMultiplyBps, good := .grain, target := .final, basisPoints := some 200 }]

def harvestReliefV2 : WorldEvent where
  eventId := "harvest-relief-v2"
  displayName := "丰收缓解"
  narrative := "早熟作物到港，粮价短期回落，长期供给仅小幅改善。"
  revealRound := 1
  durationRounds := some 1
  effects :=
    [{ kind := .priceMultiplyBps, good := .grain, basisPoints := some (-800) },
      { kind := .priceMultiplyBps, good := .grain, target := .final, basisPoints := some (-200) }]

def ironOrderRumorV2 : WorldEvent where
  eventId := "iron-order-rumor-v2"
  displayName := "军械订单传闻"
  narrative := "军械订单推高精铁现货，终场需求预期只温和上修。"
  revealRound := 1
  durationRounds := some 1
  effects :=
    [{ kind := .priceMultiplyBps, good := .iron, basisPoints := some 900 },
      { kind := .priceMultiplyBps, good := .iron, target := .final, basisPoints := some 200 }]

def mineOutputRevisionV2 : WorldEvent where
  eventId := "mine-output-revision-v2"
  displayName := "矿产预期上调"
  narrative := "新矿试产压低精铁现货，长期供给预期仅小幅上升。"
  revealRound := 1
  durationRounds := some 1
  effects :=
    [{ kind := .priceMultiplyBps, good := .iron, basisPoints := some (-800) },
      { kind := .priceMultiplyBps, good := .iron, target := .final, basisPoints := some (-200) }]

def cavalryReviewV2 : WorldEvent where
  eventId := "cavalry-review-v2"
  displayName := "骑兵检阅"
  narrative := "临时检阅抬高战马现货需求，终场估值只小幅上升。"
  revealRound := 1
  durationRounds := some 1
  effects :=
    [{ kind := .priceMultiplyBps, good := .warhorse, basisPoints := some 900 },
      { kind := .priceMultiplyBps, good := .warhorse, target := .final, basisPoints := some 200 }]

def stableRecoveryV2 : WorldEvent where
  eventId := "stable-recovery-v2"
  displayName := "马厩复产"
  narrative := "马厩恢复供应使战马现货回落，长期影响保持温和。"
  revealRound := 1
  durationRounds := some 1
  effects :=
    [{ kind := .priceMultiplyBps, good := .warhorse, basisPoints := some (-800) },
      { kind := .priceMultiplyBps, good := .warhorse,
        target := .final, basisPoints := some (-200) }]

def jewelAuctionV2 : WorldEvent where
  eventId := "jewel-auction-v2"
  displayName := "珠宝拍卖"
  narrative := "王城拍卖抬高宝石现货热度，终场收藏价值小幅上修。"
  revealRound := 1
  durationRounds := some 1
  effects :=
    [{ kind := .priceMultiplyBps, good := .gems, basisPoints := some 900 },
      { kind := .priceMultiplyBps, good := .gems, target := .final, basisPoints := some 200 }]

def gemShipmentV2 : WorldEvent where
  eventId := "gem-shipment-v2"
  displayName := "宝石到港"
  narrative := "新到货压低宝石现货，终场稀缺性仅小幅下降。"
  revealRound := 1
  durationRounds := some 1
  effects :=
    [{ kind := .priceMultiplyBps, good := .gems, basisPoints := some (-800) },
      { kind := .priceMultiplyBps, good := .gems, target := .final, basisPoints := some (-200) }]

def militaryProcurementShiftV2 : WorldEvent where
  eventId := "military-procurement-shift-v2"
  displayName := "军需调整"
  narrative := "军需预算转向装备与骑兵，粮草现货需求暂时放缓。"
  revealRound := 1
  durationRounds := some 1
  effects :=
    [{ kind := .priceMultiplyBps, good := .iron, basisPoints := some 600 },
      { kind := .priceMultiplyBps, good := .warhorse, basisPoints := some 600 },
      { kind := .priceMultiplyBps, good := .grain, basisPoints := some (-400) }]

def courtFestivalBudgetV2 : WorldEvent where
  eventId := "court-festival-budget-v2"
  displayName := "宫廷庆典预算"
  narrative := "宫廷预算转向宴席与珠宝，军需现货短期降温。"
  revealRound := 1
  durationRounds := some 1
  effects :=
    [{ kind := .priceMultiplyBps, good := .gems, basisPoints := some 600 },
      { kind := .priceMultiplyBps, good := .grain, basisPoints := some 400 },
      { kind := .priceMultiplyBps, good := .iron, basisPoints := some (-400) },
      { kind := .priceMultiplyBps, good := .warhorse, basisPoints := some (-400) }]

end Presets

open Presets in
/-- `MVP_EVENT_CATALOG`, by the event ids. -/
def mvpEventCatalog : List WorldEvent :=
  [palaceRequisition, newIronMine, granaryFire,
    nobleGemFever, coronationCancelled, barbarianSiege,
    peaceRumor, merchantCaravan, royalWedding,
    stablePlague]

open Presets in
/-- `EXPERIMENTAL_EVENT_CATALOG_V2`, by the event ids. -/
def experimentalEventCatalogV2 : List WorldEvent :=
  [grainShortageRumorV2, harvestReliefV2, ironOrderRumorV2,
    mineOutputRevisionV2, cavalryReviewV2, stableRecoveryV2,
    jewelAuctionV2, gemShipmentV2, militaryProcurementShiftV2,
    courtFestivalBudgetV2]

open Presets in
/-- `demo_events`. -/
def demoEvents : List WorldEvent :=
  [palaceRequisition, nobleGemFever, granaryFire, peaceRumor, coronationCancelled]

/-! ### Price catalogs -/

/-- A catalog of base prices. -/
structure PriceCatalog where
  catalogId : String
  prices : PerGood

def standardPriceCatalog : PriceCatalog where
  catalogId := "pawnhouse-price-v1"
  prices := initialPrices

def experimentalPriceCatalogV2 : PriceCatalog where
  catalogId := "pawnhouse-price-v2"
  prices
    | .grain => 2500000
    | .iron => 4000000
    | .warhorse => 6000000
    | .gems => 3000000

/-- `_PRICE_CATALOGS`. -/
def priceCatalogs : List PriceCatalog :=
  [standardPriceCatalog, experimentalPriceCatalogV2]

/-- `resolve_price_catalog`. -/
def resolvePriceCatalog (catalogId : String) : Except String PriceCatalog :=
  match priceCatalogs.find? (·.catalogId = catalogId) with
  | some catalog => .ok catalog
  | none => .error "unknown price catalog"

/-! ### Schedules -/

def standardEventDeckId : String := "pawnhouse-standard-v1"
def experimentalEventDeckIdV2 : String := "pawnhouse-standard-v2"

/-- The catalog of a deck. -/
def deckCatalog (deckId : String) : Option (List WorldEvent) :=
  if deckId = standardEventDeckId then some mvpEventCatalog
  else if deckId = experimentalEventDeckIdV2 then some experimentalEventCatalogV2
  else none

/-- The text whose digest orders an event under a seed. -/
def deckKey (deckId seed eventId : String) : String :=
  (if deckId = standardEventDeckId then "arena.event-deck.v1\x00" else "arena.event-deck.v2\x00")
    ++ deckId ++ "\x00" ++ seed ++ "\x00" ++ eventId

/-- `replace(event, reveal_round=..)`, which runs `__post_init__` again. -/
def WorldEvent.replaceRevealRound (e : WorldEvent) (roundIndex : Int) : Except String WorldEvent :=
  WorldEvent.postInit { e with revealRound := roundIndex }

/-- How a schedule takes its events. -/
inductive EventMode
  | fixedDemo
  | seededShuffle
deriving DecidableEq, Repr

/-- The mode of this name. -/
def EventMode.ofText (mode : String) : Option EventMode :=
  if mode = "fixed_demo" then some .fixedDemo
  else if mode = "seeded_shuffle" then some .seededShuffle
  else none

section

-- `hashlib.sha256(text.encode("utf-8")).digest()`, as a list of bytes.
variable (digest : String → List Nat)

/-- The events of a deck by their digests. -/
def orderedDeck (catalog : List WorldEvent) (deckId seed : String) : List WorldEvent :=
  catalog.insertionSort fun a b =>
    digest (deckKey deckId seed a.eventId) ≤ digest (deckKey deckId seed b.eventId)

/-- The first events of the ordered deck, one per round. -/
def shuffledEvents (catalog : List WorldEvent) (roundCount : Nat) (deckId seed : String) :
    Except String (List WorldEvent) :=
  (((orderedDeck digest catalog deckId seed).take roundCount).zipIdx 1).mapM
    fun e => e.1.replaceRevealRound e.2

/-- `build_event_schedule`. -/
def buildEventSchedule (roundCount : Int) (seed deckId mode : String) :
    Except String (List WorldEvent) :=
  match deckCatalog deckId with
  | none => .error "unknown event deck"
  | some catalog =>
    if roundCount < 1 || (catalog.length : Int) < roundCount then
      .error s!"round_count must be between 1 and {catalog.length}"
    else if seed.isEmpty then .error "event seed is required"
    else
      match EventMode.ofText mode with
      | some .fixedDemo =>
        if deckId ≠ standardEventDeckId then .error "fixed_demo_requires_standard_v1_deck"
        else if roundCount ≠ 5 then .error "fixed_demo_requires_exactly_five_rounds"
        else .ok demoEvents
      | some .seededShuffle => shuffledEvents digest catalog roundCount.toNat deckId seed
      | none => .error "unknown event mode"

end

/-- The world of a schedule: `{event.event_id: event for event in events}` and base prices. -/
def scheduledWorld (events : List WorldEvent) (basePrices : PerGood) : WorldState where
  eventCatalog := events.foldl (fun d e => Dict.set d e.eventId e) []
  basePrices := basePrices

end Arena402.Game
