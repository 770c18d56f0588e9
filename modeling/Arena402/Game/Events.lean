/-
The event engine: goods, event effects and the world they act on.

A world keeps its catalog, its base prices and the list of revealed events.  A snapshot is
computed from that list alone: every event revealed by the round acts on the final prices,
and the events still active in the round act on the market.  `reveal` writes the list before
it computes the snapshot, so it is a method; the computation itself may raise.
-/
import Arena402.Core.Hashing
import Arena402.Game.Money
import Arena402.Lib.Dict
import Arena402.Lib.Method

namespace Arena402.Game

open Py

/-! ### Goods -/

/-- `GoodId`. -/
inductive Good
  | grain
  | iron
  | warhorse
  | gems
deriving DecidableEq, Repr

/-- The id of a good. -/
def Good.id : Good → String
  | .grain => "grain"
  | .iron => "iron"
  | .warhorse => "warhorse"
  | .gems => "gems"

/-- `GOOD_IDS`. -/
def goods : List Good :=
  [.grain, .iron, .warhorse, .gems]

/-- A mapping with exactly the canonical goods as its keys. -/
abbrev PerGood := Good → Int

/-- `INITIAL_PRICES`: `gold("2")`, `gold("5")`, `gold("8")` and `gold("3")`. -/
def initialPrices : PerGood
  | .grain => 2000000
  | .iron => 5000000
  | .warhorse => 8000000
  | .gems => 3000000

/-! ### Events -/

/-- What an effect does. -/
inductive EffectKind
  | priceMultiplyBps
  | priceResetToBase
  | supplyIndexAddBps
  | bubbleAddBps
  | bubbleClear
  | createRoyalOrder
deriving DecidableEq, Repr

def EffectKind.value : EffectKind → String
  | .priceMultiplyBps => "price_multiply_bps"
  | .priceResetToBase => "price_reset_to_base"
  | .supplyIndexAddBps => "supply_index_add_bps"
  | .bubbleAddBps => "bubble_add_bps"
  | .bubbleClear => "bubble_clear"
  | .createRoyalOrder => "create_royal_order"

/-- Which price an effect is on. -/
inductive PriceTarget
  | market
  | final
  | both
deriving DecidableEq, Repr

def PriceTarget.value : PriceTarget → String
  | .market => "market"
  | .final => "final"
  | .both => "both"

/-- One effect of an event. -/
structure EventEffect where
  kind : EffectKind
  good : Good
  target : PriceTarget := .market
  basisPoints : Option Int := none
  orderPriceAtomic : Option Int := none
  orderLimit : Option Int := none
deriving DecidableEq, Repr

namespace EventEffect

/-- The kinds that need basis points. -/
def needsBps (e : EventEffect) : Bool :=
  e.kind = .priceMultiplyBps || e.kind = .supplyIndexAddBps || e.kind = .bubbleAddBps

/-- `__post_init__`; the types leave only canonical goods and targets. -/
def postInit (e : EventEffect) : Except String EventEffect :=
  if e.needsBps && e.basisPoints.isNone then .error s!"{e.kind.value} requires basis_points"
  else if !e.needsBps && e.basisPoints.isSome then
    .error s!"{e.kind.value} does not accept basis_points"
  else if e.kind = .createRoyalOrder then
    match e.orderPriceAtomic, e.orderLimit with
    | some price, some limit =>
      if price ≤ 0 || limit ≤ 0 then
        .error "create_royal_order requires a positive price and limit"
      else .ok e
    | _, _ => .error "create_royal_order requires a positive price and limit"
  else if e.orderPriceAtomic.isSome || e.orderLimit.isSome then
    .error "only create_royal_order accepts order fields"
  else .ok e

/-- The fields of `to_wire`. -/
def wireFields (e : EventEffect) : List (String × Json) :=
  [("kind", .str e.kind.value), ("good", .str e.good.id), ("target", .str e.target.value)] ++
    Json.optField "basisPoints" (e.basisPoints.map .int) ++
    Json.optField "orderPriceAtomic" (e.orderPriceAtomic.map .intStr) ++
    Json.optField "orderLimit" (e.orderLimit.map .int)

/-- `to_wire`. -/
def toWire (e : EventEffect) : Json :=
  .object e.wireFields

end EventEffect

/-- An event with its effects. -/
structure WorldEvent where
  eventId : String
  displayName : String
  narrative : String
  revealRound : Int
  durationRounds : Option Int
  effects : List EventEffect
  schemaVersion : String := "arena.world-event.v1"
deriving DecidableEq, Repr

/-- `_EVENT_ID`: a lower-case letter and 2 to 63 letters, digits or dashes. -/
def eventIdPattern (s : String) : Bool :=
  let lowerCase (c : Char) : Bool := 'a' ≤ c && c ≤ 'z'
  match s.toList with
  | [] => false
  | c :: rest =>
    lowerCase c && 2 ≤ rest.length && rest.length ≤ 63 &&
      rest.all fun d => lowerCase d || d.isDigit || d = '-'

namespace WorldEvent

/-- `__post_init__`. -/
def postInit (e : WorldEvent) : Except String WorldEvent :=
  if !eventIdPattern e.eventId then .error "event_id must be a lowercase kebab identifier"
  else if (strip e.displayName.toList).isEmpty || 100 < e.displayName.length then
    .error "event display name is required"
  else if 1000 < e.narrative.length then .error "event narrative is too long"
  else if e.revealRound < 1 then .error "reveal_round must be positive"
  else if e.durationRounds.any (· < 1) then .error "duration_rounds must be positive or null"
  else if e.effects.isEmpty then .error "an event must contain at least one effect"
  else .ok e

/-- An event that the constructors accept, with its effects. -/
def Constructible (e : WorldEvent) : Prop :=
  e.postInit = .ok e ∧ ∀ effect ∈ e.effects, effect.postInit = .ok effect

/-- `active_in_round`. -/
def activeInRound (e : WorldEvent) (roundIndex : Int) : Bool :=
  if roundIndex < e.revealRound then false
  else
    match e.durationRounds with
    | none => true
    | some duration => roundIndex < e.revealRound + duration

/-- The fields of `to_wire`. -/
def wireFields (e : WorldEvent) : List (String × Json) :=
  [("eventId", .str e.eventId),
    ("displayName", .str e.displayName),
    ("narrative", .str e.narrative),
    ("revealRound", .int e.revealRound),
    ("durationRounds", .opt .int e.durationRounds),
    ("effects", .list (e.effects.map EventEffect.toWire)),
    ("schemaVersion", .str e.schemaVersion)]

/-- `to_wire`. -/
def toWire (e : WorldEvent) : Json :=
  .object e.wireFields

end WorldEvent

/-! ### Commitment -/

/-- What the commitment is over. -/
def scheduleFields (events : List WorldEvent) (seed : String) : List (String × Json) :=
  [("seed", .str seed),
    ("events", .list (events.map WorldEvent.toWire)),
    ("schemaVersion", .str "arena.event-schedule.v1")]

/-- The payload that `schedule_commitment` hashes. -/
def schedulePayload (events : List WorldEvent) (seed : String) : Json :=
  .object (scheduleFields events seed)

/-- `schedule_commitment`. -/
def scheduleCommitment (hexdigest : ByteArray → String) (events : List WorldEvent)
    (seed : String) : Except String String :=
  if seed.isEmpty then .error "event seed is required"
  else .ok ("sha256:" ++ hexdigest (schedulePayload events seed).encode)

/-! ### The world -/

/-- An order of the crown. -/
structure RoyalOrder where
  eventId : String
  good : Good
  priceAtomic : Int
  quantityLimit : Int
deriving DecidableEq, Repr

/-- What is published of a round. -/
structure WorldSnapshot where
  roundIndex : Int
  marketPrices : PerGood
  finalPrices : PerGood
  supplyIndexBps : PerGood
  bubblePremiumBps : PerGood
  royalOrders : List RoyalOrder
  revealedEventIds : List String

/-- The catalog, the base prices and what was revealed so far. -/
structure WorldState where
  eventCatalog : Dict String WorldEvent
  basePrices : PerGood := initialPrices
  revealedEventIds : List String := []

/-- The tables that `snapshot` fills. -/
structure Board where
  market : PerGood
  final : PerGood
  supply : PerGood
  bubble : PerGood
  orders : List RoyalOrder

/-- `apply_basis_points`, by its message when it raises. -/
def adjusted (valueAtomic : Int) (basisPoints : Option Int) : Except String Int :=
  (applyBasisPoints valueAtomic (basisPoints.getD 0)).mapError MoneyError.message

/-- `_apply_market_effect`. -/
def applyMarketEffect (basePrices : PerGood) (eventId : String) (b : Board) (effect : EventEffect) :
    Except String Board :=
  if effect.target = .final then .ok b
  else
    let good := effect.good
    match effect.kind with
    | .priceMultiplyBps => do
      let price ← adjusted (b.market good) effect.basisPoints
      return { b with market := Function.update b.market good price }
    | .priceResetToBase =>
      .ok { b with market := Function.update b.market good (basePrices good) }
    | .supplyIndexAddBps =>
      .ok { b with
        supply := Function.update b.supply good
          (max 0 (b.supply good + effect.basisPoints.getD 0)) }
    | .bubbleAddBps =>
      .ok { b with
        bubble := Function.update b.bubble good (b.bubble good + effect.basisPoints.getD 0) }
    | .bubbleClear => .ok { b with bubble := Function.update b.bubble good 0 }
    | .createRoyalOrder =>
      match effect.orderPriceAtomic, effect.orderLimit with
      | some price, some limit => .ok { b with orders := b.orders ++ [⟨eventId, good, price, limit⟩] }
      | _, _ => .error "AssertionError"

/-- `_apply_final_effect`. -/
def applyFinalEffect (basePrices : PerGood) (b : Board) (effect : EventEffect) :
    Except String Board :=
  if effect.target = .market then .ok b
  else
    let good := effect.good
    match effect.kind with
    | .priceMultiplyBps => do
      let price ← adjusted (b.final good) effect.basisPoints
      return { b with final := Function.update b.final good price }
    | .priceResetToBase => .ok { b with final := Function.update b.final good (basePrices good) }
    | _ => .ok b

/-- The first half of the loop's body in `snapshot`: only an active event acts on the market. -/
def applyToMarket (basePrices : PerGood) (roundIndex : Int) (b : Board) (event : WorldEvent) :
    Except String Board :=
  if event.activeInRound roundIndex then
    event.effects.foldlM (applyMarketEffect basePrices event.eventId) b
  else .ok b

/-- The loop's body in `snapshot`. -/
def applyEvent (basePrices : PerGood) (roundIndex : Int) (b : Board) (event : WorldEvent) :
    Except String Board := do
  let b ← applyToMarket basePrices roundIndex b event
  event.effects.foldlM (applyFinalEffect basePrices) b

namespace WorldState

/-- `__post_init__`; the type leaves only mappings of the canonical goods. -/
def postInit (w : WorldState) : Except String WorldState :=
  if goods.any fun good => w.basePrices good ≤ 0 then .error "base prices must be positive integers"
  else .ok w

/-- `self.event_catalog[event_id]`. -/
def event (w : WorldState) (eventId : String) : Except String WorldEvent :=
  match w.eventCatalog.get eventId with
  | some e => .ok e
  | none => .error "KeyError"

/-- The tables before any event. -/
def board (w : WorldState) : Board where
  market := w.basePrices
  final := w.basePrices
  supply _ := 10000
  bubble _ := 0
  orders := []

/-- `snapshot`. -/
def snapshot (w : WorldState) (roundIndex : Int) : Except String WorldSnapshot :=
  if roundIndex < 0 then .error "round_index cannot be negative"
  else do
    let events ← w.revealedEventIds.mapM w.event
    let revealed := events.filter fun e => e.revealRound ≤ roundIndex
    let b ← revealed.foldlM (applyEvent w.basePrices roundIndex) w.board
    return {
      roundIndex := roundIndex
      marketPrices := b.market
      finalPrices := b.final
      supplyIndexBps := b.supply
      bubblePremiumBps := b.bubble
      royalOrders := b.orders
      revealedEventIds := w.revealedEventIds }

/-- `reveal`. -/
def reveal (eventId : String) (roundIndex : Int) : Method WorldState WorldSnapshot := do
  let self ← get
  match self.eventCatalog.get eventId with
  | none => throw s!"unknown event: {eventId}"
  | some event =>
    if event.revealRound ≠ roundIndex then
      throw "event cannot be revealed outside its scheduled round"
    else if eventId ∈ self.revealedEventIds then throw "event was already revealed"
    else do
      modify fun w => { w with revealedEventIds := w.revealedEventIds ++ [eventId] }
      let self ← get
      Method.check (self.snapshot roundIndex)

end WorldState

end Arena402.Game
