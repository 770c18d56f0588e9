/-
`apply_market_feedback`: the prices of a snapshot under the last clearing prices and the buy pressure.

The two mappings need not have every good; what a mapping lacks is `none`.
-/
import Arena402.Game.Events

namespace Arena402.Game

/-- The event price, with a quarter of a positive last clearing price. -/
def blended (eventPrice : Int) (lastPrice : Option Int) : Int :=
  match lastPrice with
  | some last => if 0 < last then (eventPrice * 3 + last).fdiv 4 else eventPrice
  | none => eventPrice

/-- The basis points of a buy pressure, clamped before and after. -/
def pressureEffect (buyPressureBps : Option Int) : Int :=
  let pressure := max (-10000) (min 10000 (buyPressureBps.getD 0))
  max (-2000) (min 2000 (pressure.fdiv 5))

/-- The new price of a good. -/
def feedbackPrice (eventPrice : Int) (lastPrice buyPressureBps : Option Int) : Except String Int := do
  let price ← adjusted (blended eventPrice lastPrice) (some (pressureEffect buyPressureBps))
  return max 1 price

/-- The body of the loop over the goods. -/
def feedbackGood (lastClearingPrices buyPressureBps : Good → Option Int) (market : PerGood)
    (good : Good) : Except String PerGood := do
  let price ← feedbackPrice (market good) (lastClearingPrices good) (buyPressureBps good)
  return Function.update market good price

/-- `apply_market_feedback`. -/
def applyMarketFeedback (snapshot : WorldSnapshot)
    (lastClearingPrices buyPressureBps : Good → Option Int) : Except String WorldSnapshot := do
  let market ← goods.foldlM (feedbackGood lastClearingPrices buyPressureBps) snapshot.marketPrices
  return { snapshot with marketPrices := market }

end Arena402.Game
