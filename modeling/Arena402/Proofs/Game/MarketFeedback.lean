/-
What the feedback does to a price, and how far the buy pressure can move it.

A price is the event price blended with a quarter of the last clearing price and then scaled by the
basis points of the pressure.  Blending and scaling are monotone and keep a price positive, and
without pressure nothing is scaled.  The pressure acts with up to 2000 basis points, so it moves a
price by twenty percent at most.  The docstring speaks of two percent: that much is kept only while
the product of the blended price and the basis points stays small.
-/
import Arena402.Game.MarketFeedback
import Arena402.Proofs.Game.EventPrices

namespace Arena402.Game

open Py

/-! ### One price -/

variable {eventPrice eventPrice' : Int} {last last' pressure pressure' : Option Int}

/-- A last clearing price that counts and is followed by a higher one, or the same one. -/
def LastPriceLE (last last' : Option Int) : Prop :=
  last = last' ∨ ∃ price price', last = some price ∧ last' = some price' ∧ 0 < price ∧ price ≤ price'

/-- How far a last clearing price that counts is from the event price. -/
def gap (eventPrice : Int) (last : Option Int) : Int :=
  match last with
  | some price => if 0 < price then price - eventPrice else 0
  | none => 0

theorem blended_some {price : Int} (h : 0 < price) :
    blended eventPrice (some price) = (eventPrice * 3 + price) / 4 := by
  unfold blended
  dsimp only
  rw [if_pos h, Int.fdiv_eq_ediv_of_nonneg _ (by decide)]

theorem blended_uncounted {price : Int} (h : ¬ 0 < price) :
    blended eventPrice (some price) = eventPrice := by
  unfold blended
  dsimp only
  rw [if_neg h]

theorem blended_pos (h : 0 < eventPrice) : 0 < blended eventPrice last := by
  cases last with
  | none => exact h
  | some price =>
      by_cases hprice : 0 < price
      · rw [blended_some hprice]
        omega
      · rw [blended_uncounted hprice]
        exact h

theorem blended_mono (h : eventPrice ≤ eventPrice') (hlast : LastPriceLE last last') :
    blended eventPrice last ≤ blended eventPrice' last' := by
  rcases hlast with rfl | ⟨price, price', rfl, rfl, hpos, hle⟩
  · cases last with
    | none => exact h
    | some price =>
        by_cases hprice : 0 < price
        · rw [blended_some hprice, blended_some hprice]
          omega
        · rw [blended_uncounted hprice, blended_uncounted hprice]
          exact h
  · rw [blended_some hpos, blended_some (lt_of_lt_of_le hpos hle)]
    omega

/-- Blending moves a price by a quarter of the gap, rounded. -/
theorem blended_near : 4 * |blended eventPrice last - eventPrice| < |gap eventPrice last| + 4 := by
  cases last with
  | none => simp [blended, gap]
  | some price =>
      by_cases hprice : 0 < price
      · have hgap : gap eventPrice (some price) = price - eventPrice := if_pos hprice
        rw [blended_some hprice, hgap]
        rcases abs_cases ((eventPrice * 3 + price) / 4 - eventPrice) with ⟨h, hsign⟩ | ⟨h, hsign⟩ <;>
          rcases abs_cases (price - eventPrice) with ⟨h', hsign'⟩ | ⟨h', hsign'⟩ <;> omega
      · have hgap : gap eventPrice (some price) = 0 := if_neg hprice
        rw [blended_uncounted hprice, hgap]
        simp

theorem pressureEffect_range (pressure : Option Int) :
    -2000 ≤ pressureEffect pressure ∧ pressureEffect pressure ≤ 2000 := by
  unfold pressureEffect
  dsimp only
  omega

theorem pressureEffect_mono (h : pressure.getD 0 ≤ pressure'.getD 0) :
    pressureEffect pressure ≤ pressureEffect pressure' := by
  unfold pressureEffect
  dsimp only
  rw [Int.fdiv_eq_ediv_of_nonneg _ (by decide), Int.fdiv_eq_ediv_of_nonneg _ (by decide)]
  omega

theorem pressureEffect_zero (h : pressure.getD 0 = 0) : pressureEffect pressure = 0 := by
  unfold pressureEffect
  rw [h]
  decide

/-- The change of a price by basis points, rounded half up. -/
theorem scaled_eq (price bps : Int) : scaled price bps = price + (price * bps + 5000) / 10000 := by
  unfold scaled
  rw [Int.fdiv_eq_ediv_of_nonneg _ (by decide), mul_add]
  omega

theorem scaled_zero (price : Int) : scaled price 0 = price := by
  rw [scaled_eq, mul_zero]
  omega

theorem scaled_pos {price bps : Int} (hprice : 0 < price) (hbps : -2000 ≤ bps) :
    1 ≤ scaled price bps := by
  have hproduct : price * (-2000) ≤ price * bps := mul_le_mul_of_nonneg_left hbps (le_of_lt hprice)
  rw [scaled_eq]
  omega

theorem scaled_mono {price price' bps bps' : Int} (hprice : 0 < price) (hle : price ≤ price')
    (hlow : -2000 ≤ bps) (hbps : bps ≤ bps') : scaled price bps ≤ scaled price' bps' := by
  have hproduct : price * (10000 + bps) ≤ price' * (10000 + bps') :=
    mul_le_mul hle (by omega) (by omega) (by omega)
  unfold scaled
  rw [Int.fdiv_eq_ediv_of_nonneg _ (by decide), Int.fdiv_eq_ediv_of_nonneg _ (by decide)]
  omega

/-- The price of a good is the blended price scaled by the pressure. -/
theorem feedbackPrice_ok_iff (h : 0 < eventPrice) {price : Int} :
    feedbackPrice eventPrice last pressure = .ok price ↔
      price = scaled (blended eventPrice last) (pressureEffect pressure) ∧ price ≤ maxGoldAtomic := by
  obtain ⟨hlow, hhigh⟩ := pressureEffect_range pressure
  have hblended : 0 < blended eventPrice last := blended_pos h
  have hone := scaled_pos hblended hlow
  have hreturns := adjusted_returnsIff (le_of_lt hblended) (some (pressureEffect pressure))
  simp only [Option.getD_some] at hreturns
  unfold feedbackPrice
  cases hadjusted : adjusted (blended eventPrice last) (some (pressureEffect pressure)) with
  | error e =>
      rw [hadjusted] at hreturns
      constructor
      · intro hc
        cases hc
      · rintro ⟨rfl, hmax⟩
        exact absurd ⟨by omega, by omega, hmax⟩ hreturns
  | ok found =>
      rw [hadjusted] at hreturns
      obtain ⟨⟨-, -, hmax⟩, rfl, -⟩ := hreturns
      have hsame : max 1 (scaled (blended eventPrice last) (pressureEffect pressure)) =
          scaled (blended eventPrice last) (pressureEffect pressure) := max_eq_right hone
      constructor
      · intro hc
        have hprice := (Except.ok.inj hc).symm.trans hsame
        rw [hprice]
        exact ⟨rfl, hmax⟩
      · rintro ⟨rfl, -⟩
        exact congrArg Except.ok hsame

/-! ### The loop over the goods -/

/-- The arguments of a call. -/
structure FeedbackCall where
  snapshot : WorldSnapshot
  lastClearingPrices : Good → Option Int
  buyPressureBps : Good → Option Int

namespace FeedbackCall

def run (x : FeedbackCall) : Except String WorldSnapshot :=
  applyMarketFeedback x.snapshot x.lastClearingPrices x.buyPressureBps

/-- The prices are positive. -/
def Priced (x : FeedbackCall) : Prop :=
  ∀ good, 0 < x.snapshot.marketPrices good

/-- The same call without pressure on a good. -/
def neutralAt (x : FeedbackCall) (good : Good) : FeedbackCall :=
  { x with buyPressureBps := Function.update x.buyPressureBps good (some 0) }

/-- The price of a good before the pressure acts. -/
def anchor (x : FeedbackCall) (good : Good) : Int :=
  blended (x.snapshot.marketPrices good) (x.lastClearingPrices good)

/-- The basis points of the pressure on a good. -/
def effect (x : FeedbackCall) (good : Good) : Int :=
  pressureEffect (x.buyPressureBps good)

end FeedbackCall

variable {x : FeedbackCall} {result : WorldSnapshot}

/-- Each good is given its price once, from the price it had. -/
theorem feedbackGoods_ok_iff {lastPrices pressures : Good → Option Int} :
    ∀ (l : List Good) {market market' : PerGood}, l.Nodup →
      (l.foldlM (feedbackGood lastPrices pressures) market = .ok market' ↔
        (∀ good ∈ l, feedbackPrice (market good) (lastPrices good) (pressures good) =
          .ok (market' good)) ∧ ∀ good, good ∉ l → market' good = market good) := by
  intro l
  induction l with
  | nil =>
      intro market market' _
      constructor
      · intro h
        cases h
        exact ⟨by simp, fun _ _ => rfl⟩
      · rintro ⟨-, h⟩
        exact congrArg Except.ok (funext fun good => (h good (by simp)).symm)
  | cons g rest ih =>
      intro market market' hnodup
      obtain ⟨hg, hrest⟩ := List.nodup_cons.mp hnodup
      rw [List.foldlM_cons]
      unfold feedbackGood
      cases hprice : feedbackPrice (market g) (lastPrices g) (pressures g) with
      | error e =>
          constructor
          · intro h
            cases h
          · rintro ⟨h, -⟩
            have hboth := hprice.symm.trans (h g (by simp))
            cases hboth
      | ok price =>
          refine (ih hrest).trans ?_
          have hother : ∀ good ∈ rest, Function.update market g price good = market good := by
            intro good hgood
            refine Function.update_of_ne ?_ price market
            rintro rfl
            exact hg hgood
          constructor
          · rintro ⟨hin, hout⟩
            have hself : market' g = price := (hout g hg).trans (Function.update_self g price market)
            refine ⟨?_, ?_⟩
            · intro good hgood
              rcases List.mem_cons.mp hgood with rfl | hgood
              · rw [hprice, hself]
              · rw [← hother good hgood]
                exact hin good hgood
            · intro good hgood
              rw [List.mem_cons, not_or] at hgood
              rw [hout good hgood.2]
              exact Function.update_of_ne hgood.1 price market
          · rintro ⟨hin, hout⟩
            have hself : price = market' g :=
              Except.ok.inj (hprice.symm.trans (hin g (by simp)))
            refine ⟨?_, ?_⟩
            · intro good hgood
              rw [hother good hgood]
              exact hin good (List.mem_cons_of_mem g hgood)
            · intro good hgood
              by_cases hsame : good = g
              · rw [hsame, Function.update_self, hself]
              · rw [Function.update_of_ne hsame]
                exact hout good (by simp [hsame, hgood])

/-- What a call returns: a new price for each good and nothing else. -/
theorem FeedbackCall.run_ok_iff (hpriced : x.Priced) :
    x.run = .ok result ↔
      (∀ good, result.marketPrices good = scaled (x.anchor good) (x.effect good) ∧
        result.marketPrices good ≤ maxGoldAtomic) ∧
      result = { x.snapshot with marketPrices := result.marketPrices } := by
  have hall : ∀ good, good ∈ goods := by
    intro good
    cases good <;> decide
  have hnodup : goods.Nodup := by decide
  have hloop := fun market' => @feedbackGoods_ok_iff x.lastClearingPrices x.buyPressureBps goods
    x.snapshot.marketPrices market' hnodup
  unfold FeedbackCall.run applyMarketFeedback
  constructor
  · intro h
    obtain ⟨market, hmarket, h⟩ := ok_of_bind h
    obtain rfl := Except.ok.inj h
    exact ⟨fun good => (feedbackPrice_ok_iff (hpriced good)).mp
      (((hloop market).mp hmarket).1 good (hall good)), rfl⟩
  · rintro ⟨hprices, hframe⟩
    have hmarket := (hloop result.marketPrices).mpr
      ⟨fun good _ => (feedbackPrice_ok_iff (hpriced good)).mpr (hprices good),
        fun good hgood => absurd (hall good) hgood⟩
    rw [hmarket, hframe]
    rfl

/-! ### The promise -/

/-- What the feedback promises of a call and its result, when the pressure may move a price by so
    many percent. -/
structure KeepsPromise (percent : Int) (x : FeedbackCall) (result : WorldSnapshot) : Prop where
  positive : ∀ good, 1 ≤ result.marketPrices good
  /-- higher prices and more pressure never lead to a lower price -/
  monotone : ∀ x' result', FeedbackCall.Priced x' → x'.run = .ok result' → ∀ good,
    x.snapshot.marketPrices good ≤ x'.snapshot.marketPrices good →
    LastPriceLE (x.lastClearingPrices good) (x'.lastClearingPrices good) →
    (x.buyPressureBps good).getD 0 ≤ (x'.buyPressureBps good).getD 0 →
      result.marketPrices good ≤ result'.marketPrices good
  /-- without pressure a price moves by a quarter of the gap, up to one unit -/
  anchored : ∀ good, (x.buyPressureBps good).getD 0 = 0 →
    4 * |result.marketPrices good - x.snapshot.marketPrices good| <
      |gap (x.snapshot.marketPrices good) (x.lastClearingPrices good)| + 4
  /-- the pressure moves a price by the percentage, up to one unit -/
  damped : ∀ good neutral, (x.neutralAt good).run = .ok neutral →
    100 * |result.marketPrices good - neutral.marketPrices good| ≤
      percent * neutral.marketPrices good + 100
  frame : result = { x.snapshot with marketPrices := result.marketPrices }

/-- The blended price and the basis points of the pressure on it are small enough, or there is no
    price without the pressure to compare with. -/
def SmallPressure (x : FeedbackCall) (good : Good) : Prop :=
  x.anchor good ≤ maxGoldAtomic →
    -(10000 * (x.anchor good / 50) + 15000) ≤ x.anchor good * x.effect good ∧
      x.anchor good * x.effect good < 10000 * (x.anchor good / 50) + 15000

/-- Two hundred basis points, a pressure of a thousand, always keep the promise. -/
theorem smallPressure_of_bps {good : Good} (hpos : 0 < x.anchor good)
    (hlow : -200 ≤ x.effect good) (hhigh : x.effect good ≤ 200) : SmallPressure x good := by
  intro _
  have hbelow : x.anchor good * (-200) ≤ x.anchor good * x.effect good :=
    mul_le_mul_of_nonneg_left hlow (le_of_lt hpos)
  have habove : x.anchor good * x.effect good ≤ x.anchor good * 200 :=
    mul_le_mul_of_nonneg_left hhigh (le_of_lt hpos)
  omega

/-- Two percent and a unit, in the product of the price and the basis points. -/
theorem scaled_damped_iff (price bps : Int) :
    100 * |scaled price bps - price| ≤ 2 * price + 100 ↔
      -(10000 * (price / 50) + 15000) ≤ price * bps ∧ price * bps < 10000 * (price / 50) + 15000 := by
  rw [scaled_eq]
  generalize price * bps = product
  rcases abs_cases (price + (product + 5000) / 10000 - price) with ⟨h, hsign⟩ | ⟨h, hsign⟩ <;>
    rw [h] <;> omega

/-- Twenty percent are what 2000 basis points allow. -/
theorem scaled_damped {price bps : Int} (hprice : 0 < price) (hlow : -2000 ≤ bps)
    (hhigh : bps ≤ 2000) : 100 * |scaled price bps - price| ≤ 20 * price + 100 := by
  have hbelow : price * (-2000) ≤ price * bps := mul_le_mul_of_nonneg_left hlow (le_of_lt hprice)
  have habove : price * bps ≤ price * 2000 := mul_le_mul_of_nonneg_left hhigh (le_of_lt hprice)
  rw [scaled_eq]
  generalize price * bps = product at hbelow habove ⊢
  rcases abs_cases (price + (product + 5000) / 10000 - price) with ⟨h, -⟩ | ⟨h, -⟩ <;>
    rw [h] <;> omega

theorem FeedbackCall.effect_neutralAt (x : FeedbackCall) (good : Good) :
    (x.neutralAt good).effect good = 0 := by
  apply pressureEffect_zero
  show (Function.update x.buyPressureBps good (some 0) good).getD 0 = 0
  rw [Function.update_self]
  rfl

theorem FeedbackCall.effect_neutralAt_of_ne {good other : Good} (h : other ≠ good) :
    (x.neutralAt good).effect other = x.effect other := by
  show pressureEffect (Function.update x.buyPressureBps good (some 0) other) = _
  rw [Function.update_of_ne h]
  rfl

/-- The call without pressure on a good. -/
theorem FeedbackCall.neutralAt_run {good : Good} (hpriced : x.Priced) (h : x.run = .ok result)
    (hmax : x.anchor good ≤ maxGoldAtomic) :
    ∃ neutral, (x.neutralAt good).run = .ok neutral := by
  have hprices := ((FeedbackCall.run_ok_iff hpriced).mp h).1
  have hpriced' : (x.neutralAt good).Priced := hpriced
  refine ⟨{ x.snapshot with
    marketPrices := Function.update result.marketPrices good (x.anchor good) }, ?_⟩
  refine (FeedbackCall.run_ok_iff hpriced').mpr ⟨?_, rfl⟩
  intro other
  have hanchor : (x.neutralAt good).anchor other = x.anchor other := rfl
  dsimp only
  by_cases hother : other = good
  · rw [hanchor, hother, FeedbackCall.effect_neutralAt, scaled_zero, Function.update_self]
    exact ⟨rfl, hmax⟩
  · rw [hanchor, FeedbackCall.effect_neutralAt_of_ne hother, Function.update_of_ne hother]
    exact hprices other

/-- A price without pressure is the blended price. -/
theorem FeedbackCall.neutralAt_price {good : Good} (hpriced : x.Priced) {neutral : WorldSnapshot}
    (h : (x.neutralAt good).run = .ok neutral) :
    neutral.marketPrices good = x.anchor good ∧ x.anchor good ≤ maxGoldAtomic := by
  have hpriced' : (x.neutralAt good).Priced := hpriced
  obtain ⟨hprice, hmax⟩ := ((FeedbackCall.run_ok_iff hpriced').mp h).1 good
  rw [FeedbackCall.effect_neutralAt, scaled_zero] at hprice
  rw [hprice] at hmax
  exact ⟨hprice, hmax⟩

/-- What holds of every call that returns, whatever its pressure. -/
theorem keepsPromise_of_damped {percent : Int} (hpriced : x.Priced) (h : x.run = .ok result)
    (hdamped : ∀ good, x.anchor good ≤ maxGoldAtomic →
      100 * |scaled (x.anchor good) (x.effect good) - x.anchor good| ≤
        percent * x.anchor good + 100) : KeepsPromise percent x result := by
  obtain ⟨hprices, hframe⟩ := (FeedbackCall.run_ok_iff hpriced).mp h
  have hanchor : ∀ good, 0 < x.anchor good := fun good => blended_pos (hpriced good)
  refine ⟨?_, ?_, ?_, ?_, hframe⟩
  · intro good
    rw [(hprices good).1]
    exact scaled_pos (hanchor good) (pressureEffect_range _).1
  · intro x' result' hpriced' h' good hmarket hlast hpressure
    have hprices' := ((FeedbackCall.run_ok_iff hpriced').mp h').1
    rw [(hprices good).1, (hprices' good).1]
    exact scaled_mono (hanchor good) (blended_mono hmarket hlast) (pressureEffect_range _).1
      (pressureEffect_mono hpressure)
  · intro good hzero
    have heffect : x.effect good = 0 := pressureEffect_zero hzero
    rw [(hprices good).1, heffect, scaled_zero]
    exact blended_near
  · intro good neutral hneutral
    obtain ⟨hprice, hmax⟩ := FeedbackCall.neutralAt_price hpriced hneutral
    rw [hprice, (hprices good).1]
    exact hdamped good hmax

/-- **In every call that returns, the feedback keeps its promise with twenty percent, and with two
    percent exactly under a small pressure.**  Prices stay positive, grow with the prices and the
    pressure they come from and are anchored by the event price; the two percent hold when the blended
    price times the basis points of the pressure is small. -/
theorem feedback_keeps_promise_iff (x : FeedbackCall) (hpriced : x.Priced) (result : WorldSnapshot)
    (h : x.run = .ok result) :
    KeepsPromise 20 x result ∧ (KeepsPromise 2 x result ↔ ∀ good, SmallPressure x good) := by
  refine ⟨?_, ?_, ?_⟩
  · refine keepsPromise_of_damped hpriced h fun good _ => ?_
    exact scaled_damped (blended_pos (hpriced good)) (pressureEffect_range _).1
      (pressureEffect_range _).2
  · intro hpromise good hmax
    obtain ⟨neutral, hneutral⟩ := FeedbackCall.neutralAt_run hpriced h hmax
    have hdamped := hpromise.damped good neutral hneutral
    have hprices := ((FeedbackCall.run_ok_iff hpriced).mp h).1
    rw [(FeedbackCall.neutralAt_price hpriced hneutral).1, (hprices good).1] at hdamped
    exact (scaled_damped_iff _ _).mp hdamped
  · intro hsmall
    exact keepsPromise_of_damped hpriced h fun good hmax => (scaled_damped_iff _ _).mpr (hsmall good hmax)

/-! ### Iron under pressure -/

namespace Sample

def quietSnapshot : WorldSnapshot where
  roundIndex := 1
  marketPrices := initialPrices
  finalPrices := initialPrices
  supplyIndexBps _ := 10000
  bubblePremiumBps _ := 0
  royalOrders := []
  revealedEventIds := []

/-- A pressure on iron, and no last clearing prices. -/
def ironPressure (bps : Int) : FeedbackCall where
  snapshot := quietSnapshot
  lastClearingPrices _ := none
  buyPressureBps := Function.update (fun _ => none) .iron (some bps)

theorem ironPressure_priced (bps : Int) : (ironPressure bps).Priced := by
  intro good
  show 0 < initialPrices good
  cases good <;> decide

theorem fullPressure_run : (ironPressure 10000).run =
    .ok { quietSnapshot with marketPrices := Function.update initialPrices .iron 6000000 } := by
  refine (FeedbackCall.run_ok_iff (ironPressure_priced 10000)).mpr ⟨?_, rfl⟩
  intro good
  cases good <;> decide

/-- With a pressure of a thousand iron costs 5.1, and with the greatest one 6, a fifth more than 5. -/
theorem thousand_keeps_promise :
    (∃ result, (ironPressure 1000).run = .ok result ∧
      result.marketPrices .iron = 5100000 ∧ KeepsPromise 2 (ironPressure 1000) result) ∧
    ∃ result, (ironPressure 10000).run = .ok result ∧
      result.marketPrices .iron = 6000000 ∧ KeepsPromise 20 (ironPressure 10000) result := by
  constructor
  · have hrun : (ironPressure 1000).run =
        .ok { quietSnapshot with marketPrices := Function.update initialPrices .iron 5100000 } := by
      refine (FeedbackCall.run_ok_iff (ironPressure_priced 1000)).mpr ⟨?_, rfl⟩
      intro good
      cases good <;> decide
    refine ⟨_, hrun, by decide, ?_⟩
    refine (feedback_keeps_promise_iff _ (ironPressure_priced 1000) _ hrun).2.mpr ?_
    intro good
    cases good <;> exact smallPressure_of_bps (by decide) (by decide) (by decide)
  · exact ⟨_, fullPressure_run, by decide,
      (feedback_keeps_promise_iff _ (ironPressure_priced 10000) _ fullPressure_run).1⟩

/-- Under the greatest pressure iron goes from 5 to 6, which is more than two percent. -/
theorem full_pressure_breaks_promise : ∃ result, (ironPressure 10000).run = .ok result ∧
    result.marketPrices .iron = 6000000 ∧ ¬ KeepsPromise 2 (ironPressure 10000) result := by
  have hrun := fullPressure_run
  refine ⟨_, hrun, by decide, ?_⟩
  intro hpromise
  obtain ⟨neutral, hneutral⟩ := FeedbackCall.neutralAt_run (ironPressure_priced 10000)
    hrun (by decide : (ironPressure 10000).anchor .iron ≤ maxGoldAtomic)
  have hdamped := hpromise.damped .iron neutral hneutral
  rw [(FeedbackCall.neutralAt_price (ironPressure_priced 10000) hneutral).1] at hdamped
  revert hdamped
  decide

end Sample

end Arena402.Game
