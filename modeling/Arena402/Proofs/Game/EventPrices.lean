/-
When a snapshot can be computed.

Only price changes can raise: the constructor of an effect does not bound its basis points,
`apply_basis_points` does, and it bounds the price it returns.  The market and the final
prices are separate tables and the goods do not mix, so a snapshot returns exactly when each
price, followed through the effects on it, stays within the bounds.
-/
import Arena402.Proofs.Game.Events

namespace Arena402.Game

open Py

/-! ### One price -/

/-- A price moved by basis points, rounded half up. -/
def scaled (price basisPoints : Int) : Int :=
  (price * (10000 + basisPoints) + 5000).fdiv 10000

/-- A price after one effect on it. -/
def priceUnder (base price : Int) (e : EventEffect) : Int :=
  match e.kind with
  | .priceMultiplyBps => scaled price (e.basisPoints.getD 0)
  | .priceResetToBase => base
  | _ => price

/-- The basis points of an effect and the price it leads to are within the bounds. -/
def EffectFits (price : Int) (e : EventEffect) : Prop :=
  e.kind = .priceMultiplyBps →
    -10000 ≤ e.basisPoints.getD 0 ∧ e.basisPoints.getD 0 ≤ 1000000 ∧
      scaled price (e.basisPoints.getD 0) ≤ maxGoldAtomic

/-- A price stays within the bounds through some effects. -/
def PriceFits (base : Int) : Int → List EventEffect → Prop
  | _, [] => True
  | price, e :: rest => EffectFits price e ∧ PriceFits base (priceUnder base price e) rest

/-- A price after some effects. -/
def priceAfter (base price : Int) (effects : List EventEffect) : Int :=
  effects.foldl (priceUnder base) price

theorem priceFits_append (base : Int) : ∀ (xs ys : List EventEffect) (price : Int),
    PriceFits base price (xs ++ ys) ↔
      PriceFits base price xs ∧ PriceFits base (priceAfter base price xs) ys := by
  intro xs
  induction xs with
  | nil =>
      intro ys price
      exact ⟨fun h => ⟨trivial, h⟩, fun h => h.2⟩
  | cons e rest ih =>
      intro ys price
      show EffectFits price e ∧ PriceFits base _ (rest ++ ys) ↔ _
      rw [ih]
      exact and_assoc.symm

theorem scaled_nonneg {price basisPoints : Int} (hprice : 0 ≤ price) (hlow : -10000 ≤ basisPoints) :
    0 ≤ scaled price basisPoints := by
  have hproduct : 0 ≤ price * (10000 + basisPoints) := mul_nonneg hprice (by omega)
  exact Int.fdiv_nonneg (by omega) (by decide)

/-- `apply_basis_points` on a price of the tables. -/
theorem adjusted_returnsIff {price : Int} (hprice : 0 ≤ price) (basisPoints : Option Int) :
    ReturnsIff (adjusted price basisPoints)
      (-10000 ≤ basisPoints.getD 0 ∧ basisPoints.getD 0 ≤ 1000000 ∧
        scaled price (basisPoints.getD 0) ≤ maxGoldAtomic)
      (fun found => found = scaled price (basisPoints.getD 0) ∧ 0 ≤ found) := by
  generalize hbps : basisPoints.getD 0 = bps
  unfold adjusted applyBasisPoints
  rw [hbps, if_neg (not_lt.mpr hprice)]
  by_cases hrange : -10000 ≤ bps ∧ bps ≤ 1000000
  · rw [if_neg (by simp; omega)]
    dsimp only
    have hnonneg := scaled_nonneg hprice hrange.1
    by_cases hmax : scaled price bps ≤ maxGoldAtomic
    · have hin : ¬ (decide ((price * (10000 + bps) + 5000).fdiv 10000 < 0) ||
          decide ((maxGoldAtomic : Int) < (price * (10000 + bps) + 5000).fdiv 10000)) = true := by
        unfold scaled at hmax hnonneg
        simp only [Bool.or_eq_true, decide_eq_true_eq]
        omega
      rw [if_neg hin]
      exact ⟨⟨hrange.1, hrange.2, hmax⟩, rfl, hnonneg⟩
    · have hout : (decide ((price * (10000 + bps) + 5000).fdiv 10000 < 0) ||
          decide ((maxGoldAtomic : Int) < (price * (10000 + bps) + 5000).fdiv 10000)) = true := by
        unfold scaled at hmax
        simp only [Bool.or_eq_true, decide_eq_true_eq]
        omega
      rw [if_pos hout]
      exact fun h => hmax h.2.2
  · rw [if_pos (by simp; omega)]
    exact fun h => hrange ⟨h.1, h.2.1⟩

/-! ### A table of prices -/

/-- The effects on one good, without those on the other table only. -/
def touching (skip : PriceTarget) (good : Good) (effects : List EventEffect) : List EventEffect :=
  effects.filter fun e => e.good = good && e.target ≠ skip

section Tables

variable {basePrices : PerGood} {skip : PriceTarget} {table : PerGood} {e : EventEffect}

/-- Every price of a table stays within the bounds. -/
def TableFits (basePrices : PerGood) (skip : PriceTarget) (table : PerGood)
    (effects : List EventEffect) : Prop :=
  ∀ good, PriceFits (basePrices good) (table good) (touching skip good effects)

/-- A table after some effects. -/
def tableAfter (basePrices : PerGood) (skip : PriceTarget) (table : PerGood)
    (effects : List EventEffect) : PerGood :=
  fun good => priceAfter (basePrices good) (table good) (touching skip good effects)

theorem tableFits_append (xs ys : List EventEffect) :
    TableFits basePrices skip table (xs ++ ys) ↔
      TableFits basePrices skip table xs ∧
        TableFits basePrices skip (tableAfter basePrices skip table xs) ys := by
  unfold TableFits
  rw [← forall_and]
  refine forall_congr' fun good => ?_
  unfold touching
  rw [List.filter_append, priceFits_append]
  exact Iff.rfl

theorem tableAfter_append (xs ys : List EventEffect) :
    tableAfter basePrices skip table (xs ++ ys)
      = tableAfter basePrices skip (tableAfter basePrices skip table xs) ys := by
  funext good
  unfold tableAfter touching priceAfter
  rw [List.filter_append, List.foldl_append]

/-- The empty list of effects. -/
theorem tableFits_nil : TableFits basePrices skip table [] :=
  fun _ => trivial

/-- An effect on the other table only. -/
theorem touching_skipped (hskip : e.target = skip) (good : Good) : touching skip good [e] = [] := by
  simp [touching, hskip]

theorem tableAfter_skipped (hskip : e.target = skip) :
    tableAfter basePrices skip table [e] = table := by
  funext good
  unfold tableAfter
  rw [touching_skipped hskip]
  rfl

theorem tableFits_skipped (hskip : e.target = skip) : TableFits basePrices skip table [e] := by
  intro good
  rw [touching_skipped hskip]
  trivial

theorem touching_self (hskip : e.target ≠ skip) : touching skip e.good [e] = [e] := by
  simp [touching, hskip]

theorem touching_other {good : Good} (hgood : good ≠ e.good) : touching skip good [e] = [] := by
  simp [touching, Ne.symm hgood]

/-- One effect writes the price of its good. -/
theorem tableAfter_single (hskip : e.target ≠ skip) :
    tableAfter basePrices skip table [e]
      = Function.update table e.good (priceUnder (basePrices e.good) (table e.good) e) := by
  funext good
  unfold tableAfter
  by_cases hgood : good = e.good
  · rw [hgood, touching_self hskip, Function.update_self]
    rfl
  · rw [touching_other hgood, Function.update_of_ne hgood]
    rfl

theorem tableFits_single (hskip : e.target ≠ skip) :
    TableFits basePrices skip table [e] ↔ EffectFits (table e.good) e := by
  constructor
  · intro h
    have hself := h e.good
    rw [touching_self hskip] at hself
    exact hself.1
  · intro h good
    by_cases hgood : good = e.good
    · rw [hgood, touching_self hskip]
      exact ⟨h, trivial⟩
    · rw [touching_other hgood]
      trivial

end Tables

/-! ### A board -/

/-- An order that the constructor accepted has a price and a limit. -/
theorem order_of_postInit {e : EventEffect} (he : e.postInit = .ok e)
    (hkind : e.kind = .createRoyalOrder) :
    ∃ price limit, e.orderPriceAtomic = some price ∧ e.orderLimit = some limit := by
  unfold EventEffect.postInit at he
  obtain ⟨-, he⟩ := ok_of_guard he
  obtain ⟨-, he⟩ := ok_of_guard he
  rw [if_pos hkind] at he
  cases hprice : e.orderPriceAtomic with
  | none => simp [hprice] at he
  | some price =>
      cases hlimit : e.orderLimit with
      | none => simp [hprice, hlimit] at he
      | some limit => exact ⟨price, limit, rfl, rfl⟩

section Boards

variable {basePrices : PerGood} {b : Board} {e : EventEffect}

/-- No price of a table is negative after one of them is written. -/
theorem update_nonneg {table : PerGood} (h : ∀ good, 0 ≤ table good) {good : Good} {price : Int}
    (hprice : 0 ≤ price) : ∀ other, 0 ≤ Function.update table good price other :=
  (Function.forall_update_iff table fun _ found => 0 ≤ found).mpr ⟨hprice, fun other _ => h other⟩

/-- No price of a board is negative. -/
structure Nonneg (b : Board) : Prop where
  market : ∀ good, 0 ≤ b.market good
  final : ∀ good, 0 ≤ b.final good

/-- Some effects acted on the market prices, and some on the final ones. -/
structure Leads (basePrices : PerGood) (onMarket onFinal : List EventEffect) (b b' : Board) :
    Prop where
  market : b'.market = tableAfter basePrices .final b.market onMarket
  final : b'.final = tableAfter basePrices .market b.final onFinal

/-- An effect that is no price change. -/
theorem table_other (basePrices : PerGood) {skip : PriceTarget} (table : PerGood)
    (hskip : e.target ≠ skip)
    (hmultiply : e.kind ≠ .priceMultiplyBps) (hreset : e.kind ≠ .priceResetToBase) :
    TableFits basePrices skip table [e] ∧ table = tableAfter basePrices skip table [e] := by
  refine ⟨(tableFits_single hskip).mpr fun hkind => absurd hkind hmultiply, ?_⟩
  have hunder : priceUnder (basePrices e.good) (table e.good) e = table e.good := by
    unfold priceUnder
    cases hkind : e.kind <;> simp_all
  rw [tableAfter_single hskip, hunder, Function.update_eq_self]

/-- An effect that sets a price back. -/
theorem table_reset (basePrices : PerGood) {skip : PriceTarget} (table : PerGood)
    (hskip : e.target ≠ skip)
    (hkind : e.kind = .priceResetToBase) :
    TableFits basePrices skip table [e] ∧
      Function.update table e.good (basePrices e.good) = tableAfter basePrices skip table [e] := by
  refine ⟨(tableFits_single hskip).mpr fun hmultiply => ?_, ?_⟩
  · rw [hkind] at hmultiply
    cases hmultiply
  · rw [tableAfter_single hskip]
    simp [priceUnder, hkind]

/-- An effect that moves a price. -/
theorem table_multiply {skip : PriceTarget} {table : PerGood} (hskip : e.target ≠ skip)
    (hkind : e.kind = .priceMultiplyBps) (htable : ∀ good, 0 ≤ table good) :
    ReturnsIff (adjusted (table e.good) e.basisPoints) (TableFits basePrices skip table [e])
      fun price => Function.update table e.good price = tableAfter basePrices skip table [e] ∧
        0 ≤ price := by
  refine (adjusted_returnsIff (htable e.good) e.basisPoints).congr ?_ ?_
  · rw [tableFits_single hskip]
    exact ⟨fun h _ => h, fun h => h hkind⟩
  · rintro price ⟨rfl, hnonneg⟩
    refine ⟨?_, hnonneg⟩
    rw [tableAfter_single hskip]
    simp [priceUnder, hkind]

theorem applyMarketEffect_returnsIff (hbase : ∀ good, 0 ≤ basePrices good) (eventId : String)
    (he : e.postInit = .ok e) (hb : Nonneg b) :
    ReturnsIff (applyMarketEffect basePrices eventId b e) (TableFits basePrices .final b.market [e])
      fun b' => Leads basePrices [e] [] b b' ∧ Nonneg b' := by
  unfold applyMarketEffect
  by_cases hskip : e.target = .final
  · rw [if_pos hskip]
    exact ⟨tableFits_skipped hskip, ⟨(tableAfter_skipped hskip).symm, rfl⟩, hb⟩
  rw [if_neg hskip]
  cases hkind : e.kind with
  | priceMultiplyBps =>
      refine (table_multiply hskip hkind hb.market).map fun price hprice => ?_
      exact ⟨⟨hprice.1, rfl⟩, update_nonneg hb.market hprice.2, hb.final⟩
  | priceResetToBase =>
      have hreset := table_reset basePrices b.market hskip hkind
      exact ⟨hreset.1, ⟨hreset.2, rfl⟩, update_nonneg hb.market (hbase _), hb.final⟩
  | supplyIndexAddBps | bubbleAddBps | bubbleClear =>
      have hother := table_other basePrices b.market hskip (by simp [hkind]) (by simp [hkind])
      exact ⟨hother.1, ⟨hother.2, rfl⟩, hb.market, hb.final⟩
  | createRoyalOrder =>
      obtain ⟨price, limit, hprice, hlimit⟩ := order_of_postInit he hkind
      have hother := table_other basePrices b.market hskip (by simp [hkind]) (by simp [hkind])
      simp only [hprice, hlimit]
      exact ⟨hother.1, ⟨hother.2, rfl⟩, hb.market, hb.final⟩

theorem applyFinalEffect_returnsIff (hbase : ∀ good, 0 ≤ basePrices good) (hb : Nonneg b) :
    ReturnsIff (applyFinalEffect basePrices b e) (TableFits basePrices .market b.final [e])
      fun b' => Leads basePrices [] [e] b b' ∧ Nonneg b' := by
  unfold applyFinalEffect
  by_cases hskip : e.target = .market
  · rw [if_pos hskip]
    exact ⟨tableFits_skipped hskip, ⟨rfl, (tableAfter_skipped hskip).symm⟩, hb⟩
  rw [if_neg hskip]
  cases hkind : e.kind with
  | priceMultiplyBps =>
      refine (table_multiply hskip hkind hb.final).map fun price hprice => ?_
      exact ⟨⟨rfl, hprice.1⟩, hb.market, update_nonneg hb.final hprice.2⟩
  | priceResetToBase =>
      have hreset := table_reset basePrices b.final hskip hkind
      exact ⟨hreset.1, ⟨rfl, hreset.2⟩, hb.market, update_nonneg hb.final (hbase _)⟩
  | supplyIndexAddBps | bubbleAddBps | bubbleClear | createRoyalOrder =>
      have hother := table_other basePrices b.final hskip (by simp [hkind]) (by simp [hkind])
      exact ⟨hother.1, ⟨rfl, hother.2⟩, hb⟩

/-! ### Events and rounds -/

theorem Leads.trans {onMarket onMarket' onFinal onFinal' : List EventEffect} {b' b'' : Board}
    (h : Leads basePrices onMarket onFinal b b') (h' : Leads basePrices onMarket' onFinal' b' b'') :
    Leads basePrices (onMarket ++ onMarket') (onFinal ++ onFinal') b b'' where
  market := by rw [tableAfter_append, ← h.market, h'.market]
  final := by rw [tableAfter_append, ← h.final, h'.final]

theorem foldlM_market (hbase : ∀ good, 0 ≤ basePrices good) (eventId : String)
    (effects : List EventEffect) (heffects : ∀ e ∈ effects, e.postInit = .ok e) (hb : Nonneg b) :
    ReturnsIff (effects.foldlM (applyMarketEffect basePrices eventId) b)
      (TableFits basePrices .final b.market effects)
      fun b' => Leads basePrices effects [] b b' ∧ Nonneg b' := by
  refine foldlM_returnsIff Nonneg (fun b l => TableFits basePrices .final b.market l)
    (fun l => Leads basePrices l []) (fun b => ⟨tableFits_nil, rfl, rfl⟩)
    (fun x xs b h => ((tableFits_append [x] xs).mp h).1) ?_ effects
    (fun e he b hb => applyMarketEffect_returnsIff hbase eventId (heffects e he) hb) hb
  intro x xs b b' h
  refine ⟨?_, fun b'' h' => h.trans h'⟩
  rw [h.market]
  exact (tableFits_append [x] xs).symm

theorem foldlM_final (hbase : ∀ good, 0 ≤ basePrices good) (effects : List EventEffect)
    (hb : Nonneg b) :
    ReturnsIff (effects.foldlM (applyFinalEffect basePrices) b)
      (TableFits basePrices .market b.final effects)
      fun b' => Leads basePrices [] effects b b' ∧ Nonneg b' := by
  refine foldlM_returnsIff Nonneg (fun b l => TableFits basePrices .market b.final l)
    (fun l => Leads basePrices [] l) (fun b => ⟨tableFits_nil, rfl, rfl⟩)
    (fun x xs b h => ((tableFits_append [x] xs).mp h).1) ?_ effects
    (fun e _ b hb => applyFinalEffect_returnsIff hbase hb) hb
  intro x xs b b' h
  refine ⟨?_, fun b'' h' => h.trans h'⟩
  rw [h.final]
  exact (tableFits_append [x] xs).symm

/-- The effects of an event on the market of a round. -/
def acting (roundIndex : Int) (event : WorldEvent) : List EventEffect :=
  if event.activeInRound roundIndex then event.effects else []

theorem applyToMarket_returnsIff (hbase : ∀ good, 0 ≤ basePrices good) (roundIndex : Int)
    {event : WorldEvent} (hevent : event.Constructible) (hb : Nonneg b) :
    ReturnsIff (applyToMarket basePrices roundIndex b event)
      (TableFits basePrices .final b.market (acting roundIndex event))
      fun b' => Leads basePrices (acting roundIndex event) [] b b' ∧ Nonneg b' := by
  unfold applyToMarket acting
  by_cases hactive : event.activeInRound roundIndex = true
  · rw [if_pos hactive, if_pos hactive]
    exact foldlM_market hbase event.eventId event.effects hevent.2 hb
  · rw [if_neg hactive, if_neg hactive]
    exact ⟨tableFits_nil, ⟨rfl, rfl⟩, hb⟩

theorem applyEvent_returnsIff (hbase : ∀ good, 0 ≤ basePrices good) (roundIndex : Int)
    {event : WorldEvent} (hevent : event.Constructible) (hb : Nonneg b) :
    ReturnsIff (applyEvent basePrices roundIndex b event)
      (TableFits basePrices .final b.market (acting roundIndex event) ∧
        TableFits basePrices .market b.final event.effects)
      fun b' => Leads basePrices (acting roundIndex event) event.effects b b' ∧ Nonneg b' := by
  refine (applyToMarket_returnsIff hbase roundIndex hevent hb).bind fun b' _ hfirst => ?_
  have hsecond := foldlM_final hbase event.effects hfirst.2
  have hfinal : b'.final = b.final := hfirst.1.final
  rw [hfinal] at hsecond
  refine hsecond.congr Iff.rfl fun b'' hafter => ⟨?_, hafter.2⟩
  have hboth := hfirst.1.trans hafter.1
  rw [List.append_nil, List.nil_append] at hboth
  exact hboth

/-- The prices of some events stay within the bounds in a round. -/
structure EventsFit (basePrices : PerGood) (roundIndex : Int) (b : Board) (events : List WorldEvent) :
    Prop where
  market : TableFits basePrices .final b.market (events.flatMap (acting roundIndex))
  final : TableFits basePrices .market b.final (events.flatMap (·.effects))

theorem foldlM_events (hbase : ∀ good, 0 ≤ basePrices good) (roundIndex : Int)
    (events : List WorldEvent) (hevents : ∀ event ∈ events, event.Constructible) (hb : Nonneg b) :
    ReturnsIff (events.foldlM (applyEvent basePrices roundIndex) b)
      (EventsFit basePrices roundIndex b events)
      fun b' => Leads basePrices (events.flatMap (acting roundIndex)) (events.flatMap (·.effects)) b b' ∧
        Nonneg b' := by
  refine foldlM_returnsIff Nonneg (EventsFit basePrices roundIndex)
    (fun l => Leads basePrices (l.flatMap (acting roundIndex)) (l.flatMap (·.effects)))
    (fun b => ⟨⟨tableFits_nil, tableFits_nil⟩, rfl, rfl⟩) ?_ ?_ events ?_ hb
  · intro x xs b h
    have hmarket := h.market
    have hfinal := h.final
    rw [List.flatMap_cons, tableFits_append] at hmarket hfinal
    exact ⟨by simpa using hmarket.1, by simpa using hfinal.1⟩
  · intro x xs b b' h
    refine ⟨⟨?_, ?_⟩, ?_⟩
    · rintro ⟨hx, hxs⟩
      have hmarket := hxs.market
      have hfinal := hxs.final
      rw [h.market] at hmarket
      rw [h.final] at hfinal
      refine ⟨?_, ?_⟩
      · rw [show x :: xs = [x] ++ xs from rfl, List.flatMap_append, tableFits_append]
        exact ⟨hx.market, hmarket⟩
      · rw [show x :: xs = [x] ++ xs from rfl, List.flatMap_append, tableFits_append]
        exact ⟨hx.final, hfinal⟩
    · rintro ⟨hmarket, hfinal⟩
      rw [show x :: xs = [x] ++ xs from rfl, List.flatMap_append, tableFits_append] at hmarket hfinal
      refine ⟨⟨hmarket.1, hfinal.1⟩, ?_, ?_⟩
      · rw [h.market]
        exact hmarket.2
      · rw [h.final]
        exact hfinal.2
    · intro b'' h'
      rw [show x :: xs = [x] ++ xs from rfl, List.flatMap_append, List.flatMap_append]
      exact h.trans h'
  · intro event hevent b hb
    have hone := applyEvent_returnsIff hbase roundIndex (hevents event hevent) hb
    refine hone.congr ⟨fun h => ⟨?_, ?_⟩, fun h => ⟨?_, ?_⟩⟩ fun b' h' => ⟨?_, h'.2⟩
    · simpa using h.1
    · simpa using h.2
    · simpa using h.market
    · simpa using h.final
    · simpa using h'.1

end Boards

namespace WorldState

/-- The snapshot of a round that has all its events revealed returns exactly when the prices stay
    within the bounds, and shows the board that the events lead to. -/
theorem snapshot_returnsIff {w : WorldState} {roundIndex : Int} {events : List WorldEvent}
    (hround : 0 ≤ roundIndex) (hbase : ∀ good, 0 ≤ w.basePrices good)
    (hids : w.revealedEventIds = events.map (·.eventId))
    (hcatalog : ∀ e ∈ events, w.eventCatalog.get e.eventId = some e)
    (hrevealed : ∀ e ∈ events, e.revealRound ≤ roundIndex)
    (hevents : ∀ e ∈ events, e.Constructible) :
    ReturnsIff (w.snapshot roundIndex) (EventsFit w.basePrices roundIndex w.board events)
      fun snapshot => ∃ b, events.foldlM (applyEvent w.basePrices roundIndex) w.board = .ok b ∧
        Nonneg b ∧ snapshot = w.shown roundIndex b := by
  have hread : w.revealedEventIds.mapM w.event = .ok events := by
    rw [hids, List.mapM_map]
    have hone : ∀ e ∈ events, (w.event ∘ fun e : WorldEvent => e.eventId) e = .ok e := by
      intro e he
      show w.event e.eventId = .ok e
      unfold WorldState.event
      rw [hcatalog e he]
    exact mapM_ok_self events hone
  have hall : events.filter (fun e => decide (e.revealRound ≤ roundIndex)) = events :=
    List.filter_eq_self.mpr fun e he => decide_eq_true (hrevealed e he)
  have hcomputed : w.computed roundIndex
      = events.foldlM (applyEvent w.basePrices roundIndex) w.board := by
    unfold computed
    rw [hread]
    show List.foldlM _ _ (events.filter _) = _
    rw [hall]
  have hboard : Nonneg w.board := ⟨hbase, hbase⟩
  have hfold := foldlM_events hbase roundIndex events hevents hboard
  rw [snapshot_eq w (not_lt.mpr hround), hcomputed]
  cases hb : events.foldlM (applyEvent w.basePrices roundIndex) w.board with
  | ok b =>
      rw [hb] at hfold
      exact ⟨hfold.1, b, rfl, hfold.2.2, rfl⟩
  | error e =>
      rw [hb] at hfold
      exact hfold

/-- **When a snapshot returns.** -/
theorem snapshot_returns_iff {w : WorldState} {roundIndex : Int} {events : List WorldEvent}
    (hround : 0 ≤ roundIndex) (hbase : ∀ good, 0 ≤ w.basePrices good)
    (hids : w.revealedEventIds = events.map (·.eventId))
    (hcatalog : ∀ e ∈ events, w.eventCatalog.get e.eventId = some e)
    (hrevealed : ∀ e ∈ events, e.revealRound ≤ roundIndex)
    (hevents : ∀ e ∈ events, e.Constructible) :
    (∃ snapshot, w.snapshot roundIndex = .ok snapshot) ↔
      EventsFit w.basePrices roundIndex w.board events :=
  (snapshot_returnsIff hround hbase hids hcatalog hrevealed hevents).isOk_iff

end WorldState

end Arena402.Game
