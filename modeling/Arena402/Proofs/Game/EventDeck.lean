/-
The built-in decks never leave the money bounds.

An effect that takes at most half of a price and adds at most the whole of it keeps a price
positive and at most doubles it, in whatever order effects come.  Every effect of the two
decks is of that kind, a schedule has at most sixty of them, and the base prices are small:
so no order of the deck under any seed can raise, and every snapshot is in bounds.
-/
import Arena402.Game.EventDeck
import Arena402.Proofs.Game.Events

namespace Arena402.Game

open Py

/-! ### One effect -/

/-- An effect that at most halves a price, at most doubles it and takes nothing from a
    bubble. -/
def EventEffect.gentle (e : EventEffect) : Bool :=
  match e.kind with
  | .priceMultiplyBps => -5000 ≤ e.basisPoints.getD 0 && e.basisPoints.getD 0 ≤ 10000
  | .bubbleAddBps => 0 ≤ e.basisPoints.getD 0
  | .createRoyalOrder =>
    match e.orderPriceAtomic, e.orderLimit with
    | some price, some _ => 0 < price && price ≤ maxGoldAtomic
    | _, _ => false
  | _ => true

/-! ### A board under gentle effects -/

/-- No base price of the built-in catalogs is above eight gold. -/
def maxBasePrice : Int := 8000000

/-- How many effects a schedule may have. -/
def effectBudget : Nat := 60

/-- What a price can grow to under `k` gentle effects. -/
def priceBound (k : Nat) : Int :=
  maxBasePrice * 2 ^ k

theorem priceBound_succ (k : Nat) : priceBound (k + 1) = 2 * priceBound k := by
  unfold priceBound
  ring

theorem priceBound_mono {j k : Nat} (h : j ≤ k) : priceBound j ≤ priceBound k := by
  unfold priceBound
  have hpow : (2 : Int) ^ j ≤ 2 ^ k := pow_le_pow_right₀ (by norm_num) h
  exact mul_le_mul_of_nonneg_left hpow (by decide)

theorem priceBound_le {k : Nat} (h : k ≤ effectBudget) : priceBound k ≤ maxGoldAtomic :=
  (priceBound_mono h).trans (by decide)

/-- A price after `k` gentle effects. -/
def InBound (k : Nat) (price : Int) : Prop :=
  1 ≤ price ∧ price ≤ priceBound k

/-- A price adjusted gently is positive and at most doubled. -/
theorem adjusted_gentle {k : Nat} {value : Int} {basisPoints : Option Int} (hvalue : InBound k value)
    (hbudget : k + 1 ≤ effectBudget) (hlow : -5000 ≤ basisPoints.getD 0)
    (hhigh : basisPoints.getD 0 ≤ 10000) :
    ∃ price, adjusted value basisPoints = .ok price ∧ InBound (k + 1) price := by
  obtain ⟨hpos, hle⟩ := hvalue
  have hbound : priceBound (k + 1) ≤ maxGoldAtomic := priceBound_le hbudget
  unfold InBound
  rw [priceBound_succ] at hbound ⊢
  generalize priceBound k = bound at *
  have hproductLow : value * 5000 ≤ value * (10000 + basisPoints.getD 0) := by
    refine mul_le_mul_of_nonneg_left ?_ ?_ <;> omega
  have hproductHigh : value * (10000 + basisPoints.getD 0) ≤ value * 20000 := by
    refine mul_le_mul_of_nonneg_left ?_ ?_ <;> omega
  have hdiv : (value * (10000 + basisPoints.getD 0) + 5000).fdiv 10000
      = (value * (10000 + basisPoints.getD 0) + 5000) / 10000 :=
    Int.fdiv_eq_ediv_of_nonneg _ (by decide)
  generalize hproduct : value * (10000 + basisPoints.getD 0) = product at *
  refine ⟨(product + 5000) / 10000, ?_, by omega, by omega⟩
  unfold adjusted applyBasisPoints
  rw [hproduct]
  dsimp only
  rw [if_neg (by omega), if_neg (by simp; omega), hdiv, if_neg (by simp; omega)]
  rfl

/-- A board after `m` gentle effects on the market and `f` on the final prices. -/
structure Sound (m f : Nat) (b : Board) : Prop where
  market : ∀ good, InBound m (b.market good)
  final : ∀ good, InBound f (b.final good)
  supply : ∀ good, 0 ≤ b.supply good
  bubble : ∀ good, 0 ≤ b.bubble good
  orders : ∀ o ∈ b.orders, 0 < o.priceAtomic ∧ o.priceAtomic ≤ maxGoldAtomic

theorem Sound.mono {m m' f f' : Nat} {b : Board} (h : Sound m f b) (hm : m ≤ m') (hf : f ≤ f') :
    Sound m' f' b where
  market good := ⟨(h.market good).1, (h.market good).2.trans (priceBound_mono hm)⟩
  final good := ⟨(h.final good).1, (h.final good).2.trans (priceBound_mono hf)⟩
  supply := h.supply
  bubble := h.bubble
  orders := h.orders

/-- What holds of every good holds after one of them is updated to a value of which it holds. -/
theorem update_all {P : Int → Prop} {f : PerGood} {good : Good} {v : Int} (h : ∀ g, P (f g))
    (hv : P v) : ∀ g, P (Function.update f good v g) := by
  intro g
  by_cases hg : g = good
  · rw [hg, Function.update_self]
    exact hv
  · rw [Function.update_of_ne hg]
    exact h g

section Effects

variable {basePrices : PerGood} {m f : Nat} {b : Board} {e : EventEffect}
  (hbase : ∀ good, 1 ≤ basePrices good ∧ basePrices good ≤ maxBasePrice)

include hbase

theorem basePrice_le (k : Nat) (good : Good) : InBound k (basePrices good) := by
  refine ⟨(hbase good).1, (hbase good).2.trans ?_⟩
  have hzero : priceBound 0 ≤ priceBound k := priceBound_mono (Nat.zero_le k)
  unfold priceBound at hzero ⊢
  simpa using hzero

theorem applyMarketEffect_sound (eventId : String) (h : Sound m f b) (hgentle : e.gentle = true)
    (hbudget : m + 1 ≤ effectBudget) :
    ∃ b', applyMarketEffect basePrices eventId b e = .ok b' ∧ Sound (m + 1) f b' := by
  have hgrown := h.mono (Nat.le_succ m) (le_refl f)
  unfold applyMarketEffect
  by_cases htarget : e.target = .final
  · rw [if_pos htarget]
    exact ⟨b, rfl, hgrown⟩
  rw [if_neg htarget]
  unfold EventEffect.gentle at hgentle
  cases hkind : e.kind with
  | priceMultiplyBps =>
      simp only [hkind, Bool.and_eq_true, decide_eq_true_eq] at hgentle
      obtain ⟨price, hprice, hbound⟩ := adjusted_gentle (h.market e.good) hbudget hgentle.1 hgentle.2
      refine ⟨{ b with market := Function.update b.market e.good price }, ?_, ?_⟩
      · dsimp only
        rw [hprice]
        rfl
      · exact { hgrown with market := update_all (P := InBound (m + 1)) hgrown.market hbound }
  | priceResetToBase =>
      exact ⟨_, rfl, { hgrown with
        market := update_all (P := InBound (m + 1)) hgrown.market (basePrice_le hbase _ _) }⟩
  | supplyIndexAddBps =>
      exact ⟨_, rfl, { hgrown with supply := update_all hgrown.supply (le_max_left _ _) }⟩
  | bubbleAddBps =>
      simp only [hkind, decide_eq_true_eq] at hgentle
      refine ⟨_, rfl, { hgrown with bubble := update_all hgrown.bubble ?_ }⟩
      exact add_nonneg (h.bubble e.good) hgentle
  | bubbleClear =>
      exact ⟨_, rfl, { hgrown with bubble := update_all hgrown.bubble (le_refl 0) }⟩
  | createRoyalOrder =>
      simp only [hkind] at hgentle
      cases hprice : e.orderPriceAtomic with
      | none => simp [hprice] at hgentle
      | some price =>
          cases hlimit : e.orderLimit with
          | none => simp [hprice, hlimit] at hgentle
          | some limit =>
              simp only [hprice, hlimit, Bool.and_eq_true, decide_eq_true_eq] at hgentle
              refine ⟨_, rfl, { hgrown with orders := ?_ }⟩
              intro o ho
              rcases List.mem_append.mp ho with ho | ho
              · exact h.orders o ho
              · rw [List.mem_singleton.mp ho]
                exact hgentle

theorem applyFinalEffect_sound (h : Sound m f b) (hgentle : e.gentle = true)
    (hbudget : f + 1 ≤ effectBudget) :
    ∃ b', applyFinalEffect basePrices b e = .ok b' ∧ Sound m (f + 1) b' := by
  have hgrown := h.mono (le_refl m) (Nat.le_succ f)
  unfold applyFinalEffect
  by_cases htarget : e.target = .market
  · rw [if_pos htarget]
    exact ⟨b, rfl, hgrown⟩
  rw [if_neg htarget]
  unfold EventEffect.gentle at hgentle
  cases hkind : e.kind with
  | priceMultiplyBps =>
      simp only [hkind, Bool.and_eq_true, decide_eq_true_eq] at hgentle
      obtain ⟨price, hprice, hbound⟩ := adjusted_gentle (h.final e.good) hbudget hgentle.1 hgentle.2
      refine ⟨{ b with final := Function.update b.final e.good price }, ?_, ?_⟩
      · dsimp only
        rw [hprice]
        rfl
      · exact { hgrown with final := update_all (P := InBound (f + 1)) hgrown.final hbound }
  | priceResetToBase =>
      exact ⟨_, rfl, { hgrown with
        final := update_all (P := InBound (f + 1)) hgrown.final (basePrice_le hbase _ _) }⟩
  | supplyIndexAddBps | bubbleAddBps | bubbleClear | createRoyalOrder => exact ⟨b, rfl, hgrown⟩

/-! ### Events and rounds -/

/-- An event of gentle effects keeps the board in bounds, active or not. -/
theorem applyEvent_sound (roundIndex : Int) {event : WorldEvent} {k : Nat} (h : Sound k k b)
    (hgentle : ∀ e ∈ event.effects, e.gentle = true)
    (hbudget : k + event.effects.length ≤ effectBudget) :
    ∃ b', applyEvent basePrices roundIndex b event = .ok b' ∧
      Sound (k + event.effects.length) (k + event.effects.length) b' := by
  have hweight : (event.effects.map fun _ => 1).sum = event.effects.length := by simp
  have hmarket : ∃ b', applyToMarket basePrices roundIndex b event = .ok b' ∧
      Sound (k + event.effects.length) k b' := by
    unfold applyToMarket
    split
    · have hfold := foldlM_returns (P := fun j b => Sound j k b) (K := effectBudget)
        (f := applyMarketEffect basePrices event.eventId) event.effects (k := k)
        (fun e he j b hb hj => applyMarketEffect_sound hbase event.eventId hb (hgentle e he) hj) h
        (by rw [hweight]; exact hbudget)
      rwa [hweight] at hfold
    · exact ⟨b, rfl, h.mono (Nat.le_add_right _ _) (le_refl k)⟩
  obtain ⟨b', hb', hsound⟩ := hmarket
  have hfinal := foldlM_returns (P := fun j b => Sound (k + event.effects.length) j b)
    (K := effectBudget) (f := applyFinalEffect basePrices) event.effects (k := k)
    (fun e he j b hb hj => applyFinalEffect_sound hbase hb (hgentle e he) hj) hsound
    (by rw [hweight]; exact hbudget)
  rw [hweight] at hfinal
  unfold applyEvent
  rw [hb']
  exact hfinal

end Effects

/-! ### The world of a schedule -/

/-- What the decks' schedules have in common. -/
structure Scheduled (events : List WorldEvent) : Prop where
  ids : (events.map (·.eventId)).Nodup
  rounds : ∀ (k : Nat) (e : WorldEvent), events[k]? = some e → e.revealRound = k + 1
  gentle : ∀ e ∈ events, ∀ x ∈ e.effects, x.gentle = true
  size : (events.map (·.effects.length)).sum ≤ effectBudget

/-- A snapshot within the money bounds. -/
structure WorldSnapshot.InBounds (s : WorldSnapshot) : Prop where
  market : ∀ good, 0 < s.marketPrices good ∧ s.marketPrices good ≤ maxGoldAtomic
  final : ∀ good, 0 < s.finalPrices good ∧ s.finalPrices good ≤ maxGoldAtomic
  orders : ∀ o ∈ s.royalOrders, 0 < o.priceAtomic ∧ o.priceAtomic ≤ maxGoldAtomic
  supply : ∀ good, 0 ≤ s.supplyIndexBps good
  bubble : ∀ good, 0 ≤ s.bubblePremiumBps good

/-- The world of a schedule after its first `k` rounds. -/
def worldAfter (events : List WorldEvent) (basePrices : PerGood) (k : Nat) : WorldState :=
  { scheduledWorld events basePrices with
    revealedEventIds := (events.take k).map (·.eventId) }

section World

variable {events : List WorldEvent} {basePrices : PerGood}

/-- Every event of a schedule is in its world's catalog. -/
theorem get_scheduledWorld (h : (events.map (·.eventId)).Nodup) {e : WorldEvent}
    (he : e ∈ events) : (scheduledWorld events basePrices).eventCatalog.get e.eventId = some e := by
  have hrows : (scheduledWorld events basePrices).eventCatalog
      = (events.map fun e => (e.eventId, e)).foldl (fun d p => Dict.set d p.1 p.2) [] := by
    rw [List.foldl_map]
    rfl
  have hkeys : Dict.keys (events.map fun e => (e.eventId, e)) = events.map (·.eventId) := by
    unfold Dict.keys
    rw [List.map_map]
    rfl
  have hnodup : (Dict.keys (events.map fun e => (e.eventId, e))).Nodup := by rwa [hkeys]
  have hmem : (e.eventId, e) ∈ events.map fun e => (e.eventId, e) :=
    List.mem_map.mpr ⟨e, he, rfl⟩
  rw [hrows, Dict.get_foldl_set _ _ hnodup, Dict.get_of_mem hnodup hmem]
  rfl

theorem mapM_event {w : WorldState} : ∀ {l : List WorldEvent},
    (∀ e ∈ l, w.eventCatalog.get e.eventId = some e) →
    (l.map (·.eventId)).mapM w.event = .ok l := by
  intro l
  induction l with
  | nil => exact fun _ => rfl
  | cons e rest ih =>
      intro h
      have hevent : w.event e.eventId = .ok e := by
        unfold WorldState.event
        rw [h e List.mem_cons_self]
      rw [List.map_cons, List.mapM_cons, hevent, ih fun x hx => h x (List.mem_cons_of_mem _ hx)]
      rfl

variable (hsched : Scheduled events)
  (hbase : ∀ good, 1 ≤ basePrices good ∧ basePrices good ≤ maxBasePrice)

include hsched hbase

/-- Any round of any world along the schedule can be computed, within the bounds. -/
theorem computed_sound (k : Nat) (roundIndex : Int) :
    ∃ b j, j ≤ effectBudget ∧ Sound j j b ∧
      (worldAfter events basePrices k).computed roundIndex = .ok b := by
  have hcatalog : ∀ e ∈ events.take k,
      (worldAfter events basePrices k).eventCatalog.get e.eventId = some e := by
    intro e he
    show (scheduledWorld events basePrices).eventCatalog.get e.eventId = some e
    exact get_scheduledWorld hsched.ids (List.mem_of_mem_take he)
  have hsub : ((events.take k).filter fun e => decide (e.revealRound ≤ roundIndex)).Sublist events :=
    List.filter_sublist.trans (List.take_sublist k events)
  have hstart : Sound 0 0 (worldAfter events basePrices k).board := by
    refine ⟨basePrice_le hbase 0, basePrice_le hbase 0, ?_, ?_, ?_⟩
    · intro good
      show (0 : Int) ≤ 10000
      decide
    · intro good
      exact le_refl 0
    · intro o ho
      cases ho
  have hsize : 0 + (((events.take k).filter fun e => decide (e.revealRound ≤ roundIndex)).map
      (·.effects.length)).sum ≤ effectBudget := by
    have hle := (hsub.map (·.effects.length)).sum_le_sum (by simp)
    have := hsched.size
    omega
  obtain ⟨b, hb, hsound⟩ := foldlM_returns (P := fun j b => Sound j j b) (K := effectBudget)
    (f := applyEvent basePrices roundIndex) _
    (fun e he j b hb hj => applyEvent_sound hbase roundIndex hb
      (hsched.gentle e (hsub.subset he)) hj) hstart hsize
  refine ⟨b, _, hsize, hsound, ?_⟩
  unfold WorldState.computed
  rw [show (worldAfter events basePrices k).revealedEventIds = (events.take k).map (·.eventId) from
    rfl, mapM_event hcatalog]
  exact hb

theorem snapshot_inBounds (k : Nat) {roundIndex : Int} (hround : ¬ roundIndex < 0) :
    ∃ s, (worldAfter events basePrices k).snapshot roundIndex = .ok s ∧ s.InBounds := by
  obtain ⟨b, j, hj, hsound, hcomputed⟩ := computed_sound hsched hbase k roundIndex
  have hmax := priceBound_le hj
  refine ⟨(worldAfter events basePrices k).shown roundIndex b, ?_, ?_⟩
  · rw [WorldState.snapshot_eq _ hround, hcomputed]
    rfl
  · refine ⟨?_, ?_, hsound.orders, hsound.supply, hsound.bubble⟩
    · intro good
      exact ⟨(hsound.market good).1, (hsound.market good).2.trans hmax⟩
    · intro good
      exact ⟨(hsound.final good).1, (hsound.final good).2.trans hmax⟩

/-- The next round of a schedule is revealed without raising. -/
theorem reveal_next {k : Nat} {e : WorldEvent} (he : events[k]? = some e) :
    ∃ s, (WorldState.reveal e.eventId (k + 1)).run (worldAfter events basePrices k)
      = .ok s (worldAfter events basePrices (k + 1)) ∧ s.InBounds := by
  have hmem : e ∈ events := List.mem_of_getElem? he
  have htake : events.take (k + 1) = events.take k ++ [e] := by
    rw [List.take_add_one, he]
    rfl
  have hworld : (worldAfter events basePrices k).withEvent e.eventId
      = worldAfter events basePrices (k + 1) := by
    unfold worldAfter WorldState.withEvent
    rw [htake, List.map_append]
    rfl
  have hfresh : e.eventId ∉ (worldAfter events basePrices k).revealedEventIds := by
    have hids := hsched.ids
    rw [← List.take_append_drop (k + 1) events, htake, List.map_append, List.map_append] at hids
    have hleft := (List.nodup_append.mp hids).1
    have hdisjoint := (List.nodup_append.mp hleft).2.2
    intro hin
    exact hdisjoint _ hin _ (by simp) rfl
  have herror : (worldAfter events basePrices k).revealError e.eventId (k + 1) = none := by
    unfold WorldState.revealError
    have hget : (worldAfter events basePrices k).eventCatalog.get e.eventId = some e := by
      show (scheduledWorld events basePrices).eventCatalog.get e.eventId = some e
      exact get_scheduledWorld hsched.ids hmem
    rw [hget]
    dsimp only
    rw [if_neg (not_not.mpr (hsched.rounds k e he)), if_neg hfresh]
  have hround : ¬ (k : Int) + 1 < 0 := by omega
  obtain ⟨s, hs, hbounds⟩ := snapshot_inBounds hsched hbase (k + 1) hround
  refine ⟨s, ?_, hbounds⟩
  rw [WorldState.reveal_run, herror, hworld]
  dsimp only
  rw [hs]

/-- Every round of a schedule is revealed in turn. -/
theorem revealed_in_order : ∀ k ≤ events.length, ∃ published,
    WorldState.RevealedInOrder (scheduledWorld events basePrices) published
      (worldAfter events basePrices k) ∧ published.length = k ∧ ∀ s ∈ published, s.InBounds := by
  intro k
  induction k with
  | zero =>
      intro _
      exact ⟨[], .start rfl, rfl, fun s hs => by cases hs⟩
  | succ k ih =>
      intro hk
      obtain ⟨published, horder, hlength, hbounds⟩ := ih (by omega)
      obtain ⟨e, he⟩ : ∃ e, events[k]? = some e := ⟨_, List.getElem?_eq_getElem (by omega)⟩
      obtain ⟨s, hreveal, hs⟩ := reveal_next hsched hbase he
      have hreveal' : (WorldState.reveal e.eventId (published.length + 1)).run
          (worldAfter events basePrices k) = .ok s (worldAfter events basePrices (k + 1)) := by
        rw [hlength]
        exact hreveal
      refine ⟨published ++ [s], .next horder hreveal', by simp [hlength], ?_⟩
      intro x hx
      rcases List.mem_append.mp hx with hx | hx
      · exact hbounds x hx
      · rw [List.mem_singleton.mp hx]
        exact hs

end World

/-! ### The built-in decks -/

/-- What the two decks have in common. -/
structure DeckFacts (catalog : List WorldEvent) : Prop where
  ids : (catalog.map (·.eventId)).Nodup
  count : catalog.length ≤ 10
  effects : ∀ e ∈ catalog, e.effects.length ≤ 6 ∧ ∀ x ∈ e.effects, x.gentle = true

theorem mvp_facts : DeckFacts mvpEventCatalog :=
  ⟨by decide, by decide, by decide⟩

theorem experimental_facts : DeckFacts experimentalEventCatalogV2 :=
  ⟨by decide, by decide, by decide⟩

theorem deckCatalog_facts {deckId : String} {catalog : List WorldEvent}
    (h : deckCatalog deckId = some catalog) : DeckFacts catalog := by
  unfold deckCatalog at h
  split at h
  · cases h
    exact mvp_facts
  · split at h
    · cases h
      exact experimental_facts
    · cases h

theorem demo_scheduled : Scheduled demoEvents where
  ids := by decide
  rounds := by
    intro k e he
    have hk : k < 5 := by
      by_contra hge
      rw [List.getElem?_eq_none (by simp [demoEvents]; omega)] at he
      cases he
    interval_cases k <;> cases he <;> rfl
  gentle := by decide
  size := by decide

theorem postInit_eq {e e' : WorldEvent} (h : e.postInit = .ok e') : e' = e := by
  unfold WorldEvent.postInit at h
  obtain ⟨-, h⟩ := ok_of_guard h
  obtain ⟨-, h⟩ := ok_of_guard h
  obtain ⟨-, h⟩ := ok_of_guard h
  obtain ⟨-, h⟩ := ok_of_guard h
  obtain ⟨-, h⟩ := ok_of_guard h
  obtain ⟨-, h⟩ := ok_of_guard h
  exact (Except.ok.inj h).symm

section Shuffled

variable {digest : String → List Nat} {catalog events : List WorldEvent} {roundCount : Nat}
  {deckId seed : String}

/-- The shuffled events are events of the deck with the rounds `1`, `2`, .. -/
theorem shuffledEvents_eq
    (h : shuffledEvents digest catalog roundCount deckId seed = .ok events) :
    events = (((orderedDeck digest catalog deckId seed).take roundCount).zipIdx 1).map
      fun e => { e.1 with revealRound := e.2 } :=
  mapM_eq_map (fun _ _ he => postInit_eq he) _ h

theorem shuffledEvents_length (hcount : roundCount ≤ catalog.length)
    (h : shuffledEvents digest catalog roundCount deckId seed = .ok events) :
    events.length = roundCount := by
  have hperm : (orderedDeck digest catalog deckId seed).Perm catalog := List.perm_insertionSort _ _
  rw [shuffledEvents_eq h, List.length_map, List.length_zipIdx, List.length_take, hperm.length_eq]
  omega

/-- Any order of a deck gives a schedule. -/
theorem shuffled_scheduled (hdeck : DeckFacts catalog)
    (h : shuffledEvents digest catalog roundCount deckId seed = .ok events) : Scheduled events := by
  have hperm : (orderedDeck digest catalog deckId seed).Perm catalog := List.perm_insertionSort _ _
  have hevents := shuffledEvents_eq h
  have hids : events.map (·.eventId)
      = ((orderedDeck digest catalog deckId seed).take roundCount).map (·.eventId) := by
    rw [hevents, List.map_map]
    have hfst : ((fun e : WorldEvent => e.eventId) ∘ fun e : WorldEvent × Nat =>
        { e.1 with revealRound := (e.2 : Int) }) = (fun e : WorldEvent => e.eventId) ∘ Prod.fst := rfl
    rw [hfst, ← List.map_map, List.zipIdx_map_fst]
  have hmem : ∀ e ∈ events, ∃ x ∈ catalog, e.effects = x.effects := by
    intro e he
    rw [hevents] at he
    obtain ⟨p, hp, rfl⟩ := List.mem_map.mp he
    have hfst : p.1 ∈ (orderedDeck digest catalog deckId seed).take roundCount :=
      List.fst_mem_of_mem_zipIdx hp
    exact ⟨p.1, hperm.mem_iff.mp (List.mem_of_mem_take hfst), rfl⟩
  refine ⟨?_, ?_, ?_, ?_⟩
  · rw [hids]
    refine List.Nodup.sublist ((List.take_sublist _ _).map _) ?_
    exact (hperm.map _).nodup_iff.mpr hdeck.ids
  · intro k e he
    rw [hevents, List.getElem?_map, List.getElem?_zipIdx] at he
    cases hk : ((orderedDeck digest catalog deckId seed).take roundCount)[k]? with
    | none =>
        rw [hk] at he
        cases he
    | some x =>
        rw [hk] at he
        cases he
        show ((1 + k : Nat) : Int) = k + 1
        omega
  · intro e he x hx
    obtain ⟨source, hsource, heffects⟩ := hmem e he
    rw [heffects] at hx
    exact (hdeck.effects source hsource).2 x hx
  · have hlength : events.length ≤ 10 := by
      rw [hevents, List.length_map, List.length_zipIdx]
      exact (List.length_take_le' _ _).trans (hperm.length_eq.le.trans hdeck.count)
    have hsum := List.sum_le_card_nsmul (events.map (·.effects.length)) 6 (by
      intro n hn
      obtain ⟨e, he, rfl⟩ := List.mem_map.mp hn
      obtain ⟨source, hsource, heffects⟩ := hmem e he
      rw [heffects]
      exact (hdeck.effects source hsource).1)
    rw [List.length_map, smul_eq_mul] at hsum
    unfold effectBudget
    omega

end Shuffled

/-- A schedule that was built has the asked-for rounds and the decks' facts. -/
theorem buildEventSchedule_scheduled {digest : String → List Nat} {roundCount : Int}
    {seed deckId mode : String} {events : List WorldEvent}
    (h : buildEventSchedule digest roundCount seed deckId mode = .ok events) :
    Scheduled events ∧ (events.length : Int) = roundCount := by
  unfold buildEventSchedule at h
  split at h
  · cases h
  rename_i catalog hcatalog
  obtain ⟨hcount, h⟩ := ok_of_guard h
  obtain ⟨-, h⟩ := ok_of_guard h
  simp only [Bool.or_eq_true, decide_eq_true_eq, not_or, not_lt] at hcount
  split at h
  · obtain ⟨-, h⟩ := ok_of_guard h
    obtain ⟨hfive, h⟩ := ok_of_guard h
    cases h
    exact ⟨demo_scheduled, (not_not.mp hfive).symm⟩
  · refine ⟨shuffled_scheduled (deckCatalog_facts hcatalog) h, ?_⟩
    rw [shuffledEvents_length (by omega) h]
    omega
  · cases h

theorem catalog_base {catalog : PriceCatalog} (h : catalog ∈ priceCatalogs) :
    ∀ good, 1 ≤ catalog.prices good ∧ catalog.prices good ≤ maxBasePrice := by
  intro good
  simp only [priceCatalogs, List.mem_cons, List.not_mem_nil, or_false] at h
  rcases h with rfl | rfl <;> cases good <;> decide

/-- **No seed breaks a built-in deck.**  Whatever order the digest gives the deck, revealing
    the schedule round by round from either price catalog never raises, and every snapshot,
    published or computed later, is within the money bounds. -/
theorem schedule_in_bounds (digest : String → List Nat) {roundCount : Int}
    {seed deckId mode : String} {events : List WorldEvent} {catalog : PriceCatalog}
    (hbuild : buildEventSchedule digest roundCount seed deckId mode = .ok events)
    (hcatalog : catalog ∈ priceCatalogs) :
    ∃ published w,
      WorldState.RevealedInOrder (scheduledWorld events catalog.prices) published w ∧
      w.revealedEventIds = events.map (·.eventId) ∧ (published.length : Int) = roundCount ∧
      (∀ s ∈ published, s.InBounds) ∧
      ∀ r : Int, 1 ≤ r → r ≤ roundCount → ∃ s, w.snapshot r = .ok s ∧ s.InBounds := by
  obtain ⟨hsched, hlength⟩ := buildEventSchedule_scheduled hbuild
  have hbase := catalog_base hcatalog
  obtain ⟨published, horder, hpublished, hbounds⟩ :=
    revealed_in_order hsched hbase events.length (le_refl _)
  refine ⟨published, _, horder, ?_, by rw [hpublished]; exact hlength, hbounds, ?_⟩
  · show (events.take events.length).map (·.eventId) = _
    rw [List.take_length]
  · intro r hr _
    exact snapshot_inBounds hsched hbase events.length (by omega)

/-- The fixed demo does not ask for a digest. -/
theorem demo_in_bounds :
    ∃ published w,
      WorldState.RevealedInOrder (scheduledWorld demoEvents standardPriceCatalog.prices) published w ∧
      w.revealedEventIds = demoEvents.map (·.eventId) ∧ (published.length : Int) = 5 ∧
      (∀ s ∈ published, s.InBounds) ∧
      ∀ r : Int, 1 ≤ r → r ≤ 5 → ∃ s, w.snapshot r = .ok s ∧ s.InBounds :=
  have hbuild : buildEventSchedule (fun _ => []) 5 "seed-1" standardEventDeckId "fixed_demo"
      = .ok demoEvents := rfl
  schedule_in_bounds _ hbuild List.mem_cons_self

end Arena402.Game
