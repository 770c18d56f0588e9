/-
The capacity of a round and the pairs it makes.

The loop of `_compatible_capacity` is a sweep over the sorted limits, so its count is the size of a
largest matching (`capacity_isGreatest`).  The pairings of `fcfs_pair` are a matching that leaves no
compatible pair unmatched, so they are no more than that and at least half as many.
-/
import Arena402.Game.Liquidity
import Arena402.Proofs.Game.Market

namespace Arena402.Game.Liquidity

open Py Matching

variable {α β : Type} {f : α → Nat} {g : β → Nat} {left : List α} {right : List β}

/-! ### The capacity of two lists -/

theorem length_sweep : ∀ {left : List α} {right : List β},
    (sweep f g left right).length = capacityLoop (left.map f) (right.map g) := by
  intro left
  induction left with
  | nil =>
      intro right
      rfl
  | cons a left ih =>
      intro right
      cases right with
      | nil => rfl
      | cons b right =>
          rw [List.map_cons, List.map_cons, capacityLoop]
          by_cases h : g b ≤ f a
          · rw [sweep_cons_of_le h, if_pos h, List.length_cons, ih]
          · rw [sweep_cons_of_lt h, if_neg h, ih, List.map_cons]

/-- The items in the order of their limits. -/
def byLimit (f : α → Nat) (l : List α) : List α :=
  l.insertionSort fun a a' => f a ≤ f a'

instance total_limit (f : α → Nat) : Std.Total fun a a' => f a ≤ f a' :=
  ⟨fun a a' => le_total (f a) (f a')⟩

instance isTrans_limit (f : α → Nat) : IsTrans α fun a a' => f a ≤ f a' :=
  ⟨fun _ _ _ => le_trans⟩

theorem map_byLimit (f : α → Nat) (l : List α) :
    (byLimit f l).map f = (l.map f).insertionSort (· ≤ ·) :=
  List.map_insertionSort _ _ f l fun _ _ _ _ => Iff.rfl

theorem capacity_eq : compatibleCapacity (left.map f) (right.map g) =
    (sweep f g (byLimit f left) (byLimit g right)).length := by
  rw [length_sweep, map_byLimit, map_byLimit, compatibleCapacity]

theorem exists_matching (f : α → Nat) (g : β → Nat) (left : List α) (right : List β) :
    ∃ pairs, IsMatching (within f g) left right pairs ∧
      pairs.length = compatibleCapacity (left.map f) (right.map g) :=
  ⟨sweep f g (byLimit f left) (byLimit g right),
    sweep_isMatching.mono (List.perm_insertionSort _ _).subperm (List.perm_insertionSort _ _).subperm,
    capacity_eq.symm⟩

theorem length_le_capacity {pairs : List (α × β)} (h : IsMatching (within f g) left right pairs) :
    pairs.length ≤ compatibleCapacity (left.map f) (right.map g) := by
  have hsorted : IsMatching (within f g) (byLimit f left) (byLimit g right) pairs :=
    h.mono (List.perm_insertionSort _ _).symm.subperm (List.perm_insertionSort _ _).symm.subperm
  rw [capacity_eq]
  exact length_le_sweep (List.pairwise_insertionSort _ _) (List.pairwise_insertionSort _ _) hsorted

/-- The limits matter, and their order does not. -/
theorem compatibleCapacity_perm {b b' s s' : List Nat} (hb : b.Perm b') (hs : s.Perm s') :
    compatibleCapacity b s = compatibleCapacity b' s' := by
  have hsort : ∀ {l l' : List Nat}, l.Perm l' →
      l.insertionSort (· ≤ ·) = l'.insertionSort (· ≤ ·) := by
    intro l l' h
    exact List.Perm.eq_of_pairwise (fun _ _ _ _ => le_antisymm) (List.pairwise_insertionSort _ _)
      (List.pairwise_insertionSort _ _)
      (((List.perm_insertionSort _ _).trans h).trans (List.perm_insertionSort _ _).symm)
  rw [compatibleCapacity, compatibleCapacity, hsort hb, hsort hs]

/-! ### The intents -/

variable {intents : List LiquidityIntent}

/-- A one-to-one assignment of buy intents of a good to sell intents of it, each within the buyer's
    limit. -/
def Assignment (intents : List LiquidityIntent) (good : Good)
    (pairs : List (LiquidityIntent × LiquidityIntent)) : Prop :=
  IsMatching (within (·.limitPriceAtomic) (·.limitPriceAtomic)) (intentsOf intents good .buy)
    (intentsOf intents good .sell) pairs

/-- The capacity of a good is the size of a largest assignment. -/
theorem goodSummary_isGreatest (intents : List LiquidityIntent) (good : Good) :
    IsGreatest {n | ∃ pairs, Assignment intents good pairs ∧ pairs.length = n}
      (goodSummary intents good).priceCompatibleCapacity := by
  constructor
  · exact exists_matching _ _ _ _
  · rintro n ⟨pairs, hpairs, rfl⟩
    exact length_le_capacity hpairs

/-! ### Entries with the limits of the intents -/

variable {entries : List Market.PoolEntry}

/-- Entries with the same sides, goods and limits as the intents, in any order. -/
def SameTerms (entries : List Market.PoolEntry) (intents : List LiquidityIntent) : Prop :=
  (entries.map fun e => (e.side, e.good, e.limitPriceAtomic)).Perm
    (intents.map fun i => (i.side, i.good, some i.limitPriceAtomic))

/-- The limit of an entry that has one. -/
def entryLimit (e : Market.PoolEntry) : Nat :=
  e.limitPriceAtomic.getD 0

theorem SameTerms.hasLimit (h : SameTerms entries intents) {e : Market.PoolEntry}
    (he : e ∈ entries) : e.limitPriceAtomic = some (entryLimit e) := by
  obtain ⟨i, -, hi⟩ := List.mem_map.mp (h.mem_iff.mp (List.mem_map_of_mem he))
  have hlimit : some i.limitPriceAtomic = e.limitPriceAtomic := congrArg (·.2.2) hi
  rw [entryLimit, ← hlimit]
  rfl

/-- The limits of one side of a good. -/
theorem SameTerms.limits (h : SameTerms entries intents) (good : Good) (side : MarketSide) :
    ((Market.sideOf entries good side).map entryLimit).Perm
      ((intentsOf intents good side).map (·.limitPriceAtomic)) := by
  have hterms := (h.filter fun t => t.2.1 = good && t.1 = side).map fun t => t.2.2.getD 0
  rw [List.filter_map, List.filter_map, List.map_map, List.map_map] at hterms
  exact ((List.perm_insertionSort _ _).map _).trans hterms

/-- Limits that are given overlap when the seller's is within the buyer's. -/
theorem SameTerms.overlap_eq (h : SameTerms entries intents) (good : Good) :
    ∀ b ∈ Market.sideOf entries good .buy, ∀ s ∈ Market.sideOf entries good .sell,
      Market.limitsOverlap b s = within entryLimit entryLimit b s := by
  intro b hb s hs
  rw [Market.limitsOverlap, h.hasLimit (Market.mem_sideOf.mp hb).1,
    h.hasLimit (Market.mem_sideOf.mp hs).1]
  rfl

theorem SameTerms.capacity (h : SameTerms entries intents) (good : Good) :
    (goodSummary intents good).priceCompatibleCapacity =
      compatibleCapacity ((Market.sideOf entries good .buy).map entryLimit)
        ((Market.sideOf entries good .sell).map entryLimit) :=
  (compatibleCapacity_perm (h.limits good .buy) (h.limits good .sell)).symm

/-- A good has no more pairings than its capacity, and at least half as many. -/
theorem SameTerms.fits_bounds (h : SameTerms entries intents)
    (hids : (entries.map (·.poolEntryId)).Nodup) (good : Good) :
    (Market.fits entries good).length ≤ (goodSummary intents good).priceCompatibleCapacity ∧
      (goodSummary intents good).priceCompatibleCapacity ≤ 2 * (Market.fits entries good).length := by
  rw [h.capacity good]
  constructor
  · exact length_le_capacity (firstFit_isMatching.congr (h.overlap_eq good))
  · obtain ⟨pairs, hpairs, hlength⟩ := exists_matching entryLimit entryLimit
      (Market.sideOf entries good .buy) (Market.sideOf entries good .sell)
    have hoverlap : IsMatching Market.limitsOverlap _ _ pairs :=
      hpairs.congr fun b hb s hs => (h.overlap_eq good b hb s hs).symm
    rw [← hlength]
    exact length_le_two_mul (Market.nodup_of_ids (Market.nodup_sideOf hids))
      (Market.nodup_of_ids (Market.nodup_sideOf hids)) hoverlap

/-- **The capacity of each good is the size of a largest assignment, and the pairings of entries with
    the same sides, goods and limits are at most the total capacity and at least half of it.** -/
theorem capacity_isGreatest (participantCount : Int) (intents : List LiquidityIntent)
    (summary : RoundLiquiditySummary)
    (h : summarizeRoundLiquidity participantCount intents = .ok summary) :
    (∀ good, IsGreatest {n | ∃ pairs, Assignment intents good pairs ∧ pairs.length = n}
      (summary.byGood good).priceCompatibleCapacity) ∧
    ∀ entries pairings, SameTerms entries intents → Market.fcfsPair entries = .ok pairings →
      pairings.length ≤ summary.priceCompatibleCapacity ∧
        summary.priceCompatibleCapacity ≤ 2 * pairings.length := by
  unfold summarizeRoundLiquidity at h
  obtain ⟨-, h⟩ := ok_of_guard h
  obtain ⟨-, h⟩ := ok_of_guard h
  obtain ⟨-, h⟩ := ok_of_guard h
  cases h
  refine ⟨goodSummary_isGreatest intents, ?_⟩
  intro entries pairings hterms hpairs
  obtain ⟨hids, hfits⟩ := Market.fcfsPair_fits hpairs
  have hbounds := hterms.fits_bounds hids
  have hlength : pairings.length = (goods.map fun good => (Market.fits entries good).length).sum := by
    rw [hfits.length_eq, Market.allFits, List.length_flatMap]
  constructor
  · rw [hlength]
    exact List.sum_le_sum fun good _ => (hbounds good).1
  · rw [hlength, ← List.sum_map_mul_left]
    exact List.sum_le_sum fun good _ => (hbounds good).2

/-! ### A round that makes half of its pairs -/

namespace Example

def roundIntents : List LiquidityIntent :=
  [{ participantId := "rich", side := .buy, good := .grain, limitPriceAtomic := 9 },
    { participantId := "poor", side := .buy, good := .grain, limitPriceAtomic := 5 },
    { participantId := "cheap", side := .sell, good := .grain, limitPriceAtomic := 5 },
    { participantId := "dear", side := .sell, good := .grain, limitPriceAtomic := 9 }]

def entry (participantId : String) (side : MarketSide) (limit : Nat) (hlimit : 0 < limit)
    (enteredAt : UtcDateTime) : Market.PoolEntry where
  poolEntryId := participantId
  gameId := "game"
  roundId := "round"
  participantId := participantId
  side := side
  good := .grain
  enteredAt := enteredAt
  limitPriceAtomic := some limit
  quantityPositive := Nat.one_pos
  limitPositive := by simpa using hlimit

/-- The buyer with the high limit comes first and takes the seller with the low one. -/
def roundEntries : List Market.PoolEntry :=
  [entry "rich" .buy 9 (by decide) 0, entry "poor" .buy 5 (by decide) 1,
    entry "cheap" .sell 5 (by decide) 2, entry "dear" .sell 9 (by decide) 3]

end Example

/-- The capacity is two, and the first comers leave two that do not match. -/
theorem capacity_isGreatest_half : ∃ summary pairings,
    summarizeRoundLiquidity 4 Example.roundIntents = .ok summary ∧
      summary.priceCompatibleCapacity = 2 ∧ Market.fcfsPair Example.roundEntries = .ok pairings ∧
      summary.priceCompatibleCapacity ≤ 2 * pairings.length := by
  obtain ⟨summary, hsummary⟩ : ∃ s, summarizeRoundLiquidity 4 Example.roundIntents = .ok s := ⟨_, rfl⟩
  obtain ⟨pairings, hpairings⟩ : ∃ p, Market.fcfsPair Example.roundEntries = .ok p :=
    ⟨[_], by rfl⟩
  have hterms : SameTerms Example.roundEntries Example.roundIntents := List.Perm.refl _
  refine ⟨summary, pairings, hsummary, ?_, hpairings, ?_⟩
  · cases hsummary
    rfl
  · exact ((capacity_isGreatest 4 Example.roundIntents summary hsummary).2 _ pairings hterms hpairings).2

end Arena402.Game.Liquidity
