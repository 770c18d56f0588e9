/-
What `fcfs_pair` pairs.

Per good the pairings are those of a first fit over the sorted sides (`fcfsPair_fits`), so every entry
is paired once at most and nobody is passed over for a later entry (`fcfsPair_stable`).  The sorted
sides do not depend on the order in which the entries come, once their ids are distinct, and neither
do the checks (`fcfsPair_perm`).
-/
import Mathlib.Data.String.Basic
import Arena402.Lib.Matching
import Arena402.Lib.Raise
import Arena402.Game.Market

namespace Arena402.Game.Market

open Py Matching

variable {entries entries' : List PoolEntry} {good : Good} {side : MarketSide} {a b c : PoolEntry}

/-! ### The sorted sides -/

/-- The strict order of the sort keys. -/
def Earlier (a b : PoolEntry) : Prop :=
  a.enteredAt < b.enteredAt ∨ (a.enteredAt = b.enteredAt ∧ a.poolEntryId < b.poolEntryId)

theorem sortsBefore_total (a b : PoolEntry) : SortsBefore a b ∨ SortsBefore b a := by
  unfold SortsBefore
  rcases lt_trichotomy a.enteredAt b.enteredAt with h | h | h
  · exact Or.inl (Or.inl h)
  · rcases le_total a.poolEntryId b.poolEntryId with hid | hid
    · exact Or.inl (Or.inr ⟨h, hid⟩)
    · exact Or.inr (Or.inr ⟨h.symm, hid⟩)
  · exact Or.inr (Or.inl h)

theorem sortsBefore_trans (hab : SortsBefore a b) (hbc : SortsBefore b c) : SortsBefore a c := by
  rcases hab with hab | ⟨hab, hid⟩
  · rcases hbc with hbc | ⟨hbc, -⟩
    · exact Or.inl (lt_trans hab hbc)
    · exact Or.inl (hbc ▸ hab)
  · rcases hbc with hbc | ⟨hbc, hid'⟩
    · exact Or.inl (hab ▸ hbc)
    · exact Or.inr ⟨hab.trans hbc, le_trans hid hid'⟩

instance : Std.Total SortsBefore := ⟨sortsBefore_total⟩

instance : IsTrans PoolEntry SortsBefore := ⟨fun _ _ _ => sortsBefore_trans⟩

theorem sortsBefore_antisymm (hab : SortsBefore a b) (hba : SortsBefore b a) :
    a.poolEntryId = b.poolEntryId := by
  rcases hab with hab | ⟨hab, hid⟩
  · rcases hba with hba | ⟨hba, -⟩
    · exact absurd hba (not_lt_of_gt hab)
    · exact absurd hba (ne_of_gt hab)
  · rcases hba with hba | ⟨-, hid'⟩
    · exact absurd hab (ne_of_gt hba)
    · exact le_antisymm hid hid'

theorem earlier_of_sortsBefore (h : SortsBefore a b) (hne : a.poolEntryId ≠ b.poolEntryId) :
    Earlier a b := by
  rcases h with h | ⟨h, hid⟩
  · exact Or.inl h
  · exact Or.inr ⟨h, lt_of_le_of_ne hid hne⟩

theorem mem_sideOf : a ∈ sideOf entries good side ↔ a ∈ entries ∧ a.good = good ∧ a.side = side := by
  simp [sideOf]

theorem nodup_sideOf (h : (entries.map (·.poolEntryId)).Nodup) :
    ((sideOf entries good side).map (·.poolEntryId)).Nodup :=
  ((List.perm_insertionSort _ _).map _).nodup_iff.mpr ((List.filter_sublist.map _).nodup h)

/-- A side is sorted strictly when the ids are distinct. -/
theorem pairwise_sideOf (h : (entries.map (·.poolEntryId)).Nodup) :
    (sideOf entries good side).Pairwise Earlier := by
  have hsorted : (sideOf entries good side).Pairwise SortsBefore := List.pairwise_insertionSort _ _
  have hids : (sideOf entries good side).Pairwise fun a b => a.poolEntryId ≠ b.poolEntryId :=
    List.pairwise_map.mp (nodup_sideOf h)
  exact (hsorted.and hids).imp fun hab => earlier_of_sortsBefore hab.1 hab.2

theorem sideOf_perm (h : (entries.map (·.poolEntryId)).Nodup) (hperm : entries.Perm entries') :
    sideOf entries good side = sideOf entries' good side := by
  have hsides : (sideOf entries good side).Perm (sideOf entries' good side) :=
    ((List.perm_insertionSort _ _).trans (hperm.filter _)).trans (List.perm_insertionSort _ _).symm
  refine List.Perm.eq_of_pairwise ?_ (List.pairwise_insertionSort SortsBefore _)
    (List.pairwise_insertionSort SortsBefore _) hsides
  intro a b ha hb hab hba
  have hb' : b ∈ entries := hperm.mem_iff.mpr (mem_sideOf.mp hb).1
  exact List.inj_on_of_nodup_map h (mem_sideOf.mp ha).1 hb' (sortsBefore_antisymm hab hba)

/-- **The order of the entries does not matter, for the pairings and for the errors.** -/
theorem fcfsPair_perm (entries entries' : List PoolEntry) (hperm : entries.Perm entries') :
    fcfsPair entries = fcfsPair entries' := by
  have hids := (hperm.map (·.poolEntryId)).nodup_iff
  have hgames := ((hperm.map (·.gameId)).dedup).length_eq
  have hrounds := ((hperm.map (·.roundId)).dedup).length_eq
  have hempty : entries.isEmpty = entries'.isEmpty := by
    rw [Bool.eq_iff_iff, List.isEmpty_iff, List.isEmpty_iff]
    exact ⟨fun h => (h ▸ hperm).nil_eq.symm, fun h => (h ▸ hperm).eq_nil⟩
  unfold fcfsPair
  by_cases h : (entries.map (·.poolEntryId)).Nodup
  · have hsides : ∀ good side, sideOf entries good side = sideOf entries' good side :=
      fun good side => sideOf_perm h hperm
    rw [if_neg (not_not.mpr h), if_neg (not_not.mpr (hids.mp h)), hempty, hgames, hrounds]
    simp only [hsides]
  · rw [if_pos h, if_pos (mt hids.mpr h)]

/-! ### The pairings are a first fit -/

/-- The pairs of a good. -/
def fits (entries : List PoolEntry) (good : Good) : List (PoolEntry × PoolEntry) :=
  firstFit limitsOverlap (sideOf entries good .buy) (sideOf entries good .sell)

/-- The pairs of all goods. -/
def allFits (entries : List PoolEntry) : List (PoolEntry × PoolEntry) :=
  goods.flatMap (fits entries)

/-- A pairing of a buyer and a seller. -/
def Pairs (p : Pairing) (x : PoolEntry × PoolEntry) : Prop :=
  ∃ good sequence, p = pairingOf good x.1 x.2 sequence

theorem pairGood_fits : ∀ {buyers sellers : List PoolEntry} {sequence : Nat} {pairings : List Pairing},
    pairGood good buyers sellers sequence = .ok pairings →
      List.Forall₂ Pairs pairings (firstFit limitsOverlap buyers sellers) := by
  intro buyers
  induction buyers with
  | nil =>
      intro sellers sequence pairings h
      cases h
      exact .nil
  | cons buyer rest ih =>
      intro sellers sequence pairings h
      rw [pairGood] at h
      cases hfind : sellers.find? (limitsOverlap buyer) with
      | none =>
          rw [hfind] at h
          rw [firstFit_cons_of_none hfind]
          exact ih h
      | some seller =>
          rw [hfind] at h
          obtain ⟨-, h⟩ := ok_of_guard h
          obtain ⟨later, hlater, h⟩ := ok_of_bind h
          cases h
          rw [firstFit_cons_of_some hfind]
          exact .cons ⟨good, sequence + 1, rfl⟩ (ih hlater)

/-- Results of calls that are joined. -/
theorem forall₂_flatten_of_mapM {α β γ ε : Type} {R : α → β → Prop} {f : γ → Except ε (List α)}
    {g : γ → List β} (hf : ∀ x l, f x = .ok l → List.Forall₂ R l (g x)) :
    ∀ {l : List γ} {ys : List (List α)}, l.mapM f = .ok ys →
      List.Forall₂ R ys.flatten (l.flatMap g) := by
  intro l
  induction l with
  | nil =>
      intro ys h
      cases h
      exact .nil
  | cons x rest ih =>
      intro ys h
      rw [List.mapM_cons] at h
      obtain ⟨y, hy, h⟩ := ok_of_bind h
      obtain ⟨later, hlater, h⟩ := ok_of_bind h
      cases h
      rw [List.flatten_cons, List.flatMap_cons]
      exact List.rel_append (hf x y hy) (ih hlater)

/-- **The pairings are the pairs of the first fits, one after another.** -/
theorem fcfsPair_fits {pairings : List Pairing} (h : fcfsPair entries = .ok pairings) :
    (entries.map (·.poolEntryId)).Nodup ∧ List.Forall₂ Pairs pairings (allFits entries) := by
  unfold fcfsPair at h
  obtain ⟨hids, h⟩ := ok_of_guard h
  refine ⟨not_not.mp hids, ?_⟩
  by_cases hempty : entries.isEmpty = true
  · rw [if_pos hempty] at h
    cases h
    rw [List.isEmpty_iff.mp hempty]
    exact .nil
  · rw [if_neg hempty] at h
    obtain ⟨-, h⟩ := ok_of_guard h
    obtain ⟨output, houtput, h⟩ := ok_of_bind h
    cases h
    exact forall₂_flatten_of_mapM (fun _ _ => pairGood_fits) houtput

theorem map_buyers {pairings : List Pairing} {pairs : List (PoolEntry × PoolEntry)}
    (h : List.Forall₂ Pairs pairings pairs) :
    pairings.map (·.buyerEntryId) = pairs.map (·.1.poolEntryId) ∧
      pairings.map (·.sellerEntryId) = pairs.map (·.2.poolEntryId) := by
  induction h with
  | nil => exact ⟨rfl, rfl⟩
  | cons hp _ ih =>
      obtain ⟨good, sequence, rfl⟩ := hp
      exact ⟨congrArg _ ih.1, congrArg _ ih.2⟩

/-! ### Every entry is paired once at most -/

theorem mem_fits {x : PoolEntry × PoolEntry} (h : x ∈ fits entries good) :
    x.1 ∈ sideOf entries good .buy ∧ x.2 ∈ sideOf entries good .sell ∧
      limitsOverlap x.1 x.2 = true := by
  have hmatching : IsMatching limitsOverlap _ _ (fits entries good) := firstFit_isMatching
  exact ⟨hmatching.left.subset (List.mem_map_of_mem h),
    hmatching.right.subset (List.mem_map_of_mem h), hmatching.allowed x h⟩

/-- Entries that are picked from the pairs of each good, of that good, are picked once. -/
theorem nodup_picked {pick : PoolEntry × PoolEntry → PoolEntry}
    (hgood : ∀ good, ∀ x ∈ fits entries good, (pick x).good = good)
    (hnodup : ∀ good, ((fits entries good).map pick).Nodup) :
    ((allFits entries).map pick).Nodup := by
  rw [allFits, List.map_flatMap, List.nodup_flatMap]
  refine ⟨fun good _ => hnodup good, ?_⟩
  have hgoods : goods.Nodup := by decide
  refine hgoods.imp fun hne e he he' => ?_
  obtain ⟨x, hx, rfl⟩ := List.mem_map.mp he
  obtain ⟨x', hx', heq⟩ := List.mem_map.mp he'
  exact hne ((hgood _ x hx).symm.trans ((congrArg _ heq).symm.trans (hgood _ x' hx')))

theorem mem_allFits {x : PoolEntry × PoolEntry} (h : x ∈ allFits entries) :
    ∃ good, x ∈ fits entries good := by
  obtain ⟨good, -, hx⟩ := List.mem_flatMap.mp h
  exact ⟨good, hx⟩

theorem mem_goods (good : Good) : good ∈ goods := by
  cases good <;> decide

theorem nodup_of_ids {l : List PoolEntry} (h : (l.map (·.poolEntryId)).Nodup) : l.Nodup :=
  h.of_map _

/-- The buyers and the sellers of the pairs are distinct entries. -/
theorem nodup_allFits (h : (entries.map (·.poolEntryId)).Nodup) :
    ((allFits entries).map (·.1) ++ (allFits entries).map (·.2)).Nodup := by
  have hmatching : ∀ good, IsMatching limitsOverlap (sideOf entries good .buy)
      (sideOf entries good .sell) (fits entries good) := fun good => firstFit_isMatching
  have hbuyers : ((allFits entries).map (·.1)).Nodup := by
    refine nodup_picked (fun good x hx => (mem_sideOf.mp (mem_fits hx).1).2.1) fun good => ?_
    exact nodup_of_subperm (hmatching good).left (nodup_of_ids (nodup_sideOf h))
  have hsellers : ((allFits entries).map (·.2)).Nodup := by
    refine nodup_picked (fun good x hx => (mem_sideOf.mp (mem_fits hx).2.1).2.1) fun good => ?_
    exact nodup_of_subperm (hmatching good).right (nodup_of_ids (nodup_sideOf h))
  refine List.nodup_append.mpr ⟨hbuyers, hsellers, ?_⟩
  rintro e he e' he' rfl
  obtain ⟨x, hx, rfl⟩ := List.mem_map.mp he
  obtain ⟨x', hx', heq⟩ := List.mem_map.mp he'
  obtain ⟨good, hx⟩ := mem_allFits hx
  obtain ⟨good', hx'⟩ := mem_allFits hx'
  have hbuy := (mem_sideOf.mp (mem_fits hx).1).2.2
  rw [← heq, (mem_sideOf.mp (mem_fits hx').2.1).2.2] at hbuy
  cases hbuy

/-! ### Nobody is passed over -/

/-- A buyer and a seller are paired together. -/
def Paired (pairings : List Pairing) (buyer seller : PoolEntry) : Prop :=
  ∃ p ∈ pairings, p.buyerEntryId = buyer.poolEntryId ∧ p.sellerEntryId = seller.poolEntryId

theorem exists_of_forall₂ {α β : Type} {R : α → β → Prop} {l : List α} {k : List β}
    (h : List.Forall₂ R l k) : (∀ x ∈ l, ∃ y ∈ k, R x y) ∧ ∀ y ∈ k, ∃ x ∈ l, R x y := by
  induction h with
  | nil => simp
  | cons hxy _ ih =>
      constructor
      · intro x hx
        rcases List.mem_cons.mp hx with rfl | hx
        · exact ⟨_, List.mem_cons_self, hxy⟩
        · obtain ⟨y, hy, hR⟩ := ih.1 x hx
          exact ⟨y, List.mem_cons_of_mem _ hy, hR⟩
      · intro y hy
        rcases List.mem_cons.mp hy with rfl | hy
        · exact ⟨_, List.mem_cons_self, hxy⟩
        · obtain ⟨x, hx, hR⟩ := ih.2 y hy
          exact ⟨x, List.mem_cons_of_mem _ hx, hR⟩

theorem paired_of_fits {pairings : List Pairing} (h : List.Forall₂ Pairs pairings (allFits entries))
    {x : PoolEntry × PoolEntry} (hx : x ∈ fits entries good) : Paired pairings x.1 x.2 := by
  have hall : x ∈ allFits entries := List.mem_flatMap.mpr ⟨good, mem_goods good, hx⟩
  obtain ⟨p, hp, good', sequence, rfl⟩ := (exists_of_forall₂ h).2 x hall
  exact ⟨_, hp, rfl, rfl⟩

/-- **The pairings use every entry once at most, they join a buyer and a seller of one good whose limits
    overlap, and they pass nobody over: two such entries that are not paired together have one that is
    paired with an earlier entry than the other of them.** -/
theorem fcfsPair_stable (entries : List PoolEntry) (pairings : List Pairing)
    (h : fcfsPair entries = .ok pairings) :
    (pairings.map (·.buyerEntryId) ++ pairings.map (·.sellerEntryId)).Nodup ∧
    (∀ p ∈ pairings, ∃ b ∈ entries, ∃ s ∈ entries, p.buyerEntryId = b.poolEntryId ∧
      p.sellerEntryId = s.poolEntryId ∧ b.side = .buy ∧ s.side = .sell ∧ b.good = s.good ∧
      limitsOverlap b s = true) ∧
    ∀ b ∈ entries, ∀ s ∈ entries, b.side = .buy → s.side = .sell → b.good = s.good →
      limitsOverlap b s = true → ¬ Paired pairings b s →
        (∃ s' ∈ entries, Paired pairings b s' ∧ Earlier s' s) ∨
          ∃ b' ∈ entries, Paired pairings b' s ∧ Earlier b' b := by
  obtain ⟨hids, hfits⟩ := fcfsPair_fits h
  refine ⟨?_, ?_, ?_⟩
  · have hinj : ∀ e ∈ (allFits entries).map (·.1) ++ (allFits entries).map (·.2), e ∈ entries := by
      intro e he
      rcases List.mem_append.mp he with he | he
      · obtain ⟨x, hx, rfl⟩ := List.mem_map.mp he
        obtain ⟨good, hx⟩ := mem_allFits hx
        exact (mem_sideOf.mp (mem_fits hx).1).1
      · obtain ⟨x, hx, rfl⟩ := List.mem_map.mp he
        obtain ⟨good, hx⟩ := mem_allFits hx
        exact (mem_sideOf.mp (mem_fits hx).2.1).1
    have hnodup := (nodup_allFits hids).map_on fun e he e' he' hid =>
      List.inj_on_of_nodup_map hids (hinj e he) (hinj e' he') hid
    rw [List.map_append, List.map_map, List.map_map] at hnodup
    rw [(map_buyers hfits).1, (map_buyers hfits).2]
    exact hnodup
  · intro p hp
    obtain ⟨x, hx, good, sequence, rfl⟩ := (exists_of_forall₂ hfits).1 p hp
    obtain ⟨good', hx⟩ := mem_allFits hx
    obtain ⟨hb, hs, hoverlap⟩ := mem_fits hx
    obtain ⟨hb, hbgood, hbside⟩ := mem_sideOf.mp hb
    obtain ⟨hs, hsgood, hsside⟩ := mem_sideOf.mp hs
    exact ⟨x.1, hb, x.2, hs, rfl, rfl, hbside, hsside, hbgood.trans hsgood.symm, hoverlap⟩
  · intro b hb s hs hbuy hsell hsame hoverlap hnot
    have hb' : b ∈ sideOf entries b.good .buy := mem_sideOf.mpr ⟨hb, rfl, hbuy⟩
    have hs' : s ∈ sideOf entries b.good .sell := mem_sideOf.mpr ⟨hs, hsame.symm, hsell⟩
    rcases firstFit_earlier hoverlap (pairwise_sideOf hids) (pairwise_sideOf hids) hb' hs' with
      hpair | ⟨s', hpair, hearlier⟩ | ⟨b', hpair, hearlier⟩
    · exact absurd (paired_of_fits hfits hpair) hnot
    · refine Or.inl ⟨s', (mem_sideOf.mp (mem_fits hpair).2.1).1, ?_, hearlier⟩
      exact paired_of_fits hfits hpair
    · refine Or.inr ⟨b', (mem_sideOf.mp (mem_fits hpair).1).1, ?_, hearlier⟩
      exact paired_of_fits hfits hpair

/-! ### Two buyers of one seller -/

namespace Example

/-- A seller and two buyers of grain; the later buyer would pay more. -/
def seller : PoolEntry where
  poolEntryId := "seller"
  gameId := "game"
  roundId := "round"
  participantId := "p-seller"
  side := .sell
  good := .grain
  enteredAt := 0
  limitPriceAtomic := some 5

def poor : PoolEntry :=
  { seller with poolEntryId := "poor", participantId := "p-poor", side := .buy, enteredAt := 1 }

def rich : PoolEntry where
  poolEntryId := "rich"
  gameId := "game"
  roundId := "round"
  participantId := "p-rich"
  side := .buy
  good := .grain
  enteredAt := 2
  limitPriceAtomic := some 9

def pool : List PoolEntry :=
  [rich, seller, poor]

theorem fcfsPair_pool : fcfsPair pool = .ok [pairingOf .grain poor seller 1] := by
  decide

end Example

open Example

/-- The seller goes to the buyer that came first, and the other one cannot complain. -/
theorem fcfsPair_stable_pool :
    (∃ s' ∈ pool, Paired [pairingOf .grain poor seller 1] rich s' ∧ Earlier s' seller) ∨
      ∃ b' ∈ pool, Paired [pairingOf .grain poor seller 1] b' seller ∧ Earlier b' rich := by
  have hnot : ¬ Paired [pairingOf .grain poor seller 1] rich seller := by
    rintro ⟨p, hp, hbuyer, -⟩
    rw [List.mem_singleton.mp hp] at hbuyer
    exact absurd hbuyer (by decide)
  exact (fcfsPair_stable pool _ fcfsPair_pool).2.2 rich (by simp [pool]) seller (by simp [pool])
    rfl rfl rfl rfl hnot

/-- The entries in another order. -/
theorem fcfsPair_perm_pool : fcfsPair pool.reverse = .ok [pairingOf .grain poor seller 1] := by
  rw [← fcfsPair_pool]
  exact fcfsPair_perm _ _ (List.reverse_perm _)

end Arena402.Game.Market
