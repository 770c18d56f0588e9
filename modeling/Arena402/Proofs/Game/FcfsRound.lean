/-
Every turn of a first-come round.

The round starts without negotiations of its own.  Decisions bring entries into the pool that
their authors can honour, pairing turns entries into negotiations that are `Dealing`, and
each turn keeps that of its own negotiation and of the others.  So whenever a turn is
answered, `turn_returns_iff` tells whether the call returns.
-/
import Arena402.Proofs.Game.TurnReturns

namespace Arena402.Game

open Py

namespace Pawnhouse

/-! ### Entries of the pool -/

/-- An entry whose author is there with a balance and, to sell, with the goods. -/
structure EntryOk (s : Pawnhouse) (e : PoolEntry) : Prop where
  here : (s.participants.get e.participantId).isSome
  balance : (s.balances.get e.participantId).isSome
  quantityPos : 0 < e.quantity
  stock : e.side = .sell → ∃ held, s.holdings.get (e.participantId, e.goodId) = some held ∧
    (e.quantity : Int) ≤ held
  limitShort : ∀ limit, e.limitPriceAtomic = some limit → Short limit

theorem short_decisionLimit {o : Order} {limit : Nat} (h : decisionLimit o = some limit) :
    Short limit := by
  unfold decisionLimit at h
  obtain ⟨p, -, h⟩ := Option.bind_eq_some_iff.mp h
  split at h
  · rename_i n hn
    cases h
    exact short_of_gold hn
  · cases h

/-- The entry of a decision. -/
theorem decision_cases {s s' : Pawnhouse} {roundId participantId resultId : String}
    {receivedAt : UtcDateTime} {action : Action}
    (h : s.applyHostedDecision roundId participantId resultId receivedAt action = .ok s') :
    ∃ events entries, s' = { s with decisionEvents := events, poolEntries := entries } ∧
      ∀ e ∈ entries, e ∈ s.poolEntries ∨ ∃ side o, s.decisionOf participantId action = some (side, o) ∧
        e.2.participantId = participantId ∧ e.2.side = side ∧ e.2.goodId = o.good ∧
        e.2.quantity = o.quantity ∧ e.2.limitPriceAtomic = decisionLimit o := by
  unfold applyHostedDecision at h
  split at h
  · cases h
    exact ⟨s.decisionEvents, s.poolEntries, rfl, fun e he => Or.inl he⟩
  split at h
  · cases h
    exact ⟨_, s.poolEntries, rfl, fun e he => Or.inl he⟩
  rename_i side o hdecision
  dsimp only at h
  obtain ⟨-, h⟩ := ok_of_guard h
  cases h
  unfold insertPoolEntry
  split
  · exact ⟨_, s.poolEntries, rfl, fun e he => Or.inl he⟩
  · refine ⟨_, _, rfl, ?_⟩
    intro e he
    rcases Dict.mem_set he with rfl | he
    · exact Or.inr ⟨side, o, hdecision, rfl, rfl, rfl, rfl, rfl⟩
    · exact Or.inl he

/-- A sale needs the goods. -/
theorem decisionOf_sell {s : Pawnhouse} {participantId : String} {action : Action} {o : Order}
    (h : s.decisionOf participantId action = some (.sell, o)) :
    ∃ held, s.holdings.get (participantId, o.good) = some held ∧ (o.quantity : Int) ≤ held := by
  unfold decisionOf at h
  split at h
  · split at h <;> cases h
  · split at h
    · rename_i hsell
      cases h
      rw [Bool.and_eq_true] at hsell
      cases hheld : s.holdings.get (participantId, o.good) with
      | none =>
          rw [hheld] at hsell
          cases hsell.2
      | some held =>
          rw [hheld] at hsell
          exact ⟨held, rfl, by simpa using hsell.2⟩
    · cases h
  · cases h

/-! ### Pairs -/

/-- A pair joins a buyer with a seller of the same good, both from the pool. -/
structure PairOf (entries : List (String × PoolEntry)) (x : String × PairingRow) : Prop where
  joined : ∃ buyer ∈ entries, ∃ seller ∈ entries, ∃ sequence, x.2 = pairingOf buyer seller sequence ∧
    buyer.2.side = .buy ∧ seller.2.side = .sell ∧ buyer.2.goodId = seller.2.goodId ∧
    buyer.2.participantId ≠ seller.2.participantId

theorem pairGood_mem {gameId good : String} {entries : List (String × PoolEntry)} :
    ∀ (buyers sellers : List (String × PoolEntry)) (sequence : Nat) {pairs : List (String × PairingRow)},
      (∀ e ∈ buyers, e ∈ entries ∧ e.2.side = .buy ∧ e.2.goodId = good) →
      (∀ e ∈ sellers, e ∈ entries ∧ e.2.side = .sell ∧ e.2.goodId = good) →
      pairGood gameId good buyers sellers sequence = .ok pairs → ∀ x ∈ pairs, PairOf entries x := by
  intro buyers
  induction buyers with
  | nil =>
      intro sellers sequence pairs _ _ h
      cases h
      simp
  | cons buyer rest ih =>
      intro sellers sequence pairs hbuyers hsellers h
      have hrest : ∀ e ∈ rest, e ∈ entries ∧ e.2.side = .buy ∧ e.2.goodId = good :=
        fun e he => hbuyers e (List.mem_cons_of_mem _ he)
      unfold pairGood at h
      cases hfind : sellers.find? fun seller => limitsOverlap buyer.2 seller.2 with
      | none =>
          rw [hfind] at h
          exact ih sellers sequence hrest hsellers h
      | some seller =>
          rw [hfind] at h
          dsimp only at h
          obtain ⟨hdiffer, h⟩ := ok_of_guard h
          obtain ⟨later, hlater, h⟩ := ok_of_bind h
          cases h
          have hleft : ∀ e ∈ sellers.eraseP (fun seller => limitsOverlap buyer.2 seller.2),
              e ∈ entries ∧ e.2.side = .sell ∧ e.2.goodId = good :=
            fun e he => hsellers e (List.mem_of_mem_eraseP he)
          intro x hx
          rcases List.mem_cons.mp hx with rfl | hx
          · obtain ⟨hb, hbside, hbgood⟩ := hbuyers buyer List.mem_cons_self
            obtain ⟨hs, hsside, hsgood⟩ := hsellers seller (List.mem_of_find?_eq_some hfind)
            exact ⟨buyer, hb, seller, hs, _, rfl, hbside, hsside, hbgood.trans hsgood.symm, hdiffer⟩
          · exact ih _ _ hrest hleft hlater x hx

theorem fcfsPair_mem {gameId : String} {entries : List (String × PoolEntry)}
    {pairs : List (String × PairingRow)} (h : fcfsPair gameId entries = .ok pairs) :
    ∀ x ∈ pairs, PairOf entries x := by
  obtain ⟨byGood, hmap, h⟩ := ok_of_bind h
  cases h
  intro x hx
  obtain ⟨group, hgroup, hx⟩ := List.mem_flatten.mp hx
  obtain ⟨good, -, hgood⟩ := mem_of_mapM _ hmap group hgroup
  have hside : ∀ side e, e ∈ (entries.filter fun e => e.2.goodId = good && e.2.side = side).insertionSort
      (fun a b => enteredBefore a b) → e ∈ entries ∧ e.2.side = side ∧ e.2.goodId = good := by
    intro side e he
    rw [List.mem_insertionSort, List.mem_filter] at he
    simp only [Bool.and_eq_true, decide_eq_true_eq] at he
    exact ⟨he.1, he.2.2, he.2.1⟩
  exact pairGood_mem _ _ _ (hside .buy) (hside .sell) hgood x hx

/-! ### The tables during a round -/

/-- The tables of a game of the first-come protocol at the start of a round. -/
structure RoundStart (roundId : String) (s : Pawnhouse) : Prop where
  protocol : s.game.marketProtocol = .fcfsV1
  turnsBounded : 2 ≤ s.game.maxNegotiationTurns ∧ s.game.maxNegotiationTurns ≤ 6
  settleable : s.Settleable
  noEngagements : s.engagements = []
  ended : ∀ nid row, s.negotiations.get nid = some row → row.status ≠ .negotiating
  messagesOwned : ∀ m ∈ s.messages, (s.negotiations.get m.negotiationId).isSome
  intentsOwned : ∀ e ∈ s.intents, (s.negotiations.get e.2.intent.negotiationId).isSome
  unpooled : ∀ e ∈ s.poolEntries, e.2.roundId ≠ roundId

/-- What holds of the tables throughout the round. -/
structure HouseOk (roundId : String) (s : Pawnhouse) : Prop where
  turnsBounded : 2 ≤ s.game.maxNegotiationTurns ∧ s.game.maxNegotiationTurns ≤ 6
  settleable : s.Settleable
  noEngagements : s.engagements = []
  messagesOwned : ∀ m ∈ s.messages, (s.negotiations.get m.negotiationId).isSome
  intentsOwned : ∀ e ∈ s.intents, (s.negotiations.get e.2.intent.negotiationId).isSome
  entries : ∀ e ∈ s.poolEntries, e.2.roundId = roundId → s.EntryOk e.2
  running : ∀ nid row, s.negotiations.get nid = some row → row.status = .negotiating →
    ∃ n p, s.Dealing nid row n p

variable {roundId : String} {s s' : Pawnhouse}

theorem RoundStart.houseOk (h : RoundStart roundId s) : HouseOk roundId s where
  turnsBounded := h.turnsBounded
  settleable := h.settleable
  noEngagements := h.noEngagements
  messagesOwned := h.messagesOwned
  intentsOwned := h.intentsOwned
  entries := fun e he hround => absurd hround (h.unpooled e he)
  running := fun nid row hrow hrunning => absurd hrunning (h.ended nid row hrow)

/-- Every negotiation that deals deals on. -/
def DealsOn (s s' : Pawnhouse) : Prop :=
  ∀ nid row n p, s.Dealing nid row n p → s'.Dealing nid row n p

/-! ### Decisions -/

theorem decision_dealsOn {participantId resultId : String} {receivedAt : UtcDateTime}
    {action : Action}
    (h : s.applyHostedDecision roundId participantId resultId receivedAt action = .ok s') :
    DealsOn s s' := by
  obtain ⟨events, entries, rfl, -⟩ := decision_cases h
  intro nid row n p hd
  exact hd.congr rfl rfl rfl rfl rfl rfl hd.unsettled

theorem decision_houseOk {participantId resultId : String} {receivedAt : UtcDateTime}
    {action : Action} (hs : HouseOk roundId s) (hhere : (s.participants.get participantId).isSome)
    (hbalance : (s.balances.get participantId).isSome)
    (h : s.applyHostedDecision roundId participantId resultId receivedAt action = .ok s') :
    HouseOk roundId s' := by
  have hdeals := decision_dealsOn h
  obtain ⟨events, entries, rfl, hentries⟩ := decision_cases h
  refine { hs with
    settleable := ⟨hs.settleable.confirmations, hs.settleable.accounts⟩
    entries := ?_
    running := ?_ }
  · intro e he hround
    rcases hentries e he with hold | ⟨side, o, hdecision, hparticipant, hside, hgood, hquantity, hlimit⟩
    · have hok := hs.entries e hold hround
      exact ⟨hok.here, hok.balance, hok.quantityPos, hok.stock, hok.limitShort⟩
    · refine ⟨?_, ?_, ?_, ?_, ?_⟩
      · rw [hparticipant]
        exact hhere
      · rw [hparticipant]
        exact hbalance
      · rw [hquantity]
        exact Nat.one_pos
      · intro hsell
        rw [hside] at hsell
        subst hsell
        rw [hparticipant, hgood, hquantity]
        exact decisionOf_sell hdecision
      · intro limit hlim
        rw [hlimit] at hlim
        exact short_decisionLimit hlim
  · intro nid row hrow hrunning
    obtain ⟨n, p, hd⟩ := hs.running nid row hrow hrunning
    exact ⟨n, p, hdeals nid row n p hd⟩

/-! ### Pairing -/

/-- The tables with a new pairing and its negotiation. -/
theorem insertPairing_cases {now : UtcDateTime} {x : String × PairingRow}
    (h : insertPairing now s x = .ok s') :
    s.pairings.get x.1 = none ∧ s.negotiations.get ("neg:" ++ x.1) = none ∧
      s' = { s with
        pairings := s.pairings.set x.1 x.2
        poolEntries := s.poolEntries.update
          (fun id _ => id = x.2.buyerEntryId || id = x.2.sellerEntryId)
          fun e => { e with status := .paired }
        negotiations := s.negotiations.set ("neg:" ++ x.1)
          { pairingId := x.1
            roundId := x.2.roundId
            buyerParticipantId := x.2.buyerParticipantId
            sellerParticipantId := x.2.sellerParticipantId
            maxTurns := s.game.maxNegotiationTurns
            actionDeadlineAt := s.actionDeadline now } } := by
  unfold insertPairing at h
  obtain ⟨hguard, h⟩ := ok_of_guard h
  cases h
  simp only [Bool.or_eq_true, not_or, Option.not_isSome_iff_eq_none] at hguard
  exact ⟨hguard.1, hguard.2, rfl⟩

theorem insertPairing_dealsOn {now : UtcDateTime} {x : String × PairingRow}
    (h : insertPairing now s x = .ok s') : DealsOn s s' := by
  obtain ⟨hpairing, hnegotiation, rfl⟩ := insertPairing_cases h
  intro nid row n p hd
  refine hd.congr (Dict.get_set_ne _ _ ?_) rfl (Dict.get_set_ne _ _ ?_) rfl rfl rfl hd.unsettled
  · rintro rfl
    rw [hd.stored] at hnegotiation
    cases hnegotiation
  · intro hsame
    rw [← hsame, hd.pairing] at hpairing
    cases hpairing

/-- A negotiation that pairing opens deals. -/
theorem insertPairing_deals {now : UtcDateTime} {x : String × PairingRow}
    {entries : List (String × PoolEntry)} (hs : HouseOk roundId s) (hx : PairOf entries x)
    (hentries : ∀ e ∈ entries, s.EntryOk e.2) (h : insertPairing now s x = .ok s')
    {row : NegotiationRow} (hrow : s'.negotiations.get ("neg:" ++ x.1) = some row) :
    ∃ n p, s'.Dealing ("neg:" ++ x.1) row n p := by
  obtain ⟨hpairing, hnegotiation, rfl⟩ := insertPairing_cases h
  obtain ⟨buyer, hbuyer, seller, hseller, sequence, hpair, -, hsell, hgood, hdiffer⟩ := hx.joined
  have hb := hentries buyer hbuyer
  have hs' := hentries seller hseller
  obtain rfl := Option.some.inj ((Dict.get_set_self _ _ _).symm.trans hrow)
  have hnone : ∀ m ∈ s.messages, m.negotiationId ≠ "neg:" ++ x.1 := by
    intro m hm hid
    have howned := hs.messagesOwned m hm
    rw [hid, hnegotiation] at howned
    cases howned
  have hstored : s.storedOf ("neg:" ++ x.1) = [] := by
    unfold storedOf
    rw [List.filter_eq_nil_iff]
    intro m hm
    simpa using hnone m hm
  have hpos : 0 < s.game.maxNegotiationTurns := by
    have hbounds := hs.turnsBounded
    omega
  let fresh : Negotiation :=
    { buyerParticipantId := x.2.buyerParticipantId
      sellerParticipantId := x.2.sellerParticipantId
      maxTurns := s.game.maxNegotiationTurns }
  refine ⟨fresh, x.2,
    { stored := hrow
      running := rfl
      partiesDiffer := ?_
      turnsBounded := hs.turnsBounded
      numbered := ?_
      replayed := ?_
      bargaining := Negotiation.bargaining_fresh hpos
      nextRole := rfl
      turnCount := rfl
      pairing := Dict.get_set_self _ _ _
      quantityPos := ?_
      buyerHere := ?_
      sellerHere := ?_
      balance := ?_
      stock := ?_
      limitShort := ?_
      unsettled := ?_ }⟩
  · rw [hpair]
    exact hdiffer
  · show (s.storedOf ("neg:" ++ x.1)).map (·.turnSequence) = []
    rw [hstored]
    rfl
  · show Negotiation.replay _ (s.storedOf ("neg:" ++ x.1)) = _
    rw [hstored]
    rfl
  · rw [hpair]
    exact lt_min hb.quantityPos hs'.quantityPos
  · rw [hpair]
    exact hb.here
  · rw [hpair]
    exact hs'.here
  · rw [hpair]
    exact hb.balance
  · obtain ⟨held, hheld, hle⟩ := hs'.stock hsell
    refine ⟨held, ?_, ?_⟩
    · rw [hpair]
      show s.holdings.get (seller.2.participantId, buyer.2.goodId) = some held
      rw [hgood]
      exact hheld
    · rw [hpair]
      show ((min buyer.2.quantity seller.2.quantity : Nat) : Int) ≤ held
      exact le_trans (by exact_mod_cast Nat.min_le_right _ _) hle
  · intro limit hlimit
    rw [hpair] at hlimit
    exact hb.limitShort limit hlimit
  · intro e he hid
    have howned := hs.intentsOwned e he
    rw [hid, hnegotiation] at howned
    cases howned

theorem EntryOk.congr {e : PoolEntry} (h : s.EntryOk e)
    (hparticipants : s'.participants = s.participants)
    (hbalances : s'.balances = s.balances) (hholdings : s'.holdings = s.holdings) : s'.EntryOk e where
  here := by rw [hparticipants]; exact h.here
  balance := by rw [hbalances]; exact h.balance
  quantityPos := h.quantityPos
  stock := by rw [hholdings]; exact h.stock
  limitShort := h.limitShort

theorem insertPairing_houseOk {now : UtcDateTime} {x : String × PairingRow}
    {entries : List (String × PoolEntry)} (hs : HouseOk roundId s) (hx : PairOf entries x)
    (hentries : ∀ e ∈ entries, s.EntryOk e.2) (h : insertPairing now s x = .ok s') :
    HouseOk roundId s' := by
  have hdeals := insertPairing_dealsOn h
  have hnew : ∀ row, s'.negotiations.get ("neg:" ++ x.1) = some row →
      ∃ n p, s'.Dealing ("neg:" ++ x.1) row n p :=
    fun row hrow => insertPairing_deals hs hx hentries h hrow
  obtain ⟨hpairing, hnegotiation, rfl⟩ := insertPairing_cases h
  refine
    { turnsBounded := hs.turnsBounded
      settleable := ⟨hs.settleable.confirmations, hs.settleable.accounts⟩
      noEngagements := hs.noEngagements
      messagesOwned := fun m hm => Dict.isSome_get_set _ _ _ (hs.messagesOwned m hm)
      intentsOwned := fun e he => Dict.isSome_get_set _ _ _ (hs.intentsOwned e he)
      entries := ?_
      running := ?_ }
  · intro e he hround
    obtain ⟨old, hold, heq⟩ := List.mem_map.mp he
    have hkept : e.2 = old.2 ∨ e.2 = { old.2 with status := .paired } := by
      rw [← heq]
      split
      · exact Or.inr rfl
      · exact Or.inl rfl
    rcases hkept with hkept | hkept
    · rw [hkept] at hround ⊢
      exact (hs.entries old hold hround).congr rfl rfl rfl
    · rw [hkept] at hround ⊢
      have hok := hs.entries old hold hround
      exact ⟨hok.here, hok.balance, hok.quantityPos, hok.stock, hok.limitShort⟩
  · intro nid row hrow hrunning
    by_cases hid : nid = "neg:" ++ x.1
    · subst hid
      exact hnew row hrow
    · have hrow' : s.negotiations.get nid = some row := by
        rw [← hrow]
        exact (Dict.get_set_ne _ _ hid).symm
      obtain ⟨n, p, hd⟩ := hs.running nid row hrow' hrunning
      exact ⟨n, p, hdeals nid row n p hd⟩

/-- Moving the phase of a round touches nothing that negotiations rest on. -/
theorem movePhase_houseOk {old new : RoundPhase} {deadline : Option UtcDateTime → Option UtcDateTime}
    (hs : HouseOk roundId s) : HouseOk roundId (s.movePhase roundId old new deadline) :=
  { hs with
    settleable := ⟨hs.settleable.confirmations, hs.settleable.accounts⟩
    entries := fun e he hround => (hs.entries e he hround).congr rfl rfl rfl
    running := by
      intro nid row hrow hrunning
      obtain ⟨n, p, hd⟩ := hs.running nid row hrow hrunning
      exact ⟨n, p, hd.congr rfl rfl rfl rfl rfl rfl hd.unsettled⟩ }

theorem movePhase_dealsOn {old new : RoundPhase} {deadline : Option UtcDateTime → Option UtcDateTime} :
    DealsOn s (s.movePhase roundId old new deadline) :=
  fun _ _ _ _ hd => hd.congr rfl rfl rfl rfl rfl rfl hd.unsettled

/-- What pairing keeps from pair to pair. -/
structure Pairing (roundId : String) (s₀ s : Pawnhouse) : Prop where
  house : HouseOk roundId s
  participants : s.participants = s₀.participants
  balances : s.balances = s₀.balances
  holdings : s.holdings = s₀.holdings
  dealsOn : DealsOn s₀ s

theorem insertPairing_pairing {s₀ : Pawnhouse} {now : UtcDateTime} {x : String × PairingRow}
    {entries : List (String × PoolEntry)} (hx : PairOf entries x)
    (hentries : ∀ e ∈ entries, s₀.EntryOk e.2) (hs : Pairing roundId s₀ s)
    (h : insertPairing now s x = .ok s') : Pairing roundId s₀ s' := by
  have hok : ∀ e ∈ entries, s.EntryOk e.2 :=
    fun e he => (hentries e he).congr hs.participants hs.balances hs.holdings
  have hhouse := insertPairing_houseOk hs.house hx hok h
  have hdeals := insertPairing_dealsOn h
  obtain ⟨-, -, rfl⟩ := insertPairing_cases h
  exact ⟨hhouse, hs.participants, hs.balances, hs.holdings,
    fun nid row n p hd => hdeals nid row n p (hs.dealsOn nid row n p hd)⟩

theorem pair_keeps {now : UtcDateTime} (hs : HouseOk roundId s)
    (h : s.pairHostedRound roundId now = .ok s') : HouseOk roundId s' ∧ DealsOn s s' := by
  obtain ⟨pairs, hpairs, h⟩ := ok_of_bind h
  obtain ⟨s₁, hs₁, h⟩ := ok_of_bind h
  cases h
  set matching := s.movePhase roundId .decide .matching fun _ => none with hmatching
  have hmove : HouseOk roundId matching := movePhase_houseOk hs
  have hentries : ∀ e ∈ matching.unmatchedEntries roundId, matching.EntryOk e.2 := by
    intro e he
    unfold unmatchedEntries at he
    rw [List.mem_insertionSort, List.mem_filter] at he
    simp only [Bool.and_eq_true, decide_eq_true_eq] at he
    exact hmove.entries e he.1 he.2.1
  have hfold : Pairing roundId matching s₁ := by
    refine foldlM_keeps pairs ?_ ⟨hmove, rfl, rfl, rfl, fun _ _ _ _ hd => hd⟩ hs₁
    intro x hx t t' ht ht'
    exact insertPairing_pairing (fcfsPair_mem hpairs x hx) hentries ht ht'
  refine ⟨movePhase_houseOk hfold.house, ?_⟩
  intro nid row n p hd
  exact movePhase_dealsOn nid row n p (hfold.dealsOn nid row n p (movePhase_dealsOn nid row n p hd))

/-! ### Turns -/

/-- A turn keeps what the round rests on. -/
theorem turn_houseOk {intentHash : String → Nat → String} {core : ArenaCore} {nid resultId : String}
    {action : Option Action} {now : UtcDateTime} (hs : HouseOk roundId s)
    (h : s.applyHostedNegotiationAction intentHash core nid resultId action now = .ok s') :
    HouseOk roundId s' := by
  have hk := turn_kept h
  have hhere : ∀ id, (s.negotiations.get id).isSome → (s'.negotiations.get id).isSome := by
    intro id hid
    by_cases hsame : id = nid
    · subst hsame
      exact hk.row hid
    · rw [hk.rows id hsame]
      exact hid
  have hnid : (s'.negotiations.get nid).isSome := by
    refine hk.row ?_
    rcases turn_cases h with ⟨-, row, hrow, -⟩ | ⟨row, n, n', said, ht, -⟩
    · rw [hrow]
      rfl
    · rw [ht.stored]
      rfl
  refine
    { turnsBounded := by rw [hk.game]; exact hs.turnsBounded
      settleable := hs.settleable.kept hk
      noEngagements := ?_
      messagesOwned := ?_
      intentsOwned := ?_
      entries := ?_
      running := ?_ }
  · exact turn_engagements hs.noEngagements h
  · intro m hm
    rcases hk.said m hm with hm | hm
    · exact hhere _ (hs.messagesOwned m hm)
    · rw [hm]
      exact hnid
  · intro e he
    rcases hk.intents e he with he | he
    · exact hhere _ (hs.intentsOwned e he)
    · rw [he]
      exact hnid
  · rw [hk.poolEntries]
    intro e he hround
    have hok := hs.entries e he hround
    exact ⟨by rw [hk.participants]; exact hok.here, by rw [hk.balances]; exact hok.balance,
      hok.quantityPos, by rw [hk.holdings]; exact hok.stock, hok.limitShort⟩
  · intro id row hrow hrunning
    by_cases hsame : id = nid
    · subst hsame
      cases hold : s.negotiations.get id with
      | none =>
          rcases turn_cases h with ⟨-, found, hfound, -⟩ | ⟨found, n, n', said, ht, -⟩
          · rw [hold] at hfound
            cases hfound
          · have hfound := ht.stored
            rw [hold] at hfound
            cases hfound
      | some old =>
          by_cases hran : old.status = .negotiating
          · obtain ⟨n, p, hd⟩ := hs.running id old hold hran
            obtain ⟨n', hd'⟩ := hd.turn h hrow hrunning
            exact ⟨n', p, hd'⟩
          · -- a call for an ended negotiation writes nothing
            rcases turn_cases h with ⟨rfl, -⟩ | ⟨found, n, n', said, ht, -⟩
            · rw [hold] at hrow
              cases hrow
              exact absurd hrunning hran
            · have hfound := ht.stored
              rw [hold] at hfound
              cases hfound
              exact absurd ht.running hran
    · rw [hk.rows id hsame] at hrow
      obtain ⟨n, p, hd⟩ := hs.running id row hrow hrunning
      obtain ⟨status, hd'⟩ := hd.kept hk hsame
      exact ⟨n, _, hd'⟩

end Pawnhouse

namespace FcfsRound

open Pawnhouse

variable {intentHash : String → Nat → String} {H : Hashes} {roundId : String} {t t' : FcfsRound}

/-! ### Runs -/

/-- What holds throughout a round: every turn that is waited for is one that a negotiation
    is at. -/
structure Inv (roundId : String) (t : FcfsRound) : Prop where
  house : HouseOk roundId t.house
  waiting : ∀ nid task, t.asked.get nid = some task →
    ∃ row n p v, t.house.Dealing nid row n p ∧ Waiting row n p task v

theorem Waiting.status {row : NegotiationRow} {n : Negotiation} {p : PairingRow}
    {task : ArenaAgentTaskV1} {v : ArenaNegotiateInputV1} (h : Waiting row n p task v)
    (status : DealStatus) : Waiting row n { p with status := status } task v :=
  { h with }

/-- A participant that may decide is there with a balance. -/
theorem decideTask_here {s : Pawnhouse} {core : ArenaCore} {participantId taskId : String}
    {task : ArenaAgentTaskV1}
    (h : decideTask H roundId s core participantId taskId = some task) :
    (s.participants.get participantId).isSome ∧ (s.balances.get participantId).isSome := by
  obtain ⟨contexts, hcontexts, h⟩ := Option.bind_eq_some_iff.mp h
  obtain ⟨c, hc, -⟩ := Option.bind_eq_some_iff.mp h
  have hid : c.participantId = participantId := by
    have hfound := List.find?_some hc
    simp only [Bool.and_eq_true, decide_eq_true_eq] at hfound
    exact hfound.1
  have hmem := List.mem_of_find?_eq_some hc
  have hok := ok_of_toOption hcontexts
  unfold hostedDecideContexts at hok
  split at hok
  · cases hok
  · obtain ⟨-, hok⟩ := ok_of_guard hok
    cases hok
    obtain ⟨e, he, hsome⟩ := List.mem_filterMap.mp hmem
    split at hsome
    · obtain ⟨cash, hcash, rfl⟩ := Option.map_eq_some_iff.mp hsome
      have hname : e.1 = participantId := hid
      rw [← hname]
      refine ⟨Dict.mem_keys_iff.mp (List.mem_map_of_mem he), ?_⟩
      rw [hcash]
      rfl
    · cases hsome

/-- Tables in which every deal goes on wait for the same turns. -/
theorem Inv.dealsOn (h : Inv roundId t) {s : Pawnhouse} (hs : HouseOk roundId s)
    (hdeals : DealsOn t.house s) : Inv roundId { t with house := s } where
  house := hs
  waiting := by
    intro nid task htask
    obtain ⟨row, n, p, v, hd, hw⟩ := h.waiting nid task htask
    exact ⟨row, n, p, v, hdeals nid row n p hd, hw⟩

theorem Inv.ask (h : Inv roundId t) {nid taskId : String} {task : ArenaAgentTaskV1}
    (htask : turnTask H t.house nid taskId = some task) :
    Inv roundId { t with asked := t.asked.set nid task } where
  house := h.house
  waiting := by
    intro id found hfound
    by_cases hid : id = nid
    · subst hid
      obtain rfl := Option.some.inj ((Dict.get_set_self _ _ _).symm.trans hfound)
      obtain ⟨context, hcontext, htask⟩ := Option.bind_eq_some_iff.mp htask
      obtain ⟨c, hc, htask⟩ := Option.bind_eq_some_iff.mp htask
      obtain ⟨view, hview, htask⟩ := Option.bind_eq_some_iff.mp htask
      have hctx := ok_of_toOption hcontext
      rw [hc] at hctx
      obtain ⟨row, role, p, hof⟩ := context_cases hctx
      obtain ⟨n, p', hd⟩ := h.house.running id row hof.stored hof.running
      obtain rfl : p = p' := Option.some.inj (hof.pairing.symm.trans hd.pairing)
      obtain ⟨v, hw⟩ := waiting_of_context hd hof (ok_of_toOption hview)
      obtain rfl := Option.some.inj htask
      exact ⟨row, n, p, v, hd, hw⟩
    · have hold : t.asked.get id = some found := by
        rw [← hfound]
        exact (Dict.get_set_ne _ _ hid).symm
      exact h.waiting id found hold

theorem Inv.answer (h : Inv roundId t) {nid resultId : String} {core : ArenaCore}
    {action : Option Action} {now : UtcDateTime} {s : Pawnhouse}
    (hs : t.house.applyHostedNegotiationAction intentHash core nid resultId action now = .ok s) :
    Inv roundId { house := s, asked := t.asked.erase nid } where
  house := turn_houseOk h.house hs
  waiting := by
    intro id task htask
    have herase : (t.asked.erase nid).get id = some task := htask
    rw [Dict.get_erase] at herase
    by_cases hid : id = nid
    · rw [if_pos hid] at herase
      cases herase
    · rw [if_neg hid] at herase
      obtain ⟨row, n, p, v, hd, hw⟩ := h.waiting id task herase
      obtain ⟨status, hd'⟩ := hd.kept (turn_kept hs) hid
      exact ⟨row, n, _, v, hd', Waiting.status hw status⟩

/-- Every step keeps the invariant. -/
theorem Inv.step (h : Inv roundId t) {e : FcfsEvent}
    (hstep : FcfsRound.step intentHash H roundId t e = some t') : Inv roundId t' := by
  cases e with
  | decide core participantId taskId r receivedAt =>
      obtain ⟨task, htask, hstep⟩ := Option.bind_eq_some_iff.mp hstep
      obtain ⟨action, -, hstep⟩ := Option.bind_eq_some_iff.mp hstep
      obtain ⟨s, hs, hstep⟩ := Option.bind_eq_some_iff.mp hstep
      obtain rfl := Option.some.inj hstep
      have hok := ok_of_toOption hs
      obtain ⟨hhere, hbalance⟩ := decideTask_here htask
      exact h.dealsOn (decision_houseOk h.house hhere hbalance hok) (decision_dealsOn hok)
  | pair now =>
      obtain ⟨s, hs, hstep⟩ := Option.bind_eq_some_iff.mp hstep
      obtain rfl := Option.some.inj hstep
      obtain ⟨hhouse, hdeals⟩ := pair_keeps h.house (ok_of_toOption hs)
      exact h.dealsOn hhouse hdeals
  | ask nid taskId =>
      obtain ⟨task, htask, hstep⟩ := Option.bind_eq_some_iff.mp hstep
      obtain rfl := Option.some.inj hstep
      exact h.ask htask
  | answer core nid r now =>
      obtain ⟨task, -, hstep⟩ := Option.bind_eq_some_iff.mp hstep
      obtain ⟨s, hs, hstep⟩ := Option.bind_eq_some_iff.mp hstep
      obtain rfl := Option.some.inj hstep
      exact h.answer (ok_of_toOption hs)

theorem inv_of_run {s : Pawnhouse} (h : RoundStart roundId s)
    (hr : Trans.Run (FcfsRound.step intentHash H roundId) (fun _ _ => True) ⟨s, []⟩ t) :
    Inv roundId t := by
  refine hr.invariant ⟨h.houseOk, fun nid task htask => ?_⟩ (fun _ _ _ hi _ hstep => hi.step hstep)
  cases htask

/-- **Whenever a turn of a first-come round is answered, its derived action can be applied
    exactly when a proposal stays within the Arena bound and an accepted price is covered**, or
    when the result was applied before. -/
theorem fcfs_answer_returns_iff {s : Pawnhouse} (h : RoundStart roundId s)
    (hr : Trans.Run (FcfsRound.step intentHash H roundId) (fun _ _ => True) ⟨s, []⟩ t)
    {nid : String} {task : ArenaAgentTaskV1} (htask : t.asked.get nid = some task)
    (core : ArenaCore) (r : AgentTaskResultV1) (now : UtcDateTime) :
    (∃ s', t.house.applyHostedNegotiationAction intentHash core nid r.resultId
      (derivedAction task r) now = .ok s') ↔
      t.house.spoken r.resultId ∨ t.house.TurnOk nid (derivedAction task r) := by
  have hi := inv_of_run h hr
  obtain ⟨row, n, p, v, hd, hw⟩ := hi.waiting nid task htask
  by_cases hspoken : t.house.spoken r.resultId
  · refine iff_of_true ⟨t.house, ?_⟩ (Or.inl hspoken)
    unfold applyHostedNegotiationAction
    simp only [hd.stored]
    rw [if_pos ((any_spoken _ _).mpr hspoken)]
  · rw [turn_returns_iff hi.house.settleable hd hw hspoken
      (syncs_of_no_engagements hi.house.noEngagements _ _ _ _ _ _) r]
    constructor
    · exact Or.inr
    · rintro (hc | hok)
      · exact absurd hc hspoken
      · exact hok

/-! ### A buyer without a limit

The buyer has five gold, names no limit and opens at ten.  The seller accepts, and only the
freeze of the settlement looks at the cash.
-/

/-- A round with one buyer and one seller of grain. -/
def grainHouse : Pawnhouse where
  intents := []
  balances := [("buyer", 5000000), ("seller", 0)]
  holdings := [(("buyer", "grain"), 0), (("seller", "grain"), 1)]
  participants := [("buyer", ⟨"game-1", .active, "agent-b", none, .hosted, []⟩),
    ("seller", ⟨"game-1", .active, "agent-s", none, .hosted, []⟩)]
  pairings := []
  negotiations := []
  game :=
    { gameId := "game-1"
      marketProtocol := .fcfsV1
      roundCount := 3
      currentRound := 1
      actionTimeoutMs := 1000
      maxNegotiationTurns := 3
      authorizationMode := .singleEip3009 1 "token" 1 }
  rounds := [("round-1", ⟨1, .decide, some 100⟩)]
  accounts := [("buyer", ⟨1, "account-b"⟩), ("seller", ⟨1, "account-s"⟩)]

theorem succeeded_shape (action : Action) :
    ResultStatus.succeeded = .succeeded ↔ (some action).isSome = true := by
  simp

/-- The result of one turn. -/
def resultOf (resultId : String) (action : Action) : AgentTaskResultV1 where
  resultId := resultId
  taskId := resultId
  status := .succeeded
  action := some action
  shape := succeeded_shape action

def tenGold : PositiveFixedDecimal :=
  priceOfChars ['1', '0'] ⟨10, 0⟩ (by decide) (by decide)

theorem deal_minLength : 1 ≤ "deal".length := by decide

theorem deal_maxLength : "deal".length ≤ maxPublicMessageLength := by decide

theorem deal_visible : Py.strip "deal".toList ≠ [] := by decide

def deal : PublicMessage where
  text := "deal"
  minLength := deal_minLength
  maxLength := deal_maxLength
  visible := deal_visible

def grainHashes : Hashes where
  text := id
  snapshot := fun _ => ""
  result := fun _ => ""

def grainNegotiation : String := "neg:pair:game-1:round-1:grain:1"

/-- The round up to the seller's answer. -/
def grainRound : List FcfsEvent :=
  [.decide {} "buyer" "task-1" (resultOf "result-1" (.buy { good := "grain" })) 10,
    .decide {} "seller" "task-2" (resultOf "result-2" (.sell { good := "grain" })) 11,
    .pair 20,
    .ask grainNegotiation "task-3",
    .answer {} grainNegotiation (resultOf "result-3" (.propose tenGold deal)) 30,
    .ask grainNegotiation "task-4"]

/-- The round as it waits for the seller's answer. -/
def grainAsked : Option FcfsRound :=
  Trans.exec (FcfsRound.step (fun _ _ => "") grainHashes "round-1") (fun _ _ => True)
    ⟨grainHouse, []⟩ grainRound

/-- What the seller's answer raises. -/
def answerError (r : AgentTaskResultV1) (t : FcfsRound) : Option String :=
  (t.asked.get grainNegotiation).bind fun task =>
    match t.house.applyHostedNegotiationAction (fun _ _ => "") {} grainNegotiation r.resultId
        (derivedAction task r) 40 with
    | .ok _ => none
    | .error e => some e

theorem grainHouse_start : RoundStart "round-1" grainHouse where
  protocol := rfl
  turnsBounded := by decide
  settleable :=
    { confirmations := by
        intro chainId token k hmode
        cases hmode
        decide
      accounts := by
        intro chainId token k hmode id hid
        cases hmode
        by_cases hbuyer : id = "buyer"
        · subst hbuyer
          exact ⟨⟨1, "account-b"⟩, rfl, rfl⟩
        by_cases hseller : id = "seller"
        · subst hseller
          exact ⟨⟨1, "account-s"⟩, rfl, rfl⟩
        simp [grainHouse, Dict.get_cons, Ne.symm hbuyer, Ne.symm hseller] at hid }
  noEngagements := rfl
  ended := by
    intro nid row hrow
    cases hrow
  messagesOwned := by simp [grainHouse]
  intentsOwned := by simp [grainHouse]
  unpooled := by simp [grainHouse]

/-- The round gets to the seller's answer, and this is what the answer leads to. -/
theorem grain_answer {r : AgentTaskResultV1} {e : String}
    (h : grainAsked.bind (answerError r) = some e) :
    ∃ t task, Trans.Run (FcfsRound.step (fun _ _ => "") grainHashes "round-1") (fun _ _ => True)
        ⟨grainHouse, []⟩ t ∧ t.asked.get grainNegotiation = some task ∧
      t.house.applyHostedNegotiationAction (fun _ _ => "") {} grainNegotiation r.resultId
        (derivedAction task r) 40 = .error e := by
  obtain ⟨t, ht, h⟩ := Option.bind_eq_some_iff.mp h
  obtain ⟨task, htask, h⟩ := Option.bind_eq_some_iff.mp h
  refine ⟨t, task, Trans.run_of_exec _ ht, htask, ?_⟩
  split at h
  · cases h
  · rename_i found hfound
    obtain rfl := Option.some.inj h
    exact hfound

theorem unaffordable_acceptance_raises :
    ¬ ∀ (intentHash : String → Nat → String) (H : Hashes) (roundId : String) (s : Pawnhouse)
      (t : FcfsRound), RoundStart roundId s →
      Trans.Run (FcfsRound.step intentHash H roundId) (fun _ _ => True) ⟨s, []⟩ t →
      ∀ nid task, t.asked.get nid = some task → ∀ core (r : AgentTaskResultV1) now,
        ∃ s', t.house.applyHostedNegotiationAction intentHash core nid r.resultId
          (derivedAction task r) now = .ok s' := by
  intro hclaim
  have hraises : grainAsked.bind (answerError (resultOf "result-4" .accept))
      = some "buyer_has_insufficient_cash_for_settlement" := by decide
  obtain ⟨t, task, hr, htask, herror⟩ := grain_answer hraises
  obtain ⟨s', hok⟩ := hclaim _ _ _ _ t grainHouse_start hr _ _ htask {} (resultOf "result-4" .accept) 40
  rw [herror] at hok
  cases hok

/-- The seller's acceptance at ten gold is no turn that can be applied. -/
theorem unaffordable_acceptance_not_ok :
    ∃ (t : FcfsRound) (task : ArenaAgentTaskV1), t.asked.get grainNegotiation = some task ∧
      ¬ (t.house.spoken "result-4" ∨
        t.house.TurnOk grainNegotiation (derivedAction task (resultOf "result-4" .accept))) := by
  have hraises : grainAsked.bind (answerError (resultOf "result-4" .accept))
      = some "buyer_has_insufficient_cash_for_settlement" := by decide
  obtain ⟨t, task, hr, htask, herror⟩ := grain_answer hraises
  refine ⟨t, task, htask, ?_⟩
  intro hok
  obtain ⟨s', hs'⟩ := (fcfs_answer_returns_iff grainHouse_start hr htask {}
    (resultOf "result-4" .accept) 40).mpr hok
  rw [herror] at hs'
  cases hs'

end FcfsRound

end Arena402.Game
