/-
When the turns of a negotiation can be applied.

A running negotiation is `Dealing` when its messages are its turns, its pairing and the
balances it needs are there, the seller still holds the goods and nothing was frozen for it.
The task of a turn is `Waiting` when its view was built from this very turn.

From there a turn can fail in two places only.  A proposal may exceed the Arena bound, which
no check of the candidate looks at, and an accepted price may exceed the buyer's cash, which
is not looked at before the settlement is frozen (`turn_returns_iff`).
-/
import Arena402.Game.FcfsRound
import Arena402.Proofs.Game.Amounts
import Arena402.Proofs.Game.Turns

namespace Arena402.Game

open Py Py.Decimal

namespace Pawnhouse

variable {intentHash : String → Nat → String} {s s' : Pawnhouse} {core : ArenaCore}
variable {nid resultId : String} {now : UtcDateTime}

/-! ### Negotiations that can be settled -/

/-- What the configuration promises when settlement is on. -/
structure Settleable (s : Pawnhouse) : Prop where
  confirmations : ∀ chainId token k, s.game.authorizationMode = .singleEip3009 chainId token k →
    1 ≤ k ∧ k ≤ 100
  accounts : ∀ chainId token k, s.game.authorizationMode = .singleEip3009 chainId token k →
    ∀ id, (s.participants.get id).isSome → ∃ a, s.accounts.get id = some a ∧ a.chainId = chainId

/-- A running negotiation with all that its end needs, up to the buyer's cash. -/
structure Dealing (s : Pawnhouse) (nid : String) (row : NegotiationRow) (n : Negotiation)
    (p : PairingRow) : Prop extends s.Live nid row n where
  pairing : s.pairings.get row.pairingId = some p
  quantityPos : 0 < p.quantity
  buyerHere : (s.participants.get row.buyerParticipantId).isSome
  sellerHere : (s.participants.get row.sellerParticipantId).isSome
  balance : (s.balances.get row.buyerParticipantId).isSome
  stock : ∃ held, s.holdings.get (row.sellerParticipantId, p.goodId) = some held ∧
    (p.quantity : Int) ≤ held
  limitShort : ∀ limit, p.buyerLimitPriceAtomic = some limit → Short limit
  unsettled : ∀ e ∈ s.intents, e.2.intent.negotiationId ≠ nid

/-- Whether an accepted price can be settled: the buyer has the cash, and the two accounts
    are not the same. -/
def Covered (s : Pawnhouse) (row : NegotiationRow) (quantity price : Nat) : Prop :=
  s.game.authorizationMode = .none ∨
    ((∀ cash, s.balances.get row.buyerParticipantId = some cash → (price * quantity : Int) ≤ cash) ∧
      ∀ buyer seller, s.accounts.get row.buyerParticipantId = some buyer →
        s.accounts.get row.sellerParticipantId = some seller →
        buyer.accountAddress ≠ seller.accountAddress)

theorem Settleable.kept (h : Settleable s) (hk : Kept nid s s') : Settleable s' where
  confirmations := by
    rw [hk.game]
    exact h.confirmations
  accounts := by
    rw [hk.game, hk.accounts]
    intro chainId token k hmode id hid
    rw [hk.participants id] at hid
    exact h.accounts chainId token k hmode id hid

/-- Tables with the same rows around a negotiation. -/
theorem Dealing.congr {row : NegotiationRow} {n : Negotiation} {p : PairingRow}
    (h : s.Dealing nid row n p) (hrow : s'.negotiations.get nid = s.negotiations.get nid)
    (hstored : s'.storedOf nid = s.storedOf nid)
    (hpairing : s'.pairings.get row.pairingId = s.pairings.get row.pairingId)
    (hparticipants : s'.participants = s.participants) (hbalances : s'.balances = s.balances)
    (hholdings : s'.holdings = s.holdings)
    (hintents : ∀ e ∈ s'.intents, e.2.intent.negotiationId ≠ nid) : s'.Dealing nid row n p :=
  { h.toLive.congr hrow hstored with
    pairing := hpairing.trans h.pairing
    quantityPos := h.quantityPos
    buyerHere := by rw [hparticipants]; exact h.buyerHere
    sellerHere := by rw [hparticipants]; exact h.sellerHere
    balance := by rw [hbalances]; exact h.balance
    stock := by rw [hholdings]; exact h.stock
    limitShort := h.limitShort
    unsettled := hintents }

/-- A call for another negotiation changes the status of a pairing at most. -/
theorem Dealing.kept {other : String} {row : NegotiationRow} {n : Negotiation} {p : PairingRow}
    (h : s.Dealing other row n p) (hk : Kept nid s s') (hne : other ≠ nid) :
    ∃ status, s'.Dealing other row n { p with status := status } := by
  obtain ⟨status, hp⟩ := hk.pairings _ _ h.pairing
  refine ⟨status, { h.toLive.congr (hk.rows other hne) (hk.stored other hne) with
    pairing := hp
    quantityPos := h.quantityPos
    buyerHere := by rw [hk.participants]; exact h.buyerHere
    sellerHere := by rw [hk.participants]; exact h.sellerHere
    balance := by rw [hk.balances]; exact h.balance
    stock := by rw [hk.holdings]; exact h.stock
    limitShort := h.limitShort
    unsettled := ?_ }⟩
  intro e he
  rcases hk.intents e he with he | he
  · exact h.unsettled e he
  · rw [he]
    exact hne.symm

/-! ### Freezing an accepted price -/

theorem find_intent_none {s : Pawnhouse} (h : ∀ e ∈ s.intents, e.2.intent.negotiationId ≠ nid) :
    (s.intents.find? fun e => e.2.intent.negotiationId = nid) = none := by
  rw [List.find?_eq_none]
  intro e he
  simpa using h e he

/-- The intent of an accepted price is refused only for its accounts. -/
theorem settlementIntent_returns_iff {n : NegotiationRow} {p : PairingRow} {price chainId : Nat}
    {tokenAddress : String} {k : Nat} {buyer seller : SettlementAccount}
    (hquantity : 0 < p.quantity) (hprice : 0 < price)
    (hparties : n.buyerParticipantId ≠ n.sellerParticipantId) (hk : 1 ≤ k ∧ k ≤ 100) :
    (∃ intent, s.settlementIntent intentHash nid n p price chainId tokenAddress k buyer seller
      = .ok intent) ↔ buyer.accountAddress ≠ seller.accountAddress := by
  unfold settlementIntent
  constructor
  · rintro ⟨intent, h⟩
    split at h
    · rename_i hall
      exact hall.2.2.2.1
    · cases h
  · intro hne
    rw [dif_pos ⟨hquantity, hprice, hparties, hne, hk⟩]
    exact ⟨_, rfl⟩

/-- The freeze of a price that was accepted in a deal with all but the cash in place. -/
theorem freeze_returns_iff {n : NegotiationRow} {p : PairingRow} {price : Nat}
    (hset : Settleable s) (hrow : s.negotiations.get nid = some n)
    (hpairing : s.pairings.get n.pairingId = some p) (hquantity : 0 < p.quantity)
    (hparties : n.buyerParticipantId ≠ n.sellerParticipantId)
    (hbuyer : (s.participants.get n.buyerParticipantId).isSome)
    (hseller : (s.participants.get n.sellerParticipantId).isSome)
    (hbalance : (s.balances.get n.buyerParticipantId).isSome)
    (hstock : ∃ held, s.holdings.get (n.sellerParticipantId, p.goodId) = some held ∧
      (p.quantity : Int) ≤ held)
    (hunsettled : ∀ e ∈ s.intents, e.2.intent.negotiationId ≠ nid)
    (haccepted : n.acceptedPriceAtomic = some price) (hprice : 0 < price) :
    (∃ s', s.freezeSettlementIntent intentHash nid = .ok s') ↔ s.Covered n p.quantity price := by
  obtain ⟨b, hb⟩ := Option.isSome_iff_exists.mp hbuyer
  obtain ⟨c, hc⟩ := Option.isSome_iff_exists.mp hseller
  obtain ⟨cash, hcash⟩ := Option.isSome_iff_exists.mp hbalance
  obtain ⟨held, hheld, hle⟩ := hstock
  unfold freezeSettlementIntent
  simp only [hrow, hpairing, hb, hc, hcash, hheld]
  cases hmode : s.game.authorizationMode with
  | none =>
      refine iff_of_true ⟨_, rfl⟩ (Or.inl hmode)
  | singleEip3009 chainId token k =>
      obtain ⟨buyer, hba, hbc⟩ := hset.accounts _ _ _ hmode _ hbuyer
      obtain ⟨seller, hsa, hsc⟩ := hset.accounts _ _ _ hmode _ hseller
      have hcovered : s.Covered n p.quantity price ↔
          (price * p.quantity : Int) ≤ cash ∧ buyer.accountAddress ≠ seller.accountAddress := by
        unfold Covered
        rw [hmode, hcash, hba, hsa]
        simp
      rw [hcovered]
      simp only [haccepted, hba, hsa]
      rw [if_neg (by simp [hbc, hsc])]
      by_cases henough : (price * p.quantity : Int) ≤ cash
      · rw [if_neg (not_lt.mpr henough), if_neg (not_lt.mpr hle), find_intent_none hunsettled]
        have hiff : (∃ intent, s.settlementIntent intentHash nid n p price chainId token k buyer seller
            = .ok intent) ↔ buyer.accountAddress ≠ seller.accountAddress :=
          settlementIntent_returns_iff hquantity hprice hparties (hset.confirmations _ _ _ hmode)
        rw [← hiff]
        constructor
        · rintro ⟨s', h⟩
          obtain ⟨intent, hintent, -⟩ := ok_of_bind h
          exact ⟨henough, intent, hintent⟩
        · rintro ⟨-, intent, hintent⟩
          rw [hintent]
          exact ⟨_, rfl⟩
      · rw [if_pos (not_le.mp henough)]
        refine iff_of_false ?_ (fun h => henough h.1)
        rintro ⟨s', h⟩
        cases h

/-! ### What the market has to take note of -/

theorem sync_of_no_engagements (h : s.engagements = []) (core : ArenaCore) (nid resultId : String)
    (authored : Bool) (now : UtcDateTime) :
    s.syncAgentMarketNegotiation core nid resultId authored now = .ok s := by
  unfold syncAgentMarketNegotiation
  rw [h]
  rfl

/-- The market takes note of a timeout. -/
theorem sync_timeout {n : NegotiationRow} {authored : Bool} (hrow : s.negotiations.get nid = some n)
    (hstatus : n.status = .timeout) :
    ∃ synced, s.syncAgentMarketNegotiation core nid resultId authored now = .ok synced := by
  unfold syncAgentMarketNegotiation
  split
  · exact ⟨s, rfl⟩
  · rw [hrow]
    split
    · rename_i n' r hn' _
      cases hn'
      rw [hstatus]
      exact ⟨_, rfl⟩
    · exact ⟨s, rfl⟩

/-- The market takes note of whatever ends the negotiation with this turn. -/
def Syncs (s : Pawnhouse) (core : ArenaCore) (nid resultId : String) (row : NegotiationRow)
    (n : Negotiation) (now : UtcDateTime) : Prop :=
  ∀ a n', a.postInit = none → n.apply n.nextRole a = .ok n' → n'.status ≠ .negotiating →
    ∃ synced, ((s.say (turnMessage nid resultId n.nextRole n' a)).setEnded nid row n'
      now).syncAgentMarketNegotiation core nid resultId true now = .ok synced

theorem syncs_of_no_engagements (h : s.engagements = []) (core : ArenaCore) (nid resultId : String)
    (row : NegotiationRow) (n : Negotiation) (now : UtcDateTime) :
    s.Syncs core nid resultId row n now := by
  intro a n' _ _ _
  have hnone : ((s.say (turnMessage nid resultId n.nextRole n' a)).setEnded nid row n'
      now).engagements = [] := h
  exact ⟨_, sync_of_no_engagements hnone core nid resultId true now⟩

/-- A turn that leaves the negotiation running, or ends it without a deal, is stored. -/
theorem finish_returns {row : NegotiationRow} {n : Negotiation} {authored : Bool}
    (hsync : n.status ≠ .negotiating → ∃ synced,
      (s.setEnded nid row n now).syncAgentMarketNegotiation core nid resultId authored now
        = .ok synced)
    (hstatus : n.status ≠ .acceptedPendingSettlement) :
    ∃ s', s.finishTurn intentHash core nid resultId row n authored now = .ok s' := by
  rw [finishTurn_eq]
  by_cases hrunning : n.status = .negotiating
  · rw [if_pos hrunning]
    exact ⟨_, rfl⟩
  · obtain ⟨synced, hsynced⟩ := hsync hrunning
    rw [if_neg hrunning, hsynced]
    exact ⟨_, if_neg hstatus⟩

/-- An accepted turn is stored exactly when its price is covered. -/
theorem finish_accepted_returns_iff {row : NegotiationRow} {n n' : Negotiation} {p : PairingRow}
    {price : Nat} {authored : Bool} (hset : Settleable s) (h : s.Dealing nid row n p)
    {m : NegotiationMessage}
    (hsync : ∃ synced, ((s.say m).setEnded nid row n' now).syncAgentMarketNegotiation core nid
      resultId authored now = .ok synced)
    (hstatus : n'.status = .acceptedPendingSettlement)
    (haccepted : n'.acceptedPriceAtomic = some price) (hprice : 0 < price) :
    (∃ s', (s.say m).finishTurn intentHash core nid resultId row n' authored now = .ok s') ↔
      s.Covered row p.quantity price := by
  have hended : n'.status ≠ .negotiating := by
    rw [hstatus]
    simp
  obtain ⟨synced, hsynced⟩ := hsync
  have hfinish : (s.say m).finishTurn intentHash core nid resultId row n' authored now
      = synced.freezeSettlementIntent intentHash nid := by
    rw [finishTurn_eq, if_neg hended, hsynced]
    exact if_pos hstatus
  rw [hfinish]
  have hpairing : ((s.say m).setEnded nid row n' now).pairings.get row.pairingId
      = some { p with status := n'.status } := setEnded_pairing h.pairing
  have heq : synced = ((s.say m).setEnded nid row n' now).withMarketOf synced :=
    sync_onMarket hsynced
  rw [heq]
  exact freeze_returns_iff (n := (s.say m).turnRow row n' now)
    (p := { p with status := n'.status })
    ⟨hset.confirmations, hset.accounts⟩ (Dict.get_set_self _ _ _) hpairing h.quantityPos
    h.partiesDiffer h.buyerHere h.sellerHere h.balance h.stock h.unsettled haccepted hprice

/-- What the row of a negotiation keeps for good. -/
structure SameParties (row row' : NegotiationRow) : Prop where
  pairingId : row'.pairingId = row.pairingId
  roundId : row'.roundId = row.roundId
  buyer : row'.buyerParticipantId = row.buyerParticipantId
  seller : row'.sellerParticipantId = row.sellerParticipantId
  maxTurns : row'.maxTurns = row.maxTurns

/-- The row at the end of a turn. -/
theorem finish_row {row : NegotiationRow} {n : Negotiation} {authored : Bool}
    (h : s.finishTurn intentHash core nid resultId row n authored now = .ok s') :
    ∃ row', s'.negotiations.get nid = some row' ∧ SameParties row row' ∧
      row'.turnCount = n.turns.length ∧
      (row'.status = .negotiating ↔ n.status = .negotiating) := by
  have hturn : SameParties row (s.turnRow row n now) := ⟨rfl, rfl, rfl, rfl, rfl⟩
  rcases finish_cases h with ⟨-, rfl⟩ | ⟨hended, synced, hsync, hend⟩
  · exact ⟨_, Dict.get_set_self _ _ _, hturn, rfl, Iff.rfl⟩
  have hsynced : synced.negotiations.get nid = some (s.turnRow row n now) := by
    have heq : synced = _ := sync_onMarket hsync
    rw [heq]
    exact Dict.get_set_self _ _ _
  rcases hend with ⟨-, hfreeze⟩ | ⟨-, rfl⟩
  · obtain ⟨n', p, cash, held, -, -, -, -, ⟨-, rfl⟩ | hfrozen⟩ := freeze_cases hfreeze
    · rw [failUnsettled_negotiations, Dict.get_update, hsynced]
      refine ⟨_, rfl, ?_⟩
      dsimp only
      split
      · exact ⟨⟨rfl, rfl, rfl, rfl, rfl⟩, rfl, by simp [hended]⟩
      · exact ⟨hturn, rfl, Iff.rfl⟩
    · obtain ⟨_, _, _, _, _, _, intent, -, -, -, -, -, -, -, ⟨-, rfl⟩ | ⟨-, rfl⟩⟩ :=
        hfrozen.covered
      · exact ⟨_, hsynced, hturn, rfl, Iff.rfl⟩
      · exact ⟨_, hsynced, hturn, rfl, Iff.rfl⟩
  · exact ⟨_, hsynced, hturn, rfl, Iff.rfl⟩

/-! ### The turn that is waited for -/

/-- A view that was built from the turn that a negotiation is at. -/
structure Shows (n : Negotiation) (p : PairingRow) (v : ArenaNegotiateInputV1) : Prop where
  role : v.role = n.nextRole
  sequence : v.turnSequence = n.turns.length + 1
  remaining : v.remainingTurns = n.maxTurns - n.turns.length
  limit : goldPrice? (ownLimit p n.nextRole) = .ok v.limitPrice
  quote : ∀ q, v.latestCounterpartyQuote = some q →
    ∃ t price, n.turns.getLast? = some t ∧ t.action.priceAtomic = some price ∧
      goldPrice price = .ok q.price

/-- A task whose view was built from the turn that a negotiation is at. -/
structure Waiting (row : NegotiationRow) (n : Negotiation) (p : PairingRow)
    (task : ArenaAgentTaskV1) (v : ArenaNegotiateInputV1) : Prop extends Shows n p v where
  kind : task.kind = .negotiate
  input : task.input = .negotiate v

theorem quoteView_some {quote : Option NegotiationMessage} {q : ArenaCounterpartyQuoteV1}
    (h : quoteView quote = .ok (some q)) :
    ∃ m price, quote = some m ∧ m.priceAtomic = some price ∧ goldPrice price = .ok q.price := by
  cases quote with
  | none => cases h
  | some m =>
      obtain ⟨price, hprice, h⟩ := ok_of_bind h
      obtain ⟨d, hd, h⟩ := ok_of_bind h
      cases h
      refine ⟨m, price, rfl, ?_, hd⟩
      cases hm : m.priceAtomic with
      | none =>
          rw [hm] at hprice
          cases hprice
      | some found =>
          rw [hm] at hprice
          cases hprice
          rfl

/-- A task that is created now waits for the turn the negotiation is at. -/
theorem waiting_of_context {row : NegotiationRow} {n : Negotiation} {p : PairingRow} {H : Hashes}
    {taskId : String} {role : Role} {c : NegotiationContext} {view : TaskInput}
    (h : s.Dealing nid row n p) (hc : ContextOf s nid row role p c)
    (hview : negotiateView c = .ok view) :
    ∃ v, Waiting row n p (ArenaCore.taskOf H taskId c.participantId view) v := by
  obtain ⟨v, rfl, hrole, hsequence, hremaining, hlimit, hquote⟩ := negotiateView_cases hview
  have hnext : role = n.nextRole := Option.some.inj (hc.nextRole.symm.trans h.nextRole)
  subst hnext
  refine ⟨v, ⟨hrole.trans hc.roleIs, ?_, ?_, ?_, ?_⟩, rfl, rfl⟩
  · rw [hsequence, hc.sequence, h.turnCount]
  · rw [hremaining, hc.remaining, h.turnCount, h.maxTurns_eq]
  · rw [← hc.limit]
    exact hlimit
  · intro q hq
    rw [hq, hc.quote] at hquote
    obtain ⟨m, price, hm, hprice, hgold⟩ := quoteView_some hquote
    by_cases hempty : n.turns = []
    · -- no message is stored yet, so there is no quote
      have hstored : s.storedOf nid = [] := by
        have hturns := h.turns_eq
        rw [hempty] at hturns
        exact List.map_eq_nil_iff.mp hturns.symm
      rw [h.messagesOf_eq, hstored] at hm
      cases hm
    · obtain ⟨t, ht⟩ : ∃ t, n.turns.getLast? = some t :=
        ⟨_, List.getLast?_eq_some_getLast hempty⟩
      obtain ⟨m', hm', hsame⟩ := h.latestQuote_eq ht
      obtain rfl : m' = m := Option.some.inj (hm'.symm.trans hm)
      exact ⟨t, price, ht, hsame.symm.trans hprice, hgold⟩

/-- What a result of a turn is applied with: nothing, or one of the three moves without a
    violation. -/
theorem derived_cases {row : NegotiationRow} {n : Negotiation} {p : PairingRow}
    {task : ArenaAgentTaskV1} {v : ArenaNegotiateInputV1} (hw : Waiting row n p task v)
    (r : AgentTaskResultV1) :
    FcfsRound.derivedAction task r = none ∨
      ∃ a, FcfsRound.derivedAction task r = some a ∧ negotiationViolation v a = none ∧
        ((∃ price message, a = .propose price message) ∨ a = .accept ∨
          ∃ message, a = .reject message) := by
  by_cases hc : (deriveApplication task r).outcome = .candidate
  · obtain ⟨a, -, ha, hv⟩ := deriveApplication_candidate hc
    rw [hw.kind, hw.input] at hv
    refine Or.inr ⟨a, ha, ?_⟩
    cases a with
    | propose price message => exact ⟨Option.some.inj hv, Or.inl ⟨price, message, rfl⟩⟩
    | accept => exact ⟨Option.some.inj hv, Or.inr (Or.inl rfl)⟩
    | reject message => exact ⟨Option.some.inj hv, Or.inr (Or.inr ⟨message, rfl⟩)⟩
    | buy o => cases hv
    | sell o => cases hv
    | pass => cases hv
    | requestNegotiations l => cases hv
    | engage requestId => cases hv
    | rejectAll reason => cases hv
  · refine Or.inl ?_
    have hdefault : ∀ reason, (defaultApplication task reason).action = none := by
      intro reason
      unfold defaultApplication
      rw [hw.kind]
    unfold FcfsRound.derivedAction
    unfold deriveApplication at hc ⊢
    split
    · exact hdefault _
    · rename_i hs
      rw [if_neg hs] at hc
      split
      · exact hdefault _
      · rename_i a ha
        rw [ha] at hc
        dsimp only at hc
        split
        · exact hdefault _
        · exact hdefault _
        · rename_i hv
          rw [hv] at hc
          exact absurd rfl hc

/-! ### When a turn can be applied -/

/-- The price on the table. -/
def lastPrice (s : Pawnhouse) (nid : String) : Option Nat :=
  ((s.messagesOf nid).getLast?).bind (·.priceAtomic)

/-- What a turn needs beyond the checks of its candidate: a proposal within the Arena bound,
    and an acceptance that the buyer can pay. -/
def TurnOk (s : Pawnhouse) (nid : String) : Option Action → Prop
  | some (.propose price _) => (atomicProduct price.value).toNat ≤ maxGoldAtomic
  | some .accept => ∀ row p price, s.negotiations.get nid = some row →
      s.pairings.get row.pairingId = some p → s.lastPrice nid = some price →
      s.Covered row p.quantity price
  | _ => True

section Turn

variable {row : NegotiationRow} {n : Negotiation} {p : PairingRow} {task : ArenaAgentTaskV1}
variable {v : ArenaNegotiateInputV1}

/-- The limit of a view is the author's own limit. -/
theorem Shows.limit_val (hw : Shows n p v) {limit : Nat}
    (hlimit : ownLimit p n.nextRole = some limit) :
    ∃ d, v.limitPrice = some d ∧ d.value.val = (limit : ℚ) / 10 ^ 6 := by
  have hgold := hw.limit
  rw [hlimit] at hgold
  have hmap : (goldPrice limit).map some = .ok v.limitPrice := hgold
  cases hprice : goldPrice limit with
  | error e =>
      rw [hprice] at hmap
      cases hmap
  | ok d =>
      rw [hprice] at hmap
      exact ⟨d, (Except.ok.inj hmap).symm, goldPrice_val hprice⟩

/-- What a proposal without a violation says. -/
theorem proposal_checked {price : PositiveFixedDecimal} {message : PublicMessage}
    (hv : negotiationViolation v (.propose price message) = none) :
    1 < v.remainingTurns ∧ hasArenaMoneyPrecision price.value = true ∧
      ∀ d, v.limitPrice = some d → crossesLimit v.role price.value d.value = false := by
  unfold negotiationViolation at hv
  dsimp only at hv
  split at hv
  · cases hv
  rename_i hremaining
  split at hv
  · cases hv
  rename_i hprecision
  refine ⟨not_le.mp hremaining, by simpa using hprecision, ?_⟩
  intro d hd
  rw [hd] at hv
  by_contra hcross
  simp [hcross] at hv

/-- What an acceptance without a violation says. -/
theorem acceptance_checked (hv : negotiationViolation v .accept = none) :
    v.turnSequence ≠ 1 ∧ ∃ q, v.latestCounterpartyQuote = some q ∧
      ∀ d, v.limitPrice = some d → crossesLimit v.role q.price.value d.value = false := by
  unfold negotiationViolation at hv
  dsimp only at hv
  split at hv
  · cases hv
  rename_i hsequence
  refine ⟨hsequence, ?_⟩
  cases hq : v.latestCounterpartyQuote with
  | none =>
      rw [hq] at hv
      cases hv
  | some q =>
      rw [hq] at hv
      refine ⟨q, rfl, ?_⟩
      intro d hd
      rw [hd] at hv
      by_contra hcross
      simp [hcross] at hv

theorem rejection_checked {message : Option PublicMessage}
    (hv : negotiationViolation v (.reject message) = none) : v.turnSequence ≠ 1 := by
  unfold negotiationViolation at hv
  dsimp only at hv
  split at hv
  · cases hv
  · assumption

/-- A proposal is within a short limit that it was checked against. -/
theorem proposal_within_limit (hw : Shows n p v) {price : PositiveFixedDecimal}
    (hshort : ∀ limit, ownLimit p n.nextRole = some limit → Short limit)
    (hprecision : hasArenaMoneyPrecision price.value = true)
    (hcross : ∀ d, v.limitPrice = some d → crossesLimit v.role price.value d.value = false) :
    outsideLimit n.nextRole (ownLimit p n.nextRole) (some (atomicProduct price.value).toNat)
      = false := by
  cases hlimit : ownLimit p n.nextRole with
  | none => rfl
  | some limit =>
      obtain ⟨d, hd, hval⟩ := hw.limit_val hlimit
      have hlt := hcross d hd
      rw [hw.role] at hlt
      cases hrole : n.nextRole with
      | buyer =>
          rw [hrole] at hlt
          have hle : price.value.val ≤ (limit : ℚ) / 10 ^ 6 := by
            rw [← hval]
            by_contra hgt
            have hlt' : d.value.lt price.value = true := (lt_iff _ _).mpr (not_le.mp hgt)
            rw [show crossesLimit .buyer price.value d.value = d.value.lt price.value from rfl, hlt']
              at hlt
            cases hlt
          show decide (limit < (atomicProduct price.value).toNat) = false
          simp only [decide_eq_false_iff_not, not_lt]
          exact atomic_le_limit hprecision (hshort limit hlimit) hle
      | seller =>
          rw [hrole] at hlt
          have hle : (limit : ℚ) / 10 ^ 6 ≤ price.value.val := by
            rw [← hval]
            by_contra hgt
            have hlt' : price.value.lt d.value = true := (lt_iff _ _).mpr (not_le.mp hgt)
            rw [show crossesLimit .seller price.value d.value = price.value.lt d.value from rfl, hlt']
              at hlt
            cases hlt
          show decide ((atomicProduct price.value).toNat < limit) = false
          simp only [decide_eq_false_iff_not, not_lt]
          exact limit_le_atomic hprecision (hshort limit hlimit) hle

/-- The buyer's opening is within the limit it was checked against. -/
theorem opening_within_limit (h : s.Dealing nid row n p) (hw : Waiting row n p task v)
    {price : PositiveFixedDecimal} (hempty : n.turns = [])
    (hprecision : hasArenaMoneyPrecision price.value = true)
    (hcross : ∀ d, v.limitPrice = some d → crossesLimit v.role price.value d.value = false) :
    outsideLimit n.nextRole (ownLimit p n.nextRole) (some (atomicProduct price.value).toNat)
      = false := by
  have hbuyer : n.nextRole = .buyer := by
    rw [Negotiation.nextRole_eq, hempty]
    rfl
  refine proposal_within_limit hw.toShows ?_ hprecision hcross
  intro limit hlimit
  rw [hbuyer] at hlimit
  exact h.limitShort limit hlimit

/-- An accepted quote is within the limit it was checked against. -/
theorem quote_within_limit (hw : Shows n p v) {q : ArenaCounterpartyQuoteV1}
    (hq : v.latestCounterpartyQuote = some q) {t : NegotiationTurn}
    (ht : n.turns.getLast? = some t)
    (hcross : ∀ d, v.limitPrice = some d → crossesLimit v.role q.price.value d.value = false) :
    outsideLimit n.nextRole (ownLimit p n.nextRole) t.action.priceAtomic = false := by
  obtain ⟨t', price, ht', hprice, hgold⟩ := hw.quote q hq
  obtain rfl : t' = t := Option.some.inj (ht'.symm.trans ht)
  rw [hprice]
  cases hlimit : ownLimit p n.nextRole with
  | none => rfl
  | some limit =>
      obtain ⟨d, hd, hval⟩ := hw.limit_val hlimit
      have hlt := hcross d hd
      have hqval : q.price.value.val = (price : ℚ) / 10 ^ 6 := goldPrice_val hgold
      rw [hw.role] at hlt
      have hscale : (0 : ℚ) < 10 ^ 6 := by norm_num
      cases hrole : n.nextRole with
      | buyer =>
          rw [hrole] at hlt
          have hnot : ¬ d.value.val < q.price.value.val := by
            intro hc
            rw [show crossesLimit .buyer q.price.value d.value = d.value.lt q.price.value from rfl,
              (lt_iff _ _).mpr hc] at hlt
            cases hlt
          rw [hval, hqval, div_lt_div_iff_of_pos_right hscale] at hnot
          show decide (limit < price) = false
          simp only [decide_eq_false_iff_not]
          exact_mod_cast hnot
      | seller =>
          rw [hrole] at hlt
          have hnot : ¬ q.price.value.val < d.value.val := by
            intro hc
            rw [show crossesLimit .seller q.price.value d.value = q.price.value.lt d.value from rfl,
              (lt_iff _ _).mpr hc] at hlt
            cases hlt
          rw [hval, hqval, div_lt_div_iff_of_pos_right hscale] at hnot
          show decide (price < limit) = false
          simp only [decide_eq_false_iff_not]
          exact_mod_cast hnot

/-- A turn that the machine takes without an acceptance is stored. -/
theorem returns_of_apply (h : s.Dealing nid row n p) (hunspoken : ¬ s.spoken resultId)
    (hsyncs : s.Syncs core nid resultId row n now) {given : Action} {a : NegotiationAction}
    {n' : Negotiation}
    (ha : negotiationActionOf given = .ok a)
    (happly : n.apply n.nextRole (boundedAction p n.nextRole n a) = .ok n')
    (hstatus : n'.status ≠ .acceptedPendingSettlement) :
    ∃ s', s.applyHostedNegotiationAction intentHash core nid resultId (some given) now = .ok s' := by
  rw [h.turn_some hunspoken h.pairing, ha]
  show ∃ s', (do
    let n' ← n.apply n.nextRole (boundedAction p n.nextRole n a)
    (s.say (turnMessage nid resultId n.nextRole n' (boundedAction p n.nextRole n a))).finishTurn
      intentHash core nid resultId row n' true now) = .ok s'
  rw [happly]
  have hpost : (boundedAction p n.nextRole n a).postInit = none :=
    postInit_boundedAction (postInit_negotiationActionOf ha)
  exact finish_returns (fun hended => hsyncs _ _ hpost happly hended) hstatus

/-- A proposal that converts returns, as it is or as the rejection that stands in for it. -/
theorem quoted_returns (h : s.Dealing nid row n p) (hunspoken : ¬ s.spoken resultId)
    (hsyncs : s.Syncs core nid resultId row n now) {given : Action} {atomic : Nat}
    {message : PublicMessage}
    (haction : negotiationActionOf given = .ok ⟨.propose, some atomic, some message⟩)
    (hpos : 0 < atomic) (hturns : n.turns.length + 1 < n.maxTurns)
    (hopening : n.turns = [] →
      outsideLimit n.nextRole (ownLimit p n.nextRole) (some atomic) = false) :
    ∃ s', s.applyHostedNegotiationAction intentHash core nid resultId (some given) now = .ok s' := by
  have hprice : quotePrice n ⟨.propose, some atomic, some message⟩ = some atomic := rfl
  cases hout : outsideLimit n.nextRole (ownLimit p n.nextRole) (some atomic) with
  | false =>
      have hbounded : boundedAction p n.nextRole n ⟨.propose, some atomic, some message⟩
          = ⟨.propose, some atomic, some message⟩ := by
        unfold boundedAction
        rw [hprice, hout]
        rfl
      have hquote : IsQuote ⟨.propose, some atomic, some message⟩ atomic := ⟨rfl, rfl, hpos⟩
      obtain ⟨happly, hb⟩ := h.bargaining.apply_propose hquote hturns
      refine returns_of_apply h hunspoken hsyncs haction (by rw [hbounded]; exact happly) ?_
      rw [hb.running]
      simp
  | true =>
      have hne : n.turns ≠ [] := by
        intro hempty
        rw [hopening hempty] at hout
        cases hout
      have hbounded : boundedAction p n.nextRole n ⟨.propose, some atomic, some message⟩
          = ⟨.reject, none, some outsideLimitMessage⟩ := by
        unfold boundedAction
        rw [hprice, hout]
        rfl
      have happly : n.apply n.nextRole ⟨.reject, none, some outsideLimitMessage⟩ = _ :=
        h.bargaining.apply_reject rfl hne
      refine returns_of_apply h hunspoken hsyncs haction (by rw [hbounded]; exact happly) ?_
      simp [Negotiation.push]

/-- The action of a proposal that converts. -/
theorem negotiationActionOf_propose {price : PositiveFixedDecimal} {message : PublicMessage}
    {atomic : Nat} (hgold : goldOf price = .ok atomic) (hpos : 0 < atomic) :
    negotiationActionOf (.propose price message) = .ok ⟨.propose, some atomic, some message⟩ := by
  have hpost : (⟨.propose, some atomic, some message⟩ : NegotiationAction).postInit = none := by
    unfold NegotiationAction.postInit
    simp only [Option.all_some, decide_eq_true_eq]
    rw [if_neg hpos.ne', if_neg (by simp)]
  show (do
    let found ← goldOf price
    NegotiationAction.make .propose (some found) (some message)) = _
  rw [hgold]
  exact make_of_postInit hpost

/-- A proposal returns exactly when it is within the Arena bound. -/
theorem propose_returns_iff (h : s.Dealing nid row n p) (hw : Waiting row n p task v)
    (hunspoken : ¬ s.spoken resultId) (hsyncs : s.Syncs core nid resultId row n now)
    {price : PositiveFixedDecimal} {message : PublicMessage}
    (hv : negotiationViolation v (.propose price message) = none) :
    (∃ s', s.applyHostedNegotiationAction intentHash core nid resultId
      (some (.propose price message)) now = .ok s') ↔
      (atomicProduct price.value).toNat ≤ maxGoldAtomic := by
  obtain ⟨hremaining, hprecision, hcross⟩ := proposal_checked hv
  have hgold := goldOf_of_precision hprecision
  constructor
  · rintro ⟨s', hok⟩
    by_contra hbound
    rw [h.turn_some hunspoken h.pairing] at hok
    obtain ⟨a, ha, -⟩ := ok_of_bind hok
    obtain ⟨atomic, hatomic, -⟩ := ok_of_bind ha
    rw [hgold, if_pos (not_le.mp hbound)] at hatomic
    cases hatomic
  · intro hbound
    rw [if_neg (not_lt.mpr hbound)] at hgold
    have hpos := atomicProduct_pos hprecision
    refine quoted_returns h hunspoken hsyncs (negotiationActionOf_propose hgold hpos) hpos ?_
      (fun hempty => opening_within_limit h hw hempty hprecision hcross)
    have hleft := h.bargaining.turnLeft
    rw [hw.remaining] at hremaining
    omega

/-- A rejection returns. -/
theorem reject_returns (h : s.Dealing nid row n p) (hw : Waiting row n p task v)
    (hunspoken : ¬ s.spoken resultId) (hsyncs : s.Syncs core nid resultId row n now)
    {message : Option PublicMessage} (hv : negotiationViolation v (.reject message) = none) :
    ∃ s', s.applyHostedNegotiationAction intentHash core nid resultId (some (.reject message)) now
      = .ok s' := by
  have hne : n.turns ≠ [] := by
    intro hempty
    have hsequence := hw.sequence
    rw [hempty] at hsequence
    exact rejection_checked hv hsequence
  have haction : negotiationActionOf (.reject message) = .ok ⟨.reject, none, message⟩ := rfl
  have hbounded : boundedAction p n.nextRole n ⟨.reject, none, message⟩
      = ⟨.reject, none, message⟩ := by
    unfold boundedAction
    rw [show quotePrice n ⟨.reject, none, message⟩ = none from rfl]
    cases ownLimit p n.nextRole <;> rfl
  have happly : n.apply n.nextRole ⟨.reject, none, message⟩ = _ :=
    h.bargaining.apply_reject rfl hne
  refine returns_of_apply h hunspoken hsyncs haction (by rw [hbounded]; exact happly) ?_
  simp [Negotiation.push]

/-- The price on the table is the one the last turn quoted. -/
theorem lastPrice_eq (h : s.Live nid row n) {t : NegotiationTurn} (ht : n.turns.getLast? = some t) :
    s.lastPrice nid = t.action.priceAtomic := by
  obtain ⟨rest, m, hm, hmt, -⟩ := h.last_message ht
  unfold lastPrice
  rw [h.messagesOf_eq, hm, ← hmt]
  simp [Negotiation.turnOfMessage]

/-- An acceptance returns exactly when the price on the table is covered. -/
theorem accept_returns_iff (hset : Settleable s) (h : s.Dealing nid row n p)
    (hw : Waiting row n p task v) (hunspoken : ¬ s.spoken resultId)
    (hsyncs : s.Syncs core nid resultId row n now) (hv : negotiationViolation v .accept = none) :
    (∃ s', s.applyHostedNegotiationAction intentHash core nid resultId (some .accept) now
      = .ok s') ↔ s.TurnOk nid (some .accept) := by
  obtain ⟨hsequence, q, hq, hcross⟩ := acceptance_checked hv
  have hne : n.turns ≠ [] := by
    intro hempty
    have hseq := hw.sequence
    rw [hempty] at hseq
    exact hsequence hseq
  obtain ⟨t, price, ht, -, hquote, happly⟩ :=
    h.bargaining.apply_accept (a := ⟨.accept, none, none⟩) rfl hne
  have hbounded : boundedAction p n.nextRole n ⟨.accept, none, none⟩ = ⟨.accept, none, none⟩ := by
    unfold boundedAction
    have hprice : quotePrice n ⟨.accept, none, none⟩ = t.action.priceAtomic := by
      unfold quotePrice
      rw [if_pos rfl, ht]
      rfl
    rw [hprice, quote_within_limit hw.toShows hq ht hcross]
    rfl
  have hcall : s.applyHostedNegotiationAction intentHash core nid resultId (some .accept) now
      = (s.say (turnMessage nid resultId n.nextRole
          (n.push n.nextRole ⟨.accept, none, none⟩ .acceptedPendingSettlement (some price))
          ⟨.accept, none, none⟩)).finishTurn intentHash core nid resultId row
        (n.push n.nextRole ⟨.accept, none, none⟩ .acceptedPendingSettlement (some price)) true
          now := by
    rw [h.turn_some hunspoken h.pairing]
    show (do
      let n' ← n.apply n.nextRole (boundedAction p n.nextRole n ⟨.accept, none, none⟩)
      (s.say (turnMessage nid resultId n.nextRole n'
        (boundedAction p n.nextRole n ⟨.accept, none, none⟩))).finishTurn intentHash core nid
          resultId row n' true now) = _
    rw [hbounded, happly]
    rfl
  rw [hcall, finish_accepted_returns_iff hset h (hsyncs _ _ rfl happly (by simp [Negotiation.push]))
    rfl rfl hquote.2.2]
  constructor
  · intro hcovered row' p' price' hrow' hp' hprice'
    obtain rfl : row = row' := Option.some.inj (h.stored.symm.trans hrow')
    obtain rfl : p = p' := Option.some.inj (h.pairing.symm.trans hp')
    rw [lastPrice_eq h.toLive ht, hquote.2.1] at hprice'
    obtain rfl := Option.some.inj hprice'
    exact hcovered
  · intro hok
    refine hok row p price h.stored h.pairing ?_
    rw [lastPrice_eq h.toLive ht, hquote.2.1]

/-- A result without an action can always be applied. -/
theorem turn_none_returns (h : s.Dealing nid row n p) (hunspoken : ¬ s.spoken resultId) :
    ∃ s', s.applyHostedNegotiationAction intentHash core nid resultId none now = .ok s' := by
  have hexpired : n.expire.status = .timeout := by
    unfold Negotiation.expire
    rw [if_pos h.bargaining.running]
  rw [h.turn_none hunspoken]
  refine finish_returns (fun _ => sync_timeout (Dict.get_set_self _ _ _) hexpired) ?_
  rw [hexpired]
  simp

/-- A result of the turn that is waited for can be applied exactly when it needs no more than
    its checks ensure. -/
theorem turn_returns_iff (hset : Settleable s) (h : s.Dealing nid row n p)
    (hw : Waiting row n p task v) (hunspoken : ¬ s.spoken resultId)
    (hsyncs : s.Syncs core nid resultId row n now) (r : AgentTaskResultV1) :
    (∃ s', s.applyHostedNegotiationAction intentHash core nid resultId
      (FcfsRound.derivedAction task r) now = .ok s') ↔
      s.TurnOk nid (FcfsRound.derivedAction task r) := by
  rcases derived_cases hw r with hnone | ⟨a, ha, hv, ⟨price, message, rfl⟩ | rfl | ⟨message, rfl⟩⟩
  · rw [hnone]
    exact iff_of_true (turn_none_returns h hunspoken) trivial
  · rw [ha]
    exact propose_returns_iff h hw hunspoken hsyncs hv
  · rw [ha]
    exact accept_returns_iff hset h hw hunspoken hsyncs hv
  · rw [ha]
    exact iff_of_true (reject_returns h hw hunspoken hsyncs hv) trivial

end Turn

theorem moveEngagement_nil {old new : DealStatus} (h : s.engagements = []) :
    (s.moveEngagement nid old new).engagements = [] := by
  unfold moveEngagement
  dsimp only
  rw [h]
  rfl

/-- Without engagements a turn makes none. -/
theorem turn_engagements {action : Option Action} (hengagements : s.engagements = [])
    (h : s.applyHostedNegotiationAction intentHash core nid resultId action now = .ok s') :
    s'.engagements = [] := by
  rcases turn_cases h with ⟨rfl, -⟩ | ⟨row, n, n', said, ht, hfinish⟩
  · exact hengagements
  have hsaid : said.engagements = [] := by
    rcases ht.taken with ⟨-, -, rfl⟩ | ⟨_, _, _, _, -, -, -, -, -, rfl⟩
    · exact hengagements
    · exact hengagements
  rcases finish_cases hfinish with ⟨-, rfl⟩ | ⟨-, synced, hsync, hend⟩
  · exact hsaid
  have hnone : (said.setEnded nid row n' now).engagements = [] := hsaid
  rw [sync_of_no_engagements hnone] at hsync
  obtain rfl := Except.ok.inj hsync
  rcases hend with ⟨-, hfreeze⟩ | ⟨-, rfl⟩
  · obtain ⟨row', p, cash, held, -, -, -, -, ⟨-, rfl⟩ | hfrozen⟩ := freeze_cases hfreeze
    · exact moveEngagement_nil hnone
    · obtain ⟨_, _, _, _, _, _, intent, -, -, -, -, -, -, -, ⟨-, rfl⟩ | ⟨-, rfl⟩⟩ := hfrozen.covered
      · exact moveEngagement_nil hnone
      · exact moveEngagement_nil hnone
  · exact hnone

/-- After a turn of its own a negotiation deals on, or has ended. -/
theorem Dealing.turn {row row' : NegotiationRow} {n : Negotiation} {p : PairingRow}
    {action : Option Action} (h : s.Dealing nid row n p)
    (hok : s.applyHostedNegotiationAction intentHash core nid resultId action now = .ok s')
    (hrow' : s'.negotiations.get nid = some row') (hrunning : row'.status = .negotiating) :
    ∃ n', s'.Dealing nid row' n' p := by
  have hended : ∀ {said : Pawnhouse} {n' : Negotiation} {authored : Bool},
      said.finishTurn intentHash core nid resultId row n' authored now = .ok s' →
      n'.status = .negotiating := by
    intro said n' authored hfinish
    obtain ⟨found, hfound, -, -, hstatus⟩ := finish_row hfinish
    rw [hrow'] at hfound
    cases hfound
    exact hstatus.mp hrunning
  rcases turn_cases hok with ⟨rfl, -⟩ | ⟨row₁, n₁, n', said, ht, hfinish⟩
  · obtain rfl : row = row' := Option.some.inj (h.stored.symm.trans hrow')
    exact ⟨n, h⟩
  obtain ⟨rfl, rfl⟩ := h.toLive.of_taken ht
  have hstatus := hended hfinish
  rcases ht.taken with ⟨-, rfl, -⟩ | ⟨given, role, p', a, -, hrole, hp', ha, happly, rfl⟩
  · unfold Negotiation.expire at hstatus
    rw [if_pos h.bargaining.running] at hstatus
    cases hstatus
  · obtain rfl : role = n₁.nextRole := Option.some.inj (hrole.symm.trans h.nextRole)
    have hpost : (boundedAction p' n₁.nextRole n₁ a).postInit = none :=
      postInit_boundedAction (postInit_negotiationActionOf ha)
    obtain ⟨-, ⟨price, hquote, hn', hb⟩ | ⟨-, t, price, -, -, -, hn'⟩ | ⟨-, -, hn'⟩⟩ :=
      h.bargaining.apply_ok hpost happly
    · rcases finish_cases hfinish with ⟨-, rfl⟩ | ⟨hne, -⟩
      · have hlive : ((s.say (turnMessage nid resultId n₁.nextRole n'
            (boundedAction p' n₁.nextRole n₁ a))).setTurn nid row₁ n' now).Live nid _ n' :=
          h.toLive.proposed hpost happly hb
        obtain rfl := Option.some.inj (hlive.stored.symm.trans hrow')
        exact ⟨n', { hlive with
          pairing := h.pairing
          quantityPos := h.quantityPos
          buyerHere := h.buyerHere
          sellerHere := h.sellerHere
          balance := h.balance
          stock := h.stock
          limitShort := h.limitShort
          unsettled := h.unsettled }⟩
      · exact absurd hstatus hne
    · rw [hn'] at hstatus
      cases hstatus
    · rw [hn'] at hstatus
      cases hstatus

end Pawnhouse

end Arena402.Game
