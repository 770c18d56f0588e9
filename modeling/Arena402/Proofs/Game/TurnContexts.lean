/-
What a turn leaves behind, and that the next one can be asked for.

A call for a running negotiation writes nothing, or one more proposal, or the end of it.  In
each case the stored messages stay a legal history of the length that the row says (`Told`).
While the negotiation runs its context can be read and the view of the turn can be built, as
long as the amounts fit into the wire types (`Readable`).
-/
import Arena402.Proofs.Game.TurnReturns

namespace Arena402.Game

open Py

namespace Pawnhouse

variable {intentHash : String → Nat → String} {s s' : Pawnhouse} {core : ArenaCore}
variable {nid resultId : String} {now : UtcDateTime}
variable {row row' : NegotiationRow} {n n' : Negotiation} {p : PairingRow}

/-! ### The history of a negotiation -/

/-- The messages of a negotiation are a legal history, and the row counts them. -/
structure Told (s : Pawnhouse) (nid : String) (row : NegotiationRow) (n : Negotiation) : Prop where
  stored : s.negotiations.get nid = some row
  numbered : (s.storedOf nid).map (·.turnSequence) = List.range' 1 row.turnCount
  replayed : (freshMachine row).replay (s.storedOf nid) = .ok n

theorem Live.told (h : s.Live nid row n) : s.Told nid row n where
  stored := h.stored
  numbered := by
    rw [h.turnCount]
    exact h.numbered
  replayed := h.replayed

theorem SameParties.machine (h : SameParties row row') : freshMachine row' = freshMachine row := by
  unfold freshMachine
  rw [h.buyer, h.seller, h.maxTurns]

/-- The end of a turn writes no message. -/
theorem finish_messages {authored : Bool}
    (h : s.finishTurn intentHash core nid resultId row n authored now = .ok s') :
    s'.messages = s.messages := by
  rcases finish_cases h with ⟨-, rfl⟩ | ⟨-, synced, hsync, hend⟩
  · rfl
  have hsynced : synced.messages = s.messages := by
    have heq : synced = _ := sync_onMarket hsync
    rw [heq]
    rfl
  rcases hend with ⟨-, hfreeze⟩ | ⟨-, rfl⟩
  · obtain ⟨n', p, cash, held, -, -, -, -, ⟨-, rfl⟩ | hfrozen⟩ := freeze_cases hfreeze
    · exact hsynced
    · obtain ⟨_, _, _, _, _, _, intent, -, -, -, -, -, -, -, ⟨-, rfl⟩ | ⟨-, rfl⟩⟩ :=
        hfrozen.covered
      · exact hsynced
      · exact hsynced
  · exact hsynced

/-- What a turn of a running negotiation wrote. -/
inductive TurnEffect (s : Pawnhouse) (nid resultId : String) (action : Option Action)
    (row : NegotiationRow) (n : Negotiation) (now : UtcDateTime) (s' : Pawnhouse) : Prop
  /-- The result was spoken before. -/
  | nothing (hspoken : s.spoken resultId) (hsame : s' = s)
  /-- One more proposal. -/
  | proposed (hunspoken : ¬ s.spoken resultId) (hauthored : action.isSome) (price : Nat)
      (a : NegotiationAction) (n' : Negotiation) (hquote : IsQuote a price)
      (hbound : price ≤ maxGoldAtomic) (hpost : a.postInit = none)
      (happly : n.apply n.nextRole a = .ok n') (hlength : n'.turns.length = n.turns.length + 1)
      (hbargaining : n'.Bargaining)
      (hsame : s' = (s.say (turnMessage nid resultId n.nextRole n' a)).setTurn nid row n' now)
  /-- The negotiation ended, with a last message or by a timeout. -/
  | ended (hunspoken : ¬ s.spoken resultId) (row' : NegotiationRow) (n' : Negotiation)
      (htold : s'.Told nid row' n') (hparties : SameParties row row')
      (hstatus : row'.status ≠ .negotiating)
      (hmessages : s'.messages = s.messages ∨ ∃ m, m.sourceResultId = resultId ∧
        m.negotiationId = nid ∧ s'.messages = s.messages ++ [m])

theorem storedOf_of_messages (h : s'.messages = s.messages) : s'.storedOf nid = s.storedOf nid := by
  unfold storedOf
  rw [h]

/-- A price that was converted is within the Arena bound. -/
theorem goldOf_le {price : PositiveFixedDecimal} {atomic : Nat} (h : goldOf price = .ok atomic) :
    atomic ≤ maxGoldAtomic := by
  unfold goldOf at h
  split at h
  · rename_i found hfound
    cases h
    unfold gold at hfound
    split at hfound
    · cases hfound
    · obtain ⟨-, hfound⟩ := ok_of_guard hfound
      obtain ⟨-, -, -, hle, -⟩ := goldAtomic_ok hfound
      exact hle
    · cases hfound
  · cases h

theorem negotiationActionOf_le {given : Action} {a : NegotiationAction} {price : Nat}
    (h : negotiationActionOf given = .ok a) (hprice : a.priceAtomic = some price) :
    price ≤ maxGoldAtomic := by
  cases given with
  | propose proposed message =>
      obtain ⟨atomic, hatomic, h⟩ := ok_of_bind h
      obtain ⟨rfl, -⟩ := make_ok h
      cases hprice
      exact goldOf_le hatomic
  | accept =>
      cases h
      cases hprice
  | reject message =>
      have hmake : NegotiationAction.make .reject none message = .ok a := h
      obtain ⟨rfl, -⟩ := make_ok hmake
      cases hprice
  | buy o => cases h
  | sell o => cases h
  | pass => cases h
  | requestNegotiations l => cases h
  | engage requestId => cases h
  | rejectAll reason => cases h

theorem boundedAction_le {role : Role} {a : NegotiationAction} {price : Nat}
    (h : ∀ price, a.priceAtomic = some price → price ≤ maxGoldAtomic)
    (hprice : (boundedAction p role n a).priceAtomic = some price) : price ≤ maxGoldAtomic := by
  unfold boundedAction at hprice
  split at hprice
  · cases hprice
  · exact h price hprice

/-- The history after an end of a turn that the machine took. -/
theorem Live.told_of_said (h : s.Live nid row n) {a : NegotiationAction} (ha : a.postInit = none)
    (happly : n.apply n.nextRole a = .ok n')
    (hmessages : s'.messages = (s.say (turnMessage nid resultId n.nextRole n' a)).messages)
    (hrow : s'.negotiations.get nid = some row') (hparties : SameParties row row')
    (hcount : row'.turnCount = n'.turns.length) : s'.Told nid row' n' where
  stored := hrow
  numbered := by
    rw [storedOf_of_messages hmessages, hcount]
    exact h.numbered_said happly
  replayed := by
    rw [storedOf_of_messages hmessages, hparties.machine]
    exact h.replay_said ha happly

/-- One call for a running negotiation. -/
theorem Live.turn_effect (h : s.Live nid row n) {action : Option Action}
    (hok : s.applyHostedNegotiationAction intentHash core nid resultId action now = .ok s') :
    TurnEffect s nid resultId action row n now s' := by
  rcases turn_cases hok with ⟨rfl, found, hfound, hspoken | hended⟩ | ⟨row₁, n₁, n', said, ht, hfinish⟩
  · exact .nothing hspoken rfl
  · obtain rfl := Option.some.inj (h.stored.symm.trans hfound)
    exact absurd h.running hended
  obtain ⟨rfl, rfl⟩ := h.of_taken ht
  obtain ⟨row', hrow', hparties, hcount, hstatus⟩ := finish_row hfinish
  have hmessages := finish_messages hfinish
  rcases ht.taken with ⟨-, rfl, rfl⟩ | ⟨given, role, p, a, hgiven, hrole, hp, ha, happly, rfl⟩
  · have hexpire : n₁.expire = { n₁ with status := .timeout } := by
      unfold Negotiation.expire
      rw [if_pos h.bargaining.running]
    refine .ended ht.unspoken row' n₁ ⟨hrow', ?_, ?_⟩ hparties ?_ (Or.inl hmessages)
    · rw [storedOf_of_messages hmessages, hcount, hexpire]
      exact h.numbered
    · rw [storedOf_of_messages hmessages, hparties.machine]
      exact h.replayed
    · intro hrunning
      have hbad := hstatus.mp hrunning
      rw [hexpire] at hbad
      cases hbad
  obtain rfl : role = n₁.nextRole := Option.some.inj (hrole.symm.trans h.nextRole)
  have hpost : (boundedAction p n₁.nextRole n₁ a).postInit = none :=
    postInit_boundedAction (postInit_negotiationActionOf ha)
  have hended : n'.status ≠ .negotiating → TurnEffect s nid resultId action row₁ n₁ now s' := by
    intro hne
    refine .ended ht.unspoken row' n' ?_ hparties (fun hc => hne (hstatus.mp hc))
      (Or.inr ⟨_, rfl, rfl, hmessages⟩)
    exact h.told_of_said hpost happly hmessages hrow' hparties hcount
  obtain ⟨-, ⟨price, hquote, hn', hb⟩ | ⟨-, t, price, -, -, -, hn'⟩ | ⟨-, -, hn'⟩⟩ :=
    h.bargaining.apply_ok hpost happly
  · rcases finish_cases hfinish with ⟨-, rfl⟩ | ⟨hne, -⟩
    · refine .proposed ht.unspoken (by rw [hgiven]; rfl) price _ n' hquote ?_ hpost happly ?_ ?_ rfl
      · exact boundedAction_le (fun price hprice => negotiationActionOf_le ha hprice) hquote.2.1
      · rw [hn']
        simp [Negotiation.push]
      · exact hb
    · rw [hn'] at hne
      exact absurd rfl hne
  · refine hended ?_
    rw [hn']
    simp [Negotiation.push]
  · refine hended ?_
    rw [hn']
    simp [Negotiation.push]

/-! ### Asking for the next turn -/

/-- What the wire types need of the rows around a negotiation. -/
structure Readable (s : Pawnhouse) (nid : String) (row : NegotiationRow) (p : PairingRow) :
    Prop where
  round : ∃ r, s.rounds.get row.roundId = some r ∧ 0 < r.roundIndex ∧
    r.roundIndex ≤ s.game.roundCount
  cash : ∀ id, id = row.buyerParticipantId ∨ id = row.sellerParticipantId →
    ∃ cash, s.balances.get id = some cash ∧ 0 ≤ cash ∧ cash ≤ maxGoldAtomic
  goods : ∀ id, id = row.buyerParticipantId ∨ id = row.sellerParticipantId →
    ∃ held, s.holdings.get (id, p.goodId) = some held ∧ 0 ≤ held
  limits : ∀ role limit, ownLimit p role = some limit → 0 < limit ∧ limit ≤ maxGoldAtomic
  prices : ∀ m ∈ s.storedOf nid, ∀ price, m.priceAtomic = some price → price ≤ maxGoldAtomic

/-- A stored message of a running negotiation is a quote. -/
theorem Live.quote_of_mem (h : s.Live nid row n) {m : NegotiationMessage}
    (hm : m ∈ s.storedOf nid) : ∃ price, m.action = .propose ∧ m.priceAtomic = some price ∧ 0 < price := by
  have hmem : Negotiation.turnOfMessage m ∈ n.turns := by
    rw [h.turns_eq]
    exact List.mem_map_of_mem hm
  obtain ⟨price, hquote⟩ := h.bargaining.quotes _ hmem
  exact ⟨price, hquote⟩

/-- A stored message comes before the next turn. -/
theorem Live.sequence_of_mem (h : s.Live nid row n) {m : NegotiationMessage}
    (hm : m ∈ s.storedOf nid) : m.turnSequence ≤ row.turnCount := by
  have hmem : m.turnSequence ∈ (s.storedOf nid).map (·.turnSequence) := List.mem_map_of_mem hm
  rw [h.numbered, List.mem_range'_1] at hmem
  rw [h.turnCount]
  omega

theorem mapM_returns {α β : Type} {f : α → Except String β} : ∀ (l : List α),
    (∀ x ∈ l, ∃ y, f x = .ok y) → ∃ ys, l.mapM f = .ok ys := by
  intro l
  induction l with
  | nil =>
      intro _
      exact ⟨[], rfl⟩
  | cons x rest ih =>
      intro h
      obtain ⟨y, hy⟩ := h x List.mem_cons_self
      obtain ⟨ys, hys⟩ := ih fun z hz => h z (List.mem_cons_of_mem _ hz)
      refine ⟨y :: ys, ?_⟩
      rw [List.mapM_cons, hy]
      show (do
        let ys ← rest.mapM f
        return y :: ys) = _
      rw [hys]
      rfl

theorem historyView_returns (h : s.Live nid row n) (hr : s.Readable nid row p)
    {m : NegotiationMessage} (hm : m ∈ s.storedOf nid) :
    ∃ v, historyView m = .ok v ∧ v.enforceActionShape = true := by
  obtain ⟨price, haction, hprice, hpos⟩ := h.quote_of_mem hm
  obtain ⟨d, hd⟩ := goldPrice_returns hpos (hr.prices m hm price hprice)
  refine ⟨⟨m.turnSequence, m.actorRole, m.action, some d, m.publicMessage⟩, ?_, ?_⟩
  · unfold historyView
    rw [hprice]
    show ((goldPrice price).map some >>= fun price => _) = _
    rw [hd]
    rfl
  · unfold ArenaNegotiationMessageV1.enforceActionShape
    rw [haction]
    rfl

/-- A quote that a role may answer. -/
theorem quoteView_returns (h : s.Live nid row n) (hr : s.Readable nid row p) (role : Role) :
    ∃ q, quoteView (latestQuote (s.messagesOf nid) role) = .ok q ∧
      ∀ quote, q = some quote → quote.fromRole ≠ role ∧ quote.turnSequence < row.turnCount + 1 := by
  cases hquote : latestQuote (s.messagesOf nid) role with
  | none => exact ⟨none, rfl, by simp⟩
  | some m =>
      have hmem : m ∈ s.storedOf nid := by
        rw [← h.messagesOf_eq]
        exact List.mem_reverse.mp (List.mem_of_find?_eq_some hquote)
      have hother := List.find?_some hquote
      simp only [Bool.and_eq_true, decide_eq_true_eq] at hother
      obtain ⟨price, haction, hprice, hpos⟩ := h.quote_of_mem hmem
      obtain ⟨d, hd⟩ := goldPrice_returns hpos (hr.prices m hmem price hprice)
      refine ⟨some ⟨m.turnSequence, m.actorRole, d⟩, ?_, ?_⟩
      · show (present m.priceAtomic >>= fun atomic => _) = _
        rw [hprice]
        show (goldPrice price >>= fun price => _) = _
        rw [hd]
        rfl
      · intro quote hsome
        cases hsome
        exact ⟨hother.2, Nat.lt_succ_of_le (h.sequence_of_mem hmem)⟩

theorem turnOf_mem (row : NegotiationRow) (role : Role) :
    ((turnOf row role).1 = row.buyerParticipantId ∨ (turnOf row role).1 = row.sellerParticipantId) ∧
      ((turnOf row role).2 = row.buyerParticipantId ∨
        (turnOf row role).2 = row.sellerParticipantId) := by
  cases role with
  | buyer => exact ⟨Or.inl rfl, Or.inr rfl⟩
  | seller => exact ⟨Or.inr rfl, Or.inl rfl⟩

/-- What the context of a turn shows besides its negotiation. -/
structure Shown (s : Pawnhouse) (nid : String) (row : NegotiationRow) (p : PairingRow)
    (c : NegotiationContext) : Prop where
  game : c.round.gameId = s.game.gameId
  roundIs : c.round.roundId = row.roundId
  roundIndex : 0 < c.round.roundIndex ∧ c.round.roundIndex ≤ c.round.roundCount
  quantity : c.quantity = p.quantity
  cash : 0 ≤ c.cashAtomic ∧ c.cashAtomic ≤ maxGoldAtomic
  inventory : 0 ≤ c.inventoryAvailable
  history : c.history = s.messagesOf nid

/-- The context of a running negotiation can be read. -/
theorem context_returns (h : s.Dealing nid row n p) (hr : s.Readable nid row p) :
    ∃ c, s.hostedNegotiationContext nid = .ok (some c) ∧ s.Shown nid row p c := by
  obtain ⟨hown, hother⟩ := turnOf_mem row n.nextRole
  obtain ⟨r, hround, hindex, hcount⟩ := hr.round
  obtain ⟨cash, hcash, hnonneg, hle⟩ := hr.cash _ hown
  obtain ⟨held, hheld, hstock⟩ := hr.goods _ hown
  have hhere : ∀ id, id = row.buyerParticipantId ∨ id = row.sellerParticipantId →
      ∃ participant, s.participants.get id = some participant := by
    rintro id (rfl | rfl)
    · exact Option.isSome_iff_exists.mp h.buyerHere
    · exact Option.isSome_iff_exists.mp h.sellerHere
  obtain ⟨participant, hparticipant⟩ := hhere _ hown
  obtain ⟨counterparty, hcounterparty⟩ := hhere _ hother
  unfold hostedNegotiationContext
  simp only [h.stored, h.running, h.nextRole, h.pairing, hround, hparticipant, hcounterparty, hcash,
    hheld]
  exact ⟨_, rfl, rfl, rfl, ⟨hindex, hcount⟩, rfl, ⟨hnonneg, hle⟩, hstock, rfl⟩

/-- **The next turn of a running negotiation can be asked for.** -/
theorem view_returns (h : s.Dealing nid row n p) (hr : s.Readable nid row p)
    {c : NegotiationContext} (hc : s.hostedNegotiationContext nid = .ok (some c)) :
    ∃ view, negotiateView c = .ok view := by
  obtain ⟨found, hfound, hshown⟩ := context_returns h hr
  obtain rfl : found = c := by
    rw [hfound] at hc
    exact Option.some.inj (Except.ok.inj hc)
  obtain ⟨row', role, p', hof⟩ := context_cases hfound
  obtain rfl : row = row' := Option.some.inj (h.stored.symm.trans hof.stored)
  obtain rfl : p = p' := Option.some.inj (h.pairing.symm.trans hof.pairing)
  obtain ⟨history, hhistory⟩ : ∃ history, found.history.mapM historyView = .ok history := by
    rw [hshown.history, h.messagesOf_eq]
    refine mapM_returns _ fun m hm => ?_
    obtain ⟨v, hv, -⟩ := historyView_returns h.toLive hr hm
    exact ⟨v, hv⟩
  have hshapes : ∀ v ∈ history, v.enforceActionShape = true := by
    intro v hv
    obtain ⟨m, hm, hmv⟩ := mem_of_mapM _ hhistory v hv
    rw [hshown.history, h.messagesOf_eq] at hm
    obtain ⟨v', hv', hshape⟩ := historyView_returns h.toLive hr hm
    rw [hv'] at hmv
    obtain rfl := Except.ok.inj hmv
    exact hshape
  obtain ⟨quote, hquote, hbefore⟩ := quoteView_returns h.toLive hr role
  obtain ⟨limit, hlimit⟩ := goldPrice?_returns (hr.limits role)
  obtain ⟨cash, hcash⟩ := goldDecimal_returns hshown.cash.1 hshown.cash.2
  have hnatural : natural found.inventoryAvailable = .ok found.inventoryAvailable.toNat :=
    if_neg (not_lt.mpr hshown.inventory)
  unfold negotiateView
  rw [hhistory, hof.quote, hof.limit]
  show ∃ view, (quoteView _ >>= fun quote => _) = Except.ok view
  rw [hquote]
  show ∃ view, (goldPrice? _ >>= fun limit => _) = Except.ok view
  rw [hlimit]
  show ∃ view, (goldDecimal _ >>= fun cash => _) = Except.ok view
  rw [hcash]
  show ∃ view, (natural _ >>= fun inventory => _) = Except.ok view
  rw [hnatural]
  refine ⟨_, if_pos ?_⟩
  show ArenaNegotiateInputV1.validateTurnContext _ = true
  unfold ArenaNegotiateInputV1.validateTurnContext
  dsimp only
  simp only [Bool.and_eq_true, decide_eq_true_eq, List.all_eq_true]
  refine ⟨⟨⟨⟨⟨?_, ?_⟩, hshapes⟩, ?_⟩, ?_⟩, hshown.roundIndex.1⟩
  · unfold roundCountsValid
    simp [hshown.roundIndex.2]
  · cases quote with
    | none => rfl
    | some q =>
        obtain ⟨hrole, hsequence⟩ := hbefore q rfl
        rw [hof.roleIs, hof.sequence]
        simp [hrole, hsequence]
  · rw [hof.sequence]
    exact Nat.succ_pos _
  · rw [hshown.quantity]
    exact h.quantityPos

/-! ### What the market takes note of -/

/-- The claims that the end of an engagement makes. -/
def EndsWith (engagementId : String) (row : ResultApplication) : Prop :=
  (row.actionKind = "acceptance" ∧ row.actionId = "acceptance:" ++ engagementId) ∨
    (row.actionKind = "reject" ∧ row.actionId = "reject:" ++ engagementId) ∨
    (row.actionKind = "proposal" ∧ ∃ k : Nat, row.actionId = s!"proposal:{engagementId}:{k}")

/-- Nothing of a running negotiation was claimed on the market: not its end, and of its
    messages the opening request at most. -/
structure Claimable (s : Pawnhouse) (core : ArenaCore) (nid : String) : Prop where
  known : ∀ id, (s.resultApplications.get id).isSome → (core.results.get id).isSome
  unended : ∀ engagementId e, (s.engagements.find? fun e => e.2.negotiationId = nid)
      = some (engagementId, e) →
    ∀ row ∈ s.resultApplications.values, ¬ EndsWith engagementId row
  said : ∀ engagementId e r, (s.engagements.find? fun e => e.2.negotiationId = nid)
      = some (engagementId, e) → s.requests.get e.requestId = some r →
    ∀ m ∈ s.storedOf nid, (m.sourceResultId = r.sourceResultId ∧ m.turnSequence = 1) ∨
      (s.resultApplications.get m.sourceResultId = none ∧
        (core.results.get m.sourceResultId).isSome)

theorem claim_returns {claimed : ResultApplication} (hknown : (core.results.get resultId).isSome)
    (hfree : s.resultApplications.get resultId = none)
    (hunique : ∀ r ∈ s.resultApplications.values,
      ¬ (r.actionKind = claimed.actionKind ∧ r.actionId = claimed.actionId)) :
    s.claimNegotiationResult core resultId claimed
      = .ok { s with resultApplications := s.resultApplications.set resultId claimed } := by
  unfold claimNegotiationResult
  rw [if_neg (by simp [Option.isSome_iff_ne_none.mp hknown]), hfree]
  dsimp only
  rw [if_neg]
  simpa using hunique

section Syncs

variable {m : NegotiationMessage} {engagementId : String} {e : Engagement} {r : RequestRow}

/-- The messages of a deal: the last proposal and its acceptance. -/
theorem freezeDeal_returns {price : Nat} (proposal acceptance : NegotiationMessage)
    (hproposal : ((s.messagesOf e.negotiationId).reverse.find? fun m => m.action = .propose)
      = some proposal)
    (hacceptance : ((s.messagesOf e.negotiationId).find? fun m =>
      m.sourceResultId = resultId && m.action = .accept) = some acceptance)
    (hsource : acceptance.sourceResultId = resultId)
    (hdiffer : proposal.sourceResultId ≠ resultId)
    (hopening : (proposal.sourceResultId = r.sourceResultId ∧ proposal.turnSequence = 1) ∨
      (s.resultApplications.get proposal.sourceResultId = none ∧
        (core.results.get proposal.sourceResultId).isSome))
    (hknown : (core.results.get resultId).isSome)
    (hfree : s.resultApplications.get resultId = none)
    (hunended : ∀ row ∈ s.resultApplications.values, ¬ EndsWith engagementId row) :
    ∃ s', s.freezeDeal core engagementId e r resultId (some price) = .ok s' := by
  have haccept : ∀ u : Pawnhouse, u.resultApplications.get resultId = none →
      (∀ row ∈ u.resultApplications.values, row.actionKind = "acceptance" →
        row ∈ s.resultApplications.values) →
      ∃ u', u.claimNegotiationResult core acceptance.sourceResultId
        ⟨e.roundId, Engagement.participantIn e acceptance.actorRole, "acceptance",
          "acceptance:" ++ engagementId⟩ = .ok u' := by
    intro u hfree' hold
    rw [hsource]
    refine ⟨_, claim_returns hknown hfree' ?_⟩
    rintro found hfound ⟨hkind, hid⟩
    exact hunended found (hold found hfound hkind) (Or.inl ⟨hkind, hid⟩)
  unfold freezeDeal
  dsimp only
  rw [hproposal, hacceptance]
  dsimp only
  by_cases hrfq : proposal.sourceResultId = r.sourceResultId ∧ proposal.turnSequence = 1
  · rw [if_pos (by simp [hrfq])]
    obtain ⟨u', hu'⟩ := haccept s hfree fun _ h _ => h
    show ∃ s', (s.claimNegotiationResult core acceptance.sourceResultId _ >>= fun s => _)
      = Except.ok s'
    rw [hu']
    exact ⟨_, rfl⟩
  · obtain ⟨hpfree, hpknown⟩ := hopening.resolve_left hrfq
    rw [if_neg (by simpa using hrfq), claim_returns hpknown hpfree (by
      rintro found hfound ⟨hkind, hid⟩
      exact hunended found hfound (Or.inr (Or.inr ⟨hkind, _, hid⟩)))]
    show ∃ s', (Pawnhouse.claimNegotiationResult _ core acceptance.sourceResultId _ >>= fun s => _)
      = Except.ok s'
    obtain ⟨u', hu'⟩ := haccept { s with
        resultApplications := s.resultApplications.set proposal.sourceResultId
          ⟨e.roundId, Engagement.participantIn e proposal.actorRole, "proposal",
            s!"proposal:{engagementId}:{proposal.turnSequence}"⟩ }
      ((Dict.get_set_ne _ _ hdiffer.symm).trans hfree) (by
        intro found hfound hkind
        obtain ⟨entry, hentry, rfl⟩ := List.mem_map.mp hfound
        rcases Dict.mem_set hentry with rfl | hentry
        · exact absurd hkind (by simp)
        · exact List.mem_map_of_mem hentry)
    rw [hu']
    exact ⟨_, rfl⟩

/-- The market takes note of every end of a negotiation that it has no claims of. -/
theorem Claimable.syncs (hc : s.Claimable core nid) (h : s.Live nid row n)
    (hunspoken : ¬ s.spoken resultId) (hknown : (core.results.get resultId).isSome)
    (hfree : s.resultApplications.get resultId = none) (now : UtcDateTime) :
    s.Syncs core nid resultId row n now := by
  intro a n' ha happly hended
  have hnumbered : ((s.say (turnMessage nid resultId n.nextRole n' a)).storedOf nid).map
      (·.turnSequence) = List.range' 1 n'.turns.length := h.numbered_said happly
  have hmessages : ((s.say (turnMessage nid resultId n.nextRole n' a)).setEnded nid row n'
      now).messagesOf nid = s.storedOf nid ++ [turnMessage nid resultId n.nextRole n' a] := by
    rw [← storedOf_say_self]
    exact messagesOf_of_numbered hnumbered
  have hrow : ((s.say (turnMessage nid resultId n.nextRole n' a)).setEnded nid row n'
      now).negotiations.get nid = some (s.turnRow row n' now) := Dict.get_set_self _ _ _
  have hunheard : ∀ m ∈ s.storedOf nid, m.sourceResultId ≠ resultId := by
    intro m hm heq
    exact hunspoken ⟨m, (List.mem_filter.mp hm).1, heq⟩
  cases hfind : s.engagements.find? fun e => e.2.negotiationId = nid with
  | none =>
      unfold syncAgentMarketNegotiation
      have hnone : (((s.say (turnMessage nid resultId n.nextRole n' a)).setEnded nid row n'
          now).engagements.find? fun e => e.2.negotiationId = nid) = none := hfind
      rw [hnone]
      exact ⟨_, rfl⟩
  | some found =>
      obtain ⟨engagementId, e⟩ := found
      obtain rfl : e.negotiationId = nid := by simpa using List.find?_some hfind
      unfold syncAgentMarketNegotiation
      have hsome : (((s.say (turnMessage e.negotiationId resultId n.nextRole n' a)).setEnded
          e.negotiationId row n' now).engagements.find? fun x => x.2.negotiationId = e.negotiationId)
          = some (engagementId, e) := hfind
      rw [hsome]
      dsimp only
      rw [hrow]
      cases hr : s.requests.get e.requestId with
      | none =>
          have hnone : ((s.say (turnMessage e.negotiationId resultId n.nextRole n' a)).setEnded
              e.negotiationId row n' now).requests.get e.requestId = none := hr
          rw [hnone]
          exact ⟨_, rfl⟩
      | some r =>
          have hrequest : ((s.say (turnMessage e.negotiationId resultId n.nextRole n' a)).setEnded
              e.negotiationId row n' now).requests.get e.requestId = some r := hr
          rw [hrequest]
          dsimp only
          obtain ⟨-, ⟨price, -, hn', hb⟩ | ⟨haction, t, price, ht, -, -, hn'⟩ | ⟨-, -, hn'⟩⟩ :=
            h.bargaining.apply_ok ha happly
          · exact absurd hb.running hended
          · have hstatus : (s.turnRow row n' now).status = .acceptedPendingSettlement := by
              rw [hn']
              rfl
            have haccepted : (s.turnRow row n' now).acceptedPriceAtomic = some price := by
              rw [hn']
              rfl
            rw [hstatus, haccepted]
            obtain ⟨rest, m, hm, hmt, -⟩ := h.last_message ht
            have hmem : m ∈ s.storedOf e.negotiationId := by
              rw [hm]
              exact List.mem_append_right _ (List.mem_singleton_self m)
            obtain ⟨quoted, hpropose, -, -⟩ := h.quote_of_mem hmem
            refine freezeDeal_returns m (turnMessage e.negotiationId resultId n.nextRole n' a) ?_ ?_ rfl
              (hunheard m hmem) (hc.said engagementId e r hfind hr m hmem) hknown hfree
              (hc.unended engagementId e hfind)
            · rw [hmessages, hm, List.reverse_append, List.reverse_append]
              simp [turnMessage, haction, hpropose]
            · rw [hmessages, List.find?_append]
              have hnone : ((s.storedOf e.negotiationId).find? fun m =>
                  m.sourceResultId = resultId && m.action = .accept) = none := by
                rw [List.find?_eq_none]
                intro x hx
                simp [hunheard x hx]
              rw [hnone]
              simp [turnMessage, haction]
          · have hstatus : (s.turnRow row n' now).status = .rejected := by
              rw [hn']
              rfl
            have hclaim : ∀ participantId, ∃ u, ((s.say (turnMessage e.negotiationId resultId
                n.nextRole n' a)).setEnded e.negotiationId row n' now).claimNegotiationResult core
                resultId ⟨e.roundId, participantId, "reject", "reject:" ++ engagementId⟩ = .ok u := by
              intro participantId
              refine ⟨_, claim_returns hknown hfree ?_⟩
              rintro found hfound ⟨hkind, hid⟩
              exact hc.unended engagementId e hfind found hfound (Or.inr (Or.inl ⟨hkind, hid⟩))
            obtain ⟨u, hu⟩ := hclaim (Engagement.participantIn e (Pawnhouse.roleOfResult _ resultId))
            rw [hstatus]
            dsimp only
            rw [if_neg (by simp), hu]
            exact ⟨_, rfl⟩

end Syncs

/-! ### After a proposal -/

section Proposed

variable {a : NegotiationAction}

theorem storedOf_proposed (s : Pawnhouse) (nid resultId : String) (row : NegotiationRow)
    (n n' : Negotiation) (a : NegotiationAction) (now : UtcDateTime) :
    ((s.say (turnMessage nid resultId n.nextRole n' a)).setTurn nid row n' now).storedOf nid
      = s.storedOf nid ++ [turnMessage nid resultId n.nextRole n' a] :=
  storedOf_say_self s nid resultId n.nextRole n' a

theorem Readable.proposed (hr : s.Readable nid row p) {price : Nat} (hquote : IsQuote a price)
    (hbound : price ≤ maxGoldAtomic) :
    ((s.say (turnMessage nid resultId n.nextRole n' a)).setTurn nid row n' now).Readable nid
      ((s.say (turnMessage nid resultId n.nextRole n' a)).turnRow row n' now) p where
  round := hr.round
  cash := hr.cash
  goods := hr.goods
  limits := hr.limits
  prices := by
    intro m hm found hfound
    rw [storedOf_proposed] at hm
    rcases List.mem_append.mp hm with hm | hm
    · exact hr.prices m hm found hfound
    · rw [List.mem_singleton.mp hm] at hfound
      have hsame : a.priceAtomic = some found := hfound
      rw [hquote.2.1] at hsame
      cases hsame
      exact hbound

theorem Claimable.proposed (hc : s.Claimable core nid) (hknown : (core.results.get resultId).isSome)
    (hfree : s.resultApplications.get resultId = none) :
    ((s.say (turnMessage nid resultId n.nextRole n' a)).setTurn nid row n' now).Claimable core
      nid where
  known := hc.known
  unended := hc.unended
  said := by
    intro engagementId e r hfind hr m hm
    rw [storedOf_proposed] at hm
    rcases List.mem_append.mp hm with hm | hm
    · exact hc.said engagementId e r hfind hr m hm
    · rw [List.mem_singleton.mp hm]
      exact Or.inr ⟨hfree, hknown⟩

/-- More results leave the claims open. -/
theorem Claimable.grown {core' : ArenaCore} (hc : s.Claimable core nid)
    (hrows : ∀ id, (core.results.get id).isSome → (core'.results.get id).isSome) :
    s.Claimable core' nid where
  known := fun id hid => hrows id (hc.known id hid)
  unended := hc.unended
  said := by
    intro engagementId e r hfind hr m hm
    rcases hc.said engagementId e r hfind hr m hm with hopening | ⟨hfree, hknown⟩
    · exact Or.inl hopening
    · exact Or.inr ⟨hfree, hrows _ hknown⟩

end Proposed

end Pawnhouse

end Arena402.Game
