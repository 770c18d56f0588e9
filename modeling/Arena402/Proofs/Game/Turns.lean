/-
What a turn of a negotiation does to the tables.

A running negotiation is stored as its messages: they are numbered from one, replay to a
machine that still bargains, and the columns of its row say how far it is (`Live`).  A turn
is then one turn of that machine, followed by what its end brings along.  `turn_cases`,
`finish_cases`, `sync_frame` and `freeze_cases` say what the call did when it returned, and
`Live.apply_eq` computes it for a running negotiation.
-/
import Arena402.Proofs.Game.Negotiation
import Arena402.Game.HostedNegotiation
import Arena402.Game.Views

namespace Arena402.Game

open Py

namespace Pawnhouse

/-! ### Stored messages -/

/-- The messages of a negotiation, as they were stored. -/
def storedOf (s : Pawnhouse) (negotiationId : String) : List NegotiationMessage :=
  s.messages.filter fun m => m.negotiationId = negotiationId

/-- Messages that are numbered in their order need no sorting. -/
theorem messagesOf_of_numbered {s : Pawnhouse} {nid : String} {k : Nat}
    (h : (s.storedOf nid).map (·.turnSequence) = List.range' 1 k) :
    s.messagesOf nid = s.storedOf nid := by
  have hsorted : ((s.storedOf nid).map (·.turnSequence)).Pairwise (· ≤ ·) := by
    rw [h]
    exact (List.pairwise_lt_range' (s := 1) (n := k)).imp Nat.le_of_lt
  exact (List.pairwise_map.mp hsorted).insertionSort_eq

/-- The tables with one more message. -/
def say (s : Pawnhouse) (m : NegotiationMessage) : Pawnhouse :=
  { s with messages := s.messages ++ [m] }

theorem storedOf_say_self (s : Pawnhouse) (nid resultId : String) (role : Role) (n : Negotiation)
    (a : NegotiationAction) : (s.say (turnMessage nid resultId role n a)).storedOf nid
      = s.storedOf nid ++ [turnMessage nid resultId role n a] := by
  unfold storedOf say
  rw [List.filter_append]
  simp [turnMessage]

theorem storedOf_say_ne (s : Pawnhouse) (m : NegotiationMessage) {nid : String}
    (h : m.negotiationId ≠ nid) : (s.say m).storedOf nid = s.storedOf nid := by
  unfold storedOf say
  rw [List.filter_append]
  simp [h]

/-! ### A running negotiation -/

/-- The machine before the first turn. -/
def freshMachine (row : NegotiationRow) : Negotiation where
  buyerParticipantId := row.buyerParticipantId
  sellerParticipantId := row.sellerParticipantId
  maxTurns := row.maxTurns

/-- A running negotiation and the machine that its messages replay to. -/
structure Live (s : Pawnhouse) (nid : String) (row : NegotiationRow) (n : Negotiation) : Prop where
  stored : s.negotiations.get nid = some row
  running : row.status = .negotiating
  partiesDiffer : row.buyerParticipantId ≠ row.sellerParticipantId
  turnsBounded : 2 ≤ row.maxTurns ∧ row.maxTurns ≤ 6
  numbered : (s.storedOf nid).map (·.turnSequence) = List.range' 1 n.turns.length
  replayed : (freshMachine row).replay (s.storedOf nid) = .ok n
  bargaining : n.Bargaining
  nextRole : row.nextRole = some n.nextRole
  turnCount : row.turnCount = n.turns.length

namespace Live

variable {s : Pawnhouse} {nid : String} {row : NegotiationRow} {n : Negotiation}

theorem turns_eq (h : s.Live nid row n) : n.turns = (s.storedOf nid).map Negotiation.turnOfMessage := by
  have := (Negotiation.replay_turns _ _ h.replayed).1
  simpa [freshMachine] using this

theorem maxTurns_eq (h : s.Live nid row n) : n.maxTurns = row.maxTurns :=
  (Negotiation.replay_turns _ _ h.replayed).2

theorem messagesOf_eq (h : s.Live nid row n) : s.messagesOf nid = s.storedOf nid :=
  messagesOf_of_numbered h.numbered

theorem rebuild_eq (h : s.Live nid row n) : s.rebuild nid row = .ok n := by
  have hpost : (freshMachine row).postInit = none := by
    unfold Negotiation.postInit
    have hmax := h.turnsBounded
    have hrange : ¬ ((freshMachine row).maxTurns < 2 || 6 < (freshMachine row).maxTurns) = true := by
      show ¬ (decide (row.maxTurns < 2) || decide (6 < row.maxTurns)) = true
      simp only [Bool.or_eq_true, decide_eq_true_eq]
      omega
    rw [if_neg hrange, if_neg (by simp [freshMachine, h.partiesDiffer])]
  unfold freshMachine at hpost
  unfold rebuild
  simp only [hpost, h.messagesOf_eq]
  exact h.replayed

/-- Tables with the same rows of a negotiation show the same machine. -/
theorem congr {s' : Pawnhouse} (h : s.Live nid row n)
    (hrow : s'.negotiations.get nid = s.negotiations.get nid)
    (hstored : s'.storedOf nid = s.storedOf nid) : s'.Live nid row n where
  stored := hrow.trans h.stored
  running := h.running
  partiesDiffer := h.partiesDiffer
  turnsBounded := h.turnsBounded
  numbered := by rw [hstored]; exact h.numbered
  replayed := by rw [hstored]; exact h.replayed
  bargaining := h.bargaining
  nextRole := h.nextRole
  turnCount := h.turnCount

end Live

/-! ### What a call did -/

variable {intentHash : String → Nat → String} {s s' : Pawnhouse} {core : ArenaCore}
variable {nid resultId : String} {now : UtcDateTime}

/-- Whether a message of a result is stored. -/
def spoken (s : Pawnhouse) (resultId : String) : Prop :=
  ∃ m ∈ s.messages, m.sourceResultId = resultId

theorem any_spoken (s : Pawnhouse) (resultId : String) :
    (s.messages.any fun m => m.sourceResultId = resultId) = true ↔ s.spoken resultId := by
  simp [spoken]

/-- A call of a turn that wrote something took one turn of the machine. -/
structure TurnTaken (s : Pawnhouse) (nid resultId : String) (action : Option Action)
    (row : NegotiationRow) (n n' : Negotiation) (said : Pawnhouse) : Prop where
  stored : s.negotiations.get nid = some row
  running : row.status = .negotiating
  unspoken : ¬ s.spoken resultId
  rebuilt : s.rebuild nid row = .ok n
  taken : (action = none ∧ n' = n.expire ∧ said = s) ∨
    ∃ given role p a, action = some given ∧ row.nextRole = some role ∧
      s.pairings.get row.pairingId = some p ∧ negotiationActionOf given = .ok a ∧
      n.apply role (boundedAction p role n a) = .ok n' ∧
      said = s.say (turnMessage nid resultId role n' (boundedAction p role n a))

theorem turn_cases {action : Option Action}
    (h : s.applyHostedNegotiationAction intentHash core nid resultId action now = .ok s') :
    (s' = s ∧ ∃ row, s.negotiations.get nid = some row ∧
      (s.spoken resultId ∨ row.status ≠ .negotiating)) ∨
    ∃ row n n' said, TurnTaken s nid resultId action row n n' said ∧
      said.finishTurn intentHash core nid resultId row n' action.isSome now = .ok s' := by
  unfold applyHostedNegotiationAction at h
  cases hrow : s.negotiations.get nid with
  | none =>
      rw [hrow] at h
      cases h
  | some row =>
      rw [hrow] at h
      dsimp only at h
      by_cases hspoken : s.spoken resultId
      · rw [if_pos ((any_spoken s resultId).mpr hspoken)] at h
        cases h
        exact Or.inl ⟨rfl, row, rfl, Or.inl hspoken⟩
      rw [if_neg (fun hc => hspoken ((any_spoken s resultId).mp hc))] at h
      by_cases hrunning : row.status ≠ .negotiating
      · rw [if_pos hrunning] at h
        cases h
        exact Or.inl ⟨rfl, row, rfl, Or.inr hrunning⟩
      rw [if_neg hrunning] at h
      obtain ⟨n, hn, h⟩ := ok_of_bind h
      refine Or.inr ⟨row, n, ?_⟩
      cases action with
      | none => exact ⟨n.expire, s, ⟨hrow, not_not.mp hrunning, hspoken, hn, Or.inl ⟨rfl, rfl, rfl⟩⟩, h⟩
      | some given =>
          dsimp only at h
          cases hrole : row.nextRole with
          | none =>
              rw [hrole] at h
              cases h
          | some role =>
              cases hp : s.pairings.get row.pairingId with
              | none =>
                  rw [hrole, hp] at h
                  cases h
              | some p =>
                  rw [hrole, hp] at h
                  obtain ⟨a, ha, h⟩ := ok_of_bind h
                  obtain ⟨n', hn', h⟩ := ok_of_bind h
                  exact ⟨n', _, ⟨hrow, not_not.mp hrunning, hspoken, hn,
                    Or.inr ⟨given, role, p, a, rfl, hrole, hp, ha, hn', rfl⟩⟩, h⟩

/-- The tables with the row of a negotiation after a turn. -/
def setTurn (s : Pawnhouse) (nid : String) (row : NegotiationRow) (n : Negotiation)
    (now : UtcDateTime) : Pawnhouse :=
  { s with negotiations := s.negotiations.set nid (s.turnRow row n now) }

/-- The tables with the status of a pairing. -/
def setPairingStatus (s : Pawnhouse) (pairingId : String) (status : DealStatus) : Pawnhouse :=
  { s with
    pairings := s.pairings.update (fun id _ => id = pairingId)
      fun p => { p with status := status } }

/-- The tables with the ended turn of a negotiation, before the market hears of it. -/
def setEnded (s : Pawnhouse) (nid : String) (row : NegotiationRow) (n : Negotiation)
    (now : UtcDateTime) : Pawnhouse :=
  (s.setTurn nid row n now).setPairingStatus row.pairingId n.status

/-- The pairing of a negotiation that ended. -/
theorem setEnded_pairing {row : NegotiationRow} {n : Negotiation} {p : PairingRow}
    (h : s.pairings.get row.pairingId = some p) :
    (s.setEnded nid row n now).pairings.get row.pairingId = some { p with status := n.status } := by
  have heq : (s.setEnded nid row n now).pairings = s.pairings.update (fun id _ => id = row.pairingId)
      fun p => { p with status := n.status } := rfl
  rw [heq, Dict.get_update, h]
  simp

theorem finishTurn_eq (intentHash : String → Nat → String) (s : Pawnhouse) (core : ArenaCore)
    (nid resultId : String) (row : NegotiationRow) (n : Negotiation) (authored : Bool)
    (now : UtcDateTime) :
    s.finishTurn intentHash core nid resultId row n authored now =
      if n.status = .negotiating then .ok (s.setTurn nid row n now)
      else do
        let synced ← (s.setEnded nid row n now).syncAgentMarketNegotiation core nid resultId
          authored now
        if n.status = .acceptedPendingSettlement then synced.freezeSettlementIntent intentHash nid
        else return synced := rfl

theorem finish_cases {row : NegotiationRow} {n : Negotiation} {authored : Bool}
    (h : s.finishTurn intentHash core nid resultId row n authored now = .ok s') :
    (n.status = .negotiating ∧ s' = s.setTurn nid row n now) ∨
    (n.status ≠ .negotiating ∧ ∃ synced,
      (s.setEnded nid row n now).syncAgentMarketNegotiation core nid resultId authored now
        = .ok synced ∧
      ((n.status = .acceptedPendingSettlement ∧
          synced.freezeSettlementIntent intentHash nid = .ok s') ∨
        (n.status ≠ .acceptedPendingSettlement ∧ s' = synced))) := by
  rw [finishTurn_eq] at h
  by_cases hrunning : n.status = .negotiating
  · rw [if_pos hrunning] at h
    cases h
    exact Or.inl ⟨hrunning, rfl⟩
  · rw [if_neg hrunning] at h
    obtain ⟨synced, hsync, h⟩ := ok_of_bind h
    refine Or.inr ⟨hrunning, synced, hsync, ?_⟩
    by_cases haccepted : n.status = .acceptedPendingSettlement
    · rw [if_pos haccepted] at h
      exact Or.inl ⟨haccepted, h⟩
    · rw [if_neg haccepted] at h
      cases h
      exact Or.inr ⟨haccepted, rfl⟩

/-- What the freeze of an accepted negotiation needs and does when settlement is on. -/
structure Frozen (intentHash : String → Nat → String) (s : Pawnhouse) (nid : String)
    (n : NegotiationRow) (p : PairingRow) (cash held : Int) (s' : Pawnhouse) : Prop where
  covered : ∃ chainId tokenAddress confirmations price buyer seller intent,
    s.game.authorizationMode = .singleEip3009 chainId tokenAddress confirmations ∧
    n.acceptedPriceAtomic = some price ∧ s.accounts.get n.buyerParticipantId = some buyer ∧
    s.accounts.get n.sellerParticipantId = some seller ∧ (price * p.quantity : Int) ≤ cash ∧
    (p.quantity : Int) ≤ held ∧
    s.settlementIntent intentHash nid n p price chainId tokenAddress confirmations buyer seller
      = .ok intent ∧
    (((s.intents.find? fun e => e.2.intent.negotiationId = nid).isSome ∧
        s' = s.moveEngagement nid .acceptedPendingSettlement .settling) ∨
      ((s.intents.find? fun e => e.2.intent.negotiationId = nid) = none ∧
        s' = (s.startSettlement ("settlement:" ++ nid) intent).moveEngagement nid
          .acceptedPendingSettlement .settling))

theorem freeze_cases (h : s.freezeSettlementIntent intentHash nid = .ok s') :
    ∃ n p cash held, s.negotiations.get nid = some n ∧ s.pairings.get n.pairingId = some p ∧
      s.balances.get n.buyerParticipantId = some cash ∧
      s.holdings.get (n.sellerParticipantId, p.goodId) = some held ∧
      ((s.game.authorizationMode = .none ∧ s' = s.failUnsettled nid n.pairingId) ∨
        Frozen intentHash s nid n p cash held s') := by
  unfold freezeSettlementIntent at h
  cases hn : s.negotiations.get nid with
  | none =>
      rw [hn] at h
      cases h
  | some n =>
      rw [hn] at h
      dsimp only at h
      split at h
      case h_2 => cases h
      case h_1 p _ _ cash hp _ _ hcash =>
        split at h
        case h_1 => cases h
        case h_2 held hheld hmode =>
          cases h
          exact ⟨n, p, cash, held, rfl, hp, hcash, hheld, Or.inl ⟨hmode, rfl⟩⟩
        case h_3 held chainId tokenAddress confirmations hheld hmode =>
          cases hprice : n.acceptedPriceAtomic with
          | none =>
              rw [hprice] at h
              cases h
          | some price =>
              rw [hprice] at h
              dsimp only at h
              split at h
              case h_2 => cases h
              case h_1 buyer seller hbuyer hseller =>
                obtain ⟨-, h⟩ := ok_of_guard h
                obtain ⟨hcovered, h⟩ := ok_of_guard h
                obtain ⟨hstock, h⟩ := ok_of_guard h
                obtain ⟨intent, hintent, h⟩ := ok_of_bind h
                refine ⟨n, p, cash, held, rfl, hp, hcash, hheld, Or.inr ⟨chainId, tokenAddress,
                  confirmations, price, buyer, seller, intent, hmode, hprice, hbuyer, hseller,
                  not_lt.mp hcovered, not_lt.mp hstock, hintent, ?_⟩⟩
                cases hfind : s.intents.find? fun e => e.2.intent.negotiationId = nid with
                | none =>
                    rw [hfind] at h
                    cases h
                    exact Or.inr ⟨rfl, rfl⟩
                | some e =>
                    rw [hfind] at h
                    dsimp only at h
                    split at h
                    · cases h
                    · cases h
                      exact Or.inl ⟨rfl, rfl⟩

/-! ### The action of a turn -/

theorem postInit_of_make {action : NegotiationVerb} {price : Option Nat}
    {message : Option PublicMessage} {a : NegotiationAction}
    (h : NegotiationAction.make action price message = .ok a) : a.postInit = none := by
  obtain ⟨rfl, hpost⟩ := make_ok h
  exact hpost

theorem postInit_negotiationActionOf {given : Action} {a : NegotiationAction}
    (h : negotiationActionOf given = .ok a) : a.postInit = none := by
  cases given with
  | propose price message =>
      obtain ⟨atomic, -, h⟩ := ok_of_bind h
      exact postInit_of_make h
  | accept =>
      have hmake : NegotiationAction.make .accept none none = .ok a := h
      exact postInit_of_make hmake
  | reject message =>
      have hmake : NegotiationAction.make .reject none message = .ok a := h
      exact postInit_of_make hmake
  | buy o => cases h
  | sell o => cases h
  | pass => cases h
  | requestNegotiations l => cases h
  | engage requestId => cases h
  | rejectAll reason => cases h

theorem postInit_boundedAction {p : PairingRow} {role : Role} {n : Negotiation}
    {a : NegotiationAction} (h : a.postInit = none) : (boundedAction p role n a).postInit = none := by
  unfold boundedAction
  split
  · rfl
  · exact h

/-! ### A turn of a running negotiation -/

namespace Live

variable {row : NegotiationRow} {n n' : Negotiation} {a : NegotiationAction}

/-- The machine that a call rebuilds is the one the messages replay to. -/
theorem of_taken {action : Option Action} {row' : NegotiationRow} {n₁ : Negotiation}
    {said : Pawnhouse} (h : s.Live nid row n)
    (ht : TurnTaken s nid resultId action row' n₁ n' said) : row' = row ∧ n₁ = n := by
  have hrow : row' = row := Option.some.inj (ht.stored.symm.trans h.stored)
  subst hrow
  exact ⟨rfl, Except.ok.inj (ht.rebuilt.symm.trans h.rebuild_eq)⟩

/-- The messages after a turn that the machine took. -/
theorem replay_said (h : s.Live nid row n) (ha : a.postInit = none)
    (happly : n.apply n.nextRole a = .ok n') :
    (freshMachine row).replay
      ((s.say (turnMessage nid resultId n.nextRole n' a)).storedOf nid) = .ok n' := by
  rw [storedOf_say_self, Negotiation.replay_concat, h.replayed]
  show (do
    let action ← NegotiationAction.make a.action a.priceAtomic a.message
    n.apply n.nextRole action) = .ok n'
  rw [make_of_postInit ha]
  exact happly

theorem numbered_said (h : s.Live nid row n) (happly : n.apply n.nextRole a = .ok n') :
    ((s.say (turnMessage nid resultId n.nextRole n' a)).storedOf nid).map (·.turnSequence)
      = List.range' 1 n'.turns.length := by
  obtain ⟨status, price, rfl⟩ := Negotiation.apply_shape happly
  rw [storedOf_say_self, List.map_append, h.numbered]
  simp [turnMessage, Negotiation.push, List.range'_concat, Nat.add_comm]

/-- A result without an action ends a running negotiation. -/
theorem turn_none (h : s.Live nid row n) (hunspoken : ¬ s.spoken resultId) :
    s.applyHostedNegotiationAction intentHash core nid resultId none now
      = s.finishTurn intentHash core nid resultId row n.expire false now := by
  unfold applyHostedNegotiationAction
  simp only [h.stored]
  rw [if_neg (fun hc => hunspoken ((any_spoken s resultId).mp hc)), if_neg (by simp [h.running]),
    h.rebuild_eq]
  rfl

/-- A result with an action takes one turn of a running negotiation. -/
theorem turn_some (h : s.Live nid row n) (hunspoken : ¬ s.spoken resultId) {p : PairingRow}
    (hp : s.pairings.get row.pairingId = some p) (given : Action) :
    s.applyHostedNegotiationAction intentHash core nid resultId (some given) now = (do
      let a ← negotiationActionOf given
      let n' ← n.apply n.nextRole (boundedAction p n.nextRole n a)
      (s.say (turnMessage nid resultId n.nextRole n' (boundedAction p n.nextRole n a))).finishTurn
        intentHash core nid resultId row n' true now) := by
  unfold applyHostedNegotiationAction
  simp only [h.stored]
  rw [if_neg (fun hc => hunspoken ((any_spoken s resultId).mp hc)), if_neg (by simp [h.running]),
    h.rebuild_eq]
  simp only [bind, Except.bind, h.nextRole, hp]
  rfl

/-- After a proposal the negotiation runs on. -/
theorem proposed (h : s.Live nid row n) (ha : a.postInit = none)
    (happly : n.apply n.nextRole a = .ok n') (hb : n'.Bargaining) :
    ((s.say (turnMessage nid resultId n.nextRole n' a)).setTurn nid row n' now).Live nid
      ((s.say (turnMessage nid resultId n.nextRole n' a)).turnRow row n' now) n' where
  stored := Dict.get_set_self _ _ _
  running := hb.running
  partiesDiffer := h.partiesDiffer
  turnsBounded := h.turnsBounded
  numbered := h.numbered_said happly
  replayed := h.replay_said ha happly
  bargaining := hb
  nextRole := if_pos hb.running
  turnCount := rfl

end Live

/-! ### What the end of a negotiation writes on the market -/

/-- `s` with the market tables of `t`. -/
def withMarketOf (s t : Pawnhouse) : Pawnhouse :=
  { s with
    engagements := t.engagements
    marketIntents := t.marketIntents
    sessions := t.sessions
    requests := t.requests
    slots := t.slots
    deals := t.deals
    resultApplications := t.resultApplications }

/-- `t` differs from `s` in the market tables only. -/
def OnMarket (s t : Pawnhouse) : Prop :=
  t = s.withMarketOf t

namespace OnMarket

variable {t u : Pawnhouse}

theorem refl (s : Pawnhouse) : OnMarket s s := rfl

theorem trans (h : OnMarket s t) (h' : OnMarket t u) : OnMarket s u := by
  have ht : t = s.withMarketOf t := h
  have hu : u = t.withMarketOf u := h'
  calc u = t.withMarketOf u := hu
    _ = (s.withMarketOf t).withMarketOf u := congrArg (fun x => withMarketOf x u) ht
    _ = s.withMarketOf u := rfl

end OnMarket

theorem claim_onMarket {row : ResultApplication}
    (h : s.claimNegotiationResult core resultId row = .ok s') : OnMarket s s' := by
  unfold claimNegotiationResult at h
  obtain ⟨-, h⟩ := ok_of_guard h
  split at h
  · split at h
    · cases h
      exact OnMarket.refl s
    · cases h
  · obtain ⟨-, h⟩ := ok_of_guard h
    cases h
    rfl

theorem insertDeal_onMarket (s : Pawnhouse) (engagementId : String) (deal : MarketDeal) :
    OnMarket s (s.insertDeal engagementId deal) := by
  unfold insertDeal
  split
  · exact OnMarket.refl s
  · rfl

theorem closeDealt_onMarket (s : Pawnhouse) (nid engagementId buyerIntentId : String) :
    OnMarket s (((s.moveEngagement nid .negotiating .acceptedPendingSettlement).moveSlots
      engagementId ⟨.consumed, some engagementId⟩).closeSession buyerIntentId .completed) := rfl

theorem freezeDeal_onMarket {engagementId : String} {e : Engagement} {r : RequestRow}
    {accepted : Option Nat}
    (h : s.freezeDeal core engagementId e r resultId accepted = .ok s') : OnMarket s s' := by
  unfold freezeDeal at h
  dsimp only at h
  split at h
  case h_2 => cases h
  case h_1 proposal acceptance price _ _ =>
    obtain ⟨s₁, h₁, h⟩ := ok_of_bind h
    obtain ⟨s₂, h₂, h⟩ := ok_of_bind h
    cases h
    have hfirst : OnMarket s s₁ := by
      split at h₁
      · cases h₁
        exact OnMarket.refl s
      · exact claim_onMarket h₁
    refine OnMarket.trans ?_ (closeDealt_onMarket _ _ _ _)
    exact (hfirst.trans (claim_onMarket h₂)).trans (insertDeal_onMarket s₂ _ _)

theorem sync_onMarket {authored : Bool}
    (h : s.syncAgentMarketNegotiation core nid resultId authored now = .ok s') : OnMarket s s' := by
  unfold syncAgentMarketNegotiation at h
  split at h
  · cases h
    exact OnMarket.refl s
  · split at h
    · split at h
      · exact freezeDeal_onMarket h
      · obtain ⟨s₁, h₁, h⟩ := ok_of_bind h
        cases h
        have hfirst : OnMarket s s₁ := by
          split at h₁
          · cases h₁
            exact OnMarket.refl s
          · exact claim_onMarket h₁
        exact hfirst.trans rfl
      · cases h
        rfl
      · cases h
        exact OnMarket.refl s
    · cases h
      exact OnMarket.refl s

/-! ### What a turn keeps -/

theorem failUnsettled_pairings (s : Pawnhouse) (nid pairingId : String) :
    (s.failUnsettled nid pairingId).pairings = s.pairings.update
      (fun id p => id = pairingId && p.status = .acceptedPendingSettlement)
      fun p => { p with status := .settlementFailed } := rfl

theorem failUnsettled_negotiations (s : Pawnhouse) (nid pairingId : String) :
    (s.failUnsettled nid pairingId).negotiations = s.negotiations.update
      (fun id n => id = nid && n.status = .acceptedPendingSettlement)
      fun n => { n with
        status := .settlementFailed
        nextRole := none } := rfl

theorem startSettlement_pairings (s : Pawnhouse) (intentId : String) (intent : SettlementIntent) :
    (s.startSettlement intentId intent).pairings = s.pairings.update
      (fun id p => id = intent.pairingId && p.status = .acceptedPendingSettlement)
      fun p => { p with status := .settling } := rfl

theorem startSettlement_participants (s : Pawnhouse) (intentId : String)
    (intent : SettlementIntent) :
    (s.startSettlement intentId intent).participants = s.participants.update
      (fun id p => (id = intent.buyerParticipantId || id = intent.sellerParticipantId) &&
        p.status = .active)
      fun p => { p with status := .settling } := rfl

/-- What a call for the negotiation `nid` leaves as it was. -/
structure Kept (nid : String) (s s' : Pawnhouse) : Prop where
  game : s'.game = s.game
  balances : s'.balances = s.balances
  holdings : s'.holdings = s.holdings
  accounts : s'.accounts = s.accounts
  poolEntries : s'.poolEntries = s.poolEntries
  participants : ∀ id, (s'.participants.get id).isSome = (s.participants.get id).isSome
  rows : ∀ id, id ≠ nid → s'.negotiations.get id = s.negotiations.get id
  row : (s.negotiations.get nid).isSome → (s'.negotiations.get nid).isSome
  stored : ∀ id, id ≠ nid → s'.storedOf id = s.storedOf id
  said : ∀ m ∈ s'.messages, m ∈ s.messages ∨ m.negotiationId = nid
  pairings : ∀ id p, s.pairings.get id = some p →
    ∃ status, s'.pairings.get id = some { p with status := status }
  intents : ∀ e ∈ s'.intents, e ∈ s.intents ∨ e.2.intent.negotiationId = nid

namespace Kept

variable {t u : Pawnhouse}

theorem refl (nid : String) (s : Pawnhouse) : Kept nid s s where
  game := rfl
  balances := rfl
  holdings := rfl
  accounts := rfl
  poolEntries := rfl
  participants := fun _ => rfl
  rows := fun _ _ => rfl
  row := fun h => h
  stored := fun _ _ => rfl
  said := fun _ h => Or.inl h
  pairings := fun _ p h => ⟨p.status, h⟩
  intents := fun _ h => Or.inl h

theorem trans (h : Kept nid s t) (h' : Kept nid t u) : Kept nid s u where
  game := h'.game.trans h.game
  balances := h'.balances.trans h.balances
  holdings := h'.holdings.trans h.holdings
  accounts := h'.accounts.trans h.accounts
  poolEntries := h'.poolEntries.trans h.poolEntries
  participants := fun id => (h'.participants id).trans (h.participants id)
  rows := fun id hid => (h'.rows id hid).trans (h.rows id hid)
  row := fun hs => h'.row (h.row hs)
  stored := fun id hid => (h'.stored id hid).trans (h.stored id hid)
  said := by
    intro m hm
    rcases h'.said m hm with hm | hm
    · exact h.said m hm
    · exact Or.inr hm
  pairings := by
    intro id p hp
    obtain ⟨status, hp⟩ := h.pairings id p hp
    obtain ⟨status', hp⟩ := h'.pairings id _ hp
    exact ⟨status', hp⟩
  intents := by
    intro e he
    rcases h'.intents e he with he | he
    · exact h.intents e he
    · exact Or.inr he

/-- Tables that share what is not on the market. -/
theorem of_onMarket (h : OnMarket s t) (nid : String) : Kept nid s t := by
  have ht : t = s.withMarketOf t := h
  rw [ht]
  exact { refl nid s with }

theorem say {m : NegotiationMessage} (h : m.negotiationId = nid) (s : Pawnhouse) :
    Kept nid s (s.say m) :=
  { refl nid s with
    stored := fun id hid => storedOf_say_ne s m (fun hm => hid (hm.symm.trans h))
    said := by
      intro x hx
      rcases List.mem_append.mp hx with hx | hx
      · exact Or.inl hx
      · rw [List.mem_singleton.mp hx]
        exact Or.inr h }

theorem setTurn (s : Pawnhouse) (nid : String) (row : NegotiationRow) (n : Negotiation)
    (now : UtcDateTime) : Kept nid s (s.setTurn nid row n now) :=
  { refl nid s with
    rows := fun _ hid => Dict.get_set_ne _ _ hid
    row := fun _ => by simp [Pawnhouse.setTurn] }

/-- An update of statuses keeps every pairing. -/
theorem pairings_update {d : Dict String PairingRow} (matching : String → PairingRow → Bool)
    (status : DealStatus) {id : String} {p : PairingRow} (h : d.get id = some p) :
    ∃ st, (d.update matching fun p => { p with status := status }).get id
      = some { p with status := st } := by
  rw [Dict.get_update, h]
  by_cases hm : matching id p = true
  · exact ⟨status, by simp [hm]⟩
  · exact ⟨p.status, by simp [hm]⟩

theorem setPairingStatus (s : Pawnhouse) (nid pairingId : String) (status : DealStatus) :
    Kept nid s (s.setPairingStatus pairingId status) :=
  { refl nid s with
    pairings := by
      intro id p hp
      exact pairings_update (fun id _ => id = pairingId) status hp }

theorem moveEngagement (s : Pawnhouse) (nid negotiationId : String) (old new : DealStatus) :
    Kept nid s (s.moveEngagement negotiationId old new) :=
  { refl nid s with }

theorem failUnsettled (s : Pawnhouse) (nid pairingId : String) :
    Kept nid s (s.failUnsettled nid pairingId) :=
  { refl nid s with
    rows := by
      intro id hid
      rw [failUnsettled_negotiations, Dict.get_update]
      cases s.negotiations.get id with
      | none => rfl
      | some n => simp [hid]
    row := by
      intro hrow
      rw [failUnsettled_negotiations, Dict.get_update, Option.isSome_map]
      exact hrow
    pairings := by
      intro id p hp
      rw [failUnsettled_pairings]
      exact pairings_update _ _ hp }

theorem startSettlement (s : Pawnhouse) (intentId : String) {intent : SettlementIntent}
    (h : intent.negotiationId = nid) : Kept nid s (s.startSettlement intentId intent) :=
  { refl nid s with
    participants := by
      intro id
      rw [startSettlement_participants, Dict.get_update, Option.isSome_map]
    pairings := by
      intro id p hp
      rw [startSettlement_pairings]
      exact pairings_update _ _ hp
    intents := by
      intro e he
      rcases Dict.mem_set he with he | he
      · exact Or.inr (by rw [he]; exact h)
      · exact Or.inl he }

end Kept

/-- An intent names the parties and the good of its negotiation. -/
theorem settlementIntent_fields {n : NegotiationRow} {p : PairingRow} {price chainId : Nat}
    {tokenAddress : String} {confirmations : Nat} {buyer seller : SettlementAccount}
    {intent : SettlementIntent}
    (h : s.settlementIntent intentHash nid n p price chainId tokenAddress confirmations buyer seller
      = .ok intent) :
    intent.negotiationId = nid ∧ intent.pairingId = n.pairingId ∧ intent.roundId = n.roundId ∧
      intent.buyerParticipantId = n.buyerParticipantId ∧
      intent.sellerParticipantId = n.sellerParticipantId ∧ intent.goodId = p.goodId ∧
      intent.quantity = p.quantity ∧ intent.amountAtomic = price * p.quantity := by
  unfold settlementIntent at h
  split at h
  · cases h
    exact ⟨rfl, rfl, rfl, rfl, rfl, rfl, rfl, rfl⟩
  · cases h

theorem freeze_kept (h : s.freezeSettlementIntent intentHash nid = .ok s') : Kept nid s s' := by
  obtain ⟨n, p, cash, held, -, -, -, -, ⟨-, rfl⟩ | hfrozen⟩ := freeze_cases h
  · exact Kept.failUnsettled s nid n.pairingId
  · obtain ⟨_, _, _, _, _, _, intent, -, -, -, -, -, -, hintent, ⟨-, rfl⟩ | ⟨-, rfl⟩⟩ :=
      hfrozen.covered
    · exact Kept.moveEngagement s nid nid _ _
    · exact (Kept.startSettlement s _ (settlementIntent_fields hintent).1).trans
        (Kept.moveEngagement _ nid nid _ _)

theorem finish_kept {row : NegotiationRow} {n : Negotiation} {authored : Bool}
    (h : s.finishTurn intentHash core nid resultId row n authored now = .ok s') :
    Kept nid s s' := by
  rcases finish_cases h with ⟨-, rfl⟩ | ⟨-, synced, hsync, hend⟩
  · exact Kept.setTurn s nid row n now
  · have hsynced : Kept nid s synced :=
      ((Kept.setTurn s nid row n now).trans (Kept.setPairingStatus _ nid row.pairingId n.status)).trans
        (Kept.of_onMarket (sync_onMarket hsync) nid)
    rcases hend with ⟨-, hfreeze⟩ | ⟨-, rfl⟩
    · exact hsynced.trans (freeze_kept hfreeze)
    · exact hsynced

/-- A turn of one negotiation leaves the others alone. -/
theorem turn_kept {action : Option Action}
    (h : s.applyHostedNegotiationAction intentHash core nid resultId action now = .ok s') :
    Kept nid s s' := by
  rcases turn_cases h with ⟨rfl, -⟩ | ⟨row, n, n', said, ht, hfinish⟩
  · exact Kept.refl nid s'
  · rcases ht.taken with ⟨-, -, rfl⟩ | ⟨_, role, p, a, -, -, -, -, -, rfl⟩
    · exact finish_kept hfinish
    · exact (Kept.say rfl s).trans (finish_kept hfinish)

/-! ### The context of a turn -/

/-- What the context of a turn says about its negotiation. -/
structure ContextOf (s : Pawnhouse) (nid : String) (row : NegotiationRow) (role : Role)
    (p : PairingRow) (c : NegotiationContext) : Prop where
  stored : s.negotiations.get nid = some row
  running : row.status = .negotiating
  nextRole : row.nextRole = some role
  pairing : s.pairings.get row.pairingId = some p
  negotiation : c.negotiationId = nid
  roleIs : c.role = role
  participant : c.participantId = (turnOf row role).1
  deadline : c.deadlineAt = row.actionDeadlineAt
  limit : c.limitPriceAtomic = ownLimit p role
  history : c.history = s.messagesOf nid
  quote : c.latestQuote = latestQuote (s.messagesOf nid) role
  sequence : c.turnSequence = row.turnCount + 1
  remaining : c.remainingTurns = row.maxTurns - row.turnCount

theorem context_cases {c : NegotiationContext} (h : s.hostedNegotiationContext nid = .ok (some c)) :
    ∃ row role p, ContextOf s nid row role p c := by
  unfold hostedNegotiationContext at h
  cases hrow : s.negotiations.get nid with
  | none =>
      rw [hrow] at h
      cases h
  | some row =>
      rw [hrow] at h
      dsimp only at h
      by_cases hrunning : row.status ≠ .negotiating
      · rw [if_pos hrunning] at h
        cases h
      rw [if_neg hrunning] at h
      split at h
      case h_2 => cases h
      case h_3 => cases h
      case h_1 role p round hrole hp hround =>
        split at h
        case h_2 => cases h
        case h_1 =>
          cases h
          exact ⟨row, role, p, hrow, not_not.mp hrunning, hrole, hp, rfl, rfl, rfl, rfl, rfl, rfl, rfl,
            rfl, rfl⟩

/-- What the view of a turn shows of its context. -/
theorem negotiateView_cases {c : NegotiationContext} {view : TaskInput}
    (h : negotiateView c = .ok view) :
    ∃ v : ArenaNegotiateInputV1, view = .negotiate v ∧ v.role = c.role ∧
      v.turnSequence = c.turnSequence ∧ v.remainingTurns = c.remainingTurns ∧
      goldPrice? c.limitPriceAtomic = .ok v.limitPrice ∧
      quoteView c.latestQuote = .ok v.latestCounterpartyQuote := by
  obtain ⟨history, -, h⟩ := ok_of_bind h
  obtain ⟨quote, hquote, h⟩ := ok_of_bind h
  obtain ⟨limitPrice, hlimit, h⟩ := ok_of_bind h
  obtain ⟨cash, -, h⟩ := ok_of_bind h
  obtain ⟨inventory, -, h⟩ := ok_of_bind h
  unfold validated at h
  split at h
  · cases h
    exact ⟨_, rfl, rfl, rfl, rfl, hlimit, hquote⟩
  · cases h

/-- The latest quote of a history is its last turn while only proposals were made. -/
theorem latestQuote_of_turns {n : Negotiation} {t : NegotiationTurn}
    {history : List NegotiationMessage} (hb : n.Bargaining)
    (hturns : n.turns = history.map Negotiation.turnOfMessage) (ht : n.turns.getLast? = some t) :
    ∃ m, latestQuote history n.nextRole = some m ∧ m.priceAtomic = t.action.priceAtomic := by
  have hne : n.turns ≠ [] := by
    intro hempty
    rw [hempty] at ht
    cases ht
  obtain ⟨t', price, ht', hrole, hquote⟩ := hb.last hne
  obtain rfl : t' = t := Option.some.inj (ht'.symm.trans ht)
  rcases List.eq_nil_or_concat history with hempty | ⟨rest, m, hm⟩
  · rw [hturns, hempty] at hne
    exact absurd rfl hne
  rw [List.concat_eq_append] at hm
  have hmt : Negotiation.turnOfMessage m = t' := by
    rw [hturns, hm, List.map_append, List.map_singleton, List.getLast?_concat] at ht
    exact Option.some.inj ht
  have hact : m.action = .propose := by
    have haction : m.action = t'.action.action := congrArg (fun x => x.action.action) hmt
    exact haction.trans hquote.1
  have hother : m.actorRole ≠ n.nextRole := by
    have hsame : m.actorRole = t'.role := congrArg (fun x => x.role) hmt
    rw [hsame]
    exact hrole
  refine ⟨m, ?_, congrArg (fun x => x.action.priceAtomic) hmt⟩
  unfold latestQuote
  rw [hm, List.reverse_append, List.reverse_singleton, List.singleton_append, List.find?_cons]
  simp [hact, hother]

namespace Live

variable {row : NegotiationRow} {n : Negotiation} {t : NegotiationTurn}

/-- The last stored message is the last turn. -/
theorem last_message (h : s.Live nid row n) (ht : n.turns.getLast? = some t) :
    ∃ rest m, s.storedOf nid = rest ++ [m] ∧ Negotiation.turnOfMessage m = t ∧
      m.turnSequence = n.turns.length := by
  rcases List.eq_nil_or_concat (s.storedOf nid) with hempty | ⟨rest, m, hm⟩
  · rw [h.turns_eq, hempty] at ht
    cases ht
  rw [List.concat_eq_append] at hm
  have hlast : n.turns.getLast? = some (Negotiation.turnOfMessage m) := by
    rw [h.turns_eq, hm, List.map_append]
    simp
  have hlength : n.turns.length = rest.length + 1 := by
    rw [h.turns_eq, hm]
    simp
  refine ⟨rest, m, hm, Option.some.inj (hlast.symm.trans ht), ?_⟩
  have hnumbered := h.numbered
  rw [hm, List.map_append, hlength, List.range'_concat] at hnumbered
  have hsequence := (List.append_inj' hnumbered rfl).2
  simp only [List.map_cons, List.map_nil, List.cons.injEq, and_true] at hsequence
  omega

/-- The latest quote is the last turn. -/
theorem latestQuote_eq (h : s.Live nid row n) (ht : n.turns.getLast? = some t) :
    ∃ m, latestQuote (s.messagesOf nid) n.nextRole = some m ∧
      m.priceAtomic = t.action.priceAtomic := by
  rw [h.messagesOf_eq]
  exact latestQuote_of_turns h.bargaining h.turns_eq ht

end Live

end Pawnhouse

end Arena402.Game
