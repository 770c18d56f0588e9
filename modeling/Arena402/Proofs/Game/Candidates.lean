/-
A move that the candidate check lets pass, and what the machine does with it.

The check reads a view, the applicator converts the price and compares it with the author's
limit, and the machine has rules of its own.  They agree on who moves, on the last turn and on
the quote that is accepted.  They agree on a price as long as the conversion keeps it: the
check asks for its precision only, and `gold` also refuses what exceeds the Arena bound.
-/
import Arena402.Proofs.Game.TurnReturns

namespace Arena402.Game

open Py Pawnhouse

variable {n n' : Negotiation} {p : PairingRow} {c : NegotiationContext}
variable {history : List NegotiationMessage} {v : ArenaNegotiateInputV1} {a : Action}

/-! ### The view of a turn -/

/-- The negotiation before its first turn. -/
def freshNegotiation (buyer seller : String) (maxTurns : Nat) : Negotiation where
  buyerParticipantId := buyer
  sellerParticipantId := seller
  maxTurns := maxTurns

/-- The context of the turn that a negotiation is at, as `hosted_negotiation_context` fills it
    in; what it says about the parties and the round is `c`'s. -/
def turnContext (c : NegotiationContext) (n : Negotiation) (p : PairingRow)
    (history : List NegotiationMessage) : NegotiationContext :=
  { c with
    role := n.nextRole
    limitPriceAtomic := ownLimit p n.nextRole
    history := history
    latestQuote := latestQuote history n.nextRole
    turnSequence := n.turns.length + 1
    remainingTurns := n.maxTurns - n.turns.length }

/-- The view of such a context shows the turn. -/
theorem shows_turnContext (hb : n.Bargaining)
    (hturns : n.turns = history.map Negotiation.turnOfMessage)
    (hview : negotiateView (turnContext c n p history) = .ok (.negotiate v)) : Shows n p v := by
  obtain ⟨v', hv', hrole, hsequence, hremaining, hlimit, hquote⟩ := negotiateView_cases hview
  obtain rfl := TaskInput.negotiate.inj hv'
  refine ⟨hrole, hsequence, hremaining, hlimit, ?_⟩
  intro q hq
  rw [hq] at hquote
  obtain ⟨m, price, hm, hprice, hgold⟩ := quoteView_some hquote
  have hm' : latestQuote history n.nextRole = some m := hm
  cases hlast : n.turns.getLast? with
  | none =>
      have hempty : history = [] := by
        rw [List.getLast?_eq_none_iff.mp hlast] at hturns
        exact List.map_eq_nil_iff.mp hturns.symm
      rw [hempty] at hm'
      cases hm'
  | some t =>
      obtain ⟨m', hm'', hsame⟩ := latestQuote_of_turns hb hturns hlast
      obtain rfl : m' = m := Option.some.inj (hm''.symm.trans hm')
      exact ⟨t, price, rfl, hsame.symm.trans hprice, hgold⟩

/-! ### Taken moves -/

/-- The action can be constructed, nothing stands in for it, and the machine takes it. -/
structure Taken (n : Negotiation) (p : PairingRow) (a : Action) (move : NegotiationAction)
    (n' : Negotiation) : Prop where
  constructed : negotiationActionOf a = .ok move
  inside : outsideLimit n.nextRole (ownLimit p n.nextRole) (quotePrice n move) = false
  applied : n.apply n.nextRole move = .ok n'

/-- What a move needs beyond its check: a proposal within the Arena bound, and within its
    author's limit where the limit has more digits than the decimal context. -/
def Converts (n : Negotiation) (p : PairingRow) : Action → Prop
  | .propose price _ => (atomicProduct price.value).toNat ≤ maxGoldAtomic ∧
      ∀ limit, ownLimit p n.nextRole = some limit → ¬ Short limit →
        outsideLimit n.nextRole (some limit) (some (atomicProduct price.value).toNat) = false
  | _ => True

/-- The moves of a negotiation. -/
def IsMove (a : Action) : Prop :=
  (∃ price message, a = .propose price message) ∨ a = .accept ∨ ∃ message, a = .reject message

theorem propose_taken_iff (hb : n.Bargaining) (hs : Shows n p v) {price : PositiveFixedDecimal}
    {message : PublicMessage} (hv : negotiationViolation v (.propose price message) = none) :
    (∃ move n', Taken n p (.propose price message) move n') ↔
      Converts n p (.propose price message) := by
  obtain ⟨hremaining, hprecision, hcross⟩ := proposal_checked hv
  have hgold := goldOf_of_precision hprecision
  constructor
  · rintro ⟨move, n', htaken⟩
    obtain ⟨atomic, hatomic, hmake⟩ := ok_of_bind htaken.constructed
    obtain ⟨rfl, -⟩ := make_ok hmake
    have hbound : ¬ maxGoldAtomic < (atomicProduct price.value).toNat := by
      intro hc
      rw [hgold, if_pos hc] at hatomic
      cases hatomic
    rw [hgold, if_neg hbound] at hatomic
    obtain rfl := Except.ok.inj hatomic
    refine ⟨not_lt.mp hbound, ?_⟩
    intro limit hlimit _
    rw [← hlimit]
    exact htaken.inside
  · rintro ⟨hbound, hlong⟩
    rw [if_neg (not_lt.mpr hbound)] at hgold
    have hpos := atomicProduct_pos hprecision
    have hinside : outsideLimit n.nextRole (ownLimit p n.nextRole)
        (some (atomicProduct price.value).toNat) = false := by
      by_cases hshort : ∀ limit, ownLimit p n.nextRole = some limit → Short limit
      · exact proposal_within_limit hs hshort hprecision hcross
      · obtain ⟨limit, hnot⟩ := not_forall.mp hshort
        obtain ⟨hlimit, hnot⟩ := Classical.not_imp.mp hnot
        rw [hlimit]
        exact hlong limit hlimit hnot
    have hturns : n.turns.length + 1 < n.maxTurns := by
      have hleft := hb.turnLeft
      rw [hs.remaining] at hremaining
      omega
    obtain ⟨happly, -⟩ := hb.apply_propose
      (a := ⟨.propose, some (atomicProduct price.value).toNat, some message⟩) ⟨rfl, rfl, hpos⟩ hturns
    exact ⟨_, _, negotiationActionOf_propose hgold hpos, hinside, happly⟩

theorem accept_taken (hb : n.Bargaining) (hs : Shows n p v)
    (hv : negotiationViolation v .accept = none) : ∃ move n', Taken n p .accept move n' := by
  obtain ⟨hsequence, q, hq, hcross⟩ := acceptance_checked hv
  have hne : n.turns ≠ [] := by
    intro hempty
    have hseq := hs.sequence
    rw [hempty] at hseq
    exact hsequence hseq
  obtain ⟨t, price, ht, -, -, happly⟩ := hb.apply_accept (a := ⟨.accept, none, none⟩) rfl hne
  refine ⟨⟨.accept, none, none⟩, _, rfl, ?_, happly⟩
  have hprice : quotePrice n ⟨.accept, none, none⟩ = t.action.priceAtomic := by
    unfold quotePrice
    rw [if_pos rfl, ht]
    rfl
  rw [hprice]
  exact quote_within_limit hs hq ht hcross

theorem reject_taken (hb : n.Bargaining) (hs : Shows n p v) {message : Option PublicMessage}
    (hv : negotiationViolation v (.reject message) = none) :
    ∃ move n', Taken n p (.reject message) move n' := by
  have hne : n.turns ≠ [] := by
    intro hempty
    have hsequence := hs.sequence
    rw [hempty] at hsequence
    exact rejection_checked hv hsequence
  refine ⟨⟨.reject, none, message⟩, _, rfl, ?_, hb.apply_reject rfl hne⟩
  rw [show quotePrice n ⟨.reject, none, message⟩ = none from rfl]
  cases ownLimit p n.nextRole with
  | none => rfl
  | some limit => rfl

/-- **A move without a violation is taken as it is exactly when its price converts.** -/
theorem candidate_taken_iff {buyer seller : String} {maxTurns : Nat}
    (hfresh : (freshNegotiation buyer seller maxTurns).postInit = none)
    (hreplay : (freshNegotiation buyer seller maxTurns).replay history = .ok n)
    (hactive : n.status = .negotiating)
    (hview : negotiateView (turnContext c n p history) = .ok (.negotiate v)) (hmove : IsMove a)
    (hv : negotiationViolation v a = none) :
    (∃ move n', Taken n p a move n') ↔ Converts n p a := by
  have hmax : 0 < maxTurns := by
    by_contra hzero
    obtain rfl : maxTurns = 0 := by omega
    cases hfresh
  have hb : n.Bargaining :=
    Negotiation.bargaining_of_replay history _ (Negotiation.bargaining_fresh hmax) hreplay hactive
  have hturns : n.turns = history.map Negotiation.turnOfMessage := by
    have hall := (Negotiation.replay_turns history _ hreplay).1
    simpa [freshNegotiation] using hall
  have hs := shows_turnContext hb hturns hview
  rcases hmove with ⟨price, message, rfl⟩ | rfl | ⟨message, rfl⟩
  · exact propose_taken_iff hb hs hv
  · exact iff_of_true (accept_taken hb hs hv) trivial
  · exact iff_of_true (reject_taken hb hs hv) trivial

namespace Haggling

def words : PublicMessage where
  text := "deal"
  minLength := by decide
  maxLength := by decide
  visible := by decide

/-- The buyer's opening at 2.5 gold. -/
def opening : NegotiationMessage where
  negotiationId := "negotiation"
  sourceResultId := "result"
  turnSequence := 1
  actorRole := .buyer
  action := .propose
  priceAtomic := some 2500000
  publicMessage := some words

/-- The negotiation after the opening. -/
def opened : Negotiation :=
  (freshNegotiation "buyer" "seller" 3).push .buyer ⟨.propose, some 2500000, some words⟩
    .negotiating none

/-- A pairing without limits. -/
def pairing : PairingRow where
  roundId := "round"
  goodId := "grain"
  buyerEntryId := "entry-1"
  sellerEntryId := "entry-2"
  buyerParticipantId := "buyer"
  sellerParticipantId := "seller"
  pairingSequence := 1
  quantity := 1
  buyerLimitPriceAtomic := none
  sellerLimitPriceAtomic := none

/-- The seller's turn. -/
def context : NegotiationContext :=
  turnContext
    { round := ⟨"game", "round", 1, 1, []⟩
      deadlineAt := 100
      participantId := "seller"
      negotiationId := "negotiation"
      role := .seller
      good := "grain"
      quantity := 1
      limitPriceAtomic := none
      cashAtomic := 0
      inventoryAvailable := 1
      counterpartyAgentId := "agent"
      counterpartyName := "Agent"
      counterpartyFailedNegotiations := 0
      history := []
      latestQuote := none
      turnSequence := 2
      remainingTurns := 2
      configSnapshot := [] }
    opened pairing [opening]

/-- Whether the view can be built and a move on it has no violation. -/
def checked (a : Action) : Bool :=
  match negotiateView context with
  | .ok (.negotiate v) => (negotiationViolation v a).isNone
  | _ => false

theorem checked_view {a : Action} (h : checked a = true) :
    ∃ v, negotiateView context = .ok (.negotiate v) ∧ negotiationViolation v a = none := by
  unfold checked at h
  split at h
  · rename_i v hv
    exact ⟨v, hv, Option.isNone_iff_eq_none.mp h⟩
  · cases h

theorem opened_reached :
    (freshNegotiation "buyer" "seller" 3).replay [opening] = .ok opened := rfl

/-- The seller asks for more than the Arena bound, and the check lets it pass. -/
theorem oversized_proposal_not_taken :
    (freshNegotiation "buyer" "seller" 3).replay [opening] = .ok opened ∧
      opened.status = .negotiating ∧
      ∃ v, negotiateView context = .ok (.negotiate v) ∧
        negotiationViolation v (.propose oversizedPrice words) = none ∧
        negotiationActionOf (.propose oversizedPrice words) = .error MoneyError.exceedsBound.message ∧
        ¬ ∃ move n', Taken opened pairing (.propose oversizedPrice words) move n' := by
  refine ⟨opened_reached, rfl, ?_⟩
  obtain ⟨v, hv, hchecked⟩ := checked_view (a := .propose oversizedPrice words) (by decide)
  have hprecision : hasArenaMoneyPrecision oversizedPrice.value = true := by decide
  have hbound : maxGoldAtomic < (atomicProduct oversizedPrice.value).toNat := by decide
  have hraise : negotiationActionOf (.propose oversizedPrice words)
      = .error MoneyError.exceedsBound.message := by
    show (do
      let found ← goldOf oversizedPrice
      NegotiationAction.make .propose (some found) (some words)) = _
    rw [goldOf_of_precision hprecision, if_pos hbound]
    rfl
  refine ⟨v, hv, hchecked, hraise, ?_⟩
  rintro ⟨move, n', htaken⟩
  rw [htaken.constructed] at hraise
  cases hraise

/-- The seller accepts. -/
theorem acceptance_taken :
    ∃ move n', Taken opened pairing .accept move n' := by
  obtain ⟨v, hv, hchecked⟩ := checked_view (a := .accept) (by decide)
  exact (candidate_taken_iff rfl opened_reached rfl hv (Or.inr (Or.inl rfl)) hchecked).mpr trivial

end Haggling

end Arena402.Game
