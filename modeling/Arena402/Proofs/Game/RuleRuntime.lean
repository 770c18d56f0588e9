/-
How a negotiation between two rules ends.

While it runs, every turn is the proposal of its side's target, and from the second turn on the
targets do not meet (`Quoting`).  So the seller's first answer accepts when the buyer's target is at
least its own, and otherwise the sides repeat themselves until the last turn rejects.
-/
import Arena402.Game.RuleRuntime
import Arena402.Proofs.Game.NegotiationObject

namespace Arena402.Game

open Py

/-! ### Actions that are constructed -/

theorem construct_of_none {a : ActionFields} (h : a.postInit = none) :
    a.construct = .ok ⟨a, h⟩ := by
  unfold ActionFields.construct
  split
  · rename_i e he
    rw [h] at he
    cases he
  · rfl

/-- What a strategy needs to make proposals. -/
structure RuleStrategy.Quotable (strategy : RuleStrategy) : Prop where
  positive : 0 < strategy.targetPriceAtomic
  visible : isBlank strategy.publicMessage = false
  short : strategy.publicMessage.length ≤ 100

theorem RuleStrategy.Quotable.proposal {strategy : RuleStrategy} (h : strategy.Quotable) :
    strategy.proposal.postInit = none := by
  have hpositive : ¬ strategy.targetPriceAtomic ≤ 0 := not_le.mpr h.positive
  have hshort : ¬ 100 < strategy.publicMessage.length := not_lt.mpr h.short
  simp [RuleStrategy.proposal, ActionFields.postInit, hpositive, h.visible, hshort]

/-- The farewell is an admissible message. -/
theorem farewell_postInit :
    ({ action := .reject, message := some RuleStrategy.farewell } : ActionFields).postInit = none := by
  decide

namespace NegotiationObject

variable {n n' : NegotiationObject} {role : Role} {a : CheckedAction} {turn : NumberedTurn}

/-! ### Turns that return -/

/-- Behind its checks a call writes the status and the turn. -/
theorem apply_run (h : InTurn n role a) : (apply role a).run n =
    (writeStatus role a >>= fun _ => do
      modify fun m => { m with turns := m.turns ++ [n.nextTurn role a] }
      pure (n.nextTurn role a)).run n := by
  have hroom : ¬ n.maxTurns < ((n.turns.length + 1 : Nat) : Int) := by
    have := h.room
    push_cast
    omega
  have hopening : ¬ (decide (n.turns.length + 1 = 1) && decide (a.action ≠ .propose)) = true := by
    intro hc
    simp only [Bool.and_eq_true, decide_eq_true_eq] at hc
    exact hc.2 (h.opening (List.length_eq_zero_iff.mp (by omega)))
  have hclosing : ¬ (decide (((n.turns.length + 1 : Nat) : Int) = n.maxTurns) &&
      decide (a.action = .propose)) = true := by
    intro hc
    simp only [Bool.and_eq_true, decide_eq_true_eq] at hc
    push_cast at hc
    exact h.closing hc.1 hc.2
  unfold apply
  simp only [Method.run_get_bind, Method.run_ite, Method.run_throw]
  rw [if_neg (not_not.mpr h.running), if_neg (not_not.mpr h.role), if_neg hroom, if_neg hopening,
    if_neg hclosing]
  rfl

theorem apply_propose (h : InTurn n role a) (ha : a.action = .propose) :
    (apply role a).run n =
      .ok (n.nextTurn role a) (n.push role a n.status n.acceptedPriceAtomic) := by
  rw [apply_run h]
  unfold writeStatus
  rw [ha]
  rfl

theorem apply_reject (h : InTurn n role a) (ha : a.action = .reject) :
    (apply role a).run n = .ok (n.nextTurn role a) (n.push role a .rejected n.acceptedPriceAtomic) := by
  rw [apply_run h]
  unfold writeStatus
  rw [ha]
  rfl

theorem apply_accept (h : InTurn n role a) (ha : a.action = .accept) {previous : NumberedTurn}
    (hlast : n.turns.getLast? = some previous) (hother : previous.role ≠ role)
    (hpropose : previous.action.action = .propose) :
    (apply role a).run n = .ok (n.nextTurn role a)
      (n.push role a .acceptedPendingSettlement previous.action.priceAtomic) := by
  have htarget : ¬ (decide (previous.role = role) ||
      decide (previous.action.action ≠ .propose)) = true := by
    simp [hother, hpropose]
  rw [apply_run h]
  unfold writeStatus
  rw [ha]
  simp only [bind_assoc, Method.run_get_bind, hlast, if_neg htarget]
  rfl

/-! ### Two rules in turn -/

variable {buyer seller : RuleStrategy}

/-- A running negotiation of two rules: the last turn quotes its side's target, and once both have
    quoted the targets do not meet. -/
structure Quoting (buyer seller : RuleStrategy) (n : NegotiationObject) : Prop where
  running : n.status = .negotiating
  room : (n.turns.length : Int) < n.maxTurns
  last : ∀ t, n.turns.getLast? = some t → t.action.action = .propose ∧ t.role ≠ n.nextRole ∧
    t.action.priceAtomic = some (strategyOf buyer seller t.role).targetPriceAtomic
  apart : 2 ≤ n.turns.length → buyer.targetPriceAtomic < seller.targetPriceAtomic

/-- The end of a negotiation of two rules. -/
inductive Ended (buyer seller : RuleStrategy) (n : NegotiationObject) : Prop
  | accepted {price : Int} (status : n.status = .acceptedPendingSettlement)
      (price_eq : n.acceptedPriceAtomic = some price)
      (above : seller.targetPriceAtomic ≤ price) (below : price ≤ buyer.targetPriceAtomic)
  | rejected (status : n.status = .rejected)
      (apart : buyer.targetPriceAtomic < seller.targetPriceAtomic)

theorem nextRole_push (status : DealStatus) (price : Option Int) :
    (n.push role a status price).nextRole ≠ n.nextRole := by
  have hnext : (n.push role a status price).nextRole = roleAt (n.turns.length + 1) := by
    show (if (n.push role a status price).turns.length % 2 = 0 then _ else _) = _
    rw [length_push]
    rfl
  rw [hnext]
  exact (roleAt_ne_succ n.turns.length).symm

theorem Quoting.inTurn (h : Quoting buyer seller n) (hopening : n.turns = [] → a.action = .propose)
    (hclosing : (n.turns.length : Int) + 1 = n.maxTurns → a.action ≠ .propose) :
    InTurn n n.nextRole a := by
  have hroom := h.room
  exact ⟨h.running, rfl, by omega, hopening, hclosing⟩

theorem ruleTurn_of_negotiate {action : CheckedAction}
    (h : (strategyOf buyer seller n.nextRole).negotiate n.nextRole (n.turns.length + 1)
      n.previousPrice n.maxTurns = .ok action) :
    (ruleTurn buyer seller).run n = (apply n.nextRole action).run n := by
  unfold ruleTurn
  rw [Method.run_get_bind, Method.run_check_bind, h]

/-- A side that proposes its target keeps the negotiation quoting. -/
theorem Quoting.proposed (h : Quoting buyer seller n)
    (hquotable : (strategyOf buyer seller n.nextRole).Quotable)
    (hnegotiate : (strategyOf buyer seller n.nextRole).negotiate n.nextRole (n.turns.length + 1)
      n.previousPrice n.maxTurns = (strategyOf buyer seller n.nextRole).proposal.construct)
    (hroom : (n.turns.length : Int) + 1 < n.maxTurns)
    (hapart : 1 ≤ n.turns.length → buyer.targetPriceAtomic < seller.targetPriceAtomic) :
    ∃ t n', (ruleTurn buyer seller).run n = .ok t n' ∧ n'.maxTurns = n.maxTurns ∧
      n'.turns.length = n.turns.length + 1 ∧ Quoting buyer seller n' := by
  rw [construct_of_none hquotable.proposal] at hnegotiate
  have hin := h.inTurn (a := ⟨_, hquotable.proposal⟩) (fun _ => rfl) (fun hlast => by omega)
  refine ⟨_, _, (ruleTurn_of_negotiate hnegotiate).trans (apply_propose hin rfl), rfl, length_push,
    h.running, ?_, ?_, ?_⟩
  · rw [length_push]
    push_cast
    exact hroom
  · intro t ht
    rw [last_push] at ht
    cases ht
    exact ⟨rfl, (nextRole_push _ _).symm, rfl⟩
  · rw [length_push]
    intro htwo
    exact hapart (by omega)

/-- A side accepts what the other one quotes exactly when the targets meet. -/
theorem acceptable_iff {t : NumberedTurn} (hother : t.role ≠ n.nextRole) :
    (strategyOf buyer seller n.nextRole).acceptable n.nextRole
        (strategyOf buyer seller t.role).targetPriceAtomic = true ↔
      seller.targetPriceAtomic ≤ buyer.targetPriceAtomic := by
  cases hnext : n.nextRole with
  | buyer =>
      cases hrole : t.role with
      | buyer => exact absurd (hrole.trans hnext.symm) hother
      | seller => exact decide_eq_true_iff
  | seller =>
      cases hrole : t.role with
      | buyer => exact decide_eq_true_iff
      | seller => exact absurd (hrole.trans hnext.symm) hother

/-- Only the seller can find that the targets meet, since the buyer answers a seller who did not. -/
theorem Quoting.seller_accepts (h : Quoting buyer seller n) (hpos : 1 ≤ n.turns.length)
    (hmeet : seller.targetPriceAtomic ≤ buyer.targetPriceAtomic) : n.nextRole = .seller := by
  cases hnext : n.nextRole with
  | seller => rfl
  | buyer =>
      have heven : n.turns.length % 2 = 0 := by
        unfold nextRole at hnext
        by_contra hodd
        rw [if_neg hodd] at hnext
        cases hnext
      exact absurd (h.apart (by omega)) (not_lt.mpr hmeet)

/-- **One turn of two rules returns, and the negotiation goes on quoting or ends.** -/
theorem Quoting.step (h : Quoting buyer seller n) (hbuyer : buyer.Quotable)
    (hseller : seller.Quotable) (hmax : 2 ≤ n.maxTurns) :
    ∃ t n', (ruleTurn buyer seller).run n = .ok t n' ∧ n'.maxTurns = n.maxTurns ∧
      n'.turns.length = n.turns.length + 1 ∧ (Quoting buyer seller n' ∨ Ended buyer seller n') := by
  have hquotable : ∀ role, (strategyOf buyer seller role).Quotable := by
    intro role
    cases role with
    | buyer => exact hbuyer
    | seller => exact hseller
  cases hlast : n.turns.getLast? with
  | none =>
      have hnil : n.turns = [] := List.getLast?_eq_none_iff.mp hlast
      have hrole : n.nextRole = .buyer := by
        unfold nextRole
        rw [hnil]
        rfl
      have hnegotiate : (strategyOf buyer seller n.nextRole).negotiate n.nextRole
          (n.turns.length + 1) n.previousPrice n.maxTurns =
            (strategyOf buyer seller n.nextRole).proposal.construct := by
        rw [hrole, hnil]
        rfl
      have hshort : (n.turns.length : Int) + 1 < n.maxTurns := by
        rw [hnil]
        exact_mod_cast hmax
      obtain ⟨t, n', hrun, hsame, hlength, hquoting⟩ := h.proposed (hquotable _) hnegotiate hshort
        (by rw [hnil]; intro hc; exact absurd hc (by decide))
      exact ⟨t, n', hrun, hsame, hlength, Or.inl hquoting⟩
  | some t =>
      obtain ⟨hpropose, hother, hprice⟩ := h.last t hlast
      have hnonempty : n.turns ≠ [] := by
        intro hc
        rw [hc] at hlast
        cases hlast
      have hpos : 1 ≤ n.turns.length := List.length_pos_iff.mpr hnonempty
      have hprevious : n.previousPrice = some (strategyOf buyer seller t.role).targetPriceAtomic := by
        unfold previousPrice
        rw [hlast]
        dsimp only
        rw [if_pos hpropose, hprice]
      have hfirst : ¬ (n.turns.length : Int) + 1 = 1 := by omega
      by_cases haccept : (strategyOf buyer seller n.nextRole).acceptable n.nextRole
          (strategyOf buyer seller t.role).targetPriceAtomic = true
      · -- the other side's target is within this side's one
        have hnegotiate : (strategyOf buyer seller n.nextRole).negotiate n.nextRole
            (n.turns.length + 1) n.previousPrice n.maxTurns =
              .ok ⟨{ action := .accept }, rfl⟩ := by
          unfold RuleStrategy.negotiate
          rw [if_neg hfirst, hprevious]
          dsimp only
          rw [if_pos haccept]
          rfl
        have hin := h.inTurn (a := ⟨{ action := .accept }, rfl⟩) (fun hc => absurd hc hnonempty)
          (fun _ hc => by cases hc)
        refine ⟨_, _, (ruleTurn_of_negotiate hnegotiate).trans
          (apply_accept hin rfl hlast hother hpropose), rfl, length_push, Or.inr ?_⟩
        have hmeet := (acceptable_iff hother).mp haccept
        have hseller := h.seller_accepts hpos hmeet
        have hbuyer : t.role = .buyer := by
          cases hrole : t.role with
          | buyer => rfl
          | seller => exact absurd (hrole.trans hseller.symm) hother
        rw [hbuyer] at hprice
        exact .accepted rfl hprice hmeet (le_refl _)
      · have hapart : buyer.targetPriceAtomic < seller.targetPriceAtomic :=
          not_le.mp (mt (acceptable_iff hother).mpr haccept)
        by_cases hlastTurn : n.maxTurns ≤ (n.turns.length : Int) + 1
        · have hnegotiate : (strategyOf buyer seller n.nextRole).negotiate n.nextRole
              (n.turns.length + 1) n.previousPrice n.maxTurns = .ok ⟨_, farewell_postInit⟩ := by
            unfold RuleStrategy.negotiate
            rw [if_neg hfirst, hprevious]
            dsimp only
            rw [if_neg haccept, if_pos hlastTurn, construct_of_none farewell_postInit]
          have hin := h.inTurn (a := ⟨_, farewell_postInit⟩) (fun hc => absurd hc hnonempty)
            (fun _ hc => by cases hc)
          exact ⟨_, _, (ruleTurn_of_negotiate hnegotiate).trans (apply_reject hin rfl), rfl,
            length_push, Or.inr (.rejected rfl hapart)⟩
        · have hnegotiate : (strategyOf buyer seller n.nextRole).negotiate n.nextRole
              (n.turns.length + 1) n.previousPrice n.maxTurns =
                (strategyOf buyer seller n.nextRole).proposal.construct := by
            unfold RuleStrategy.negotiate
            rw [if_neg hfirst, hprevious]
            dsimp only
            rw [if_neg haccept, if_neg hlastTurn]
          obtain ⟨t', n', hrun, hsame, hlength, hquoting⟩ := h.proposed (hquotable _) hnegotiate
            (not_le.mp hlastTurn) fun _ => hapart
          exact ⟨t', n', hrun, hsame, hlength, Or.inl hquoting⟩

theorem Ended.not_running (h : Ended buyer seller n) : n.status ≠ .negotiating := by
  cases h with
  | accepted status | rejected status => simp [status]

/-- The loop ends, within the turns that are left. -/
theorem rulePlay_ends (hbuyer : buyer.Quotable) (hseller : seller.Quotable) :
    ∀ (fuel : Nat) {n : NegotiationObject}, 2 ≤ n.maxTurns →
      Quoting buyer seller n → n.maxTurns ≤ n.turns.length + fuel →
        ∃ n', (rulePlay buyer seller fuel).run n = .ok () n' ∧ Ended buyer seller n' ∧
          (n'.turns.length : Int) ≤ n.maxTurns := by
  intro fuel
  induction fuel with
  | zero =>
      intro n _ hquoting hfuel
      have hroom := hquoting.room
      exact absurd hfuel (by push_cast; omega)
  | succ fuel ih =>
      intro n hmax hquoting hfuel
      obtain ⟨t, n', hrun, hsame, hlength, hnext⟩ := hquoting.step hbuyer hseller hmax
      have hroom := hquoting.room
      have hplay : (rulePlay buyer seller (fuel + 1)).run n = (rulePlay buyer seller fuel).run n' := by
        rw [rulePlay, Method.run_get_bind, if_pos hquoting.running, Method.run_bind, hrun]
      rw [hplay]
      rcases hnext with hnext | hended
      · rw [← hsame] at hmax hfuel ⊢
        exact ih hmax hnext (by rw [hlength]; push_cast at hfuel ⊢; omega)
      · refine ⟨n', ?_, hended, by rw [hlength]; push_cast; omega⟩
        cases fuel with
        | zero => rfl
        | succ fuel =>
            rw [rulePlay, Method.run_get_bind, if_neg hended.not_running]
            rfl

theorem quoting_fresh (id buyerId sellerId : String) {maxTurns : Int} (h : 2 ≤ maxTurns) :
    Quoting buyer seller ⟨id, buyerId, sellerId, maxTurns, .negotiating, [], none⟩ where
  running := rfl
  room := by
    show (0 : Int) < maxTurns
    omega
  last t ht := by cases ht
  apart hc := by
    have htwo : 2 ≤ 0 := hc
    omega

/-- **Two rules with positive targets and visible messages of at most a hundred characters never raise,
    end within the turn limit, and accept exactly when the buyer's target is at least the seller's, at a
    price between the two; otherwise they reject.** -/
theorem rules_negotiate (id buyerId sellerId : String) (maxTurns : Int) (buyer seller : RuleStrategy)
    (hmax : 2 ≤ maxTurns ∧ maxTurns ≤ 6) (hbuyer : buyer.Quotable) (hseller : seller.Quotable) :
    ∃ n, (rulePlay buyer seller maxTurns.toNat).run
        ⟨id, buyerId, sellerId, maxTurns, .negotiating, [], none⟩ = .ok () n ∧
      (n.turns.length : Int) ≤ maxTurns ∧
      (n.status = .acceptedPendingSettlement ↔
        seller.targetPriceAtomic ≤ buyer.targetPriceAtomic) ∧
      (n.status = .acceptedPendingSettlement → ∃ price, n.acceptedPriceAtomic = some price ∧
        seller.targetPriceAtomic ≤ price ∧ price ≤ buyer.targetPriceAtomic) ∧
      (n.status ≠ .acceptedPendingSettlement → n.status = .rejected) := by
  obtain ⟨n, hrun, hended, hlength⟩ := rulePlay_ends hbuyer hseller maxTurns.toNat
    (n := ⟨id, buyerId, sellerId, maxTurns, .negotiating, [], none⟩) hmax.1
    (quoting_fresh id buyerId sellerId hmax.1) (by
      show maxTurns ≤ ((0 : Nat) : Int) + (maxTurns.toNat : Int)
      omega)
  refine ⟨n, hrun, hlength, ?_⟩
  cases hended with
  | accepted status price_eq above below =>
      refine ⟨iff_of_true status (le_trans above below), fun _ => ⟨_, price_eq, above, below⟩, ?_⟩
      exact fun hc => absurd status hc
  | rejected status apart =>
      have hnot : n.status ≠ .acceptedPendingSettlement := by simp [status]
      exact ⟨iff_of_false hnot (not_le.mpr apart), fun hc => absurd hc hnot, fun _ => status⟩

/-! ### A blank message -/

namespace Example

def ironBuyer : RuleStrategy where
  intent := .buy
  good := .iron
  targetPriceAtomic := 7
  publicMessage := "七金以内，愿当场成交。"

def ironSeller : RuleStrategy where
  intent := .sell
  good := .iron
  targetPriceAtomic := 6
  publicMessage := "六金即可交货。"

end Example

/-- The seller takes the seven that the buyer offers. -/
theorem rules_negotiate_meet : ∃ n, (rulePlay Example.ironBuyer Example.ironSeller 3).run
    ⟨"neg", "buyer", "seller", 3, .negotiating, [], none⟩ = .ok () n ∧
      n.status = .acceptedPendingSettlement := by
  obtain ⟨n, hrun, -, hiff, -⟩ := rules_negotiate "neg" "buyer" "seller" 3 Example.ironBuyer
    Example.ironSeller (by decide) ⟨by decide, by decide, by decide⟩ ⟨by decide, by decide, by decide⟩
  exact ⟨n, hrun, hiff.mpr (by decide)⟩

/-- A buyer whose message is one blank raises with its first proposal. -/
theorem blank_message_raises :
    ({ Example.ironBuyer with publicMessage := " " } : RuleStrategy).publicMessage.length = 1 ∧
      (rulePlay { Example.ironBuyer with publicMessage := " " } Example.ironSeller 3).run
        ⟨"neg", "buyer", "seller", 3, .negotiating, [], none⟩ =
          .error "propose requires a public message"
            ⟨"neg", "buyer", "seller", 3, .negotiating, [], none⟩ := by
  exact ⟨by decide, rfl⟩

end NegotiationObject

end Arena402.Game
