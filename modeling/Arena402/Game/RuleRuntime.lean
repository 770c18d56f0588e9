/-
`RuleRuntime`: a participant that follows a fixed rule, and a negotiation between two of them.
-/
import Arena402.Game.Events
import Arena402.Game.NegotiationObject

namespace Arena402.Game

open Py

/-- What a rule decides. -/
inductive RuleIntent
  | buy
  | sell
  | pass
deriving DecidableEq, Repr

/-- The numbers of a rule. -/
structure RuleStrategy where
  intent : RuleIntent
  good : Good
  targetPriceAtomic : Int
  publicMessage : String

/-- A decision and its good. -/
structure RuleDecision where
  action : RuleIntent
  good : Option Good
deriving DecidableEq, Repr

/-- `NegotiationAction(..)`. -/
def ActionFields.construct (a : ActionFields) : Except String CheckedAction :=
  match h : a.postInit with
  | some e => .error e
  | none => .ok ⟨a, h⟩

namespace RuleStrategy

/-- `RuleRuntime.decide` -/
def decide (strategy : RuleStrategy) : RuleDecision where
  action := strategy.intent
  good := if strategy.intent = .pass then none else some strategy.good

/-- The proposal of the target price. -/
def proposal (strategy : RuleStrategy) : ActionFields where
  action := .propose
  priceAtomic := some strategy.targetPriceAtomic
  message := some strategy.publicMessage

/-- Whether a quote meets the target. -/
def acceptable (strategy : RuleStrategy) (role : Role) (quote : Int) : Bool :=
  match role with
  | .buyer => quote ≤ strategy.targetPriceAtomic
  | .seller => strategy.targetPriceAtomic ≤ quote

/-- The message of the last turn without a deal. -/
def farewell : String := "价差未合，今日就此作罢。"

/-- `RuleRuntime.negotiate` -/
def negotiate (strategy : RuleStrategy) (role : Role) (sequence : Int)
    (latestCounterpartyPriceAtomic : Option Int) (maxTurns : Int) : Except String CheckedAction :=
  if sequence = 1 then
    if role ≠ .buyer then .error "buyer must take the first turn"
    else strategy.proposal.construct
  else
    match latestCounterpartyPriceAtomic with
    | none => .error "a response requires a counterparty quote"
    | some quote =>
      if strategy.acceptable role quote then ActionFields.construct { action := .accept }
      else if maxTurns ≤ sequence then
        ActionFields.construct { action := .reject, message := some farewell }
      else strategy.proposal.construct

end RuleStrategy

/-! ### A negotiation between two rules -/

namespace NegotiationObject

/-- The price of the last turn, when it is a proposal. -/
def previousPrice (n : NegotiationObject) : Option Int :=
  match n.turns.getLast? with
  | none => none
  | some t => if t.action.action = .propose then t.action.priceAtomic else none

/-- The strategy of a role. -/
def strategyOf (buyer seller : RuleStrategy) : Role → RuleStrategy
  | .buyer => buyer
  | .seller => seller

/-- The turn of the side to move. -/
def ruleTurn (buyer seller : RuleStrategy) : Method NegotiationObject NumberedTurn := do
  let n ← get
  let action ← Method.check ((strategyOf buyer seller n.nextRole).negotiate n.nextRole
    (n.turns.length + 1) n.previousPrice n.maxTurns)
  apply n.nextRole action

/-- The loop over the turns while the negotiation is active, for some turns at most. -/
def rulePlay (buyer seller : RuleStrategy) : Nat → Method NegotiationObject Unit
  | 0 => pure ()
  | fuel + 1 => do
    let n ← get
    if n.status = .negotiating then do
      let _ ← ruleTurn buyer seller
      rulePlay buyer seller fuel
    else pure ()

end NegotiationObject

end Arena402.Game
