/-
The negotiation as the object that its methods write.

`apply` and `expire` are translated statement by statement, so that a call which raises shows
what it has written until then.  A turn carries its number, prices are integers and messages
are any text: what an action has to meet is checked when it is constructed, and carried as a
field from there on.
-/
import Arena402.Lib.Method
import Arena402.Game.Negotiation

namespace Arena402.Game

open Py

/-- The arguments of `NegotiationAction(..)`. -/
structure ActionFields where
  action : NegotiationVerb
  priceAtomic : Option Int := none
  message : Option String := none

def NegotiationVerb.wire : NegotiationVerb → String
  | .propose => "propose"
  | .accept => "accept"
  | .reject => "reject"

/-- `not message.strip()`. -/
def isBlank (text : String) : Bool :=
  (strip text.toList).isEmpty

/-- `NegotiationAction.__post_init__`: the message it raises with. -/
def ActionFields.postInit (a : ActionFields) : Option String :=
  if a.action = .propose && a.priceAtomic.all (· ≤ 0) then some "propose requires a positive price"
  else if a.action = .propose && a.message.all isBlank then some "propose requires a public message"
  else if a.action ≠ .propose && a.priceAtomic.isSome then
    some s!"{NegotiationVerb.wire a.action} cannot include a price"
  else if a.action = .accept && a.message.isSome then some "accept cannot include a message"
  else if a.message.any fun m => isBlank m || 100 < m.length then
    some "public negotiation messages must contain 1-100 characters"
  else none

/-- A `NegotiationAction` that was constructed. -/
structure CheckedAction extends ActionFields where
  checked : toActionFields.postInit = none

/-- `NegotiationTurn`. -/
structure NumberedTurn where
  sequence : Nat
  role : Role
  action : CheckedAction

/-- The attributes of a `Negotiation`. -/
structure NegotiationObject where
  negotiationId : String
  buyerParticipantId : String
  sellerParticipantId : String
  maxTurns : Int := 3
  status : DealStatus := .negotiating
  turns : List NumberedTurn := []
  acceptedPriceAtomic : Option Int := none

namespace NegotiationObject

/-- `Negotiation.__post_init__`: the message it raises with. -/
def postInit (n : NegotiationObject) : Option String :=
  if n.maxTurns < 2 || 6 < n.maxTurns then some "max_turns must be between 2 and 6"
  else if n.buyerParticipantId = n.sellerParticipantId then
    some "buyer and seller must be different"
  else none

/-- Whose turn it is. -/
def nextRole (n : NegotiationObject) : Role :=
  if n.turns.length % 2 = 0 then .buyer else .seller

/-- The branch of `apply` on the action: what is written before the turn. -/
def writeStatus (role : Role) (action : CheckedAction) : Method NegotiationObject Unit := do
  let self ← get
  match action.action with
  | .accept =>
    match self.turns.getLast? with
    | none => throw "there is no proposal to accept"
    | some previous =>
      if previous.role = role || previous.action.action ≠ .propose then
        throw "accept must target the counterparty's latest proposal"
      else do
        modify fun n => { n with status := .acceptedPendingSettlement }
        modify fun n => { n with acceptedPriceAtomic := previous.action.priceAtomic }
        pure ()
  | .reject => modify fun n => { n with status := .rejected }
  | .propose => pure ()

/-- `Negotiation.apply`. -/
def apply (role : Role) (action : CheckedAction) : Method NegotiationObject NumberedTurn := do
  let self ← get
  if self.status ≠ .negotiating then throw "negotiation is already terminal"
  else if role ≠ self.nextRole then throw "action was submitted out of turn"
  else
    let sequence := self.turns.length + 1
    if self.maxTurns < sequence then throw "negotiation turn limit reached"
    else if sequence = 1 && action.action ≠ .propose then throw "buyer must open with a proposal"
    else if sequence = self.maxTurns && action.action = .propose then
      throw "the last negotiation turn must accept or reject"
    else do
      writeStatus role action
      let turn : NumberedTurn := ⟨sequence, role, action⟩
      modify fun n => { n with turns := n.turns ++ [turn] }
      pure turn

/-- `Negotiation.expire`. -/
def expire : Method NegotiationObject Unit := do
  let self ← get
  if self.status = .negotiating then modify fun n => { n with status := .timeout }
  else pure ()

/-- A call of one of the methods. -/
inductive Call
  | apply (role : Role) (action : CheckedAction)
  | expire

/-- A call as a method. -/
def Call.method : Call → Method NegotiationObject Unit
  | .apply role action => NegotiationObject.apply role action >>= fun _ => pure ()
  | .expire => NegotiationObject.expire

/-- The object after a sequence of calls, whether they raised or not. -/
def calls (n : NegotiationObject) (l : List Call) : NegotiationObject :=
  l.foldl (fun n c => c.method.after n) n

end NegotiationObject

end Arena402.Game
