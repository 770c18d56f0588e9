/-
The bounded negotiation between one buyer and one seller.

The buyer opens with a proposal, the roles alternate, and the last turn accepts or rejects.
The repository rebuilds the machine from the stored messages before it applies the next
action.
-/
import Arena402.Game.Tables

namespace Arena402.Game

/-- An action of one turn.  The message is the wire type, so its length and visibility need
    no check here. -/
structure NegotiationAction where
  action : NegotiationVerb
  priceAtomic : Option Nat := none
  message : Option PublicMessage := none

/-- `NegotiationAction.__post_init__`: the message it raises with. -/
def NegotiationAction.postInit (a : NegotiationAction) : Option String :=
  match a.action with
  | .propose =>
    if a.priceAtomic.all (· = 0) then some "propose requires a positive price"
    else if a.message.isNone then some "propose requires a public message"
    else none
  | .accept =>
    if a.priceAtomic.isSome then some "accept cannot include a price"
    else if a.message.isSome then some "accept cannot include a message"
    else none
  | .reject => if a.priceAtomic.isSome then some "reject cannot include a price" else none

/-- `NegotiationAction(..)`. -/
def NegotiationAction.make (action : NegotiationVerb) (priceAtomic : Option Nat)
    (message : Option PublicMessage) : Except String NegotiationAction :=
  let a : NegotiationAction := ⟨action, priceAtomic, message⟩
  match a.postInit with
  | some e => .error e
  | none => .ok a

/-- A turn of one side. -/
structure NegotiationTurn where
  role : Role
  action : NegotiationAction

/-- The machine; the sequence number of a turn is its place in the list. -/
structure Negotiation where
  buyerParticipantId : String
  sellerParticipantId : String
  maxTurns : Nat
  status : DealStatus := .negotiating
  turns : List NegotiationTurn := []
  acceptedPriceAtomic : Option Nat := none

namespace Negotiation

/-- `Negotiation.__post_init__`: the message it raises with. -/
def postInit (n : Negotiation) : Option String :=
  if n.maxTurns < 2 || 6 < n.maxTurns then some "max_turns must be between 2 and 6"
  else if n.buyerParticipantId = n.sellerParticipantId then
    some "buyer and seller must be different"
  else none

/-- Whose turn it is. -/
def nextRole (n : Negotiation) : Role :=
  if n.turns.length % 2 = 0 then .buyer else .seller

/-- The machine after a turn. -/
def push (n : Negotiation) (role : Role) (action : NegotiationAction) (status : DealStatus)
    (acceptedPriceAtomic : Option Nat) : Negotiation :=
  { n with
    status := status
    turns := n.turns ++ [⟨role, action⟩]
    acceptedPriceAtomic := acceptedPriceAtomic }

/-- `Negotiation.apply`. -/
def apply (n : Negotiation) (role : Role) (action : NegotiationAction) :
    Except String Negotiation :=
  let sequence := n.turns.length + 1
  if n.status ≠ .negotiating then .error "negotiation is already terminal"
  else if role ≠ n.nextRole then .error "action was submitted out of turn"
  else if n.maxTurns < sequence then .error "negotiation turn limit reached"
  else if sequence = 1 && action.action ≠ .propose then .error "buyer must open with a proposal"
  else if sequence = n.maxTurns && action.action = .propose then
    .error "the last negotiation turn must accept or reject"
  else
    match action.action with
    | .accept =>
      match n.turns.getLast? with
      | none => .error "there is no proposal to accept"
      | some previous =>
        if previous.role = role || previous.action.action ≠ .propose then
          .error "accept must target the counterparty's latest proposal"
        else .ok (n.push role action .acceptedPendingSettlement previous.action.priceAtomic)
    | .reject => .ok (n.push role action .rejected n.acceptedPriceAtomic)
    | .propose => .ok (n.push role action n.status n.acceptedPriceAtomic)

/-- `Negotiation.expire`. -/
def expire (n : Negotiation) : Negotiation :=
  if n.status = .negotiating then { n with status := .timeout } else n

/-- The machine that a list of stored messages leads to. -/
def replay (n : Negotiation) : List NegotiationMessage → Except String Negotiation
  | [] => .ok n
  | m :: rest =>
    match NegotiationAction.make m.action m.priceAtomic m.publicMessage with
    | .error e => .error e
    | .ok action =>
      match n.apply m.actorRole action with
      | .error e => .error e
      | .ok n' => n'.replay rest

end Negotiation

end Arena402.Game
