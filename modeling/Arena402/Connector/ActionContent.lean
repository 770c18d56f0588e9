/-
What an action says, on both sides of the wire.

The content of the object the connector returns is read from its fields, the content of an action
of the wire model from the action; two actions are the same when they say the same.  `WireFit` is
what the wire model asks of an answer's messages and ids beyond the connector's own check.
-/
import Arena402.Connector.ArenaAction
import Arena402.Contracts.ActionWire

namespace Arena402.Connector

open Py (Json)

/-- What a request says. -/
structure RequestContent where
  targetIntentId : Option String
  openingPrice : Option (Except String Py.Decimal)
  message : Option String

/-- What an action says. -/
structure ActionContent where
  action : Option String
  good : Option String := none
  requestId : Option String := none
  price : Option (Except String Py.Decimal) := none
  publicPrice : Option (Except String Py.Decimal) := none
  limitPrice : Option (Except String Py.Decimal) := none
  message : Option String := none
  requests : List RequestContent := []

/-! ### Of an object -/

/-- The price that a field's text stands for. -/
def priceAt (name : String) (fields : List (String × Json)) : Option (Except String Py.Decimal) :=
  (textAt name fields).map parseFixedDecimal

/-- The objects in the list of requests. -/
def requestsAt (fields : List (String × Json)) : List (List (String × Json)) :=
  match fields.lookup "requests" with
  | some (.list items) => items.filterMap fun item =>
    match item with
    | .object request => some request
    | _ => none
  | _ => []

/-- What the fields of a request say. -/
def requestContentAt (request : List (String × Json)) : RequestContent where
  targetIntentId := textAt "targetIntentId" request
  openingPrice := priceAt "openingPrice" request
  message := textAt "message" request

/-- What the fields of an action say. -/
def contentAt (fields : List (String × Json)) : ActionContent where
  action := textAt "action" fields
  good := textAt "good" fields
  requestId := textAt "requestId" fields
  price := priceAt "price" fields
  publicPrice := priceAt "publicPrice" fields
  limitPrice := priceAt "limitPrice" fields
  message := textAt "message" fields
  requests := (requestsAt fields).map requestContentAt

/-! ### Of an action -/

/-- What a price says. -/
def saidPrice (p : PositiveFixedDecimal) : Except String Py.Decimal :=
  .ok p.value

/-- What a request of the wire model says. -/
def saidRequest (c : NegotiationRequestCandidateV1) : RequestContent where
  targetIntentId := some c.targetIntentId
  openingPrice := some (saidPrice c.openingPrice)
  message := some c.message.text

/-- What an order of the wire model says. -/
def saidOrder (name : String) (o : Order) : ActionContent where
  action := some name
  good := some o.good
  publicPrice := o.publicPrice.map saidPrice
  limitPrice := o.limitPrice.map saidPrice
  message := o.message.map (·.text)

/-- What an action of the wire model says. -/
def saidBy : Action → ActionContent
  | .buy o => saidOrder "buy" o
  | .sell o => saidOrder "sell" o
  | .pass => { action := some "pass" }
  | .propose price message =>
    { action := some "propose", price := some (saidPrice price), message := some message.text }
  | .accept => { action := some "accept" }
  | .reject message => { action := some "reject", message := message.map (·.text) }
  | .requestNegotiations l =>
    { action := some "request_negotiations", requests := l.requests.map saidRequest }
  | .engage requestId => { action := some "engage", requestId := some requestId }
  | .rejectAll message => { action := some "reject_all", message := message.map (·.text) }

/-- The wire model accepts an object as an action that says the same. -/
def AcceptedOnWire : Json → Prop
  | .object fields =>
    ∃ action, agentDrivenMarketAction (.object fields) = some action ∧
      saidBy action = contentAt fields
  | _ => False

/-! ### What the wire model asks besides -/

/-- The messages of an action. -/
def messagesIn (fields : List (String × Json)) : List String :=
  (textAt "message" fields).toList ++
    (requestsAt fields).flatMap fun request => (textAt "message" request).toList

/-- The ids of an action. -/
def identifiersIn (fields : List (String × Json)) : List String :=
  (textAt "requestId" fields).toList ++
    (requestsAt fields).flatMap fun request => (textAt "targetIntentId" request).toList

/-- Every message keeps a character after `str.strip`, and every id has at most 256 of them. -/
def WireFit (fields : List (String × Json)) : Prop :=
  (∀ message ∈ messagesIn fields, Py.strip message.toList ≠ []) ∧
    ∀ id ∈ identifiersIn fields, id.length ≤ 256

instance (fields : List (String × Json)) : Decidable (WireFit fields) :=
  inferInstanceAs (Decidable (_ ∧ _))

/-- The fields `encoding/json` reads from an answer, before they are checked. -/
def answerFields (runtime : Runtime) (taskKind : TaskKind) (raw : Go.Bytes) :
    Except ActionError (List (String × Json)) := do
  let (_, _, decoded) ← decodeAction taskKind (← normalize runtime taskKind raw)
  return decoded

end Arena402.Connector
