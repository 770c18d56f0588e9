/-
The wire model of actions: which JSON objects `AgentDrivenMarketActionV1` accepts.

The models are strict: a key must be a field's alias or its Python name, a value must have the
JSON type of the field, and nothing is converted except a decimal from its text.  A validation
error is `none`.
-/
import Arena402.Contracts.Actions
import Arena402.Lib.Json

namespace Arena402

open Py (Json)

namespace Wire

/-! ### Fields -/

/-- The wire alias of a field and its Python name. -/
structure FieldName where
  wire : String
  name : String

/-- A field whose alias is its name. -/
def plain (name : String) : FieldName :=
  { wire := name, name }

/-- The members of a JSON object. -/
abbrev Fields := List (String × Json)

/-- The key a field is read from: `populate_by_name` allows the Python name. -/
def FieldName.key (f : FieldName) (fields : Fields) : String :=
  if (fields.lookup f.wire).isSome then f.wire else f.name

/-- The member under either name of the field; the wire name goes first. -/
def FieldName.get (f : FieldName) (fields : Fields) : Option Json :=
  fields.lookup (f.key fields)

/-- `extra="forbid"`: every key is the key of some field. -/
def noExtra (names : List FieldName) (fields : Fields) : Bool :=
  fields.all fun field => names.any fun f => f.key fields = field.1

/-- A field that must be there. -/
def required {α : Type} (f : FieldName) (read : Json → Option α) (fields : Fields) : Option α :=
  (f.get fields).bind read

/-- A field that may be `None` or absent. -/
def optional {α : Type} (f : FieldName) (read : Json → Option α) (fields : Fields) :
    Option (Option α) :=
  match f.get fields with
  | none | some .null => some none
  | some value => (read value).map some

/-! ### Values -/

/-- `^[A-Za-z0-9][A-Za-z0-9._:-]*$` -/
def identifierPattern (text : String) : Bool :=
  match text.toList with
  | [] => false
  | c :: rest =>
    c.isAlphanum && rest.all fun c => c.isAlphanum || c = '.' || c = '_' || c = ':' || c = '-'

/-- A `str` with `min_length=1`, a `max_length` and the identifier pattern. -/
def patternText (maxLength : Nat) : Json → Option String
  | .str text =>
    if 1 ≤ text.length ∧ text.length ≤ maxLength ∧ identifierPattern text = true then some text
    else none
  | _ => none

/-- A text that can name a good. -/
def goodId : Json → Option String :=
  patternText 128

/-- A text that can be an id. -/
def identifier : Json → Option String :=
  patternText 256

/-- `OrderQuantity`: the integer one. -/
def orderQuantityLiteral : Json → Option Unit
  | .int n => if n = orderQuantity then some () else none
  | _ => none

/-- A text that `_parse_fixed_decimal` takes, with `gt=0`. -/
def positiveOfText (text : String) : Option PositiveFixedDecimal :=
  match h : parseFixedDecimal text with
  | .ok value => if hpos : 0 < value.coeff then some ⟨value, ⟨text, h⟩, hpos⟩ else none
  | .error _ => none

/-- A price, which is written as a text. -/
def positiveFixedDecimal : Json → Option PositiveFixedDecimal
  | .str text => positiveOfText text
  | _ => none

/-- A `PublicMessage` that `reject_blank_message` lets pass. -/
def publicMessage : Json → Option PublicMessage
  | .str text =>
    if h : 1 ≤ text.length ∧ text.length ≤ maxPublicMessageLength ∧ Py.strip text.toList ≠ [] then
      some ⟨text, h.1, h.2.1, h.2.2⟩
    else none
  | _ => none

/-! ### Models -/

/-- The field that says which action it is. -/
def actionField : FieldName := plain "action"

/-- The quantity of an order, which may be left out. -/
def quantity (fields : Fields) : Option Unit :=
  match (plain "quantity").get fields with
  | none => some ()
  | some value => orderQuantityLiteral value

/-- The fields of `BuyAction` and `SellAction`. -/
def order (fields : Fields) : Option Order := do
  guard (noExtra [actionField, plain "good", plain "quantity", ⟨"limitPrice", "limit_price"⟩,
    ⟨"publicPrice", "public_price"⟩, plain "message"] fields)
  let good ← required (plain "good") goodId fields
  quantity fields
  let limitPrice ← optional ⟨"limitPrice", "limit_price"⟩ positiveFixedDecimal fields
  let publicPrice ← optional ⟨"publicPrice", "public_price"⟩ positiveFixedDecimal fields
  let message ← optional (plain "message") publicMessage fields
  return { good, limitPrice, publicPrice, message }

/-- `PassAction` and `AcceptAction` -/
def noFields (action : Action) (fields : Fields) : Option Action := do
  guard (noExtra [actionField] fields)
  return action

/-- The model of a proposal. -/
def propose (fields : Fields) : Option Action := do
  guard (noExtra [actionField, plain "price", plain "message"] fields)
  let price ← required (plain "price") positiveFixedDecimal fields
  let message ← required (plain "message") publicMessage fields
  return .propose price message

/-- `RejectAction` and `RejectAllRequestsActionV1` -/
def optionalMessage (action : Option PublicMessage → Action) (fields : Fields) :
    Option Action := do
  guard (noExtra [actionField, plain "message"] fields)
  let message ← optional (plain "message") publicMessage fields
  return action message

/-- `NegotiationRequestCandidateV1` -/
def requestCandidate : Json → Option NegotiationRequestCandidateV1
  | .object fields => do
    guard (noExtra [⟨"targetIntentId", "target_intent_id"⟩, ⟨"openingPrice", "opening_price"⟩,
      plain "message"] fields)
    let targetIntentId ← required ⟨"targetIntentId", "target_intent_id"⟩ identifier fields
    let openingPrice ← required ⟨"openingPrice", "opening_price"⟩ positiveFixedDecimal fields
    let message ← required (plain "message") publicMessage fields
    return { targetIntentId, openingPrice, message }
  | _ => none

/-- `min_length=1`, `max_length=MAX_RFQ_PER_ACTION_V1` and `require_unique_targets`. -/
def requestsOf (requests : List NegotiationRequestCandidateV1) : Option RequestList :=
  if h : 1 ≤ requests.length ∧ requests.length ≤ maxRfqPerActionV1 ∧
      (requests.map (·.targetIntentId)).Nodup then
    some ⟨requests, h.1, h.2.1, h.2.2⟩
  else none

/-- `RequestNegotiationsActionV1.requests` -/
def requestList : Json → Option RequestList
  | .list items => (items.mapM requestCandidate).bind requestsOf
  | _ => none

/-- The model of the requests of an RFQ. -/
def requestNegotiations (fields : Fields) : Option Action := do
  guard (noExtra [actionField, plain "requests"] fields)
  let requests ← required (plain "requests") requestList fields
  return .requestNegotiations requests

/-- The model of a selection. -/
def engage (fields : Fields) : Option Action := do
  guard (noExtra [actionField, ⟨"requestId", "request_id"⟩] fields)
  let requestId ← required ⟨"requestId", "request_id"⟩ identifier fields
  return .engage requestId

/-- The model of a discriminator. -/
def model : String → Option (Fields → Option Action)
  | "buy" => some fun fields => (order fields).map .buy
  | "sell" => some fun fields => (order fields).map .sell
  | "pass" => some (noFields .pass)
  | "request_negotiations" => some requestNegotiations
  | "engage" => some engage
  | "reject_all" => some (optionalMessage .rejectAll)
  | "propose" => some propose
  | "accept" => some (noFields .accept)
  | "reject" => some (optionalMessage .reject)
  | _ => none

end Wire

/-- `AgentDrivenMarketActionV1`, discriminated by `action`. -/
def agentDrivenMarketAction : Json → Option Action
  | .object fields =>
    match fields.lookup "action" with
    | some (.str tag) => (Wire.model tag).bind fun read => read fields
    | _ => none
  | _ => none

end Arena402
