/-
The x402 challenge of a settlement, and the check of a payment payload against it.

A payload is the JSON object of the `PAYMENT-SIGNATURE` header.  It has to repeat the
challenge's resource and requirement, carry a signature and an authorization for exactly
the frozen payment, and be valid now for at most ten minutes.
-/
import Arena402.Payments.Models

namespace Arena402.Payments

open Py

/-- The network name of the terms' chain. -/
def SettlementTerms.network (terms : SettlementTerms) : String :=
  "eip155:" ++ toString terms.chainId

/-- `payment_required(terms)["resource"]`. -/
def requiredResource (terms : SettlementTerms) : Value :=
  .obj [("url", .str terms.resourceUrl),
    ("description", .str ("Arena 402 settlement " ++ terms.settlementIntentId)),
    ("mimeType", .str "application/json")]

/-- `payment_required(terms)["accepts"][0]`. -/
def requirement (terms : SettlementTerms) : Value :=
  .obj [("scheme", .str "exact"),
    ("network", .str terms.network),
    ("asset", .str terms.tokenAddress),
    ("amount", .str (toString terms.amountAtomic)),
    ("payTo", .str terms.payee),
    ("maxTimeoutSeconds", .int 600),
    ("extra", .obj [("name", .str terms.tokenEip712Name),
      ("version", .str terms.tokenEip712Version),
      ("arena402IntentHash", .str terms.intentHash),
      ("arena402SettlementIntentId", .str terms.settlementIntentId)])]

/-- `_same_json`: both mappings, with the same canonical dump. -/
def sameJsonObject (left right : Value) : Bool :=
  match left, right with
  | .dict _, .dict _ => Value.sameJson left right
  | _, _ => false

/-- `value == 2`. -/
def isTwo : Value → Bool
  | .int n => n = 2
  | .float q => q = 2
  | _ => false

/-- `int(value)`; `none` is the `TypeError` or `ValueError`. -/
def pyInt : Value → Option Int
  | .int n => some n
  | .bool b => some (if b then 1 else 0)
  | .float q => some (q.num.tdiv q.den)
  | .str s => parseInt s.toList
  | _ => none

/-- `"0x" + terms.intent_hash.removeprefix("sha256:")`. -/
def SettlementTerms.expectedNonce (terms : SettlementTerms) : String :=
  let cs := terms.intentHash.toList
  "0x" ++ String.ofList (if "sha256:".toList.isPrefixOf cs then cs.drop 7 else cs)

/-- An authorization field whose case does not matter. -/
def matchesIgnoringCase (supplied : Value) (expected : String) : Bool :=
  match supplied with
  | .str s => lower s = lower expected
  | _ => false

/-- The comparison of the authorization with the frozen payment. -/
def authorizationMatches (terms : SettlementTerms) (authorization : List (Key × Value)) : Bool :=
  matchesIgnoringCase (.get authorization "from") terms.payer &&
    matchesIgnoringCase (.get authorization "to") terms.payee &&
    (match Value.get authorization "value" with
      | .str s => s = toString terms.amountAtomic
      | _ => false) &&
    matchesIgnoringCase (.get authorization "nonce") terms.expectedNonce

/-- The time window of an authorization, against `int(now.timestamp())`. -/
def authorizationWindowError (authorization : List (Key × Value)) (now : UtcDateTime) :
    Option String :=
  match pyInt (.get authorization "validAfter"), pyInt (.get authorization "validBefore") with
  | some validAfter, some validBefore =>
    let timestamp := now.tdiv 1000000
    if timestamp < validAfter || validBefore ≤ timestamp then
      some "authorization_outside_valid_window"
    else if 600 < validBefore - timestamp then some "authorization_window_too_long"
    else none
  | _, _ => some "invalid_authorization_window"

/-- `validate_payment_payload`: the code of the `X402ProtocolError`, or the nonce of the
    authorization that passed. -/
def validatePaymentPayload (terms : SettlementTerms) (payload : List (Key × Value))
    (now : UtcDateTime) : Except String String :=
  if !isTwo (.get payload "x402Version") then .error "unsupported_x402_version"
  else if !sameJsonObject (.get payload "resource") (requiredResource terms) then
    .error "payment_resource_mismatch"
  else if !sameJsonObject (.get payload "accepted") (requirement terms) then
    .error "payment_requirement_mismatch"
  else
    match Value.get payload "payload" with
    | .dict scheme =>
      match Value.get scheme "signature", Value.get scheme "authorization" with
      | .str signature, .dict authorization =>
        if !hexPattern 130 signature then .error "invalid_payment_payload"
        else if !authorizationMatches terms authorization then
          .error "authorization_intent_mismatch"
        else
          match authorizationWindowError authorization now with
          | some e => .error e
          | none =>
            match Value.get authorization "nonce" with
            | .str nonce => .ok nonce
            | _ => .error "authorization_intent_mismatch"
      | _, _ => .error "invalid_payment_payload"
    | _ => .error "invalid_payment_payload"

end Arena402.Payments
