/-
The candidate actions an Agent runtime may return, and the decimals they carry.

`parseFixedDecimal` is the only way a price enters the system, so the wire types keep
the text they were parsed from as a proof: a price that no text parses to cannot be
built.  The same holds for the length and visibility of a public message and for the
size of an RFQ action.
-/
import Arena402.Lib.Decimal

namespace Arena402

open Py

def maxDecimalDigits : Nat := 38
def maxDecimalPlaces : Nat := 18
def maxPublicMessageLength : Nat := 100

/-- `^(?:0|[1-9][0-9]*)(?:\.[0-9]+)?$`, matched in full. -/
def fixedDecimalPattern (cs : List Char) : Bool :=
  let (int, rest) := cs.span Char.isDigit
  (int = ['0'] || (!int.isEmpty && int.head? ≠ some '0')) &&
    match rest with
    | [] => true
    | c :: frac => c = '.' && !frac.isEmpty && frac.all Char.isDigit

/-- `value.partition(".")`, without the separator. -/
def partitionPoint (cs : List Char) : List Char × List Char :=
  ((cs.takeWhile (· ≠ '.')), (cs.dropWhile (· ≠ '.')).tail)

/-- `_parse_fixed_decimal`, on the characters of its argument. -/
def parseFixedDecimalChars (cs : List Char) : Except String Decimal :=
  if !fixedDecimalPattern cs then
    .error "value must be a non-negative fixed-point decimal string"
  else
    let (integerPart, fractionalPart) := partitionPoint cs
    if maxDecimalDigits < integerPart.length + fractionalPart.length then
      .error "value must contain at most 38 decimal digits"
    else if cs.contains '.' && maxDecimalPlaces < fractionalPart.length then
      .error "value must contain at most 18 decimal places"
    else
      match Decimal.ofChars cs with
      | some (.finite false d) => .ok d
      | some _ => .error "value must be finite"
      | none => .error "value must be a valid fixed-point decimal"

/-- `_parse_fixed_decimal`: canonical fixed-point text, no sign and no exponent. -/
def parseFixedDecimal (value : String) : Except String Decimal :=
  parseFixedDecimalChars value.toList

/-- `_serialize_fixed_decimal`. -/
def serializeFixedDecimal (d : Decimal) : String :=
  String.ofList d.formatF

/-- A decimal some wire text parses to. -/
structure NonNegativeFixedDecimal where
  value : Decimal
  wire : ∃ text, parseFixedDecimal text = .ok value

/-- A wire decimal above zero. -/
structure PositiveFixedDecimal where
  value : Decimal
  wire : ∃ text, parseFixedDecimal text = .ok value
  pos : 0 < value.coeff

/-- A public message: 1 to 100 characters, not all of them blank. -/
structure PublicMessage where
  text : String
  minLength : 1 ≤ text.length
  maxLength : text.length ≤ maxPublicMessageLength
  visible : Py.strip text.toList ≠ []

/-- `OrderQuantity`, a literal. -/
def orderQuantity : Nat := 1

/-- The fields `BuyAction` and `SellAction` share. -/
structure Order where
  good : String
  limitPrice : Option PositiveFixedDecimal := none
  publicPrice : Option PositiveFixedDecimal := none
  message : Option PublicMessage := none

/-- The quantity of an order is the literal one. -/
def Order.quantity (_ : Order) : Nat :=
  orderQuantity

/-- One request for a negotiation. -/
structure NegotiationRequestCandidateV1 where
  targetIntentId : String
  openingPrice : PositiveFixedDecimal
  message : PublicMessage

def maxRfqPerActionV1 : Nat := 1

/-- The requests of one RFQ action: at least one, at most `maxRfqPerActionV1`, to
    distinct targets. -/
structure RequestList where
  requests : List NegotiationRequestCandidateV1
  minLength : 1 ≤ requests.length
  maxLength : requests.length ≤ maxRfqPerActionV1
  uniqueTargets : (requests.map (·.targetIntentId)).Nodup

/-- `AgentDrivenMarketActionV1`, discriminated by its `action` field. -/
inductive Action
  | buy (order : Order)
  | sell (order : Order)
  | pass
  | propose (price : PositiveFixedDecimal) (message : PublicMessage)
  | accept
  | reject (message : Option PublicMessage)
  | requestNegotiations (list : RequestList)
  | engage (requestId : String)
  | rejectAll (message : Option PublicMessage)

/-- The discriminator's wire text. -/
def Action.name : Action → String
  | .buy _ => "buy"
  | .sell _ => "sell"
  | .pass => "pass"
  | .propose .. => "propose"
  | .accept => "accept"
  | .reject _ => "reject"
  | .requestNegotiations _ => "request_negotiations"
  | .engage _ => "engage"
  | .rejectAll _ => "reject_all"

/-- The prices that an order names. -/
def Order.prices (o : Order) : List PositiveFixedDecimal :=
  o.limitPrice.toList ++ o.publicPrice.toList

/-- Every price an action carries: `limitPrice`, `publicPrice`, `price`, `openingPrice`. -/
def Action.prices : Action → List PositiveFixedDecimal
  | .buy o | .sell o => o.prices
  | .propose price _ => [price]
  | .requestNegotiations l => l.requests.map (·.openingPrice)
  | _ => []

/-- Every public message an action carries. -/
def Action.messages : Action → List PublicMessage
  | .buy o | .sell o => o.message.toList
  | .propose _ m => [m]
  | .reject m | .rejectAll m => m.toList
  | .requestNegotiations l => l.requests.map (·.message)
  | _ => []

/-! ### The same action with other messages -/

/-- The order with its public message replaced. -/
def Order.mapMessages (f : PublicMessage → PublicMessage) (o : Order) : Order :=
  { o with message := o.message.map f }

def NegotiationRequestCandidateV1.mapMessages (f : PublicMessage → PublicMessage)
    (c : NegotiationRequestCandidateV1) : NegotiationRequestCandidateV1 :=
  { c with message := f c.message }

def RequestList.mapMessages (f : PublicMessage → PublicMessage) (l : RequestList) :
    RequestList where
  requests := l.requests.map (·.mapMessages f)
  minLength := by
    rw [List.length_map]
    exact l.minLength
  maxLength := by
    rw [List.length_map]
    exact l.maxLength
  uniqueTargets := by
    rw [List.map_map]
    exact l.uniqueTargets

/-- The action with its public messages replaced. -/
def Action.mapMessages (f : PublicMessage → PublicMessage) : Action → Action
  | .buy o => .buy (o.mapMessages f)
  | .sell o => .sell (o.mapMessages f)
  | .propose price m => .propose price (f m)
  | .reject m => .reject (m.map f)
  | .requestNegotiations l => .requestNegotiations (l.mapMessages f)
  | .rejectAll m => .rejectAll (m.map f)
  | a => a

/-- Replacing no message changes nothing. -/
theorem Action.mapMessages_eq_self {f : PublicMessage → PublicMessage} {a : Action}
    (h : ∀ m ∈ a.messages, f m = m) : a.mapMessages f = a := by
  have hopt : ∀ o : Option PublicMessage, (∀ m ∈ o.toList, f m = m) → o.map f = o := by
    intro o ho
    cases o with
    | none => rfl
    | some m => exact congrArg some (ho m (by simp))
  cases a with
  | buy o => simp only [mapMessages, Order.mapMessages, hopt o.message h]
  | sell o => simp only [mapMessages, Order.mapMessages, hopt o.message h]
  | propose price m => simp only [mapMessages, h m (by simp [messages])]
  | reject m => simp only [mapMessages, hopt m h]
  | rejectAll m => simp only [mapMessages, hopt m h]
  | requestNegotiations l =>
      have hmap : l.requests.map (·.mapMessages f) = l.requests := by
        conv_rhs => rw [← List.map_id l.requests]
        refine List.map_congr_left fun c hc => ?_
        have hm : f c.message = c.message := h c.message (List.mem_map_of_mem hc)
        show ({ c with message := f c.message } : NegotiationRequestCandidateV1) = c
        rw [hm]
      simp only [mapMessages, RequestList.mapMessages, hmap]
  | _ => rfl

end Arena402
