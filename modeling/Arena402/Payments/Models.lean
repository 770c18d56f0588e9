/-
Immutable payment facts: mandates, settlement terms and reservations.

`construct` is what a dataclass's `__post_init__` does: it normalises addresses and
raises on a value the constructor refuses.  `replace` builds a new value the same way,
so every update of a mandate or a reservation goes through it.
-/
import Arena402.Contracts.Value
import Arena402.Lib.Dict

namespace Arena402.Payments

/-- One hexadecimal digit, in either case. -/
def isHex (c : Char) : Bool :=
  c.isDigit || ('a' ≤ c && c ≤ 'f') || ('A' ≤ c && c ≤ 'F')

/-- `0x` followed by exactly `n` hexadecimal digits. -/
def hexPattern (n : Nat) (s : String) : Bool :=
  match s.toList with
  | '0' :: 'x' :: rest => rest.length = n && rest.all isHex
  | _ => false

/-- `_ADDRESS`. -/
def addressPattern : String → Bool :=
  hexPattern 40

/-- What `_address` returns: a well-formed address in lower case. -/
def IsAddress (s : String) : Prop :=
  addressPattern s = true ∧ Py.lower s = s

instance (s : String) : Decidable (IsAddress s) :=
  inferInstanceAs (Decidable (_ ∧ _))

/-- `_TX_HASH`. -/
def txHashPattern : String → Bool :=
  hexPattern 64

/-- What a mandate allows. -/
structure MandateLimits where
  maxPerPaymentAtomic : Nat
  maxCumulativeAtomic : Nat
deriving DecidableEq, Repr

/-- A mandate of a wallet for a game. -/
structure PaymentMandate where
  mandateId : String
  userId : String
  walletId : String
  gameId : String
  chainId : Nat
  tokenAddress : String
  limits : MandateLimits
  allowedPayees : List String
  validFrom : UtcDateTime
  expiresAt : UtcDateTime
  reservedAtomic : Int := 0
  consumedAtomic : Int := 0
  revokedAt : Option UtcDateTime := none
  allowedPayeeRule : Option String := none
  joinAuthorizationId : Option String := none
deriving DecidableEq, Repr

/-- The accounting checks of `PaymentMandate.__post_init__`. -/
def PaymentMandate.accountingError (m : PaymentMandate) : Option String :=
  if m.reservedAtomic < 0 || m.consumedAtomic < 0 then some "invalid_mandate_accounting"
  else if m.limits.maxCumulativeAtomic < m.reservedAtomic + m.consumedAtomic then
    some "mandate_cumulative_limit"
  else none

/-- `with_accounting`: `replace` runs `__post_init__` again, whose other checks read
    fields that do not change. -/
def PaymentMandate.withAccounting (m : PaymentMandate) (reserved consumed : Int) :
    Except String PaymentMandate :=
  let m' := { m with reservedAtomic := reserved, consumedAtomic := consumed }
  match m'.accountingError with
  | some e => .error e
  | none => .ok m'

/-- The frozen economic facts of one intent.  The address fields hold what `_address`
    returned, and construction refuses the rest. -/
structure SettlementTerms where
  settlementIntentId : String
  intentHash : String
  gameId : String
  payer : String
  payee : String
  chainId : Nat
  tokenAddress : String
  tokenSymbol : String
  tokenDecimals : Nat
  tokenEip712Name : String
  tokenEip712Version : String
  amountAtomic : Nat
  resourceUrl : String
  payerAddress : IsAddress payer
  payeeAddress : IsAddress payee
  tokenAddressValid : IsAddress tokenAddress
  partiesDiffer : payer ≠ payee
  chainPositive : 0 < chainId
  amountPositive : 0 < amountAtomic

/-- Where a reservation is. -/
inductive ReservationStatus
  | reserved
  | submitted
  | consumed
  | released
deriving DecidableEq, Repr

/-- A part of a mandate, kept for one settlement. -/
structure PaymentReservation where
  reservationId : String
  mandateId : String
  settlementIntentId : String
  intentHash : String
  amountAtomic : Nat
  payee : String
  status : ReservationStatus
  reservedAt : UtcDateTime
  finalizedAt : Option UtcDateTime := none
  txHash : Option String := none
  releaseReason : Option String := none
deriving DecidableEq, Repr

/-- The checks of `PaymentReservation.__post_init__` after the address. -/
def PaymentReservation.shapeError (r : PaymentReservation) : Option String :=
  if r.txHash.any fun tx => !txHashPattern tx then some "invalid_transaction_hash"
  else
    match r.status with
    | .reserved =>
      if r.finalizedAt.isSome || r.txHash.isSome || r.releaseReason.isSome then
        some "invalid_reserved_payment"
      else none
    | .submitted =>
      if r.finalizedAt.isSome || r.txHash.isNone || r.releaseReason.isSome then
        some "invalid_submitted_payment"
      else none
    | .consumed =>
      if r.finalizedAt.isNone || r.txHash.isNone || r.releaseReason.isSome then
        some "invalid_consumed_payment"
      else none
    | .released =>
      if r.finalizedAt.isNone || r.txHash.isSome || r.releaseReason.all (· = "") then
        some "invalid_released_payment"
      else none

/-- Construction of a reservation. -/
def PaymentReservation.construct (r : PaymentReservation) : Except String PaymentReservation :=
  if !addressPattern r.payee then .error "invalid_evm_address"
  else
    let r' := { r with payee := Py.lower r.payee }
    match r'.shapeError with
    | some e => .error e
    | none => .ok r'

end Arena402.Payments
