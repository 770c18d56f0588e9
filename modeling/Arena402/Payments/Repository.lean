/-
`InMemoryPaymentRepository`: mandates, their budgets and one reservation per intent.

Every operation holds the repository's lock from its first read to its last write, so it
is one atomic step: a function of the state that returns the new state or the error it
raises.  The operations on reservations raise before they write anything, so for them an
error means an unchanged state.
-/
import Arena402.Lib.Run
import Arena402.Payments.Models

namespace Arena402.Payments

open Py

/-- What an operation may raise: `MandateRejected`, or the `ValueError` of a dataclass. -/
inductive PaymentError
  | mandateRejected (code : String)
  | valueError (code : String)
deriving DecidableEq, Repr

/-- The tables of the repository that payments use. -/
structure Repository where
  mandates : Dict String PaymentMandate := []
  reservations : Dict String PaymentReservation := []
  reservationsByIntent : Dict String String := []
deriving DecidableEq

/-- A mandate of the same user and game, unrevoked, under another id. -/
def competes (m other : PaymentMandate) : Bool :=
  other.userId = m.userId && other.gameId = m.gameId && other.revokedAt.isNone &&
    other.mandateId ≠ m.mandateId

/-- `_validate_mandate`: the first reason the mandate does not cover the terms. -/
def validateMandate (m : PaymentMandate) (terms : SettlementTerms) (now : UtcDateTime) :
    Option String :=
  if m.revokedAt.isSome then some "mandate_revoked"
  else if now < m.validFrom then some "mandate_not_yet_valid"
  else if m.expiresAt ≤ now then some "mandate_expired"
  else if m.gameId ≠ terms.gameId then some "mandate_game_mismatch"
  else if m.chainId ≠ terms.chainId then some "mandate_chain_mismatch"
  else if m.tokenAddress ≠ terms.tokenAddress then some "mandate_token_mismatch"
  else if !m.allowedPayees.contains terms.payee then some "mandate_payee_not_allowed"
  else if m.limits.maxPerPaymentAtomic < terms.amountAtomic then
    some "mandate_per_payment_limit"
  else if m.limits.maxCumulativeAtomic < m.reservedAtomic + m.consumedAtomic + terms.amountAtomic
    then some "mandate_cumulative_limit"
  else none

/-- The object whose canonical JSON identifies a reservation. -/
structure ReservationKey where
  mandateId : String
  settlementIntentId : String
  intentHash : String
deriving DecidableEq

namespace Repository

/-- `_reservation`. -/
def reservation (s : Repository) (reservationId : String) :
    Except PaymentError PaymentReservation :=
  match s.reservations.get reservationId with
  | none => .error (.mandateRejected "reservation_not_found")
  | some r => .ok r

/-- The revocation of expired competitors at the start of `create_mandate`. -/
def revokeExpired (s : Repository) (m : PaymentMandate) (observedAt : UtcDateTime) : Repository :=
  { s with
    mandates := s.mandates.map fun e =>
      if competes m e.2 && e.2.expiresAt ≤ observedAt then
        (e.1, { e.2 with revokedAt := some observedAt })
      else e }

/-- `create_mandate`.  The expired competitors are revoked before the call decides whether
    to raise, so the state is part of the result either way. -/
def createMandate (s : Repository) (m : PaymentMandate) (observedAt : UtcDateTime) :
    Repository × Except PaymentError PaymentMandate :=
  if (s.mandates.get m.mandateId).any (· ≠ m) then
    (s, .error (.mandateRejected "mandate_conflict"))
  else
    let s' := s.revokeExpired m observedAt
    if s'.mandates.values.any (competes m) then
      (s', .error (.mandateRejected "active_game_mandate_exists"))
    else ({ s' with mandates := s'.mandates.set m.mandateId m }, .ok m)

/-- `revoke_mandate`. -/
def revokeMandate (s : Repository) (mandateId userId : String) (now : UtcDateTime) :
    Except PaymentError (Repository × PaymentMandate) :=
  match s.mandates.get mandateId with
  | none => .error (.mandateRejected "mandate_not_found")
  | some m =>
    if m.userId ≠ userId then .error (.mandateRejected "mandate_not_found")
    else if m.revokedAt.isSome then .ok (s, m)
    else
      let m' := { m with revokedAt := some now }
      .ok ({ s with mandates := s.mandates.set mandateId m' }, m')

/-- Replace one reservation and move the accounting of its mandate. -/
def finalize (s : Repository) (reservationId : String) (r : PaymentReservation)
    (reservedDelta consumedDelta : Int) :
    Except PaymentError (Repository × PaymentReservation) :=
  match r.construct with
  | .error e => .error (.valueError e)
  | .ok r' =>
    match s.mandates.get r.mandateId with
    | none => .error (.valueError r.mandateId)
    | some m =>
      match m.withAccounting (m.reservedAtomic + reservedDelta)
          (m.consumedAtomic + consumedDelta) with
      | .error e => .error (.valueError e)
      | .ok m' =>
        .ok ({ s with
          mandates := s.mandates.set m.mandateId m'
          reservations := s.reservations.set reservationId r' }, r')

section Reserve

-- `_identifier`, the SHA-256 of the canonical JSON.
variable (identifier : ReservationKey → String)

/-- The existing reservation of an intent is returned only to a call for the same payment. -/
def reserveExisting (mandateId : String) (terms : SettlementTerms) (r : PaymentReservation) :
    Except PaymentError PaymentReservation :=
  if r.mandateId ≠ mandateId || r.intentHash ≠ terms.intentHash ||
      r.amountAtomic ≠ terms.amountAtomic || r.payee ≠ terms.payee then
    .error (.mandateRejected "reservation_intent_conflict")
  else .ok r

/-- A new reservation of an intent, in status `reserved`. -/
def newReservation (mandateId : String) (terms : SettlementTerms) (now : UtcDateTime) :
    PaymentReservation where
  reservationId := identifier ⟨mandateId, terms.settlementIntentId, terms.intentHash⟩
  mandateId := mandateId
  settlementIntentId := terms.settlementIntentId
  intentHash := terms.intentHash
  amountAtomic := terms.amountAtomic
  payee := terms.payee
  status := .reserved
  reservedAt := now

/-- `reserve_mandate`. -/
def reserveMandate (s : Repository) (mandateId : String) (terms : SettlementTerms)
    (now : UtcDateTime) : Except PaymentError (Repository × PaymentReservation) :=
  match s.reservationsByIntent.get terms.settlementIntentId with
  | some existingId =>
    match s.reservations.get existingId with
    | none => .error (.valueError existingId)
    | some existing => (reserveExisting mandateId terms existing).map fun r => (s, r)
  | none =>
    match s.mandates.get mandateId with
    | none => .error (.mandateRejected "mandate_not_found")
    | some m =>
      match validateMandate m terms now with
      | some e => .error (.mandateRejected e)
      | none =>
        match (newReservation identifier mandateId terms now).construct with
        | .error e => .error (.valueError e)
        | .ok r =>
          match m.withAccounting (m.reservedAtomic + terms.amountAtomic) m.consumedAtomic with
          | .error e => .error (.valueError e)
          | .ok m' =>
            .ok ({ s with
              mandates := s.mandates.set mandateId m'
              reservations := s.reservations.set r.reservationId r
              reservationsByIntent :=
                s.reservationsByIntent.set terms.settlementIntentId r.reservationId }, r)

end Reserve

/-- `consume_reservation`. -/
def consumeReservation (s : Repository) (reservationId txHash : String) (now : UtcDateTime) :
    Except PaymentError (Repository × PaymentReservation) :=
  match s.reservation reservationId with
  | .error e => .error e
  | .ok r =>
    if r.status = .consumed then
      if r.txHash ≠ some (lower txHash) then .error (.mandateRejected "reservation_tx_conflict")
      else .ok (s, r)
    else if r.status = .released then .error (.mandateRejected "reservation_not_consumable")
    else
      s.finalize reservationId
        { r with
          status := .consumed
          finalizedAt := some now
          txHash := some (lower txHash) }
        (-r.amountAtomic) r.amountAtomic

/-- `submit_reservation`. -/
def submitReservation (s : Repository) (reservationId txHash : String) :
    Except PaymentError (Repository × PaymentReservation) :=
  match s.reservation reservationId with
  | .error e => .error e
  | .ok r =>
    if r.status = .submitted || r.status = .consumed then
      if r.txHash ≠ some (lower txHash) then .error (.mandateRejected "reservation_tx_conflict")
      else .ok (s, r)
    else if r.status ≠ .reserved then .error (.mandateRejected "reservation_not_submittable")
    else
      match PaymentReservation.construct
          { r with status := .submitted, txHash := some (lower txHash) } with
      | .error e => .error (.valueError e)
      | .ok r' => .ok ({ s with reservations := s.reservations.set reservationId r' }, r')

/-- `release_reservation`. -/
def releaseReservation (s : Repository) (reservationId reason : String) (now : UtcDateTime) :
    Except PaymentError (Repository × PaymentReservation) :=
  if reason = "" || 100 < reason.length then .error (.mandateRejected "invalid_release_reason")
  else
    match s.reservation reservationId with
    | .error e => .error e
    | .ok r =>
      if r.status = .released then
        if r.releaseReason ≠ some reason then
          .error (.mandateRejected "reservation_release_conflict")
        else .ok (s, r)
      else if r.status ≠ .reserved then .error (.mandateRejected "reservation_not_releasable")
      else
        s.finalize reservationId
          { r with
            status := .released
            finalizedAt := some now
            releaseReason := some reason }
          (-r.amountAtomic) 0

/-- The reservation an intent has, if any. -/
def reservationFor (s : Repository) (intentId : String) : Option PaymentReservation :=
  (s.reservationsByIntent.get intentId).bind s.reservations.get

/-! ### Any sequence of operations -/

/-- One call of the repository.  A mandate can only be passed once its constructor has
    accepted it. -/
inductive Operation
  | create (m : PaymentMandate) (accepted : m.accountingError = none) (observedAt : UtcDateTime)
  | revoke (mandateId userId : String) (now : UtcDateTime)
  | reserve (mandateId : String) (terms : SettlementTerms) (now : UtcDateTime)
  | consume (reservationId txHash : String) (now : UtcDateTime)
  | submit (reservationId txHash : String)
  | release (reservationId reason : String) (now : UtcDateTime)

/-- The state an operation that does not raise leaves behind. -/
def stateOr {α : Type} (s : Repository) : Except PaymentError (Repository × α) → Repository
  | .ok (s', _) => s'
  | .error _ => s

/-- The state after an operation, whether it raised or not. -/
def apply (identifier : ReservationKey → String) (s : Repository) : Operation → Repository
  | .create m _ observedAt => (s.createMandate m observedAt).1
  | .revoke mandateId userId now => s.stateOr (s.revokeMandate mandateId userId now)
  | .reserve mandateId terms now => s.stateOr (s.reserveMandate identifier mandateId terms now)
  | .consume id tx now => s.stateOr (s.consumeReservation id tx now)
  | .submit id tx => s.stateOr (s.submitReservation id tx)
  | .release id reason now => s.stateOr (s.releaseReservation id reason now)

/-- The states that operations lead to from an empty repository. -/
def Reachable (identifier : ReservationKey → String) (s : Repository) : Prop :=
  Trans.Run (fun s op => some (s.apply identifier op)) (fun _ _ => True) {} s

end Repository

end Arena402.Payments
